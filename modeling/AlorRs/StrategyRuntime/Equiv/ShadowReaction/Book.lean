import AlorRs.StrategyRuntime.ShadowReaction.Basic

/-!
# The book of a reaction model

What both models come to: an order that is decided at the close of a bar is filled at the open of the
next one, and the fills are round trips, of which the last may still be open.  `Sound.execute` and
`Sound.place` are what the steps of a model do to its book.
-/

namespace AlorRs.ShadowReaction

structure Order where
  isExit : Bool
  owner : Owner
  side : Side
  signal : NaiveDateTime
  time : NaiveDateTime
deriving DecidableEq, Repr

structure Fill where
  order : Order
  price : ℚ
deriving DecidableEq, Repr

/-- An entry and the exit that closes it. -/
structure Trip where
  owner : Owner
  side : Side
  entrySignal : NaiveDateTime
  entryTime : NaiveDateTime
  entryPrice : ℚ
  exitSignal : NaiveDateTime
  exitTime : NaiveDateTime
  exitPrice : ℚ
deriving DecidableEq, Repr

namespace Trip

def entry (trip : Trip) : Fill :=
  ⟨⟨false, trip.owner, trip.side, trip.entrySignal, trip.entryTime⟩, trip.entryPrice⟩

def exit (trip : Trip) : Fill :=
  ⟨⟨true, trip.owner, trip.side, trip.exitSignal, trip.exitTime⟩, trip.exitPrice⟩

def fills (trip : Trip) : List Fill := [trip.entry, trip.exit]

def holder (trip : Trip) : Owner × Side := (trip.owner, trip.side)

end Trip

structure Fill.FilledAfter (bars : List Bar) (i : ℕ) (fill : Fill) : Prop where
  signal : ∃ b, bars[i]? = some b ∧ fill.order.signal = b.tsLocal
  filled : ∃ b, bars[i + 1]? = some b ∧ fill.order.time = b.tsLocal ∧ fill.price = b.open

/-- A trip whose fills are at the opens of bars, the exit later than the entry. -/
def Trip.IsRound (bars : List Bar) (trip : Trip) : Prop :=
  ∃ i j, i < j ∧ trip.entry.FilledAfter bars i ∧ trip.exit.FilledAfter bars j

/-- The round trips, the entry that is open, all fills, and the order that is to be filled next. -/
structure Book where
  trips : List Trip
  opened : Option Fill
  fills : List Fill
  pending : Option Order
deriving DecidableEq, Repr

def Fill.close (entry exit : Fill) : Trip where
  owner := entry.order.owner
  side := entry.order.side
  entrySignal := entry.order.signal
  entryTime := entry.order.time
  entryPrice := entry.price
  exitSignal := exit.order.signal
  exitTime := exit.order.time
  exitPrice := exit.price

namespace Book

def empty : Book := ⟨[], none, [], none⟩

variable (book : Book)

def execute (price : ℚ) : Book :=
  match book.pending with
  | none => book
  | some order =>
    { trips :=
        if order.isExit then book.trips ++ (book.opened.map (·.close ⟨order, price⟩)).toList
        else book.trips
      opened := if order.isExit then none else some ⟨order, price⟩
      fills := book.fills ++ [⟨order, price⟩]
      pending := none }

def place (order : Order) : Book := { book with pending := some order }

def holders : List (Owner × Side) :=
  book.trips.map Trip.holder ++ (book.opened.map fun fill => (fill.order.owner, fill.order.side)).toList

/-- BO held each side as often as its mark says. -/
structure Marked (long short : Bool) (book : Book) : Prop where
  long : book.holders.count (.bo, .long) = if long then 1 else 0
  short : book.holders.count (.bo, .short) = if short then 1 else 0

/-- BO may still be entered on a side; MR needs no mark. -/
def Unmarked (long short : Bool) : Owner → Side → Prop
  | .mr, _ => True
  | .bo, .long => long = false
  | .bo, .short => short = false

/-- An order that fits the book: an entry when no position is open, and an exit of the position that
is. -/
def Fits (order : Order) : Prop :=
  if order.isExit then
    ∃ fill ∈ book.opened, fill.order.owner = order.owner ∧ fill.order.side = order.side
  else book.opened = none

structure Sound (bars : List Bar) (book : Book) : Prop where
  fills : book.fills = book.trips.flatMap Trip.fills ++ book.opened.toList
  trips : ∀ trip ∈ book.trips, trip.IsRound bars
  opened : ∀ fill ∈ book.opened,
    fill.order.isExit = false ∧ ∃ i, i + 1 < bars.length ∧ fill.FilledAfter bars i
  pending : ∀ order ∈ book.pending, book.Fits order ∧
    ∃ b, bars.getLast? = some b ∧ order.signal = b.tsLocal ∧ order.time = b.boundary

/-- What the book of a session comes to: round trips, of which BO has at most one on each side. -/
structure Closed (bars : List Bar) (book : Book) : Prop where
  fills : book.fills = book.trips.flatMap Trip.fills
  trips : ∀ trip ∈ book.trips, trip.IsRound bars
  opened : book.opened = none
  pending : book.pending = none
  long : (book.trips.map Trip.holder).count (.bo, .long) ≤ 1
  short : (book.trips.map Trip.holder).count (.bo, .short) ≤ 1

end Book

variable {bars later : List Bar} {i : ℕ} {fill : Fill} {trip : Trip} {book : Book} {order : Order}
  {b : Bar}

theorem Fill.FilledAfter.append (h : fill.FilledAfter bars i) (later : List Bar) :
    fill.FilledAfter (bars ++ later) i := by
  obtain ⟨⟨b, hb, hsignal⟩, ⟨b', hb', hfilled⟩⟩ := h
  have hlt := (List.getElem?_eq_some_iff.mp hb).1
  have hlt' := (List.getElem?_eq_some_iff.mp hb').1
  exact ⟨⟨b, by rw [List.getElem?_append_left hlt, hb], hsignal⟩,
    ⟨b', by rw [List.getElem?_append_left hlt', hb'], hfilled⟩⟩

theorem Trip.IsRound.append (h : trip.IsRound bars) (later : List Bar) :
    trip.IsRound (bars ++ later) := by
  obtain ⟨i, j, hlt, hentry, hexit⟩ := h
  exact ⟨i, j, hlt, hentry.append later, hexit.append later⟩

namespace Book

theorem Sound.empty : Sound [] empty :=
  ⟨rfl, fun _ h => absurd h List.not_mem_nil, fun _ h => (nomatch h), fun _ h => (nomatch h)⟩

theorem Sound.skip (h : Sound bars book) (hpending : book.pending = none) (b : Bar) :
    Sound (bars ++ [b]) book where
  fills := h.fills
  trips trip htrip := (h.trips trip htrip).append _
  opened := by
    intro fill hfill
    obtain ⟨hentry, i, hlt, hfilled⟩ := h.opened fill hfill
    exact ⟨hentry, i, by rw [List.length_append]; omega, hfilled.append _⟩
  pending := by
    intro order horder
    rw [hpending] at horder
    exact (nomatch horder)

/-- The order that was placed at the last bar is filled at the open of the next one. -/
theorem Sound.filled (h : Sound bars book) (horder : book.pending = some order)
    (htime : order.time = b.tsLocal) :
    (⟨order, b.open⟩ : Fill).FilledAfter (bars ++ [b]) (bars.length - 1) ∧ bars.length ≠ 0 := by
  obtain ⟨-, last, hlast, hsignal, -⟩ := h.pending order horder
  have hne : bars ≠ [] := by
    rintro rfl
    exact (nomatch hlast)
  have hpos := List.length_pos_iff.mpr hne
  refine ⟨⟨⟨last, ?_, hsignal⟩, ⟨b, ?_, htime, rfl⟩⟩, hpos.ne'⟩
  · rw [List.getElem?_append_left (by omega), ← List.getLast?_eq_getElem?]
    exact hlast
  · rw [show bars.length - 1 + 1 = bars.length by omega]
    exact List.getElem?_concat_length

theorem execute_of_none (h : book.pending = none) (price : ℚ) : book.execute price = book := by
  unfold execute
  rw [h]

theorem execute_of_entry (h : book.pending = some order) (hentry : order.isExit = false) (price : ℚ) :
    book.execute price = { book with
        opened := some ⟨order, price⟩
        fills := book.fills ++ [⟨order, price⟩]
        pending := none } := by
  unfold execute
  rw [h]
  dsimp only
  rw [hentry]
  rfl

theorem execute_of_exit (h : book.pending = some order) (hexit : order.isExit = true)
    (hopened : book.opened = some fill) (price : ℚ) :
    book.execute price =
      { trips := book.trips ++ [fill.close ⟨order, price⟩]
        opened := none
        fills := book.fills ++ [⟨order, price⟩]
        pending := none } := by
  unfold execute
  rw [h]
  dsimp only
  rw [hexit, hopened]
  rfl

/-- An entry and an exit of its owner and side are the fills of their trip. -/
theorem fills_close {exit : Fill} (hentry : fill.order.isExit = false) (hexit : exit.order.isExit = true)
    (howner : fill.order.owner = exit.order.owner) (hside : fill.order.side = exit.order.side) :
    (fill.close exit).fills = [fill, exit] := by
  obtain ⟨⟨isExit, owner, side, signal, time⟩, price⟩ := fill
  obtain ⟨⟨isExit', owner', side', signal', time'⟩, price'⟩ := exit
  obtain rfl : isExit = false := hentry
  obtain rfl : isExit' = true := hexit
  obtain rfl : owner = owner' := howner
  obtain rfl : side = side' := hside
  rfl

theorem Sound.execute (h : Sound bars book) (htime : ∀ order ∈ book.pending, order.time = b.tsLocal) :
    Sound (bars ++ [b]) (book.execute b.open) ∧ (book.execute b.open).pending = none := by
  cases hpending : book.pending with
  | none =>
    rw [execute_of_none hpending]
    exact ⟨h.skip hpending b, hpending⟩
  | some order =>
    obtain ⟨hfits, -⟩ := h.pending order hpending
    obtain ⟨hfilled, hne⟩ := h.filled hpending (htime order hpending)
    unfold Fits at hfits
    split_ifs at hfits with hexit
    · obtain ⟨fill, hopened, howner, hside⟩ := hfits
      rw [execute_of_exit hpending hexit hopened]
      obtain ⟨hentry, i, hlt, hbefore⟩ := h.opened fill hopened
      have hfills : (fill.close ⟨order, b.open⟩).fills = [fill, ⟨order, b.open⟩] :=
        fills_close hentry hexit howner hside
      obtain ⟨hfirst, hsecond⟩ := List.cons.inj hfills
      refine ⟨⟨?_, ?_, fun _ hnone => (nomatch hnone), fun _ hnone => (nomatch hnone)⟩, rfl⟩
      · show book.fills ++ [_] = (book.trips ++ [_]).flatMap Trip.fills ++ []
        rw [h.fills, hopened, List.flatMap_append, List.flatMap_singleton, hfills, List.append_nil,
          List.append_assoc]
        rfl
      · intro trip htrip
        rcases List.mem_append.mp htrip with hold | hnew
        · exact (h.trips trip hold).append _
        · obtain rfl := List.mem_singleton.mp hnew
          refine ⟨i, bars.length - 1, by omega, ?_, ?_⟩
          · rw [hfirst]
            exact hbefore.append _
          · rw [(List.cons.inj hsecond).1]
            exact hfilled
    · have hentry : order.isExit = false := by simpa using hexit
      rw [execute_of_entry hpending hentry]
      refine ⟨⟨?_, fun trip htrip => (h.trips trip htrip).append _, ?_,
        fun _ hnone => (nomatch hnone)⟩, rfl⟩
      · show book.fills ++ [_] = book.trips.flatMap Trip.fills ++ [_]
        rw [h.fills, hfits]
        simp
      · rintro _ ⟨⟩
        refine ⟨hentry, bars.length - 1, ?_, hfilled⟩
        rw [List.length_append, List.length_singleton]
        omega

theorem holders_of_entry (hopened : book.opened = none) (h : book.pending = some order)
    (hentry : order.isExit = false) (price : ℚ) :
    (book.execute price).holders = book.holders ++ [(order.owner, order.side)] := by
  rw [execute_of_entry h hentry]
  unfold holders
  rw [hopened]
  simp

theorem holders_of_exit (hopened : book.opened = some fill) (h : book.pending = some order)
    (hexit : order.isExit = true) (price : ℚ) : (book.execute price).holders = book.holders := by
  rw [execute_of_exit h hexit hopened]
  unfold holders
  rw [hopened, List.map_append]
  simp [Trip.holder, Fill.close]

variable {long short : Bool}

theorem Marked.entered {entered : Book} {owner : Owner} {side : Side} (h : Marked long short book)
    (hunmarked : Unmarked long short owner side)
    (hholders : entered.holders = book.holders ++ [(owner, side)]) :
    Marked (long || decide ((owner, side) = (.bo, .long)))
      (short || decide ((owner, side) = (.bo, .short))) entered := by
  constructor
  · rw [hholders, List.count_append, h.long]
    cases owner with
    | mr => simp
    | bo =>
      cases side with
      | long =>
        obtain rfl : long = false := hunmarked
        rfl
      | short => simp
  · rw [hholders, List.count_append, h.short]
    cases owner with
    | mr => simp
    | bo =>
      cases side with
      | long => simp
      | short =>
        obtain rfl : short = false := hunmarked
        rfl

theorem Marked.congr {same : Book} (h : Marked long short book)
    (hholders : same.holders = book.holders) : Marked long short same := by
  constructor
  · rw [hholders]
    exact h.long
  · rw [hholders]
    exact h.short

theorem Sound.place (h : Sound bars book) (hfits : book.Fits order) (hlast : bars.getLast? = some b)
    (hsignal : order.signal = b.tsLocal) (htime : order.time = b.boundary) :
    Sound bars (book.place order) where
  fills := h.fills
  trips := h.trips
  opened := h.opened
  pending := by
    rintro _ ⟨⟩
    exact ⟨hfits, b, hlast, hsignal, htime⟩

theorem holders_of_none (hopened : book.opened = none) :
    book.holders = book.trips.map Trip.holder := by
  unfold holders
  rw [hopened]
  exact List.append_nil _

theorem Sound.closed (h : Sound bars book) (hmarks : Marked long short book)
    (hopened : book.opened = none) (hpending : book.pending = none) : Closed bars book := by
  have hfills := h.fills
  have hlong := hmarks.long
  have hshort := hmarks.short
  rw [hopened, Option.toList_none, List.append_nil] at hfills
  rw [holders_of_none hopened] at hlong hshort
  refine ⟨hfills, h.trips, hopened, hpending, ?_, ?_⟩
  · rw [hlong]
    split_ifs
    all_goals omega
  · rw [hshort]
    split_ifs
    all_goals omega

end Book

end AlorRs.ShadowReaction
