import AlorRs.StrategyRuntime.Equiv.ShadowReaction.Session
import AlorRs.StrategyRuntime.ShadowReaction.Imoexf

/-!
# Sessions of the IMOEXF model

An engine that is stepped through a complete session never fails and ends flat
(`Waiting.stepFrozen`).  What carries the induction is how late a position can still be held,
or an entry be pending, before its exit is due (`Waiting`).
-/

namespace AlorRs.ShadowReaction.Imoexf

open Outcome Engine

/-! ### The book of an engine -/

def Action.order (a : Action) : Order := ⟨a.exitReason.isSome, a.owner, a.side, a.signal, a.at⟩

def Position.fill (p : Position) : Fill := ⟨p.entry.order, p.price⟩

def Trade.trip (trade : Trade) : Trip where
  owner := trade.component
  side := trade.side
  entrySignal := trade.entrySignalTs
  entryTime := trade.entryTs
  entryPrice := trade.entryPrice
  exitSignal := trade.exitSignalTs
  exitTime := trade.exitTs
  exitPrice := trade.exitPrice

/-- The fill of an event; a suppressed entry is none. -/
def Event.fill? (event : Event) : Option Fill :=
  match event.role, event.signalTs, event.price with
  | .entry, some signal, some price =>
    some ⟨⟨false, event.component, event.side, signal, event.ts⟩, price⟩
  | .exit, some signal, some price =>
    some ⟨⟨true, event.component, event.side, signal, event.ts⟩, price⟩
  | _, _, _ => none

def Engine.book (e : Engine) : Book where
  trips := e.trades.map Trade.trip
  opened := e.position.map Position.fill
  fills := e.events.filterMap Event.fill?
  pending := e.pending.map Action.order

variable {date : NaiveDate} {secs : ℕ} {bars : List Bar} {b : Bar} {e : Engine} {a : Action}
  {p : Position} {next : Option NaiveDateTime}

structure Counted (e : Engine) : Prop where
  mr : e.book.holders.countP (fun holder => holder.1 = .mr) = e.mrEntries
  marks : e.book.Marked e.usedLong e.usedShort
  mr_le : e.mrEntries ≤ 2

structure Room (e : Engine) (owner : Owner) (side : Side) : Prop where
  mr : owner = .mr → e.mrEntries < 2
  unmarked : Book.Unmarked e.usedLong e.usedShort owner side

structure Opened (secs : ℕ) (bars : List Bar) (e : Engine) : Prop where
  book : e.book.Opened 72000 secs bars
  counted : Counted e

structure Waiting (date : NaiveDate) (secs : ℕ) (bars : List Bar) (e : Engine) : Prop where
  book : e.book.Waiting 72000 date secs bars
  counted : Counted e
  room : ∀ a ∈ e.pending, a.exitReason = none → Room e a.owner a.side

theorem Opened.pending (h : Opened secs bars e) : e.pending = none :=
  Option.map_eq_none_iff.mp h.book.pending

/-! ### The open of a bar -/

theorem apply_of_pending {filled : Engine} (hpending : e.pending = some a) (htime : a.at = b.tsLocal)
    (hfill : e.fill a b = .ok filled) :
    e.apply b = .ok ({ filled with
      events := filled.events ++ [filled.eventOf a b]
      pending := none }, true) := by
  unfold apply
  rw [hpending]
  show ensure _ _ >>= _ = _
  rw [ensure_bind_eq_ok]
  refine ⟨decide_eq_true htime, ?_⟩
  rw [hfill]
  rfl

theorem fill?_eventOf : (e.eventOf a b).fill? = some ⟨a.order, b.open⟩ := by
  obtain ⟨owner, side, signal, time, exitReason⟩ := a
  cases exitReason with
  | none => rfl
  | some reason => rfl

theorem fills_eventOf (events : List Event) :
    (events ++ [e.eventOf a b]).filterMap Event.fill? =
      events.filterMap Event.fill? ++ [⟨a.order, b.open⟩] := by
  rw [List.filterMap_append, List.filterMap_cons_some fill?_eventOf]
  rfl

def entered (e : Engine) (a : Action) (b : Bar) : Engine :=
  { e with
    position := some ⟨a, b.open, 0⟩
    mrEntries := e.mrEntries + (if a.owner = .mr then 1 else 0)
    usedLong := e.usedLong || decide ((a.owner, a.side) = (.bo, .long))
    usedShort := e.usedShort || decide ((a.owner, a.side) = (.bo, .short)) }

theorem fill_of_entry (hentry : a.exitReason = none) (hflat : e.position = none) :
    e.fill a b = .ok (entered e a b) := by
  unfold fill entered
  rw [hentry, hflat]
  show Except.ok _ = Except.ok _
  obtain ⟨owner, side, signal, time, exitReason⟩ := a
  cases owner with
  | mr => simp
  | bo =>
    cases side with
    | long => simp
    | short => simp

theorem apply_entry (hpending : e.pending = some a) (hentry : a.exitReason = none)
    (htime : a.at = b.tsLocal) (hflat : e.position = none) :
    ∃ e', e.apply b = .ok (e', true) ∧ e'.book = e.book.execute b.open ∧
      e'.mrEntries = e.mrEntries + (if a.owner = .mr then 1 else 0) ∧
        e'.usedLong = (e.usedLong || decide ((a.owner, a.side) = (.bo, .long))) ∧
          e'.usedShort = (e.usedShort || decide ((a.owner, a.side) = (.bo, .short))) := by
  have horder : e.book.pending = some a.order := congrArg (Option.map Action.order) hpending
  have hisExit : a.order.isExit = false := congrArg Option.isSome hentry
  refine ⟨_, apply_of_pending hpending htime (fill_of_entry hentry hflat), ?_, rfl, rfl, rfl⟩
  rw [Book.execute_of_entry horder hisExit]
  unfold Engine.book
  rw [fills_eventOf]
  rfl

variable {reason : ExitReason}

theorem apply_exit (hpending : e.pending = some a) (hexit : a.exitReason = some reason)
    (htime : a.at = b.tsLocal) (hheld : e.position = some p) (howner : p.entry.owner = a.owner)
    (hside : p.entry.side = a.side) :
    ∃ e', e.apply b = .ok (e', true) ∧ e'.book = e.book.execute b.open ∧
      e'.mrEntries = e.mrEntries ∧ e'.usedLong = e.usedLong ∧ e'.usedShort = e.usedShort := by
  have horder : e.book.pending = some a.order := congrArg (Option.map Action.order) hpending
  have hisExit : a.order.isExit = true := by
    unfold Action.order
    rw [hexit]
    rfl
  have hopened : e.book.opened = some p.fill := congrArg (Option.map Position.fill) hheld
  have hfill : e.fill a b = .ok { e with
      trades := e.trades ++ [e.tradeOf p a reason b]
      position := none } := by
    unfold fill
    rw [hexit, hheld]
    show ensure _ _ >>= _ = _
    rw [ensure_bind_eq_ok]
    refine ⟨?_, rfl⟩
    rw [Bool.and_eq_true]
    exact ⟨decide_eq_true howner, decide_eq_true hside⟩
  refine ⟨_, apply_of_pending hpending htime hfill, ?_, rfl, rfl, rfl⟩
  rw [Book.execute_of_exit horder hisExit hopened]
  unfold Engine.book
  rw [fills_eventOf, List.map_append]
  have htrip : (e.tradeOf p a reason b).trip = p.fill.close ⟨a.order, b.open⟩ := by
    show Trip.mk a.owner a.side _ _ _ _ _ _ = Trip.mk p.entry.owner p.entry.side _ _ _ _ _ _
    rw [howner, hside]
    rfl
  rw [List.map_singleton, htrip]
  rfl

variable {e' : Engine} {side : Side}

theorem Counted.entered {owner : Owner} (h : Counted e) (hroom : Room e owner side)
    (hholders : e'.book.holders = e.book.holders ++ [(owner, side)])
    (hmr : e'.mrEntries = e.mrEntries + (if owner = .mr then 1 else 0))
    (hlong : e'.usedLong = (e.usedLong || decide ((owner, side) = (.bo, .long))))
    (hshort : e'.usedShort = (e.usedShort || decide ((owner, side) = (.bo, .short)))) : Counted e' := by
  refine ⟨?_, ?_, ?_⟩
  · rw [hholders, hmr, List.countP_append, h.mr, List.countP_singleton]
    simp
  · rw [hlong, hshort]
    exact h.marks.entered hroom.unmarked hholders
  · have hle := h.mr_le
    rw [hmr]
    split_ifs with howner
    · have hlt := hroom.mr howner
      omega
    · exact hle

theorem Counted.same (h : Counted e) (hholders : e'.book.holders = e.book.holders)
    (hmr : e'.mrEntries = e.mrEntries) (hlong : e'.usedLong = e.usedLong)
    (hshort : e'.usedShort = e.usedShort) : Counted e' := by
  refine ⟨?_, ?_, ?_⟩
  · rw [hholders, hmr]
    exact h.mr
  · rw [hlong, hshort]
    exact h.marks.congr hholders
  · rw [hmr]
    exact h.mr_le

theorem Room.same {owner : Owner} (h : Room e owner side) (hmr : e'.mrEntries = e.mrEntries)
    (hlong : e'.usedLong = e.usedLong) (hshort : e'.usedShort = e.usedShort) : Room e' owner side := by
  refine ⟨?_, ?_⟩
  · rw [hmr]
    exact h.mr
  · rw [hlong, hshort]
    exact h.unmarked

theorem Waiting.apply (h : Waiting date secs bars e) (hb : b.tsLocal = label date secs) :
    ∃ e' wasPending, e.apply b = .ok (e', wasPending) ∧ Opened secs (bars ++ [b]) e' := by
  have hopened := h.book.execute hb
  cases hpending : e.pending with
  | none =>
    have hbook : e.book.execute b.open = e.book :=
      Book.execute_of_none (congrArg (Option.map Action.order) hpending) _
    rw [hbook] at hopened
    refine ⟨e, false, ?_, hopened, h.counted⟩
    unfold Engine.apply
    rw [hpending]
  | some a =>
    have horder : e.book.pending = some a.order := congrArg (Option.map Action.order) hpending
    have hat : a.at = b.tsLocal := (h.book.due a.order horder).1.trans hb.symm
    have hfits := (h.book.sound.pending a.order horder).1
    unfold Book.Fits at hfits
    cases hreason : a.exitReason with
    | none =>
      have hisExit : a.order.isExit = false := congrArg Option.isSome hreason
      rw [if_neg (by rw [hisExit]; exact Bool.false_ne_true)] at hfits
      have hflat : e.position = none := Option.map_eq_none_iff.mp hfits
      obtain ⟨e', happly, hbook, hmr, hlong, hshort⟩ := apply_entry hpending hreason hat hflat
      have hholders : e'.book.holders = e.book.holders ++ [(a.owner, a.side)] := by
        rw [hbook]
        exact Book.holders_of_entry hfits horder hisExit _
      exact ⟨e', true, happly, hbook ▸ hopened,
        h.counted.entered (h.room a hpending hreason) hholders hmr hlong hshort⟩
    | some reason =>
      have hisExit : a.order.isExit = true := by
        unfold Action.order
        rw [hreason]
        rfl
      rw [if_pos hisExit] at hfits
      obtain ⟨fill, hfill, howner, hside⟩ := hfits
      obtain ⟨p, hposition, rfl⟩ := Option.map_eq_some_iff.mp hfill
      obtain ⟨e', happly, hbook, hmr, hlong, hshort⟩ :=
        apply_exit hpending hreason hat hposition howner hside
      have hholders : e'.book.holders = e.book.holders := by
        rw [hbook]
        exact Book.holders_of_exit hfill horder hisExit _
      exact ⟨e', true, happly, hbook ▸ hopened, h.counted.same hholders hmr hlong hshort⟩

/-! ### The close of a bar -/

theorem Waiting.withBranch (h : Waiting date secs bars e) (branch : Branch) :
    Waiting date secs bars { e with branch := branch } :=
  ⟨h.book, h.counted.same rfl rfl rfl rfl, fun a ha hentry => (h.room a ha hentry).same rfl rfl rfl⟩

theorem Waiting.suppressed (h : Waiting date secs bars e) (b : Bar) (side : Side) :
    Waiting date secs bars { e with events := e.events ++ [e.suppressed b side] } := by
  have hbook : ({ e with events := e.events ++ [e.suppressed b side] } : Engine).book = e.book := by
    unfold Engine.book
    rw [List.filterMap_append]
    exact congrArg (Book.mk _ _ · _) (List.append_nil _)
  exact ⟨hbook ▸ h.book, h.counted.same (congrArg Book.holders hbook) rfl rfl rfl,
    fun a ha hentry => (h.room a ha hentry).same rfl rfl rfl⟩

theorem Opened.observe (h : Opened secs bars e) (b : Bar) : Opened secs bars (e.observe b) :=
  ⟨h.book, h.counted.same rfl rfl rfl rfl⟩

theorem Opened.hold (h : Opened secs bars e) : Opened secs bars e.hold := by
  have hbook : e.hold.book = e.book := by
    unfold Engine.book Engine.hold
    rw [Option.map_map]
    rfl
  exact ⟨hbook ▸ h.book, h.counted.same (congrArg Book.holders hbook) rfl rfl rfl⟩

theorem schedule_of_next (hpending : e.pending = none) (hnext : next = some a.at)
    (hdate : a.at.date = a.signal.date) : e.schedule a next = .ok { e with pending := some a } := by
  unfold schedule
  rw [hpending, hnext]
  show ensure (decide _ && decide _) _ >>= _ = _
  rw [ensure_bind_eq_ok, decide_eq_true rfl, decide_eq_true hdate]
  exact ⟨rfl, rfl⟩

theorem secs_lt_of_mr (hb : b.tsLocal = label date secs) (hposition : e.position = some p)
    (howner : p.entry.owner = .mr) (hreason : e.exitReason b = none) : secs < 72000 := by
  unfold exitReason at hreason
  rw [hposition] at hreason
  dsimp only at hreason
  rw [howner] at hreason
  dsimp only at hreason
  split_ifs at hreason with _ _ htime
  · unfold Bar.time at htime
    rw [hb, le_label, decide_eq_true_iff] at htime
    omega

theorem secs_ne_of_bo (hb : b.tsLocal = label date secs) (hposition : e.position = some p)
    (howner : p.entry.owner = .bo) (hreason : e.exitReason b = none) : secs ≠ 84600 := by
  rintro rfl
  unfold exitReason at hreason
  rw [hposition] at hreason
  dsimp only at hreason
  rw [howner] at hreason
  have htime : b.time = time 23 30 := by
    unfold Bar.time
    rw [hb]
    rfl
  rw [if_pos htime] at hreason
  exact (nomatch hreason)

theorem Opened.stay (h : Opened secs bars e) (hb : b.tsLocal = label date secs) (hdvd : 600 ∣ secs)
    (hreason : e.exitReason b = none) : Waiting date (secs + 600) bars e := by
  refine ⟨h.book.stay ?_, h.counted, ?_⟩
  · intro fill hfill
    obtain ⟨p, hposition, rfl⟩ := Option.map_eq_some_iff.mp hfill
    have hheld := h.book.held p.fill hfill
    change _ ≤ latest _ p.entry.owner
    change _ ≤ latest _ p.entry.owner at hheld
    cases howner : p.entry.owner with
    | mr =>
      have hlt := secs_lt_of_mr hb hposition howner hreason
      show _ ≤ 72000
      omega
    | bo =>
      have hne := secs_ne_of_bo hb hposition howner hreason
      rw [howner] at hheld
      change _ ≤ 84600 at hheld
      show _ ≤ 84600
      omega
  · intro a ha
    rw [h.pending] at ha
    exact (nomatch ha)

theorem schedule_nextOf (hpending : e.pending = none) (hb : b.tsLocal = label date secs)
    (hlt : secs < 85200) (hsignal : a.signal = b.tsLocal) (hat : a.at = b.boundary) :
    e.schedule a (nextOf secs b) = .ok { e with pending := some a } := by
  refine schedule_of_next hpending (hat ▸ nextOf_of_lt hlt) ?_
  · unfold Bar.boundary at hat
    rw [hat, hsignal, hb, addSecs_label (by omega)]
    rfl

theorem room_of_boSide (h : e.boSide b = some side) : Room e .bo side := by
  refine ⟨fun hmr => (nomatch hmr), ?_⟩
  unfold Engine.boSide at h
  dsimp only at h
  split_ifs at h with hlong hshort
  · obtain rfl := Option.some.inj h
    rw [Bool.and_eq_true, Bool.not_eq_true'] at hlong
    exact hlong.2
  · obtain rfl := Option.some.inj h
    rw [Bool.and_eq_true, Bool.not_eq_true'] at hshort
    exact hshort.2

/-- A pending action, or a position, stands in the way of an entry. -/
theorem of_obstacle (h : e.obstacle = .notEvaluated) : e.pending = none ∧ e.position = none := by
  unfold obstacle at h
  split_ifs at h with _ hpending hposition
  exact ⟨by simpa using hpending, by simpa using hposition⟩

theorem exists_position_of_exitReason (h : e.exitReason b = some reason) :
    ∃ p, e.position = some p := by
  unfold exitReason at h
  cases hposition : e.position with
  | none =>
    rw [hposition] at h
    exact (nomatch h)
  | some p => exact ⟨p, rfl⟩

theorem Opened.schedule (h : Opened secs bars e) (hb : b.tsLocal = label date secs)
    (hdvd : 600 ∣ secs) (hlast : bars.getLast? = some b) (hlt : secs < 85200)
    (hfits : e.book.Fits a.order) (hsignal : a.signal = b.tsLocal) (hat : a.at = b.boundary)
    (hroom : a.exitReason = none → Room e a.owner a.side ∧ secs + 600 ≤ latest 72000 a.owner) :
    e.schedule a (nextOf secs b) = .ok { e with pending := some a } ∧
      Waiting date (secs + 600) bars { e with pending := some a } := by
  refine ⟨schedule_nextOf h.pending hb hlt hsignal hat,
    h.book.place hb hdvd hlast hlt hfits hsignal hat ?_, h.counted.same rfl rfl rfl rfl, ?_⟩
  · intro hentry
    have hnone : a.exitReason = none := Option.isSome_eq_false_iff.mp hentry |> Option.isNone_iff_eq_none.mp
    exact (hroom hnone).2
  · rintro _ ⟨⟩ hentry
    exact (hroom hentry).1.same rfl rfl rfl

section Decide

variable (h : Opened secs bars e) (hb : b.tsLocal = label date secs) (hdvd : 600 ∣ secs)
  (hlast : bars.getLast? = some b)
include h hb hdvd hlast

theorem Opened.decideBo (hflat : e.position = none) :
    ∃ e', e.decideBo b (nextOf secs b) = .ok e' ∧ Waiting date (secs + 600) bars e' := by
  have hreason : e.exitReason b = none := by
    unfold Engine.exitReason
    rw [hflat]
  have hquiet := h.stay hb hdvd hreason
  unfold Engine.decideBo
  cases hside : e.boSide b with
  | none =>
    split_ifs
    all_goals exact ⟨_, rfl, hquiet.withBranch _⟩
  | some side =>
    dsimp only
    split_ifs with hsleeve hwait hrange hterminal hlate
    · exact ⟨_, rfl, hquiet.withBranch _⟩
    · exact ⟨_, rfl, hquiet.withBranch _⟩
    · exact ⟨_, rfl, hquiet.withBranch _⟩
    · exact ⟨_, rfl, hquiet.withBranch _⟩
    · exact ⟨_, rfl, (hquiet.suppressed b side).withBranch _⟩
    · have hlt : secs < 85200 := by
        by_contra hge
        unfold nextOf at hterminal
        rw [if_neg hge] at hterminal
        simp at hterminal
      have hearly : secs + 600 < 84600 := by
        unfold Bar.boundary at hlate
        rw [hb, addSecs_label (by omega), le_label, decide_eq_true_iff] at hlate
        omega
      obtain ⟨hschedule, hwaiting⟩ :=
        h.schedule (a := ⟨.bo, side, b.tsLocal, b.boundary, none⟩) hb hdvd hlast hlt
          (congrArg (Option.map Position.fill) hflat) rfl rfl
          fun _ => ⟨room_of_boSide hside, by change _ ≤ 84600; omega⟩
      rw [hschedule]
      exact ⟨_, rfl, hwaiting.withBranch _⟩

theorem Opened.decideEntry (hflat : e.position = none) :
    ∃ e', e.decideEntry b (nextOf secs b) = .ok e' ∧ Waiting date (secs + 600) bars e' := by
  unfold Engine.decideEntry
  split_ifs with hentry
  · obtain ⟨-, -, hroom, htime⟩ := hentry
    unfold Bar.time at htime
    rw [hb, label_le, decide_eq_true_iff] at htime
    have hlt : secs < 85200 := by omega
    obtain ⟨hschedule, hwaiting⟩ :=
      h.schedule (a := ⟨.mr, .short, b.tsLocal, b.boundary, none⟩) hb hdvd hlast hlt
        (congrArg (Option.map Position.fill) hflat) rfl rfl
        fun _ => ⟨⟨fun _ => hroom, trivial⟩, by change _ ≤ 72000; omega⟩
    rw [hschedule]
    exact ⟨_, rfl, hwaiting.withBranch _⟩
  · exact h.decideBo hb hdvd hlast hflat

theorem Opened.decideExit (hreason : e.exitReason b = some reason) :
    ∃ e', e.decideExit b (nextOf secs b) = .ok e' ∧ Waiting date (secs + 600) bars e' ∧
      e'.pending ≠ none := by
  obtain ⟨p, hposition⟩ := exists_position_of_exitReason hreason
  have hopened : e.book.opened = some p.fill := congrArg (Option.map Position.fill) hposition
  have hlt := h.book.secs_lt (by decide) hopened
  obtain ⟨hschedule, hwaiting⟩ :=
    h.schedule (a := ⟨p.entry.owner, p.entry.side, b.tsLocal, b.boundary, some reason⟩) hb hdvd
      hlast hlt ⟨p.fill, hopened, rfl, rfl⟩ rfl rfl fun hnone => (nomatch hnone)
  refine ⟨_, ?_, hwaiting, Option.some_ne_none _⟩
  unfold Engine.decideExit
  rw [hreason, hposition]
  dsimp only
  rw [hschedule, hposition]

theorem Opened.decide :
    ∃ e', e.decide b (nextOf secs b) = .ok e' ∧ Waiting date (secs + 600) bars e' := by
  have hheld := h.hold
  unfold Engine.decide
  cases hreason : e.hold.exitReason b with
  | some reason =>
    obtain ⟨e', hexit, hwaiting, hpending⟩ := hheld.decideExit hb hdvd hlast hreason
    rw [hexit]
    refine ⟨{ e' with branch := e'.obstacle }, if_pos ?_, hwaiting.withBranch _⟩
    intro hfree
    exact hpending (of_obstacle hfree).1
  | none =>
    have hstay : e.hold.decideExit b (nextOf secs b) = .ok e.hold := by
      unfold Engine.decideExit
      rw [hreason]
    rw [hstay]
    by_cases hfree : e.hold.obstacle = .notEvaluated
    · have hopened : Opened secs bars { e.hold with branch := e.hold.obstacle } :=
        ⟨hheld.book, hheld.counted.same rfl rfl rfl rfl⟩
      obtain ⟨e', hdecide, hwaiting⟩ := hopened.decideEntry hb hdvd hlast (of_obstacle hfree).2
      exact ⟨e', (if_neg (not_not.mpr hfree)).trans hdecide, hwaiting⟩
    · exact ⟨_, if_pos hfree, (hheld.stay hb hdvd hreason).withBranch _⟩

end Decide

/-! ### Sessions -/

theorem Waiting.flat (h : Waiting date 85800 bars e) : e.position = none ∧ e.pending = none := by
  obtain ⟨hopened, hpending⟩ := h.book.flat (by decide)
  exact ⟨Option.map_eq_none_iff.mp hopened, Option.map_eq_none_iff.mp hpending⟩

theorem Waiting.stepFrozen (h : Waiting date secs bars e) (hb : b.tsLocal = label date secs)
    (hdvd : 600 ∣ secs) (hle : secs ≤ 85200) :
    ∃ e', e.stepFrozen b = .ok e' ∧ Waiting date (secs + 600) (bars ++ [b]) e' := by
  obtain ⟨e₁, wasPending, happly, hopened⟩ := (h.withBranch .notEvaluated).apply hb
  obtain ⟨e₂, hdecide, hwaiting⟩ :=
    (hopened.observe b).decide hb hdvd List.getLast?_concat
  have hnext := nextOf_eq hb
  refine ⟨e₂, ?_, hwaiting⟩
  unfold Engine.stepFrozen
  dsimp only
  rw [happly]
  show (e₁.observe b).decide b (if _ then _ else _) >>= _ = _
  rw [hnext, hdecide]
  show ensure _ _ >>= _ = _
  rw [ensure_bind_eq_ok]
  refine ⟨?_, rfl⟩
  by_cases hlt : secs < 85200
  · unfold nextOf
    rw [if_pos hlt]
    rfl
  · obtain rfl : secs = 85200 := by omega
    obtain ⟨hposition, hpending⟩ := hwaiting.flat
    rw [hposition, hpending]
    exact Bool.or_true _

end AlorRs.ShadowReaction.Imoexf
