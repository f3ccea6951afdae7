import AlorRs.StrategyRuntime.Equiv.ShadowReaction.Session
import AlorRs.StrategyRuntime.ShadowReaction.Usdrubf

/-!
# Sessions of the USDRUBF model

An engine with valid settings that is stepped through a complete session never fails and ends flat
(`Waiting.stepFrozen`).  MR is left ten minutes before its horizon ends (`force`).
-/

namespace AlorRs.ShadowReaction.Usdrubf

open Outcome Engine

/-! ### The book of an engine -/

def Entry.order (entry : Entry) : Order :=
  ⟨false, entry.owner, entry.side, entry.signal, entry.action⟩

def Exit.order (exit : Exit) (p : Position) : Order :=
  ⟨true, p.entry.owner, p.entry.side, exit.signal, exit.action⟩

def Position.fill (p : Position) : Fill := ⟨p.entry.order, p.price⟩

def Trade.trip (trade : Trade) : Trip where
  owner := trade.component
  side := trade.side
  entrySignal := trade.entrySignalTs
  entryTime := trade.entryTs
  entryPrice := trade.entryPrice
  exitSignal := trade.exitSignalTs
  exitTime := trade.exitTs
  exitPrice := trade.exitPrice

/-- The fill of an event; a suppressed entry is none. -/
def Event.fill? (event : Event) : Option Fill :=
  match event.role, event.price with
  | .entry, some price =>
    some ⟨⟨false, event.component, event.side, event.signalTs, event.ts⟩, price⟩
  | .exit, some price =>
    some ⟨⟨true, event.component, event.side, event.signalTs, event.ts⟩, price⟩
  | _, _ => none

def Engine.order? (e : Engine) : Option Order :=
  match e.pending with
  | none => none
  | some (.entry entry) => some entry.order
  | some (.exit exit) => e.position.map exit.order

def Engine.book (e : Engine) : Book where
  trips := e.trades.map Trade.trip
  opened := e.position.map Position.fill
  fills := e.events.filterMap Event.fill?
  pending := e.order?

variable {date : NaiveDate} {secs : ℕ} {bars : List Bar} {bar : Bar} {e : Engine} {m : Metrics}
  {entry : Entry} {exit : Exit} {p : Position} {cfg : Config}

def force (cfg : Config) (date : NaiveDate) : ℕ :=
  (opening date cfg.clockHour + cfg.mrHorizon - 1) * 3600 + 3000

theorem force_le (h : cfg.validate = .ok ()) (date : NaiveDate) : force cfg date ≤ 84600 := by
  obtain ⟨hcontext, h⟩ := ensure_bind_eq_ok.mp h
  obtain ⟨hclock, h⟩ := ensure_bind_eq_ok.mp h
  obtain ⟨hhorizon, -⟩ := ensure_bind_eq_ok.mp h
  rw [Bool.or_eq_true, decide_eq_true_iff, decide_eq_true_iff] at hcontext hhorizon
  rw [decide_eq_true_iff] at hclock
  unfold force opening
  split_ifs
  all_goals omega

theorem dvd_force (cfg : Config) (date : NaiveDate) : 600 ∣ force cfg date := by
  unfold force
  omega

def Levelled (e : Engine) : Prop :=
  ∀ p ∈ e.position, p.entry.owner = .mr → p.stop.isSome = true ∧ p.take.isSome = true

structure Opened (date : NaiveDate) (secs : ℕ) (bars : List Bar) (e : Engine) : Prop where
  book : e.book.Opened (force e.cfg date) secs bars
  marks : e.book.Marked e.usedLong e.usedShort
  levels : Levelled e
  pending : e.pending = none
  valid : e.cfg.validate = .ok ()

structure Waiting (date : NaiveDate) (secs : ℕ) (bars : List Bar) (e : Engine) : Prop where
  book : e.book.Waiting (force e.cfg date) date secs bars
  marks : e.book.Marked e.usedLong e.usedShort
  levels : Levelled e
  unmarked : ∀ entry, e.pending = some (.entry entry) →
    Book.Unmarked e.usedLong e.usedShort entry.owner entry.side
  held : ∀ exit, e.pending = some (.exit exit) → e.position ≠ none
  metrics : ∀ m ∈ e.metrics, m.first.date = date
  valid : e.cfg.validate = .ok ()

/-! ### The open of a bar -/

theorem order?_of_entry (h : e.pending = some (.entry entry)) : e.order? = some entry.order := by
  unfold order?
  rw [h]

theorem order?_of_exit (h : e.pending = some (.exit exit)) (hheld : e.position = some p) :
    e.order? = some (exit.order p) := by
  unfold order?
  rw [h, hheld]
  rfl

theorem order?_of_none (h : e.pending = none) : e.order? = none := by
  unfold order?
  rw [h]

structure Done (price : ℚ) (e e' : Engine) : Prop where
  book : e'.book = e.book.execute price
  levels : Levelled e'
  pending : e'.pending = none
  cfg : e'.cfg = e.cfg
  metrics : e'.metrics = e.metrics

theorem enter_eq_ok (h : e.pending = some (.entry entry)) (htime : entry.action = bar.tsLocal)
    (hflat : e.position = none) :
    ∃ e', e.enter entry bar = .ok e' ∧ Done bar.open e e' ∧
      e'.usedLong = (e.usedLong || decide ((entry.owner, entry.side) = (.bo, .long))) ∧
        e'.usedShort = (e.usedShort || decide ((entry.owner, entry.side) = (.bo, .short))) := by
  have hguard : (Decidable.decide (entry.action = bar.tsLocal) && e.position.isNone) = true := by
    rw [hflat, decide_eq_true htime]
    rfl
  unfold enter
  simp only [ensure_bind_eq_ok]
  refine ⟨_, ⟨hguard, rfl⟩, ?_, ?_, ?_⟩
  · refine ⟨?_, ?_, rfl, rfl, rfl⟩
    · rw [Book.execute_of_entry (order?_of_entry h) rfl]
      unfold Engine.book
      rw [List.filterMap_append]
      obtain ⟨owner, side, signal, action, scale, anchor, stop1, stop2⟩ := entry
      obtain rfl : action = bar.tsLocal := htime
      cases owner with
      | mr => rfl
      | bo => rfl
    · intro p hp howner
      obtain rfl := Option.some.inj hp
      cases hkind : entry.owner with
      | mr => exact ⟨rfl, rfl⟩
      | bo =>
        simp only [hkind] at howner
        exact (nomatch howner)
  · simp
  · simp

def left (e : Engine) (p : Position) (exit : Exit) (bar : Bar) : Engine :=
  { e with
    trades := e.trades ++ [e.tradeOf p exit bar]
    events := e.events ++ [{
      modelId := e.cfg.modelId
      role := .exit
      ts := bar.tsLocal
      signalTs := exit.signal
      component := p.entry.owner
      side := p.entry.side
      price := some bar.open
      reason := .exit exit.reason }]
    position := none
    pending := none }

theorem leave_eq_ok (htime : exit.action = bar.tsLocal) (hheld : e.position = some p) :
    e.leave exit bar = .ok (left e p exit bar) := by
  unfold leave
  rw [hheld, htime]
  show ensure _ _ >>= _ = _
  rw [ensure_bind_eq_ok]
  exact ⟨decide_eq_true rfl, rfl⟩

theorem done_left (h : e.pending = some (.exit exit)) (htime : exit.action = bar.tsLocal)
    (hheld : e.position = some p) : Done bar.open e (left e p exit bar) := by
  refine ⟨?_, fun _ hnone => (nomatch hnone), rfl, rfl, rfl⟩
  have hopened : e.book.opened = some p.fill := congrArg (Option.map Position.fill) hheld
  rw [Book.execute_of_exit (order?_of_exit h hheld) rfl hopened]
  unfold Engine.book left
  rw [List.filterMap_append, List.map_append]
  obtain ⟨signal, action, reason, ambiguous⟩ := exit
  obtain rfl : action = bar.tsLocal := htime
  rfl

theorem Waiting.applyPending (h : Waiting date secs bars e) (hb : bar.tsLocal = label date secs) :
    ∃ e' wasPending, e.applyPending bar = .ok (e', wasPending) ∧
      Opened date secs (bars ++ [bar]) e' ∧ e'.metrics = e.metrics := by
  have hopened := h.book.execute hb
  cases hpending : e.pending with
  | none =>
    rw [Book.execute_of_none (order?_of_none hpending)] at hopened
    refine ⟨e, false, ?_, ⟨hopened, h.marks, h.levels, hpending, h.valid⟩, rfl⟩
    unfold Engine.applyPending
    rw [hpending]
  | some action =>
    cases action with
    | entry entry =>
      have horder := order?_of_entry hpending
      have hat : entry.action = bar.tsLocal := (h.book.due entry.order horder).1.trans hb.symm
      have hfits : e.book.opened = none := (h.book.sound.pending entry.order horder).1
      obtain ⟨e', henter, hdone, hlong, hshort⟩ :=
        enter_eq_ok hpending hat (Option.map_eq_none_iff.mp hfits)
      have hholders : e'.book.holders = e.book.holders ++ [(entry.owner, entry.side)] := by
        rw [hdone.book]
        exact Book.holders_of_entry hfits horder rfl _
      refine ⟨e', true, ?_, ⟨?_, ?_, hdone.levels, hdone.pending, hdone.cfg ▸ h.valid⟩, hdone.metrics⟩
      · unfold Engine.applyPending
        rw [hpending]
        exact congrArg (Except.map (·, true)) henter
      · rw [hdone.book, hdone.cfg]
        exact hopened
      · rw [hlong, hshort]
        exact h.marks.entered (h.unmarked entry hpending) hholders
    | exit exit =>
      obtain ⟨p, hheld⟩ := Option.ne_none_iff_exists'.mp (h.held exit hpending)
      have horder := order?_of_exit hpending hheld
      have hat : exit.action = bar.tsLocal := (h.book.due (exit.order p) horder).1.trans hb.symm
      have hfill : e.book.opened = some p.fill := congrArg (Option.map Position.fill) hheld
      have hdone := done_left hpending hat hheld
      have hholders : (left e p exit bar).book.holders = e.book.holders := by
        rw [hdone.book]
        exact Book.holders_of_exit hfill horder rfl _
      refine ⟨left e p exit bar, true, ?_, ⟨?_, ?_, hdone.levels, rfl, h.valid⟩, rfl⟩
      · unfold Engine.applyPending
        rw [hpending]
        exact congrArg (Except.map (·, true)) (leave_eq_ok hat hheld)
      · rw [hdone.book]
        exact hopened
      · exact h.marks.congr hholders

/-! ### The close of a bar -/

theorem Waiting.withBranch (h : Waiting date secs bars e) (branch : Branch) :
    Waiting date secs bars { e with branch := branch } :=
  ⟨h.book, h.marks, h.levels, h.unmarked, h.held, h.metrics, h.valid⟩

theorem Waiting.suppressed (h : Waiting date secs bars e) (owner : Owner) (side : Side) (bar : Bar) :
    Waiting date secs bars { e with events := e.events ++ [e.suppressed owner side bar] } := by
  have hbook :
      ({ e with events := e.events ++ [e.suppressed owner side bar] } : Engine).book = e.book := by
    unfold Engine.book
    rw [List.filterMap_append]
    exact congrArg (Book.mk _ _ · _) (List.append_nil _)
  exact ⟨hbook ▸ h.book, hbook ▸ h.marks, h.levels, h.unmarked, h.held, h.metrics, h.valid⟩

theorem secs_lt_of_mr (hb : bar.tsLocal = label date secs) (hfirst : m.first.date = date)
    (hheld : e.position = some p) (howner : p.entry.owner = .mr) (hreason : e.exitReason m bar = none) :
    secs < force e.cfg date := by
  unfold exitReason at hreason
  rw [hheld] at hreason
  dsimp only at hreason
  rw [howner] at hreason
  dsimp only at hreason
  split_ifs at hreason with _ _ htime
  · unfold mrForce clock Bar.time at htime
    rw [hb, hfirst, le_label, decide_eq_true_iff] at htime
    unfold force
    omega

theorem secs_lt_of_bo (hb : bar.tsLocal = label date secs) (hheld : e.position = some p)
    (howner : p.entry.owner = .bo) (hreason : e.exitReason m bar = none) : secs < 84600 := by
  unfold exitReason at hreason
  rw [hheld] at hreason
  dsimp only at hreason
  rw [howner] at hreason
  dsimp only at hreason
  split_ifs at hreason with _ _ htime
  · unfold Bar.time at htime
    rw [hb, le_label, decide_eq_true_iff] at htime
    omega

section Decide

variable (h : Opened date secs bars e) (hb : bar.tsLocal = label date secs) (hdvd : 600 ∣ secs)
  (hlast : bars.getLast? = some bar) (hm : e.metrics = some m) (hfirst : m.first.date = date)
include h hb hdvd hlast hm hfirst

omit hlast in
theorem Opened.stay (hreason : e.exitReason m bar = none) : Waiting date (secs + 600) bars e := by
  refine ⟨h.book.stay ?_, h.marks, h.levels, ?_, ?_, ?_, h.valid⟩
  · intro fill hfill
    obtain ⟨p, hheld, rfl⟩ := Option.map_eq_some_iff.mp hfill
    show _ ≤ latest _ p.entry.owner
    cases howner : p.entry.owner with
    | mr =>
      have hlt := secs_lt_of_mr hb hfirst hheld howner hreason
      have hforce := dvd_force e.cfg date
      show _ ≤ force e.cfg date
      omega
    | bo =>
      have hlt := secs_lt_of_bo hb hheld howner hreason
      show _ ≤ 84600
      omega
  · intro entry hentry
    rw [h.pending] at hentry
    exact (nomatch hentry)
  · intro exit hexit
    rw [h.pending] at hexit
    exact (nomatch hexit)
  · rintro _ hmetrics
    obtain rfl := Option.some.inj (hm.symm.trans hmetrics)
    exact hfirst

theorem Opened.pend {action : Pending} {order : Order} (hlt : secs < 85200)
    (horder : ({ e with pending := some action } : Engine).order? = some order)
    (hfits : e.book.Fits order) (hsignal : order.signal = bar.tsLocal)
    (htime : order.time = bar.boundary)
    (hlatest : order.isExit = false → secs + 600 ≤ latest (force e.cfg date) order.owner)
    (hunmarked : ∀ entry, action = .entry entry →
      Book.Unmarked e.usedLong e.usedShort entry.owner entry.side)
    (hheld : ∀ exit, action = .exit exit → e.position ≠ none) :
    Waiting date (secs + 600) bars { e with pending := some action } := by
  have hbook : ({ e with pending := some action } : Engine).book = e.book.place order :=
    congrArg (Book.mk _ _ _) horder
  refine ⟨?_, h.marks.congr rfl, h.levels, ?_, ?_, ?_, h.valid⟩
  · rw [hbook]
    exact h.book.place hb hdvd hlast hlt hfits hsignal htime hlatest
  · rintro entry ⟨⟩
    exact hunmarked entry rfl
  · rintro exit ⟨⟩
    exact hheld exit rfl
  · intro _ hmetrics
    obtain rfl := Option.some.inj (hm.symm.trans hmetrics)
    exact hfirst

theorem Opened.decideExit {reason : ExitReason × Bool} (hreason : e.exitReason m bar = some reason) :
    ∃ e', e.decideExit m bar (nextOf secs bar) = .ok e' ∧ e'.pending.isSome = true ∧
      Waiting date (secs + 600) bars e' := by
  obtain ⟨reason, ambiguous⟩ := reason
  have hposition : ∃ p, e.position = some p := by
    refine Option.ne_none_iff_exists'.mp ?_
    intro hnone
    unfold Engine.exitReason at hreason
    rw [hnone] at hreason
    exact (nomatch hreason)
  obtain ⟨p, hheld⟩ := hposition
  have hopened : e.book.opened = some p.fill := congrArg (Option.map Position.fill) hheld
  have hlt := h.book.secs_lt (force_le h.valid date) hopened
  let exit : Exit := ⟨bar.tsLocal, bar.boundary, reason, ambiguous⟩
  refine ⟨{ e with pending := some (.exit exit) }, ?_, rfl, ?_⟩
  · unfold Engine.decideExit
    rw [hreason]
    show ensure _ _ >>= _ = _
    rw [ensure_bind_eq_ok, nextOf_of_lt hlt]
    exact ⟨decide_eq_true rfl, rfl⟩
  · have horder : ({ e with pending := some (.exit exit) } : Engine).order? = some (exit.order p) :=
      order?_of_exit rfl hheld
    exact h.pend hb hdvd hlast hm hfirst hlt horder ⟨p.fill, hopened, rfl, rfl⟩ rfl rfl
      (fun hnone => (nomatch hnone)) (fun _ hentry => (nomatch hentry))
      fun _ _ => by rw [hheld]; exact Option.some_ne_none p

omit h hdvd hlast hm in
/-- What is selected may be entered, and MR while there is time left for it. -/
theorem selected_eq {owner : Owner} {side : Side} (hselected : e.selected m bar = some (owner, side)) :
    Book.Unmarked e.usedLong e.usedShort owner side ∧
      (owner = .mr → secs + 600 ≤ force e.cfg date) := by
  unfold selected at hselected
  dsimp only at hselected
  split_ifs at hselected with hmr _ hlong hshort
  · obtain ⟨rfl, rfl⟩ := Prod.mk.inj (Option.some.inj hselected)
    refine ⟨trivial, fun _ => ?_⟩
    have htime := hmr.2.1
    unfold clock Bar.time at htime
    rw [hb, hfirst, label_le, decide_eq_true_iff] at htime
    unfold force
    omega
  · obtain ⟨rfl, rfl⟩ := Prod.mk.inj (Option.some.inj hselected)
    rw [Bool.and_eq_true, Bool.not_eq_true'] at hlong
    exact ⟨hlong.2, fun hnone => (nomatch hnone)⟩
  · obtain ⟨rfl, rfl⟩ := Prod.mk.inj (Option.some.inj hselected)
    rw [Bool.and_eq_true, Bool.not_eq_true'] at hshort
    exact ⟨hshort.2, fun hnone => (nomatch hnone)⟩

theorem Opened.decideEntry (hflat : e.position = none) :
    ∃ e', e.decideEntry m bar (nextOf secs bar) = .ok e' ∧ Waiting date (secs + 600) bars e' := by
  have hreason : e.exitReason m bar = none := by
    unfold Engine.exitReason
    rw [hflat]
  have hquiet := h.stay hb hdvd hm hfirst hreason
  unfold Engine.decideEntry
  cases hscale : (e.features m).scale.filter (0 < ·) with
  | none => exact ⟨_, rfl, hquiet.withBranch _⟩
  | some scale =>
    cases hselected : e.selected m bar with
    | none => exact ⟨_, rfl, hquiet.withBranch _⟩
    | some candidate =>
      obtain ⟨owner, side⟩ := candidate
      obtain ⟨hunmarked, hmr⟩ := selected_eq hb hfirst hselected
      dsimp only
      by_cases hterminal : ((e.terminal m owner).le bar.boundary.time || (nextOf secs bar).isNone) = true
      · rw [if_pos hterminal]
        exact ⟨_, rfl, (hquiet.suppressed owner side bar).withBranch _⟩
      · rw [if_neg hterminal]
        rw [Bool.or_eq_true, not_or, Bool.not_eq_true, Bool.not_eq_true] at hterminal
        have hlt : secs < 85200 := by
          by_contra hge
          unfold nextOf at hterminal
          rw [if_neg hge] at hterminal
          simp at hterminal
        let entry := e.entryOf m owner side scale bar
        have hlatest : secs + 600 ≤ latest (force e.cfg date) owner := by
          cases owner with
          | mr => exact hmr rfl
          | bo =>
            have hearly := hterminal.1
            unfold terminal Bar.boundary at hearly
            rw [hb, addSecs_label (by omega), le_label, decide_eq_false_iff_not] at hearly
            show _ ≤ 84600
            omega
        have hwaiting : Waiting date (secs + 600) bars { e with pending := some (.entry entry) } := by
          refine h.pend hb hdvd hlast hm hfirst hlt rfl ?_ rfl rfl (fun _ => hlatest) ?_
            fun _ hexit => (nomatch hexit)
          · exact congrArg (Option.map Position.fill) hflat
          · rintro _ ⟨⟩
            exact hunmarked
        refine ⟨_, ensure_bind_eq_ok.mpr ⟨decide_eq_true (nextOf_of_lt hlt), rfl⟩, ?_⟩
        exact ⟨hwaiting.book, hwaiting.marks, hwaiting.levels, hwaiting.unmarked, hwaiting.held,
          hwaiting.metrics, hwaiting.valid⟩

theorem Opened.decide :
    ∃ e', e.decide m bar (nextOf secs bar) = .ok e' ∧ Waiting date (secs + 600) bars e' := by
  unfold Engine.decide
  cases hreason : e.exitReason m bar with
  | some reason =>
    obtain ⟨e', hexit, hpending, hwaiting⟩ := h.decideExit hb hdvd hlast hm hfirst hreason
    rw [hexit]
    exact ⟨_, if_pos hpending, hwaiting.withBranch _⟩
  | none =>
    have hstay : e.decideExit m bar (nextOf secs bar) = .ok e := by
      unfold Engine.decideExit
      rw [hreason]
    have hpending : ¬e.pending.isSome = true := by
      rw [h.pending]
      exact Bool.false_ne_true
    rw [hstay]
    show ∃ e', (if e.pending.isSome = true then _ else _) = _ ∧ _
    rw [if_neg hpending]
    split_ifs with hposition
    · exact ⟨_, rfl, (h.stay hb hdvd hm hfirst hreason).withBranch _⟩
    · exact h.decideEntry hb hdvd hlast hm hfirst (by simpa using hposition)

end Decide

/-! ### Sessions -/

theorem Waiting.flat (h : Waiting date 85800 bars e) : e.position = none ∧ e.pending = none := by
  obtain ⟨hopened, hpending⟩ := h.book.flat (force_le h.valid date)
  have hposition : e.position = none := Option.map_eq_none_iff.mp hopened
  refine ⟨hposition, ?_⟩
  cases haction : e.pending with
  | none => rfl
  | some action =>
    cases action with
    | entry entry =>
      have horder := order?_of_entry haction
      exact (nomatch horder.symm.trans hpending)
    | exit exit => exact absurd hposition (h.held exit haction)

theorem first_date_update (h : ∀ m ∈ e.metrics, m.first.date = date)
    (hb : bar.tsLocal = label date secs) :
    ((e.metrics.getD (.new bar)).update bar).first.date = date := by
  cases hmetrics : e.metrics with
  | none => exact congrArg NaiveDateTime.date hb
  | some m => exact h m hmetrics

theorem Waiting.stepFrozen (h : Waiting date secs bars e) (hb : bar.tsLocal = label date secs)
    (hdvd : 600 ∣ secs) (hle : secs ≤ 85200) :
    ∃ e', e.stepFrozen bar = .ok e' ∧ Waiting date (secs + 600) (bars ++ [bar]) e' := by
  let m := (e.metrics.getD (.new bar)).update bar
  have hfirst : m.first.date = date := first_date_update h.metrics hb
  have hstart : Waiting date secs bars { e with metrics := some m, branch := .notEvaluated } := by
    refine ⟨h.book, h.marks, h.levels, h.unmarked, h.held, ?_, h.valid⟩
    rintro _ ⟨⟩
    exact hfirst
  obtain ⟨e₁, wasPending, happly, hopened, hmetrics⟩ := hstart.applyPending hb
  obtain ⟨e₂, hdecide, hwaiting⟩ :=
    hopened.decide hb hdvd List.getLast?_concat hmetrics hfirst
  have hnext := nextOf_eq hb
  refine ⟨e₂, ?_, hwaiting⟩
  unfold Engine.stepFrozen
  dsimp only
  rw [happly]
  show e₁.decide m bar (if _ then _ else _) >>= _ = _
  rw [hnext, hdecide]
  show ensure _ _ >>= _ = _
  rw [ensure_bind_eq_ok]
  refine ⟨?_, rfl⟩
  by_cases hlt : secs < 85200
  · unfold nextOf
    rw [if_pos hlt]
    rfl
  · obtain rfl : secs = 85200 := by omega
    obtain ⟨hposition, hpending⟩ := hwaiting.flat
    rw [hposition, hpending]
    exact Bool.or_true _

end AlorRs.ShadowReaction.Usdrubf
