import AlorRs.Lib.History
import Mathlib.Data.List.Induction
import Mathlib.Order.Monotone.Defs
import Mathlib.Order.Nat

/-!
# Tokens that are used once

An entry of a log may grant a token, use the token that is held, revoke it, or keep it (`Move`); a token
that is granted takes the place of the one that is held.  Where every use meets a token (`Meets`), the
uses belong to grants before them, each to another one, and the token is kept in between
(`exists_matching`); so there are no more uses than grants (`countP_use_le`).
-/

namespace OneShot

/-- What happens to the token that is held. -/
inductive Move (T : Type) where
  | grant (token : T)
  | use | revoke | keep

variable {E T : Type}

namespace Move

def apply (held : Option T) : Move T → Option T
  | .grant token => some token
  | .use | .revoke => none
  | .keep => held

def isGrant : Move T → Bool
  | .grant _ => true
  | .use | .revoke | .keep => false

def isUse : Move T → Bool
  | .use => true
  | .grant _ | .revoke | .keep => false

end Move

variable (move : E → Move T)

def held (log : List E) : Option T := log.foldl (fun token e => (move e).apply token) none

structure GrantedAt (log : List E) (token : T) (i : ℕ) : Prop where
  granted : ∃ e, log[i]? = some e ∧ move e = .grant token
  kept : ∀ k e, i < k → log[k]? = some e → move e = .keep

def Meets (Fits : T → E → Prop) (before : List E) (e : E) : Prop :=
  move e = .use → ∃ token, held move before = some token ∧ Fits token e

variable {move} {log : List E} {token : T} {e : E}

@[simp] theorem held_concat : held move (log ++ [e]) = (move e).apply (held move log) := by
  unfold held
  rw [List.foldl_append]
  rfl

/-- Entries that keep the token. -/
theorem held_append {new : List E} (h : ∀ e ∈ new, move e = .keep) :
    held move (log ++ new) = held move log := by
  induction new generalizing log with
  | nil => rw [List.append_nil]
  | cons e new ih =>
    rw [← List.singleton_append, ← List.append_assoc,
      ih fun e' hmem => h e' (List.mem_cons_of_mem _ hmem), held_concat, h e (List.mem_cons_self ..)]
    rfl

/-- A token that is held was granted. -/
theorem exists_grantedAt (h : held move log = some token) : ∃ i, GrantedAt move log token i := by
  induction log using List.reverseRecOn with
  | nil => cases h
  | append_singleton log e ih =>
    rw [held_concat] at h
    cases hmove : move e with
    | grant token' =>
      rw [hmove] at h
      obtain rfl : token' = token := Option.some.inj h
      refine ⟨log.length, ⟨e, List.getElem?_concat_length, hmove⟩, fun k e' hk hget => ?_⟩
      have hlt := (List.getElem?_eq_some_iff.mp hget).1
      rw [List.length_append, List.length_singleton] at hlt
      omega
    | use | revoke =>
      rw [hmove] at h
      cases h
    | keep =>
      rw [hmove] at h
      obtain ⟨i, ⟨e', hget, hgrant⟩, hkept⟩ := ih h
      have hlt := (List.getElem?_eq_some_iff.mp hget).1
      refine ⟨i, ⟨e', by rw [List.getElem?_append_left hlt, hget], hgrant⟩, fun k e'' hk hget' => ?_⟩
      by_cases hlast : k < log.length
      · rw [List.getElem?_append_left hlast] at hget'
        exact hkept k e'' hk hget'
      · rw [List.getElem?_append_right (Nat.le_of_not_lt hlast)] at hget'
        rw [List.mem_singleton.mp (List.mem_of_getElem? hget')]
        exact hmove

variable {Fits : T → E → Prop}

/-- The uses belong to different grants before them. -/
theorem exists_matching (h : History.EachAfter (Meets move Fits) log) :
    ∃ grantOf : ℕ → ℕ, StrictMonoOn grantOf {j | ∃ e, log[j]? = some e ∧ move e = .use} ∧
      ∀ j e, log[j]? = some e → move e = .use →
        ∃ token, GrantedAt move (log.take j) token (grantOf j) ∧ Fits token e := by
  have hgrants : ∀ j, ∃ i, ∀ e, log[j]? = some e → move e = .use →
      ∃ token, GrantedAt move (log.take j) token i ∧ Fits token e := by
    -- what is no use gets any number
    intro j
    by_cases huse : ∃ e, log[j]? = some e ∧ move e = .use
    · obtain ⟨e, hget, hmove⟩ := huse
      obtain ⟨token, hheld, hfits⟩ := h j e hget hmove
      obtain ⟨i, hgranted⟩ := exists_grantedAt hheld
      refine ⟨i, fun e' hget' _ => ?_⟩
      obtain rfl := Option.some.inj (hget.symm.trans hget')
      exact ⟨token, hgranted, hfits⟩
    · exact ⟨0, fun e hget hmove => absurd ⟨e, hget, hmove⟩ huse⟩
  choose grantOf hgrantOf using hgrants
  refine ⟨grantOf, ?_, hgrantOf⟩
  rintro j ⟨e, hget, hmove⟩ j' ⟨e', hget', hmove'⟩ hlt
  obtain ⟨token, ⟨⟨granter, hgranter, -⟩, -⟩, -⟩ := hgrantOf j e hget hmove
  obtain ⟨token', ⟨⟨granter', hgranter', hgrant'⟩, hkept'⟩, -⟩ := hgrantOf j' e' hget' hmove'
  -- a grant comes before its use
  have hbefore : grantOf j < j := by
    have hlength := (List.getElem?_eq_some_iff.mp hgranter).1
    rw [List.length_take] at hlength
    omega
  have hget'' : (log.take j')[j]? = some e := by
    rw [List.getElem?_take_of_lt hlt, hget]
  -- the later grant comes after the earlier use, which would not have kept the token
  have hafter : j < grantOf j' := by
    rcases lt_trichotomy j (grantOf j') with hless | heq | hgreater
    · exact hless
    · rw [← heq, hget''] at hgranter'
      obtain rfl := Option.some.inj hgranter'
      rw [hmove] at hgrant'
      cases hgrant'
    · have hkeep := hkept' j e hgreater hget''
      rw [hmove] at hkeep
      cases hkeep
  omega

/-- There are no more uses than grants. -/
theorem countP_use_le (h : History.EachAfter (Meets move Fits) log) :
    log.countP (fun e => (move e).isUse) ≤ log.countP fun e => (move e).isGrant := by
  have hheld : log.countP (fun e => (move e).isUse) + (if (held move log).isSome then 1 else 0) ≤
      log.countP fun e => (move e).isGrant := by
    induction log using List.reverseRecOn with
    | nil => exact le_rfl
    | append_singleton log e ih =>
      obtain ⟨hlog, hlast⟩ := History.eachAfter_concat.mp h
      have hbefore := ih hlog
      rw [held_concat, List.countP_append, List.countP_append, List.countP_singleton,
        List.countP_singleton]
      cases hmove : move e with
      | grant token =>
        change _ + 0 + 1 ≤ _ + 1
        omega
      | use =>
        obtain ⟨token, htoken, -⟩ := hlast hmove
        rw [htoken] at hbefore
        exact hbefore
      | revoke =>
        change _ + 0 + 0 ≤ _ + 0
        omega
      | keep =>
        exact hbefore
  omega

end OneShot
