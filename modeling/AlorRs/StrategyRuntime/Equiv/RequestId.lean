import AlorRs.Lib.Runs
import AlorRs.StrategyRuntime.RequestId
import Std.Data.String.ToInt

/-!
# Correctness of the request identifiers

The name behind a request identifier determines the symbol, the action, the time and the number
(`deterministicRequestId_inj`): the symbol may hold a `|`, but what follows it cannot.
-/

namespace AlorRs

/-! ### Decimal numbers -/

theorem not_mem_toList_repr_nat (n : ℕ) : '|' ∉ n.repr.toList := by
  intro h
  have hmem : '|' ∈ Nat.toDigits 10 n := by simpa using h
  have hdigit := Nat.isDigit_of_mem_toDigits (by decide) (by decide) hmem
  exact absurd hdigit (by decide)

theorem not_mem_toList_toString_nat (n : ℕ) : '|' ∉ (toString n).toList :=
  not_mem_toList_repr_nat n

theorem not_mem_toList_toString_int (z : ℤ) : '|' ∉ (toString z).toList := by
  cases z with
  | ofNat n => exact not_mem_toList_repr_nat n
  | negSucc n =>
    change '|' ∉ ("-" ++ (n + 1).repr).toList
    rw [String.toList_append, List.mem_append, not_or]
    exact ⟨by decide, not_mem_toList_repr_nat _⟩

/-! ### Names -/

/-- What stands before and after the last separator is determined by the string. -/
theorem append_bar_inj {a a' b b' : String} (hb : '|' ∉ b.toList) (hb' : '|' ∉ b'.toList)
    (h : a ++ "|" ++ b = a' ++ "|" ++ b') : a = a' ∧ b = b' := by
  have hbar : ("|" : String).toList = ['|'] := by decide
  have hlist := congrArg String.toList h
  simp only [String.toList_append, hbar, List.append_assoc, List.singleton_append] at hlist
  obtain ⟨ha, hb⟩ := Separated.append_sep_inj hb hb' hlist
  exact ⟨String.toList_inj.mp ha, String.toList_inj.mp hb⟩

theorem deterministicRequestId_inj {strategyId portfolio symbol symbol' action action' : String}
    {barTs barTs' : ℤ} {seq seq' : ℕ} (ha : '|' ∉ action.toList) (ha' : '|' ∉ action'.toList)
    (h : deterministicRequestId strategyId portfolio symbol action barTs seq =
      deterministicRequestId strategyId portfolio symbol' action' barTs' seq') :
    symbol = symbol' ∧ action = action' ∧ barTs = barTs' ∧ seq = seq' := by
  obtain ⟨h, hseq⟩ :=
    append_bar_inj (not_mem_toList_toString_nat seq) (not_mem_toList_toString_nat seq') (Uuid.v5.inj h)
  obtain ⟨h, hts⟩ :=
    append_bar_inj (not_mem_toList_toString_int barTs) (not_mem_toList_toString_int barTs') h
  obtain ⟨h, haction⟩ := append_bar_inj ha ha' h
  have hsymbol := congrArg String.toList h
  simp only [String.toList_append, List.append_cancel_left_eq] at hsymbol
  exact ⟨String.toList_inj.mp hsymbol, haction, Int.repr_injective hts, Nat.repr_injective hseq⟩

end AlorRs
