import Mathlib.Tactic.Common
import Scopelight.Text.Case
import Scopelight.Text.Character

/-!
# ASCII characters

What holds of each of the first characters holds of an ASCII character (`ascii_induction`). In lower
case an ASCII text stays what it is character by character, whatever stands around it
(`lowerAfter_ascii`).
-/

namespace Scopelight.Text

theorem ascii_induction {P : Char → Prop} (h : ∀ n < 128, P (Char.ofNat n)) {c : Char}
    (hc : c.toNat < 128) : P c := by
  have := h c.toNat hc
  rwa [Char.ofNat_toNat] at this

theorem toNat_lt_of_isAlphanum {c : Char} (h : c.isAlphanum = true) : c.toNat < 128 := by
  have hle : c.toNat ≤ 'z'.toNat := by
    rcases Bool.or_eq_true_iff.1 h with halpha | hdigit
    · rcases Bool.or_eq_true_iff.1 halpha with hupper | hlower
      · exact Nat.le_trans (of_decide_eq_true hupper).2 (by decide)
      · exact of_decide_eq_true (Bool.and_eq_true_iff.1 hlower).2
    · exact Nat.le_trans (of_decide_eq_true (Bool.and_eq_true_iff.1 hdigit).2) (by decide)
  exact Nat.lt_of_le_of_lt hle (by decide)

theorem mapCase_ascii {c : Char} (hc : c.toNat < 128) :
    mapCase lowerShift lowerSeveral c = [c.toLower] ∧ c ≠ 'Σ' :=
  ascii_induction (P := fun c => mapCase lowerShift lowerSeveral c = [c.toLower] ∧ c ≠ 'Σ')
    (by decide +kernel) hc

theorem toLower_eq_iff {c d : Char} (hc : c.toNat < 128) (hd : d ∈ ['.', '/', ' ', '\t']) :
    c.toLower = d ↔ c = d := by
  have hall : (['.', '/', ' ', '\t'].all fun d => c.toLower = d ↔ c = d) = true :=
    ascii_induction
      (P := fun c => (['.', '/', ' ', '\t'].all fun d => c.toLower = d ↔ c = d) = true)
      (by decide +kernel) hc
  simpa using List.all_eq_true.1 hall d hd

theorem lowerAfter_ascii (before : List Char) {cs : List Char} (h : ∀ c ∈ cs, c.toNat < 128) :
    lowerAfter before cs = cs.map Char.toLower := by
  induction cs generalizing before with
  | nil => rfl
  | cons c cs ih =>
    obtain ⟨hlower, hsigma⟩ := mapCase_ascii (h c (by simp))
    rw [lowerAfter, if_neg hsigma, hlower, ih _ fun d hd => h d (by simp [hd])]
    rfl

/-- What follows a text in lower case does not depend on it but for the end of words. -/
theorem exists_lowerAfter_append (before cs ds : List Char) :
    ∃ es, lowerAfter before (cs ++ ds) = es ++ lowerAfter (cs.reverse ++ before) ds := by
  induction cs generalizing before with
  | nil => exact ⟨[], rfl⟩
  | cons c cs ih =>
    obtain ⟨es, hes⟩ := ih (c :: before)
    rw [List.cons_append, lowerAfter, hes, ← List.append_assoc]
    simp only [List.reverse_cons, List.append_assoc, List.singleton_append]
    exact ⟨_, (List.append_assoc ..).symm⟩

end Scopelight.Text
