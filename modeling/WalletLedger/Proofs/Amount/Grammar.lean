import WalletLedger.Bundle.Draft
import Mathlib.Data.List.TakeWhile

/-!
# The grammar of amounts

Which texts are amounts, said by what they are put together from and not by how
they are read: digits, or digits, a point and digits. `isDecimal_iff` is that
this is what reading a text comes to.
-/

namespace WalletLedger

/-- One digit or more. -/
def IsDigits (cs : List Char) : Prop :=
  cs ≠ [] ∧ ∀ c ∈ cs, c.isDigit = true

/-- The grammar of amounts. -/
inductive IsDecimal : List Char → Prop where
  | whole {digits : List Char} (before : IsDigits digits) : IsDecimal digits
  | withFraction {digits places : List Char} (before : IsDigits digits) (behind : IsDigits places) :
      IsDecimal (digits ++ '.' :: places)

theorem isNumeral_iff {cs : List Char} : Text.isNumeral cs = true ↔ IsDigits cs := by
  simp [Text.isNumeral, IsDigits]

theorem IsDigits.not_mem {cs : List Char} (digits : IsDigits cs) {c : Char}
    (other : c.isDigit = false) : c ∉ cs := by
  intro mem
  rw [digits.2 c mem] at other
  cases other

/-! ## Splitting at the point -/

theorem decide_ne_point {cs : List Char} (pointless : '.' ∉ cs) :
    ∀ c ∈ cs, decide (c ≠ '.') = true := by
  intro c mem
  refine decide_eq_true fun point => ?_
  subst point
  exact pointless mem

theorem splitAtPoint_of_not_mem {cs : List Char} (pointless : '.' ∉ cs) :
    splitAtPoint cs = (cs, none) := by
  have passes := decide_ne_point pointless
  rw [splitAtPoint, List.takeWhile_eq_self_iff.2 passes, List.dropWhile_eq_nil_iff.2 passes]
  rfl

theorem splitAtPoint_append {cs : List Char} (pointless : '.' ∉ cs) (rest : List Char) :
    splitAtPoint (cs ++ '.' :: rest) = (cs, some rest) := by
  have passes := decide_ne_point pointless
  rw [splitAtPoint, List.takeWhile_append_of_pos passes, List.dropWhile_append_of_pos passes]
  simp

/-- A text is what stands before its first point, or that with the point and what stands behind. -/
theorem splitAtPoint_cases (cs : List Char) :
    splitAtPoint cs = (cs, none) ∨
      ∃ before behind, cs = before ++ '.' :: behind ∧ splitAtPoint cs = (before, some behind) := by
  by_cases point : '.' ∈ cs
  · obtain ⟨before, behind, rfl, pointless⟩ := List.eq_append_cons_of_mem point
    exact .inr ⟨before, behind, rfl, splitAtPoint_append pointless behind⟩
  · exact .inl (splitAtPoint_of_not_mem point)

/-! ## What is accepted -/

/-- The texts that are accepted as amounts are those of the grammar. -/
theorem isDecimal_iff {cs : List Char} : isDecimal cs = true ↔ IsDecimal cs := by
  constructor
  · intro accepted
    rw [isDecimal, Bool.and_eq_true] at accepted
    rcases splitAtPoint_cases cs with split | ⟨before, behind, rfl, split⟩
    · rw [split] at accepted
      exact .whole (isNumeral_iff.1 accepted.1)
    · rw [split] at accepted
      exact .withFraction (isNumeral_iff.1 accepted.1) (isNumeral_iff.1 accepted.2)
  · intro grammatical
    cases grammatical with
    | whole before =>
      rw [isDecimal, splitAtPoint_of_not_mem (before.not_mem rfl), isNumeral_iff.2 before]
      rfl
    | withFraction before behind =>
      rw [isDecimal, splitAtPoint_append (before.not_mem rfl), isNumeral_iff.2 before]
      exact isNumeral_iff.2 behind

instance (cs : List Char) : Decidable (IsDecimal cs) :=
  decidable_of_iff (isDecimal cs = true) isDecimal_iff

/-- A point has digits on both sides. -/
example : IsDecimal ['1', '.', '0'] ∧ ¬IsDecimal ['1', '.'] ∧ ¬IsDecimal ['.', '1'] := by decide

theorem DecimalAmount.isDecimal_text (amount : DecimalAmount) : IsDecimal amount.text.toList :=
  isDecimal_iff.1 amount.wellFormed

/-- An amount has no character but digits and the point. -/
theorem IsDecimal.not_mem {cs : List Char} (decimal : IsDecimal cs) {c : Char}
    (other : c.isDigit = false) (notPoint : c ≠ '.') : c ∉ cs := by
  cases decimal with
  | whole before => exact before.not_mem other
  | withFraction before behind =>
    intro mem
    rcases List.mem_append.1 mem with first | later
    · exact before.not_mem other first
    · rcases List.mem_cons.1 later with point | last
      · exact notPoint point
      · exact behind.not_mem other last

theorem DecimalAmount.hasNul_text (amount : DecimalAmount) : hasNul amount.text = false := by
  have absent : '\x00' ∉ amount.text.toList := amount.isDecimal_text.not_mem rfl (by decide)
  rw [hasNul, Bool.eq_false_iff, ne_eq, List.contains_iff_mem]
  exact absent

end WalletLedger
