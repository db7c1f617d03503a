import WalletLedger.Proofs.Amount.Grammar
import Mathlib.Algebra.Order.Field.Rat
import Mathlib.Data.List.DropRight
import Mathlib.Data.Rat.Cast.Order
import Mathlib.Tactic.FieldSimp
import Mathlib.Tactic.Positivity
import Mathlib.Tactic.Ring

/-!
# The value of an amount

The rational number that an amount denotes, and what base units have to do with
it. The zeros at the end of a fraction do not count, so an amount is a whole
number, its coefficient, over a power of ten, its scale, and a scale other than
zero is never too large: the coefficient then ends in a digit other than zero
(`not_dvd_coefficient`). That decides which powers of ten turn the amount into a
whole number (`value_mul_pow_eq_iff`).

The loop over the digits gives up at the first number that reaches the bound. The
numbers on the way never get smaller, so it gives up just if the last one does
not fit (`foldlM_appendDigit?`).

Main statement: `exact_or_refused`.
-/

namespace WalletLedger

/-! ## Runs of digits -/

namespace Text

theorem numeralValue_append (first second : List Char) :
    numeralValue (first ++ second) =
      numeralValue first * 10 ^ second.length + numeralValue second := by
  rw [numeralValue, Nat.ofDigitChars_append, Nat.ofDigitChars_eq_ofDigitChars_zero, Nat.mul_comm]
  rfl

theorem numeralValue_singleton (digit : Char) :
    numeralValue [digit] = digit.toNat - '0'.toNat := by
  rw [numeralValue, Nat.ofDigitChars_cons, Nat.mul_zero, Nat.zero_add, Nat.ofDigitChars_nil]

theorem numeralValue_zeros (count : Nat) : numeralValue (List.replicate count '0') = 0 := by
  rw [numeralValue, Nat.ofDigitChars_replicate_zero, Nat.mul_zero]

/-- A digit is a zero or stands for a number from one to nine. -/
theorem digit_cases {digit : Char} (isDigit : digit.isDigit = true) :
    digit = '0' ∨ 0 < numeralValue [digit] ∧ numeralValue [digit] < 10 := by
  obtain ⟨low, high⟩ := Char.isDigit_iff_toNat.1 isDigit
  rw [numeralValue_singleton]
  by_cases zero : digit.toNat = '0'.toNat
  · exact .inl (Char.toNat_inj.1 zero)
  · have nine : '9'.toNat = '0'.toNat + 9 := rfl
    omega

/-- The digits of nothing are zeros. -/
theorem numeralValue_eq_zero_iff {digits : List Char} (isDigit : ∀ c ∈ digits, c.isDigit = true) :
    numeralValue digits = 0 ↔ ∀ c ∈ digits, c = '0' := by
  induction digits with
  | nil => simp [numeralValue]
  | cons digit rest ih =>
    obtain ⟨first, others⟩ := List.forall_mem_cons.1 isDigit
    have split : numeralValue (digit :: rest) =
        numeralValue [digit] * 10 ^ rest.length + numeralValue rest :=
      numeralValue_append [digit] rest
    rw [split, Nat.add_eq_zero_iff, ih others, List.forall_mem_cons]
    refine and_congr_left fun _ => ?_
    rcases digit_cases first with rfl | ⟨positive, -⟩
    · rw [numeralValue_singleton, Nat.sub_self, Nat.zero_mul, eq_self, eq_self]
    · refine iff_of_false ?_ fun zero => ?_
      · exact Nat.mul_ne_zero positive.ne' (Nat.pow_pos (by decide)).ne'
      · rw [zero, numeralValue_singleton, Nat.sub_self] at positive
        exact Nat.lt_irrefl 0 positive

end Text

/-! ## Denotation -/

/-- The rational number that a text of the grammar denotes: that of the digits before the point,
and of the digits behind it over a power of ten. -/
inductive Denotes : List Char → ℚ → Prop where
  | whole {digits : List Char} (before : IsDigits digits) :
      Denotes digits (Text.numeralValue digits)
  | withFraction {digits places : List Char} (before : IsDigits digits) (behind : IsDigits places) :
      Denotes (digits ++ '.' :: places)
        (Text.numeralValue digits + Text.numeralValue places / 10 ^ places.length)

namespace DecimalAmount

variable (amount : DecimalAmount)

/-- The rational number that an amount denotes. -/
def value : ℚ :=
  Text.numeralValue amount.wholeDigits +
    Text.numeralValue amount.fractionDigits / 10 ^ amount.fractionDigits.length

/-- An amount is written in digits alone, or with a point and digits behind it. -/
theorem spelling_cases :
    IsDigits amount.wholeDigits ∧
      (amount.fractionDigits = [] ∧ amount.text.toList = amount.wholeDigits ∨
        IsDigits amount.fractionDigits ∧
          amount.text.toList = amount.wholeDigits ++ '.' :: amount.fractionDigits) := by
  have decimal := amount.isDecimal_text
  unfold wholeDigits fractionDigits
  generalize amount.text.toList = cs at decimal ⊢
  cases decimal with
  | whole before =>
    rw [splitAtPoint_of_not_mem (before.not_mem rfl)]
    exact ⟨before, .inl ⟨rfl, rfl⟩⟩
  | withFraction before behind =>
    rw [splitAtPoint_append (before.not_mem rfl)]
    exact ⟨before, .inr ⟨behind, rfl⟩⟩

theorem isDigit_of_mem_wholeDigits : ∀ c ∈ amount.wholeDigits, c.isDigit = true :=
  amount.spelling_cases.1.2

theorem isDigit_of_mem_fractionDigits : ∀ c ∈ amount.fractionDigits, c.isDigit = true := by
  rcases amount.spelling_cases with ⟨-, ⟨none, -⟩ | ⟨behind, -⟩⟩
  · rw [none]
    exact List.forall_mem_nil _
  · exact behind.2

/-- An amount denotes its value and nothing else. -/
theorem denotes_iff {q : ℚ} : Denotes amount.text.toList q ↔ q = amount.value := by
  have value_of {cs : List Char} (same : amount.text.toList = cs) (denotes : Denotes cs q) :
      q = amount.value := by
    cases denotes with
    | whole before =>
      have split := splitAtPoint_of_not_mem (before.not_mem (c := '.') rfl)
      simp [value, wholeDigits, fractionDigits, same, split, Text.numeralValue]
    | withFraction before behind =>
      have split := splitAtPoint_append (before.not_mem (c := '.') rfl)
      simp [value, wholeDigits, fractionDigits, same, split]
  constructor
  · exact value_of rfl
  · rintro rfl
    rcases amount.spelling_cases with ⟨before, ⟨none, same⟩ | ⟨behind, same⟩⟩
    · have whole : amount.value = Text.numeralValue amount.wholeDigits := by
        simp [value, none, Text.numeralValue]
      rw [same, whole]
      exact .whole before
    · rw [same]
      exact .withFraction before behind

/-! ## Coefficient and scale -/

/-- The digits of an amount without the zeros at the end of its fraction, read as a whole number. -/
def coefficient : Nat :=
  Text.numeralValue (amount.wholeDigits ++ amount.significantFraction)

/-- The number of digits behind the point without the zeros at the end. -/
def scale : Nat :=
  amount.significantFraction.length

/-- A fraction is what counts of it with zeros behind. -/
theorem exists_zeros :
    ∃ count, amount.fractionDigits =
      amount.significantFraction ++ List.replicate count '0' := by
  have zeros : amount.fractionDigits.rtakeWhile (· = '0') =
      List.replicate (amount.fractionDigits.rtakeWhile (· = '0')).length '0' := by
    refine List.eq_replicate_iff.2 ⟨rfl, fun c mem => ?_⟩
    exact of_decide_eq_true (List.mem_rtakeWhile_imp (p := (· = '0')) mem)
  have parts : amount.significantFraction ++ amount.fractionDigits.rtakeWhile (· = '0') =
      amount.fractionDigits := List.rdropWhile_append_rtakeWhile
  rw [zeros] at parts
  exact ⟨_, parts.symm⟩

/-- What counts of a fraction does not end in a zero. -/
theorem exists_last (fine : 0 < amount.scale) :
    ∃ front last, amount.significantFraction = front ++ [last] ∧ last ≠ '0' := by
  have filled : amount.significantFraction ≠ [] := List.length_pos_iff.1 fine
  have last := List.rdropWhile_last_not (· = '0') amount.fractionDigits filled
  refine ⟨_, _, (List.dropLast_append_getLast filled).symm, fun zero => ?_⟩
  exact last (decide_eq_true zero)

theorem isDigit_of_mem_significant :
    ∀ c ∈ amount.wholeDigits ++ amount.significantFraction, c.isDigit = true := by
  obtain ⟨count, fraction⟩ := amount.exists_zeros
  have behind := amount.isDigit_of_mem_fractionDigits
  rw [fraction] at behind
  exact List.forall_mem_append.2
    ⟨amount.isDigit_of_mem_wholeDigits, (List.forall_mem_append.1 behind).1⟩

theorem value_eq : amount.value = amount.coefficient / 10 ^ amount.scale := by
  obtain ⟨count, fraction⟩ := amount.exists_zeros
  rw [value, coefficient, scale, fraction, Text.numeralValue_append, Text.numeralValue_append,
    Text.numeralValue_zeros, List.length_append, List.length_replicate]
  push_cast
  field_simp
  ring

/-- A coefficient over a power of ten ends in a digit other than zero. -/
theorem not_dvd_coefficient (fine : 0 < amount.scale) : ¬10 ∣ amount.coefficient := by
  obtain ⟨front, last, ends, notZero⟩ := amount.exists_last fine
  have digit : last.isDigit = true := by
    refine amount.isDigit_of_mem_significant last (List.mem_append_right _ ?_)
    rw [ends]
    exact List.mem_append_right _ List.mem_cons_self
  have split : amount.coefficient =
      Text.numeralValue (amount.wholeDigits ++ front) * 10 + Text.numeralValue [last] := by
    rw [coefficient, ends, ← List.append_assoc, Text.numeralValue_append, List.length_singleton,
      pow_one]
  rcases Text.digit_cases digit with zero | ⟨positive, small⟩
  · exact absurd zero notZero
  · omega

/-- The powers of ten that turn an amount into a whole number. -/
theorem value_mul_pow_eq_iff {places n : Nat} :
    amount.value * 10 ^ places = n ↔
      amount.scale ≤ places ∧ amount.coefficient * 10 ^ (places - amount.scale) = n := by
  rw [value_eq]
  rcases Nat.lt_or_ge places amount.scale with coarse | enough
  · -- the power of ten that is missing would divide the coefficient
    obtain ⟨missing, further⟩ := Nat.exists_eq_add_of_lt coarse
    refine iff_of_false (fun whole => ?_) fun both => Nat.not_le.2 coarse both.1
    rw [further, div_mul_eq_mul_div, div_eq_iff (by positivity)] at whole
    have shifted : amount.coefficient = n * 10 ^ (missing + 1) := by
      have cancelled : (amount.coefficient : ℚ) * 10 ^ places =
          n * 10 ^ (missing + 1) * 10 ^ places := by
        rw [whole]
        ring
      exact_mod_cast mul_right_cancel₀ (by positivity) cancelled
    refine amount.not_dvd_coefficient (Nat.zero_lt_of_lt coarse) ?_
    rw [shifted, pow_succ, ← Nat.mul_assoc]
    exact Nat.dvd_mul_left 10 _
  · obtain ⟨extra, rfl⟩ := Nat.exists_eq_add_of_le enough
    have cancelled : (amount.coefficient : ℚ) / 10 ^ amount.scale * 10 ^ (amount.scale + extra) =
        amount.coefficient * 10 ^ extra := by
      rw [pow_add]
      field_simp
    rw [cancelled, Nat.add_sub_cancel_left, and_iff_right enough]
    norm_cast

/-! ## Base units -/

/-- Appending digits gives up just if the last number reaches the bound. -/
theorem foldlM_appendDigit? {units : Nat} (fits : units < unitBound) (digits : List Char) :
    digits.foldlM appendDigit? units =
      if Nat.ofDigitChars 10 digits units < unitBound then
        some (Nat.ofDigitChars 10 digits units)
      else none := by
  induction digits generalizing units with
  | nil => rw [Nat.ofDigitChars_nil, if_pos fits, List.foldlM_nil]; rfl
  | cons digit rest ih =>
    rw [List.foldlM_cons, Nat.ofDigitChars_cons, appendDigit?]
    by_cases next : 10 * units + (digit.toNat - '0'.toNat) < unitBound
    · rw [if_pos next]
      exact ih next
    · -- what is appended later only makes the number larger
      have grows : 10 * units + (digit.toNat - '0'.toNat) ≤
          Nat.ofDigitChars 10 rest (10 * units + (digit.toNat - '0'.toNat)) := by
        rw [Nat.ofDigitChars_eq_ofDigitChars_zero]
        exact le_add_right (Nat.le_mul_of_pos_left _ (Nat.pow_pos (by decide)))
      rw [if_neg next, if_neg fun last => next (grows.trans_lt last)]
      rfl

/-- Base units are the coefficient shifted by the places that are left, if it is of no more places
and stays below the bound. -/
theorem toBaseUnits?_eq (decimals : UInt8) :
    amount.toBaseUnits? decimals =
      if amount.scale ≤ decimals.toNat ∧
          amount.coefficient * 10 ^ (decimals.toNat - amount.scale) < unitBound then
        some (amount.coefficient * 10 ^ (decimals.toNat - amount.scale))
      else none := by
  have last (padding : Nat) :
      Nat.ofDigitChars 10
        (amount.wholeDigits ++ amount.significantFraction ++ List.replicate padding '0') 0 =
          amount.coefficient * 10 ^ padding := by
    rw [← Text.numeralValue, Text.numeralValue_append, Text.numeralValue_zeros,
      List.length_replicate, Nat.add_zero, coefficient]
  rw [toBaseUnits?]
  split
  · next coarse => rw [if_neg fun both => Nat.not_le.2 coarse both.1]
  · next enough =>
    rw [foldlM_appendDigit? (by decide), last, scale]
    exact if_congr (and_iff_right (Nat.not_lt.1 enough)).symm rfl rfl

/-- An amount is that many base units just if it makes that many, and they fit. -/
theorem toBaseUnits?_eq_some_iff {decimals : UInt8} {n : Nat} :
    amount.toBaseUnits? decimals = some n ↔
      amount.value * 10 ^ decimals.toNat = n ∧ n < unitBound := by
  rw [toBaseUnits?_eq, value_mul_pow_eq_iff]
  split
  · next fits =>
    rw [Option.some.injEq, and_iff_right fits.1]
    refine ⟨fun same => ⟨same, same ▸ fits.2⟩, And.left⟩
  · next refused =>
    refine iff_of_false nofun ?_
    rintro ⟨⟨enough, rfl⟩, fits⟩
    exact refused ⟨enough, fits⟩

/-- Zeros in front of the number and zeros at the end of the fraction do not count. -/
example : (⟨"01.50", by decide⟩ : DecimalAmount).toBaseUnits? 1 = some 15 := by decide

/-- In a unit that is smaller by a power of ten an amount is larger by it. -/
theorem toBaseUnits?_rescaled {coarse fine : UInt8} (finer : coarse ≤ fine) {few many : Nat}
    (inCoarse : amount.toBaseUnits? coarse = some few)
    (inFine : amount.toBaseUnits? fine = some many) :
    many = few * 10 ^ (fine.toNat - coarse.toNat) := by
  obtain ⟨fewUnits, -⟩ := amount.toBaseUnits?_eq_some_iff.1 inCoarse
  obtain ⟨manyUnits, -⟩ := amount.toBaseUnits?_eq_some_iff.1 inFine
  obtain ⟨extra, places⟩ := Nat.exists_eq_add_of_le (UInt8.le_iff_toNat_le.1 finer)
  rw [places, pow_add, ← mul_assoc, fewUnits] at manyUnits
  rw [places, Nat.add_sub_cancel_left]
  exact_mod_cast manyUnits.symm

theorem value_nonneg : 0 ≤ amount.value := by
  rw [value_eq]
  positivity

/-- An amount is refused just if it makes no whole number of base units or too many. -/
theorem toBaseUnits?_eq_none_iff {decimals : UInt8} :
    amount.toBaseUnits? decimals = none ↔
      ∀ z : ℤ, amount.value * 10 ^ decimals.toNat = z → (unitBound : ℤ) ≤ z := by
  rw [Option.eq_none_iff_forall_ne_some]
  constructor
  · intro refused z whole
    have natural : 0 ≤ z := by
      have product : 0 ≤ amount.value * 10 ^ decimals.toNat :=
        mul_nonneg amount.value_nonneg (by positivity)
      rw [whole] at product
      exact_mod_cast product
    obtain ⟨n, rfl⟩ := Int.eq_ofNat_of_zero_le natural
    refine Int.not_lt.1 fun fits => refused n (amount.toBaseUnits?_eq_some_iff.2 ⟨?_, ?_⟩)
    · exact_mod_cast whole
    · exact_mod_cast fits
  · intro large n converted
    obtain ⟨whole, fits⟩ := amount.toBaseUnits?_eq_some_iff.1 converted
    have bound := large n (by exact_mod_cast whole)
    omega

/-! ## Nothing -/

theorem value_eq_zero_iff :
    amount.value = 0 ↔
      (∀ c ∈ amount.wholeDigits, c = '0') ∧ ∀ c ∈ amount.fractionDigits, c = '0' := by
  rw [value, add_eq_zero_iff_of_nonneg (by positivity) (by positivity), div_eq_zero_iff,
    or_iff_left (by positivity), Nat.cast_eq_zero, Nat.cast_eq_zero,
    Text.numeralValue_eq_zero_iff amount.isDigit_of_mem_wholeDigits,
    Text.numeralValue_eq_zero_iff amount.isDigit_of_mem_fractionDigits]

theorem isZero_iff : amount.isZero = true ↔ amount.value = 0 := by
  -- a digit is not the point, so in a run of digits only zeros are left
  have zeros {digits : List Char} (isDigit : ∀ c ∈ digits, c.isDigit = true) :
      (∀ c ∈ digits, c = '0' ∨ c = '.') ↔ ∀ c ∈ digits, c = '0' := by
    refine forall₂_congr fun c mem => or_iff_left ?_
    rintro rfl
    exact Bool.false_ne_true (isDigit '.' mem)
  rw [value_eq_zero_iff, ← zeros amount.isDigit_of_mem_wholeDigits,
    ← zeros amount.isDigit_of_mem_fractionDigits]
  rcases amount.spelling_cases with ⟨-, ⟨none, same⟩ | ⟨-, same⟩⟩
  · simp [isZero, same, none]
  · simp [isZero, same]

theorem isZero_iff_forall_toBaseUnits? :
    amount.isZero = true ↔ ∀ decimals, amount.toBaseUnits? decimals = some 0 := by
  rw [isZero_iff]
  constructor
  · intro zero decimals
    refine amount.toBaseUnits?_eq_some_iff.2 ⟨?_, by decide⟩
    rw [zero, zero_mul, Nat.cast_zero]
  · intro nothing
    have units := (amount.toBaseUnits?_eq_some_iff.1 (nothing 0)).1
    simpa using units

/-! ## Subtractions -/

/-- What may stop a conversion in which subtractions are checked. -/
inductive Breakdown where
  /-- A difference was below zero. -/
  | underflow
  | inexpressible
deriving DecidableEq, Repr

/-- The difference of two numbers without sign. -/
def subtract (a b : Nat) : Except Breakdown Nat :=
  if b ≤ a then .ok (a - b) else .error .underflow

/-- Appends a digit, whose number is a checked difference. -/
def appendDigitChecked (units : Nat) (digit : Char) : Except Breakdown Nat := do
  let number ← subtract digit.toNat '0'.toNat
  let next := 10 * units + number
  if next < unitBound then .ok next else .error .inexpressible

/-- An amount in base units, with every subtraction checked. -/
def toBaseUnitsChecked (decimals : UInt8) : Except Breakdown Nat :=
  let fraction := amount.significantFraction
  let places := decimals.toNat
  if places < fraction.length then .error .inexpressible
  else do
    let padding ← subtract places fraction.length
    (amount.wholeDigits ++ fraction ++ List.replicate padding '0').foldlM appendDigitChecked 0

theorem subtract_of_le {a b : Nat} (le : b ≤ a) : subtract a b = .ok (a - b) :=
  if_pos le

theorem appendDigitChecked_of_isDigit {digit : Char} (isDigit : digit.isDigit = true)
    (units : Nat) :
    appendDigitChecked units digit = (appendDigit? units digit).elim (.error .inexpressible) .ok := by
  rw [appendDigitChecked, subtract_of_le (Char.isDigit_iff_toNat.1 isDigit).1, appendDigit?]
  change (if _ then _ else _) = _
  split <;> rfl

theorem foldlM_appendDigitChecked {digits : List Char}
    (isDigit : ∀ c ∈ digits, c.isDigit = true) (units : Nat) :
    digits.foldlM appendDigitChecked units =
      (digits.foldlM appendDigit? units).elim (.error .inexpressible) .ok := by
  induction digits generalizing units with
  | nil => rfl
  | cons digit rest ih =>
    obtain ⟨first, others⟩ := List.forall_mem_cons.1 isDigit
    rw [List.foldlM_cons, List.foldlM_cons, appendDigitChecked_of_isDigit first]
    cases appendDigit? units digit with
    | none => rfl
    | some next => exact ih others next

/-- No subtraction of a conversion goes below zero: checking them all changes nothing. -/
theorem toBaseUnitsChecked_eq (decimals : UInt8) :
    amount.toBaseUnitsChecked decimals =
      (amount.toBaseUnits? decimals).elim (.error .inexpressible) .ok := by
  rw [toBaseUnitsChecked, toBaseUnits?]
  split
  · rfl
  · next enough =>
    have isDigit (padding : Nat) : ∀ c ∈ amount.wholeDigits ++ amount.significantFraction ++
        List.replicate padding '0', c.isDigit = true := by
      refine List.forall_mem_append.2 ⟨amount.isDigit_of_mem_significant, fun c mem => ?_⟩
      rw [List.eq_of_mem_replicate mem]
      rfl
    rw [subtract_of_le (Nat.not_lt.1 enough)]
    exact foldlM_appendDigitChecked (isDigit _) 0

/-! ## Conversion as a whole -/

/-- An amount denotes one rational number. It is converted to base units just if it is a whole
number of them that fits 128 bits, without going below zero on the way, and it is nothing just if
it is no base units of any size. -/
theorem exact_or_refused (amount : DecimalAmount) :
    ∃ q : ℚ, (∀ p, Denotes amount.text.toList p ↔ p = q) ∧
      (∀ decimals : UInt8,
        (∀ n : ℕ, amount.toBaseUnits? decimals = some n ↔
          q * 10 ^ decimals.toNat = n ∧ n < 2 ^ 128) ∧
        (amount.toBaseUnits? decimals = none ↔
          ∀ z : ℤ, q * 10 ^ decimals.toNat = z → 2 ^ 128 ≤ z) ∧
        amount.toBaseUnitsChecked decimals =
          (amount.toBaseUnits? decimals).elim (.error .inexpressible) .ok) ∧
      (amount.isZero = true ↔ ∀ decimals, amount.toBaseUnits? decimals = some 0) := by
  refine ⟨amount.value, fun p => amount.denotes_iff, fun decimals => ⟨fun n => ?_, ?_, ?_⟩, ?_⟩
  · exact amount.toBaseUnits?_eq_some_iff
  · exact amount.toBaseUnits?_eq_none_iff
  · exact amount.toBaseUnitsChecked_eq decimals
  · exact amount.isZero_iff_forall_toBaseUnits?

end DecimalAmount

end WalletLedger
