import WalletLedger.Text.Numeral
import Mathlib.Data.List.TakeWhile

/-!
# Runs of characters and numerals in a text

A reader takes the longest run of characters that pass a test. It takes a written
run and no more if the text behind it begins with another character (`EndsRun`).
Numerals are such runs: of digits, at least one, and without a zero in front of
others. Numbers in four hexadecimal digits are read in either case.
-/

namespace WalletLedger.Text

/-! ## Runs -/

/-- A run of characters that pass a test ends in front of a text. -/
def EndsRun (test : Char → Bool) (rest : List Char) : Prop :=
  ∀ c ∈ rest.head?, test c = false

section

variable {test : Char → Bool} {run rest : List Char}

theorem endsRun_nil : EndsRun test [] := nofun

theorem endsRun_cons {c : Char} : EndsRun test (c :: rest) ↔ test c = false := by
  simp [EndsRun]

theorem EndsRun.mono {narrow : Char → Bool} (ends : EndsRun test rest)
    (within : ∀ c, narrow c = true → test c = true) : EndsRun narrow rest := by
  intro c mem
  refine Bool.eq_false_iff.2 fun passes => ?_
  have fails := ends c mem
  rw [within c passes] at fails
  cases fails

theorem EndsRun.take (ends : EndsRun test rest) (n : Nat) : EndsRun test (rest.take n) := by
  cases n with
  | zero => exact endsRun_nil
  | succ n =>
    rw [EndsRun, List.head?_take, if_neg (Nat.succ_ne_zero n)]
    exact ends

/-- A test tells characters apart. -/
theorem ne_of_test {c d : Char} (passes : test c = true) (fails : test d = false) : c ≠ d :=
  ne_of_apply_ne test (by rw [passes, fails]; exact Bool.noConfusion)

theorem takeWhile_append_of_endsRun (passes : ∀ c ∈ run, test c = true)
    (ends : EndsRun test rest) : (run ++ rest).takeWhile test = run := by
  rw [List.takeWhile_append_of_pos passes]
  cases rest with
  | nil => exact List.append_nil run
  | cons c rest =>
    rw [List.takeWhile_cons_of_neg (Bool.not_eq_true _ ▸ endsRun_cons.1 ends), List.append_nil]

theorem dropWhile_append_of_endsRun (passes : ∀ c ∈ run, test c = true)
    (ends : EndsRun test rest) : (run ++ rest).dropWhile test = rest := by
  rw [List.dropWhile_append_of_pos passes]
  cases rest with
  | nil => rfl
  | cons c rest => exact List.dropWhile_cons_of_neg (Bool.not_eq_true _ ▸ endsRun_cons.1 ends)

end

/-- What is written for every item of a list is as long as the list at least. -/
theorem length_le_flatMap {α : Type} {write : α → List Char} (given : ∀ a, write a ≠ [])
    (list : List α) : list.length ≤ (list.flatMap write).length := by
  induction list with
  | nil => exact Nat.zero_le _
  | cons a rest ih =>
    have first : 0 < (write a).length := List.length_pos_iff.2 (given a)
    rw [List.flatMap_cons, List.length_append, List.length_cons]
    omega

/-! ## Numerals -/

theorem isDigit_of_mem_numeral {n : Nat} {c : Char} (mem : c ∈ numeral n) : c.isDigit = true :=
  Nat.isDigit_of_mem_toDigits (by decide) (by decide) mem

theorem numeral_ne_nil (n : Nat) : numeral n ≠ [] :=
  Nat.toDigits_ne_nil

/-- A numeral begins with a digit. -/
theorem numeral_eq_cons (n : Nat) : ∃ c more, numeral n = c :: more ∧ c.isDigit = true := by
  cases digits : numeral n with
  | nil => exact absurd digits (numeral_ne_nil n)
  | cons c more =>
    exact ⟨c, more, rfl, isDigit_of_mem_numeral (digits ▸ List.mem_cons_self : c ∈ numeral n)⟩

theorem numeral_append_ne (n : Nat) {c : Char} (other : c.isDigit = false)
    (rest others : List Char) : numeral n ++ rest ≠ c :: others := by
  obtain ⟨first, more, digits, digit⟩ := numeral_eq_cons n
  rw [digits, List.cons_append]
  exact fun same => ne_of_test digit other (List.cons.inj same).1

theorem takeWhile_numeral_append (n : Nat) {rest : List Char} (ends : EndsRun Char.isDigit rest) :
    (numeral n ++ rest).takeWhile Char.isDigit = numeral n :=
  takeWhile_append_of_endsRun (fun _ => isDigit_of_mem_numeral) ends

theorem dropWhile_numeral_append (n : Nat) {rest : List Char} (ends : EndsRun Char.isDigit rest) :
    (numeral n ++ rest).dropWhile Char.isDigit = rest :=
  dropWhile_append_of_endsRun (fun _ => isDigit_of_mem_numeral) ends

/-- A numeral begins with a zero only if it is the numeral of zero. -/
theorem head?_numeral {n : Nat} (positive : 0 < n) : (numeral n).head? ≠ some '0' := by
  induction n using Nat.strongRecOn with
  | ind n ih =>
    unfold numeral at ih ⊢
    by_cases single : n < 10
    · rw [Nat.toDigits_of_lt_base single, List.head?_cons, ne_eq, Option.some.injEq,
        Nat.digitChar_eq_zero]
      omega
    · rw [Nat.toDigits_of_base_le (by decide) (by omega),
        List.head?_append, Option.or_of_isSome (by simp [Nat.toDigits_ne_nil])]
      exact ih (n / 10) (by omega) (by omega)

/-- The digits of a numeral, of which the first one is zero only if there is no other. -/
theorem numeral_cases (n : Nat) :
    n = 0 ∧ numeral n = ['0'] ∨ 0 < n ∧ ∃ c others, numeral n = c :: others ∧ c ≠ '0' := by
  rcases Nat.eq_zero_or_pos n with rfl | positive
  · exact .inl ⟨rfl, rfl⟩
  · have first := head?_numeral positive
    cases digits : numeral n with
    | nil => exact absurd digits (numeral_ne_nil n)
    | cons c others =>
      rw [digits, List.head?_cons] at first
      exact .inr ⟨positive, c, others, rfl, fun zero => first (congrArg some zero)⟩

/-! ## Four hexadecimal digits -/

theorem hexDigit?_digitChar : ∀ d < 16, hexDigit? d.digitChar = some d := by
  decide

theorem hexDigit?_toUpper_digitChar : ∀ d < 16, hexDigit? d.digitChar.toUpper = some d := by
  decide

/-- Four digits are read as the number that they were written for, in whatever form they are. -/
theorem hexValue?_map_hexQuad {form : Char → Char} {n : Nat} (small : n < 65536)
    (reads : ∀ d < 16, hexDigit? (form d.digitChar) = some d) :
    hexValue? ((hexQuad n).map form) = some n := by
  have digit (m : Nat) : hexDigit? (form (m % 16).digitChar) = some (m % 16) :=
    reads _ (Nat.mod_lt _ (by decide))
  have digits : 16 * (16 * (16 * (n / 4096 % 16) + n / 256 % 16) + n / 16 % 16) + n % 16 = n := by
    omega
  simp [hexValue?, hexQuad, digit, digits]

theorem hexValue?_hexQuad {n : Nat} (small : n < 65536) : hexValue? (hexQuad n) = some n := by
  rw [← List.map_id (hexQuad n)]
  exact hexValue?_map_hexQuad small hexDigit?_digitChar

end WalletLedger.Text
