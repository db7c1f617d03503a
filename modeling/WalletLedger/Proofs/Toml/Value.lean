import WalletLedger.Proofs.Toml.Text
import WalletLedger.Toml.Reader
import WalletLedger.Toml.Writer

/-!
# Reading written TOML values

What is written for a value denotes it: in front of anything that cannot go on
with it, it is read as that value and no more is read. This holds of texts, of
whole numbers, and of arrays of what denotes something, whose items are read one
by one past the line ends and commas between them.

Main statements: `denotes_writeText`, `denotes_numeral`, `denotes_writeArray`.
-/

namespace WalletLedger.Toml

open Text

/-! ## Values -/

/-- Whether a character begins a value of the kinds that are written here. -/
def opensValue (c : Char) : Bool :=
  isQuote c || c = '[' || c.isDigit

/-- Whether a character directly behind a value may belong to it. -/
def continuesValue (c : Char) : Bool :=
  isQuote c || isWordChar c

/-- What is written is read as a value, inside so many brackets at least. -/
structure Denotes (depth : Nat) (written : List Char) (v : Value) : Prop where
  reads : ∀ rest, EndsRun continuesValue rest → readValue depth (written ++ rest) = some (v, rest)
  opens : ∃ first more, written = first :: more ∧ opensValue first = true

/-! ### Texts -/

theorem writeText_eq (text : String) : ∃ c more, writeText text = c :: more ∧ isQuote c = true := by
  obtain ⟨more, front⟩ := quotes_append (.best text.toList) _
  refine ⟨_, more, ?_, isQuote_quote (.best text.toList)⟩
  rw [writeText, TextStyle.write, List.append_assoc, List.append_assoc, front]

/-- What begins with a quote is read as a text. -/
theorem readValue_quote (depth : Nat) {c : Char} (quote : isQuote c = true) (cs : List Char) :
    readValue depth (c :: cs) = (readText (c :: cs)).map fun (text, rest) => (.text text, rest) := by
  rw [isQuote, Bool.or_eq_true, decide_eq_true_eq, decide_eq_true_eq] at quote
  rcases quote with rfl | rfl <;> cases depth <;> rfl

theorem denotes_writeText (depth : Nat) (text : String) :
    Denotes depth (writeText text) (.text text) where
  reads rest ends := by
    have unquoted : EndsRun isQuote rest :=
      ends.mono fun c quote => by rw [continuesValue, quote, Bool.true_or]
    have read := readText_writeText text unquoted
    obtain ⟨c, more, same, quote⟩ := writeText_eq text
    rw [same, List.cons_append] at read ⊢
    rw [readValue_quote depth quote, read, Option.map_some]
  opens := by
    obtain ⟨c, more, same, quote⟩ := writeText_eq text
    exact ⟨c, more, same, by rw [opensValue, quote, Bool.true_or, Bool.true_or]⟩

/-! ### Whole numbers -/

/-- A run of digits without underscores consists of its digits. -/
theorem ungrouped?_of_digits {isDigit : Char → Bool} (separator : isDigit '_' = false)
    {cs : List Char} (given : cs ≠ []) (digits : ∀ c ∈ cs, isDigit c = true) :
    ungrouped? isDigit cs = some cs := by
  induction cs with
  | nil => exact absurd rfl given
  | cons c rest ih =>
    have first := digits c List.mem_cons_self
    have others : ∀ d ∈ rest, isDigit d = true := fun d mem => digits d (List.mem_cons_of_mem _ mem)
    cases rest with
    | nil => rw [ungrouped?, if_pos first]
    | cons d rest =>
      have ungrouped : d ≠ '_' := ne_of_test (others d List.mem_cons_self) separator
      rw [ungrouped?, if_pos first, ih (by simp) others]
      · rfl
      · exact nofun
      · exact fun more same => ungrouped (List.cons.inj same).1

theorem afterTime?_eq_none {cs : List Char} (absent : ':' ∉ cs) : afterTime? cs = none := by
  unfold afterTime?
  split
  · simp at absent
  · rfl

theorem afterDate?_eq_none {cs : List Char} (absent : '-' ∉ cs) : afterDate? cs = none := by
  unfold afterDate?
  split
  · simp at absent
  · rfl

theorem not_mem_numeral (n : Nat) {c : Char} (other : c.isDigit = false) : c ∉ numeral n :=
  fun mem => ne_of_test (isDigit_of_mem_numeral mem) other rfl

theorem numeral_ne_cons (n : Nat) {c : Char} (other : c.isDigit = false) (others : List Char) :
    numeral n ≠ c :: others :=
  List.append_nil (numeral n) ▸ numeral_append_ne n other [] others

theorem isWordChar_of_isDigit {c : Char} (digit : c.isDigit = true) : isWordChar c = true := by
  simp [isWordChar, Char.isAlphanum, digit]

/-- Digits alone are no date and no time. -/
theorem isMoment_numeral (n : Nat) : isMoment (numeral n) = false := by
  have noTime := afterTime?_eq_none (not_mem_numeral n (by decide))
  have noDate := afterDate?_eq_none (not_mem_numeral n (by decide))
  simp [isMoment, noTime, noDate]

theorem wholeDigits?_numeral (n : Nat) : wholeDigits? (numeral n) = some (numeral n) := by
  have whole : ((numeral n).length = 1 || (numeral n).head? ≠ some '0') = true := by
    rcases numeral_cases n with ⟨-, zero⟩ | ⟨positive, -⟩
    · rw [zero]
      rfl
    · simp [head?_numeral positive]
  rw [wholeDigits?, decimalDigits?, ungrouped?_of_digits (by decide) (numeral_ne_nil n)
    fun c => isDigit_of_mem_numeral, Option.filter_some, if_pos whole]

/-- A numeral is a number in base ten and carries no sign. -/
theorem unboundedInteger?_numeral (n : Nat) : unboundedInteger? (numeral n) = some (n : Int) := by
  have base (c : Char) (others : List Char) : numeral n ≠ '0' :: c :: others := by
    intro same
    rcases numeral_cases n with ⟨-, zero⟩ | ⟨-, first, more, digits, nonzero⟩
    · rw [zero] at same
      cases same
    · rw [digits] at same
      exact nonzero (List.cons.inj same).1
  have unsigned : splitSign (numeral n) = (false, numeral n) := by
    unfold splitSign
    split
    · next same => exact absurd same (numeral_ne_cons n (by decide) _)
    · next same => exact absurd same (numeral_ne_cons n (by decide) _)
    · rfl
  unfold unboundedInteger?
  split
  · next same => exact absurd same (base _ _)
  · next same => exact absurd same (base _ _)
  · next same => exact absurd same (base _ _)
  · simp [unsigned, wholeDigits?_numeral, numeralValue_numeral]

theorem integer?_numeral {n : Nat} (small : n < UInt32.size) :
    integer? (numeral n) = some (n : Int) := by
  have fits : Int64.minValue.toInt ≤ n ∧ (n : Int) ≤ Int64.maxValue.toInt := by
    have low : Int64.minValue.toInt = -9223372036854775808 := by decide
    have high : Int64.maxValue.toInt = 9223372036854775807 := by decide
    have bound : UInt32.size = 4294967296 := rfl
    omega
  rw [integer?, unboundedInteger?_numeral, Option.filter_some, FixedWidth.int64?, if_pos fits]
  rfl

theorem ofWord?_numeral {n : Nat} (small : n < UInt32.size) :
    ofWord? (numeral n) = some (.integer n) := by
  rw [ofWord?, if_neg (numeral_ne_cons n (by decide) _), if_neg (numeral_ne_cons n (by decide) _),
    isMoment_numeral, if_neg Bool.false_ne_true, integer?_numeral small]

theorem readWord_numeral {n : Nat} (small : n < UInt32.size) {rest : List Char}
    (ends : EndsRun isWordChar rest) : readWord (numeral n ++ rest) = some (.integer n, rest) := by
  have inWord : ∀ c ∈ numeral n, isWordChar c = true :=
    fun c mem => isWordChar_of_isDigit (isDigit_of_mem_numeral mem)
  have undated : isDate (numeral n) = false := by
    rw [isDate, afterDate?_eq_none (not_mem_numeral n (by decide))]
    rfl
  simp [readWord, takeWhile_append_of_endsRun inWord ends, dropWhile_append_of_endsRun inWord ends,
    ofWord?_numeral small, undated]

/-- What begins with a digit is read as a word. -/
theorem readValue_digit (depth : Nat) {c : Char} (digit : c.isDigit = true) (cs : List Char) :
    readValue depth (c :: cs) = readWord (c :: cs) := by
  unfold readValue
  split
  · next same => exact absurd (List.cons.inj same).1 (ne_of_test digit (by decide))
  · next same => exact absurd (List.cons.inj same).1 (ne_of_test digit (by decide))
  · next same => exact absurd (List.cons.inj same).1 (ne_of_test digit (by decide))
  · next same => exact absurd (List.cons.inj same).1 (ne_of_test digit (by decide))
  · rfl

theorem denotes_numeral (depth : Nat) {n : Nat} (small : n < UInt32.size) :
    Denotes depth (numeral n) (.integer n) where
  reads rest ends := by
    have read := readWord_numeral small
      (ends.mono fun c inWord => by rw [continuesValue, inWord, Bool.or_true])
    obtain ⟨c, more, digits, digit⟩ := numeral_eq_cons n
    rw [digits, List.cons_append] at read ⊢
    rw [readValue_digit depth digit, read]
  opens := by
    obtain ⟨c, more, digits, digit⟩ := numeral_eq_cons n
    exact ⟨c, more, digits, by rw [opensValue, digit, Bool.or_true]⟩

/-! ### Arrays -/

/-- A test that no blank passes tells characters from blanks. -/
theorem isSpace_of_test {test : Char → Bool} {c : Char} (passes : test c = true)
    (noSpace : test ' ' = false) (noTab : test '\t' = false) : isSpace c = false := by
  simp [isSpace, ne_of_test passes noSpace, ne_of_test passes noTab]

theorem isSpace_of_opensValue {c : Char} (opens : opensValue c = true) : isSpace c = false :=
  isSpace_of_test opens (by decide) (by decide)

/-- In front of a value there is nothing to pass over. -/
theorem skipTrivia_of_opensValue {c : Char} (opens : opensValue c = true) (rest : List Char) :
    skipTrivia false (c :: rest) = c :: rest := by
  have noReturn : c ≠ '\r' := ne_of_test opens (by decide)
  have noComment : c ≠ '#' := ne_of_test opens (by decide)
  have noLineFeed : c ≠ '\n' := ne_of_test opens (by decide)
  have noSpace : isSpace c = false := isSpace_of_opensValue opens
  unfold skipTrivia
  split
  · next same => cases same
  · next same => exact absurd (List.cons.inj same).1 noReturn
  · next same =>
    obtain ⟨rfl, rfl⟩ := List.cons.inj same
    simp [noComment, noLineFeed, noSpace]

section Items

variable {depth bound : Nat} {cs behind rest written : List Char} {v : Value}
  {items : List Value}

theorem Denotes.skipTrivia_append (denotes : Denotes depth written v) (rest : List Char) :
    skipTrivia false (written ++ rest) = written ++ rest := by
  obtain ⟨first, more, rfl, opens⟩ := denotes.opens
  exact skipTrivia_of_opensValue opens _

theorem Denotes.skipSpaces_append (denotes : Denotes depth written v) (rest : List Char) :
    skipSpaces (written ++ rest) = written ++ rest := by
  obtain ⟨first, more, rfl, opens⟩ := denotes.opens
  exact List.dropWhile_cons_of_neg (Bool.eq_false_iff.1 (isSpace_of_opensValue opens))

theorem readItems_close (closes : skipTrivia false cs = ']' :: rest) :
    readItems (readValue depth) (bound + 1) cs = some ([], rest) := by
  simp only [readItems, closes]

/-- An item is read, and what is behind it decides how the array goes on. -/
theorem readItems_item {next : List Char} {result : Option (List Value × List Char)}
    (denotes : Denotes depth written v) (front : skipTrivia false cs = written ++ next)
    (ends : EndsRun continuesValue next)
    (goesOn : (match skipTrivia false next with
      | ',' :: behind => do
        let (items, rest) ← readItems (readValue depth) bound behind
        return (v :: items, rest)
      | ']' :: rest => return ([v], rest)
      | _ => none) = result) :
    readItems (readValue depth) (bound + 1) cs = result := by
  have read := denotes.reads next ends
  obtain ⟨first, more, rfl, opens⟩ := denotes.opens
  rw [readItems, front, List.cons_append]
  split
  · next same => exact absurd (List.cons.inj same).1 (ne_of_test opens (by decide))
  · rw [← List.cons_append, read]
    exact goesOn

theorem readItems_comma (denotes : Denotes depth written v)
    (front : skipTrivia false cs = written ++ ',' :: behind)
    (later : readItems (readValue depth) bound behind = some (items, rest)) :
    readItems (readValue depth) (bound + 1) cs = some (v :: items, rest) := by
  refine readItems_item denotes front (endsRun_cons.2 (by decide)) ?_
  change (readItems (readValue depth) bound behind).bind _ = _
  rw [later]
  rfl

theorem readItems_last (denotes : Denotes depth written v)
    (front : skipTrivia false cs = written ++ ']' :: rest) :
    readItems (readValue depth) (bound + 1) cs = some ([v], rest) :=
  readItems_item denotes front (endsRun_cons.2 (by decide)) rfl

end Items

section Arrays

variable {α : Type} {write : α → List Char} {value : α → Value} {depth : Nat}

/-- Items on lines of their own are read one after another. -/
theorem readItems_writeItemLines (denotes : ∀ a, Denotes depth (write a) (value a))
    (list : List α) (rest : List Char) {bound : Nat} (enough : list.length < bound) :
    readItems (readValue depth) bound
      ('\n' :: (writeItemLines (list.map write) ++ ']' :: rest)) = some (list.map value, rest) := by
  induction list generalizing bound with
  | nil =>
    obtain ⟨bound, rfl⟩ := Nat.exists_eq_succ_of_ne_zero (Nat.ne_zero_of_lt enough)
    exact readItems_close rfl
  | cons a more ih =>
    obtain ⟨bound, rfl⟩ := Nat.exists_eq_succ_of_ne_zero (Nat.ne_zero_of_lt enough)
    refine readItems_comma (denotes a) ?_ (ih (Nat.lt_of_succ_lt_succ enough))
    have line : writeItemLines ((a :: more).map write) ++ ']' :: rest =
        ' ' :: ' ' :: ' ' :: ' ' :: (write a ++
          ',' :: '\n' :: (writeItemLines (more.map write) ++ ']' :: rest)) := by
      simp [writeItemLines]
    rw [line]
    exact (denotes a).skipTrivia_append _

theorem length_le_writeItemLines (items : List (List Char)) :
    items.length ≤ (writeItemLines items).length :=
  length_le_flatMap (fun _ => List.cons_ne_nil _ _) items

theorem readValue_bracket (depth : Nat) (cs : List Char) :
    readValue (depth + 1) ('[' :: cs) =
      (readItems (readValue depth) cs.length cs).map fun (items, rest) => (.array items, rest) :=
  rfl

theorem denotes_writeArray (denotes : ∀ a, Denotes depth (write a) (value a)) (list : List α) :
    Denotes (depth + 1) (writeArray (list.map write)) (.array (list.map value)) where
  reads rest _ := by
    match list with
    | [] => rfl
    | [a] =>
      have read : readItems (readValue depth) ((write a).length + rest.length + 1)
          (write a ++ ']' :: rest) = some ([value a], rest) :=
        readItems_last (denotes a) ((denotes a).skipTrivia_append _)
      simp [writeArray, readValue_bracket, read, ← Nat.add_assoc]
    | a :: b :: more =>
      let lines := '\n' :: (writeItemLines ((a :: b :: more).map write) ++ ']' :: rest)
      have enough : (a :: b :: more).length < lines.length := by
        have room := length_le_writeItemLines ((a :: b :: more).map write)
        simp only [lines, List.length_cons, List.length_append, List.length_map] at room ⊢
        omega
      have read : readItems (readValue depth) lines.length lines =
          some ((a :: b :: more).map value, rest) :=
        readItems_writeItemLines denotes _ rest enough
      have shape : writeArray ((a :: b :: more).map write) ++ rest = '[' :: lines := by
        simp [writeArray, lines]
      rw [shape, readValue_bracket, read]
      rfl
  opens := by
    match list with
    | [] => exact ⟨'[', _, rfl, rfl⟩
    | [a] => exact ⟨'[', _, rfl, rfl⟩
    | a :: b :: more => exact ⟨'[', _, rfl, rfl⟩

end Arrays

end WalletLedger.Toml
