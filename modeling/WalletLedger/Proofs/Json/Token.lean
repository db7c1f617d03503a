import WalletLedger.Json.Reader
import WalletLedger.Json.Writer
import WalletLedger.Proofs.Text.Run

/-!
# Reading written tokens

Every token is read back from its written form: a string literal by its pieces,
one for each character, and a number by its digits. Only a number can run on into
the text behind it, so this text must not go on with a character of a number.
Main statement: `Token.next?_text_append`.
-/

namespace WalletLedger.Json

open Text

/-! ## String literals -/

/-- The piece that a character is read as when it was written into a literal. -/
def Piece.ofChar (c : Char) : Piece :=
  if c.toNat < 0x20 ∧ c ∉ ['\x08', '\x0c', '\n', '\r', '\t'] then .unit c.toNat else .char c

theorem pieces?_code (done : List Piece) {code : Nat} (small : code < 65536) (rest : List Char) :
    pieces? done ('\\' :: 'u' :: hexQuad code ++ rest) = pieces? (.unit code :: done) rest := by
  have value := hexValue?_hexQuad small
  unfold hexQuad at value ⊢
  simp only [List.map_cons, List.map_nil, List.cons_append, List.nil_append] at value ⊢
  rw [pieces?, value]

theorem pieces?_plain (done : List Piece) {c : Char} (notQuote : c ≠ '"') (notBackslash : c ≠ '\\')
    (printed : ¬c.toNat < 0x20) (rest : List Char) :
    pieces? done (c :: rest) = pieces? (.char c :: done) rest := by
  rw [pieces?, if_neg printed]
  all_goals simp_all

/-- The written form of a character is one piece. The cases are those of the writer. -/
theorem pieces?_escapedChar (done : List Piece) (c : Char) (rest : List Char) :
    pieces? done (escapedChar c ++ rest) = pieces? (.ofChar c :: done) rest := by
  unfold escapedChar
  split
  · next quote => subst quote; rfl
  split
  · next backslash => subst backslash; rfl
  split
  · next backspace => subst backspace; rfl
  split
  · next formFeed => subst formFeed; rfl
  split
  · next lineFeed => subst lineFeed; rfl
  split
  · next carriageReturn => subst carriageReturn; rfl
  split
  · next tab => subst tab; rfl
  split
  · next control =>
    have piece : Piece.ofChar c = .unit c.toNat := by
      simp [Piece.ofChar, *]
    rw [piece]
    exact pieces?_code done (Nat.lt_trans control (by decide)) rest
  · next notQuote notBackslash _ _ _ _ _ printed =>
    rw [Piece.ofChar, if_neg fun both => printed both.1]
    exact pieces?_plain done notQuote notBackslash printed rest

theorem pieces?_escaped (done : List Piece) (cs rest : List Char) :
    pieces? done (cs.flatMap escapedChar ++ '"' :: rest) =
      some (done.reverse ++ cs.map .ofChar, rest) := by
  induction cs generalizing done with
  | nil => simp [pieces?]
  | cons c cs ih =>
    rw [List.flatMap_cons, List.append_assoc, pieces?_escapedChar, ih, List.reverse_cons,
      List.append_assoc]
    rfl

/-- A piece denotes the character that it was written for, whatever follows it: a control character
is no half of a surrogate pair. -/
theorem denote_ofChar (done : List Char) (c : Char) (rest : List Piece) :
    denote done (.ofChar c :: rest) = denote (c :: done) rest := by
  unfold Piece.ofChar
  split
  · next control =>
    have notHigh : isHighHalf c.toNat = false := by
      simp only [isHighHalf, Bool.and_eq_false_iff, decide_eq_false_iff_not]
      omega
    have notLow : isLowHalf c.toNat = false := by
      simp only [isLowHalf, Bool.and_eq_false_iff, decide_eq_false_iff_not]
      omega
    rcases rest with _ | ⟨_ | _, _⟩ <;> simp [denote, notHigh, notLow, Char.ofNat_toNat]
  · rfl

theorem denote_map_ofChar (done cs : List Char) :
    denote done (cs.map .ofChar) = some (String.ofList (done.reverse ++ cs)) := by
  induction cs generalizing done with
  | nil => rw [List.append_nil]; rfl
  | cons c cs ih =>
    rw [List.map_cons, denote_ofChar, ih, List.reverse_cons, List.append_assoc]
    rfl

theorem next?_literalText (literal : Literal) (rest : List Char) :
    Token.next? (literalText literal ++ rest) = some (.string literal, rest) := by
  cases literal with
  | none => rfl
  | some text =>
    have read := pieces?_escaped [] text.toList rest
    have text_eq := denote_map_ofChar [] text.toList
    rw [List.reverse_nil, List.nil_append] at read text_eq
    rw [literalText, List.append_assoc, List.cons_append, List.singleton_append, Token.next?, read,
      Option.map_some]
    dsimp only
    rw [text_eq, String.ofList_toList]

/-! ## Numbers -/

/-- Whether a character can go on with a number behind its first character. -/
def isNumberChar (c : Char) : Bool :=
  c.isDigit || c = '.' || c = 'e' || c = 'E'

theorem isNumberChar_of_isDigit (c : Char) (digit : c.isDigit = true) : isNumberChar c = true := by
  rw [isNumberChar, digit]
  rfl

theorem isNumberChar_of_point (c : Char) (point : decide (c = '.') = true) :
    isNumberChar c = true := by
  rw [of_decide_eq_true point]
  rfl

theorem wholeDigits?_numeral (n : Nat) {rest : List Char} (ends : EndsRun Char.isDigit rest) :
    wholeDigits? (numeral n ++ rest) = some (numeral n, rest) := by
  have digits := takeWhile_numeral_append n ends
  have behind := dropWhile_numeral_append n ends
  rcases numeral_cases n with ⟨-, zero⟩ | ⟨-, c, others, known, notZero⟩
  · rw [zero]
    rfl
  · rw [known, List.cons_append] at digits behind ⊢
    unfold wholeDigits?
    split
    · next first =>
      rw [List.cons.injEq] at first
      exact absurd first.1 notZero
    · rw [digits, behind]

theorem fractionDigits?_of_ends {rest : List Char} (ends : EndsRun (fun c => c = '.') rest) :
    fractionDigits? rest = some ([], rest) := by
  unfold fractionDigits?
  split
  · cases endsRun_cons.1 ends
  · rfl

theorem exponent?_of_ends {rest : List Char} (ends : EndsRun isNumberChar rest) :
    exponent? rest = some (none, rest) := by
  unfold exponent?
  split
  · cases endsRun_cons.1 ends
  · cases endsRun_cons.1 ends
  · rfl

theorem exponentValue?_signedNumeral (n : Int) {rest : List Char}
    (ends : EndsRun Char.isDigit rest) :
    exponentValue? (signedNumeral n ++ rest) = some (n, rest) := by
  have digits := takeWhile_numeral_append n.natAbs ends
  have behind := dropWhile_numeral_append n.natAbs ends
  have value := numeralValue_numeral n.natAbs
  by_cases negative : n < 0
  · rw [signedNumeral, if_pos negative, List.cons_append, exponentValue?]
    simp only [digits, behind]
    split
    · next none => exact absurd none (numeral_ne_nil _)
    · simp only [value, if_true]
      rw [Int.ofNat_natAbs_of_nonpos (Int.le_of_lt negative), Int.neg_neg]
  · rw [signedNumeral, if_neg negative, exponentValue?]
    · simp only [digits, behind]
      split
      · next none => exact absurd none (numeral_ne_nil _)
      · simp only [value, Bool.false_eq_true, if_false]
        rw [Int.natAbs_of_nonneg (Int.not_lt.1 negative)]
    · exact fun others => numeral_append_ne _ rfl rest others
    · exact fun others => numeral_append_ne _ rfl rest others

/-- An unsigned number is read by its parts, if it begins with a numeral. -/
theorem unsignedNumber?_numeral (negative : Bool) (n : Nat) {exponent : Option Int}
    {behind rest : List Char} (ends : EndsRun Char.isDigit behind)
    (noFraction : fractionDigits? behind = some ([], behind))
    (power : exponent? behind = some (exponent, rest)) :
    unsignedNumber? negative (numeral n ++ behind) =
      some (numberOfParts negative (numeral n) [] exponent, rest) := by
  rw [unsignedNumber?, wholeDigits?_numeral n ends]
  simp only [noFraction, power]

theorem number?_minus (cs : List Char) : number? ('-' :: cs) = unsignedNumber? true cs := rfl

theorem number?_numeral (n : Nat) (behind : List Char) :
    number? (numeral n ++ behind) = unsignedNumber? false (numeral n ++ behind) := by
  rw [number?]
  exact fun others => numeral_append_ne n rfl behind others

theorem numberOfParts_real (negative : Bool) (n : Nat) (exponent : Int) :
    numberOfParts negative (numeral n) [] (some exponent) = .real negative n exponent := by
  have value : numeralValue (numeral n ++ []) = n := by
    rw [List.append_nil, numeralValue_numeral]
  change Number.real negative _ (exponent - 0) = _
  rw [value, Int.sub_zero]

theorem number?_integer (value : Int) {rest : List Char} (ends : EndsRun isNumberChar rest) :
    number? (signedNumeral value ++ rest) = some (.integer value, rest) := by
  have read (negative : Bool) := unsignedNumber?_numeral negative value.natAbs
    (ends.mono isNumberChar_of_isDigit) (fractionDigits?_of_ends (ends.mono isNumberChar_of_point))
    (exponent?_of_ends ends)
  by_cases below : value < 0
  · have notZero : value.natAbs ≠ 0 := by omega
    have size : -(value.natAbs : Int) = value := by omega
    rw [signedNumeral, if_pos below, List.cons_append, number?_minus, read, numberOfParts,
      List.append_nil, numeralValue_numeral]
    simp only [Bool.not_true, Bool.false_eq_true, if_false, if_neg notZero, size]
  · have size : (value.natAbs : Int) = value := by omega
    rw [signedNumeral, if_neg below, number?_numeral, read, numberOfParts, List.append_nil,
      numeralValue_numeral]
    simp only [Bool.not_false, if_true, size]

theorem number?_real (negative : Bool) (digits : Nat) (exponent : Int) {rest : List Char}
    (ends : EndsRun Char.isDigit rest) :
    number? (numberText (.real negative digits exponent) ++ rest) =
      some (.real negative digits exponent, rest) := by
  have power : exponent? ('e' :: (signedNumeral exponent ++ rest)) =
      some (some exponent, rest) := by
    rw [exponent?, exponentValue?_signedNumeral exponent ends]
    rfl
  have read (negative : Bool) := unsignedNumber?_numeral negative digits (endsRun_cons.2 rfl)
    (fractionDigits?_of_ends (endsRun_cons.2 rfl)) power
  have written : numberText (.real negative digits exponent) ++ rest =
      (if negative then ['-'] else []) ++
        (numeral digits ++ 'e' :: (signedNumeral exponent ++ rest)) := by
    rw [numberText, List.append_assoc, List.append_assoc, List.cons_append]
  rw [written]
  cases negative with
  | true =>
    rw [if_pos rfl, List.singleton_append, number?_minus, read, numberOfParts_real]
  | false =>
    rw [if_neg Bool.false_ne_true, List.nil_append, number?_numeral, read, numberOfParts_real]

/-- A number is read back if the text behind it does not go on with it. -/
theorem number?_numberText (n : Number) {rest : List Char} (ends : EndsRun isNumberChar rest) :
    number? (numberText n ++ rest) = some (n, rest) := by
  cases n with
  | integer value => exact number?_integer value ends
  | real negative digits exponent =>
    exact number?_real negative digits exponent (ends.mono isNumberChar_of_isDigit)

/-! ## Tokens -/

/-- A token does not run on into the text behind it. -/
def Token.EndsBefore (rest : List Char) : Token → Prop
  | .number _ => EndsRun isNumberChar rest
  | _ => True

/-- A written number begins with a minus sign or a numeral. -/
theorem numberText_cases (n : Number) :
    ∃ m behind, numberText n = '-' :: behind ∨ numberText n = numeral m ++ behind := by
  cases n with
  | integer value =>
    rw [numberText, signedNumeral]
    split
    · exact ⟨0, _, .inl rfl⟩
    · exact ⟨_, [], .inr (List.append_nil _).symm⟩
  | real negative digits exponent =>
    cases negative with
    | true => exact ⟨0, _, .inl rfl⟩
    | false => exact ⟨digits, _, .inr rfl⟩

theorem numberText_append_ne (n : Number) {c : Char} (notDigit : c.isDigit = false)
    (notMinus : c ≠ '-') (rest others : List Char) : numberText n ++ rest ≠ c :: others := by
  intro same
  obtain ⟨m, behind, signed | unsigned⟩ := numberText_cases n
  · rw [signed, List.cons_append, List.cons.injEq] at same
    exact notMinus same.1.symm
  · rw [unsigned, List.append_assoc] at same
    exact numeral_append_ne m notDigit _ _ same

/-- A token is read back from its written form. -/
theorem Token.next?_text_append (token : Token) {rest : List Char} (ends : token.EndsBefore rest) :
    Token.next? (token.text ++ rest) = some (token, rest) := by
  cases token with
  | beginArray | endArray | beginObject | endObject | valueSeparator | nameSeparator | null => rfl
  | boolean value => cases value <;> rfl
  | string literal => exact next?_literalText literal rest
  | number n =>
    rw [text, Token.next?, number?_numberText n ends]
    · rfl
    -- the other tokens begin with a character that begins no number
    all_goals
      intro others
      exact numberText_append_ne n rfl (by decide) rest _

/-- No token begins with a blank. -/
theorem Token.dropWhile_text_append (token : Token) (rest : List Char) :
    (token.text ++ rest).dropWhile isJsonBlank = token.text ++ rest := by
  cases token with
  | beginArray | endArray | beginObject | endObject | valueSeparator | nameSeparator | null => rfl
  | boolean value => cases value <;> rfl
  | string literal => cases literal <;> rfl
  | number n =>
    rw [text]
    cases written : numberText n ++ rest with
    | nil => rfl
    | cons c others =>
      refine List.dropWhile_cons_of_neg fun blank => ?_
      have blanks : c = ' ' ∨ c = '\t' ∨ c = '\n' ∨ c = '\r' := by
        simpa [isJsonBlank, or_assoc] using blank
      rcases blanks with rfl | rfl | rfl | rfl <;>
        exact numberText_append_ne n rfl (by decide) rest others written

end WalletLedger.Json
