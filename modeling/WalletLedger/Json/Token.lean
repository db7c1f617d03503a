import WalletLedger.Json.Value
import WalletLedger.Text.Numeral

/-!
# The tokens of a JSON text

A JSON text is a sequence of tokens with blanks between them. This module gives
the written form of each token and reads one token from the front of a text.
Main statement: `Token.next?_length`, a token takes at least one character, so
that reading a text ends.
-/

namespace WalletLedger.Json

/-- A token: a bracket, a separator, or a value without parts. -/
inductive Token where
  | beginArray
  | endArray
  | beginObject
  | endObject
  | valueSeparator
  | nameSeparator
  | null
  | boolean (value : Bool)
  | number (value : Number)
  | string (literal : Literal)
deriving DecidableEq, Repr

/-! ## Written forms -/

/-- The written form of one character inside a string literal. -/
def escapedChar (c : Char) : List Char :=
  if c = '"' then ['\\', '"']
  else if c = '\\' then ['\\', '\\']
  else if c = '\x08' then ['\\', 'b']
  else if c = '\x0c' then ['\\', 'f']
  else if c = '\n' then ['\\', 'n']
  else if c = '\r' then ['\\', 'r']
  else if c = '\t' then ['\\', 't']
  else if c.toNat < 0x20 then '\\' :: 'u' :: Text.hexQuad c.toNat
  else [c]

/-- The written form of a literal; one without a text is written as a lone surrogate. -/
def literalText : Literal → List Char
  | some text => '"' :: text.toList.flatMap escapedChar ++ ['"']
  | none => ['"', '\\', 'u', 'd', '8', '0', '0', '"']

/-- The written form of a number. -/
def numberText : Number → List Char
  | .integer n => Text.signedNumeral n
  | .real negative digits exponent =>
    (if negative then ['-'] else []) ++ Text.numeral digits ++ 'e' :: Text.signedNumeral exponent

/-- The written form of a token. -/
def Token.text : Token → List Char
  | .beginArray => ['[']
  | .endArray => [']']
  | .beginObject => ['\x7b']
  | .endObject => ['\x7d']
  | .valueSeparator => [',']
  | .nameSeparator => [':']
  | .null => ['n', 'u', 'l', 'l']
  | .boolean true => ['t', 'r', 'u', 'e']
  | .boolean false => ['f', 'a', 'l', 's', 'e']
  | .number n => numberText n
  | .string literal => literalText literal

/-! ## String literals -/

/-- One element of a string literal: a character, or a code unit given by its number. -/
inductive Piece where
  | char (c : Char)
  | unit (code : Nat)
deriving DecidableEq, Repr

/-- The character that a one-letter escape stands for. -/
def shortEscape? : Char → Option Char
  | '"' => some '"'
  | '\\' => some '\\'
  | '/' => some '/'
  | 'b' => some '\x08'
  | 'f' => some '\x0c'
  | 'n' => some '\n'
  | 'r' => some '\r'
  | 't' => some '\t'
  | _ => none

/-- Reads a literal from behind its opening quote, with the pieces already read in reverse. -/
def pieces? (done : List Piece) : List Char → Option (List Piece × List Char)
  | [] => none
  | '"' :: rest => some (done.reverse, rest)
  | '\\' :: 'u' :: a :: b :: c :: d :: rest =>
    match Text.hexValue? [a, b, c, d] with
    | some code => pieces? (.unit code :: done) rest
    | none => none
  | '\\' :: e :: rest =>
    match shortEscape? e with
    | some c => pieces? (.char c :: done) rest
    | none => none
  | c :: rest => if c.toNat < 0x20 then none else pieces? (.char c :: done) rest

theorem pieces?_length {done : List Piece} {cs rest : List Char} {ps : List Piece}
    (read : pieces? done cs = some (ps, rest)) : rest.length < cs.length := by
  fun_induction pieces? done cs <;> simp_all <;> omega

/-- Whether a code unit is the first half of a surrogate pair. -/
def isHighHalf (code : Nat) : Bool := 0xD800 ≤ code && code ≤ 0xDBFF

/-- Whether a code unit is the second half of a surrogate pair. -/
def isLowHalf (code : Nat) : Bool := 0xDC00 ≤ code && code ≤ 0xDFFF

/-- The character that a surrogate pair stands for. -/
def joinHalves (high low : Nat) : Char :=
  Char.ofNat (0x10000 + (high - 0xD800) * 0x400 + (low - 0xDC00))

/-- What the pieces of a literal denote, with the characters already known in reverse. -/
def denote (done : List Char) : List Piece → Literal
  | [] => some (String.ofList done.reverse)
  | .char c :: rest => denote (c :: done) rest
  | .unit high :: .unit low :: rest =>
    if isHighHalf high then
      if isLowHalf low then denote (joinHalves high low :: done) rest else none
    else if isLowHalf high then none
    else denote (Char.ofNat high :: done) (.unit low :: rest)
  | .unit code :: rest =>
    if isHighHalf code || isLowHalf code then none else denote (Char.ofNat code :: done) rest

/-! ## Numbers -/

/-- Reads the digits before the point: a zero alone, or digits that start with another one. -/
def wholeDigits? : List Char → Option (List Char × List Char)
  | '0' :: rest => some (['0'], rest)
  | cs =>
    match cs.takeWhile Char.isDigit with
    | [] => none
    | digits => some (digits, cs.dropWhile Char.isDigit)

/-- Reads the digits behind a point, none if there is no point. -/
def fractionDigits? : List Char → Option (List Char × List Char)
  | '.' :: rest =>
    match rest.takeWhile Char.isDigit with
    | [] => none
    | digits => some (digits, rest.dropWhile Char.isDigit)
  | cs => some ([], cs)

/-- Reads the digits of an exponent as a number, after an optional sign. -/
def exponentValue? (cs : List Char) : Option (Int × List Char) :=
  let (negative, unsigned) := match cs with
    | '-' :: rest => (true, rest)
    | '+' :: rest => (false, rest)
    | _ => (false, cs)
  match unsigned.takeWhile Char.isDigit with
  | [] => none
  | digits =>
    let value : Int := Text.numeralValue digits
    some (if negative then -value else value, unsigned.dropWhile Char.isDigit)

/-- Reads an exponent, if there is one. -/
def exponent? : List Char → Option (Option Int × List Char)
  | 'e' :: rest => (exponentValue? rest).map fun (value, rest) => (some value, rest)
  | 'E' :: rest => (exponentValue? rest).map fun (value, rest) => (some value, rest)
  | cs => some (none, cs)

/-- The number with the given parts. Without fraction and exponent it is whole, minus zero apart. -/
def numberOfParts (negative : Bool) (whole fraction : List Char) (exponent : Option Int) : Number :=
  let digits := Text.numeralValue (whole ++ fraction)
  match fraction, exponent with
  | [], none =>
    if !negative then .integer digits
    else if digits = 0 then .real true 0 0
    else .integer (-(digits : Int))
  | _, _ => .real negative digits (exponent.getD 0 - fraction.length)

/-- Reads a number without its sign. -/
def unsignedNumber? (negative : Bool) (cs : List Char) : Option (Number × List Char) :=
  match wholeDigits? cs with
  | none => none
  | some (whole, afterWhole) =>
    match fractionDigits? afterWhole with
    | none => none
    | some (fraction, afterFraction) =>
      match exponent? afterFraction with
      | none => none
      | some (exponent, rest) => some (numberOfParts negative whole fraction exponent, rest)

/-- Reads a number. -/
def number? : List Char → Option (Number × List Char)
  | '-' :: cs => unsignedNumber? true cs
  | cs => unsignedNumber? false cs

theorem length_dropWhile_le (p : Char → Bool) (cs : List Char) :
    (cs.dropWhile p).length ≤ cs.length :=
  (List.dropWhile_sublist p).length_le

theorem length_dropWhile_lt {p : Char → Bool} {cs : List Char} {c : Char} {taken : List Char}
    (some : cs.takeWhile p = c :: taken) : (cs.dropWhile p).length < cs.length := by
  have whole := congrArg List.length (List.takeWhile_append_dropWhile (p := p) (l := cs))
  rw [some, List.length_append, List.length_cons] at whole
  omega

theorem wholeDigits?_length {cs digits rest : List Char}
    (read : wholeDigits? cs = some (digits, rest)) : rest.length < cs.length := by
  unfold wholeDigits? at read
  split at read
  · simp only [Option.some.injEq, Prod.mk.injEq] at read
    simp [← read.2]
  · split at read
    · simp at read
    · next notEmpty =>
      simp only [Option.some.injEq, Prod.mk.injEq] at read
      cases taken : cs.takeWhile Char.isDigit with
      | nil => exact absurd taken notEmpty
      | cons c others => exact read.2 ▸ length_dropWhile_lt taken

theorem fractionDigits?_length {cs digits rest : List Char}
    (read : fractionDigits? cs = some (digits, rest)) : rest.length ≤ cs.length := by
  unfold fractionDigits? at read
  split at read
  · split at read
    · simp at read
    · simp only [Option.some.injEq, Prod.mk.injEq] at read
      rw [← read.2, List.length_cons]
      exact Nat.le_succ_of_le (length_dropWhile_le ..)
  · simp only [Option.some.injEq, Prod.mk.injEq] at read
    exact Nat.le_of_eq (congrArg List.length read.2.symm)

theorem exponentValue?_length {cs rest : List Char} {value : Int}
    (read : exponentValue? cs = some (value, rest)) : rest.length ≤ cs.length := by
  unfold exponentValue? at read
  split at read
  next negative unsigned equation =>
    have shorter : unsigned.length ≤ cs.length := by
      split at equation <;> simp only [Prod.mk.injEq] at equation <;> simp [← equation.2]
    split at read
    · simp at read
    · simp only [Option.some.injEq, Prod.mk.injEq] at read
      exact read.2 ▸ Nat.le_trans (length_dropWhile_le ..) shorter

theorem exponent?_length {cs rest : List Char} {value : Option Int}
    (read : exponent? cs = some (value, rest)) : rest.length ≤ cs.length := by
  unfold exponent? at read
  split at read
  · simp only [Option.map_eq_some_iff, Prod.exists, Prod.mk.injEq] at read
    obtain ⟨_, _, inner, -, rfl⟩ := read
    exact Nat.le_succ_of_le (exponentValue?_length inner)
  · simp only [Option.map_eq_some_iff, Prod.exists, Prod.mk.injEq] at read
    obtain ⟨_, _, inner, -, rfl⟩ := read
    exact Nat.le_succ_of_le (exponentValue?_length inner)
  · simp only [Option.some.injEq, Prod.mk.injEq] at read
    exact Nat.le_of_eq (congrArg List.length read.2.symm)

theorem unsignedNumber?_length {negative : Bool} {cs rest : List Char} {n : Number}
    (read : unsignedNumber? negative cs = some (n, rest)) : rest.length < cs.length := by
  unfold unsignedNumber? at read
  split at read
  · simp at read
  · next whole =>
    split at read
    · simp at read
    · next fraction =>
      split at read
      · simp at read
      · next exponent =>
        simp only [Option.some.injEq, Prod.mk.injEq] at read
        have first := wholeDigits?_length whole
        have second := fractionDigits?_length fraction
        have third := exponent?_length exponent
        rw [← read.2]
        omega

theorem number?_length {cs rest : List Char} {n : Number} (read : number? cs = some (n, rest)) :
    rest.length < cs.length := by
  unfold number? at read
  split at read
  · exact Nat.lt_succ_of_lt (unsignedNumber?_length read)
  · exact unsignedNumber?_length read

/-! ## One token -/

/-- Reads the token at the front of a text. -/
def Token.next? : List Char → Option (Token × List Char)
  | '[' :: rest => some (.beginArray, rest)
  | ']' :: rest => some (.endArray, rest)
  | '\x7b' :: rest => some (.beginObject, rest)
  | '\x7d' :: rest => some (.endObject, rest)
  | ',' :: rest => some (.valueSeparator, rest)
  | ':' :: rest => some (.nameSeparator, rest)
  | 'n' :: 'u' :: 'l' :: 'l' :: rest => some (.null, rest)
  | 't' :: 'r' :: 'u' :: 'e' :: rest => some (.boolean true, rest)
  | 'f' :: 'a' :: 'l' :: 's' :: 'e' :: rest => some (.boolean false, rest)
  | '"' :: rest => (pieces? [] rest).map fun (ps, rest) => (.string (denote [] ps), rest)
  | cs => (number? cs).map fun (n, rest) => (.number n, rest)

/-- A token takes at least one character. -/
theorem Token.next?_length {cs rest : List Char} {t : Token}
    (read : Token.next? cs = some (t, rest)) : rest.length < cs.length := by
  unfold Token.next? at read
  split at read
  case h_10 =>
    simp only [Option.map_eq_some_iff, Prod.exists, Prod.mk.injEq] at read
    obtain ⟨_, _, inner, -, rfl⟩ := read
    exact Nat.lt_succ_of_lt (pieces?_length inner)
  case h_11 =>
    simp only [Option.map_eq_some_iff, Prod.exists, Prod.mk.injEq] at read
    obtain ⟨_, _, inner, -, rfl⟩ := read
    exact number?_length inner
  all_goals
    simp only [Option.some.injEq, Prod.mk.injEq] at read
    simp only [← read.2, List.length_cons]
    omega

end WalletLedger.Json
