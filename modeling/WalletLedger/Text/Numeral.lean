import WalletLedger.Text.Letters

/-!
# Numerals

Numbers as runs of ASCII digits, in base ten and, whole ones, in base sixteen.
-/

namespace WalletLedger.Text

/-! ## Base ten -/

/-- Whether a list of characters is one digit or more and nothing else. -/
def isNumeral (cs : List Char) : Bool :=
  !cs.isEmpty && cs.all Char.isDigit

/-- The number that a run of digits stands for. -/
def numeralValue (cs : List Char) : Nat :=
  Nat.ofDigitChars 10 cs 0

/-- The digits of a number, without leading zeros. -/
def numeral (n : Nat) : List Char :=
  Nat.toDigits 10 n

theorem numeralValue_numeral (n : Nat) : numeralValue (numeral n) = n :=
  Nat.ofDigitChars_ten_toDigits

/-- The digits of a whole number, after a minus sign if it is below zero. -/
def signedNumeral (n : Int) : List Char :=
  if n < 0 then '-' :: numeral n.natAbs else numeral n.natAbs

/-- Reads a whole text of digits, after an optional plus sign. -/
def readUnsigned? (cs : List Char) : Option Nat :=
  let digits := match cs with
    | '+' :: rest => rest
    | _ => cs
  if isNumeral digits then some (numeralValue digits) else none

/-- Reads a whole text of digits, after an optional sign. -/
def readSigned? (cs : List Char) : Option Int :=
  match cs with
  | '-' :: digits => if isNumeral digits then some (-(numeralValue digits : Int)) else none
  | _ => (readUnsigned? cs).map Int.ofNat

/-! ## Numbers with a fraction -/

/-- A text without the sign at its front. -/
def dropSign : List Char → List Char
  | '+' :: rest | '-' :: rest => rest
  | cs => cs

/-- Whether a list of characters is the exponent of a number, or empty. -/
def isExponent : List Char → Bool
  | [] => true
  | e :: rest => (e = 'e' || e = 'E') && isNumeral (dropSign rest)

/-- Whether a text is a number: digits with a point between, in front of or behind them or without
one, and an exponent or none; or the word for infinity or for no number in any case. A sign may precede
each of them. -/
def isNumber (cs : List Char) : Bool :=
  let unsigned := dropSign cs
  let whole := unsigned.takeWhile Char.isDigit
  let rest := unsigned.drop whole.length
  let (fraction, exponent) := match rest with
    | '.' :: rest => rest.span Char.isDigit
    | _ => ([], rest)
  isNumeral (whole ++ fraction) && isExponent exponent
    || ["inf", "infinity", "nan"].contains (lowered (String.ofList unsigned))

/-! ## Base sixteen -/

/-- The number that one hexadecimal digit stands for, in either case. -/
def hexDigit? (c : Char) : Option Nat :=
  if c.isDigit then some (c.toNat - '0'.toNat)
  else if 'a' ≤ c ∧ c ≤ 'f' then some (c.toNat - 'a'.toNat + 10)
  else if 'A' ≤ c ∧ c ≤ 'F' then some (c.toNat - 'A'.toNat + 10)
  else none

/-- The number that a run of hexadecimal digits stands for. -/
def hexValue? (cs : List Char) : Option Nat :=
  cs.foldlM (fun value c => (hexDigit? c).map (16 * value + ·)) 0

/-- The hexadecimal digits of a number in lower case, without leading zeros. -/
def hexNumeral (n : Nat) : List Char :=
  Nat.toDigits 16 n

/-- The last four hexadecimal digits of a number in lower case, zeros in front included. -/
def hexQuad (n : Nat) : List Char :=
  [n / 4096 % 16, n / 256 % 16, n / 16 % 16, n % 16].map Nat.digitChar

end WalletLedger.Text
