import WalletLedger.FixedWidth
import WalletLedger.Text.Magnitude
import WalletLedger.Text.Numeral
import WalletLedger.Toml.Blank
import WalletLedger.Toml.Value

/-!
# Numbers, truth values and moments in TOML

A value without quotes and brackets is a word: everything up to the next blank,
separator or bracket. The one exception is a moment with a space between its
date and its time. A word is a value as a whole or not at all.
-/

namespace WalletLedger.Toml

/-! ## Groups of digits -/

/-- The digits of a run in which a single underscore may stand between two digits. -/
def ungrouped? (isDigit : Char → Bool) : List Char → Option (List Char)
  | [] => none
  | [c] => if isDigit c then some [c] else none
  | c :: '_' :: rest => if isDigit c then (ungrouped? isDigit rest).map (c :: ·) else none
  | c :: rest => if isDigit c then (ungrouped? isDigit rest).map (c :: ·) else none

/-- The digits of a run of decimal digits with underscores. -/
def decimalDigits? : List Char → Option (List Char) :=
  ungrouped? Char.isDigit

/-- The digits of a run that does not begin with a zero unless that is all of it. -/
def wholeDigits? (cs : List Char) : Option (List Char) :=
  (decimalDigits? cs).filter fun digits => digits.length = 1 || digits.head? ≠ some '0'

/-- Whether a word begins with a minus sign, and the word without its sign. -/
def splitSign : List Char → Bool × List Char
  | '-' :: rest => (true, rest)
  | '+' :: rest => (false, rest)
  | cs => (false, cs)

/-! ## Integers -/

/-- Whether a character is a digit in base eight. -/
def isOctalDigit (c : Char) : Bool := '0' ≤ c && c ≤ '7'

/-- Whether a character is a digit in base two. -/
def isBinaryDigit (c : Char) : Bool := c = '0' || c = '1'

/-- Whether a character is a digit in base sixteen. -/
def isHexDigit (c : Char) : Bool := (Text.hexDigit? c).isSome

/-- The integer that a word stands for, of whatever size. -/
def unboundedInteger? : List Char → Option Int
  | '0' :: 'x' :: rest =>
    ((ungrouped? isHexDigit rest).bind Text.hexValue?).map Int.ofNat
  | '0' :: 'o' :: rest =>
    (ungrouped? isOctalDigit rest).map fun digits => Int.ofNat (Nat.ofDigitChars 8 digits 0)
  | '0' :: 'b' :: rest =>
    (ungrouped? isBinaryDigit rest).map fun digits => Int.ofNat (Nat.ofDigitChars 2 digits 0)
  | cs =>
    let (negative, unsigned) := splitSign cs
    (wholeDigits? unsigned).map fun digits =>
      let value : Int := Text.numeralValue digits
      if negative then -value else value

/-- The integer that a word stands for, which has 64 bits. -/
def integer? (cs : List Char) : Option Int :=
  (unboundedInteger? cs).filter fun n => (FixedWidth.int64? n).isSome

/-! ## Floats -/

/-- The part of a run before the first character that passes a test, and the part behind it if there
is one. -/
def splitAt (test : Char → Bool) (cs : List Char) : List Char × Option (List Char) :=
  (cs.takeWhile fun c => !test c, (cs.dropWhile fun c => !test c).tail?)

/-- The number behind an exponent sign. -/
def exponentOf? (cs : List Char) : Option Int :=
  let (negative, unsigned) := splitSign cs
  (decimalDigits? unsigned).map fun digits =>
    let value : Int := Text.numeralValue digits
    if negative then -value else value

/-- Whether a word is a float: with a fraction, with an exponent, or not a number in the usual sense.
A float above all others is none. -/
def isFloat (cs : List Char) : Bool :=
  let (negative, unsigned) := splitSign cs
  if unsigned = ['i', 'n', 'f'] || unsigned = ['n', 'a', 'n'] then true
  else
    let (mantissa, power) := splitAt (fun c => c = 'e' || c = 'E') unsigned
    let (whole, fraction) := splitAt (· = '.') mantissa
    let parts := do
      let whole ← wholeDigits? whole
      let fraction ← (fraction.map decimalDigits?).getD (some [])
      let exponent ← (power.map exponentOf?).getD (some 0)
      return (Text.numeralValue (whole ++ fraction), exponent - fraction.length)
    (fraction.isSome || power.isSome) && parts.any fun (digits, exponent) =>
      negative || !Text.roundsToInfinity digits exponent

/-! ## Moments -/

/-- The number of exactly two digits. -/
def twoDigits? (a b : Char) : Option Nat :=
  if a.isDigit && b.isDigit then some (Text.numeralValue [a, b]) else none

/-- Whether two characters are a number within bounds. -/
def isBetween (low high : Nat) (a b : Char) : Bool :=
  (twoDigits? a b).any fun n => low ≤ n && n ≤ high

/-- How many days a month has. -/
def daysIn (year month : Nat) : Nat :=
  if month = 2 then
    if year % 4 = 0 && (year % 100 ≠ 0 || year % 400 = 0) then 29 else 28
  else if month = 4 || month = 6 || month = 9 || month = 11 then 30
  else 31

/-- The text behind a date at its front. -/
def afterDate? : List Char → Option (List Char)
  | y₁ :: y₂ :: y₃ :: y₄ :: '-' :: m₁ :: m₂ :: '-' :: d₁ :: d₂ :: rest => do
    let century ← twoDigits? y₁ y₂
    let year ← twoDigits? y₃ y₄
    let month ← twoDigits? m₁ m₂
    let days := daysIn (100 * century + year) month
    if isBetween 1 12 m₁ m₂ && isBetween 1 days d₁ d₂ then some rest else none
  | _ => none

/-- The text behind the fraction of a second, if there is one. -/
def afterFraction? : List Char → Option (List Char)
  | '.' :: rest =>
    if (rest.takeWhile Char.isDigit).isEmpty then none else some (rest.dropWhile Char.isDigit)
  | rest => some rest

/-- The text behind a time at its front. -/
def afterTime? : List Char → Option (List Char)
  | h₁ :: h₂ :: ':' :: m₁ :: m₂ :: ':' :: s₁ :: s₂ :: rest =>
    if isBetween 0 23 h₁ h₂ && isBetween 0 59 m₁ m₂ && isBetween 0 60 s₁ s₂ then
      afterFraction? rest
    else none
  | _ => none

/-- Whether a run is empty or says how far a time is from universal time. -/
def isOffset : List Char → Bool
  | [] => true
  | [z] => z = 'Z' || z = 'z'
  | [sign, h₁, h₂, ':', m₁, m₂] =>
    (sign = '+' || sign = '-') && isBetween 0 23 h₁ h₂ && isBetween 0 59 m₁ m₂
  | _ => false

/-- Whether a word is a time that belongs to a date. -/
def isTimeOfDay (cs : List Char) : Bool :=
  (afterTime? cs).any isOffset

/-- Whether a word is a date alone. -/
def isDate (cs : List Char) : Bool :=
  afterDate? cs = some []

/-- Whether a word is a date, a time, or both. -/
def isMoment (cs : List Char) : Bool :=
  afterTime? cs = some [] ||
  match afterDate? cs with
  | some [] => true
  | some (t :: time) => (t = 'T' || t = 't') && isTimeOfDay time
  | none => false

/-! ## Words -/

/-- Whether a character may stand in a word. -/
def isWordChar (c : Char) : Bool :=
  c.isAlphanum || c = '+' || c = '-' || c = '_' || c = '.' || c = ':'

/-- The value that a word stands for. -/
def ofWord? (word : List Char) : Option Value :=
  if word = ['t', 'r', 'u', 'e'] then some (.boolean true)
  else if word = ['f', 'a', 'l', 's', 'e'] then some (.boolean false)
  else if isMoment word then some .moment
  else
    match integer? word with
    | some n => some (.integer n)
    | none => if isFloat word then some .float else none

/-- The text behind the time that may follow a date behind a space. -/
def skipTimeOfDay : List Char → List Char
  | ' ' :: rest => if isTimeOfDay (rest.takeWhile isWordChar) then rest.dropWhile isWordChar
    else ' ' :: rest
  | cs => cs

/-- Reads a value that is a word. -/
def readWord : Reader Value := fun cs =>
  let word := cs.takeWhile isWordChar
  let rest := cs.dropWhile isWordChar
  (ofWord? word).map fun v => (v, if isDate word then skipTimeOfDay rest else rest)

end WalletLedger.Toml
