import WalletLedger.InputError
import WalletLedger.Json.Decode
import WalletLedger.Text.Numeral

/-!
# Decimal amounts

An amount of an asset is kept as the text that a source delivered, in the
asset's own unit, and is never rounded. It turns into a whole number of base
units, the smallest amount that the chain knows, or not at all. Main statement:
`DecimalAmount.parse_eq_ok_iff`, a text is accepted just if it follows the
grammar, and then kept unchanged.
-/

namespace WalletLedger

/-! ## The grammar -/

/-- What stands before the first point of a text, and what stands behind it if there is a point. -/
def splitAtPoint (cs : List Char) : List Char × Option (List Char) :=
  (cs.takeWhile (· ≠ '.'), (cs.dropWhile (· ≠ '.')).tail?)

/-- Whether a text is one digit or more, and behind an optional point again one digit or more. -/
def isDecimal (cs : List Char) : Bool :=
  Text.isNumeral (splitAtPoint cs).1 && (splitAtPoint cs).2.all Text.isNumeral

/-- An amount in decimal notation, without sign and without exponent. -/
structure DecimalAmount where
  text : String
  wellFormed : isDecimal text.toList = true
deriving DecidableEq

namespace DecimalAmount

instance : Repr DecimalAmount := ⟨fun amount prec => reprPrec amount.text prec⟩

/-- Reads an amount; an error names the field that the text was given for. -/
def parse (field value : String) : Except InputError DecimalAmount :=
  if wellFormed : isDecimal value.toList = true then .ok ⟨value, wellFormed⟩
  else .error (.invalidDecimal field value)

/-- What an error names as the field of a text that was given for none. -/
def unnamed : String := "decimal"

/-- Reads an amount that stands in no particular field. -/
def ofText (value : String) : Except InputError DecimalAmount :=
  parse unnamed value

/-- Takes over a text as an amount that stands in no particular field, with a check of its own. -/
def adopt (value : String) : Except InputError DecimalAmount :=
  if wellFormed : isDecimal value.toList = true then .ok ⟨value, wellFormed⟩
  else .error (.invalidDecimal unnamed value)

theorem eq_of_text {first second : DecimalAmount} (same : first.text = second.text) :
    first = second := by
  cases first
  cases second
  cases same
  rfl

theorem parse_eq_ok_iff {field value : String} {amount : DecimalAmount} :
    parse field value = .ok amount ↔ amount.text = value := by
  unfold parse
  split
  · next wellFormed =>
    constructor
    · intro accepted
      cases accepted
      rfl
    · intro same
      subst same
      rfl
  · next illFormed =>
    constructor
    · intro accepted
      cases accepted
    · intro same
      subst same
      exact absurd amount.wellFormed illFormed

/-- The check of a text that is taken over comes to the same as that of a text that is read. -/
theorem adopt_eq_ofText (value : String) : adopt value = ofText value := rfl

/-! ## Value -/

/-- The digits before the point. -/
def wholeDigits (amount : DecimalAmount) : List Char :=
  (splitAtPoint amount.text.toList).1

/-- The digits behind the point. -/
def fractionDigits (amount : DecimalAmount) : List Char :=
  (splitAtPoint amount.text.toList).2.getD []

/-- The digits behind the point without the zeros at their end. -/
def significantFraction (amount : DecimalAmount) : List Char :=
  (amount.fractionDigits.reverse.dropWhile (· = '0')).reverse

/-- Whether an amount is nothing: its text has only zeros beside the point. -/
def isZero (amount : DecimalAmount) : Bool :=
  amount.text.toList.all fun c => c = '0' || c = '.'

/-- Base units are counted below this bound. -/
def unitBound : Nat := Nat.pow 2 128

/-- Appends a digit to a number of base units, unless that reaches the bound. -/
def appendDigit? (units : Nat) (digit : Char) : Option Nat :=
  let next := 10 * units + (digit.toNat - '0'.toNat)
  if next < unitBound then some next else none

/-- An amount in base units, of which `10 ^ decimals` make one unit of the asset. There is none if
the fraction is finer than that, or if the number reaches the bound. -/
def toBaseUnits? (amount : DecimalAmount) (decimals : UInt8) : Option Nat :=
  let fraction := amount.significantFraction
  let places := decimals.toNat
  if places < fraction.length then none
  else
    (amount.wholeDigits ++ fraction ++ List.replicate (places - fraction.length) '0').foldlM
      appendDigit? 0

/-! ## As JSON -/

/-- An amount as a JSON string. -/
def toJson (amount : DecimalAmount) : Json.Value :=
  .ofText amount.text

/-- The amount of a JSON string that follows the grammar. -/
def ofJson? (v : Json.Value) : Option DecimalAmount :=
  v.text?.bind fun value => (adopt value).toOption

end DecimalAmount

end WalletLedger
