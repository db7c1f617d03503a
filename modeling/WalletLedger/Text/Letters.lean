/-!
# Letters regardless of case

Codes, names and attribute keys are compared without regard to the case of the
26 ASCII letters. No other character has a case here.
-/

namespace WalletLedger.Text

/-- A text with its ASCII letters in lower case. -/
def lowered (s : String) : String :=
  String.ofList (s.toList.map Char.toLower)

/-- A text with its ASCII letters in upper case. -/
def raised (s : String) : String :=
  String.ofList (s.toList.map Char.toUpper)

/-- Whether two texts differ at most in the case of ASCII letters. -/
def sameLetters (s t : String) : Bool :=
  lowered s == lowered t

theorem sameLetters_iff {s t : String} : sameLetters s t = true ↔ lowered s = lowered t :=
  beq_iff_eq

end WalletLedger.Text
