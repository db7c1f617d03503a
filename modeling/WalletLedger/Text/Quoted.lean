import WalletLedger.Text.Combining
import WalletLedger.Text.Numeral
import WalletLedger.Text.Unprintable

/-!
# Quoted text

How a message shows a text that came from outside: between double quotes, with
everything escaped that would be invisible, ambiguous, or drawn onto its
neighbour. The apostrophe needs no escape.
-/

namespace WalletLedger.Text

/-- The written form of one character of a quoted text. -/
def quotedChar (c : Char) : List Char :=
  if c = '\x00' then ['\\', '0']
  else if c = '\t' then ['\\', 't']
  else if c = '\r' then ['\\', 'r']
  else if c = '\n' then ['\\', 'n']
  else if c = '"' then ['\\', '"']
  else if c = '\\' then ['\\', '\\']
  else if isUnprintable c || isCombining c then
    ['\\', 'u', '\x7b'] ++ hexNumeral c.toNat ++ ['\x7d']
  else [c]

/-- A text between double quotes, with escapes. -/
def quoted (s : String) : String :=
  String.ofList ('"' :: s.toList.flatMap quotedChar ++ ['"'])

/-- A text that may be absent, with its presence spelled out. -/
def quotedOption : Option String → String
  | none => "None"
  | some s => "Some(" ++ quoted s ++ ")"

end WalletLedger.Text
