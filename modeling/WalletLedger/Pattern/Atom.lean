import WalletLedger.Pattern.Flags
import WalletLedger.Text.Numeral

/-!
# Atoms of patterns

The smallest parts of a pattern: characters that stand for themselves, and what a
backslash makes of the characters behind it.
-/

namespace WalletLedger.Pattern

/-- A character that stands for itself. -/
structure Literal where
  char : Char
  /-- Whether it is written as a byte, in two hexadecimal digits. -/
  isByte : Bool := false
deriving DecidableEq, Repr

/-- What a character or a backslash and some characters stand for. -/
inductive Atom where
  | literal (l : Literal)
  /-- A digit, a blank or a character of words. -/
  | ofKind
  /-- An end of the text or of a line. -/
  | edge
  /-- An end of a word. -/
  | wordBoundary
deriving DecidableEq, Repr

/-- What reads something from the front of a text and gives the rest of the text, or refuses it. -/
abbrev Reader (α : Type) := List Char → Option (α × List Char)

/-! ## Characters by their numbers -/

/-- Reads so many hexadecimal digits behind those of a number. -/
def readDigits (flags : Flags) : (count value : Nat) → Reader Nat
  | 0, value, cs => some (value, cs)
  | count + 1, value, cs =>
    match flags.skip cs with
    | c :: rest =>
      (Text.hexDigit? c).bind fun digit => readDigits flags count (16 * value + digit) rest
    | [] => none

/-- Reads the character whose number is written in so many hexadecimal digits. -/
def readCode (flags : Flags) (count : Nat) : Reader Literal := fun cs => do
  let (code, rest) ← readDigits flags count 0 cs
  if code.isValidChar then some (⟨Char.ofNat code, count = 2⟩, rest) else none

/-! ## Escapes -/

/-- The control character that a letter behind a backslash stands for. -/
def controlCharacter? : Char → Option Char
  | 'a' => some '\x07'
  | 't' => some '\t'
  | 'n' => some '\n'
  | 'v' => some '\x0b'
  | 'f' => some '\x0c'
  | 'r' => some '\r'
  | _ => none

/-- Whether a character stands for itself behind a backslash: every one of the ASCII range but
letters, digits and the angle brackets. -/
def isEscapable (c : Char) : Bool :=
  c.toNat < 0x80 && !c.isAlphanum && c ≠ '<' && c ≠ '>'

/-- Reads an escape from behind its backslash. The digits, the blanks and the characters of words
are known in the ASCII range only, and the characters that are none of these nowhere. -/
def readEscape (flags : Flags) : Reader Atom
  | [] => none
  | c :: rest =>
    if isEscapable c then some (.literal ⟨c, false⟩, rest)
    else match c with
      | 'x' => (readCode flags 2 rest).map fun (l, rest) => (.literal l, rest)
      | 'u' => (readCode flags 4 rest).map fun (l, rest) => (.literal l, rest)
      | 'U' => (readCode flags 8 rest).map fun (l, rest) => (.literal l, rest)
      | 'd' | 's' | 'w' => if flags.isUnicode then none else some (.ofKind, rest)
      | 'A' | 'z' => some (.edge, rest)
      | 'b' | 'B' | '<' | '>' => some (.wordBoundary, rest)
      | _ => (controlCharacter? c).map fun c => (.literal ⟨c, false⟩, rest)

end WalletLedger.Pattern
