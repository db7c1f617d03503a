import WalletLedger.Text.Blank

/-!
# Flags of patterns

Flags say how a pattern is read from some place on. A setting turns flags on and,
behind a minus sign, off.
-/

namespace WalletLedger.Pattern

/-- How a part of a pattern is read. -/
structure Flags where
  /-- Whether characters are those of every script and not only those of the ASCII range. -/
  isUnicode : Bool := true
  /-- Whether letters stand for themselves in either case. -/
  isCaseless : Bool := false
  /-- Whether blanks and comments are passed over. -/
  isSpaced : Bool := false
deriving DecidableEq, Repr

/-- Removes the blanks and comments at the front of a text. A comment goes from a number sign to the
end of its line. -/
def dropBlanks (inComment : Bool) : List Char → List Char
  | [] => []
  | c :: rest =>
    if inComment then dropBlanks (c ≠ '\n') rest
    else if c = '#' then dropBlanks true rest
    else if Text.isBlank c then dropBlanks false rest
    else c :: rest

namespace Flags

/-- The letters of all flags. The ones that no field of `Flags` is for change which texts match, but
not which patterns are valid. -/
def letters : List Char := ['i', 'm', 's', 'R', 'u', 'U', 'x']

/-- The flags behind a setting. It has letters of flags to turn on, and it may have a minus sign with
letters of flags to turn off behind it. No letter is there twice. -/
def after? (flags : Flags) (setting : List Char) : Option Flags :=
  let on := setting.takeWhile (· ≠ '-')
  let off := setting.drop (on.length + 1)
  let become (letter : Char) (flag : Bool) := (flag || on.contains letter) && !off.contains letter
  if (on ++ off).all letters.contains ∧ (on ++ off).Nodup ∧ setting.getLast? ≠ some '-' then
    some ⟨become 'u' flags.isUnicode, become 'i' flags.isCaseless, become 'x' flags.isSpaced⟩
  else none

/-- A text from the next character that counts on. -/
def skip (flags : Flags) (cs : List Char) : List Char :=
  if flags.isSpaced then dropBlanks false cs else cs

/-- The character that decides whether a minus sign in front of a text makes a range: the next one
that counts. Of a comment only the number sign and the blanks behind it are passed over. -/
def peek? (flags : Flags) (cs : List Char) : Option Char :=
  if flags.isSpaced then
    match cs.dropWhile Text.isBlank with
    | '#' :: comment => (comment.dropWhile Text.isBlank).head?
    | rest => rest.head?
  else cs.head?

end Flags

end WalletLedger.Pattern
