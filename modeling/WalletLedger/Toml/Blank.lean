/-!
# Blanks, comments and line ends of TOML

Spaces and tabs separate the parts of a line. A comment runs from a number sign
to the end of its line. A line ends with a line feed, which a carriage return
may precede, or with the text.
-/

namespace WalletLedger.Toml

/-- What reads something from the front of a text and gives the rest of the text, or refuses it. -/
abbrev Reader (α : Type) := List Char → Option (α × List Char)

/-- Whether a character separates the parts of a line. -/
def isSpace (c : Char) : Bool :=
  c = ' ' || c = '\t'

/-- Whether a character may stand for itself: the tab and everything that is no control character of
the ASCII range. -/
def isPlain (c : Char) : Bool :=
  c = '\t' || (0x20 ≤ c.toNat && c.toNat ≠ 0x7F)

/-- A text without the spaces and tabs at its front. -/
def skipSpaces (cs : List Char) : List Char :=
  cs.dropWhile isSpace

/-- The text behind a line end at its front. -/
def afterLineEnd? : List Char → Option (List Char)
  | '\n' :: rest => some rest
  | '\r' :: '\n' :: rest => some rest
  | _ => none

/-- A text without the blanks, line ends and comments at its front. -/
def skipTrivia (inComment : Bool) : List Char → List Char
  | [] => []
  | '\r' :: '\n' :: rest => skipTrivia false rest
  | c :: rest =>
    if c = '#' || (inComment && isPlain c) then skipTrivia true rest
    else if isSpace c || c = '\n' then skipTrivia false rest
    else c :: rest

/-- The text behind the end of a line of which only a comment may be left. -/
def nextLine? (cs : List Char) : Option (List Char) :=
  match skipSpaces cs with
  | [] => some []
  | '#' :: comment =>
    match comment.dropWhile isPlain with
    | [] => some []
    | rest => afterLineEnd? rest
  | rest => afterLineEnd? rest

end WalletLedger.Toml
