import WalletLedger.Text.Numeral
import WalletLedger.Toml.Blank

/-!
# Texts in TOML

A text is written in one of four styles: with escapes or literally, on one line
or on several. Reading takes one element after another from behind the opening
quotes: a character, an escape, or the closing quotes, in front of which up to
two quotes may belong to the text. Writing picks the plainest style that suits.
-/

namespace WalletLedger.Toml

/-- How a text is written. -/
inductive TextStyle where
  | basic | literal | multilineBasic | multilineLiteral
deriving DecidableEq, Repr

namespace TextStyle

/-- The character of which the quotes of a style are made. -/
def quote : TextStyle → Char
  | basic | multilineBasic => '"'
  | literal | multilineLiteral => '\''

/-- Whether a backslash begins an escape. -/
def hasEscapes : TextStyle → Bool
  | basic | multilineBasic => true
  | literal | multilineLiteral => false

/-- Whether a text may run over several lines. -/
def isMultiline : TextStyle → Bool
  | basic | literal => false
  | multilineBasic | multilineLiteral => true

/-- The quotes before and behind a text. -/
def quotes (style : TextStyle) : List Char :=
  List.replicate (if style.isMultiline then 3 else 1) style.quote

end TextStyle

/-! ## Reading -/

/-- An element of a written text. -/
inductive TextElement where
  /-- Characters of the text; an escaped line end stands for none. -/
  | chars (cs : List Char)
  /-- The closing quotes, with the quotes before them that belong to the text. -/
  | close (extra : List Char)
deriving DecidableEq, Repr

/-- The character that a one-letter escape stands for. -/
def shortEscape? : Char → Option Char
  | 'b' => some '\x08'
  | 't' => some '\t'
  | 'n' => some '\n'
  | 'f' => some '\x0c'
  | 'r' => some '\r'
  | '"' => some '"'
  | '\\' => some '\\'
  | _ => none

/-- Reads the character whose number is written in exactly so many hexadecimal digits. -/
def readCode (digits : Nat) : Reader Char := fun cs =>
  match Text.hexValue? (cs.take digits) with
  | some code =>
    if (cs.take digits).length = digits ∧ code.isValidChar then
      some (Char.ofNat code, cs.drop digits)
    else none
  | none => none

/-- Reads an escape from behind its backslash. -/
def readEscape : Reader Char
  | 'u' :: rest => readCode 4 rest
  | 'U' :: rest => readCode 8 rest
  | e :: rest => (shortEscape? e).map (·, rest)
  | [] => none

/-- A text without the spaces and line ends at its front. -/
def skipSpacesAndLines : List Char → List Char
  | '\r' :: '\n' :: rest => skipSpacesAndLines rest
  | c :: rest => if isSpace c || c = '\n' then skipSpacesAndLines rest else c :: rest
  | [] => []

/-- The text behind a line end, and the blanks around it, that a backslash escapes. -/
def afterEscapedLine? (cs : List Char) : Option (List Char) :=
  (afterLineEnd? (skipSpaces cs)).map skipSpacesAndLines

/-- Reads what begins with a quote inside a text on several lines, from behind that quote. -/
def readQuotes (quote : Char) : Reader TextElement
  | a :: b :: rest =>
    if a = quote ∧ b = quote then
      let extra := (rest.take 2).takeWhile (· = quote)
      some (.close extra, rest.drop extra.length)
    else some (.chars [quote], a :: b :: rest)
  | rest => some (.chars [quote], rest)

/-- Reads one element of a text. -/
def readElement (style : TextStyle) : Reader TextElement
  | [] => none
  | c :: rest =>
    if c = style.quote then
      if style.isMultiline then readQuotes c rest else some (.close [], rest)
    else if c = '\\' && style.hasEscapes then
      match if style.isMultiline then afterEscapedLine? rest else none with
      | some rest => some (.chars [], rest)
      | none => (readEscape rest).map fun (c, rest) => (.chars [c], rest)
    else if isPlain c then some (.chars [c], rest)
    else if style.isMultiline then (afterLineEnd? (c :: rest)).map fun rest => (.chars ['\n'], rest)
    else none

/-- Reads the elements of a text, of which there are at most so many, up to its closing quotes. -/
def readElements (style : TextStyle) : Nat → Reader (List Char)
  | 0, _ => none
  | bound + 1, cs => do
    let (element, rest) ← readElement style cs
    match element with
    | .close extra => return (extra, rest)
    | .chars these =>
      let (others, rest) ← readElements style bound rest
      return (these ++ others, rest)

/-- Reads a text of a style from behind its opening quotes. -/
def readStyled (style : TextStyle) : Reader String := fun cs =>
  -- A line end that directly follows the opening quotes is no part of the text.
  let cs := if style.isMultiline then (afterLineEnd? cs).getD cs else cs
  (readElements style (cs.length + 1) cs).map fun (text, rest) => (String.ofList text, rest)

/-- Reads a text on one line, its quotes included. -/
def readLineText : Reader String
  | '"' :: rest => readStyled .basic rest
  | '\'' :: rest => readStyled .literal rest
  | _ => none

/-- Reads a text of any style, its quotes included. -/
def readText : Reader String
  | '"' :: '"' :: '"' :: rest => readStyled .multilineBasic rest
  | '\'' :: '\'' :: '\'' :: rest => readStyled .multilineLiteral rest
  | cs => readLineText cs

/-! ## Writing -/

/-- Whether a character has no written form without an escape, line ends and tabs aside. -/
def needsCode (c : Char) : Bool :=
  c ≠ '\n' && !isPlain c

/-- The written form of a character other than a quote in a style with escapes. -/
def basicChar (multiline : Bool) (c : Char) : List Char :=
  if c = '\x08' then ['\\', 'b']
  else if c = '\t' then ['\\', 't']
  else if c = '\n' then if multiline then ['\n'] else ['\\', 'n']
  else if c = '\x0c' then ['\\', 'f']
  else if c = '\r' then ['\\', 'r']
  else if c = '\\' then ['\\', '\\']
  else if needsCode c then '\\' :: 'u' :: (Text.hexQuad c.toNat).map Char.toUpper
  else [c]

/-- The written form of characters in a style with escapes, behind so many quotes in a row. On several
lines two quotes in a row stand for themselves, on one line none does. -/
def basicBody (multiline : Bool) (inRow : Nat) : List Char → List Char
  | [] => []
  | c :: rest =>
    if c = '"' then
      if multiline && inRow < 2 then '"' :: basicBody multiline (inRow + 1) rest
      else '\\' :: '"' :: basicBody multiline 0 rest
    else basicChar multiline c ++ basicBody multiline 0 rest

/-- How often a character is repeated in a row at most, having just been seen so many times. -/
def longestRun (c : Char) (inRow : Nat) : List Char → Nat
  | [] => inRow
  | d :: rest => if d = c then longestRun c (inRow + 1) rest else max inRow (longestRun c 0 rest)

/-- The style in which a text is written. -/
def TextStyle.best (cs : List Char) : TextStyle :=
  let hasCodes := cs.any needsCode
  let hasLines := cs.contains '\n'
  let hasBackslash := cs.contains '\\'
  let quotes := longestRun '"' 0 cs
  let apostrophes := longestRun '\'' 0 cs
  if !hasCodes && !hasBackslash && quotes = 0 && !hasLines then .basic
  else if !hasCodes && apostrophes = 0 && !hasLines then .literal
  else if !hasCodes && !hasBackslash && quotes ≤ 2 then .multilineBasic
  else if !hasCodes && apostrophes ≤ 2 then .multilineLiteral
  else if hasLines then .multilineBasic
  else .basic

/-- A text in a style. One with line ends begins on a line of its own. -/
def TextStyle.write (style : TextStyle) (cs : List Char) : List Char :=
  style.quotes ++
  (if style.isMultiline && cs.contains '\n' then ['\n'] else []) ++
  (if style.hasEscapes then basicBody style.isMultiline 0 cs else cs) ++
  style.quotes

/-- A text in the style that suits it best. -/
def writeText (text : String) : List Char :=
  (TextStyle.best text.toList).write text.toList

end WalletLedger.Toml
