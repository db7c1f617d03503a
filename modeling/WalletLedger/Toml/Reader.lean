import WalletLedger.Toml.Scalar
import WalletLedger.Toml.Table
import WalletLedger.Toml.Text

/-!
# Reading TOML

A text is read line by line into statements, which then build the document. How
deep arrays and tables between braces may be nested in a line, and how many keys
a path may have, is limited.
-/

namespace WalletLedger.Toml

/-- The greatest nesting of brackets in a value, and the greatest number of keys in a path. -/
def limit : Nat := 79

/-! ## Keys -/

/-- Whether a character may stand in a key without quotes. -/
def isKeyChar (c : Char) : Bool :=
  c.isAlphanum || c = '_' || c = '-'

/-- Reads a single key. -/
def readKey : Reader String := fun cs =>
  match cs with
  | '"' :: _ | '\'' :: _ => readLineText cs
  | _ =>
    match cs.takeWhile isKeyChar with
    | [] => none
    | key => some (String.ofList key, cs.dropWhile isKeyChar)

/-- Reads a path of at most so many keys with dots between them, and the blanks around each. -/
def readPath : Nat → Reader Path
  | 0, _ => none
  | bound + 1, cs => do
    let (key, rest) ← readKey (skipSpaces cs)
    match skipSpaces rest with
    | '.' :: rest =>
      let (path, rest) ← readPath bound rest
      return ({ path with parents := key :: path.parents }, rest)
    | rest => return (⟨[], key⟩, rest)

/-! ## Values -/

/-- Reads a path, an equals sign and a value. -/
def readPair (readItem : Reader Value) : Reader (Path × Value) := fun cs => do
  match ← readPath limit cs with
  | (path, '=' :: rest) =>
    let (v, rest) ← readItem (skipSpaces rest)
    return ((path, v), rest)
  | _ => none

/-- Reads the items of an array, of which there are fewer than the bound, and the closing bracket. -/
def readItems (readItem : Reader Value) : Nat → Reader (List Value)
  | 0, _ => none
  | bound + 1, cs =>
    match skipTrivia false cs with
    | ']' :: rest => some ([], rest)
    | cs => do
      let (item, rest) ← readItem cs
      match skipTrivia false rest with
      | ',' :: rest =>
        let (items, rest) ← readItems readItem bound rest
        return (item :: items, rest)
      | ']' :: rest => return ([item], rest)
      | _ => none

/-- Reads pairs, at least one and at most as many as the bound, and the closing brace. -/
def readPairs (readItem : Reader Value) : Nat → Reader (List (Path × Value))
  | 0, _ => none
  | bound + 1, cs => do
    let (pair, rest) ← readPair readItem cs
    match skipSpaces rest with
    | ',' :: rest =>
      let (pairs, rest) ← readPairs readItem bound rest
      return (pair :: pairs, rest)
    | '\x7d' :: rest => return ([pair], rest)
    | _ => none

/-- Reads a table between braces from behind the opening one. -/
def readBraces (readItem : Reader Value) : Reader Value := fun cs =>
  match skipSpaces cs with
  | '\x7d' :: rest => some (.table .braces [], rest)
  | _ => do
    let (pairs, rest) ← readPairs readItem cs.length cs
    let entries ← Entries.ofPairs? pairs
    return (.table .braces entries, rest)

/-- Reads a value in which brackets are nested at most so deep. -/
def readValue : Nat → Reader Value
  | depth, cs =>
    match cs, depth with
    | '[' :: rest, depth + 1 =>
      (readItems (readValue depth) rest.length rest).map fun (items, rest) => (.array items, rest)
    | '\x7b' :: rest, depth + 1 => readBraces (readValue depth) rest
    | '"' :: _, _ | '\'' :: _, _ => (readText cs).map fun (text, rest) => (.text text, rest)
    | _, _ => readWord cs

/-! ## Lines -/

/-- Reads what a line says, unless it is blank. -/
def readStatement : Reader (Option Statement) := fun cs =>
  match skipSpaces cs with
  | [] => some (none, [])
  | '[' :: '[' :: rest => do
    match ← readPath limit rest with
    | (path, ']' :: ']' :: rest) => return (some (.openingNext path), rest)
    | _ => none
  | '[' :: rest => do
    match ← readPath limit rest with
    | (path, ']' :: rest) => return (some (.opening path), rest)
    | _ => none
  | c :: rest =>
    if c = '#' || c = '\n' || c = '\r' then some (none, c :: rest)
    else (readPair (readValue limit) (c :: rest)).map fun ((path, v), rest) =>
      (some (.pair path v), rest)

/-- Reads the statements of a text of at most so many lines. -/
def readStatements? : Nat → List Char → Option (List Statement)
  | _, [] => some []
  | 0, _ => none
  | bound + 1, cs => do
    let (statement, rest) ← readStatement cs
    let rest ← nextLine? rest
    let statements ← readStatements? bound rest
    return statement.toList ++ statements

/-- A text without the mark of its encoding that may be at its front. -/
def withoutMark : List Char → List Char
  | '\ufeff' :: rest => rest
  | cs => cs

/-- The content of the document that a text is. -/
def parse? (text : String) : Option Entries := do
  let cs := withoutMark text.toList
  let statements ← readStatements? cs.length cs
  Document.ofStatements? statements

end WalletLedger.Toml
