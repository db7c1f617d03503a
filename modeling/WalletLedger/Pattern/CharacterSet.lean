import WalletLedger.Pattern.Atom

/-!
# Sets of characters

A set is written between brackets: characters, ranges of characters, names of
well-known sets, sets in brackets of their own, and operations on all that is to
the left and to the right of them.
-/

namespace WalletLedger.Pattern

/-- A set of characters. -/
inductive CharacterSet where
  | empty
  | literal (l : Literal)
  | range (first last : Literal)
  /-- The digits, the blanks or the characters of words. -/
  | ofKind
  /-- The set with a certain name, or the characters not in it. -/
  | named (name : String) (isNegated : Bool)
  /-- The set between brackets, or the characters not in it. -/
  | bracketed (isNegated : Bool) (set : CharacterSet)
  /-- What is in one of two or more sets. -/
  | union (sets : List CharacterSet)
  /-- What is in both sets, in the first one only, or in exactly one of them. -/
  | operation (left right : CharacterSet)

namespace CharacterSet

/-! ## Nesting -/

mutual

/-- How deep brackets, unions and operations are nested in a set. -/
def depth : CharacterSet → Nat
  | empty | literal _ | range _ _ | ofKind | named _ _ => 0
  | bracketed _ set => set.depth + 1
  | union sets => greatestDepth sets + 1
  | operation left right => max left.depth right.depth + 1

/-- The greatest depth of some sets. -/
def greatestDepth : List CharacterSet → Nat
  | [] => 0
  | set :: sets => max set.depth (greatestDepth sets)

end

/-! ## Items -/

/-- The union of sets. -/
def ofItems : List CharacterSet → CharacterSet
  | [] => empty
  | [item] => item
  | items => union items

/-- Whether a literal may be in a set. With the flag for all scripts the other case of a letter is
not known; without it there are only the characters of the ASCII range. -/
def admits (flags : Flags) (l : Literal) : Bool :=
  if flags.isUnicode then !flags.isCaseless else l.char.toNat < 0x80

/-- The set that consists of an atom. -/
def ofAtom? (flags : Flags) : Atom → Option CharacterSet
  | .literal l => if admits flags l then some (literal l) else none
  | .ofKind => some ofKind
  | _ => none

/-- The set of the characters from one literal to another. -/
def ofRange? (flags : Flags) : Atom → Atom → Option CharacterSet
  | .literal first, .literal last =>
    if first.char ≤ last.char && admits flags first && admits flags last then
      some (range first last)
    else none
  | _, _ => none

/-- A set between brackets. Without the flag for all scripts there are no characters to be left when
those of a set are taken away. -/
def ofBrackets? (flags : Flags) (isNegated : Bool) (set : CharacterSet) : Option CharacterSet :=
  if isNegated && !flags.isUnicode then none else some (bracketed isNegated set)

/-! ## Named sets -/

/-- The names of sets. -/
def names : List String :=
  ["alnum", "alpha", "ascii", "blank", "cntrl", "digit", "graph", "lower", "print", "punct",
   "space", "upper", "word", "xdigit"]

/-- Reads the name of a set from behind the opening bracket: between colons, with a caret in front
if the characters not in it are meant, and the closing bracket. -/
def readName : Reader (String × Bool)
  | ':' :: rest =>
    let isNegated := rest.head? = some '^'
    let rest := if isNegated then rest.tail else rest
    let name := rest.takeWhile (· ≠ ':')
    match rest.drop name.length with
    | ':' :: ']' :: rest =>
      if names.contains (String.ofList name) then some ((String.ofList name, isNegated), rest)
      else none
    | _ => none
  | _ => none

/-- The set with a certain name, or the characters not in it. -/
def ofName? (flags : Flags) (name : String) (isNegated : Bool) : Option CharacterSet :=
  let isKnown := if flags.isUnicode then !flags.isCaseless else !isNegated
  if isKnown then some (named name isNegated) else none

/-! ## Reading -/

/-- Reads a character or an escape. -/
def readAtom (flags : Flags) : Reader Atom
  | '\\' :: rest => readEscape flags rest
  | c :: rest => some (.literal ⟨c, false⟩, rest)
  | [] => none

/-- Reads an atom or a range. A minus sign makes a range unless a closing bracket or another minus
sign comes next. -/
def readItem (flags : Flags) : Reader CharacterSet := fun cs => do
  let (first, rest) ← readAtom flags cs
  match flags.skip rest with
  | '-' :: behind =>
    if flags.peek? behind = some ']' ∨ flags.peek? behind = some '-' then
      return (← ofAtom? flags first, '-' :: behind)
    else
      let (last, rest) ← readAtom flags (flags.skip behind)
      return (← ofRange? flags first last, rest)
  | rest => return (← ofAtom? flags first, rest)

/-- What has been read between brackets. -/
structure Content where
  /-- What is to the left of the last operation. -/
  left : Option CharacterSet := none
  /-- What is behind it, the last item first. -/
  items : List CharacterSet := []
  /-- Whether nothing but minus signs has been read. These stand for themselves, and so does a
  closing bracket that is the first character. -/
  isInitial : Bool := true

namespace Content

/-- The set that has been read. -/
def set (content : Content) : CharacterSet :=
  let right := ofItems content.items.reverse
  match content.left with
  | some left => operation left right
  | none => right

/-- What has been read with an item more. -/
def push (content : Content) (item : CharacterSet) : Content :=
  { content with items := item :: content.items, isInitial := false }

/-- What has been read when an operation comes next. -/
def operate (content : Content) : Content where
  left := some content.set
  isInitial := false

end Content

/-- Passes over the caret in front of what is between brackets, and tells whether there is one. -/
def readCaret (flags : Flags) (cs : List Char) : Bool × List Char :=
  match flags.skip cs with
  | '^' :: rest => (true, rest)
  | rest => (false, rest)

/-- Reads the rest of a set and its closing bracket. Every step passes over a character at least, so
that as many steps as there are characters are enough. -/
def readContent (flags : Flags) : (steps : Nat) → Content → Reader CharacterSet
  | 0, _, _ => none
  | steps + 1, content, cs =>
    match flags.skip cs with
    | [] => none
    | c :: rest =>
      if content.isInitial && (c = '-' || (c = ']' && content.items.isEmpty)) then do
        let item ← ofAtom? flags (.literal ⟨c, false⟩)
        readContent flags steps { content.push item with isInitial := c = '-' } rest
      else match c, rest with
        | ']', _ => some (content.set, rest)
        | '&', '&' :: rest | '-', '-' :: rest | '~', '~' :: rest =>
          readContent flags steps content.operate rest
        | '[', _ =>
          match readName rest with
          | some ((name, isNegated), rest) => do
            readContent flags steps (content.push (← ofName? flags name isNegated)) rest
          | none => do
            let (isNegated, rest) := readCaret flags rest
            let (set, rest) ← readContent flags steps {} rest
            readContent flags steps (content.push (← ofBrackets? flags isNegated set)) rest
        | _, _ => do
          let (item, rest) ← readItem flags (c :: rest)
          readContent flags steps (content.push item) rest

/-- Reads a set from behind its opening bracket. -/
def readBrackets (flags : Flags) : Reader CharacterSet := fun cs => do
  let (isNegated, cs) := readCaret flags cs
  let (set, rest) ← readContent flags cs.length {} cs
  return (← ofBrackets? flags isNegated set, rest)

end CharacterSet

end WalletLedger.Pattern
