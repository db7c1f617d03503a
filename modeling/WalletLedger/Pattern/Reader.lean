import WalletLedger.Pattern.Basic
import WalletLedger.Text.Alphanumeric

/-!
# Reading patterns

A pattern is read from its first character to its last one. The flags that hold at
a place decide what is read there; a setting changes them up to the end of the
group that it is in.
-/

namespace WalletLedger.Pattern

/-! ## Openings of groups -/

/-- What an opening parenthesis and what belongs to it begin. -/
inductive Opening where
  /-- Nothing; the flags from there on. -/
  | setting (flags : Flags)
  /-- A group, and the flags in it. -/
  | group (name : Option String) (flags : Flags)

/-- Whether a text is a name of a group. -/
def isName : List Char → Bool
  | [] => false
  | first :: others =>
    (first = '_' || Text.isAlphabetic first)
      && others.all fun c => ['_', '.', '[', ']'].contains c || Text.isAlphanumeric c

/-- Reads the name of a group from behind the opening angle bracket. -/
def readGroupName (flags : Flags) : Reader Opening := fun cs =>
  let name := cs.takeWhile (· ≠ '>')
  match cs.drop name.length with
  | _ :: rest => if isName name then some (.group (String.ofList name) flags, rest) else none
  | [] => none

/-- Reads flags from behind the question mark, up to a closing parenthesis or to a colon. Behind a
colon follows a group that they hold in. -/
def readSetting (flags : Flags) : Reader Opening := fun cs => do
  let setting := cs.takeWhile fun c => c ≠ ':' && c ≠ ')'
  let inner ← flags.after? setting
  match cs.drop setting.length with
  | ':' :: rest => return (.group none inner, rest)
  | ')' :: rest => if setting.isEmpty then none else return (.setting inner, rest)
  | _ => none

/-- Reads the opening of a group from behind its parenthesis. There are no groups that look ahead or
back. -/
def readOpening (flags : Flags) : Reader Opening := fun cs =>
  match flags.skip cs with
  | '?' :: 'P' :: '<' :: rest => readGroupName flags rest
  | '?' :: '<' :: rest => readGroupName flags rest
  | '?' :: rest => readSetting flags rest
  | rest => some (.group none flags, rest)

/-! ## Parts -/

/-- The pattern that consists of an atom. -/
def ofAtom? (flags : Flags) : Atom → Option Pattern
  | .literal l =>
    let isKnown := if flags.isUnicode then !flags.isCaseless else !l.isByte || l.char.toNat < 0x80
    if isKnown then some (literal l) else none
  | .ofKind => some (set .ofKind)
  | .edge => some edge
  | .wordBoundary => some (wordBoundary flags.isUnicode)

/-- Reads a part that is no group. -/
def readPart (flags : Flags) : Reader Pattern
  | '[' :: rest =>
    (CharacterSet.readBrackets flags rest).map fun (s, rest) => (set s, rest)
  | '\\' :: rest => do
    let (atom, rest) ← readEscape flags rest
    return (← ofAtom? flags atom, rest)
  | '.' :: rest => if flags.isUnicode then some (any, rest) else none
  | '^' :: rest | '$' :: rest => some (edge, rest)
  | '\x7b' :: _ | [] => none
  | c :: rest => (ofAtom? flags (.literal ⟨c, false⟩)).map (·, rest)

/-! ## Branches -/

/-- Whether a character says how many times the part in front of it may be there. -/
def isRepetition (c : Char) : Bool :=
  c = '?' || c = '*' || c = '+'

/-- The branches that have been read, the last one first, and the parts of one more. -/
structure Branches where
  done : List Pattern := []
  parts : List Pattern := []

namespace Branches

/-- The branches when another one begins. -/
def next (branches : Branches) : Branches where
  done := ofParts branches.parts.reverse :: branches.done

/-- The branches with a part more. -/
def push (branches : Branches) (part : Pattern) : Branches :=
  { branches with parts := part :: branches.parts }

/-- The branches with the last part repeated. There has to be one. -/
def repeat? (branches : Branches) : Option Branches :=
  match branches.parts with
  | part :: parts =>
    if part.isRepeatable then some { branches with parts := repeated part :: parts } else none
  | [] => none

/-- The pattern that has been read. -/
def pattern (branches : Branches) : Pattern :=
  ofBranches branches.next.done.reverse

end Branches

/-- Reads branches up to the end of the text or a closing parenthesis. Every step passes over a
character at least, so that as many steps as there are characters and one more are enough. -/
def readBranches : (steps : Nat) → Flags → Branches → Reader Pattern
  | 0, _, _, _ => none
  | steps + 1, flags, branches, cs =>
    match flags.skip cs with
    | [] => some (branches.pattern, [])
    | ')' :: rest => some (branches.pattern, ')' :: rest)
    | '|' :: rest => readBranches steps flags branches.next rest
    | '(' :: rest => do
      match ← readOpening flags rest with
      | (.setting flags, rest) => readBranches steps flags (branches.push setting) rest
      | (.group name inner, rest) =>
        match ← readBranches steps inner {} rest with
        | (p, ')' :: rest) => readBranches steps flags (branches.push (group name p)) rest
        | _ => none
    | c :: rest =>
      if isRepetition c then do
        let rest := if rest.head? = some '?' then rest.tail else rest
        readBranches steps flags (← branches.repeat?) rest
      else do
        let (part, rest) ← readPart flags (c :: rest)
        readBranches steps flags (branches.push part) rest

/-- The pattern that a text is. -/
def parse? (text : List Char) : Option Pattern :=
  match readBranches (text.length + 1) {} {} text with
  | some (p, []) => if p.isValid then some p else none
  | _ => none

/-! ## Faults -/

/-- Why values cannot be searched for what a text says. -/
inductive Fault where
  /-- It is no pattern. -/
  | malformed
  /-- It asks for an end of a word of any script. -/
  | wordBoundary
deriving DecidableEq, Repr

/-- The fault of a text as a pattern for values. -/
def fault? (text : List Char) : Option Fault :=
  match parse? text with
  | none => some .malformed
  | some p => if p.hasWordBoundary then some .wordBoundary else none

end WalletLedger.Pattern
