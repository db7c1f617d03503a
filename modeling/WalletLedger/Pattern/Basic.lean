import WalletLedger.Pattern.CharacterSet

/-!
# Patterns

A pattern describes texts: branches to choose from, each of which is a sequence of
parts that may be repeated. How deep a pattern may be nested is limited, and no two
of its groups have the same name.
-/

namespace WalletLedger

/-- A pattern. -/
inductive Pattern where
  | empty
  /-- A change of the flags for what follows. -/
  | setting
  | literal (l : Pattern.Literal)
  /-- Any character but a line end. -/
  | any
  /-- An end of the text or of a line. -/
  | edge
  /-- An end of a word, which characters of every script or of the ASCII range belong to. -/
  | wordBoundary (isUnicode : Bool)
  | set (s : Pattern.CharacterSet)
  /-- A pattern as many times as a question mark, a star or a plus sign says. -/
  | repeated (p : Pattern)
  /-- A pattern in parentheses. -/
  | group (name : Option String) (p : Pattern)
  /-- Two or more patterns one behind the other. -/
  | sequence (parts : List Pattern)
  /-- Two or more patterns to choose from. -/
  | choice (branches : List Pattern)

namespace Pattern

/-- The pattern of some parts one behind the other. -/
def ofParts : List Pattern → Pattern
  | [] => empty
  | [part] => part
  | parts => sequence parts

/-- The pattern of some branches to choose from. -/
def ofBranches : List Pattern → Pattern
  | [branch] => branch
  | branches => choice branches

/-- Whether a part of a sequence may be repeated. A setting may not. -/
def isRepeatable : Pattern → Bool
  | setting => false
  | _ => true

mutual

/-- How deep repetitions, groups, sequences, choices and sets are nested in a pattern. -/
def depth : Pattern → Nat
  | empty | setting | literal _ | any | edge | wordBoundary _ => 0
  | set s => s.depth
  | repeated p => p.depth + 1
  | group _ p => p.depth + 1
  | sequence parts => greatestDepth parts + 1
  | choice branches => greatestDepth branches + 1

/-- The greatest depth of some patterns. -/
def greatestDepth : List Pattern → Nat
  | [] => 0
  | p :: ps => max p.depth (greatestDepth ps)

end

mutual

/-- The names of the groups in a pattern. -/
def names : Pattern → List String
  | empty | setting | literal _ | any | edge | wordBoundary _ | set _ => []
  | repeated p => p.names
  | group name p => name.toList ++ p.names
  | sequence parts => allNames parts
  | choice branches => allNames branches

/-- The names of the groups in some patterns. -/
def allNames : List Pattern → List String
  | [] => []
  | p :: ps => p.names ++ allNames ps

end

mutual

/-- Whether a pattern asks for an end of a word of any script. -/
def hasWordBoundary : Pattern → Bool
  | empty | setting | literal _ | any | edge | set _ => false
  | wordBoundary isUnicode => isUnicode
  | repeated p => p.hasWordBoundary
  | group _ p => p.hasWordBoundary
  | sequence parts => haveWordBoundary parts
  | choice branches => haveWordBoundary branches

/-- Whether one of some patterns asks for an end of a word of any script. -/
def haveWordBoundary : List Pattern → Bool
  | [] => false
  | p :: ps => p.hasWordBoundary || haveWordBoundary ps

end

/-- The greatest depth of a pattern. -/
def limit : Nat := 250

/-- Whether a pattern keeps the rules that are about the whole of it. -/
def isValid (p : Pattern) : Bool :=
  p.depth ≤ limit && decide p.names.Nodup

end Pattern

end WalletLedger
