import WalletLedger.Json.Token

/-!
# Writing JSON

Two layouts: the compact one, which is nothing but the tokens of a value one
after another, and the indented one, with every item and every member on a line
of its own.
-/

namespace WalletLedger.Json.Value

/-! ## Compact -/

mutual

/-- The tokens of a value. -/
def tokens : Value → List Token
  | .null => [.null]
  | .boolean b => [.boolean b]
  | .number n => [.number n]
  | .string literal => [.string literal]
  | .array [] => [.beginArray, .endArray]
  | .array (first :: others) =>
    .beginArray :: tokens first ++ itemsTokens others ++ [.endArray]
  | .object [] => [.beginObject, .endObject]
  | .object (first :: others) =>
    .beginObject :: memberTokens first ++ membersTokens others ++ [.endObject]
termination_by structural v => v

/-- The tokens of the further items of an array. -/
def itemsTokens : List Value → List Token
  | [] => []
  | v :: rest => .valueSeparator :: tokens v ++ itemsTokens rest
termination_by structural items => items

/-- The tokens of the further members of an object. -/
def membersTokens : List (Literal × Value) → List Token
  | [] => []
  | member :: rest => .valueSeparator :: memberTokens member ++ membersTokens rest
termination_by structural members => members

/-- The tokens of a member. -/
def memberTokens : Literal × Value → List Token
  | (name, v) => .string name :: .nameSeparator :: tokens v
termination_by structural member => member

end

/-- A value as JSON text without blanks. -/
def compact (v : Value) : String :=
  String.ofList (v.tokens.flatMap Token.text)

/-! ## Indented -/

/-- A new line with two spaces for each open array or object. -/
def lineStart (level : Nat) : List Char :=
  '\n' :: List.replicate (2 * level) ' '

mutual

/-- A value on lines of its own, itself starting at the current position. -/
def indented (level : Nat) : Value → List Char
  | .null => Token.text .null
  | .boolean b => Token.text (.boolean b)
  | .number n => numberText n
  | .string literal => literalText literal
  | .array [] => ['[', ']']
  | .array (first :: others) =>
    '[' :: lineStart (level + 1) ++ indented (level + 1) first ++ indentedItems (level + 1) others
      ++ lineStart level ++ [']']
  | .object [] => ['\x7b', '\x7d']
  | .object (first :: others) =>
    '\x7b' :: lineStart (level + 1) ++ indentedMember (level + 1) first
      ++ indentedMembers (level + 1) others ++ lineStart level ++ ['\x7d']
termination_by structural v => v

/-- The further items of an array, each on a new line. -/
def indentedItems (level : Nat) : List Value → List Char
  | [] => []
  | v :: rest => ',' :: lineStart level ++ indented level v ++ indentedItems level rest
termination_by structural items => items

/-- The further members of an object, each on a new line. -/
def indentedMembers (level : Nat) : List (Literal × Value) → List Char
  | [] => []
  | member :: rest =>
    ',' :: lineStart level ++ indentedMember level member ++ indentedMembers level rest
termination_by structural members => members

/-- A member, with a space behind its colon. -/
def indentedMember (level : Nat) : Literal × Value → List Char
  | (name, v) => literalText name ++ ':' :: ' ' :: indented level v
termination_by structural member => member

end

/-- A value as JSON text with every item and member on a line of its own. -/
def pretty (v : Value) : String :=
  String.ofList (v.indented 0)

end WalletLedger.Json.Value
