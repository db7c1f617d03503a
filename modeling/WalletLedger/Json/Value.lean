import WalletLedger.Text.Magnitude

/-!
# JSON values

The values that a JSON text denotes. Two corners of the format are kept because
readers of this library tell them apart: a number written with a fraction, with
an exponent or as minus zero is no whole number, and a string literal may escape
half of a surrogate pair, in which case it is well formed but denotes no text.
-/

namespace WalletLedger.Json

/-- What a string literal denotes: its text, unless an escape names a lone surrogate. -/
abbrev Literal := Option String

/-- A number by the way it is written. -/
inductive Number where
  /-- A whole number written with digits only. -/
  | integer (value : Int)
  /-- Any other number, `digits * 10 ^ exponent` up to its sign. -/
  | real (negative : Bool) (digits : Nat) (exponent : Int)
deriving DecidableEq, Repr

/-- Whether a number is finite in double precision, to which it is rounded in steps. -/
def Number.isFinite : Number → Bool
  | .integer value => !Text.overflowsInSteps value.natAbs 0
  | .real _ digits exponent => !Text.overflowsInSteps digits exponent

/-- A JSON value. The members of an object keep their order and may repeat a name. -/
inductive Value where
  | null
  | boolean (value : Bool)
  | number (value : Number)
  | string (literal : Literal)
  | array (items : List Value)
  | object (members : List (Literal × Value))
deriving Repr, Inhabited

namespace Value

/-! ## Making values -/

/-- The string literal of a text. -/
def ofText (text : String) : Value := .string (some text)

/-- The number literal of a natural number. -/
def ofNat (n : Nat) : Value := .number (.integer n)

/-- The number literal of an integer. -/
def ofInt (n : Int) : Value := .number (.integer n)

/-- `null` for an absent value. -/
def ofOption {α : Type} (encode : α → Value) : Option α → Value
  | none => .null
  | some a => encode a

/-- An object with the given names in the given order. -/
def ofMembers (members : List (String × Value)) : Value :=
  .object (members.map fun member => (some member.1, member.2))

/-! ## Nesting -/

mutual

/-- How deep arrays and objects are nested in a value. -/
def depth : Value → Nat
  | .array items => itemsDepth items + 1
  | .object members => membersDepth members + 1
  | _ => 0
termination_by structural v => v

/-- The greatest depth among the items of an array. -/
def itemsDepth : List Value → Nat
  | [] => 0
  | v :: rest => max (depth v) (itemsDepth rest)
termination_by structural items => items

/-- The greatest depth among the members of an object. -/
def membersDepth : List (Literal × Value) → Nat
  | [] => 0
  | member :: rest => max (memberDepth member) (membersDepth rest)
termination_by structural members => members

/-- The depth of the value of a member. -/
def memberDepth : Literal × Value → Nat
  | (_, v) => depth v
termination_by structural member => member

end

/-! ## Values that can be kept before their type is known -/

mutual

/-- Whether every literal of a value denotes a text and every number is finite. -/
def isSound : Value → Bool
  | .number n => n.isFinite
  | .string literal => literal.isSome
  | .array items => itemsSound items
  | .object members => membersSound members
  | _ => true
termination_by structural v => v

/-- Whether all items of an array are sound. -/
def itemsSound : List Value → Bool
  | [] => true
  | v :: rest => isSound v && itemsSound rest
termination_by structural items => items

/-- Whether all members of an object are sound. -/
def membersSound : List (Literal × Value) → Bool
  | [] => true
  | member :: rest => memberSound member && membersSound rest
termination_by structural members => members

/-- Whether the name and the value of a member are sound. -/
def memberSound : Literal × Value → Bool
  | (name, v) => name.isSome && isSound v
termination_by structural member => member

end

end Value

end WalletLedger.Json
