import WalletLedger.FixedWidth
import WalletLedger.Json.Value
import WalletLedger.TextMap

/-!
# Decoding JSON values

How the types of this library are read from JSON values. A record is read from
an object, whose unknown members are passed over, or from an array of its fields
in their declared order. A value with variants names its variant in the member
`type`, or in the first item of an array; such a value is kept as a whole before
its variant is known, so all of it must be sound.
-/

namespace WalletLedger.Json

/-! ## Values without parts -/

namespace Value

/-- The text of a string literal. -/
def text? : Value → Option String
  | .string literal => literal
  | _ => none

/-- A name from a closed set: a string literal, or an object whose only member has the name and is
`null`. -/
def bareName? : Value → Option String
  | .string literal => literal
  | .object [(name, .null)] => name
  | _ => none

/-- The value of a boolean. -/
def boolean? : Value → Option Bool
  | .boolean b => some b
  | _ => none

/-- A whole number. -/
def integer? : Value → Option Int
  | .number (.integer n) => some n
  | _ => none

/-- A whole number of 64 bits without sign. -/
def uint64? (v : Value) : Option UInt64 :=
  v.integer?.bind FixedWidth.uint64?

/-- A whole number of 32 bits without sign. -/
def uint32? (v : Value) : Option UInt32 :=
  v.integer?.bind FixedWidth.uint32?

/-- A whole number of 64 bits with sign. -/
def int64? (v : Value) : Option Int64 :=
  v.integer?.bind FixedWidth.int64?

/-- A whole number of 32 bits with sign. -/
def int32? (v : Value) : Option Int32 :=
  v.integer?.bind FixedWidth.int32?

/-- A value or `null`. -/
def nullable? {α : Type} (decode : Value → Option α) : Value → Option (Option α)
  | .null => some none
  | v => (decode v).map some

/-- A list of values. -/
def list? {α : Type} (decode : Value → Option α) : Value → Option (List α)
  | .array items => items.mapM decode
  | _ => none

/-- The name and the value of a member, if both are texts. -/
def textMember? : Literal × Value → Option (String × String)
  | (some name, .string (some text)) => some (name, text)
  | _ => none

/-- A map from texts to texts; of members with one name the last one counts. -/
def textMap? : Value → Option TextMap
  | .object members => (members.mapM textMember?).map TextMap.ofList
  | _ => none

/-- The JSON object of a map from texts to texts. -/
def ofTextMap (m : TextMap) : Value :=
  ofMembers (m.entries.map fun entry => (entry.1, ofText entry.2))

end Value

/-! ## Records -/

/-- The fields that a value holds for a record type, before they are decoded. -/
inductive Fields where
  /-- From an object: the members by name. -/
  | named (members : List (String × Value))
  /-- From an array: the values by place, beside the names that the places stand for. -/
  | placed (values : List (String × Value))

namespace Fields

/-- The members of an object with their names, if every name is a text. -/
def names? (members : List (Literal × Value)) : Option (List (String × Value)) :=
  members.mapM fun member => member.1.map (·, member.2)

/-- The fields of a record type with the given field names. An object must not repeat one of these
names; an array must not be longer than their list. -/
def of? (names : List String) : Value → Option Fields
  | .object members => do
    let members ← names? members
    if names.all fun name => (members.filter fun member => member.1 = name).length ≤ 1 then
      some (.named members)
    else none
  | .array items => if items.length ≤ names.length then some (.placed (names.zip items)) else none
  | _ => none

/-- The value that is given for a field. -/
def find? (name : String) : Fields → Option Value
  | .named members => members.lookup name
  | .placed values => values.lookup name

/-- A field that must be given. -/
def required? {α : Type} (fields : Fields) (name : String) (decode : Value → Option α) :
    Option α :=
  (fields.find? name).bind decode

/-- A field that has a value of its own when it is not given. -/
def defaulted? {α : Type} (fields : Fields) (name : String) (default : α)
    (decode : Value → Option α) : Option α :=
  match fields.find? name with
  | some v => decode v
  | none => some default

/-- A field that may be `null`, and may be left out of an object but not of an array. -/
def nullable? {α : Type} (fields : Fields) (name : String) (decode : Value → Option α) :
    Option (Option α) :=
  match fields.find? name, fields with
  | some v, _ => v.nullable? decode
  | none, .named _ => some none
  | none, .placed _ => none

end Fields

/-! ## Variants -/

/-- Where a value with variants stands, which decides how it may be written. -/
inductive Place where
  /-- Directly in a text, inside so many arrays and objects. -/
  | direct (enclosing : Nat)
  /-- Inside another value with variants. -/
  | kept

/-- How deep the arrays and objects of a text may be nested around and in a value that is kept. -/
def depthLimit : Nat := 127

/-- Whether a value at a place can be kept until its variant is known. -/
def Place.keeps (v : Value) : Place → Bool
  | .direct enclosing => v.isSound && enclosing + v.depth ≤ depthLimit
  | .kept => true

/-- The variant that a tag stands for: one of the names, or inside a kept value also the position
of one. -/
def Place.variant? (names : List String) : Place → Value → Option String
  | .kept, .number (.integer n) => if n < 0 then none else names[n.toNat]?
  | _, v => v.text?.bind fun name => if names.contains name then some name else none

/-- The members of an object that do not give its variant. -/
def withoutType (members : List (Literal × Value)) : List (Literal × Value) :=
  members.filter fun member => member.1 ≠ some "type"

/-- The variant of a value, and an object or array of the rest of it. -/
def variantOf? (names : List String) (place : Place) (v : Value) : Option (String × Value) :=
  if place.keeps v then
    match v with
    | .object members =>
      match members.filter fun member => member.1 = some "type" with
      | [(_, tag)] => (place.variant? names tag).map (·, .object (withoutType members))
      | _ => none
    | .array (tag :: rest) => (place.variant? names tag).map (·, .array rest)
    | _ => none
  else none

/-- Whether the rest of a value suits a variant without fields: nothing may follow the tag in an
array, anything may stand beside it in an object. -/
def isBare : Value → Bool
  | .object _ => true
  | .array [] => true
  | _ => false

/-- The object of a variant with the given fields. -/
def Value.ofVariant (name : String) (fields : List (String × Value)) : Value :=
  .ofMembers (("type", .ofText name) :: fields)

end WalletLedger.Json
