import WalletLedger.InputError
import WalletLedger.Json.Decode
import WalletLedger.Text.Blank
import WalletLedger.Text.Letters

/-!
# Tags

A tag is a member of a small closed set that other programs know by number and
people know by name. Numbers never change their meaning. A name is recognized
with blanks around it and in any case, a number only exactly.
-/

namespace WalletLedger

/-- A closed set of tags. -/
class Tag (τ : Type) where
  /-- What a tag of the set says, for messages. -/
  kind : String
  /-- All tags of the set, in their order. -/
  all : List τ
  /-- The number of a tag. -/
  code : τ → UInt32
  /-- The name of a tag, in lower case. -/
  name : τ → String
  /-- How a tag is shown to people. -/
  label : τ → String := name
  /-- Further names by which people know a tag. -/
  aliases : List (String × τ) := []

namespace Tag

variable {τ : Type} [Tag τ]

/-- The tag with a number. -/
def ofCode (value : UInt32) : Except InputError τ :=
  match (all : List τ).find? fun tag => code tag = value with
  | some tag => .ok tag
  | none => .error (.unrecognizedTag (kind τ) value)

/-- The tag that a name without blanks around it stands for. -/
def named? (name' : String) : Option τ :=
  match (aliases : List (String × τ)).find? fun entry => Text.sameLetters entry.1 name' with
  | some entry => some entry.2
  | none => (all : List τ).find? fun tag => Text.sameLetters (name tag) name'

/-- The tag that a name stands for. -/
def ofName (text : String) : Except InputError τ :=
  match named? (Text.trim text) with
  | some tag => .ok tag
  | none => .error (.unrecognizedName (kind τ) (Text.trim text))

/-- A tag as a JSON string. -/
def toJson (tag : τ) : Json.Value :=
  .ofText (name tag)

/-- The tag of exactly this name. -/
def exactly? (text : String) : Option τ :=
  (all : List τ).find? fun tag => name tag = text

/-- The tag that a JSON value names exactly. -/
def ofJson? (v : Json.Value) : Option τ :=
  v.bareName?.bind exactly?

end Tag

end WalletLedger
