import WalletLedger.Tag
import WalletLedger.Text.Numeral

/-!
# Why a connection ended

A connection ends because someone asked for it, because of an error that the
operating system numbers, or for a reason that nobody knows.
-/

namespace WalletLedger

/-- The kind of a reason. -/
inductive DisconnectKind where
  | requested | unknown | posix
deriving DecidableEq, Repr, Inhabited

namespace DisconnectKind

/-- The name of a kind of reason. -/
def kindName : DisconnectKind → String
  | requested => "requested"
  | unknown => "unknown"
  | posix => "posix"

/-- The number of a kind of reason. -/
def number : DisconnectKind → UInt32
  | requested => 0
  | unknown => 1
  | posix => 2

instance : Tag DisconnectKind where
  kind := "disconnect reason"
  all := [requested, unknown, posix]
  code := number
  name := kindName

end DisconnectKind

/-- A reason, with the number of the error where there is one. -/
inductive DisconnectReason where
  | requested
  | unknown
  | posix (errno : Int32)
deriving DecidableEq, Repr, Inhabited

namespace DisconnectReason

/-- The kind of a reason. -/
def kind : DisconnectReason → DisconnectKind
  | requested => .requested
  | unknown => .unknown
  | posix _ => .posix

/-- The number of the error that ended the connection, if there was one. -/
def errorNumber? : DisconnectReason → Option Int32
  | posix errno => some errno
  | _ => none

/-- A reason as people read it. -/
def description : DisconnectReason → String
  | posix errno => "posix error " ++ String.ofList (Text.signedNumeral errno.toInt)
  | reason => reason.kind.kindName

/-- The names of the variants, in their order. -/
def variants : List String := ["requested", "unknown", "posix"]

/-- A reason as JSON. -/
def toJson : DisconnectReason → Json.Value
  | requested => .ofVariant "requested" []
  | unknown => .ofVariant "unknown" []
  | posix errno => .ofVariant "posix" [("errno", .ofInt errno.toInt)]

/-- The reason that a JSON value at a place stands for. -/
def ofJson? (place : Json.Place) (v : Json.Value) : Option DisconnectReason := do
  let (variant, rest) ← Json.variantOf? variants place v
  match variant with
  | "requested" => if Json.isBare rest then some requested else none
  | "unknown" => if Json.isBare rest then some unknown else none
  | "posix" => do
    let fields ← Json.Fields.of? ["errno"] rest
    posix <$> fields.required? "errno" Json.Value.int32?
  | _ => none

end DisconnectReason

end WalletLedger
