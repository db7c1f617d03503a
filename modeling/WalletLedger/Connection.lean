import WalletLedger.DisconnectReason

/-!
# The connection of a wallet manager

A manager is created, connects to its network, synchronizes from time to time,
may be disconnected and connected again, and is deleted in the end. While it is
disconnected it remembers why.
-/

namespace WalletLedger

/-- The stage that a connection is in. -/
inductive ConnectionStage where
  | created | disconnected | connected | syncing | deleted
deriving DecidableEq, Repr, Inhabited

namespace ConnectionStage

/-- The name of a stage. -/
def stageName : ConnectionStage → String
  | created => "created"
  | disconnected => "disconnected"
  | connected => "connected"
  | syncing => "syncing"
  | deleted => "deleted"

/-- The number of a stage. -/
def number : ConnectionStage → UInt32
  | created => 0
  | disconnected => 1
  | connected => 2
  | syncing => 3
  | deleted => 4

instance : Tag ConnectionStage where
  kind := "wallet manager state"
  all := [created, disconnected, connected, syncing, deleted]
  code := number
  name := stageName

end ConnectionStage

/-- The state of a connection. -/
inductive Connection where
  | created
  | disconnected (reason : DisconnectReason)
  | connected
  | syncing
  | deleted
deriving DecidableEq, Repr, Inhabited

namespace Connection

/-- The stage of a connection. -/
def stage : Connection → ConnectionStage
  | created => .created
  | disconnected _ => .disconnected
  | connected => .connected
  | syncing => .syncing
  | deleted => .deleted

/-- Whether a manager in this state may connect. -/
def canConnect : Connection → Bool
  | created | disconnected _ => true
  | _ => false

/-- Whether a manager in this state may be disconnected. -/
def canDisconnect : Connection → Bool
  | created | connected | syncing => true
  | _ => false

/-- A state as people read it. -/
def description : Connection → String
  | disconnected reason => "disconnected (" ++ reason.description ++ ")"
  | state => state.stage.stageName

/-- The names of the variants, in their order. -/
def variants : List String := ["created", "disconnected", "connected", "syncing", "deleted"]

/-- A state as JSON. -/
def toJson : Connection → Json.Value
  | disconnected reason => .ofVariant "disconnected" [("reason", reason.toJson)]
  | state => .ofVariant state.stage.stageName []

/-- The state that a JSON value at a place stands for. -/
def ofJson? (place : Json.Place) (v : Json.Value) : Option Connection := do
  let (variant, rest) ← Json.variantOf? variants place v
  match variant with
  | "created" => if Json.isBare rest then some created else none
  | "disconnected" => do
    let fields ← Json.Fields.of? ["reason"] rest
    disconnected <$> fields.required? "reason" (DisconnectReason.ofJson? .kept)
  | "connected" => if Json.isBare rest then some connected else none
  | "syncing" => if Json.isBare rest then some syncing else none
  | "deleted" => if Json.isBare rest then some deleted else none
  | _ => none

end Connection

end WalletLedger
