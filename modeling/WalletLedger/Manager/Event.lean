import WalletLedger.Connection
import WalletLedger.Log.Entry
import WalletLedger.Store.Basic

/-!
# What a manager announces

Every change is announced as an event, and commented on in the log. Both come
out of an operation as one list of notices in the order in which they arise. An
event that nobody listens for any more turns into a log entry.
-/

namespace WalletLedger

/-- A change that a wallet manager announces. -/
inductive Event where
  | created (network : Network)
  | stateChanged (old new : Connection)
  | heightUpdated (height : UInt64)
  | transferAdded (id : TransferId) (record : TransferRecord)
  | transferChanged (id : TransferId) (old new : TransferState)
deriving DecidableEq

/-- An event as JSON. -/
def Event.toJson : Event → Json.Value
  | created network => .ofMembers [("event", .ofText "created"), ("network", Tag.toJson network)]
  | stateChanged old new =>
    .ofMembers [("event", .ofText "state_changed"), ("old", old.toJson), ("new", new.toJson)]
  | heightUpdated height =>
    .ofMembers [("event", .ofText "block_height_updated"), ("height", .ofNat height.toNat)]
  | transferAdded id record =>
    .ofMembers [("event", .ofText "transfer_added"), ("id", id.toJson), ("record", record.toJson)]
  | transferChanged id old new =>
    .ofMembers [("event", .ofText "transfer_changed"), ("id", id.toJson), ("old", old.toJson),
      ("new", new.toJson)]

/-- An event or a log entry. -/
inductive Notice where
  | event (announced : Event)
  | entry (logged : Log.Entry)

namespace Notice

/-- The event of a notice. -/
def event? : Notice → Option Event
  | .event announced => some announced
  | .entry _ => none

/-- The target of the log entries of wallet managers. -/
def target : String := "walletkit_wallet_core::manager"

/-- A notice for the log. -/
def log (level : Log.Level) (message : String) (fields : List (String × Json.Value)) : Notice :=
  .entry { level, target, message, fields }

/-- The log entry for an event of a network that nobody receives. -/
def dropped (network : Network) : Log.Entry where
  level := .warn
  target := target
  message := "wallet manager event dropped: receiver closed"
  fields := [("network", .ofText (Tag.label network))]

/-- The events of a list of notices. -/
def events (notices : List Notice) : List Event :=
  notices.filterMap event?

/-- The log entries of a list of notices, given whether somebody listens for events. -/
def entries (network : Network) (listening : Bool) (notices : List Notice) : List Log.Entry :=
  notices.filterMap fun
    | .entry logged => some logged
    | .event _ => if listening then none else some (dropped network)

end Notice

end WalletLedger
