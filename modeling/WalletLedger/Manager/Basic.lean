import WalletLedger.Config.Basic
import WalletLedger.Manager.Error
import WalletLedger.Manager.Event

/-!
# Wallet managers

A manager follows one network for one wallet: the state of its connection, the
height of the chain, and the records of the wallet's transfers in a store. An
operation makes a step: it answers or is refused, leaves a manager behind, and
gives notices.
-/

namespace WalletLedger

/-- The manager of a wallet on one network. -/
structure Manager (σ : Type) where
  network : Network
  /-- The addresses of the wallet. -/
  owned : AddressSet
  /-- After how many confirmations a transfer is final. -/
  requiredConfirmations : UInt32
  store : σ
  connection : Connection
  /-- The height of the chain; it never decreases. -/
  height : UInt64
  /-- Whether somebody receives the events. -/
  listening : Bool

/-- What an operation comes to. -/
structure Step (σ α : Type) where
  /-- The answer, or why the operation is refused. -/
  result : Except ManagerError α
  /-- The manager afterwards. -/
  manager : Manager σ
  notices : List Notice

namespace Step

variable {σ α β : Type}

/-- The events that are received. -/
def events (step : Step σ α) : List Event :=
  if step.manager.listening then Notice.events step.notices else []

/-- The log entries that are made. -/
def entries (step : Step σ α) : List Log.Entry :=
  Notice.entries step.manager.network step.manager.listening step.notices

/-- Goes on with another operation, unless this one is refused. -/
def andThen (step : Step σ α) (next : Manager σ → Step σ β) : Step σ β :=
  match step.result with
  | .error error => { step with result := .error error }
  | .ok _ =>
    let following := next step.manager
    { following with notices := step.notices ++ following.notices }

end Step

namespace Manager

variable {σ α : Type}

/-- The step of an operation that is refused: nothing changes. -/
def refuse (manager : Manager σ) (error : ManagerError) : Step σ α :=
  ⟨.error error, manager, []⟩

/-- The network of a manager in log entries. -/
def networkField (manager : Manager σ) : String × Json.Value :=
  ("network", .ofText (Tag.label manager.network))

/-- Sets a manager up over a store. -/
def create (config : Config) (store : σ) : Step σ Unit :=
  let manager : Manager σ := {
    network := config.network
    owned := .ofList config.addresses
    requiredConfirmations := config.requiredConfirmations
    store
    connection := .created
    height := 0
    listening := true }
  ⟨.ok (), manager,
    [.log .info "wallet manager created"
      [manager.networkField, ("addresses", .ofNat manager.owned.size)],
     .event (.created manager.network)]⟩

/-- The manager when nobody receives its events any more. -/
def dropReceiver (manager : Manager σ) : Manager σ :=
  { manager with listening := false }

/-- The confirmations of a record at the height of the chain. -/
def confirmations (manager : Manager σ) (record : TransferRecord) : Option Nat :=
  record.state.confirmations manager.height

/-- Whether the transfer of a record is final at the height of the chain. -/
def isFinal (manager : Manager σ) (record : TransferRecord) : Bool :=
  record.state.isFinal manager.height manager.requiredConfirmations

/-- The records of all transfers, by ascending identifier. -/
def transfers [TransferStore σ] (manager : Manager σ) :
    Except ManagerError (List TransferRecord) :=
  match TransferStore.entries manager.store with
  | .ok entries => .ok (entries.map (·.2))
  | .error error => .error (.store error)

end Manager

end WalletLedger
