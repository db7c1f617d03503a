import WalletLedger.Manager.Basic

/-!
# The life of a connection

Connecting, synchronizing, disconnecting and deleting are each allowed in some
states of the connection and lead to one state. A deleted manager stays deleted.
The height of the chain only ever rises, in whatever state.
-/

namespace WalletLedger.Manager

variable {σ : Type}

/-- Changes the state of the connection, if the present one allows it. -/
def transition (manager : Manager σ) (action : ManagerAction) (allowed : Connection → Bool)
    (next : Connection) : Step σ Unit :=
  if allowed manager.connection then
    ⟨.ok (), { manager with connection := next },
      [.log .info "wallet manager state changed"
        [manager.networkField, ("from", .ofText manager.connection.description),
         ("to", .ofText next.description)],
       .event (.stateChanged manager.connection next)]⟩
  else manager.refuse (.invalidTransition manager.connection.stage action)

/-- Connects a manager that is new or disconnected. -/
def connect (manager : Manager σ) : Step σ Unit :=
  manager.transition .connect Connection.canConnect .connected

/-- Disconnects a manager for a reason. -/
def disconnect (manager : Manager σ) (reason : DisconnectReason) : Step σ Unit :=
  manager.transition .disconnect Connection.canDisconnect (.disconnected reason)

/-- Begins a synchronization; only a connected manager can synchronize. -/
def sync (manager : Manager σ) : Step σ Unit :=
  manager.transition .sync (· = .connected) .syncing

/-- Deletes a manager for good. -/
def delete (manager : Manager σ) : Step σ Unit :=
  manager.transition .delete (· ≠ .deleted) .deleted

/-- Takes note of the height of the chain. A height that is not above the present one is passed
over. -/
def setHeight (manager : Manager σ) (height : UInt64) : Step σ Unit :=
  if height ≤ manager.height then ⟨.ok (), manager, []⟩
  else
    ⟨.ok (), { manager with height },
      [.log .debug "block height updated"
        [manager.networkField, ("height", .ofNat height.toNat)],
       .event (.heightUpdated height)]⟩

/-- Ends a synchronization at a height of the chain. -/
def completeSync (manager : Manager σ) (height : UInt64) : Step σ Unit :=
  (manager.transition .completeSync (· = .syncing) .connected).andThen (·.setHeight height)

end WalletLedger.Manager
