import WalletLedger.Manager.Lifecycle
import WalletLedger.Manager.Recovery

/-!
# Operations and runs

Everything that changes a manager, as one type, and the runs of a manager as
lists of operations.
-/

namespace WalletLedger

/-- An operation that may change a manager. -/
inductive Operation where
  | connect
  | disconnect (reason : DisconnectReason)
  | sync
  | completeSync (height : UInt64)
  | setHeight (height : UInt64)
  | delete
  | recover (bundle : TransferBundle)
deriving DecidableEq

namespace Step

variable {σ α β : Type}

/-- A step with its answer changed by a function. -/
def mapResult (step : Step σ α) (f : α → β) : Step σ β :=
  ⟨step.result.map f, step.manager, step.notices⟩

end Step

namespace Manager

variable {σ : Type} [TransferStore σ]

/-- The step of an operation; only recovering a transfer has an answer. -/
def perform (manager : Manager σ) : Operation → Step σ (Option Reconciled)
  | .connect => manager.connect.mapResult fun _ => none
  | .disconnect reason => (manager.disconnect reason).mapResult fun _ => none
  | .sync => manager.sync.mapResult fun _ => none
  | .completeSync height => (manager.completeSync height).mapResult fun _ => none
  | .setHeight height => (manager.setHeight height).mapResult fun _ => none
  | .delete => manager.delete.mapResult fun _ => none
  | .recover bundle => (manager.recover bundle).mapResult some

/-- The steps of a run, each from the manager that the one before leaves behind. -/
def run (manager : Manager σ) : List Operation → List (Step σ (Option Reconciled))
  | [] => []
  | operation :: rest =>
    let step := manager.perform operation
    step :: step.manager.run rest

end Manager

end WalletLedger
