import WalletLedger.Connection
import WalletLedger.Store.Basic

/-!
# What can go wrong in a manager

An operation of a manager is refused because of the stage of its connection,
because a transfer is none of the wallet's business, because an amount does not
divide into base units, or because its store fails.
-/

namespace WalletLedger

/-- What is asked of a manager that only some stages of its connection allow. -/
inductive ManagerAction where
  | connect | disconnect | sync | completeSync | delete | reconcile
deriving DecidableEq, Repr

/-- An action as a part of a sentence. -/
def ManagerAction.phrase : ManagerAction → String
  | connect => "connect"
  | disconnect => "disconnect"
  | sync => "sync"
  | completeSync => "complete a sync of"
  | delete => "delete"
  | reconcile => "reconcile transfers for"

/-- Why an operation of a manager is refused. -/
inductive ManagerError where
  | store (error : StoreError)
  | invalidTransition (stage : ConnectionStage) (action : ManagerAction)
  | unrelatedTransfer (source target : String)
  | inexpressibleAmount (amount : DecimalAmount) (currency : String)
deriving DecidableEq, Repr

/-- The text that a user sees. -/
def ManagerError.message : ManagerError → String
  | store error => error.message
  | invalidTransition stage action =>
    "cannot " ++ action.phrase ++ " a wallet manager that is " ++ Tag.label stage
  | unrelatedTransfer source target =>
    "transfer " ++ source ++ " -> " ++ target ++ " involves none of the wallet's addresses"
  | inexpressibleAmount amount currency =>
    "amount " ++ amount.text ++ " " ++ currency ++ " cannot be expressed in base units"

end WalletLedger
