import WalletLedger.Bundle.ClientRecord
import WalletLedger.Log.Logged
import WalletLedger.Manager.Balance
import WalletLedger.Manager.Lifecycle
import WalletLedger.Manager.Recovery
import WalletLedger.Store.Memory

/-!
# Reports

A list of client records is reconciled by a fresh manager that is connected, takes
the records one after another, and ends its synchronization at a given height or
at the highest block that any bundle mentions. The report says what the wallet
holds then. A record that is no bundle, or that is none of the wallet's business,
is counted and otherwise passed over.
-/

namespace WalletLedger

open Log (Logged)

/-- A record in a report. -/
structure ReportedTransfer where
  record : TransferRecord
  confirmations : Option Nat
  isFinal : Bool
deriving DecidableEq

/-- What a wallet holds after a reconciliation. -/
structure Report where
  network : Network
  height : UInt64
  /-- The native balance in base units. -/
  balance : Nat
  /-- How many records were passed over. -/
  rejected : Nat
  transfers : List ReportedTransfer
deriving DecidableEq

/-- A record in a report as JSON. -/
def ReportedTransfer.toJson (transfer : ReportedTransfer) : Json.Value :=
  .ofMembers (transfer.record.members ++
    [("confirmations", .ofOption .ofNat transfer.confirmations),
     ("is_final", .boolean transfer.isFinal)])

/-- A report as JSON. -/
def Report.toJson (report : Report) : Json.Value :=
  .ofMembers [
    ("network", Tag.toJson report.network),
    ("block_height", .ofNat report.height.toNat),
    ("balance", .ofText (String.ofList (Text.numeral report.balance))),
    ("rejected", .ofNat report.rejected),
    ("transfers", .array (report.transfers.map ReportedTransfer.toJson))]

namespace Report

/-! ## Taking records -/

/-- A manager between two records. -/
structure Tally where
  manager : Manager MemoryStore
  /-- How many records were passed over. -/
  rejected : Nat
  /-- The highest block that a bundle mentions. -/
  highest : UInt64

/-- The manager after a step that must not be refused. -/
def after {α : Type} (step : Step MemoryStore α) :
    Logged ManagerError (Manager MemoryStore) :=
  ⟨step.result.map fun _ => step.manager, step.entries⟩

/-- The log entry for a record that is no bundle. -/
def rejection (index : Nat) (error : InputError) : Log.Entry where
  level := .warn
  target := "walletkit"
  message := "rejected transfer record"
  fields := [("index", .ofNat index), ("error", .ofText error.message)]

/-- Takes a bundle. -/
def Tally.takeBundle (tally : Tally) (bundle : TransferBundle) : Logged ManagerError Tally :=
  let step := tally.manager.recover bundle
  let next := { tally with
    manager := step.manager
    highest := max tally.highest (bundle.blockHeight.getD 0) }
  match step.result with
  | .ok _ => ⟨.ok next, step.entries⟩
  | .error (.unrelatedTransfer ..) =>
    ⟨.ok { next with rejected := tally.rejected + 1 }, step.entries⟩
  | .error error => ⟨.error error, step.entries⟩

/-- Takes a record that stands at an index of the list. -/
def Tally.take (tally : Tally) (entry : ClientRecord × Nat) : Logged ManagerError Tally :=
  match entry.1.toBundle with
  | .ok bundle => tally.takeBundle bundle
  | .error error =>
    ⟨.ok { tally with rejected := tally.rejected + 1 }, [rejection entry.2 error]⟩

/-! ## Reporting -/

/-- What a manager has to report after records were passed over. -/
def ofManager (manager : Manager MemoryStore) (rejected : Nat) : Except ManagerError Report := do
  let records ← manager.transfers
  let balance ← manager.balance
  return {
    network := manager.network
    height := manager.height
    balance
    rejected
    transfers := records.map fun record =>
      ⟨record, manager.confirmations record, manager.isFinal record⟩ }

/-- The report on a list of records, at a height or else at the highest block. -/
def ofRecords (config : Config) (records : List ClientRecord) (height : Option UInt64) :
    Logged ManagerError Report := do
  let manager ← after (Manager.create config MemoryStore.empty)
  let manager ← after manager.connect
  let manager ← after manager.sync
  let tally ← records.zipIdx.foldlM Tally.take ⟨manager, 0, 0⟩
  let manager ← after (tally.manager.completeSync (height.getD tally.highest))
  let report ← Logged.ofResult (ofManager manager tally.rejected)
  let _ ← after (manager.disconnect .requested)
  return report

end Report

end WalletLedger
