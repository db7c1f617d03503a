import WalletLedger.Manager.Basic

/-!
# Recovering transfers

A bundle is matched to a stored record by its target together with its hash or
its correlation id. It is merged into that record, or becomes a record of its
own if one of its ends belongs to the wallet. A bundle that says nothing new
leaves everything as it is.
-/

namespace WalletLedger

/-- What a bundle did to the store. -/
inductive Reconciled where
  | added (id : TransferId)
  | updated (id : TransferId)
  /-- The bundle repeated what the record already said. -/
  | unchanged (id : TransferId)
deriving DecidableEq, Repr

namespace Reconciled

/-- The identifier of the record that a bundle belongs to. -/
def id : Reconciled → TransferId
  | added id | updated id | unchanged id => id

/-- The name of an outcome. -/
def name : Reconciled → String
  | added _ => "added"
  | updated _ => "updated"
  | unchanged _ => "unchanged"

end Reconciled

namespace Manager

variable {σ : Type} [TransferStore σ]

/-- An identifier in log entries. -/
def idField (id : TransferId) : String × Json.Value :=
  ("id", id.toJson)

/-- A text that may be absent in log entries. -/
def optionField (name : String) (value : Option String) : String × Json.Value :=
  (name, .ofText (Text.quotedOption value))

/-- The warning about a bundle whose block is not known. -/
def unplacedNotices (bundle : TransferBundle) (id : TransferId) (hash : Option String) :
    List Notice :=
  if bundle.isUnplaced then
    [.log .warn "included transfer has no block height; treating as submitted"
      [idField id, optionField "hash" hash]]
  else []

/-- Merges a bundle into the record that it belongs to. -/
def mergeTransfer (manager : Manager σ) (id : TransferId) (record : TransferRecord)
    (bundle : TransferBundle) : Step σ Reconciled :=
  let merged := record.merge bundle manager.network
  if merged = record then
    ⟨.ok (.unchanged id), manager,
      [.log .debug "transfer unchanged" [idField id, optionField "hash" bundle.hash]]⟩
  else
    match TransferStore.update manager.store id merged with
    | .error error => manager.refuse (.store error)
    | .ok store =>
      ⟨.ok (.updated id), { manager with store },
        unplacedNotices bundle id bundle.hash ++
        .log .debug "transfer updated"
          [idField id, optionField "hash" merged.hash,
           ("state", .ofText (Tag.label merged.state.status))] ::
        if merged.state = record.state then []
        else [.event (.transferChanged id record.state merged.state)]⟩

/-- Makes a record of a bundle that belongs to none. -/
def addTransfer (manager : Manager σ) (bundle : TransferBundle) (direction : TransferDirection) :
    Step σ Reconciled :=
  let record := TransferRecord.ofBundle bundle manager.network direction
  match TransferStore.insert manager.store record with
  | .error error => manager.refuse (.store error)
  | .ok (store, id) =>
    ⟨.ok (.added id), { manager with store },
      unplacedNotices bundle id record.hash ++
      [.log .debug "transfer added"
        [idField id, optionField "hash" record.hash, optionField "uids" record.uids,
         ("direction", .ofText direction.title)],
       .event (.transferAdded id record)]⟩

/-- Refuses a bundle that involves none of the addresses of the wallet. -/
def refuseUnrelated (manager : Manager σ) (bundle : TransferBundle) : Step σ Reconciled :=
  { manager.refuse (.unrelatedTransfer bundle.source bundle.target) with
    notices := [.log .warn "transfer involves none of the wallet's addresses; rejected"
      [manager.networkField, optionField "hash" bundle.hash, ("from", .ofText bundle.source),
       ("to", .ofText bundle.target)]] }

/-- Reconciles a bundle with the records of the wallet. -/
def recover (manager : Manager σ) (bundle : TransferBundle) : Step σ Reconciled :=
  if manager.connection = .deleted then
    manager.refuse (.invalidTransition .deleted .reconcile)
  else
    match TransferStore.find manager.store bundle.hash bundle.uids bundle.target with
    | .error error => manager.refuse (.store error)
    | .ok (some (id, record)) => manager.mergeTransfer id record bundle
    | .ok none =>
      match TransferDirection.find manager.owned bundle.source bundle.target with
      | some direction => manager.addTransfer bundle direction
      | none => manager.refuseUnrelated bundle

end Manager

end WalletLedger
