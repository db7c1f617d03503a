import WalletLedger.Proofs.Manager.Redelivery

/-!
# What one bundle does

A bundle that is brought to a manager goes to the first record of its transfer,
or makes a record, or is refused. Each of these is stated with all that it leaves
alone: a merge touches one record (`MergesAt`), an addition no record that was
there (`Adds`), a refusal nothing at all. A change of the state of a transfer and
a new record are announced, and nothing else is.

Whatever the bundle did, the record it came to is one of its transfer. Main
statement: `recover_effects`.
-/

namespace WalletLedger

/-! ## Effects of a step -/

namespace Step

/-- The step merges a bundle into the record at an index, and changes nothing else. -/
structure MergesAt (step : Step MemoryStore Reconciled) (manager : Manager MemoryStore)
    (bundle : TransferBundle) (index : Nat) (before after : TransferRecord) : Prop where
  merged : after = before.merge bundle manager.network
  /-- The bundle says nothing new just if the record is equal before and after. -/
  outcome : step.result = .ok (if after = before then .unchanged ⟨index⟩ else .updated ⟨index⟩)
  stored : step.manager.store.get? ⟨index⟩ = some after
  others : ∀ id, id ≠ ⟨index⟩ → step.manager.store.get? id = manager.store.get? id
  onlyStore : step.manager = { manager with store := step.manager.store }
  events : Notice.events step.notices =
    if after.state = before.state then []
    else [.transferChanged ⟨index⟩ before.state after.state]

/-- The step adds the record that a bundle makes behind all others, and changes nothing else. -/
structure Adds (step : Step MemoryStore Reconciled) (manager : Manager MemoryStore)
    (bundle : TransferBundle) (record : TransferRecord) : Prop where
  made : Ledger.newcomer? manager.network manager.owned bundle = some record
  outcome : step.result = .ok (.added ⟨manager.store.records.length⟩)
  stored : step.manager.store = manager.store.insert record
  onlyStore : step.manager = { manager with store := step.manager.store }
  events : Notice.events step.notices =
    [.transferAdded ⟨manager.store.records.length⟩ record]

end Step

namespace Manager

variable {manager : Manager MemoryStore} {bundle : TransferBundle}

theorem recover_mergesAt (live : manager.connection ≠ .deleted) {index : Nat}
    {record : TransferRecord}
    (located : Ledger.Located bundle manager.store.records index record) :
    (manager.recover bundle).MergesAt manager bundle index record
      (record.merge bundle manager.network) := by
  obtain ⟨result, next, events⟩ := recover_located live located
  obtain ⟨within, -⟩ := List.getElem?_eq_some_iff.1 located.found
  refine ⟨rfl, result, ?_, fun id other => ?_, ?_, events⟩
  · rw [next]
    exact List.getElem?_set_self within
  · rw [next]
    have apart : index ≠ id.index := fun same => other (congrArg TransferId.mk same.symm)
    exact List.getElem?_set_ne apart
  · rw [next]
    rfl

theorem recover_adds (live : manager.connection ≠ .deleted)
    (unknown : Ledger.Unknown bundle manager.store.records) {record : TransferRecord}
    (made : Ledger.newcomer? manager.network manager.owned bundle = some record) :
    (manager.recover bundle).Adds manager bundle record := by
  obtain ⟨direction, found, rfl⟩ := Ledger.newcomer?_eq_some made
  obtain ⟨result, next, events⟩ := recover_added live unknown found
  refine ⟨made, result, ?_, ?_, events⟩
  · rw [next]
    rfl
  · rw [next]
    rfl

/-- What a bundle does to a manager that is not deleted. If the transfer is known, its first record
merges the bundle; if it is not, the bundle makes a record, or is refused if neither end of it is the
wallet's. A bundle that is accepted is of the transfer of the record that it came to. -/
theorem recover_effects (manager : Manager MemoryStore) (bundle : TransferBundle)
    (built : bundle.IsBuilt) (live : manager.connection ≠ .deleted) :
    let step := manager.recover bundle
    let owned := manager.owned.contains
    (∀ index before, Ledger.Located bundle manager.store.records index before →
        ∃ after, step.MergesAt manager bundle index before after) ∧
      (Ledger.Unknown bundle manager.store.records →
        (owned bundle.source = false ∧ owned bundle.target = false →
            step.Shows (.error (.unrelatedTransfer bundle.source bundle.target)) manager []) ∧
          ((owned bundle.source || owned bundle.target) = true →
            ∃ record, step.Adds manager bundle record)) ∧
      ∀ outcome, step.result = .ok outcome →
        ∃ record, step.manager.store.get? outcome.id = some record ∧ record.isOf bundle = true := by
  intro step owned
  refine ⟨fun index before located => ⟨_, recover_mergesAt live located⟩, ?_, ?_⟩
  · intro unknown
    constructor
    · intro foreign
      exact recover_unrelated live unknown (TransferDirection.find_eq_none_iff.2 foreign)
    · intro involved
      have makes : (Ledger.newcomer? manager.network manager.owned bundle).isSome = true :=
        Ledger.newcomer?_isSome.trans involved
      obtain ⟨record, made⟩ := Option.isSome_iff_exists.1 makes
      exact ⟨record, recover_adds live unknown made⟩
  · intro outcome accepted
    obtain ⟨-, record, located, -⟩ := reflects_of_recover_ok built accepted
    exact ⟨record, located.found, located.isOf⟩

/-- A payment known by its correlation id is found in a block under its hash, under which the wallet
has paid somebody else as well: the first record merges the bundle, and the second one stays. -/
theorem recover_effects_confirmed :
    let submitted := TransferBundle.ofOneUnit none (some "u") "them" "me" "eth"
    let confirmed := {
      TransferBundle.ofOneUnit (some "h") (some "u") "them" "me" "eth" with
      status := .included
      blockHeight := some 7 }
    let manager := (fresh { network := .eth, addresses := ["me"] }).delivered
      [submitted, .ofOneUnit (some "h") none "me" "shop" "eth"]
    let before := TransferRecord.ofBundle submitted .eth .received
    let step := manager.recover confirmed
    confirmed.IsBuilt ∧ manager.connection ≠ .deleted ∧
      Ledger.Located confirmed manager.store.records 0 before ∧
      (∃ after, step.MergesAt manager confirmed 0 before after ∧ after.hash = some "h") ∧
      step.result = .ok (.updated ⟨0⟩) ∧
      ∃ record, step.manager.store.get? ⟨0⟩ = some record ∧ record.isOf confirmed = true := by
  intro submitted confirmed manager before step
  have built : confirmed.IsBuilt :=
    ⟨.included, [.text .hash "h", .text .uids "u", .text .source "them", .text .target "me",
      .text .amount "1", .text .currency "eth", .number .blockHeight 7], by decide⟩
  have live : manager.connection ≠ .deleted := by decide
  have located : Ledger.Located confirmed manager.store.records 0 before := by
    have first : manager.store.records = before :: manager.store.records.tail := by decide
    rw [first]
    exact .head (by decide) _
  have accepted : step.result = .ok (.updated ⟨0⟩) := by decide
  obtain ⟨merges, -, recognized⟩ := recover_effects manager confirmed built live
  obtain ⟨after, merged⟩ := merges 0 before located
  have hashed : after.hash = some "h" := by
    rw [merged.merged]
    rfl
  exact ⟨built, live, located, ⟨after, merged, hashed⟩, accepted, recognized _ accepted⟩

end Manager

end WalletLedger
