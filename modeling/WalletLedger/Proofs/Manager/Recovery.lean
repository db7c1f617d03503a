import WalletLedger.Manager.Recovery
import WalletLedger.Proofs.Ledger.Absorb
import WalletLedger.Proofs.Store.Memory

/-!
# Recovering transfers with a store in memory

Recovering a transfer has four outcomes, each stated once here: the manager is
deleted, the transfer is known, it is new and the wallet's, or it is new and
none of the wallet's business. What a step comes to leaves its log entries out.

`recover_manager` puts the outcomes together: the store takes the bundle in as
`Ledger.absorb` says, unless the manager is deleted.
-/

namespace WalletLedger

/-! ## Searching the store -/

namespace MemoryStore

/-- The store finds the record that a bundle belongs to, under its index. -/
theorem find_of_located {store : MemoryStore} {bundle : TransferBundle} {index : Nat}
    {record : TransferRecord} (located : Ledger.Located bundle store.records index record) :
    TransferStore.find store bundle.hash bundle.uids bundle.target =
      .ok (some (⟨index⟩, record)) := by
  refine congrArg Except.ok (first?_eq_some_iff.2 ⟨located.found, located.isOf, ?_⟩)
  intro earlier other before found
  exact located.passed earlier.index before other found

/-- The store finds no record for a bundle of an unknown transfer. -/
theorem find_of_unknown {store : MemoryStore} {bundle : TransferBundle}
    (unknown : Ledger.Unknown bundle store.records) :
    TransferStore.find store bundle.hash bundle.uids bundle.target = .ok none := by
  refine congrArg Except.ok (first?_eq_none_iff.2 ?_)
  intro id record found
  exact unknown record (List.mem_of_getElem? found)

end MemoryStore

/-! ## Outcomes -/

/-- What a step comes to: its answer, the manager it leaves behind, and the events it announces. -/
structure Step.Shows {σ α : Type} (step : Step σ α) (result : Except ManagerError α)
    (manager : Manager σ) (events : List Event) : Prop where
  result_eq : step.result = result
  manager_eq : step.manager = manager
  events_eq : Notice.events step.notices = events

namespace Manager

variable {manager : Manager MemoryStore} {bundle : TransferBundle}

@[simp] theorem events_unplacedNotices (bundle : TransferBundle) (id : TransferId)
    (hash : Option String) : Notice.events (unplacedNotices bundle id hash) = [] := by
  unfold unplacedNotices
  split <;> rfl

theorem events_append (first second : List Notice) :
    Notice.events (first ++ second) = Notice.events first ++ Notice.events second :=
  List.filterMap_append

/-- The manager with its records in another state. -/
def withRecords (manager : Manager MemoryStore) (records : List TransferRecord) :
    Manager MemoryStore :=
  { manager with store := ⟨records⟩ }

/-- A deleted manager takes no bundle. -/
theorem recover_deleted (deleted : manager.connection = .deleted) :
    (manager.recover bundle).Shows (.error (.invalidTransition .deleted .reconcile))
      manager [] := by
  rw [recover, if_pos deleted]
  exact ⟨rfl, rfl, rfl⟩

/-- A known transfer: the bundle is merged, which is announced if the state changes. -/
theorem recover_located (live : manager.connection ≠ .deleted) {index : Nat}
    {record : TransferRecord}
    (located : Ledger.Located bundle manager.store.records index record) :
    (manager.recover bundle).Shows
      (.ok (if record.merge bundle manager.network = record then .unchanged ⟨index⟩
        else .updated ⟨index⟩))
      (manager.withRecords (manager.store.records.set index (record.merge bundle manager.network)))
      (if (record.merge bundle manager.network).state = record.state then []
        else [.transferChanged ⟨index⟩ record.state
          (record.merge bundle manager.network).state]) := by
  rw [recover, if_neg live, MemoryStore.find_of_located located]
  unfold mergeTransfer
  by_cases same : record.merge bundle manager.network = record
  · obtain ⟨within, atIndex⟩ := List.getElem?_eq_some_iff.1 located.found
    have unchanged : manager.store.records.set index record = manager.store.records := by
      rw [← atIndex, List.set_getElem_self]
    simp only [same, if_true, withRecords, unchanged]
    exact ⟨rfl, rfl, rfl⟩
  · have update : TransferStore.update manager.store ⟨index⟩ (record.merge bundle manager.network) =
        .ok ⟨manager.store.records.set index (record.merge bundle manager.network)⟩ := by
      obtain ⟨within, -⟩ := List.getElem?_eq_some_iff.1 located.found
      rw [MemoryStore.update_eq_elim, MemoryStore.update?, if_pos within, Option.elim_some]
    simp only [same, if_false, update]
    refine ⟨rfl, rfl, ?_⟩
    rw [events_append, events_unplacedNotices, List.nil_append]
    split <;> rfl

/-- A new transfer of the wallet: its record is added and announced. -/
theorem recover_added (live : manager.connection ≠ .deleted)
    (unknown : Ledger.Unknown bundle manager.store.records) {direction : TransferDirection}
    (found : TransferDirection.find manager.owned bundle.source bundle.target = some direction) :
    (manager.recover bundle).Shows (.ok (.added ⟨manager.store.records.length⟩))
      (manager.withRecords (manager.store.records ++
        [TransferRecord.ofBundle bundle manager.network direction]))
      [.transferAdded ⟨manager.store.records.length⟩
        (TransferRecord.ofBundle bundle manager.network direction)] := by
  rw [recover, if_neg live, MemoryStore.find_of_unknown unknown]
  simp only [found]
  refine ⟨rfl, rfl, ?_⟩
  change Notice.events (unplacedNotices _ _ _ ++ _) = _
  rw [events_append, events_unplacedNotices]
  rfl

/-- A new transfer that is none of the wallet's business is refused. -/
theorem recover_unrelated (live : manager.connection ≠ .deleted)
    (unknown : Ledger.Unknown bundle manager.store.records)
    (foreign : TransferDirection.find manager.owned bundle.source bundle.target = none) :
    (manager.recover bundle).Shows (.error (.unrelatedTransfer bundle.source bundle.target))
      manager [] := by
  rw [recover, if_neg live, MemoryStore.find_of_unknown unknown]
  simp only [foreign]
  exact ⟨rfl, rfl, rfl⟩

/-! ## The manager afterwards -/

@[simp] theorem withRecords_self (manager : Manager MemoryStore) :
    manager.withRecords manager.store.records = manager := rfl

/-- A bundle changes nothing but the records, and those as `Ledger.absorb` says. -/
theorem recover_manager (live : manager.connection ≠ .deleted) :
    (manager.recover bundle).manager =
      manager.withRecords
        (Ledger.absorb manager.network manager.owned manager.store.records bundle) := by
  rcases Ledger.located_or_unknown bundle manager.store.records with
    ⟨index, record, located⟩ | unknown
  · rw [(recover_located live located).manager_eq, Ledger.absorb_of_located located]
  · rw [Ledger.absorb_of_unknown unknown, Ledger.newcomer?]
    cases found : TransferDirection.find manager.owned bundle.source bundle.target with
    | some direction =>
      rw [(recover_added live unknown found).manager_eq]
      rfl
    | none =>
      rw [(recover_unrelated live unknown found).manager_eq]
      simp

/-- A manager that accepts a bundle is not deleted. -/
theorem live_of_recover_ok {outcome : Reconciled}
    (accepted : (manager.recover bundle).result = .ok outcome) : manager.connection ≠ .deleted := by
  intro deleted
  rw [(recover_deleted deleted).result_eq] at accepted
  cases accepted

end Manager

end WalletLedger
