import WalletLedger.Store.Basic

/-!
# Stores in memory

Records in the order of their insertion, each under its position. Main
statements: what an insertion and an update change, and that the short cut to
the size agrees with the list of entries.
-/

namespace WalletLedger

/-- A store that is a list of records. -/
structure MemoryStore where
  records : List TransferRecord
deriving DecidableEq

namespace MemoryStore

/-- The store without records. -/
def empty : MemoryStore := ⟨[]⟩

/-- The records with their identifiers. -/
def entries (store : MemoryStore) : List StoreEntry :=
  store.records.zipIdx.map fun (record, index) => (⟨index⟩, record)

/-- The record under an identifier. -/
def get? (store : MemoryStore) (id : TransferId) : Option TransferRecord :=
  store.records[id.index]?

/-- The first entry whose record passes a test. -/
def first? (store : MemoryStore) (test : TransferRecord → Bool) : Option StoreEntry :=
  store.entries.find? fun entry => test entry.2

/-- The store with a record behind all others. -/
def insert (store : MemoryStore) (record : TransferRecord) : MemoryStore :=
  ⟨store.records ++ [record]⟩

/-- The store with another record under an identifier, if that is one of its own. -/
def update? (store : MemoryStore) (id : TransferId) (record : TransferRecord) :
    Option MemoryStore :=
  if id.index < store.records.length then some ⟨store.records.set id.index record⟩ else none

instance : TransferStore MemoryStore where
  get store id := (store.get? id).elim (.error (.notFound id)) .ok
  byUids store uids := .ok (store.first? fun record => record.uids = some uids)
  find store hash uids target :=
    .ok (store.first? fun record => record.isIdentifiedBy hash uids target)
  insert store record := .ok (store.insert record, ⟨store.records.length⟩)
  update store id record := (store.update? id record).elim (.error (.notFound id)) .ok
  entries store := .ok store.entries
  size store := .ok store.records.length

/-! ## Laws -/

theorem length_entries (store : MemoryStore) : store.entries.length = store.records.length := by
  simp [entries]

theorem get?_insert (store : MemoryStore) (record : TransferRecord) (id : TransferId) :
    (store.insert record).get? id =
      if id.index = store.records.length then some record else store.get? id := by
  simp only [get?, insert, List.getElem?_append]
  split
  · next within =>
    rw [if_neg (Nat.ne_of_lt within)]
  · next beyond =>
    split
    · next same => simp [same]
    · next different =>
      have past : store.records.length < id.index :=
        Nat.lt_of_le_of_ne (Nat.not_lt.1 beyond) (Ne.symm different)
      rw [List.getElem?_eq_none (Nat.le_of_lt past), List.getElem?_eq_none]
      exact Nat.sub_pos_of_lt past

theorem get?_update {store next : MemoryStore} {id : TransferId} {record : TransferRecord}
    (updated : store.update? id record = some next) (other : TransferId) :
    next.get? other = if other = id then some record else store.get? other := by
  unfold update? at updated
  split at updated
  · next within =>
    cases updated
    simp only [get?, List.getElem?_set]
    by_cases same : other = id
    · simp [same, within]
    · have apart : ¬id.index = other.index := fun equal =>
        same (by cases other; cases id; cases equal; rfl)
      rw [if_neg apart, if_neg same]
  · cases updated

end MemoryStore

end WalletLedger
