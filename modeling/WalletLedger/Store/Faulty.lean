import WalletLedger.Store.Basic

/-!
# Stores that fail

A store in front of another one, of which chosen calls always fail. The other
calls reach the store behind it. The size is taken from the list of entries, and
so fails with it.
-/

namespace WalletLedger

/-- A kind of call of a store. -/
inductive StoreCall where
  | get | byUids | find | insert | update | entries
deriving DecidableEq, Repr

/-- A store with the failures that stand in front of it. -/
structure FaultyStore (σ : Type) where
  store : σ
  failure : StoreCall → Option StoreError

namespace FaultyStore

variable {σ α : Type} [TransferStore σ]

/-- What a call answers: its failure, or else what the store behind answers. -/
def guarded (faulty : FaultyStore σ) (call : StoreCall) (answer : Except StoreError α) :
    Except StoreError α :=
  match faulty.failure call with
  | some error => .error error
  | none => answer

instance : TransferStore (FaultyStore σ) where
  get faulty id := faulty.guarded .get (TransferStore.get faulty.store id)
  byUids faulty uids := faulty.guarded .byUids (TransferStore.byUids faulty.store uids)
  find faulty hash uids target :=
    faulty.guarded .find (TransferStore.find faulty.store hash uids target)
  insert faulty record := faulty.guarded .insert do
    let (store, id) ← TransferStore.insert faulty.store record
    return ({ faulty with store }, id)
  update faulty id record := faulty.guarded .update do
    let store ← TransferStore.update faulty.store id record
    return { faulty with store }
  entries faulty := faulty.guarded .entries (TransferStore.entries faulty.store)

end FaultyStore

end WalletLedger
