import WalletLedger.Transfer.Record

/-!
# Transfer stores

A store keeps the records of a wallet under identifiers that never change. What
a wallet manager needs of it is a class, so that backends decide how records are
kept. Any call may fail, and a call that fails leaves the store as it is.
-/

namespace WalletLedger

/-- The handle of a stored record. -/
structure TransferId where
  index : Nat
deriving DecidableEq, Repr

namespace TransferId

/-- An identifier as JSON. -/
def toJson (id : TransferId) : Json.Value :=
  .ofNat id.index

/-- The identifier that a JSON value stands for. -/
def ofJson? (v : Json.Value) : Option TransferId :=
  v.uint64?.map fun n => ⟨n.toNat⟩

end TransferId

/-- Why a store cannot do what it is asked for. -/
inductive StoreError where
  | notFound (id : TransferId)
  | poisoned
deriving DecidableEq, Repr

/-- The text that a user sees. -/
def StoreError.message : StoreError → String
  | notFound id => s!"transfer not found: {id.index}"
  | poisoned => "storage lock poisoned"

/-- A stored record with its identifier. -/
abbrev StoreEntry := TransferId × TransferRecord

/-- A store of transfer records. -/
class TransferStore (σ : Type) where
  /-- The record with an identifier. -/
  get : σ → TransferId → Except StoreError TransferRecord
  /-- The first record with a correlation id. -/
  byUids : σ → String → Except StoreError (Option StoreEntry)
  /-- The first record of the transfer that pays the target under the hash or the correlation id. A
  transaction may pay several targets under one hash, so the target is part of the identity. -/
  find : σ → (hash uids : Option String) → (target : String) → Except StoreError (Option StoreEntry)
  /-- The store with one more record, and the identifier of the record. -/
  insert : σ → TransferRecord → Except StoreError (σ × TransferId)
  /-- The store with another record under an identifier. -/
  update : σ → TransferId → TransferRecord → Except StoreError σ
  /-- All records, by ascending identifier. -/
  entries : σ → Except StoreError (List StoreEntry)
  /-- How many records there are. -/
  size : σ → Except StoreError Nat := fun store => (entries store).map List.length
  /-- Whether there are no records. -/
  isEmpty : σ → Except StoreError Bool := fun store => (size store).map fun n => n = 0

end WalletLedger
