import WalletLedger.Proofs.Bundle.Built
import WalletLedger.Proofs.Manager.Run

/-!
# Histories that only grow

Whatever happens to a manager, no record ever leaves its place, and what a record
says about who pays whom how much stays as it was first said. A hash and an
identifier stay once they are there. A correlation id, a fee and the value of an
attribute may be replaced, but are never lost.

`Succeeds` says this of two states of one record and `Grown` of two states of a
list of records. Both are kept by a bundle (`succeeds_merge`, `grown_absorb`) and
so by every part of a run (`grown_after`).
-/

namespace WalletLedger

/-! ## Records -/

namespace TransferRecord

/-- A record may be what has become of an earlier one. -/
structure Succeeds (later earlier : TransferRecord) : Prop where
  source : later.source = earlier.source
  target : later.target = earlier.target
  amount : later.amount = earlier.amount
  currency : later.currency = earlier.currency
  direction : later.direction = earlier.direction
  hash : ∀ hash, earlier.hash = some hash → later.hash = some hash
  identifier : ∀ name, earlier.identifier = some name → later.identifier = some name
  uids : earlier.uids.isSome → later.uids.isSome
  fee : earlier.fee.isSome → later.fee.isSome
  attributes : ∀ key, (earlier.attributes.get? key).isSome → (later.attributes.get? key).isSome

theorem Succeeds.refl (record : TransferRecord) : record.Succeeds record :=
  ⟨rfl, rfl, rfl, rfl, rfl, fun _ known => known, fun _ known => known, id, id, fun _ => id⟩

theorem Succeeds.trans {last middle first : TransferRecord} (late : last.Succeeds middle)
    (early : middle.Succeeds first) : last.Succeeds first where
  source := late.source.trans early.source
  target := late.target.trans early.target
  amount := late.amount.trans early.amount
  currency := late.currency.trans early.currency
  direction := late.direction.trans early.direction
  hash hash known := late.hash hash (early.hash hash known)
  identifier name known := late.identifier name (early.identifier name known)
  uids known := late.uids (early.uids known)
  fee known := late.fee (early.fee known)
  attributes key known := late.attributes key (early.attributes key known)

/-- A bundle may name the record otherwise and contradict all that was known of it. -/
theorem succeeds_merge (record : TransferRecord) (bundle : TransferBundle) (network : Network) :
    (record.merge bundle network).Succeeds record where
  source := rfl
  target := rfl
  amount := rfl
  currency := rfl
  direction := rfl
  hash hash known := by
    rw [merge_hash, known, Option.some_or]
  identifier name known := by
    have filled : (record.merge bundle network).identifier =
        record.identifier.or bundle.identifier := rfl
    rw [filled, known, Option.some_or]
  uids known := by
    rw [merge_uids, Option.isSome_or, known, Bool.or_true]
  fee known := by
    have charged : (record.merge bundle network).fee = bundle.fee.or record.fee := rfl
    rw [charged, Option.isSome_or, known, Bool.or_true]
  attributes key known := by
    have union : (record.merge bundle network).attributes.get? key =
        ((recoverAttributes bundle network).get? key).or (record.attributes.get? key) :=
      TextMap.get?_insertAll_entries record.attributes _ key
    rw [union, Option.isSome_or, known, Bool.or_true]

end TransferRecord

/-! ## Lists of records -/

namespace Ledger

open TransferRecord

/-- Every record of an earlier list has a successor in its place. -/
def Grown (later earlier : List TransferRecord) : Prop :=
  ∀ (index : Nat) (record : TransferRecord), earlier[index]? = some record →
    ∃ successor, later[index]? = some successor ∧ successor.Succeeds record

theorem Grown.refl (records : List TransferRecord) : Grown records records :=
  fun _ record found => ⟨record, found, .refl record⟩

theorem Grown.trans {last middle first : List TransferRecord} (late : Grown last middle)
    (early : Grown middle first) : Grown last first := by
  intro index record found
  obtain ⟨between, at_middle, once⟩ := early index record found
  obtain ⟨successor, at_last, twice⟩ := late index between at_middle
  exact ⟨successor, at_last, twice.trans once⟩

variable {network : Network} {owned : AddressSet}

theorem grown_absorb (records : List TransferRecord) (bundle : TransferBundle) :
    Grown (absorb network owned records bundle) records := by
  intro index record found
  rcases located_or_unknown bundle records with ⟨place, known, located⟩ | unknown
  · rw [absorb_of_located located]
    obtain ⟨within, -⟩ := List.getElem?_eq_some_iff.1 located.found
    by_cases merges : place = index
    · subst merges
      have same : known = record := Option.some.inj (located.found.symm.trans found)
      subst same
      exact ⟨_, List.getElem?_set_self within, succeeds_merge known bundle network⟩
    · refine ⟨record, ?_, .refl record⟩
      rw [List.getElem?_set_ne merges]
      exact found
  · rw [absorb_of_unknown unknown]
    obtain ⟨within, -⟩ := List.getElem?_eq_some_iff.1 found
    refine ⟨record, ?_, .refl record⟩
    rw [List.getElem?_append_left within]
    exact found

end Ledger

/-! ## Runs -/

namespace Manager

theorem grown_after (manager : Manager MemoryStore) (operations : List Operation) :
    Ledger.Grown (manager.after operations).store.records manager.store.records := by
  have absorbs : ∀ records bundle, .recover bundle ∈ operations →
      Ledger.Grown records manager.store.records →
        Ledger.Grown (Ledger.absorb manager.network manager.owned records bundle)
          manager.store.records :=
    fun records bundle _ before => (Ledger.grown_absorb records bundle).trans before
  apply records_after_induction (.refl _) absorbs

/-- Between any two points of a run, every record that is stored at the first one has a successor
under the same identifier at the second one. -/
theorem stored_records_succeeded (manager : Manager MemoryStore) (operations : List Operation)
    (p q : Nat) (order : p ≤ q) :
    let stored (point : Nat) := (manager.after (operations.take point)).store
    ∀ id record, (stored p).get? id = some record →
      ∃ successor, (stored q).get? id = some successor ∧ successor.Succeeds record := by
  intro stored id record found
  have parts : operations.take q = operations.take p ++ (operations.take q).drop p := by
    have first : (operations.take q).take p = operations.take p := by
      rw [List.take_take, Nat.min_eq_left order]
    rw [← first, List.take_append_drop]
  have later : stored q = ((manager.after (operations.take p)).after
      ((operations.take q).drop p)).store := by
    change (manager.after (operations.take q)).store = _
    rw [← after_append, ← parts]
  rw [later]
  exact grown_after _ _ id.index record found

/-- A payment is known by a correlation id only, then gets a hash and fails at a fee, and is at last
seen under another correlation id, with another hash and at another fee. -/
theorem stored_records_succeeded_renamed :
    let submitted := {
      TransferBundle.ofOneUnit none (some "u") "me" "them" "xrp" with
      metadata := TextMap.empty.insert "destinationtag" "7" }
    let failed := {
      TransferBundle.ofOneUnit (some "h") (some "u") "me" "them" "xrp" with
      status := .errored
      fee := some ⟨"0.000012", by decide +kernel⟩ }
    let renamed := TransferBundle.ofOneUnit (some "h") (some "v") "you" "them" "eth"
    let rehashed := {
      TransferBundle.ofOneUnit (some "k") (some "v") "me" "them" "xrp" with
      fee := some ⟨"0.000015", by decide +kernel⟩ }
    let manager := fresh { network := .xrp, addresses := ["me"] }
    let operations : List Operation :=
      [.connect, .recover submitted, .recover failed, .sync, .recover renamed, .recover rehashed]
    let stored (point : Nat) := (manager.after (operations.take point)).store
    let record := TransferRecord.ofBundle submitted .xrp .sent
    2 ≤ 6 ∧ (stored 2).get? ⟨0⟩ = some record ∧
      ∃ successor, (stored 6).get? ⟨0⟩ = some successor ∧ successor.Succeeds record ∧
        successor.hash = some "h" ∧ successor.uids = some "v" := by
  intro submitted failed renamed rehashed manager operations stored record
  have order : 2 ≤ 6 := by decide
  have found : (stored 2).get? ⟨0⟩ = some record := by decide
  obtain ⟨successor, later, succeeds⟩ :=
    stored_records_succeeded manager operations 2 6 order ⟨0⟩ record found
  have known : ((stored 6).get? ⟨0⟩).map (fun record => (record.hash, record.uids)) =
      some (some "h", some "v") := by decide
  rw [later, Option.map_some, Option.some.injEq, Prod.mk.injEq] at known
  obtain ⟨hash, uids⟩ := known
  exact ⟨order, found, successor, later, succeeds, hash, uids⟩

end Manager

end WalletLedger
