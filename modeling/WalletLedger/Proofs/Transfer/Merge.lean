import WalletLedger.Proofs.TextMap
import WalletLedger.Transfer.Record

/-!
# Merging bundles into records

A bundle is of the transfer of a record if it pays the same target and names the
same hash or the same correlation id. Merging such a bundle keeps the record one
of that transfer, although the merge may fill in the hash and may replace the
correlation id, and merging the bundle once more changes nothing.
-/

namespace WalletLedger.TransferRecord

variable {record : TransferRecord} {bundle : TransferBundle} {network : Network}

/-- Whether a bundle is of the transfer of a record. -/
def isOf (record : TransferRecord) (bundle : TransferBundle) : Bool :=
  record.isIdentifiedBy bundle.hash bundle.uids bundle.target

theorem isOf_iff :
    record.isOf bundle = true ↔
      record.target = bundle.target ∧
        ((∃ s, record.hash = some s ∧ bundle.hash = some s) ∨
          ∃ s, record.uids = some s ∧ bundle.uids = some s) :=
  isIdentifiedBy_iff

theorem target_eq_of_isOf (of : record.isOf bundle = true) : record.target = bundle.target :=
  (isOf_iff.1 of).1

/-! ## Fields of a merged record -/

@[simp] theorem merge_target : (record.merge bundle network).target = record.target := rfl

@[simp] theorem merge_hash :
    (record.merge bundle network).hash = record.hash.or bundle.hash := rfl

@[simp] theorem merge_uids :
    (record.merge bundle network).uids = bundle.uids.or record.uids := rfl

/-! ## Recognition -/

/-- A record is still recognized by a bundle that was merged into it. The correlation id of the
bundle has replaced the one before; without one, the bundle was recognized by a hash, which
stays. -/
theorem isOf_merge (of : record.isOf bundle = true) :
    (record.merge bundle network).isOf bundle = true := by
  obtain ⟨target, same⟩ := isOf_iff.1 of
  refine isOf_iff.2 ⟨target, ?_⟩
  cases uids : bundle.uids with
  | some s => exact .inr ⟨s, by rw [merge_uids, uids, Option.some_or], rfl⟩
  | none =>
    rcases same with ⟨s, mine, yours⟩ | ⟨s, _, yours⟩
    · exact .inl ⟨s, by rw [merge_hash, mine, Option.some_or], yours⟩
    · rw [uids] at yours
      cases yours

/-- A record is recognized by the bundle that made it, if that has a hash or a correlation id. -/
theorem isOf_ofBundle {direction : TransferDirection}
    (identified : bundle.hash.isSome ∨ bundle.uids.isSome) :
    (ofBundle bundle network direction).isOf bundle = true := by
  refine isOf_iff.2 ⟨rfl, ?_⟩
  rcases identified with hash | uids
  · obtain ⟨s, present⟩ := Option.isSome_iff_exists.1 hash
    exact .inl ⟨s, present, present⟩
  · obtain ⟨s, present⟩ := Option.isSome_iff_exists.1 uids
    exact .inr ⟨s, present, present⟩

/-! ## Merging the same bundle again -/

/-- A bundle has nothing to add to a record that it was merged into. -/
theorem merge_merge_self :
    (record.merge bundle network).merge bundle network = record.merge bundle network := by
  simp only [merge, recoverAttributes, mk.injEq, true_and]
  refine ⟨?_, ?_, ?_, ?_, TextMap.insertAll_insertAll_entries ..⟩
  · rw [← Option.or_assoc, Option.or_self]
  · rw [Option.or_assoc, Option.or_self]
  · rw [Option.or_assoc, Option.or_self]
  · rw [← Option.or_assoc, Option.or_self]

/-- A bundle has nothing to add to the record that it made. -/
theorem ofBundle_merge_self {direction : TransferDirection} :
    (ofBundle bundle network direction).merge bundle network =
      ofBundle bundle network direction := by
  simp only [merge, ofBundle, Option.or_self, TextMap.insertAll_entries_self]

end WalletLedger.TransferRecord
