import WalletLedger.Proofs.Bundle.Faithful

/-!
# Block positions without a block

A record of height zero is of a transfer in no block. Of the position that it
may give all the same, its bundle has none of the numbers, but it has the block
hash. So a bundle without a height has no part of a position just if the record
had no block hash, and two records that differ in the rest of their positions
have equal bundles just if they have the same block hash.

Main statement: `ClientRecord.position_without_height`.
-/

namespace WalletLedger

/-! ## A record conveyed settles the bundle -/

/-- Only one bundle says what a record says. -/
theorem TransferBundle.Conveys.unique {first second : TransferBundle} {record : ClientRecord}
    (left : first.Conveys record) (right : second.Conveys record) : first = second := by
  have amount : first.amount = second.amount :=
    DecimalAmount.eq_of_text (left.amount.trans right.amount.symm)
  have fee : first.fee = second.fee :=
    (Option.map_inj_right fun _ _ => DecimalAmount.eq_of_text).1 (left.fee.trans right.fee.symm)
  have transferIndex : first.transferIndex = second.transferIndex :=
    UInt64.toNat_inj.1 (Int.ofNat_inj.1 (left.transferIndex.trans right.transferIndex.symm))
  have blockTimestamp : first.blockTimestamp = second.blockTimestamp :=
    FixedWidth.map_toNat_inj.1 (left.blockTimestamp.trans right.blockTimestamp.symm)
  have blockHeight : first.blockHeight = second.blockHeight :=
    FixedWidth.map_toNat_inj.1 (left.blockHeight.trans right.blockHeight.symm)
  have blockConfirmations : first.blockConfirmations = second.blockConfirmations :=
    FixedWidth.map_toNat_inj.1 (left.blockConfirmations.trans right.blockConfirmations.symm)
  have blockTransactionIndex : first.blockTransactionIndex = second.blockTransactionIndex :=
    FixedWidth.map_toNat_inj.1 (left.blockTransactionIndex.trans right.blockTransactionIndex.symm)
  cases first
  cases second
  rw [TransferBundle.mk.injEq]
  exact ⟨left.status.trans right.status.symm, left.hash.trans right.hash.symm,
    left.identifier.trans right.identifier.symm, left.uids.trans right.uids.symm,
    left.source.trans right.source.symm, left.target.trans right.target.symm, amount,
    left.currency.trans right.currency.symm, fee, transferIndex, blockTimestamp, blockHeight,
    blockConfirmations, blockTransactionIndex, left.blockHash.trans right.blockHash.symm,
    left.metadata.trans right.metadata.symm⟩

/-! ## The rest of a position -/

/-- A bundle has no part of a block position. -/
structure TransferBundle.LacksPosition (bundle : TransferBundle) : Prop where
  blockHeight : bundle.blockHeight = none
  blockTimestamp : bundle.blockTimestamp = none
  blockConfirmations : bundle.blockConfirmations = none
  blockTransactionIndex : bundle.blockTransactionIndex = none
  blockHash : bundle.blockHash = none

/-- What a record gives of a block position besides the height. -/
structure BlockDetails where
  timestamp : Int64
  confirmations : Int64
  transactionIndex : Int64
  hash : String

namespace ClientRecord

variable {record : ClientRecord} {bundle : TransferBundle}

/-- A record with other details of the block. -/
def withDetails (record : ClientRecord) (details : BlockDetails) : ClientRecord :=
  { record with
    blockTimestamp := details.timestamp
    blockConfirmations := details.confirmations
    blockTransactionIndex := details.transactionIndex
    blockHash := details.hash }

/-- Without a block height a bundle has none of the numbers of a block. -/
theorem numbers_of_no_height (noHeight : record.blockHeight = 0)
    (conveys : bundle.Conveys record) :
    bundle.blockHeight = none ∧ bundle.blockTimestamp = none ∧ bundle.blockConfirmations = none ∧
      bundle.blockTransactionIndex = none :=
  ⟨eq_none_of_inBlock? noHeight conveys.blockHeight,
    eq_none_of_inBlock? noHeight conveys.blockTimestamp,
    eq_none_of_inBlock? noHeight conveys.blockConfirmations,
    eq_none_of_inBlock? noHeight conveys.blockTransactionIndex⟩

/-- Without a block height, other details change nothing but the block hash. -/
theorem conveys_withDetails (noHeight : record.blockHeight = 0) (conveys : bundle.Conveys record)
    (details : BlockDetails) :
    { bundle with blockHash := filled? details.hash }.Conveys (record.withDetails details) := by
  have dropped (n m : Int64) : record.inBlock? n = (record.withDetails details).inBlock? m := by
    have other : (record.withDetails details).blockHeight = 0 := noHeight
    rw [inBlock?, inBlock?, if_pos noHeight, if_pos other]
  exact { conveys with
    blockHeight := conveys.blockHeight
    blockTimestamp := conveys.blockTimestamp.trans (dropped _ _)
    blockConfirmations := conveys.blockConfirmations.trans (dropped _ _)
    blockTransactionIndex := conveys.blockTransactionIndex.trans (dropped _ _)
    blockHash := rfl }

/-- Of a record without a block height, the block hash is the only part of a position that its
bundle has. It lacks a position just if the record has no block hash, and with other details it is
the same bundle just if the block hash is the same. -/
theorem position_without_height (record : ClientRecord) (bundle : TransferBundle)
    (noHeight : record.blockHeight = 0) (converted : record.toBundle = .ok bundle) :
    (bundle.blockHeight = none ∧ bundle.blockTimestamp = none ∧ bundle.blockConfirmations = none ∧
        bundle.blockTransactionIndex = none ∧ bundle.blockHash = filled? record.blockHash) ∧
      (bundle.LacksPosition ↔ record.blockHash = "") ∧
      ∀ details other, (record.withDetails details).toBundle = .ok other →
        other = { bundle with blockHash := filled? details.hash } ∧
          (other = bundle ↔ details.hash = record.blockHash) := by
  have conveys := conveys_of_toBundle converted
  have hash : bundle.blockHash = filled? record.blockHash := conveys.blockHash
  obtain ⟨height, timestamp, confirmations, index⟩ := numbers_of_no_height noHeight conveys
  refine ⟨⟨height, timestamp, confirmations, index, hash⟩, ?_, fun details other changed => ?_⟩
  · rw [← filled?_eq_none_iff, ← hash]
    exact ⟨fun lacks => lacks.blockHash,
      fun noHash => ⟨height, timestamp, confirmations, index, noHash⟩⟩
  · have same : other = { bundle with blockHash := filled? details.hash } :=
      (conveys_of_toBundle changed).unique (conveys_withDetails noHeight conveys details)
    refine ⟨same, ?_⟩
    rw [← filled?_inj, ← hash]
    constructor
    · intro unchanged
      rw [← unchanged, same]
    · intro sameHash
      rw [same, sameHash]

/-- A record without a height gives a time, confirmations and an index, but no block hash. Its
bundle is that of the record without any of these. -/
theorem position_without_height_hashless :
    let record := { ofOneUnit "unplaced" "them" "me" "btc" 0 with
      blockTimestamp := 7
      blockConfirmations := 3
      blockTransactionIndex := 2 }
    record.blockHeight = 0 ∧ ∃ bundle, record.toBundle = .ok bundle ∧ bundle.LacksPosition ∧
      (record.withDetails ⟨0, 0, 0, ""⟩).toBundle = .ok bundle := by
  intro record
  have noHeight : record.blockHeight = 0 := rfl
  have hashes : record.toBundle.map (·.hash) = .ok (some "unplaced") := by decide +kernel
  have otherHashes : (record.withDetails ⟨0, 0, 0, ""⟩).toBundle.map (·.hash) =
      .ok (some "unplaced") := by decide +kernel
  obtain ⟨bundle, converted, -⟩ := exists_of_map_toBundle hashes
  obtain ⟨other, changed, -⟩ := exists_of_map_toBundle otherHashes
  obtain ⟨-, lacks, withOthers⟩ := position_without_height record bundle noHeight converted
  obtain ⟨-, unchanged⟩ := withOthers _ other changed
  obtain rfl : other = bundle := unchanged.2 rfl
  exact ⟨noHeight, other, converted, lacks.2 rfl, changed⟩

/-- A record without a height, but with a block hash: its bundle has a part of a position, which
the bundle of the same record without the block hash has not. -/
theorem hash_kept_without_height :
    let record := { ofOneUnit "unplaced-hashed" "them" "me" "btc" 0 with blockHash := "b" }
    record.blockHeight = 0 ∧ ∃ bundle other, record.toBundle = .ok bundle ∧
      (record.withDetails ⟨0, 0, 0, ""⟩).toBundle = .ok other ∧
        ¬bundle.LacksPosition ∧ bundle ≠ other := by
  intro record
  have hashes : record.toBundle.map (·.blockHash) = .ok (some "b") := by decide +kernel
  have otherHashes : (record.withDetails ⟨0, 0, 0, ""⟩).toBundle.map (·.blockHash) = .ok none := by
    decide +kernel
  obtain ⟨bundle, converted, hash⟩ := exists_of_map_toBundle hashes
  obtain ⟨other, changed, noHash⟩ := exists_of_map_toBundle otherHashes
  refine ⟨rfl, bundle, other, converted, changed, fun lacks => ?_, fun same => ?_⟩
  · cases hash.symm.trans lacks.blockHash
  · rw [same, noHash] at hash
    cases hash

end ClientRecord

end WalletLedger
