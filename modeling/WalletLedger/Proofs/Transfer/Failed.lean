import WalletLedger.Proofs.Bundle.Faithful
import WalletLedger.Proofs.Transfer.WellFormed

/-!
# Failed transfers

A transfer that failed is in a block if its bundle has the height and the time of
the block. Then its fee is spent; otherwise it failed outside of blocks, at no
cost, and the metadata may say why.

A client record says with a zero that it has no height or no time. Without a
height its bundle has neither. With a height the bundle has both, and a zero in
place of the time is taken for a time: so of the two zeros only that of the height
keeps a failure out of the blocks.

Main statement: `failed_state_of_record`.
-/

namespace WalletLedger

/-- The reason that metadata give for a failure. Of several keys that read `error` in some case the
smallest one counts. -/
inductive FailureReason (metadata : TextMap) : String → Prop where
  | given {key reason : String} (entry : metadata.get? key = some reason)
    (spelling : Text.sameLetters key "error" = true)
    (first : ∀ smaller < key, (metadata.get? smaller).isSome →
      Text.sameLetters smaller "error" = false) : FailureReason metadata reason
  | unknown (absent : ∀ key, (metadata.get? key).isSome → Text.sameLetters key "error" = false) :
    FailureReason metadata "unknown"

/-- An inclusion is that of a failed transfer: it has the place and the fee of a record, and the
reason that every failure in a block has. -/
structure Inclusion.FailureOf (inclusion : Inclusion) (record : ClientRecord) : Prop where
  blockHeight : (inclusion.blockHeight.toNat : Int) = record.blockHeight.toInt
  transactionIndex : (inclusion.transactionIndex.toNat : Int) = record.blockTransactionIndex.toInt
  timestamp : (inclusion.timestamp.toNat : Int) = record.blockTimestamp.toInt
  fee : inclusion.fee.map DecimalAmount.text = filled? record.fee
  success : inclusion.success = false
  error : inclusion.error = some "unknown"

/-! ## States of failed bundles -/

namespace TransferState

variable {bundle : TransferBundle}

theorem isMined_of_errored (failed : bundle.status = .errored) :
    isMined bundle = (bundle.blockHeight.isSome && bundle.blockTimestamp.isSome) := by
  rw [isMined, failed]

theorem ofBundle_of_mined (mined : isMined bundle = true) :
    ofBundle bundle = .included (inclusionOf bundle) := by
  rw [ofBundle, if_pos mined]

theorem ofBundle_of_errored (failed : bundle.status = .errored) (unmined : isMined bundle = false) :
    ofBundle bundle = .errored ((bundle.metadataValue? "error").getD unknownError) := by
  rw [ofBundle, if_neg (Bool.eq_false_iff.1 unmined), failed]

theorem failureReason_metadataValue? (bundle : TransferBundle) :
    FailureReason bundle.metadata ((bundle.metadataValue? "error").getD unknownError) := by
  cases found : bundle.metadataValue? "error" with
  | none => exact .unknown (TextMap.findValue?_eq_none_iff.1 found)
  | some reason =>
    obtain ⟨key, entry, spelling, first⟩ := TextMap.findValue?_eq_some_iff.1 found
    exact .given entry spelling first

end TransferState

/-! ## Failed client records -/

namespace ClientRecord

open TransferState (ofBundle)

variable {record : ClientRecord} {bundle : TransferBundle}

/-- The state of a failed transfer goes by the position that its record gives: a failure in a block
needs the height and the time, and any other is outside of blocks, for the reason that the metadata
give, and costs no fee. -/
structure FailsByPosition (record : ClientRecord) (state : TransferState) : Prop where
  mined : (∃ inclusion, state = .included inclusion ∧ inclusion.success = false) ↔
    record.blockHeight ≠ 0 ∧ record.blockTimestamp ≠ 0
  unmined : ¬(record.blockHeight ≠ 0 ∧ record.blockTimestamp ≠ 0) →
    state.chargesFee = false ∧
      ∃ reason, state = .errored reason ∧ FailureReason record.metadata reason

/-- Without a block height a failed transfer is outside of blocks. -/
theorem errored_of_no_height (failed : record.status = .errored)
    (converted : record.toBundle = .ok bundle) (noHeight : record.blockHeight = 0) :
    ∃ reason, ofBundle bundle = .errored reason ∧ FailureReason record.metadata reason := by
  have conveys := conveys_of_toBundle converted
  have status : bundle.status = .errored := conveys.status.trans failed
  have height : bundle.blockHeight = none := eq_none_of_inBlock? noHeight conveys.blockHeight
  have unmined : TransferState.isMined bundle = false := by
    rw [TransferState.isMined_of_errored status, height, Option.isSome_none, Bool.false_and]
  rw [← conveys.metadata]
  exact ⟨_, TransferState.ofBundle_of_errored status unmined,
    TransferState.failureReason_metadataValue? bundle⟩

/-- With a block height a failed transfer is in a block, whatever is said about the time. -/
theorem included_of_height (failed : record.status = .errored)
    (converted : record.toBundle = .ok bundle) (height : record.blockHeight ≠ 0) :
    ∃ inclusion, ofBundle bundle = .included inclusion ∧ inclusion.FailureOf record := by
  have conveys := conveys_of_toBundle converted
  have status : bundle.status = .errored := conveys.status.trans failed
  obtain ⟨blockHeight, hasHeight, sameHeight⟩ := exists_of_inBlock? height conveys.blockHeight
  obtain ⟨timestamp, hasTime, sameTime⟩ := exists_of_inBlock? height conveys.blockTimestamp
  obtain ⟨index, hasIndex, sameIndex⟩ := exists_of_inBlock? height conveys.blockTransactionIndex
  have mined : TransferState.isMined bundle = true := by
    rw [TransferState.isMined_of_errored status, hasHeight, hasTime]
    rfl
  refine ⟨_, TransferState.ofBundle_of_mined mined, ?_⟩
  have unsuccessful : bundle.status ≠ .included := by
    rw [status]
    exact nofun
  exact {
    blockHeight := by
      rw [TransferState.inclusionOf, hasHeight]
      exact sameHeight
    transactionIndex := by
      rw [TransferState.inclusionOf, hasIndex]
      exact sameIndex
    timestamp := by
      rw [TransferState.inclusionOf, hasTime]
      exact sameTime
    fee := conveys.fee
    success := decide_eq_false unsuccessful
    error := if_neg unsuccessful }

/-- The state of a failed transfer, from its record. A block height alone decides whether it is in a
block, and so whether its fee is spent. Hence the state goes by the position just if the record has
no height or does have a time. -/
theorem failed_state_of_record (record : ClientRecord) (bundle : TransferBundle)
    (failed : record.status = .errored) (converted : record.toBundle = .ok bundle) :
    let state := ofBundle bundle
    (record.blockHeight ≠ 0 → state.chargesFee = true ∧
        ∃ inclusion, state = .included inclusion ∧ inclusion.FailureOf record) ∧
      (record.blockHeight = 0 → state.chargesFee = false ∧
        ∃ reason, state = .errored reason ∧ FailureReason record.metadata reason) ∧
      (record.FailsByPosition state ↔ record.blockHeight = 0 ∨ record.blockTimestamp ≠ 0) := by
  intro state
  by_cases noHeight : record.blockHeight = 0
  · obtain ⟨reason, errored, explained⟩ := errored_of_no_height failed converted noHeight
    have costless : state.chargesFee = false := congrArg TransferState.chargesFee errored
    have outside : state.chargesFee = false ∧
        ∃ reason, state = .errored reason ∧ FailureReason record.metadata reason :=
      ⟨costless, reason, errored, explained⟩
    have goes : record.FailsByPosition state := by
      refine ⟨iff_of_false ?_ fun position => position.1 noHeight, fun _ => outside⟩
      rintro ⟨inclusion, included, -⟩
      cases errored.symm.trans included
    exact ⟨fun height => absurd noHeight height, fun _ => outside,
      iff_of_true goes (.inl noHeight)⟩
  · obtain ⟨inclusion, included, failure⟩ := included_of_height failed converted noHeight
    have charged : state.chargesFee = true := congrArg TransferState.chargesFee included
    refine ⟨fun _ => ⟨charged, inclusion, included, failure⟩, fun height => absurd height noHeight,
      ?_⟩
    rw [or_iff_right noHeight]
    constructor
    · intro goes
      exact (goes.mined.1 ⟨inclusion, included, failure.success⟩).2
    · intro time
      have position : record.blockHeight ≠ 0 ∧ record.blockTimestamp ≠ 0 := ⟨noHeight, time⟩
      exact ⟨iff_of_true ⟨inclusion, included, failure.success⟩ position,
        fun without => absurd position without⟩

/-- A failure with a block time but without a height costs nothing. Two of its metadata keys read
`error`, and the one in capitals comes first. -/
theorem failed_state_of_record_outside :
    let record := { ofOneUnit "h" "me" "them" "btc" 0 with
      status := .errored
      fee := "0.5"
      blockTimestamp := 7
      metadata := .ofList [("error", "late"), ("ERROR", "spent"), ("memo", "rent")] }
    record.status = .errored ∧ ∃ bundle, record.toBundle = .ok bundle ∧
      record.FailsByPosition (ofBundle bundle) ∧ (ofBundle bundle).chargesFee = false ∧
        FailureReason record.metadata "spent" := by
  intro record
  have failed : record.status = .errored := rfl
  have noHeight : record.blockHeight = 0 := rfl
  have states : record.toBundle.map ofBundle = .ok (.errored "spent") := by decide +kernel
  obtain ⟨bundle, converted, spent⟩ := exists_of_map_toBundle states
  obtain ⟨-, outside, goes⟩ := failed_state_of_record record bundle failed converted
  obtain ⟨costless, reason, errored, explained⟩ := outside noHeight
  obtain rfl : reason = "spent" := TransferState.errored.inj (errored.symm.trans spent)
  exact ⟨failed, bundle, converted, goes.2 (.inl noHeight), costless, explained⟩

/-- A failure with a block height but without a time counts as mined, at the time zero, and its fee
is spent. -/
theorem timeless_failure_charged :
    let record := { ofOneUnit "h" "me" "them" "btc" 9 with
      status := .errored
      fee := "0.5" }
    record.status = .errored ∧ record.blockTimestamp = 0 ∧
      ∃ bundle, record.toBundle = .ok bundle ∧ (ofBundle bundle).chargesFee = true ∧
        ¬record.FailsByPosition (ofBundle bundle) := by
  intro record
  have charges : record.toBundle.map (fun bundle => (ofBundle bundle).chargesFee) = .ok true := by
    decide +kernel
  obtain ⟨bundle, converted, charged⟩ := exists_of_map_toBundle charges
  refine ⟨rfl, rfl, bundle, converted, charged, fun goes => ?_⟩
  have costless := (goes.unmined fun position => position.2 rfl).1
  rw [charged] at costless
  cases costless

end ClientRecord

end WalletLedger
