import WalletLedger.Proofs.Bundle.Converted
import WalletLedger.Proofs.Report.Contents
import WalletLedger.Proofs.Transfer.WellFormed

/-!
# Confirmations in reports

A block of height zero would have as many confirmations as there are heights, one
more than fits a word of 64 bits. No client record is of a transfer in such a
block, since zero stands for no block there, and the state of a stored record is
that of a bundle of some client record (`state_of_mem_foldl_absorb`).

The highest block of a report is the greatest height of all client records that
have bundles (`highestBlock_eq_max`): of those that were passed over too, and of
those that were merged and said otherwise later on.
-/

namespace WalletLedger

/-! ## Blocks of stored records -/

namespace TransferState

variable {bundle : TransferBundle} {inclusion : Inclusion}

theorem isMined_of_included (state : ofBundle bundle = .included inclusion) :
    isMined bundle = true := by
  by_contra unplaced
  rw [ofBundle, if_neg unplaced] at state
  split at state <;> cases state

/-- A transfer is in a block only if the bundle says in which. -/
theorem blockHeight_of_included (state : ofBundle bundle = .included inclusion) :
    bundle.blockHeight = some inclusion.blockHeight := by
  have mined := isMined_of_included state
  have placed : bundle.blockHeight.isSome = true := by
    unfold isMined at mined
    split at mined
    · exact mined
    · exact (Bool.and_eq_true_iff.1 mined).1
    · cases mined
  obtain ⟨height, known⟩ := Option.isSome_iff_exists.1 placed
  rw [ofBundle_eq_included state, inclusionOf, known, Option.getD_some]

theorem isSome_confirmations_iff {state : TransferState} {height : UInt64} :
    (state.confirmations height).isSome ↔ ∃ inclusion, state = .included inclusion := by
  cases state with
  | included inclusion => exact ⟨fun _ => ⟨inclusion, rfl⟩, fun _ => rfl⟩
  | created | signed | submitted | errored _ | deleted => exact ⟨nofun, nofun⟩

end TransferState

namespace Ledger

variable {network : Network} {owned : AddressSet}

/-- The state of a record is that of one of the bundles that were taken in. -/
theorem state_of_mem_foldl_absorb {bundles : List TransferBundle} {record : TransferRecord}
    (mem : record ∈ bundles.foldl (absorb network owned) []) :
    ∃ bundle ∈ bundles, record.state = .ofBundle bundle := by
  refine mem_foldl_absorb_induction mem (List.forall_mem_nil _) ?_ ?_
  · intro bundle among direction
    exact ⟨bundle, among, rfl⟩
  · intro bundle among old _ _
    exact ⟨bundle, among, rfl⟩

end Ledger

/-! ## Heights -/

namespace ClientRecord

variable {record : ClientRecord} {bundle : TransferBundle}

/-- The block heights of those records that have bundles. -/
def heights (records : List ClientRecord) : List Int :=
  (records.filter (·.toBundle.isOk)).map (·.blockHeight.toInt)

theorem heights_cons_of_ok (converted : record.toBundle = .ok bundle)
    (rest : List ClientRecord) :
    heights (record :: rest) = record.blockHeight.toInt :: heights rest := by
  have kept : record.toBundle.isOk = true := by
    rw [converted]
    rfl
  rw [heights, List.filter_cons, if_pos kept]
  rfl

theorem heights_cons_of_error {fault : InputError} (refused : record.toBundle = .error fault)
    (rest : List ClientRecord) : heights (record :: rest) = heights rest := by
  have skipped : ¬record.toBundle.isOk = true := by
    rw [refused]
    exact Bool.false_ne_true
  rw [heights, List.filter_cons, if_neg skipped]
  rfl

theorem mem_heights_iff {records : List ClientRecord} {height : Int} :
    height ∈ heights records ↔
      ∃ bundle ∈ bundles records, ((bundle.blockHeight.getD 0).toNat : Int) = height := by
  constructor
  · intro mem
    obtain ⟨record, among, rfl⟩ := List.mem_map.1 mem
    obtain ⟨listed, kept⟩ := List.mem_filter.1 among
    cases converted : record.toBundle with
    | error fault =>
      rw [converted] at kept
      cases kept
    | ok bundle =>
      exact ⟨bundle, mem_bundles_iff.2 ⟨record, listed, converted⟩,
        blockHeight_getD_of_toBundle converted⟩
  · rintro ⟨bundle, mem, rfl⟩
    obtain ⟨record, listed, converted⟩ := mem_bundles_iff.1 mem
    have kept : record.toBundle.isOk = true := by
      rw [converted]
      rfl
    rw [blockHeight_getD_of_toBundle converted]
    exact List.mem_map_of_mem (List.mem_filter.2 ⟨listed, kept⟩)

end ClientRecord

namespace Report

open ClientRecord

theorem toNat_max (a b : UInt64) : (max a b).toNat = max a.toNat b.toNat := by
  change (if a ≤ b then b else a).toNat = _
  split
  · next order =>
    have words := UInt64.le_iff_toNat_le.1 order
    omega
  · next order =>
    have words := mt UInt64.le_iff_toNat_le.2 order
    omega

theorem toNat_highestBlock (start : UInt64) (records : List ClientRecord) :
    ((highestBlock start (bundles records)).toNat : Int) =
      (heights records).foldl max (start.toNat : Int) := by
  induction records generalizing start with
  | nil => rfl
  | cons record rest ih =>
    rw [bundles_cons, highestBlock, List.foldl_append]
    cases converted : record.toBundle with
    | error fault =>
      rw [bundles_of_error converted, heights_cons_of_error converted]
      exact ih start
    | ok bundle =>
      have raised : ((max start (bundle.blockHeight.getD 0)).toNat : Int) =
          max (start.toNat : Int) record.blockHeight.toInt := by
        rw [← blockHeight_getD_of_toBundle converted, toNat_max]
        omega
      rw [bundles_of_ok converted, heights_cons_of_ok converted, List.foldl_cons, List.foldl_nil,
        List.foldl_cons, ← raised]
      exact ih _

/-- The highest block is the greatest height of all records that have bundles. -/
theorem highestBlock_eq_max (records : List ClientRecord) :
    ((highestBlock 0 (bundles records)).toNat : Int) = (heights records).max?.getD 0 := by
  have nonneg (height : Int) (mem : height ∈ heights records) : 0 ≤ height := by
    obtain ⟨bundle, -, rfl⟩ := mem_heights_iff.1 mem
    exact Int.natCast_nonneg _
  rw [toNat_highestBlock]
  cases known : heights records with
  | nil => rfl
  | cons height rest =>
    have start : max 0 height = height := by
      have low := nonneg height (known ▸ List.mem_cons_self)
      omega
    rw [List.max?_cons', Option.getD_some, List.foldl_cons]
    exact congrArg (rest.foldl max) start

theorem le_highestBlock {records : List ClientRecord} {bundle : TransferBundle}
    (mem : bundle ∈ bundles records) :
    (bundle.blockHeight.getD 0).toNat ≤ (highestBlock 0 (bundles records)).toNat := by
  have counted := mem_heights_iff.2 ⟨bundle, mem, rfl⟩
  have greatest := highestBlock_eq_max records
  cases known : (heights records).max? with
  | none =>
    rw [List.max?_eq_none_iff.1 known] at counted
    cases counted
  | some highest =>
    have above := (List.max?_eq_some_iff.1 known).2 _ counted
    rw [known, Option.getD_some] at greatest
    omega

/-! ## Confirmations -/

/-- A stored transfer in a block is in one that a bundle mentions, and that has not height zero. -/
theorem block_of_stored {config : Config} {records : List ClientRecord} {record : TransferRecord}
    {inclusion : Inclusion} (mem : record ∈ (closed config records).store.records)
    (state : record.state = .included inclusion) :
    0 < inclusion.blockHeight.toNat ∧
      inclusion.blockHeight.toNat ≤ (highestBlock 0 (bundles records)).toNat := by
  rw [closed_eq] at mem
  obtain ⟨bundle, among, derived⟩ := Ledger.state_of_mem_foldl_absorb mem
  have placed := TransferState.blockHeight_of_included (derived.symm.trans state)
  obtain ⟨record, -, converted⟩ := mem_bundles_iff.1 among
  have below := le_highestBlock among
  rw [placed, Option.getD_some] at below
  exact ⟨blockHeight_pos_of_toBundle converted placed, below⟩

/-- Every number of confirmations in a report fits a word of 64 bits, and those transfers have one
that are in a block. Without a given height, the height of a report is the greatest one of all
client records that have bundles, so every transfer in a block is confirmed. -/
theorem confirmations_fit (config : Config) (records : List ClientRecord)
    (height : Option UInt64) (report : Report)
    (made : (ofRecords config records height).result = .ok report) :
    (∀ transfer ∈ report.transfers,
        (∀ count, transfer.confirmations = some count → count < UInt64.size) ∧
        (transfer.confirmations.isSome ↔
          ∃ inclusion, transfer.record.state = .included inclusion)) ∧
      (height = none →
        (report.height.toNat : Int) = (heights records).max?.getD 0 ∧
        ∀ transfer ∈ report.transfers, ∀ inclusion,
          transfer.record.state = .included inclusion →
            ∃ count, transfer.confirmations = some count ∧ 1 ≤ count) := by
  obtain ⟨balance, -, rfl⟩ := result_ofRecords_eq_ok_iff.1 made
  have counted (record : TransferRecord) (inclusion : Inclusion)
      (state : record.state = .included inclusion) :
      (showRecord config (heightOf records height) record).confirmations =
        some ((heightOf records height).toNat + 1 - inclusion.blockHeight.toNat) := by
    rw [showRecord, state]
    rfl
  constructor
  · intro transfer mem
    obtain ⟨record, stored, rfl⟩ := List.mem_map.1 mem
    refine ⟨fun count known => ?_, TransferState.isSome_confirmations_iff⟩
    obtain ⟨inclusion, state⟩ :=
      TransferState.isSome_confirmations_iff.1 (Option.isSome_iff_exists.2 ⟨count, known⟩)
    rw [counted record inclusion state, Option.some.injEq] at known
    have placed := (block_of_stored stored state).1
    have small := (heightOf records height).toNat_lt_size
    omega
  · rintro rfl
    refine ⟨highestBlock_eq_max records, fun transfer mem inclusion state => ?_⟩
    obtain ⟨record, stored, rfl⟩ := List.mem_map.1 mem
    have below := (block_of_stored stored state).2
    have top : heightOf records none = highestBlock 0 (bundles records) := rfl
    refine ⟨_, counted record inclusion state, ?_⟩
    rw [top]
    omega

/-- A receipt that is moved to a lower block, and a transfer between others in a higher one: the
highest block is that of the others. At the greatest height of all, a receipt in the first block has
as many confirmations as fit a word. -/
theorem confirmations_fit_moved :
    let config : Config := { network := .btc, addresses := ["me"] }
    let records := [ClientRecord.ofOneUnit "h" "them" "me" "btc" 9,
      .ofOneUnit "h" "them" "me" "btc" 5, .ofOneUnit "k" "them" "us" "btc" 12]
    let first := [ClientRecord.ofOneUnit "h" "them" "me" "btc" 1]
    (∃ report, (ofRecords config records none).result = .ok report ∧
      (report.height.toNat : Int) = [9, 5, 12].max?.getD 0 ∧
      (∀ transfer ∈ report.transfers, ∃ count, transfer.confirmations = some count ∧ 1 ≤ count) ∧
      report.transfers.map (·.confirmations) = [some 8]) ∧
    ∃ report, (ofRecords config first (some 18446744073709551615)).result = .ok report ∧
      (∀ transfer ∈ report.transfers, ∀ count,
        transfer.confirmations = some count → count < UInt64.size) ∧
      report.transfers.map (·.confirmations) = [some (UInt64.size - 1)] := by
  intro config records first
  have moved : (ofRecords config records none).result.map
      (fun report => report.transfers.map (·.confirmations)) = .ok [some 8] := by decide +kernel
  have top : (ofRecords config first (some 18446744073709551615)).result.map
      (fun report => report.transfers.map (·.confirmations)) =
        .ok [some (UInt64.size - 1)] := by decide +kernel
  obtain ⟨report, made, shown⟩ := exists_report_of_map moved
  obtain ⟨highReport, highMade, highShown⟩ := exists_report_of_map top
  obtain ⟨fits, highest⟩ := confirmations_fit config records none report made
  obtain ⟨height, confirmed⟩ := highest rfl
  have counts : ∀ transfer ∈ report.transfers,
      ∃ count, transfer.confirmations = some count ∧ 1 ≤ count := by
    intro transfer mem
    have listed : transfer.confirmations ∈ report.transfers.map (·.confirmations) :=
      List.mem_map_of_mem mem
    rw [shown, List.mem_singleton] at listed
    have present : transfer.confirmations.isSome := by
      rw [listed]
      rfl
    obtain ⟨inclusion, state⟩ := (fits transfer mem).2.1 present
    exact confirmed transfer mem inclusion state
  have highFits :=
    (confirmations_fit config first (some 18446744073709551615) highReport highMade).1
  exact ⟨⟨report, made, height, counts, shown⟩,
    highReport, highMade, fun transfer mem => (highFits transfer mem).1, highShown⟩

end Report

end WalletLedger
