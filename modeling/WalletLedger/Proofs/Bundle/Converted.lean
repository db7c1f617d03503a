import WalletLedger.Bundle.ClientRecord
import WalletLedger.Proofs.Bundle.Built

/-!
# Bundles of client records

What the settings of a client record come to: a draft that has the texts and the
metadata of the record, and its numbers as far as they are of use. A record
without a block height is of a transfer in no block, so the numbers that only a
transfer in a block has are left out with it.

Main statements: `applyAll_settings`, the settings of a record whose numbers are
not negative lead to this draft; and `toBundle_eq_ok_iff`, only such records have
bundles, and these are built from it.
-/

namespace WalletLedger.ClientRecord

/-- The text that a record has in a field. -/
def text (record : ClientRecord) : TextField → String
  | .hash => record.hash
  | .identifier => record.identifier
  | .uids => record.uids
  | .source => record.source
  | .target => record.target
  | .amount => record.amount
  | .currency => record.currency
  | .fee => record.fee
  | .blockHash => record.blockHash

/-- The draft that a record describes. -/
def draft (record : ClientRecord) : Draft where
  status := record.status
  texts := record.text
  numbers field :=
    if field = .transferIndex ∨ record.blockHeight ≠ 0 then
      FixedWidth.uint64? (record.number field).toInt
    else none
  metadata := record.metadata
  fault := none

variable {record : ClientRecord} {bundle : TransferBundle}

/-! ## Numbers -/

theorem not_negative_iff {n : Int64} : ¬n < 0 ↔ 0 ≤ n.toInt := by
  rw [Int64.lt_iff_toInt_lt, Int64.toInt_zero, Int.not_lt]

/-- A number that is not negative has a place among the numbers without sign. -/
theorem exists_uint64 {n : Int64} (nonnegative : ¬n < 0) :
    ∃ word, FixedWidth.uint64? n.toInt = some word ∧ (word.toNat : Int) = n.toInt := by
  have low : 0 ≤ n.toInt := not_negative_iff.1 nonnegative
  have high : n.toInt < UInt64.size := by
    have bound := n.toInt_lt
    have wide : (2 : Int) ^ 63 < UInt64.size := by decide
    omega
  cases fits : FixedWidth.uint64? n.toInt with
  | none =>
    rw [FixedWidth.uint64?, if_pos ⟨low, high⟩] at fits
    cases fits
  | some word => exact ⟨word, rfl, FixedWidth.uint64?_eq_some_iff.1 fits⟩

theorem setNumber_of_nonnegative {n : Int64} (nonnegative : ¬n < 0) (draft : Draft)
    (field : NumberField) :
    draft.setNumber field n.toInt = draft.putNumber field (FixedWidth.uint64? n.toInt) := by
  obtain ⟨word, fits, -⟩ := exists_uint64 nonnegative
  rw [Draft.setNumber, fits]

/-! ## The draft -/

theorem applyAll_settings (nonnegative : ∀ field, ¬record.number field < 0) :
    (Draft.ofStatus record.status).applyAll record.settings = record.draft := by
  have put (draft : Draft) (field : NumberField) :
      draft.apply (record.numberSetting field) =
        draft.putNumber field (FixedWidth.uint64? (record.number field).toInt) :=
    setNumber_of_nonnegative (nonnegative field) draft field
  have metadata : TextMap.empty.insertAll record.metadata.entries = record.metadata := by
    refine TextMap.ext_get? fun key => ?_
    rw [TextMap.get?_insertAll_entries, TextMap.get?_empty, Option.or_none]
  have texts : [Setting.text .hash record.hash, .text .identifier record.identifier,
      .text .uids record.uids, .text .source record.source, .text .target record.target,
      .text .amount record.amount, .text .currency record.currency, .text .fee record.fee,
      record.numberSetting .transferIndex, .text .blockHash record.blockHash,
      .entries record.metadata.entries].foldl Draft.apply (.ofStatus record.status) =
        { record.draft with
          numbers := fun field => if field = .transferIndex then
            FixedWidth.uint64? (record.number field).toInt else none } := by
    simp only [List.foldl_cons, List.foldl_nil, put]
    simp only [Draft.apply, Draft.setText, Draft.putNumber, Draft.addEntries, Draft.ofStatus,
      metadata, draft, Draft.mk.injEq, true_and, and_true]
    constructor
    · funext field
      cases field <;> rfl
    · funext field
      cases field <;> simp
  rw [Draft.applyAll, settings, List.foldl_append, texts]
  by_cases mined : record.blockHeight = 0
  · rw [if_pos mined, List.foldl_nil, draft]
    simp only [mined, ne_eq, not_true_eq_false, or_false]
  · rw [if_neg mined]
    simp only [blockFields, List.map_cons, List.map_nil, List.foldl_cons, List.foldl_nil, put]
    simp only [Draft.putNumber, draft, Draft.mk.injEq, true_and, and_true]
    funext field
    cases field <;> simp [mined]

theorem find?_negative_eq_none_iff :
    (numberFields.find? fun field => record.number field < 0) = none ↔
      ∀ field, ¬record.number field < 0 := by
  have every (field : NumberField) : field ∈ numberFields := by cases field <;> decide
  simp [every]

/-- A record has a bundle just if none of its numbers is negative and its draft can be built. -/
theorem toBundle_eq_ok_iff :
    record.toBundle = .ok bundle ↔
      (∀ field, ¬record.number field < 0) ∧ record.draft.build = .ok bundle := by
  unfold toBundle
  split
  · next field found =>
    refine iff_of_false nofun fun both => ?_
    rw [find?_negative_eq_none_iff.2 both.1] at found
    cases found
  · next none =>
    have nonnegative := find?_negative_eq_none_iff.1 none
    rw [applyAll_settings nonnegative, and_iff_right nonnegative]

/-- What is known of the bundle of a record, if it is known to have one. -/
theorem exists_of_map_toBundle {α : Type} {f : TransferBundle → α} {result : α}
    (mapped : record.toBundle.map f = .ok result) :
    ∃ bundle, record.toBundle = .ok bundle ∧ f bundle = result := by
  cases converted : record.toBundle with
  | error fault =>
    rw [converted] at mapped
    cases mapped
  | ok bundle =>
    rw [converted] at mapped
    exact ⟨bundle, rfl, Except.ok.inj mapped⟩

/-! ## Block heights -/

theorem blockHeight_of_toBundle (converted : record.toBundle = .ok bundle) :
    bundle.blockHeight = record.draft.numbers .blockHeight := by
  obtain ⟨-, built⟩ := toBundle_eq_ok_iff.1 converted
  obtain ⟨-, amount, fee, rfl⟩ := Draft.build_eq_ok built
  rfl

/-- The block height of a bundle is that of its record, of which zero stands for none. -/
theorem blockHeight_getD_of_toBundle (converted : record.toBundle = .ok bundle) :
    ((bundle.blockHeight.getD 0).toNat : Int) = record.blockHeight.toInt := by
  obtain ⟨nonnegative, -⟩ := toBundle_eq_ok_iff.1 converted
  have height : ¬record.blockHeight < 0 := nonnegative .blockHeight
  obtain ⟨word, fits, same⟩ := exists_uint64 height
  rw [blockHeight_of_toBundle converted, draft]
  by_cases mined : record.blockHeight = 0
  · simp [mined]
  · simp [mined, number, fits, same]

/-- No bundle of a record is of a transfer in a block of height zero. -/
theorem blockHeight_pos_of_toBundle (converted : record.toBundle = .ok bundle) {height : UInt64}
    (mined : bundle.blockHeight = some height) : 0 < height.toNat := by
  have same := blockHeight_getD_of_toBundle converted
  rw [mined, Option.getD_some] at same
  rw [blockHeight_of_toBundle converted, draft] at mined
  by_cases missing : record.blockHeight = 0
  · simp [missing] at mined
  · have present : record.blockHeight.toInt ≠ 0 := fun zero =>
      missing (Int64.toInt_inj.1 (zero.trans Int64.toInt_zero.symm))
    omega

/-- A transfer of one unit of a currency in a block, as a client delivers it that knows no fee. -/
def ofOneUnit (hash source target currency : String) (blockHeight : Int64) : ClientRecord where
  status := .included
  hash := hash
  identifier := ""
  uids := ""
  source := source
  target := target
  amount := "1"
  currency := currency
  fee := ""
  transferIndex := 0
  blockTimestamp := 0
  blockHeight := blockHeight
  blockConfirmations := 0
  blockTransactionIndex := 0
  blockHash := ""
  metadata := .empty

end WalletLedger.ClientRecord
