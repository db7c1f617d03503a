import WalletLedger.Proofs.Bundle.Converted
import WalletLedger.Proofs.Bundle.Settings

/-!
# Records and their bundles

A record with a negative number is refused for the first one, in the order in
which the numbers are checked and whether or not the number would be used. Any
other record has a bundle just if its texts are sound, and then nothing of it is
changed: what the bundle lacks is an empty text of the record, or a number of a
block where the record says that there is none.

Main statement: `faithful_or_refused`.
-/

namespace WalletLedger

/-! ## Sound texts -/

/-- Texts and metadata of which a bundle can be made. -/
structure SoundTexts (texts : TextField → String) (metadata : TextMap) : Prop where
  clean : ∀ field, hasNul (texts field) = false
  cleanMetadata : ∀ text ∈ metadata.texts, hasNul text = false
  identified : texts .hash ≠ "" ∨ texts .uids ≠ ""
  amount : IsDecimal (texts .amount).toList
  fee : texts .fee = "" ∨ IsDecimal (texts .fee).toList

theorem head?_amountComplaints_eq_none_iff {field text : String} :
    (amountComplaints field text).head? = none ↔ IsDecimal text.toList := by
  simp [amountComplaints]

/-- The texts of a draft without a fault are sound just if there is no complaint about them. -/
theorem Draft.soundTexts_iff {draft : Draft} (faultless : draft.fault = none) :
    SoundTexts draft.texts draft.metadata ↔
      (complaints draft.texts draft.metadata).head? = none := by
  have fee : (if draft.texts .fee = "" then []
      else amountComplaints "fee" (draft.texts .fee)).head? = none ↔
        draft.texts .fee = "" ∨ IsDecimal (draft.texts .fee).toList := by
    split
    · next free => simp [free]
    · next charged => rw [head?_amountComplaints_eq_none_iff, or_iff_right charged]
  rw [head?_complaints faultless, Option.or_eq_none_iff, Option.or_eq_none_iff, flaw?_eq_none_iff,
    head?_amountComplaints_eq_none_iff, fee]
  constructor
  · intro sound
    exact ⟨⟨faultless, sound.clean, sound.cleanMetadata, sound.identified⟩, sound.amount, sound.fee⟩
  · intro clear
    obtain ⟨⟨-, clean, cleanMetadata, identified⟩, amount, fee⟩ := clear
    exact ⟨clean, cleanMetadata, identified, amount, fee⟩

/-- A draft without a fault that is built has sound texts, and the bundle has its amounts. -/
theorem Draft.sound_of_build {draft : Draft} (faultless : draft.fault = none)
    {bundle : TransferBundle} (built : draft.build = .ok bundle) :
    SoundTexts draft.texts draft.metadata ∧ ∃ amount fee, bundle = draft.bundleWith amount fee ∧
      amount.text = draft.texts .amount ∧
        fee.map DecimalAmount.text = filled? (draft.texts .fee) := by
  cases first : (complaints draft.texts draft.metadata).head? with
  | some complaint =>
    rw [build_of_complaint faultless first] at built
    cases built
  | none =>
    obtain ⟨amount, fee, same, read, charged⟩ := exists_build faultless first
    rw [same] at built
    cases built
    exact ⟨(soundTexts_iff faultless).2 first, amount, fee, rfl, read, charged⟩

/-! ## What a bundle conveys -/

/-- A number of a record as one of a block. A record without a block height has none. -/
def ClientRecord.inBlock? (record : ClientRecord) (n : Int64) : Option Int :=
  if record.blockHeight = 0 then none else some n.toInt

/-- A bundle says what a record says. Texts that may be missing are missing if they are empty, and
the numbers of a block are missing if there is no block height. -/
structure TransferBundle.Conveys (bundle : TransferBundle) (record : ClientRecord) : Prop where
  status : bundle.status = record.status
  hash : bundle.hash = filled? record.hash
  identifier : bundle.identifier = filled? record.identifier
  uids : bundle.uids = filled? record.uids
  source : bundle.source = record.source
  target : bundle.target = record.target
  amount : bundle.amount.text = record.amount
  currency : bundle.currency = record.currency
  fee : bundle.fee.map DecimalAmount.text = filled? record.fee
  transferIndex : (bundle.transferIndex.toNat : Int) = record.transferIndex.toInt
  blockHeight :
    bundle.blockHeight.map (·.toNat : UInt64 → Int) = record.inBlock? record.blockHeight
  blockTimestamp :
    bundle.blockTimestamp.map (·.toNat : UInt64 → Int) = record.inBlock? record.blockTimestamp
  blockConfirmations :
    bundle.blockConfirmations.map (·.toNat : UInt64 → Int) =
      record.inBlock? record.blockConfirmations
  blockTransactionIndex :
    bundle.blockTransactionIndex.map (·.toNat : UInt64 → Int) =
      record.inBlock? record.blockTransactionIndex
  blockHash : bundle.blockHash = filled? record.blockHash
  metadata : bundle.metadata = record.metadata

namespace ClientRecord

variable {record : ClientRecord} {bundle : TransferBundle}

/-- The numbers that a draft has are those of the record. -/
theorem map_numbers_draft (nonnegative : ∀ field, ¬record.number field < 0) (field : NumberField) :
    (record.draft.numbers field).map (·.toNat : UInt64 → Int) =
      if field = .transferIndex then some (record.number field).toInt
      else record.inBlock? (record.number field) := by
  obtain ⟨word, fits, same⟩ := exists_uint64 (nonnegative field)
  by_cases ofTransfer : field = .transferIndex
  · subst ofTransfer
    simp [draft, fits, same]
  · by_cases mined : record.blockHeight = 0
    · simp [draft, inBlock?, ofTransfer, mined]
    · simp [draft, inBlock?, ofTransfer, mined, fits, same]

/-- With a block height, a number of a block that a bundle has from a record is the record's. -/
theorem exists_of_inBlock? (height : record.blockHeight ≠ 0) {number : Option UInt64} {n : Int64}
    (same : number.map (·.toNat : UInt64 → Int) = record.inBlock? n) :
    ∃ word, number = some word ∧ (word.toNat : Int) = n.toInt := by
  rw [inBlock?, if_neg height] at same
  exact Option.map_eq_some_iff.1 same

/-- Without a block height, a bundle has no number of a block. -/
theorem eq_none_of_inBlock? (noHeight : record.blockHeight = 0) {number : Option UInt64} {n : Int64}
    (same : number.map (·.toNat : UInt64 → Int) = record.inBlock? n) : number = none := by
  rw [inBlock?, if_pos noHeight] at same
  exact Option.map_eq_none_iff.1 same

/-- The bundle of a record conveys it. -/
theorem conveys_of_toBundle (converted : record.toBundle = .ok bundle) :
    bundle.Conveys record := by
  obtain ⟨nonnegative, built⟩ := toBundle_eq_ok_iff.1 converted
  obtain ⟨-, amount, fee, rfl, read, charged⟩ := Draft.sound_of_build rfl built
  have numbers := map_numbers_draft nonnegative
  obtain ⟨index, given, same⟩ := Option.map_eq_some_iff.1 (numbers .transferIndex)
  exact {
    status := rfl
    hash := rfl
    identifier := rfl
    uids := rfl
    source := rfl
    target := rfl
    amount := read
    currency := rfl
    fee := charged
    transferIndex := by
      rw [Draft.bundleWith, given]
      exact same
    blockHeight := numbers .blockHeight
    blockTimestamp := numbers .blockTimestamp
    blockConfirmations := numbers .blockConfirmations
    blockTransactionIndex := numbers .blockTransactionIndex
    blockHash := rfl
    metadata := rfl }

/-! ## Which records are converted -/

/-- A record has a bundle just if its numbers are not negative and its texts are sound. -/
theorem exists_toBundle_iff :
    (∃ bundle, record.toBundle = .ok bundle) ↔
      (∀ field, 0 ≤ (record.number field).toInt) ∧ SoundTexts record.text record.metadata := by
  have faultless : record.draft.fault = none := rfl
  simp only [toBundle_eq_ok_iff, exists_and_left, not_negative_iff]
  refine and_congr_right fun _ => ?_
  constructor
  · intro converted
    obtain ⟨bundle, built⟩ := converted
    exact (Draft.sound_of_build faultless built).1
  · intro sound
    have clear := (Draft.soundTexts_iff faultless).1 sound
    obtain ⟨amount, fee, built, -⟩ := Draft.exists_build faultless clear
    exact ⟨_, built⟩

/-- The first negative number is what a record is refused for. -/
theorem toBundle_of_negative {before after : List NumberField} {field : NumberField}
    (order : numberFields = before ++ field :: after)
    (earlier : ∀ other ∈ before, 0 ≤ (record.number other).toInt)
    (negative : (record.number field).toInt < 0) :
    record.toBundle = .error (.outOfRange field.name) := by
  have found : (numberFields.find? fun field => record.number field < 0) = some field := by
    refine List.find?_eq_some_iff_append.2 ⟨?_, before, after, order, fun other mem => ?_⟩
    · rwa [decide_eq_true_eq, Int64.lt_iff_toInt_lt]
    · simpa using not_negative_iff.2 (earlier other mem)
  rw [toBundle, found]

/-- A record is refused for a block time that would not be used, its block height being zero. -/
example :
    { ofOneUnit "h" "them" "me" "btc" 0 with blockTimestamp := -1 }.toBundle =
      .error (.outOfRange "block_timestamp") := rfl

/-- A record is converted faithfully or refused: for the first of its numbers that is negative,
whatever else there is and also without a block; and otherwise just if its texts are not sound. -/
theorem faithful_or_refused (record : ClientRecord) :
    (∀ before field after,
      [.transferIndex, .blockHeight, .blockTimestamp, .blockConfirmations,
        .blockTransactionIndex] = before ++ field :: after →
      (∀ other ∈ before, 0 ≤ (record.number other).toInt) → (record.number field).toInt < 0 →
        record.toBundle = .error (.outOfRange field.name)) ∧
    ((∃ bundle, record.toBundle = .ok bundle) ↔
      (∀ field, 0 ≤ (record.number field).toInt) ∧ SoundTexts record.text record.metadata) ∧
    ∀ bundle, record.toBundle = .ok bundle → bundle.Conveys record := by
  refine ⟨fun before field after order earlier negative => ?_, exists_toBundle_iff,
    fun bundle converted => conveys_of_toBundle converted⟩
  exact toBundle_of_negative order earlier negative

end ClientRecord

end WalletLedger
