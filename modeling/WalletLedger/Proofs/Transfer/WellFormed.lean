import WalletLedger.Proofs.Transfer.Attributes
import WalletLedger.Proofs.Transfer.Merge
import Mathlib.Tactic.Tauto

/-!
# Well-formed records

What holds of a record whatever bundles it was made of, as long as each of them
was built. A merge mixes a record with the one that the bundle would have made:
every text comes from one of the two, and the state comes from the second one,
whose fee takes the place of the first one's. So `WellFormed.merge` asks nothing of
the bundle but that the record it would have made is well formed.
-/

namespace WalletLedger

/-! ## States -/

namespace TransferState

/-- The texts of a state. -/
def texts : TransferState → List String
  | included inclusion => (inclusion.fee.map DecimalAmount.text).toList ++ inclusion.error.toList
  | errored reason => [reason]
  | created | signed | submitted | deleted => []

variable {bundle : TransferBundle}

theorem ofBundle_eq_included {inclusion : Inclusion}
    (state : ofBundle bundle = .included inclusion) : inclusion = inclusionOf bundle := by
  unfold ofBundle at state
  split at state
  · cases state
    rfl
  · cases status : bundle.status <;> rw [status] at state <;> cases state

theorem ofBundle_eq_errored {reason : String} (state : ofBundle bundle = .errored reason) :
    reason = (bundle.metadataValue? "error").getD unknownError := by
  unfold ofBundle at state
  split at state
  · cases state
  · cases status : bundle.status <;> rw [status] at state <;> cases state
    rfl

theorem error_inclusionOf :
    ((inclusionOf bundle).success = false ↔ (inclusionOf bundle).error.isSome = true) ∧
      ∀ reason, (inclusionOf bundle).error = some reason → reason = unknownError := by
  unfold inclusionOf
  by_cases status : bundle.status = .included
  · simp [status]
  · simp [status]

/-- The texts of the state that a bundle describes are its fee and the reason of a failure. -/
theorem mem_texts_ofBundle {text : String} (mem : text ∈ (ofBundle bundle).texts) :
    text ∈ bundle.texts ∨ text = unknownError := by
  cases state : ofBundle bundle with
  | included inclusion =>
    have described := ofBundle_eq_included state
    rw [state, described, texts, List.mem_append, Option.mem_toList, Option.mem_toList] at mem
    rcases mem with fee | error
    · left
      change bundle.fee.map DecimalAmount.text = some text at fee
      simp [TransferBundle.texts, fee]
    · exact .inr (error_inclusionOf.2 text error)
  | errored reason =>
    rw [state, texts, List.mem_singleton, ofBundle_eq_errored state] at mem
    cases given : bundle.metadataValue? "error" with
    | none =>
      rw [given] at mem
      exact .inr mem
    | some value =>
      rw [given] at mem
      exact .inl (mem ▸ TransferBundle.mem_texts_of_metadataValue? given)
  | created | signed | submitted | deleted =>
    rw [state] at mem
    cases mem

end TransferState

namespace TransferRecord

/-- The texts of a record. -/
def texts (record : TransferRecord) : List String :=
  record.uids.toList ++ record.hash.toList ++ record.identifier.toList ++
    [record.source, record.target, record.amount.text, record.currency] ++
      (record.fee.map DecimalAmount.text).toList ++ record.state.texts ++ record.attributes.texts

/-- What holds of every record of a wallet on a network, its direction aside. -/
structure WellFormed (network : Network) (record : TransferRecord) : Prop where
  identified : record.hash.isSome ∨ record.uids.isSome
  filled : ∀ name ∈ [record.hash, record.uids, record.identifier], name ≠ some ""
  clean : ∀ text ∈ record.texts, hasNul text = false
  amount : IsDecimal record.amount.text.toList
  fee : ∀ fee, record.fee = some fee → IsDecimal fee.text.toList
  attributes : ∀ entry ∈ record.attributes.entries, entry.1 ∈ network.attributeKeys
  /-- The fee of a transfer in a block is that of its record. -/
  charged : ∀ inclusion fee, record.state = .included inclusion → inclusion.fee = some fee →
    record.fee = some fee
  /-- A transfer in a block failed just if there is an error, and then it is the unknown one. -/
  outcome : ∀ inclusion, record.state = .included inclusion →
    (inclusion.success = false ↔ inclusion.error.isSome = true) ∧
      ∀ reason, inclusion.error = some reason → reason = "unknown"

variable {network : Network} {direction : TransferDirection} {bundle : TransferBundle}
  {record : TransferRecord}

/-! ## Records from bundles -/

theorem mem_recoverAttributes {entry : String × String}
    (mem : entry ∈ (recoverAttributes bundle network).entries) :
    entry.1 ∈ network.attributeKeys ∧ bundle.metadataValue? entry.1 = some entry.2 :=
  get?_recoverAttributes_iff.1 (TextMap.mem_entries_iff.1 mem)

/-- The texts of the record that a bundle makes are those of the bundle, the reason of a failure that
comes without one, and keys of the network. -/
theorem mem_texts_ofBundle {text : String} (mem : text ∈ (ofBundle bundle network direction).texts) :
    text ∈ bundle.texts ∨ text = TransferState.unknownError ∨ text ∈ network.attributeKeys := by
  simp only [texts, List.mem_append] at mem
  rcases mem with (own | state) | entry
  · left
    simp only [ofBundle, TransferBundle.texts, List.mem_append] at own ⊢
    tauto
  · rcases TransferState.mem_texts_ofBundle state with given | unknown
    · exact .inl given
    · exact .inr (.inl unknown)
  · obtain ⟨entry, among, key | value⟩ := TextMap.mem_texts_iff.1 entry
    · exact .inr (.inr (key ▸ (mem_recoverAttributes among).1))
    · have given := TransferBundle.mem_texts_of_metadataValue? (mem_recoverAttributes among).2
      exact .inl (value ▸ given)

theorem hasNul_attributeKeys : ∀ key ∈ network.attributeKeys, hasNul key = false := by
  cases network <;> decide

theorem ofBundle_wellFormed (built : bundle.IsBuilt) :
    (ofBundle bundle network direction).WellFormed network where
  identified := built.identified
  filled := built.filled
  clean := by
    intro text mem
    rcases mem_texts_ofBundle mem with given | rfl | key
    · exact built.clean text given
    · decide
    · exact hasNul_attributeKeys text key
  amount := bundle.amount.isDecimal_text
  fee fee _ := fee.isDecimal_text
  attributes := fun _ among => (mem_recoverAttributes among).1
  charged := by
    intro inclusion fee state given
    rw [TransferState.ofBundle_eq_included state] at given
    exact given
  outcome := by
    intro inclusion state
    rw [TransferState.ofBundle_eq_included state]
    exact TransferState.error_inclusionOf

/-! ## Merged records -/

/-- The texts of a merged record are those of the record before and of the one that the bundle
makes. -/
theorem mem_texts_merge (direction : TransferDirection) {text : String}
    (mem : text ∈ (record.merge bundle network).texts) :
    text ∈ record.texts ∨ text ∈ (ofBundle bundle network direction).texts := by
  -- where a text stands in the merged record tells which of the two it comes from
  simp only [texts, merge, ofBundle, List.mem_append, Option.mem_toList,
    Option.map_eq_some_iff] at mem ⊢
  rcases mem with (((((uids | hash) | identifier) | fixed) | ⟨fee, charged, rfl⟩) | state)
    | entry
  · rcases Option.or_eq_some_iff.1 uids with given | ⟨-, known⟩ <;> tauto
  · rcases Option.or_eq_some_iff.1 hash with known | ⟨-, given⟩ <;> tauto
  · rcases Option.or_eq_some_iff.1 identifier with known | ⟨-, given⟩ <;> tauto
  · tauto
  · rcases Option.or_eq_some_iff.1 charged with given | ⟨-, known⟩
    · exact .inr (.inl (.inl (.inr ⟨fee, given, rfl⟩)))
    · exact .inl (.inl (.inl (.inr ⟨fee, known, rfl⟩)))
  · tauto
  · obtain ⟨entry, among, part⟩ := TextMap.mem_texts_iff.1 entry
    rcases TextMap.mem_insertAll among with known | given
    · exact .inl (.inr (TextMap.mem_texts_iff.2 ⟨entry, known, part⟩))
    · exact .inr (.inr (TextMap.mem_texts_iff.2 ⟨entry, given, part⟩))

theorem WellFormed.merge (known : record.WellFormed network)
    (seen : (ofBundle bundle network direction).WellFormed network) :
    (record.merge bundle network).WellFormed network where
  identified := by
    rcases known.identified with hash | uids
    · left
      rw [merge_hash, Option.isSome_or, hash, Bool.true_or]
    · right
      rw [merge_uids, Option.isSome_or, uids, Bool.or_true]
  filled := by
    have before := known.filled
    have given := seen.filled
    simp only [List.forall_mem_cons] at before given ⊢
    obtain ⟨hash, uids, identifier, -⟩ := before
    obtain ⟨newHash, newUids, newIdentifier, -⟩ := given
    have either {first second : Option String} (one : first ≠ some "") (other : second ≠ some "") :
        first.or second ≠ some "" := by
      intro empty
      rcases Option.or_eq_some_iff.1 empty with left | ⟨-, right⟩
      · exact one left
      · exact other right
    exact ⟨either hash newHash, either newUids uids, either identifier newIdentifier,
      List.forall_mem_nil _⟩
  clean := by
    intro text mem
    rcases mem_texts_merge direction mem with before | given
    · exact known.clean text before
    · exact seen.clean text given
  amount := known.amount
  fee fee _ := fee.isDecimal_text
  attributes := by
    intro entry mem
    rcases TextMap.mem_insertAll mem with before | given
    · exact known.attributes entry before
    · exact seen.attributes entry given
  charged := by
    intro inclusion fee state paid
    have spent : bundle.fee = some fee := seen.charged inclusion fee state paid
    change bundle.fee.or record.fee = some fee
    rw [spent, Option.some_or]
  outcome := seen.outcome

end TransferRecord

end WalletLedger
