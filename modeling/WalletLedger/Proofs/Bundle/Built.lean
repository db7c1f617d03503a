import WalletLedger.Proofs.Amount.Grammar
import WalletLedger.Proofs.TextMap

/-!
# Bundles that were built

Every bundle comes from a draft, whatever settings led to it. What building
checks therefore holds of every bundle: it has a hash or a correlation id, the
names under which its transfer is known are not empty, and none of its texts has
the character number zero in it.
-/

namespace WalletLedger

/-- A bundle that some sequence of settings leads to. -/
def TransferBundle.IsBuilt (bundle : TransferBundle) : Prop :=
  ∃ (status : TransferStatus) (settings : List Setting),
    ((Draft.ofStatus status).applyAll settings).build = .ok bundle

namespace Draft

/-- What a draft that is built passes, and what comes of it. -/
theorem build_eq_ok {draft : Draft} {bundle : TransferBundle} (built : draft.build = .ok bundle) :
    draft.flaw? = none ∧ ∃ amount fee, bundle = draft.bundleWith amount fee := by
  unfold build at built
  split at built
  · cases built
  · next flawless =>
    cases amount : DecimalAmount.parse "amount" (draft.texts .amount) with
    | error fault =>
      rw [amount] at built
      cases built
    | ok units =>
      cases fee : draft.fee? with
      | error fault =>
        rw [amount, fee] at built
        cases built
      | ok charge =>
        rw [amount, fee] at built
        cases built
        exact ⟨flawless, units, charge, rfl⟩

theorem present?_isSome {draft : Draft} {field : TextField} (filled : draft.texts field ≠ "") :
    (draft.present? field).isSome = true := by
  rw [present?, if_neg filled, Option.isSome_some]

theorem present?_eq_some {draft : Draft} {field : TextField} {text : String}
    (present : draft.present? field = some text) : text ≠ "" ∧ draft.texts field = text := by
  unfold present? at present
  split at present
  · cases present
  · next filled =>
    cases present
    exact ⟨filled, rfl⟩

/-! ## Drafts without flaws -/

theorem nulFlaw?_eq_none_iff {field value : String} :
    nulFlaw? field value = none ↔ hasNul value = false := by
  simp [nulFlaw?]

theorem textFlaw?_eq_none_iff {draft : Draft} :
    draft.textFlaw? = none ↔ ∀ field, hasNul (draft.texts field) = false := by
  have every (field : TextField) : field ∈ TextField.all := by cases field <;> decide
  simp [textFlaw?, nulFlaw?_eq_none_iff, every]

theorem metadataFlaw?_eq_none_iff {draft : Draft} :
    draft.metadataFlaw? = none ↔ ∀ text ∈ draft.metadata.texts, hasNul text = false := by
  simp only [metadataFlaw?, List.findSome?_eq_none_iff, Option.or_eq_none_iff,
    nulFlaw?_eq_none_iff, TextMap.mem_texts_iff]
  constructor
  · intro clean text mem
    obtain ⟨entry, among, rfl | rfl⟩ := mem
    · exact (clean entry among).1
    · exact (clean entry among).2
  · intro clean entry among
    exact ⟨clean _ ⟨entry, among, .inl rfl⟩, clean _ ⟨entry, among, .inr rfl⟩⟩

theorem identityFlaw?_eq_none_iff {draft : Draft} :
    draft.identityFlaw? = none ↔ draft.texts .hash ≠ "" ∨ draft.texts .uids ≠ "" := by
  simp [identityFlaw?, Classical.or_iff_not_imp_left]

/-- A draft has no flaw if no setting failed, no text of it has the character number zero in it, and
it has a hash or a correlation id. -/
theorem flaw?_eq_none_iff {draft : Draft} :
    draft.flaw? = none ↔
      draft.fault = none ∧ (∀ field, hasNul (draft.texts field) = false) ∧
        (∀ text ∈ draft.metadata.texts, hasNul text = false) ∧
          (draft.texts .hash ≠ "" ∨ draft.texts .uids ≠ "") := by
  rw [flaw?, Option.or_eq_none_iff, Option.or_eq_none_iff, Option.or_eq_none_iff,
    textFlaw?_eq_none_iff, metadataFlaw?_eq_none_iff, identityFlaw?_eq_none_iff]

end Draft

/-! ## What building checks -/

namespace TransferBundle

/-- The texts of a bundle. -/
def texts (bundle : TransferBundle) : List String :=
  bundle.hash.toList ++ bundle.identifier.toList ++ bundle.uids.toList ++
    [bundle.source, bundle.target, bundle.amount.text, bundle.currency] ++
      (bundle.fee.map DecimalAmount.text).toList ++ bundle.blockHash.toList ++ bundle.metadata.texts

variable {bundle : TransferBundle}

theorem mem_texts_of_metadataValue? {key value : String}
    (given : bundle.metadataValue? key = some value) : value ∈ bundle.texts := by
  obtain ⟨spelling, entry, -⟩ := TextMap.exists_of_findValue? given
  apply List.mem_append_right
  exact TextMap.mem_texts_iff.2 ⟨_, entry, .inr rfl⟩

theorem IsBuilt.exists_draft (built : bundle.IsBuilt) :
    ∃ draft amount fee, Draft.flaw? draft = none ∧ bundle = draft.bundleWith amount fee := by
  obtain ⟨status, settings, built⟩ := built
  obtain ⟨flawless, amount, fee, rfl⟩ := Draft.build_eq_ok built
  exact ⟨_, amount, fee, flawless, rfl⟩

/-- A bundle that was built has a hash or a correlation id. -/
theorem IsBuilt.identified (built : bundle.IsBuilt) : bundle.hash.isSome ∨ bundle.uids.isSome := by
  obtain ⟨draft, amount, fee, flawless, rfl⟩ := built.exists_draft
  obtain ⟨-, -, -, identity⟩ := Draft.flaw?_eq_none_iff.1 flawless
  exact identity.imp Draft.present?_isSome Draft.present?_isSome

/-- The names under which a transfer is known are not empty. -/
theorem IsBuilt.filled (built : bundle.IsBuilt) :
    ∀ name ∈ [bundle.hash, bundle.uids, bundle.identifier], name ≠ some "" := by
  obtain ⟨draft, amount, fee, -, rfl⟩ := built.exists_draft
  have filled (field : TextField) : draft.present? field ≠ some "" := fun present =>
    (Draft.present?_eq_some present).1 rfl
  simpa [Draft.bundleWith] using ⟨filled .hash, filled .uids, filled .identifier⟩

/-- No text of a bundle that was built has the character number zero in it. -/
theorem IsBuilt.clean (built : bundle.IsBuilt) : ∀ text ∈ bundle.texts, hasNul text = false := by
  obtain ⟨draft, amount, fee, flawless, rfl⟩ := built.exists_draft
  obtain ⟨-, texts, metadata, -⟩ := Draft.flaw?_eq_none_iff.1 flawless
  have present {field : TextField} {text : String} (found : draft.present? field = some text) :
      hasNul text = false := (Draft.present?_eq_some found).2 ▸ texts field
  intro text mem
  simp only [TransferBundle.texts, Draft.bundleWith, List.mem_append, Option.mem_toList,
    List.mem_cons, List.not_mem_nil, or_false, Option.map_eq_some_iff] at mem
  rcases mem with (((((hash | identifier) | uids) | rfl | rfl | rfl | rfl) | ⟨fee, -, rfl⟩)
    | blockHash) | entry
  · exact present hash
  · exact present identifier
  · exact present uids
  · exact texts .source
  · exact texts .target
  · exact amount.hasNul_text
  · exact texts .currency
  · exact fee.hasNul_text
  · exact present blockHash
  · exact metadata text entry

end TransferBundle

/-- A submitted transfer of one unit of a currency, as a source reports it that knows neither a
block nor a fee. -/
def TransferBundle.ofOneUnit (hash uids : Option String) (source target currency : String) :
    TransferBundle where
  status := .submitted
  hash := hash
  identifier := none
  uids := uids
  source := source
  target := target
  amount := ⟨"1", by decide +kernel⟩
  currency := currency
  fee := none
  transferIndex := 0
  blockTimestamp := none
  blockHeight := none
  blockConfirmations := none
  blockTransactionIndex := none
  blockHash := none
  metadata := .empty

end WalletLedger
