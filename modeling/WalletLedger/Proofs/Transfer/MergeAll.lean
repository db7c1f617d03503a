import WalletLedger.Proofs.Bundle.Built
import WalletLedger.Proofs.Transfer.Merge
import Mathlib.Data.List.Induction

/-!
# Merging many bundles

What a record comes to after a list of bundles, field by field. Of hashes and
identifiers the first one that is present stays; of correlation ids, fees and
values of an attribute the last one counts; the state is that of the last bundle.

Every field thus depends only on where in the list it is given first or last, and
a second pass through the same list gives it nowhere else: `mergeAll_mergeAll`.
`Collects` puts the fields together, and `eq_mergeAll_iff` says that they are all
there is to say.
-/

namespace WalletLedger

/-! ## First and last values -/

section Values

variable {α β : Type} (value : α → Option β)

theorem foldl_or_eq_findSome? (start : Option β) (list : List α) :
    list.foldl (fun first a => first.or (value a)) start = start.or (list.findSome? value) := by
  induction list generalizing start with
  | nil => exact Option.or_none.symm
  | cons head rest ih =>
    rw [List.foldl_cons, ih, List.findSome?_cons, Option.or_assoc]
    cases value head <;> rfl

theorem foldl_or_eq_findSome?_reverse (start : Option β) (list : List α) :
    list.foldl (fun last a => (value a).or last) start =
      (list.reverse.findSome? value).or start := by
  induction list generalizing start with
  | nil => rfl
  | cons head rest ih =>
    rw [List.foldl_cons, ih, List.reverse_cons, List.findSome?_append, Option.or_assoc]
    cases known : value head <;> simp [known]

end Values

namespace TransferRecord

/-! ## Fields after many bundles -/

/-- The record after later bundles of the same transfer, the first one first. -/
def mergeAll (record : TransferRecord) (bundles : List TransferBundle) (network : Network) :
    TransferRecord :=
  bundles.foldl (fun record bundle => record.merge bundle network) record

variable (record : TransferRecord) (bundles : List TransferBundle) (network : Network)

theorem mergeAll_append (later : List TransferBundle) :
    record.mergeAll (bundles ++ later) network =
      (record.mergeAll bundles network).mergeAll later network :=
  List.foldl_append

/-- A field that a merge computes from the bundle and from what it was before is a fold of its own. -/
theorem mergeAll_field {α : Type} (field : TransferRecord → α) (next : α → TransferBundle → α)
    (step : ∀ record bundle, next (field record) bundle = field (record.merge bundle network)) :
    field (record.mergeAll bundles network) = bundles.foldl next (field record) :=
  (List.foldl_hom field step).symm

theorem mergeAll_kept {α : Type} (field : TransferRecord → α)
    (kept : ∀ record bundle, field (TransferRecord.merge record bundle network) = field record) :
    field (record.mergeAll bundles network) = field record := by
  induction bundles generalizing record with
  | nil => rfl
  | cons bundle rest ih => exact (ih _).trans (kept record bundle)

theorem mergeAll_hash :
    (record.mergeAll bundles network).hash = record.hash.or (bundles.findSome? (·.hash)) := by
  rw [mergeAll_field record bundles network hash fun hash bundle => hash.or bundle.hash]
  · exact foldl_or_eq_findSome? TransferBundle.hash record.hash bundles
  · exact fun _ _ => rfl

theorem mergeAll_identifier :
    (record.mergeAll bundles network).identifier =
      record.identifier.or (bundles.findSome? (·.identifier)) := by
  rw [mergeAll_field record bundles network identifier fun known bundle =>
    known.or bundle.identifier]
  · exact foldl_or_eq_findSome? TransferBundle.identifier record.identifier bundles
  · exact fun _ _ => rfl

theorem mergeAll_uids :
    (record.mergeAll bundles network).uids =
      (bundles.reverse.findSome? (·.uids)).or record.uids := by
  rw [mergeAll_field record bundles network uids fun uids bundle => bundle.uids.or uids]
  · exact foldl_or_eq_findSome?_reverse TransferBundle.uids record.uids bundles
  · exact fun _ _ => rfl

theorem mergeAll_fee :
    (record.mergeAll bundles network).fee = (bundles.reverse.findSome? (·.fee)).or record.fee := by
  rw [mergeAll_field record bundles network fee fun fee bundle => bundle.fee.or fee]
  · exact foldl_or_eq_findSome?_reverse TransferBundle.fee record.fee bundles
  · exact fun _ _ => rfl

theorem mergeAll_state :
    (record.mergeAll bundles network).state =
      (bundles.getLast?.map TransferState.ofBundle).getD record.state := by
  induction bundles using List.reverseRecOn with
  | nil => rfl
  | append_singleton bundles bundle =>
    rw [mergeAll_append, List.getLast?_concat]
    rfl

theorem get?_mergeAll_attributes (key : String) :
    (record.mergeAll bundles network).attributes.get? key =
      (bundles.reverse.findSome? fun bundle => (recoverAttributes bundle network).get? key).or
        (record.attributes.get? key) := by
  rw [mergeAll_field record bundles network (fun record => record.attributes.get? key)
    fun known bundle => ((recoverAttributes bundle network).get? key).or known]
  · exact foldl_or_eq_findSome?_reverse
      (fun bundle : TransferBundle => (recoverAttributes bundle network).get? key) _ bundles
  · exact fun record bundle => (TextMap.get?_insertAll_entries record.attributes _ key).symm

/-! ## A second pass -/

attribute [ext] TransferRecord

/-- Merging a list of bundles once more changes nothing, although the first bundles of the list may
change what the last ones then restore. -/
theorem mergeAll_mergeAll :
    (record.mergeAll bundles network).mergeAll bundles network =
      record.mergeAll bundles network := by
  have kept {α : Type} (field : TransferRecord → α)
      (same : ∀ record bundle, field (TransferRecord.merge record bundle network) = field record) :
      field ((record.mergeAll bundles network).mergeAll bundles network) =
        field (record.mergeAll bundles network) :=
    mergeAll_kept _ bundles network field same
  ext1
  case source => exact kept source fun _ _ => rfl
  case target => exact kept target fun _ _ => rfl
  case amount => exact kept amount fun _ _ => rfl
  case currency => exact kept currency fun _ _ => rfl
  case direction => exact kept direction fun _ _ => rfl
  case hash => rw [mergeAll_hash, mergeAll_hash, Option.or_assoc, Option.or_self]
  case identifier =>
    rw [mergeAll_identifier, mergeAll_identifier, Option.or_assoc, Option.or_self]
  case uids => rw [mergeAll_uids, mergeAll_uids, ← Option.or_assoc, Option.or_self]
  case fee => rw [mergeAll_fee, mergeAll_fee, ← Option.or_assoc, Option.or_self]
  case state =>
    rw [mergeAll_state, mergeAll_state]
    cases bundles.getLast? <;> rfl
  case attributes =>
    refine TextMap.ext_get? fun key => ?_
    rw [get?_mergeAll_attributes, get?_mergeAll_attributes, ← Option.or_assoc, Option.or_self]

/-- The bundle that made a record may be counted among those that are merged into it. -/
theorem mergeAll_ofBundle_cons (bundle : TransferBundle) (direction : TransferDirection) :
    (ofBundle bundle network direction).mergeAll (bundle :: bundles) network =
      (ofBundle bundle network direction).mergeAll bundles network := by
  change ((ofBundle bundle network direction).merge bundle network).mergeAll bundles network = _
  rw [ofBundle_merge_self]

/-- A bundle that comes twice in a row may as well come once. -/
theorem mergeAll_append_cons_cons (bundle : TransferBundle) (rest : List TransferBundle) :
    record.mergeAll (bundles ++ bundle :: bundle :: rest) network =
      record.mergeAll (bundles ++ bundle :: rest) network := by
  rw [mergeAll_append, mergeAll_append]
  change (((record.mergeAll bundles network).merge bundle network).merge bundle network).mergeAll
    rest network = _
  rw [merge_merge_self]
  rfl

/-! ## All fields together -/

/-- A record holds what an earlier state of it and a list of bundles say, field by field. -/
structure Collects (merged record : TransferRecord) (bundles : List TransferBundle)
    (network : Network) : Prop where
  source : merged.source = record.source
  target : merged.target = record.target
  amount : merged.amount = record.amount
  currency : merged.currency = record.currency
  direction : merged.direction = record.direction
  /-- The first hash that is present, that of the record before those of the bundles. -/
  hash : merged.hash = record.hash.or (bundles.findSome? (·.hash))
  identifier : merged.identifier = record.identifier.or (bundles.findSome? (·.identifier))
  /-- The last correlation id that is present, those of the bundles before that of the record. -/
  uids : merged.uids = (bundles.reverse.findSome? (·.uids)).or record.uids
  fee : merged.fee = (bundles.reverse.findSome? (·.fee)).or record.fee
  state : ∀ last, bundles.getLast? = some last → merged.state = .ofBundle last
  attributes : ∀ key, merged.attributes.get? key =
    (bundles.reverse.findSome? fun bundle => (recoverAttributes bundle network).get? key).or
      (record.attributes.get? key)

theorem collects_mergeAll : (record.mergeAll bundles network).Collects record bundles network where
  source := mergeAll_kept record bundles network TransferRecord.source fun _ _ => rfl
  target := mergeAll_kept record bundles network TransferRecord.target fun _ _ => rfl
  amount := mergeAll_kept record bundles network TransferRecord.amount fun _ _ => rfl
  currency := mergeAll_kept record bundles network TransferRecord.currency fun _ _ => rfl
  direction := mergeAll_kept record bundles network TransferRecord.direction fun _ _ => rfl
  hash := mergeAll_hash record bundles network
  identifier := mergeAll_identifier record bundles network
  uids := mergeAll_uids record bundles network
  fee := mergeAll_fee record bundles network
  state last ends := by
    rw [mergeAll_state, ends]
    rfl
  attributes := get?_mergeAll_attributes record bundles network

variable {record bundles network}

/-- The record and at least one bundle leave no field open. -/
theorem Collects.unique (nonempty : bundles ≠ []) {merged other : TransferRecord}
    (collects : merged.Collects record bundles network)
    (also : other.Collects record bundles network) : merged = other := by
  have ends : bundles.getLast? = some (bundles.getLast nonempty) :=
    List.getLast?_eq_some_getLast nonempty
  ext1
  case source => rw [collects.source, also.source]
  case target => rw [collects.target, also.target]
  case amount => rw [collects.amount, also.amount]
  case currency => rw [collects.currency, also.currency]
  case direction => rw [collects.direction, also.direction]
  case hash => rw [collects.hash, also.hash]
  case identifier => rw [collects.identifier, also.identifier]
  case uids => rw [collects.uids, also.uids]
  case fee => rw [collects.fee, also.fee]
  case state => rw [collects.state _ ends, also.state _ ends]
  case attributes =>
    refine TextMap.ext_get? fun key => ?_
    rw [collects.attributes, also.attributes]

/-- What merging comes to, given by its fields alone. A bundle that comes twice in a row may as well
come once. -/
theorem eq_mergeAll_iff (network : Network) (record merged : TransferRecord)
    (bundles : List TransferBundle) (nonempty : bundles ≠ []) :
    (merged = record.mergeAll bundles network ↔ merged.Collects record bundles network) ∧
      ∀ bundle before after,
        record.mergeAll (before ++ bundle :: bundle :: after) network =
          record.mergeAll (before ++ bundle :: after) network := by
  constructor
  · constructor
    · rintro rfl
      exact collects_mergeAll record bundles network
    · intro collects
      exact collects.unique nonempty (collects_mergeAll record bundles network)
  · intro bundle before after
    exact mergeAll_append_cons_cons record before network bundle after

/-- A payment known by its correlation id fails at a fee, which is reported twice and under another
correlation id, and is then confirmed under another hash. -/
theorem eq_mergeAll_iff_confirmed :
    let submitted := {
      TransferBundle.ofOneUnit none (some "u") "me" "them" "xrp" with
      metadata := TextMap.empty.insert "destinationtag" "7" }
    let failed := {
      TransferBundle.ofOneUnit (some "h") (some "v") "me" "them" "xrp" with
      status := .errored
      fee := some ⟨"0.000021", by decide +kernel⟩
      metadata := TextMap.empty.insert "DESTINATIONTAG" "8" }
    let confirmed := {
      TransferBundle.ofOneUnit (some "k") none "me" "them" "xrp" with
      status := .included
      blockHeight := some 7 }
    let record := ofBundle submitted .xrp .sent
    let merged := record.mergeAll [failed, confirmed] .xrp
    [failed, confirmed] ≠ [] ∧ merged.Collects record [failed, confirmed] .xrp ∧
      merged.hash = some "h" ∧ merged.uids = some "v" ∧ merged.fee = failed.fee ∧
      merged.state = .ofBundle confirmed ∧ merged.attributes.get? "DestinationTag" = some "8" ∧
      record.mergeAll [failed, failed, confirmed] .xrp = merged := by
  intro submitted failed confirmed record merged
  have nonempty : [failed, confirmed] ≠ [] := nofun
  obtain ⟨closed, twice⟩ := eq_mergeAll_iff .xrp record merged [failed, confirmed] nonempty
  have collects := closed.1 rfl
  have tag : merged.attributes.get? "DestinationTag" = some "8" := by decide
  exact ⟨nonempty, collects, collects.hash, collects.uids, collects.fee,
    collects.state confirmed rfl, tag, twice failed [] [confirmed]⟩

end TransferRecord

end WalletLedger
