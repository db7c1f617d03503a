import WalletLedger.Proofs.Transfer.Merge

/-!
# Absorbing bundles

The records of a wallet, in the order of their identifiers, as a list that takes
in one bundle after another. The first record of the transfer of a bundle merges
it; if there is none, the bundle makes a record at the end of the list, unless it
is none of the wallet's business.

* `Located` names the record that a bundle belongs to by its index.
* `absorb` is what becomes of the list, by recursion on it; `absorb_of_located`
  and `absorb_of_unknown` say the same by index.
* `getElem?_absorb_of_target_ne`: records of other targets stay as they are and
  where they are.
-/

namespace WalletLedger.Ledger

/-! ## The record of a bundle -/

/-- The record at an index is the first one of the transfer of a bundle. -/
structure Located (bundle : TransferBundle) (records : List TransferRecord) (index : Nat)
    (record : TransferRecord) : Prop where
  found : records[index]? = some record
  isOf : record.isOf bundle = true
  passed : ∀ earlier < index, ∀ other, records[earlier]? = some other → other.isOf bundle = false

/-- No record is of the transfer of a bundle. -/
def Unknown (bundle : TransferBundle) (records : List TransferRecord) : Prop :=
  ∀ record ∈ records, record.isOf bundle = false

theorem Located.target_eq {bundle : TransferBundle} {records : List TransferRecord} {index : Nat}
    {record : TransferRecord} (located : Located bundle records index record) :
    record.target = bundle.target :=
  TransferRecord.target_eq_of_isOf located.isOf

theorem not_unknown_of_mem {bundle : TransferBundle} {records : List TransferRecord}
    {record : TransferRecord} (mem : record ∈ records) (of : record.isOf bundle = true) :
    ¬Unknown bundle records := by
  intro unknown
  rw [unknown record mem] at of
  cases of

theorem Located.not_unknown {bundle : TransferBundle} {records : List TransferRecord} {index : Nat}
    {record : TransferRecord} (located : Located bundle records index record) :
    ¬Unknown bundle records :=
  not_unknown_of_mem (List.mem_of_getElem? located.found) located.isOf

theorem Located.head {bundle : TransferBundle} {record : TransferRecord}
    (of : record.isOf bundle = true) (rest : List TransferRecord) :
    Located bundle (record :: rest) 0 record :=
  ⟨rfl, of, fun _ earlier => absurd earlier (Nat.not_lt_zero _)⟩

theorem Located.cons {bundle : TransferBundle} {records : List TransferRecord} {index : Nat}
    {record head : TransferRecord} (other : head.isOf bundle = false)
    (located : Located bundle records index record) :
    Located bundle (head :: records) (index + 1) record := by
  refine ⟨located.found, located.isOf, ?_⟩
  intro earlier before found at_earlier
  cases earlier with
  | zero =>
    rw [List.getElem?_cons_zero, Option.some.injEq] at at_earlier
    exact at_earlier ▸ other
  | succ earlier =>
    exact located.passed earlier (Nat.lt_of_succ_lt_succ before) found at_earlier

/-- The record that merged a bundle is still the first one of its transfer: the records in front of
it are as they were. -/
theorem Located.merged (network : Network) {bundle : TransferBundle}
    {records : List TransferRecord} {index : Nat} {record : TransferRecord}
    (located : Located bundle records index record) :
    Located bundle (records.set index (record.merge bundle network)) index
      (record.merge bundle network) := by
  obtain ⟨within, -⟩ := List.getElem?_eq_some_iff.1 located.found
  refine ⟨List.getElem?_set_self within, TransferRecord.isOf_merge located.isOf, ?_⟩
  intro earlier before other found
  rw [List.getElem?_set_ne (Nat.ne_of_gt before)] at found
  exact located.passed earlier before other found

/-- A record of the transfer of a bundle is the first one if there was none before. -/
theorem Unknown.located_append {bundle : TransferBundle} {records : List TransferRecord}
    {record : TransferRecord} (unknown : Unknown bundle records) (of : record.isOf bundle = true) :
    Located bundle (records ++ [record]) records.length record := by
  refine ⟨List.getElem?_concat_length, of, ?_⟩
  intro earlier before other found
  rw [List.getElem?_append_left before] at found
  exact unknown other (List.mem_of_getElem? found)

/-- A bundle belongs to one record of a list or to none. -/
theorem located_or_unknown (bundle : TransferBundle) (records : List TransferRecord) :
    (∃ index record, Located bundle records index record) ∨ Unknown bundle records := by
  induction records with
  | nil => exact .inr (List.forall_mem_nil _)
  | cons head rest ih =>
    cases of : head.isOf bundle with
    | true => exact .inl ⟨0, head, .head of rest⟩
    | false =>
      rcases ih with ⟨index, record, located⟩ | unknown
      · exact .inl ⟨index + 1, record, located.cons of⟩
      · exact .inr (List.forall_mem_cons.2 ⟨of, unknown⟩)

/-! ## Taking a bundle in -/

variable (network : Network) (owned : AddressSet)

/-- The record that a bundle of an unknown transfer makes, if one of its ends is the wallet's. -/
def newcomer? (bundle : TransferBundle) : Option TransferRecord :=
  (TransferDirection.find owned bundle.source bundle.target).map
    (TransferRecord.ofBundle bundle network)

/-- The records after a bundle. -/
def absorb (records : List TransferRecord) (bundle : TransferBundle) : List TransferRecord :=
  match records with
  | [] => (newcomer? network owned bundle).toList
  | record :: rest =>
    if record.isOf bundle then record.merge bundle network :: rest
    else record :: absorb rest bundle

variable {network : Network} {owned : AddressSet} {bundle : TransferBundle}
  {records : List TransferRecord}

theorem newcomer?_eq_some {record : TransferRecord}
    (made : newcomer? network owned bundle = some record) :
    ∃ direction, TransferDirection.find owned bundle.source bundle.target = some direction ∧
      record = TransferRecord.ofBundle bundle network direction := by
  obtain ⟨direction, found, rfl⟩ := Option.map_eq_some_iff.1 made
  exact ⟨direction, found, rfl⟩

theorem newcomer?_target {record : TransferRecord}
    (made : newcomer? network owned bundle = some record) : record.target = bundle.target := by
  obtain ⟨direction, -, rfl⟩ := newcomer?_eq_some made
  rfl

theorem newcomer?_isSome :
    (newcomer? network owned bundle).isSome =
      (owned.contains bundle.source || owned.contains bundle.target) := by
  rw [newcomer?, Option.isSome_map]
  unfold TransferDirection.find
  cases owned.contains bundle.source <;> cases owned.contains bundle.target <;> rfl

theorem absorb_cons_of_isOf {record : TransferRecord} (of : record.isOf bundle = true)
    (rest : List TransferRecord) :
    absorb network owned (record :: rest) bundle = record.merge bundle network :: rest := by
  rw [absorb, if_pos of]

theorem absorb_cons_of_not_isOf {record : TransferRecord} (other : record.isOf bundle = false)
    (rest : List TransferRecord) :
    absorb network owned (record :: rest) bundle =
      record :: absorb network owned rest bundle := by
  rw [absorb, other, if_neg Bool.false_ne_true]

/-- A known transfer: its first record merges the bundle, and nothing else changes. -/
theorem absorb_of_located {index : Nat} {record : TransferRecord}
    (located : Located bundle records index record) :
    absorb network owned records bundle = records.set index (record.merge bundle network) := by
  obtain ⟨found, of, passed⟩ := located
  induction records generalizing index with
  | nil => cases found
  | cons head rest ih =>
    cases index with
    | zero =>
      rw [List.getElem?_cons_zero, Option.some.injEq] at found
      subst found
      rw [absorb_cons_of_isOf of, List.set_cons_zero]
    | succ index =>
      rw [absorb_cons_of_not_isOf (passed 0 (Nat.succ_pos index) head rfl), List.set_cons_succ,
        ih found fun earlier before => passed (earlier + 1) (Nat.succ_lt_succ before)]

/-- An unknown transfer: its record stands behind all others. -/
theorem absorb_of_unknown (unknown : Unknown bundle records) :
    absorb network owned records bundle =
      records ++ (newcomer? network owned bundle).toList := by
  induction records with
  | nil => rfl
  | cons head rest ih =>
    obtain ⟨other, others⟩ := List.forall_mem_cons.1 unknown
    rw [absorb_cons_of_not_isOf other, ih others, List.cons_append]

/-- The records after a bundle are those before, the one that merged it, and the one that it
made. -/
theorem mem_absorb {record : TransferRecord} (mem : record ∈ absorb network owned records bundle) :
    record ∈ records ∨
      (∃ old ∈ records, old.isOf bundle = true ∧ record = old.merge bundle network) ∨
      newcomer? network owned bundle = some record := by
  induction records with
  | nil => exact .inr (.inr (Option.mem_toList.1 mem))
  | cons head rest ih =>
    cases of : head.isOf bundle with
    | true =>
      rw [absorb_cons_of_isOf of] at mem
      rcases List.mem_cons.1 mem with rfl | stays
      · exact .inr (.inl ⟨head, List.mem_cons_self, of, rfl⟩)
      · exact .inl (List.mem_cons_of_mem _ stays)
    | false =>
      rw [absorb_cons_of_not_isOf of] at mem
      rcases List.mem_cons.1 mem with rfl | later
      · exact .inl List.mem_cons_self
      · rcases ih later with stays | ⟨old, among, oldOf, rfl⟩ | made
        · exact .inl (List.mem_cons_of_mem _ stays)
        · exact .inr (.inl ⟨old, List.mem_cons_of_mem _ among, oldOf, rfl⟩)
        · exact .inr (.inr made)

/-- What holds of every record that a bundle makes, and of a record that merged one if it held
before, holds of all records after the bundles. -/
@[elab_as_elim]
theorem mem_foldl_absorb_induction {motive : TransferRecord → Prop}
    {bundles : List TransferBundle} {record : TransferRecord}
    (mem : record ∈ bundles.foldl (absorb network owned) records)
    (start : ∀ record ∈ records, motive record)
    (makes : ∀ bundle ∈ bundles, ∀ direction, motive (.ofBundle bundle network direction))
    (merges : ∀ bundle ∈ bundles, ∀ old, old.isOf bundle = true → motive old →
      motive (old.merge bundle network)) :
    motive record := by
  induction bundles generalizing records with
  | nil => exact start record mem
  | cons bundle rest ih =>
    obtain ⟨made, makesLater⟩ := List.forall_mem_cons.1 makes
    obtain ⟨merged, mergesLater⟩ := List.forall_mem_cons.1 merges
    refine ih mem (fun record mem => ?_) makesLater mergesLater
    rcases mem_absorb mem with stays | ⟨old, among, of, rfl⟩ | new
    · exact start record stays
    · exact merged old of (start old among)
    · obtain ⟨direction, -, rfl⟩ := newcomer?_eq_some new
      exact made direction

/-! ## Other targets -/

/-- A bundle leaves the records of other targets as they are and where they are. -/
theorem getElem?_absorb_of_target_ne {record : TransferRecord}
    (other : record.target ≠ bundle.target) (index : Nat) :
    (absorb network owned records bundle)[index]? = some record ↔
      records[index]? = some record := by
  induction records generalizing index with
  | nil =>
    -- whatever the bundle makes is of its own target
    constructor
    · intro made
      have mem : newcomer? network owned bundle = some record :=
        Option.mem_toList.1 (List.mem_of_getElem? made)
      exact absurd (newcomer?_target mem) other
    · intro found
      cases found
  | cons head rest ih =>
    cases of : head.isOf bundle with
    | true =>
      rw [absorb_cons_of_isOf of]
      cases index with
      | zero =>
        rw [List.getElem?_cons_zero, List.getElem?_cons_zero, Option.some.injEq, Option.some.injEq]
        have target := TransferRecord.target_eq_of_isOf of
        constructor
        · intro merged
          subst merged
          exact absurd target other
        · intro found
          subst found
          exact absurd target other
      | succ index => rfl
    | false =>
      rw [absorb_cons_of_not_isOf of]
      cases index with
      | zero => rfl
      | succ index => exact ih index

/-- A bundle that pays another target leaves the record of a bundle where it is. -/
theorem Located.absorb {other : TransferBundle} (apart : other.target ≠ bundle.target) {index : Nat}
    {record : TransferRecord} (located : Located bundle records index record) :
    Located bundle (Ledger.absorb network owned records other) index record := by
  have target : record.target ≠ other.target := fun same =>
    apart (same.symm.trans located.target_eq)
  refine ⟨(getElem?_absorb_of_target_ne target index).2 located.found, located.isOf, ?_⟩
  intro earlier before found at_earlier
  refine Bool.eq_false_iff.2 fun of => ?_
  have foundTarget : found.target ≠ other.target := fun same =>
    apart (same.symm.trans (TransferRecord.target_eq_of_isOf of))
  have stood := (getElem?_absorb_of_target_ne foundTarget earlier).1 at_earlier
  exact Bool.false_ne_true ((located.passed earlier before found stood).symm.trans of)

end WalletLedger.Ledger
