import WalletLedger.Proofs.Ledger.Absorb
import Mathlib.Data.List.Induction

/-!
# The records of a part of a wallet

A wallet that owns only some of the addresses of another one keeps the records
that involve its own, each with the direction that the transfer has for it. So
`heldBy`, which reads these records off the larger wallet's, is what the smaller
wallet comes to on its own (`heldBy_foldl_absorb`), as long as the bundles for one
transfer name one address that pays: otherwise the first bundle that involves the
larger wallet may not involve the smaller one.
-/

namespace WalletLedger

/-- Bundles that are known by their hash alone, and of which those for one transfer come from one
address. -/
structure Attributed (bundles : List TransferBundle) : Prop where
  uncorrelated : ∀ bundle ∈ bundles, bundle.uids = none
  sameSource : ∀ a ∈ bundles, ∀ b ∈ bundles, a.hash = b.hash → a.target = b.target →
    a.source = b.source

theorem Attributed.of_concat {bundles : List TransferBundle} {bundle : TransferBundle}
    (attributed : Attributed (bundles ++ [bundle])) : Attributed bundles :=
  ⟨fun earlier among => attributed.uncorrelated earlier (List.mem_append_left _ among),
    fun a first b second =>
      attributed.sameSource a (List.mem_append_left _ first) b (List.mem_append_left _ second)⟩

namespace TransferRecord

/-- A record as a wallet with other addresses sees it, if the transfer involves that wallet. -/
def seenBy? (owned : AddressSet) (record : TransferRecord) : Option TransferRecord :=
  (TransferDirection.find owned record.source record.target).map fun direction =>
    { record with direction }

variable {owned : AddressSet} {record : TransferRecord} {bundle : TransferBundle}
  {network : Network}

theorem seenBy?_merge :
    (record.merge bundle network).seenBy? owned =
      (record.seenBy? owned).map (·.merge bundle network) := by
  rw [seenBy?, seenBy?, Option.map_map]
  rfl

theorem isOf_seenBy? {seen : TransferRecord} (sees : record.seenBy? owned = some seen) :
    seen.isOf bundle = record.isOf bundle := by
  obtain ⟨direction, -, rfl⟩ := Option.map_eq_some_iff.1 sees
  rfl

/-- A record of the transfer of a bundle is seen just if the bundle could make it. -/
theorem seenBy?_eq_none_iff (of : record.isOf bundle = true)
    (source : record.source = bundle.source) :
    record.seenBy? owned = none ↔ Ledger.newcomer? network owned bundle = none := by
  rw [seenBy?, Ledger.newcomer?, Option.map_eq_none_iff, Option.map_eq_none_iff, source,
    target_eq_of_isOf of]

end TransferRecord

namespace Ledger

open TransferRecord

/-- The records that involve a wallet, as it sees them. -/
def heldBy (owned : AddressSet) (records : List TransferRecord) : List TransferRecord :=
  records.filterMap (seenBy? owned)

variable {network : Network} {owned whole : AddressSet} {bundle : TransferBundle}
  {bundles : List TransferBundle} {records : List TransferRecord}

theorem heldBy_cons_some {record seen : TransferRecord} (sees : record.seenBy? owned = some seen)
    (rest : List TransferRecord) : heldBy owned (record :: rest) = seen :: heldBy owned rest :=
  List.filterMap_cons_some sees

theorem heldBy_cons_none {record : TransferRecord} (blind : record.seenBy? owned = none)
    (rest : List TransferRecord) : heldBy owned (record :: rest) = heldBy owned rest :=
  List.filterMap_cons_none blind

theorem heldBy_cons (owned : AddressSet) (record : TransferRecord) (rest : List TransferRecord) :
    heldBy owned (record :: rest) = heldBy owned [record] ++ heldBy owned rest := by
  have split : heldBy owned ([record] ++ rest) = _ := List.filterMap_append
  exact split

theorem heldBy_singleton (owned : AddressSet) (record : TransferRecord) :
    heldBy owned [record] = (record.seenBy? owned).toList := by
  rw [heldBy, List.filterMap_cons, List.filterMap_nil]
  cases record.seenBy? owned <;> rfl

/-! ## One bundle -/

theorem heldBy_newcomer? (part : ∀ address, owned.contains address → whole.contains address) :
    heldBy owned (newcomer? network whole bundle).toList =
      (newcomer? network owned bundle).toList := by
  cases made : newcomer? network whole bundle with
  | some record =>
    obtain ⟨direction, -, rfl⟩ := newcomer?_eq_some made
    rw [newcomer?]
    cases found : TransferDirection.find owned bundle.source bundle.target with
    | none =>
      have blind : (ofBundle bundle network direction).seenBy? owned = none :=
        Option.map_eq_none_iff.2 found
      exact heldBy_cons_none blind []
    | some own =>
      have sees : (ofBundle bundle network direction).seenBy? owned =
          some (ofBundle bundle network own) :=
        Option.map_eq_some_iff.2 ⟨own, found, rfl⟩
      exact heldBy_cons_some sees []
  | none =>
    obtain ⟨source, target⟩ :=
      TransferDirection.find_eq_none_iff.1 (Option.map_eq_none_iff.1 made)
    have foreign : TransferDirection.find owned bundle.source bundle.target = none := by
      refine TransferDirection.find_eq_none_iff.2 ⟨?_, ?_⟩
      · exact Bool.eq_false_iff.2 fun own => Bool.false_ne_true (source.symm.trans (part _ own))
      · exact Bool.eq_false_iff.2 fun own => Bool.false_ne_true (target.symm.trans (part _ own))
    rw [newcomer?, foreign]
    rfl

/-- A bundle that could make no record for the smaller wallet belongs to none of its records. -/
theorem unknown_heldBy
    (sameSource : ∀ record ∈ records, record.isOf bundle = true → record.source = bundle.source)
    (foreign : newcomer? network owned bundle = none) : Unknown bundle (heldBy owned records) := by
  intro seen mem
  obtain ⟨record, among, sees⟩ := List.mem_filterMap.1 mem
  rw [isOf_seenBy? sees]
  refine Bool.eq_false_iff.2 fun of => ?_
  rw [(seenBy?_eq_none_iff of (sameSource record among of)).2 foreign] at sees
  cases sees

/-- What the smaller wallet holds of the records after a bundle is what it makes of the bundle on
its own. -/
theorem heldBy_absorb (part : ∀ address, owned.contains address → whole.contains address)
    (sameSource : ∀ record ∈ records, record.isOf bundle = true → record.source = bundle.source) :
    heldBy owned (absorb network whole records bundle) =
      absorb network owned (heldBy owned records) bundle := by
  induction records with
  | nil => exact heldBy_newcomer? part
  | cons head rest ih =>
    obtain ⟨headSource, restSource⟩ := List.forall_mem_cons.1 sameSource
    cases of : head.isOf bundle with
    | true =>
      have merged : (head.merge bundle network).seenBy? owned = _ := seenBy?_merge
      rw [absorb_cons_of_isOf of]
      cases sees : head.seenBy? owned with
      | none =>
        -- later records of the transfer come from the same address, and so are not seen either
        have foreign : newcomer? network owned bundle = none :=
          (seenBy?_eq_none_iff of (headSource of)).1 sees
        rw [sees, Option.map_none] at merged
        rw [heldBy_cons_none merged, heldBy_cons_none sees,
          absorb_of_unknown (unknown_heldBy restSource foreign), foreign, Option.toList_none,
          List.append_nil]
      | some seen =>
        rw [sees, Option.map_some] at merged
        rw [heldBy_cons_some merged, heldBy_cons_some sees,
          absorb_cons_of_isOf ((isOf_seenBy? sees).trans of)]
    | false =>
      rw [absorb_cons_of_not_isOf of]
      cases sees : head.seenBy? owned with
      | none => rw [heldBy_cons_none sees, heldBy_cons_none sees, ih restSource]
      | some seen =>
        rw [heldBy_cons_some sees, heldBy_cons_some sees, ih restSource,
          absorb_cons_of_not_isOf ((isOf_seenBy? sees).trans of)]

/-! ## Many bundles -/

/-- A record has the hash, the target and the source of some bundle, and like the bundles it has no
correlation id. -/
theorem origin_of_mem_foldl (uncorrelated : ∀ bundle ∈ bundles, bundle.uids = none)
    {record : TransferRecord} (mem : record ∈ bundles.foldl (absorb network whole) []) :
    record.uids = none ∧ ∃ bundle ∈ bundles,
      bundle.hash = record.hash ∧ bundle.target = record.target ∧
        bundle.source = record.source := by
  refine mem_foldl_absorb_induction mem (List.forall_mem_nil _) ?_ ?_
  · intro bundle among direction
    exact ⟨uncorrelated bundle among, bundle, among, rfl, rfl, rfl⟩
  · rintro bundle among old of ⟨uids, origin, first, hash, target, source⟩
    have filled : (old.merge bundle network).hash = old.hash := by
      rcases (isOf_iff.1 of).2 with ⟨s, mine, -⟩ | ⟨s, mine, -⟩
      · rw [merge_hash, mine, Option.some_or]
      · rw [uids] at mine
        cases mine
    refine ⟨?_, origin, first, hash.trans filled.symm, target, source⟩
    rw [merge_uids, uncorrelated bundle among, uids, Option.none_or]

/-- A further bundle comes from the address that the records of its transfer name. -/
theorem source_eq_of_isOf (attributed : Attributed (bundles ++ [bundle])) {record : TransferRecord}
    (mem : record ∈ bundles.foldl (absorb network whole) []) (of : record.isOf bundle = true) :
    record.source = bundle.source := by
  obtain ⟨uids, origin, first, hash, target, source⟩ :=
    origin_of_mem_foldl attributed.of_concat.uncorrelated mem
  rcases isOf_iff.1 of with ⟨sameTarget, ⟨s, mine, yours⟩ | ⟨s, mine, -⟩⟩
  · rw [← source]
    exact attributed.sameSource origin (List.mem_append_left _ first) bundle List.mem_concat_self
      (hash.trans (mine.trans yours.symm)) (target.trans sameTarget)
  · rw [uids] at mine
    cases mine

/-- A wallet comes to the records that it holds of those of any wallet that owns its addresses. -/
theorem heldBy_foldl_absorb (part : ∀ address, owned.contains address → whole.contains address)
    (attributed : Attributed bundles) :
    heldBy owned (bundles.foldl (absorb network whole) []) =
      bundles.foldl (absorb network owned) [] := by
  induction bundles using List.reverseRecOn with
  | nil => rfl
  | append_singleton bundles bundle ih =>
    -- from the back: the bundles so far say where the records come from that the last one may join
    rw [List.foldl_concat, List.foldl_concat, ← ih attributed.of_concat]
    exact heldBy_absorb part fun record mem of => source_eq_of_isOf attributed mem of

end Ledger

end WalletLedger
