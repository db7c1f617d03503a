import WalletLedger.Proofs.Ledger.Absorb

/-!
# Distinct records

Two records of one target are of different transfers if they share no hash and
no correlation id. Bundles keep the records of a wallet distinct, with one
exception. A bundle may know both the hash of one transfer and the correlation id
of another, or learn that what was seen under a hash and what was seen under a
correlation id are one. It then belongs to two records, of which the first one
alone takes it in: such a bundle straddles the records.

Main statement: `distinct_absorb_iff`, distinct records stay so just if the
bundle does not straddle them.
-/

namespace WalletLedger

namespace TransferRecord

@[simp] theorem agree_none (a : Option String) : agree none a = false := rfl

/-- Two records that are not of one transfer: if they have one target, neither a hash nor a
correlation id is common to them. -/
def Apart (a b : TransferRecord) : Prop :=
  a.target = b.target → agree a.hash b.hash = false ∧ agree a.uids b.uids = false

instance : DecidableRel Apart := fun a b =>
  inferInstanceAs (Decidable (a.target = b.target → _))

/-- Whether a record that merges a bundle comes by a hash or a correlation id of another record. -/
def clashes (record : TransferRecord) (bundle : TransferBundle) (other : TransferRecord) : Bool :=
  bundle.target == other.target &&
    (record.hash.isNone && agree bundle.hash other.hash || agree bundle.uids other.uids)

variable {record other : TransferRecord} {bundle : TransferBundle} {network : Network}

/-- A record that is not of the transfer of a bundle shares nothing with it under its target. -/
theorem agree_eq_false_of_not_isOf (foreign : record.isOf bundle = false)
    (target : record.target = bundle.target) :
    agree record.hash bundle.hash = false ∧ agree record.uids bundle.uids = false := by
  rw [isOf, isIdentifiedBy, beq_iff_eq.2 target, Bool.true_and] at foreign
  exact Bool.or_eq_false_iff.1 foreign

/-- A record that merges a bundle stays apart from another one just if it does not clash with it.
What the record had before is its own, so only what the bundle brings counts. -/
theorem apart_merge_iff (of : record.isOf bundle = true) (apart : Apart record other) :
    Apart (record.merge bundle network) other ↔ record.clashes bundle other = false := by
  have target := target_eq_of_isOf of
  rw [Apart, merge_target, merge_hash, merge_uids, target, clashes]
  by_cases same : bundle.target = other.target
  · obtain ⟨hash, uids⟩ := apart (target.trans same)
    have byHash : agree (record.hash.or bundle.hash) other.hash =
        (record.hash.isNone && agree bundle.hash other.hash) := by
      cases known : record.hash with
      | some s =>
        rw [known] at hash
        rw [Option.some_or, hash, Option.isNone_some, Bool.false_and]
      | none => rw [Option.none_or, Option.isNone_none, Bool.true_and]
    have byUids : agree (bundle.uids.or record.uids) other.uids = agree bundle.uids other.uids := by
      cases bundle.uids with
      | some s => rw [Option.some_or]
      | none => rw [Option.none_or, uids, agree_none]
    simp only [same, true_implies, byHash, byUids, beq_self_eq_true, Bool.true_and,
      Bool.or_eq_false_iff]
  · simp only [same, false_implies, beq_eq_false_iff_ne.2 same, Bool.false_and]

/-- A record that is not of the transfer of a bundle stays apart from the one that merges it. -/
theorem apart_merge_of_not_isOf (foreign : record.isOf bundle = false)
    (of : other.isOf bundle = true) (apart : Apart record other) : Apart record (other.merge bundle network) := by
  intro target
  rw [merge_target] at target
  obtain ⟨hash, uids⟩ := apart target
  obtain ⟨hash', uids'⟩ :=
    agree_eq_false_of_not_isOf foreign (target.trans (target_eq_of_isOf of))
  rw [merge_hash, merge_uids]
  constructor
  · cases known : other.hash with
    | some s => rwa [Option.some_or, ← known]
    | none => rwa [Option.none_or]
  · cases known : bundle.uids with
    | some s => rwa [Option.some_or, ← known]
    | none => rwa [Option.none_or]

end TransferRecord

namespace Ledger

open TransferRecord

/-- No two records are of one transfer. -/
def Distinct (records : List TransferRecord) : Prop :=
  records.Pairwise Apart

instance : DecidablePred Distinct := fun records =>
  inferInstanceAs (Decidable (records.Pairwise Apart))

/-- Whether a bundle brings a hash or a correlation id to the record that it belongs to which a
later record has already. -/
def straddles (records : List TransferRecord) (bundle : TransferBundle) : Bool :=
  match records with
  | [] => false
  | record :: rest =>
    if record.isOf bundle then rest.any (record.clashes bundle) else straddles rest bundle

variable {network : Network} {owned : AddressSet} {bundle : TransferBundle}
  {records : List TransferRecord}

/-- What a bundle changes or adds behind a record of another transfer stays apart from it. -/
theorem apart_of_mem_absorb {record : TransferRecord} (foreign : record.isOf bundle = false)
    (apart : ∀ other ∈ records, Apart record other) {changed : TransferRecord}
    (mem : changed ∈ absorb network owned records bundle) : Apart record changed := by
  rcases mem_absorb mem with stays | ⟨old, among, of, rfl⟩ | made
  · exact apart changed stays
  · exact apart_merge_of_not_isOf foreign of (apart old among)
  · obtain ⟨direction, -, rfl⟩ := newcomer?_eq_some made
    exact agree_eq_false_of_not_isOf foreign

/-- Distinct records stay distinct just if the bundle that they absorb does not straddle them. -/
theorem distinct_absorb_iff (distinct : Distinct records) :
    Distinct (absorb network owned records bundle) ↔ straddles records bundle = false := by
  induction records with
  | nil =>
    refine iff_of_true ?_ rfl
    rw [absorb]
    cases newcomer? network owned bundle with
    | none => exact .nil
    | some record => exact List.pairwise_singleton _ record
  | cons record rest ih =>
    obtain ⟨apart, others⟩ := List.pairwise_cons.1 distinct
    cases of : record.isOf bundle with
    | true =>
      -- the record merges the bundle, and the rest is as it was
      rw [absorb_cons_of_isOf of, straddles, if_pos of, Distinct, List.pairwise_cons,
        and_iff_left others, List.any_eq_false]
      refine forall₂_congr fun other mem => ?_
      rw [apart_merge_iff of (apart other mem), Bool.not_eq_true]
    | false =>
      rw [absorb_cons_of_not_isOf of, straddles, of, if_neg Bool.false_ne_true, ← ih others,
        Distinct, List.pairwise_cons]
      exact and_iff_right fun changed mem => apart_of_mem_absorb of apart mem

end Ledger

end WalletLedger
