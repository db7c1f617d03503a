import WalletLedger.Proofs.Ledger.Absorb

/-!
# Transfers lost out of sight

A transfer that has a record stays known to the bundles that were merged into it
as long as the record keeps their hash or their correlation id. A hash, once it
is there, is kept. A correlation id is replaced by that of the next bundle that
has another one, so a bundle that was recognized by nothing else is then no
longer of the transfer of any record: that next bundle estranges it.

Main statements: `estranges_iff`, these are the only bundles after which a known
transfer is unknown; and `HashKept.absorb`, no bundle does so to one whose hash a
record has.
-/

namespace WalletLedger

namespace TransferRecord

variable {record : TransferRecord} {bundle other : TransferBundle} {network : Network}

/-- Whether a record that merges another bundle has neither the hash nor the correlation id of a
bundle any more. -/
def forgets (record : TransferRecord) (bundle other : TransferBundle) : Bool :=
  !agree (record.hash.or other.hash) bundle.hash && other.uids.isSome && other.uids != bundle.uids

/-- A record of the transfer of a bundle is so after a merge unless it forgets the bundle. -/
theorem isOf_merge_iff (of : record.isOf bundle = true) :
    (record.merge other network).isOf bundle = true ↔ record.forgets bundle other = false := by
  obtain ⟨target, -⟩ := isOf_iff.1 of
  rw [isOf, isIdentifiedBy, beq_iff_eq.2 target, Bool.true_and, Bool.or_eq_true] at of
  rw [isOf, isIdentifiedBy, merge_target, beq_iff_eq.2 target, Bool.true_and, merge_hash,
    merge_uids, forgets]
  cases hash : agree (record.hash.or other.hash) bundle.hash with
  | true => simp
  | false =>
    cases known : other.uids with
    | some s => simp [agree]
    | none =>
      -- a hash of its own is kept, so the record was recognized by its correlation id
      have foreign : agree record.hash bundle.hash ≠ true := by
        intro same
        obtain ⟨s, mine, yours⟩ := agree_iff.1 same
        rw [mine, Option.some_or, ← mine, same] at hash
        cases hash
      simp [of.resolve_left foreign]

end TransferRecord

namespace Ledger

open TransferRecord

variable {network : Network} {owned : AddressSet} {bundle other : TransferBundle}
  {records : List TransferRecord}

/-! ## The last record of a transfer -/

/-- Whether a bundle goes to the only record that is of the transfer of another bundle, and makes it
forget that one. -/
def estranges (bundle : TransferBundle) (records : List TransferRecord) (other : TransferBundle) :
    Bool :=
  match records with
  | [] => false
  | record :: rest =>
    if record.isOf other then
      record.isOf bundle && record.forgets bundle other && rest.all fun later => !later.isOf bundle
    else !record.isOf bundle && estranges bundle rest other

theorem unknown_cons {record : TransferRecord} {rest : List TransferRecord} :
    Unknown bundle (record :: rest) ↔ record.isOf bundle = false ∧ Unknown bundle rest :=
  List.forall_mem_cons

theorem unknown_iff_all :
    Unknown bundle records ↔ (records.all fun record => !record.isOf bundle) = true := by
  simp [Unknown]

/-- A known transfer becomes unknown just by a bundle that estranges it. -/
theorem estranges_iff (network : Network) (owned : AddressSet) :
    estranges bundle records other = true ↔
      ¬Unknown bundle records ∧ Unknown bundle (absorb network owned records other) := by
  induction records with
  | nil => exact iff_of_false Bool.false_ne_true fun both => both.1 (List.forall_mem_nil _)
  | cons record rest ih =>
    cases of : record.isOf other with
    | true =>
      rw [absorb_cons_of_isOf of, estranges, if_pos of, unknown_cons, unknown_cons,
        Bool.and_eq_true, Bool.and_eq_true, ← unknown_iff_all]
      cases known : record.isOf bundle with
      | true =>
        have merged : (record.merge other network).isOf bundle = true ↔
            record.forgets bundle other = false := isOf_merge_iff known
        cases lost : record.forgets bundle other with
        | true =>
          have gone : (record.merge other network).isOf bundle = false := by
            refine Bool.eq_false_iff.2 fun still => ?_
            rw [merged.1 still] at lost
            cases lost
          simp [gone]
        | false => simp [merged.2 lost]
      | false =>
        -- the transfer is known by a later record, which stays as it is
        exact iff_of_false (fun all => Bool.false_ne_true all.1.1)
          fun both => both.1 ⟨rfl, both.2.2⟩
    | false =>
      rw [absorb_cons_of_not_isOf of, estranges, of, if_neg Bool.false_ne_true, unknown_cons,
        unknown_cons, Bool.and_eq_true, ih]
      cases record.isOf bundle with
      | true => simp
      | false => simp

/-! ## Hashes stay -/

/-- A record has the hash of a bundle and pays its target. -/
def HashKept (bundle : TransferBundle) (records : List TransferRecord) : Prop :=
  ∃ record ∈ records, record.target = bundle.target ∧ agree record.hash bundle.hash = true

theorem HashKept.not_unknown (kept : HashKept bundle records) : ¬Unknown bundle records := by
  obtain ⟨record, mem, target, hash⟩ := kept
  apply not_unknown_of_mem mem
  rw [isOf, isIdentifiedBy, beq_iff_eq.2 target, hash]
  rfl

theorem HashKept.absorb (kept : HashKept bundle records) (other : TransferBundle) :
    HashKept bundle (Ledger.absorb network owned records other) := by
  obtain ⟨record, mem, target, hash⟩ := kept
  rcases located_or_unknown other records with ⟨index, located, at_index⟩ | unknown
  · rw [absorb_of_located at_index]
    obtain ⟨place, found⟩ := List.mem_iff_getElem?.1 mem
    by_cases same : index = place
    · subst same
      obtain rfl : located = record := Option.some.inj (at_index.found.symm.trans found)
      obtain ⟨within, -⟩ := List.getElem?_eq_some_iff.1 found
      obtain ⟨s, mine, -⟩ := agree_iff.1 hash
      refine ⟨_, List.mem_of_getElem? (List.getElem?_set_self within), target, ?_⟩
      rw [merge_hash, mine, Option.some_or, ← mine]
      exact hash
    · exact ⟨record, List.mem_of_getElem? ((List.getElem?_set_ne same).trans found), target, hash⟩
  · rw [absorb_of_unknown unknown]
    exact ⟨record, List.mem_append_left _ mem, target, hash⟩

end Ledger

end WalletLedger
