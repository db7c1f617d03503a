import WalletLedger.Proofs.Manager.Control
import WalletLedger.Proofs.Manager.Reconciliation

/-!
# Finality over runs

A transfer that is final stays final as long as its record stands, which is as
long as no bundle updates it. No operation moves the height of the chain back or
changes how many confirmations it takes, and an operation that does not update a
record leaves it in its place (`upholds_perform`). Over a stretch of a run this
holds of the stretch as a whole (`upholds_after`), and at a greater height there
are as many confirmations or more.

A transfer in block zero has one confirmation more than a word can count once the
height is the greatest one. This is the only count that does not fit
(`confirmations_fits_iff`), and it is left out.

Main statement: `final_while_record_stands`.
-/

namespace WalletLedger

/-! ## Confirmations at two heights -/

namespace TransferState

variable {state : TransferState} {height low high : UInt64}

/-- The confirmations of a transfer in block zero at the greatest height, too many for a word. -/
def Overflows (state : TransferState) (height : UInt64) : Prop :=
  ∃ inclusion, state = .included inclusion ∧ inclusion.blockHeight = 0 ∧
    height.toNat + 1 = UInt64.size

theorem confirmations_fits_iff {count : Nat} (counted : state.confirmations height = some count) :
    count < UInt64.size ↔ ¬state.Overflows height := by
  cases state with
  | included inclusion =>
    obtain rfl : height.toNat + 1 - inclusion.blockHeight.toNat = count := Option.some.inj counted
    have bound : height.toNat < UInt64.size := height.toNat_lt_size
    have zero : inclusion.blockHeight = 0 ↔ inclusion.blockHeight.toNat = 0 := UInt64.toNat_inj.symm
    constructor
    · rintro fits ⟨_, same, first, last⟩
      cases same
      have none := zero.1 first
      omega
    · intro fits
      by_contra wide
      have none : inclusion.blockHeight.toNat = 0 := by omega
      exact fits ⟨inclusion, rfl, zero.2 none, by omega⟩
  | created | signed | submitted | errored _ | deleted => cases counted

/-- Whether there are confirmations does not depend on the height, and at a greater height there are
not fewer of them. -/
theorem confirmations_mono (state : TransferState) (rises : low ≤ high) :
    state.confirmations low = none ∧ state.confirmations high = none ∨
      ∃ before now, state.confirmations low = some before ∧
        state.confirmations high = some now ∧ before ≤ now := by
  cases state with
  | included inclusion =>
    have words : low.toNat ≤ high.toNat := UInt64.le_iff_toNat_le.1 rises
    exact .inr ⟨_, _, rfl, rfl, Nat.sub_le_sub_right (Nat.succ_le_succ words) _⟩
  | created | signed | submitted | errored _ | deleted => exact .inl ⟨rfl, rfl⟩

theorem isFinal_iff {required : UInt32} :
    state.isFinal height required = true ↔
      ∃ count, state.confirmations height = some count ∧ required.toNat ≤ count := by
  rw [isFinal, Option.any_eq_true]
  simp only [decide_eq_true_eq]

theorem isFinal_mono (rises : low ≤ high) {required : UInt32}
    (final : state.isFinal low required = true) : state.isFinal high required = true := by
  obtain ⟨count, counted, enough⟩ := isFinal_iff.1 final
  rcases state.confirmations_mono rises with ⟨uncounted, -⟩ | ⟨before, now, earlier, later, more⟩
  · rw [uncounted] at counted
    cases counted
  · obtain rfl : before = count := Option.some.inj (earlier.symm.trans counted)
    exact isFinal_iff.2 ⟨now, later, Nat.le_trans enough more⟩

end TransferState

namespace Manager

/-! ## What an operation upholds -/

section AnyStore

variable {σ : Type}

theorem height_le_setHeight (manager : Manager σ) (height : UInt64) :
    manager.height ≤ (manager.setHeight height).manager.height := by
  rw [setHeight_manager]
  split
  · exact UInt64.le_refl _
  · next above => exact UInt64.le_of_lt (UInt64.not_le.1 above)

variable [TransferStore σ]

theorem height_le_perform (manager : Manager σ) (operation : Operation) :
    manager.height ≤ (manager.perform operation).manager.height := by
  rw [height_perform]
  cases operation.reportedHeight? (manager.perform operation).result.isOk with
  | none => exact UInt64.le_refl _
  | some height =>
    rw [Option.elim_some, ← height_setHeight]
    exact manager.height_le_setHeight height

theorem requiredConfirmations_perform (manager : Manager σ) (operation : Operation) :
    (manager.perform operation).manager.requiredConfirmations = manager.requiredConfirmations := by
  rcases manager.perform_cases operation with ⟨bundle, rfl⟩ | ⟨-, connection, height, next, -⟩
  · obtain ⟨store, next⟩ := manager.exists_store_recover bundle
    change (manager.recover bundle).manager.requiredConfirmations = _
    rw [next]
  · rw [next]

end AnyStore

variable {manager : Manager MemoryStore} {id : TransferId}

/-- A bundle that does not update a record leaves it in its place. -/
theorem get?_recover {bundle : TransferBundle} {record : TransferRecord}
    (stands : manager.store.get? id = some record)
    (spared : (manager.recover bundle).result ≠ .ok (.updated id)) :
    (manager.recover bundle).manager.store.get? id = some record := by
  rcases eq_or_ne manager.connection .deleted with deleted | live
  · rwa [(recover_deleted deleted).manager_eq]
  rcases Ledger.located_or_unknown bundle manager.store.records with
    ⟨index, before, located⟩ | unknown
  · have merges := recover_mergesAt live located
    by_cases same : id = ⟨index⟩
    · subst same
      obtain rfl : before = record := Option.some.inj (located.found.symm.trans stands)
      rw [merges.outcome] at spared
      split at spared
      · next unchanged => rw [merges.stored, unchanged]
      · exact absurd rfl spared
    · rw [merges.others id same]
      exact stands
  · cases made : Ledger.newcomer? manager.network manager.owned bundle with
    | some newcomer =>
      have within : id.index < manager.store.records.length :=
        (List.getElem?_eq_some_iff.1 stands).1
      rw [(recover_adds live unknown made).stored, MemoryStore.get?_insert,
        if_neg (Nat.ne_of_lt within)]
      exact stands
    | none =>
      rw [recover_manager live, Ledger.absorb_of_unknown unknown, made]
      simpa using stands

/-- What finality rests on is upheld between two states of a manager: the record under an identifier
stands, the height does not fall, and a final transfer takes as many confirmations as before. -/
structure Upholds (id : TransferId) (earlier later : Manager MemoryStore) : Prop where
  stands : ∀ record, earlier.store.get? id = some record → later.store.get? id = some record
  rises : earlier.height ≤ later.height
  required : later.requiredConfirmations = earlier.requiredConfirmations

namespace Upholds

variable {earlier middle later : Manager MemoryStore}

theorem refl (id : TransferId) (manager : Manager MemoryStore) : Upholds id manager manager :=
  ⟨fun _ found => found, UInt64.le_refl _, rfl⟩

theorem trans (left : Upholds id earlier middle) (right : Upholds id middle later) :
    Upholds id earlier later where
  stands record found := right.stands record (left.stands record found)
  rises := UInt64.le_trans left.rises right.rises
  required := right.required.trans left.required

/-- At the later state there are as many confirmations or more, and what was final is final. -/
theorem monotone (upholds : Upholds id earlier later) {record : TransferRecord}
    (fits : ¬record.state.Overflows later.height) :
    (earlier.confirmations record = none ∧ later.confirmations record = none ∨
        ∃ before now, earlier.confirmations record = some before ∧
          later.confirmations record = some now ∧ before ≤ now ∧ now < UInt64.size) ∧
      (earlier.isFinal record = true → later.isFinal record = true) := by
  constructor
  · rcases record.state.confirmations_mono upholds.rises with
      uncounted | ⟨before, now, counted, recounted, more⟩
    · exact .inl uncounted
    · have small := (TransferState.confirmations_fits_iff recounted).2 fits
      exact .inr ⟨before, now, counted, recounted, more, small⟩
  · intro final
    rw [isFinal, upholds.required]
    exact TransferState.isFinal_mono upholds.rises final

end Upholds

/-- An operation upholds finality, unless it updates the record. -/
theorem upholds_perform (operation : Operation)
    (spared : (manager.perform operation).result ≠ .ok (some (.updated id))) :
    Upholds id manager (manager.perform operation).manager where
  rises := manager.height_le_perform operation
  required := manager.requiredConfirmations_perform operation
  stands := by
    intro record found
    rcases manager.perform_cases operation with ⟨bundle, rfl⟩ | ⟨-, connection, height, next, -⟩
    · refine get?_recover found fun updated => spared ?_
      rw [perform, Step.mapResult, updated]
      rfl
    · rw [next]
      exact found

/-! ## Runs -/

/-- A run upholds finality if none of its steps updates the record. -/
theorem upholds_after (operations : List Operation)
    (spared : ∀ step ∈ manager.run operations, step.result ≠ .ok (some (.updated id))) :
    Upholds id manager (manager.after operations) := by
  induction operations generalizing manager with
  | nil => exact .refl id manager
  | cons operation rest ih =>
    obtain ⟨first, others⟩ := List.forall_mem_cons.1 spared
    exact (upholds_perform operation first).trans (ih others)

/-- Between two points of any run, no bundle updates the record under an identifier. Then it is the
same record at both; it has confirmations at both or at neither, at the second one not fewer; and if
it is final at the first one, it is at the second. -/
theorem final_while_record_stands (manager : Manager MemoryStore) (operations : List Operation)
    (p q : Nat) (ordered : p ≤ q) (id : TransferId) (record : TransferRecord)
    (stands : (manager.after (operations.take p)).store.get? id = some record)
    (spared : ∀ step ∈ ((manager.run operations).take q).drop p,
      step.result ≠ .ok (some (.updated id))) :
    let earlier := manager.after (operations.take p)
    let later := manager.after (operations.take q)
    later.store.get? id = some record ∧
      (¬record.state.Overflows later.height →
        (earlier.confirmations record = none ∧ later.confirmations record = none ∨
          ∃ before now, earlier.confirmations record = some before ∧
            later.confirmations record = some now ∧ before ≤ now ∧ now < UInt64.size) ∧
        (earlier.isFinal record = true → later.isFinal record = true)) := by
  intro earlier later
  obtain ⟨steps, leads⟩ := manager.run_between operations ordered
  have upholds : Upholds id earlier later := by
    rw [steps] at spared
    have stretch := upholds_after _ spared
    rwa [← leads] at stretch
  exact ⟨upholds.stands record stands, upholds.monotone⟩

/-- A payment that is final stays so while the wallet's own payment is found in a block, the first
bundle comes again, a lower height is reported, and the manager is deleted. -/
theorem final_while_record_stands_until_deleted :
    let received := {
      TransferBundle.ofOneUnit (some "h1") none "them" "me" "eth" with
      status := .included
      blockHeight := some 7 }
    let sent := TransferBundle.ofOneUnit (some "h2") none "me" "shop" "eth"
    let manager := fresh { network := .eth, addresses := ["me"] }
    let operations : List Operation :=
      [.recover received, .recover sent, .setHeight 12,
       .recover { sent with status := .included, blockHeight := some 9 }, .recover received,
       .connect, .sync, .completeSync 15, .setHeight 13, .delete, .setHeight 20]
    let record := TransferRecord.ofBundle received .eth .received
    let earlier := manager.after (operations.take 3)
    let later := manager.after (operations.take 11)
    3 ≤ 11 ∧ earlier.store.get? ⟨0⟩ = some record ∧
      (∀ step ∈ ((manager.run operations).take 11).drop 3,
        step.result ≠ .ok (some (.updated ⟨0⟩))) ∧
      ¬record.state.Overflows later.height ∧ earlier.isFinal record = true ∧
      later.store.get? ⟨0⟩ = some record ∧ later.isFinal record = true := by
  intro received sent manager operations record earlier later
  have ordered : 3 ≤ 11 := by decide
  have stands : earlier.store.get? ⟨0⟩ = some record := by decide
  have spared : ∀ step ∈ ((manager.run operations).take 11).drop 3,
      step.result ≠ .ok (some (.updated ⟨0⟩)) := by decide +kernel
  have fits : ¬record.state.Overflows later.height := by
    rintro ⟨inclusion, same, first, -⟩
    cases same
    cases first
  have final : earlier.isFinal record = true := by decide
  obtain ⟨same, monotone⟩ :=
    final_while_record_stands manager operations 3 11 ordered ⟨0⟩ record stands spared
  exact ⟨ordered, stands, spared, fits, final, same, (monotone fits).2 final⟩

end Manager

end WalletLedger
