import WalletLedger.Proofs.Bundle.Built
import WalletLedger.Proofs.Manager.Run
import WalletLedger.Proofs.Manager.Totals
import Mathlib.Data.List.Perm.Basic

/-!
# Targets on their own

The target is part of the identity of a transfer, so the bundles for one target
see only the records of that target. `onlyTarget` is the manager that knows no
other records. Delivering bundles and then looking at one target comes to the
same as delivering the bundles for that target alone (`delivered_onlyTarget`), and
the bundles are answered alike.

Main statement: `targets_are_independent`, which adds that how the bundles of
different targets are mixed does not show in any balance.
-/

namespace WalletLedger

namespace Ledger

/-- The records of a target, in their order. -/
def ofTarget (target : String) (records : List TransferRecord) : List TransferRecord :=
  records.filter fun record => record.target = target

variable {network : Network} {owned : AddressSet} {bundle : TransferBundle} {target : String}
  {records : List TransferRecord}

theorem ofTarget_cons_of_eq {head : TransferRecord} (same : head.target = target) :
    ofTarget target (head :: records) = head :: ofTarget target records := by
  rw [ofTarget, List.filter_cons, if_pos (decide_eq_true same), ofTarget]

theorem ofTarget_cons_of_ne {head : TransferRecord} (other : head.target ≠ target) :
    ofTarget target (head :: records) = ofTarget target records := by
  rw [ofTarget, List.filter_cons, if_neg (by simpa using other), ofTarget]

/-- The record that a bundle belongs to is found among the records of its target, too. -/
theorem Located.ofTarget {index : Nat} {record : TransferRecord}
    (located : Located bundle records index record) :
    ∃ place, Located bundle (ofTarget bundle.target records) place record := by
  obtain ⟨found, of, passed⟩ := located
  induction records generalizing index with
  | nil => cases found
  | cons head rest ih =>
    cases index with
    | zero =>
      rw [List.getElem?_cons_zero, Option.some.injEq] at found
      subst found
      rw [ofTarget_cons_of_eq (TransferRecord.target_eq_of_isOf of)]
      exact ⟨0, .head of _⟩
    | succ index =>
      obtain ⟨place, there⟩ :=
        ih found fun earlier before => passed (earlier + 1) (Nat.succ_lt_succ before)
      by_cases same : head.target = bundle.target
      · rw [ofTarget_cons_of_eq same]
        exact ⟨place + 1, there.cons (passed 0 (Nat.succ_pos index) head rfl)⟩
      · rw [ofTarget_cons_of_ne same]
        exact ⟨place, there⟩

theorem Unknown.ofTarget (unknown : Unknown bundle records) :
    Unknown bundle (ofTarget target records) :=
  fun record mem => unknown record (List.mem_filter.1 mem).1

/-- Bundles for other targets do not show. -/
theorem ofTarget_absorb_of_ne (other : bundle.target ≠ target) :
    ofTarget target (absorb network owned records bundle) = ofTarget target records := by
  induction records with
  | nil =>
    refine List.filter_eq_nil_iff.2 fun record mem => ?_
    rw [decide_eq_true_eq, newcomer?_target (Option.mem_toList.1 mem)]
    exact other
  | cons head rest ih =>
    cases of : head.isOf bundle with
    | true =>
      have outside : head.target ≠ target := fun same =>
        other ((TransferRecord.target_eq_of_isOf of).symm.trans same)
      have still : (head.merge bundle network).target ≠ target := outside
      rw [absorb_cons_of_isOf of, ofTarget_cons_of_ne outside, ofTarget_cons_of_ne still]
    | false =>
      rw [absorb_cons_of_not_isOf of]
      by_cases within : head.target = target
      · rw [ofTarget_cons_of_eq within, ofTarget_cons_of_eq within, ih]
      · rw [ofTarget_cons_of_ne within, ofTarget_cons_of_ne within, ih]

/-- The records of a target absorb the bundles for it as if they were on their own. -/
theorem ofTarget_absorb_of_eq (same : bundle.target = target) :
    ofTarget target (absorb network owned records bundle) =
      absorb network owned (ofTarget target records) bundle := by
  induction records with
  | nil =>
    refine List.filter_eq_self.2 fun record mem => ?_
    rw [decide_eq_true_eq, newcomer?_target (Option.mem_toList.1 mem)]
    exact same
  | cons head rest ih =>
    cases of : head.isOf bundle with
    | true =>
      have within : head.target = target := (TransferRecord.target_eq_of_isOf of).trans same
      have still : (head.merge bundle network).target = target := within
      rw [absorb_cons_of_isOf of, ofTarget_cons_of_eq within, ofTarget_cons_of_eq still,
        absorb_cons_of_isOf of]
    | false =>
      rw [absorb_cons_of_not_isOf of]
      by_cases within : head.target = target
      · rw [ofTarget_cons_of_eq within, ofTarget_cons_of_eq within, absorb_cons_of_not_isOf of, ih]
      · rw [ofTarget_cons_of_ne within, ofTarget_cons_of_ne within, ih]

/-- Lists that hold the same records of every target hold the same records. -/
theorem perm_of_ofTarget_eq {first second : List TransferRecord}
    (same : ∀ target, ofTarget target first = ofTarget target second) : first.Perm second := by
  refine List.perm_iff_count.2 fun record => ?_
  have among (records : List TransferRecord) :
      records.count record = (ofTarget record.target records).count record :=
    (List.count_filter (p := fun other : TransferRecord => other.target = record.target)
      (decide_eq_true rfl)).symm
  rw [among first, among second, same]

end Ledger

/-- What a bundle is answered, without the identifier of its record. -/
def Step.outcome {σ : Type} (step : Step σ Reconciled) : Except ManagerError String :=
  step.result.map Reconciled.name

namespace Manager

/-- Bundles with what they are answered when they are delivered one after another. -/
def outcomes {σ : Type} [TransferStore σ] (manager : Manager σ) (bundles : List TransferBundle) :
    List (TransferBundle × Except ManagerError String) :=
  bundles.zip ((manager.deliver bundles).map Step.outcome)

/-- The manager that knows only the records of a target. -/
def onlyTarget (manager : Manager MemoryStore) (target : String) : Manager MemoryStore :=
  manager.withRecords (Ledger.ofTarget target manager.store.records)

variable {manager : Manager MemoryStore} {bundle : TransferBundle} {target : String}

/-! ## One bundle -/

theorem onlyTarget_recover_of_ne (live : manager.connection ≠ .deleted)
    (other : bundle.target ≠ target) :
    (manager.recover bundle).manager.onlyTarget target = manager.onlyTarget target := by
  rw [recover_manager live, onlyTarget, onlyTarget]
  exact congrArg manager.withRecords (Ledger.ofTarget_absorb_of_ne other)

theorem onlyTarget_recover_of_eq (live : manager.connection ≠ .deleted)
    (same : bundle.target = target) :
    (manager.recover bundle).manager.onlyTarget target =
      ((manager.onlyTarget target).recover bundle).manager := by
  have only : (manager.onlyTarget target).connection ≠ .deleted := live
  rw [recover_manager live, recover_manager only]
  exact congrArg manager.withRecords (Ledger.ofTarget_absorb_of_eq same)

/-- A bundle is answered alike by the manager that knows only the records of its target. -/
theorem outcome_onlyTarget (live : manager.connection ≠ .deleted) :
    ((manager.onlyTarget bundle.target).recover bundle).outcome =
      (manager.recover bundle).outcome := by
  have only : (manager.onlyTarget bundle.target).connection ≠ .deleted := live
  rw [Step.outcome, Step.outcome]
  rcases Ledger.located_or_unknown bundle manager.store.records with
    ⟨index, record, located⟩ | unknown
  · obtain ⟨place, there⟩ := located.ofTarget
    rw [(recover_located live located).result_eq,
      (recover_located only there).result_eq]
    change Except.ok
        (Reconciled.name (if record.merge bundle manager.network = record then _ else _)) =
      Except.ok (Reconciled.name (if record.merge bundle manager.network = record then _ else _))
    split <;> rfl
  · have there : Ledger.Unknown bundle (manager.onlyTarget bundle.target).store.records :=
      unknown.ofTarget
    cases found : TransferDirection.find manager.owned bundle.source bundle.target with
    | some direction =>
      rw [(recover_added live unknown found).result_eq,
        (recover_added only there found).result_eq]
      rfl
    | none =>
      rw [(recover_unrelated live unknown found).result_eq,
        (recover_unrelated only there found).result_eq]

/-! ## Many bundles -/

theorem live_recover (bundle : TransferBundle) (live : manager.connection ≠ .deleted) :
    (manager.recover bundle).manager.connection ≠ .deleted := by
  rw [recover_manager live]
  exact live

/-- Looking at one target after bundles were delivered: only the bundles for it count. -/
theorem delivered_onlyTarget (target : String) (live : manager.connection ≠ .deleted)
    (bundles : List TransferBundle) :
    (manager.delivered bundles).onlyTarget target =
      (manager.onlyTarget target).delivered
        (bundles.filter fun bundle => bundle.target = target) := by
  induction bundles generalizing manager with
  | nil => rfl
  | cons bundle rest ih =>
    rw [delivered_cons, ih (live_recover bundle live)]
    by_cases same : bundle.target = target
    · rw [List.filter_cons, if_pos (decide_eq_true same), delivered_cons,
        onlyTarget_recover_of_eq live same]
    · rw [List.filter_cons, if_neg (by simpa using same), onlyTarget_recover_of_ne live same]

/-- The bundles for a target are answered as if they were delivered alone. -/
theorem outcomes_onlyTarget (live : manager.connection ≠ .deleted)
    (bundles : List TransferBundle) :
    ((manager.outcomes bundles).filter fun answered => answered.1.target = target) =
      (manager.onlyTarget target).outcomes
        (bundles.filter fun bundle => bundle.target = target) := by
  induction bundles generalizing manager with
  | nil => rfl
  | cons bundle rest ih =>
    have later := ih (live_recover bundle live)
    rw [outcomes, deliver, List.map_cons, List.zip_cons_cons]
    by_cases same : bundle.target = target
    · subst same
      rw [List.filter_cons, if_pos (decide_eq_true rfl), List.filter_cons,
        if_pos (decide_eq_true rfl), outcomes, deliver, List.map_cons, List.zip_cons_cons,
        outcome_onlyTarget live]
      rw [onlyTarget_recover_of_eq live rfl] at later
      exact congrArg _ later
    · rw [List.filter_cons, if_neg (by simpa using same), List.filter_cons,
        if_neg (by simpa using same)]
      rw [onlyTarget_recover_of_ne live same] at later
      exact later

/-- Transfers to different targets do not interfere. The records of a target, and the answers to the
bundles for it, are those of delivering these bundles alone; and every balance is the same for all
ways to mix the bundles of different targets. -/
theorem targets_are_independent (config : Config) :
    (∀ (bundles : List TransferBundle) (target : String),
      let own := bundles.filter fun bundle => bundle.target = target
      Ledger.ofTarget target ((fresh config).delivered bundles).store.records =
          ((fresh config).delivered own).store.records ∧
        ((fresh config).outcomes bundles).filter (fun answered => answered.1.target = target) =
          (fresh config).outcomes own) ∧
    ∀ first second : List TransferBundle,
      (∀ target, (first.filter fun bundle => bundle.target = target) =
        second.filter fun bundle => bundle.target = target) →
      ∀ (currency : String) (decimals : UInt8),
        (((fresh config).delivered first).tokenBalance currency decimals).toOption =
          (((fresh config).delivered second).tokenBalance currency decimals).toOption := by
  have live : (fresh config).connection ≠ .deleted := nofun
  have records (bundles : List TransferBundle) (target : String) :
      Ledger.ofTarget target ((fresh config).delivered bundles).store.records =
        ((fresh config).delivered
          (bundles.filter fun bundle => bundle.target = target)).store.records :=
    congrArg (·.store.records) (delivered_onlyTarget target live bundles)
  refine ⟨fun bundles target => ⟨records bundles target, outcomes_onlyTarget live bundles⟩, ?_⟩
  intro first second same currency decimals
  have perm : ((fresh config).delivered first).store.records.Perm
      ((fresh config).delivered second).store.records :=
    Ledger.perm_of_ofTarget_eq fun target => by rw [records, records, same]
  refine toOption_tokenBalance_perm ?_ perm currency decimals
  rw [delivered_eq live, delivered_eq live]
  rfl

/-- Two transfers, each one seen twice, once one after the other and once mixed: the records come in
another order, and the balance is the same. -/
theorem targets_are_independent_mixed :
    let config : Config := { network := .btc, addresses := ["me"] }
    let seen : TransferBundle := .ofOneUnit none (some "u") "them" "me" "btc"
    let mined : TransferBundle := .ofOneUnit (some "h") (some "u") "them" "me" "btc"
    let sent : TransferBundle := .ofOneUnit (some "h") none "me" "shop" "btc"
    let known : TransferBundle := .ofOneUnit (some "h") (some "v") "me" "shop" "btc"
    let apart := [seen, mined, sent, known]
    let mixed := [sent, seen, known, mined]
    ((fresh config).delivered apart).store.records ≠
        ((fresh config).delivered mixed).store.records ∧
      Ledger.ofTarget "me" ((fresh config).delivered apart).store.records =
        ((fresh config).delivered [seen, mined]).store.records ∧
      ∀ currency decimals,
        (((fresh config).delivered apart).tokenBalance currency decimals).toOption =
          (((fresh config).delivered mixed).tokenBalance currency decimals).toOption := by
  intro config seen mined sent known apart mixed
  obtain ⟨alone, balances⟩ := targets_are_independent config
  have own : (apart.filter fun bundle => bundle.target = "me") = [seen, mined] := rfl
  have received := (alone apart "me").1
  rw [own] at received
  refine ⟨by decide, received, balances apart mixed fun target => ?_⟩
  by_cases me : target = "me"
  · subst me
    rfl
  · by_cases shop : target = "shop"
    · subst shop
      rfl
    · simp [apart, mixed, seen, mined, sent, known, TransferBundle.ofOneUnit, Ne.symm me,
        Ne.symm shop]

end Manager

end WalletLedger
