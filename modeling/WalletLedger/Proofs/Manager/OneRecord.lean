import WalletLedger.Manager.Balance
import WalletLedger.Proofs.Bundle.Built
import WalletLedger.Proofs.Ledger.Distinct
import WalletLedger.Proofs.Manager.Run
import Mathlib.Data.List.Induction

/-!
# One transfer, one record

A run keeps the records of a wallet distinct up to the first bundle that
straddles them, and no further: `distinct_throughout_iff` says when the records
are distinct after every part of a run. `straddled_transfer_counted_twice` is the
shortest run that ends otherwise.
-/

namespace WalletLedger.Manager

open Ledger

/-- The records stay distinct in an operation just if it does not bring a bundle that straddles them
to a manager that takes bundles. -/
theorem distinct_perform_iff {manager : Manager MemoryStore}
    (distinct : Distinct manager.store.records) (operation : Operation) :
    Distinct (manager.perform operation).manager.store.records ↔
      ∀ bundle, operation = .recover bundle → manager.connection ≠ .deleted →
        straddles manager.store.records bundle = false := by
  rcases manager.perform_cases operation with ⟨bundle, rfl⟩ | ⟨other, connection, height, next, -⟩
  · change Distinct (manager.recover bundle).manager.store.records ↔ _
    by_cases deleted : manager.connection = .deleted
    · rw [(recover_deleted deleted).manager_eq]
      exact iff_of_true distinct fun _ _ live => absurd deleted live
    · rw [recover_manager deleted, withRecords, distinct_absorb_iff distinct]
      constructor
      · intro apart brought recovers _
        cases recovers
        exact apart
      · intro apart
        exact apart bundle rfl deleted
  · rw [next]
    exact iff_of_true distinct fun bundle recovers => absurd recovers (other bundle)

/-- The records of a manager are distinct after every part of a run just if they are so at its
beginning, and no bundle of the run straddles them when it comes. -/
theorem distinct_throughout_iff (manager : Manager MemoryStore) (operations : List Operation) :
    (∀ part, part <+: operations → Distinct (manager.after part).store.records) ↔
      Distinct manager.store.records ∧
        ∀ part bundle, part ++ [.recover bundle] <+: operations →
          (manager.after part).connection ≠ .deleted →
            straddles (manager.after part).store.records bundle = false := by
  constructor
  · intro throughout
    refine ⟨throughout [] List.nil_prefix, fun part bundle before live => ?_⟩
    have distinct := throughout part ((List.prefix_append part _).trans before)
    have next := throughout _ before
    rw [after_append] at next
    exact (distinct_perform_iff distinct (.recover bundle)).1 next bundle rfl live
  · intro condition part before
    obtain ⟨start, straddling⟩ := condition
    induction part using List.reverseRecOn with
    | nil => exact start
    | append_singleton part operation ih =>
      have distinct := ih ((List.prefix_append part _).trans before)
      rw [after_append]
      refine (distinct_perform_iff distinct operation).2 ?_
      intro bundle recovers live
      subst recovers
      exact straddling part bundle before live

/-- A payment that is first seen under its correlation id, then under its hash, and then under both:
the two records of it come to share the hash, and one unit received counts as two. -/
theorem straddled_transfer_counted_twice :
    let manager := (fresh { network := .btc, addresses := ["me"] }).after
      [.recover (.ofOneUnit none (some "u") "them" "me" "btc"),
       .recover (.ofOneUnit (some "h") none "them" "me" "btc"),
       .recover (.ofOneUnit (some "h") (some "u") "them" "me" "btc")]
    ¬Distinct manager.store.records ∧ manager.balance = .ok 200000000 := by
  decide

end WalletLedger.Manager
