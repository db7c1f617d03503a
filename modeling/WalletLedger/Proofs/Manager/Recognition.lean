import WalletLedger.Manager.Balance
import WalletLedger.Proofs.Ledger.Estranged
import WalletLedger.Proofs.Manager.Redelivery

/-!
# Storing a transfer a second time

A bundle that a manager accepted is known to it from then on, up to the first
bundle that estranges it. If one does, delivering the first bundle again makes
another record of the same transfer (`added_again_iff`);
`reassigned_transfer_stored_twice` is the shortest run in which that happens. It
never happens to a bundle whose hash its record has (`not_added_again_of_hash`).
-/

namespace WalletLedger.Manager

open Ledger

variable {manager : Manager MemoryStore} {bundle : TransferBundle}

/-! ## One delivery -/

/-- A bundle is added just if it is delivered to a manager that is not deleted, is of no known
transfer, and involves the wallet. -/
theorem recover_added_iff :
    (∃ id, (manager.recover bundle).result = .ok (.added id)) ↔
      manager.connection ≠ .deleted ∧ Unknown bundle manager.store.records ∧
        (newcomer? manager.network manager.owned bundle).isSome = true := by
  constructor
  · intro added
    obtain ⟨id, added⟩ := added
    have live := live_of_recover_ok added
    rcases located_or_unknown bundle manager.store.records with
      ⟨index, record, located⟩ | unknown
    · rw [(recover_located live located).result_eq, Except.ok.injEq] at added
      split at added <;> cases added
    · refine ⟨live, unknown, ?_⟩
      cases found : TransferDirection.find manager.owned bundle.source bundle.target with
      | some direction => rw [newcomer?, found]; rfl
      | none =>
        rw [(recover_unrelated live unknown found).result_eq] at added
        cases added
  · intro conditions
    obtain ⟨live, unknown, involved⟩ := conditions
    obtain ⟨record, made⟩ := Option.isSome_iff_exists.1 involved
    obtain ⟨direction, found, -⟩ := newcomer?_eq_some made
    exact ⟨_, (recover_added live unknown found).result_eq⟩

/-! ## Runs -/

/-- If a known transfer is unknown after a run, some bundle of the run has estranged it. -/
theorem exists_estranges_of_unknown_after (known : ¬Unknown bundle manager.store.records)
    {operations : List Operation} (unknown : Unknown bundle (manager.after operations).store.records) :
    ∃ part other, part ++ [.recover other] <+: operations ∧
      (manager.after part).connection ≠ .deleted ∧
      estranges bundle (manager.after part).store.records other = true := by
  induction operations using List.reverseRecOn with
  | nil => exact absurd unknown known
  | append_singleton operations operation ih =>
    by_cases still : Unknown bundle (manager.after operations).store.records
    · obtain ⟨part, other, before, live, loses⟩ := ih still
      exact ⟨part, other, before.trans (List.prefix_append _ _), live, loses⟩
    · -- the last operation is the one
      rw [after_append, after_cons, after_nil] at unknown
      rcases (manager.after operations).perform_cases_inMemory operation with
        ⟨other, rfl, live, next⟩ | ⟨connection, height, next⟩
      · rw [next] at unknown
        exact ⟨operations, other, List.prefix_rfl, live, (estranges_iff _ _).2 ⟨still, unknown⟩⟩
      · rw [next] at unknown
        exact absurd unknown still

/-- A transfer that has a record with the hash of a bundle stays known to that bundle, whatever
happens. -/
theorem not_added_again_of_hash (kept : HashKept bundle manager.store.records)
    (operations : List Operation) (id : TransferId) :
    ((manager.after operations).recover bundle).result ≠ .ok (.added id) := by
  have still : HashKept bundle (manager.after operations).store.records :=
    records_after_induction kept fun _ other _ before => before.absorb other
  intro added
  obtain ⟨-, unknown, -⟩ := recover_added_iff.1 ⟨id, added⟩
  exact still.not_unknown unknown

/-- A bundle that was accepted is added again at some point of a run just if it involves the wallet
and some bundle of the run estranges it when it comes. -/
theorem added_again_iff (manager : Manager MemoryStore) (bundle : TransferBundle)
    (built : bundle.IsBuilt) (outcome : Reconciled)
    (accepted : (manager.recover bundle).result = .ok outcome) (operations : List Operation) :
    let later (part : List Operation) := (manager.recover bundle).manager.after part
    (∃ part, part <+: operations ∧ ∃ id, ((later part).recover bundle).result = .ok (.added id)) ↔
      (manager.owned.contains bundle.source || manager.owned.contains bundle.target) = true ∧
        ∃ part other, part ++ [.recover other] <+: operations ∧
          (later part).connection ≠ .deleted ∧
          estranges bundle (later part).store.records other = true := by
  intro later
  have setUp (part : List Operation) :
      (later part).network = manager.network ∧ (later part).owned = manager.owned :=
    manager.setUp_after (.recover bundle :: part)
  have involvement : (newcomer? manager.network manager.owned bundle).isSome = _ := newcomer?_isSome
  rw [← involvement]
  constructor
  · intro added
    obtain ⟨part, before, added⟩ := added
    obtain ⟨-, unknown, involved⟩ := recover_added_iff.1 added
    rw [(setUp part).1, (setUp part).2] at involved
    obtain ⟨-, record, located, -⟩ := reflects_of_recover_ok built accepted
    obtain ⟨earlier, other, within, live, loses⟩ :=
      exists_estranges_of_unknown_after located.not_unknown unknown
    exact ⟨involved, earlier, other, within.trans before, live, loses⟩
  · intro estranged
    obtain ⟨involved, part, other, before, live, loses⟩ := estranged
    have next : later (part ++ [.recover other]) = (later part).withRecords
        (absorb (later part).network (later part).owned (later part).store.records other) := by
      change (manager.recover bundle).manager.after _ = _
      rw [after_append]
      exact recover_manager live
    refine ⟨_, before, recover_added_iff.2 ?_⟩
    rw [(setUp _).1, (setUp _).2]
    refine ⟨?_, ?_, involved⟩
    · rw [next]
      exact live
    · rw [next]
      exact ((estranges_iff _ _).1 loses).2

/-- The source gives the transfer another correlation id after its hash has become known. -/
theorem added_again_iff_reassigned :
    let manager := fresh { network := .btc, addresses := ["me"] }
    let seen := TransferBundle.ofOneUnit none (some "u") "them" "me" "btc"
    let hashed := TransferBundle.ofOneUnit (some "h") (some "u") "them" "me" "btc"
    let reassigned := TransferBundle.ofOneUnit (some "h") (some "v") "them" "me" "btc"
    let later (part : List Operation) := (manager.recover seen).manager.after part
    seen.IsBuilt ∧ (manager.recover seen).result = .ok (.added ⟨0⟩) ∧
      estranges seen (later [.recover hashed]).store.records reassigned = true ∧
      ∃ part, part <+: [.recover hashed, .recover reassigned] ∧
        ∃ id, ((later part).recover seen).result = .ok (.added id) := by
  intro manager seen hashed reassigned later
  have built : seen.IsBuilt :=
    ⟨.submitted, [.text .uids "u", .text .source "them", .text .target "me", .text .amount "1",
      .text .currency "btc"], by decide⟩
  have accepted : (manager.recover seen).result = .ok (.added ⟨0⟩) := by decide
  have loses : estranges seen (later [.recover hashed]).store.records reassigned = true := by decide
  have again := added_again_iff manager seen built _ accepted [.recover hashed, .recover reassigned]
  exact ⟨built, accepted, loses,
    again.2 ⟨by decide, [.recover hashed], reassigned, List.prefix_rfl, by decide, loses⟩⟩

/-- A payment that is first seen under one correlation id, then with its hash, and then under another
correlation id: when the first bundle comes again, it makes a second record, and one unit received
counts as two. -/
theorem reassigned_transfer_stored_twice :
    let manager := fresh { network := .btc, addresses := ["me"] }
    let seen := TransferBundle.ofOneUnit none (some "u") "them" "me" "btc"
    let later := (manager.recover seen).manager.delivered
      [.ofOneUnit (some "h") (some "u") "them" "me" "btc",
       .ofOneUnit (some "h") (some "v") "them" "me" "btc"]
    (manager.recover seen).result = .ok (.added ⟨0⟩) ∧
      (later.recover seen).result = .ok (.added ⟨1⟩) ∧
      (later.recover seen).manager.balance = .ok 200000000 := by
  decide

end WalletLedger.Manager
