import WalletLedger.Proofs.Bundle.Built
import WalletLedger.Proofs.Manager.Run

/-!
# Delivering a bundle again

A manager that accepted a bundle reflects it: the first record of its transfer
has taken in all that the bundle says. This stays so as long as no other bundle
pays the same target and the manager is not deleted, and a bundle that is
reflected is passed over.
-/

namespace WalletLedger

/-- An operation that neither deletes a manager nor brings a bundle for a target. -/
def Operation.SparesTarget (target : String) : Operation → Prop
  | .delete => False
  | .recover bundle => bundle.target ≠ target
  | _ => True

instance (target : String) : DecidablePred (Operation.SparesTarget target)
  | .delete => inferInstanceAs (Decidable False)
  | .recover bundle => inferInstanceAs (Decidable (bundle.target ≠ target))
  | .connect | .disconnect _ | .sync | .completeSync _ | .setHeight _ =>
    inferInstanceAs (Decidable True)

namespace Manager

/-- The manager can take bundles, and the first record of the transfer of this bundle, which has
this identifier, has taken it in already. -/
structure Reflects (manager : Manager MemoryStore) (bundle : TransferBundle) (id : TransferId) :
    Prop where
  live : manager.connection ≠ .deleted
  settled : ∃ record, Ledger.Located bundle manager.store.records id.index record ∧
    record.merge bundle manager.network = record

variable {manager : Manager MemoryStore} {bundle : TransferBundle} {id : TransferId}

/-! ## Becoming reflected -/

/-- A manager reflects every bundle that it accepts. -/
theorem reflects_of_recover_ok (built : bundle.IsBuilt) {outcome : Reconciled}
    (accepted : (manager.recover bundle).result = .ok outcome) :
    (manager.recover bundle).manager.Reflects bundle outcome.id := by
  have live := live_of_recover_ok accepted
  rcases Ledger.located_or_unknown bundle manager.store.records with
    ⟨index, record, located⟩ | unknown
  · obtain ⟨result, next, -⟩ := recover_located live located
    have id : outcome.id = ⟨index⟩ := by
      rw [result, Except.ok.injEq] at accepted
      rw [← accepted]
      split <;> rfl
    rw [next, id]
    exact ⟨live, _, located.merged manager.network, TransferRecord.merge_merge_self⟩
  · cases found : TransferDirection.find manager.owned bundle.source bundle.target with
    | some direction =>
      obtain ⟨result, next, -⟩ := recover_added live unknown found
      have id : outcome.id = ⟨manager.store.records.length⟩ := by
        rw [result, Except.ok.injEq] at accepted
        rw [← accepted]
        rfl
      rw [next, id]
      exact ⟨live, _, unknown.located_append (TransferRecord.isOf_ofBundle built.identified),
        TransferRecord.ofBundle_merge_self⟩
    | none =>
      rw [(recover_unrelated live unknown found).result_eq] at accepted
      cases accepted

/-! ## Staying reflected -/

theorem Reflects.perform (reflects : manager.Reflects bundle id) {operation : Operation}
    (spares : operation.SparesTarget bundle.target) :
    (manager.perform operation).manager.Reflects bundle id := by
  obtain ⟨live, record, located, same⟩ := reflects
  rcases manager.perform_cases operation with ⟨other, rfl⟩ | ⟨-, connection, height, next, deleting⟩
  · change (manager.recover other).manager.Reflects bundle id
    rw [recover_manager live]
    exact ⟨live, record, located.absorb spares, same⟩
  · rw [next]
    refine ⟨fun deleted => ?_, record, located, same⟩
    rcases deleting deleted with rfl | already
    · exact spares
    · exact live already

theorem Reflects.after (reflects : manager.Reflects bundle id) {operations : List Operation}
    (spare : ∀ operation ∈ operations, operation.SparesTarget bundle.target) :
    (manager.after operations).Reflects bundle id := by
  induction operations generalizing manager with
  | nil => exact reflects
  | cons operation rest ih =>
    obtain ⟨first, others⟩ := List.forall_mem_cons.1 spare
    exact ih (reflects.perform first) others

/-! ## Being passed over -/

/-- A bundle that is reflected changes nothing. -/
theorem Reflects.recover (reflects : manager.Reflects bundle id) :
    (manager.recover bundle).Shows (.ok (.unchanged id)) manager [] := by
  obtain ⟨live, record, located, same⟩ := reflects
  obtain ⟨result, next, events⟩ := recover_located live located
  obtain ⟨within, atIndex⟩ := List.getElem?_eq_some_iff.1 located.found
  rw [same] at result next events
  refine ⟨?_, ?_, ?_⟩
  · rw [result, if_pos rfl]
  · rw [next, ← atIndex, List.set_getElem_self, withRecords_self]
  · rw [events, if_pos rfl]

/-- A bundle that was accepted is passed over when it comes again: whatever happened in between to
the connection, to the height and to the transfers of other targets, it changes nothing and nothing
is announced. -/
theorem recover_again_unchanged (manager : Manager MemoryStore) (bundle : TransferBundle)
    (built : bundle.IsBuilt) (outcome : Reconciled)
    (accepted : (manager.recover bundle).result = .ok outcome) (operations : List Operation)
    (spare : ∀ operation ∈ operations, operation.SparesTarget bundle.target) :
    let later := (manager.recover bundle).manager.after operations
    (later.recover bundle).result = .ok (.unchanged outcome.id) ∧
      (later.recover bundle).manager = later ∧
      Notice.events (later.recover bundle).notices = [] := by
  have reflects := (reflects_of_recover_ok built accepted).after spare
  obtain ⟨result, same, events⟩ := reflects.recover
  exact ⟨result, same, events⟩

/-- The bundle that brings the hash to a record known by its correlation id only, and comes again
after the wallet has paid somebody else. -/
theorem recover_again_unchanged_after_payment :
    let manager := (fresh { network := .eth, addresses := ["me"] }).delivered
      [.ofOneUnit none (some "u") "them" "me" "eth"]
    let bundle := TransferBundle.ofOneUnit (some "h") (some "u") "them" "me" "eth"
    let operations : List Operation :=
      [.connect, .recover (.ofOneUnit (some "h") none "me" "shop" "eth"), .sync, .completeSync 7]
    let later := (manager.recover bundle).manager.after operations
    bundle.IsBuilt ∧ (manager.recover bundle).result = .ok (.updated ⟨0⟩) ∧
      (∀ operation ∈ operations, operation.SparesTarget bundle.target) ∧
      (later.recover bundle).result = .ok (.unchanged ⟨0⟩) ∧
      (later.recover bundle).manager = later ∧
      Notice.events (later.recover bundle).notices = [] := by
  intro manager bundle operations later
  have built : bundle.IsBuilt :=
    ⟨.submitted, [.text .hash "h", .text .uids "u", .text .source "them", .text .target "me",
      .text .amount "1", .text .currency "eth"], by decide⟩
  have accepted : (manager.recover bundle).result = .ok (.updated ⟨0⟩) := by decide
  have spare : ∀ operation ∈ operations, operation.SparesTarget bundle.target := by decide
  exact ⟨built, accepted, spare,
    recover_again_unchanged manager bundle built _ accepted operations spare⟩

end Manager

end WalletLedger
