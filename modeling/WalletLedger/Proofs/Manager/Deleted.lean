import WalletLedger.Manager.Balance
import WalletLedger.Proofs.Bundle.Built
import WalletLedger.Proofs.Manager.Run

/-!
# Deleted managers

Deleting is for good. A deleted manager refuses whatever could move its
connection or reach its store, and says that it is deleted (`perform_deleted`).
All that it still does is to take note of heights of the chain, so that a run
changes nothing else (`after_deleted`) and announces nothing else
(`events_run_deleted`). Main statement: `deleted_for_good`.
-/

namespace WalletLedger

/-- What an operation is called when it is refused for the state of the connection. Taking note of a
height never is. -/
def Operation.action? : Operation → Option ManagerAction
  | .connect => some .connect
  | .disconnect _ => some .disconnect
  | .sync => some .sync
  | .completeSync _ => some .completeSync
  | .setHeight _ => none
  | .delete => some .delete
  | .recover _ => some .reconcile

theorem Operation.eq_setHeight_of_action? {operation : Operation}
    (never : operation.action? = none) : ∃ height, operation = .setHeight height := by
  cases operation with
  | setHeight height => exact ⟨height, rfl⟩
  | connect | disconnect _ | sync | completeSync _ | delete | recover _ => cases never

namespace Manager

variable {σ : Type} {manager : Manager σ}

/-! ## One operation -/

theorem transition_deleted (deleted : manager.connection = .deleted) (action : ManagerAction)
    {allowed : Connection → Bool} (next : Connection) (living : allowed .deleted = false) :
    manager.transition action allowed next =
      manager.refuse (.invalidTransition .deleted action) := by
  unfold transition
  rw [deleted, living]
  rfl

variable [TransferStore σ]

/-- A deleted manager refuses every operation but the taking note of a height. -/
theorem perform_deleted (deleted : manager.connection = .deleted) {operation : Operation}
    {action : ManagerAction} (called : operation.action? = some action) :
    manager.perform operation = manager.refuse (.invalidTransition .deleted action) := by
  have refused (action : ManagerAction) {allowed : Connection → Bool} (next : Connection)
      (living : allowed .deleted = false) :
      (manager.transition action allowed next).mapResult (fun _ => none) =
        (manager.refuse (.invalidTransition .deleted action) : Step σ (Option Reconciled)) := by
    rw [transition_deleted deleted action next living]
    rfl
  cases operation with
  | setHeight height => cases called
  | connect | disconnect reason | sync | delete =>
    cases called
    exact refused _ _ rfl
  | completeSync height =>
    cases called
    rw [perform, completeSync, transition_deleted deleted .completeSync .connected rfl]
    rfl
  | recover bundle =>
    cases called
    rw [perform, recover, if_pos deleted]
    rfl

/-- An operation changes nothing of a deleted manager but the height, and announces nothing else. -/
theorem perform_deleted_frame (deleted : manager.connection = .deleted) (operation : Operation) :
    (∃ height, (manager.perform operation).manager = { manager with height }) ∧
      ∀ event ∈ Notice.events (manager.perform operation).notices,
        ∃ height, event = .heightUpdated height := by
  cases called : operation.action? with
  | some action =>
    rw [perform_deleted deleted called]
    exact ⟨⟨manager.height, rfl⟩, List.forall_mem_nil _⟩
  | none =>
    obtain ⟨height, rfl⟩ := Operation.eq_setHeight_of_action? called
    change (∃ height', (manager.setHeight height).manager = _) ∧
      ∀ event ∈ Notice.events (manager.setHeight height).notices, _
    unfold setHeight
    split
    · exact ⟨⟨manager.height, rfl⟩, List.forall_mem_nil _⟩
    · exact ⟨⟨height, rfl⟩, fun event mem => ⟨height, List.mem_singleton.1 mem⟩⟩

/-! ## Runs -/

theorem after_deleted (deleted : manager.connection = .deleted) (operations : List Operation) :
    ∃ height, manager.after operations = { manager with height } := by
  induction operations generalizing manager with
  | nil => exact ⟨manager.height, rfl⟩
  | cons operation rest ih =>
    obtain ⟨⟨height, next⟩, -⟩ := perform_deleted_frame deleted operation
    have still : (manager.perform operation).manager.connection = .deleted := by
      rw [next]
      exact deleted
    obtain ⟨last, after⟩ := ih still
    refine ⟨last, ?_⟩
    rw [after_cons, after, next]

theorem events_run_deleted (deleted : manager.connection = .deleted)
    (operations : List Operation) :
    ∀ step ∈ manager.run operations, ∀ event ∈ Notice.events step.notices,
      ∃ height, event = .heightUpdated height := by
  induction operations generalizing manager with
  | nil => exact List.forall_mem_nil _
  | cons operation rest ih =>
    obtain ⟨⟨height, next⟩, onlyHeights⟩ := perform_deleted_frame deleted operation
    have still : (manager.perform operation).manager.connection = .deleted := by
      rw [next]
      exact deleted
    exact List.forall_mem_cons.2 ⟨onlyHeights, ih still⟩

/-- Once a manager is deleted, nothing brings it back. However it goes on, it is deleted, refuses
every operation but the taking note of a height, keeps its records and with them its balances, and
announces nothing but heights. -/
theorem deleted_for_good (σ : Type) [TransferStore σ] (config : Config) (store : σ)
    (first later : List Operation)
    (deletes : ((create config store).manager.after first).delete.result = .ok ()) :
    let deleted := (create config store).manager.after (first ++ [.delete])
    let reached := deleted.after later
    reached.connection = .deleted ∧
      (∀ operation action, operation.action? = some action →
        reached.perform operation = reached.refuse (.invalidTransition .deleted action)) ∧
      reached.store = deleted.store ∧
      reached.balance = deleted.balance ∧
      (∀ currency decimals,
        reached.tokenBalance currency decimals = deleted.tokenBalance currency decimals) ∧
      ∀ step ∈ deleted.run later, ∀ event ∈ Notice.events step.notices,
        ∃ height, event = .heightUpdated height := by
  intro deleted reached
  have gone : deleted.connection = .deleted := by
    change ((create config store).manager.after (first ++ [.delete])).connection = _
    rw [after_append, after_cons, after_nil]
    change (Manager.delete _).manager.connection = _
    rw [delete, transition_result] at deletes
    rw [delete, transition_manager]
    split at deletes
    · next allowed => rw [if_pos allowed]
    · cases deletes
  obtain ⟨height, after⟩ : ∃ height, reached = { deleted with height } := after_deleted gone later
  have still : reached.connection = .deleted := by
    rw [after]
    exact gone
  refine ⟨still, ?_, ?_, ?_, ?_, events_run_deleted gone later⟩
  · intro operation action called
    exact perform_deleted still called
  · rw [after]
  · rw [after]
    rfl
  · intro currency decimals
    rw [after]
    rfl

/-- A manager is deleted in the middle of a synchronization. The synchronization cannot be ended, a
payment that is stored already is refused when it comes again, and the height still rises. -/
theorem deleted_for_good_while_syncing :
    let payment := TransferBundle.ofOneUnit (some "h") none "them" "me" "btc"
    let config : Config := { network := .btc, addresses := ["me"] }
    let first : List Operation := [.connect, .recover payment, .sync]
    let later : List Operation := [.completeSync 9, .recover payment, .setHeight 12, .connect]
    let reached := ((fresh config).after (first ++ [.delete])).after later
    ((fresh config).after first).delete.result = .ok () ∧
      reached.connection = .deleted ∧ reached.height = 12 ∧
      reached.perform (.recover payment) =
        reached.refuse (.invalidTransition .deleted .reconcile) ∧
      reached.balance = .ok 100000000 := by
  intro payment config first later reached
  have deletes : ((fresh config).after first).delete.result = .ok () := by decide
  obtain ⟨still, refuses, -, balance, -, -⟩ :=
    deleted_for_good MemoryStore config .empty first later deletes
  have before : ((fresh config).after (first ++ [.delete])).balance = .ok 100000000 := by decide
  exact ⟨deletes, still, by decide, refuses (.recover payment) .reconcile rfl,
    balance.trans before⟩

end Manager

end WalletLedger
