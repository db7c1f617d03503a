import WalletLedger.Proofs.Manager.Run

/-!
# Connection and height over runs

What a run does to the connection and the height of a manager can be read off the
operations of the run and which of them are accepted, whatever the store does
meanwhile. Refused operations count for nothing, and so do recovered transfers.

* `connection_after`: the connection is in the state that the last accepted move
  asks for, a move being an operation that asks for a state of the connection.
* `max?_reportedHeights`: the height is the greatest one that was reported. A
  height is always reported by setting it, and by the end of a synchronization
  only if the synchronization was going on.

Each is carried by a lemma about one operation, `connection_perform` and
`height_perform`. Main statement: `control_follows_accepted_moves`.
-/

namespace WalletLedger

/-! ## What operations ask for -/

namespace Operation

/-- The state of the connection that an operation asks for, if it asks for one. -/
def destination? : Operation → Option Connection
  | .connect | .completeSync _ => some .connected
  | .disconnect reason => some (.disconnected reason)
  | .sync => some .syncing
  | .delete => some .deleted
  | .setHeight _ | .recover _ => none

/-- The height of the chain that an operation reports, given whether it is accepted. -/
def reportedHeight? (accepted : Bool) : Operation → Option UInt64
  | .setHeight height => some height
  | .completeSync height => if accepted then some height else none
  | _ => none

theorem eq_sync_of_destination? {operation : Operation}
    (asks : operation.destination? = some .syncing) : operation = .sync := by
  cases operation with
  | sync => rfl
  | connect | disconnect _ | completeSync _ | setHeight _ | delete | recover _ => cases asks

end Operation

theorem Step.isOk_mapResult {σ α β : Type} (step : Step σ α) (f : α → β) :
    (step.mapResult f).result.isOk = step.result.isOk := by
  unfold mapResult
  cases step.result <;> rfl

namespace Manager

variable {σ : Type}

/-! ## One operation -/

theorem connection_transition (manager : Manager σ) (action : ManagerAction)
    (allowed : Connection → Bool) (next : Connection) :
    (manager.transition action allowed next).manager.connection =
      if (manager.transition action allowed next).result.isOk then next
      else manager.connection := by
  rw [transition_manager, transition_result]
  split <;> rfl

theorem height_transition (manager : Manager σ) (action : ManagerAction)
    (allowed : Connection → Bool) (next : Connection) :
    (manager.transition action allowed next).manager.height = manager.height := by
  rw [transition_manager]
  split <;> rfl

theorem connection_setHeight (manager : Manager σ) (height : UInt64) :
    (manager.setHeight height).manager.connection = manager.connection := by
  rw [setHeight_manager]
  split <;> rfl

theorem height_setHeight (manager : Manager σ) (height : UInt64) :
    (manager.setHeight height).manager.height = max manager.height height := by
  rw [setHeight_manager]
  change _ = if manager.height ≤ height then height else manager.height
  split
  · next notAbove =>
    split
    · next notBelow => exact UInt64.le_antisymm notBelow notAbove
    · rfl
  · next above => rw [if_pos (UInt64.le_of_lt (UInt64.not_le.1 above))]

theorem completeSync_ok_iff (manager : Manager σ) (height : UInt64) :
    (manager.completeSync height).result = .ok () ↔ manager.connection = .syncing := by
  rw [completeSync_result]
  split
  · next syncing => exact iff_of_true rfl syncing
  · next idle => exact iff_of_false nofun idle

variable [TransferStore σ]

/-- Recovering a transfer changes nothing but the store. -/
theorem exists_store_recover (manager : Manager σ) (bundle : TransferBundle) :
    ∃ store, (manager.recover bundle).manager = { manager with store } := by
  have unchanged : manager = { manager with store := manager.store } := rfl
  unfold recover
  split
  · exact ⟨_, unchanged⟩
  · cases TransferStore.find manager.store bundle.hash bundle.uids bundle.target with
    | error error => exact ⟨_, unchanged⟩
    | ok found =>
      rcases found with _ | ⟨id, record⟩
      · cases TransferDirection.find manager.owned bundle.source bundle.target with
        | none => exact ⟨_, unchanged⟩
        | some direction =>
          change ∃ store, (manager.addTransfer bundle direction).manager = _
          unfold addTransfer
          dsimp only
          split
          · exact ⟨_, unchanged⟩
          · exact ⟨_, rfl⟩
      · change ∃ store, (manager.mergeTransfer id record bundle).manager = _
        unfold mergeTransfer
        dsimp only
        split
        · exact ⟨_, unchanged⟩
        · split
          · exact ⟨_, unchanged⟩
          · exact ⟨_, rfl⟩

/-- An accepted move takes the connection where it asks for. Nothing else moves the connection. -/
theorem connection_perform (manager : Manager σ) (operation : Operation) :
    (manager.perform operation).manager.connection =
      if (manager.perform operation).result.isOk then
        operation.destination?.getD manager.connection
      else manager.connection := by
  cases operation with
  | connect | disconnect reason | sync | delete =>
    rw [perform, Step.isOk_mapResult]
    exact manager.connection_transition _ _ _
  | completeSync height =>
    rw [perform, Step.isOk_mapResult, completeSync_result]
    change (manager.completeSync height).manager.connection = _
    rw [completeSync_manager]
    split
    · exact connection_setHeight _ height
    · rfl
  | setHeight height =>
    rw [Operation.destination?, Option.getD_none, ite_self]
    exact manager.connection_setHeight height
  | recover bundle =>
    obtain ⟨store, next⟩ := manager.exists_store_recover bundle
    rw [Operation.destination?, Option.getD_none, ite_self]
    change (manager.recover bundle).manager.connection = _
    rw [next]

/-- A reported height counts if it is above the present one. Nothing else moves the height. -/
theorem height_perform (manager : Manager σ) (operation : Operation) :
    (manager.perform operation).manager.height =
      (operation.reportedHeight? (manager.perform operation).result.isOk).elim manager.height
        (max manager.height) := by
  cases operation with
  | connect | disconnect reason | sync | delete => exact manager.height_transition _ _ _
  | completeSync height =>
    rw [perform, Step.isOk_mapResult, completeSync_result]
    change (manager.completeSync height).manager.height = _
    rw [completeSync_manager]
    split
    · exact height_setHeight _ height
    · rfl
  | setHeight height => exact manager.height_setHeight height
  | recover bundle =>
    obtain ⟨store, next⟩ := manager.exists_store_recover bundle
    change (manager.recover bundle).manager.height = _
    rw [next]
    rfl

/-! ## Runs -/

/-- The operations of a run, each with whether it is accepted. -/
def trace (manager : Manager σ) (operations : List Operation) : List (Operation × Bool) :=
  operations.zip ((manager.run operations).map (·.result.isOk))

/-- The operations of a run that move the connection, in their order. -/
def moves (manager : Manager σ) (operations : List Operation) : List Operation :=
  ((manager.trace operations).filter fun entry => entry.2 && entry.1.destination?.isSome).map
    (·.1)

/-- The heights of the chain that a run reports, in their order. -/
def reportedHeights (manager : Manager σ) (operations : List Operation) : List UInt64 :=
  (manager.trace operations).filterMap fun entry => entry.1.reportedHeight? entry.2

theorem length_run (manager : Manager σ) (operations : List Operation) :
    (manager.run operations).length = operations.length := by
  induction operations generalizing manager with
  | nil => rfl
  | cons operation rest ih => exact congrArg Nat.succ (ih _)

theorem trace_concat (manager : Manager σ) (operations : List Operation) (operation : Operation) :
    manager.trace (operations ++ [operation]) =
      manager.trace operations ++
        [(operation, ((manager.after operations).perform operation).result.isOk)] := by
  have lengths : operations.length =
      ((manager.run operations).map (·.result.isOk)).length := by
    rw [List.length_map, length_run]
  rw [trace, run_append, List.map_append, List.zip_append lengths]
  rfl

theorem moves_concat (manager : Manager σ) (operations : List Operation) (operation : Operation) :
    manager.moves (operations ++ [operation]) =
      manager.moves operations ++
        if ((manager.after operations).perform operation).result.isOk &&
          operation.destination?.isSome then [operation] else [] := by
  rw [moves, trace_concat, List.filter_append, List.map_append, List.filter_singleton]
  dsimp only
  cases ((manager.after operations).perform operation).result.isOk &&
    operation.destination?.isSome <;> rfl

theorem reportedHeights_concat (manager : Manager σ) (operations : List Operation)
    (operation : Operation) :
    manager.reportedHeights (operations ++ [operation]) =
      manager.reportedHeights operations ++
        (operation.reportedHeight?
          ((manager.after operations).perform operation).result.isOk).toList := by
  rw [reportedHeights, trace_concat, List.filterMap_append, List.filterMap_cons]
  dsimp only
  cases operation.reportedHeight? ((manager.after operations).perform operation).result.isOk <;>
    rfl

/-- A run without moves leaves the connection as it is, and otherwise the last move decides. -/
theorem connection_after (manager : Manager σ) (operations : List Operation) :
    match (manager.moves operations).getLast? with
    | none => (manager.after operations).connection = manager.connection
    | some move => move.destination? = some (manager.after operations).connection := by
  induction operations using List.reverseRecOn with
  | nil => rfl
  | append_singleton operations operation ih =>
    rw [after_append, after_cons, after_nil, connection_perform, moves_concat]
    cases ((manager.after operations).perform operation).result.isOk with
    | false =>
      rw [Bool.false_and, if_neg Bool.false_ne_true, if_neg Bool.false_ne_true, List.append_nil]
      exact ih
    | true =>
      rw [Bool.true_and, if_pos rfl]
      cases asked : operation.destination? with
      | none =>
        rw [Option.isSome_none, if_neg Bool.false_ne_true, List.append_nil]
        exact ih
      | some destination =>
        rw [Option.isSome_some, if_pos rfl, List.getLast?_concat]
        exact asked

/-- A manager that was not synchronizing does so after a run just if the last move began it. -/
theorem syncing_after_iff {manager : Manager σ} (idle : manager.connection ≠ .syncing)
    (operations : List Operation) :
    (manager.after operations).connection = .syncing ↔
      (manager.moves operations).getLast? = some .sync := by
  have decided := manager.connection_after operations
  cases last : (manager.moves operations).getLast? with
  | none =>
    rw [last] at decided
    exact iff_of_false (fun syncing => idle (decided.symm.trans syncing)) nofun
  | some move =>
    rw [last] at decided
    change move.destination? = _ at decided
    constructor
    · intro syncing
      rw [syncing] at decided
      rw [Operation.eq_sync_of_destination? decided]
    · intro began
      obtain rfl := Option.some.inj began
      exact (Option.some.inj decided).symm

/-- The greatest height that was known before or reported in a run is the height after it. -/
theorem max?_reportedHeights (manager : Manager σ) (operations : List Operation) :
    (manager.height :: manager.reportedHeights operations).max? =
      some (manager.after operations).height := by
  rw [List.max?_cons', Option.some.injEq]
  induction operations using List.reverseRecOn with
  | nil => rfl
  | append_singleton operations operation ih =>
    rw [after_append, after_cons, after_nil, height_perform, reportedHeights_concat,
      List.foldl_append, ih]
    cases operation.reportedHeight? ((manager.after operations).perform operation).result.isOk <;>
      rfl

/-- Connection and height after any run of a new manager. The connection is new as long as no move
was accepted, and otherwise in the state that the last accepted move asked for. A synchronization
can be ended just if the last accepted move began one. The height is the greatest one reported. -/
theorem control_follows_accepted_moves (σ : Type) [TransferStore σ] (config : Config) (store : σ)
    (operations : List Operation) :
    let started := (create config store).manager
    let reached := started.after operations
    let last := (started.moves operations).getLast?
    (match last with
      | none => reached.connection = .created
      | some move => move.destination? = some reached.connection) ∧
      (∀ height, (reached.completeSync height).result = .ok () ↔ last = some .sync) ∧
      (0 :: started.reportedHeights operations).max? = some reached.height := by
  intro started reached last
  have idle : started.connection ≠ .syncing := nofun
  refine ⟨started.connection_after operations, ?_, started.max?_reportedHeights operations⟩
  intro height
  rw [completeSync_ok_iff]
  exact syncing_after_iff idle operations

end Manager

end WalletLedger
