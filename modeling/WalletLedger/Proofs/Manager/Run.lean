import WalletLedger.Manager.Operation
import WalletLedger.Proofs.Manager.Recovery
import Mathlib.Data.List.Induction

/-!
# Where runs lead

The manager that a run leaves behind, and what no operation of a run changes. An
operation that recovers no transfer touches neither the store nor the set-up of
the manager (`perform_cases`), and only deleting leads to a deleted manager.

Over a store in memory, what the records keep when they absorb a bundle they keep
in every run (`records_after_induction`). Delivering bundles is a run of its own
kind: `delivered_eq` says that the records absorb the bundles one after another.
-/

namespace WalletLedger.Manager

section AnyStore

variable {σ : Type}

/-! ## Connection and height -/

theorem transition_manager (manager : Manager σ) (action : ManagerAction)
    (allowed : Connection → Bool) (next : Connection) :
    (manager.transition action allowed next).manager =
      if allowed manager.connection then { manager with connection := next } else manager := by
  unfold transition
  split <;> rfl

theorem transition_result (manager : Manager σ) (action : ManagerAction)
    (allowed : Connection → Bool) (next : Connection) :
    (manager.transition action allowed next).result =
      if allowed manager.connection then .ok ()
      else .error (.invalidTransition manager.connection.stage action) := by
  unfold transition
  split <;> rfl

theorem setHeight_manager (manager : Manager σ) (height : UInt64) :
    (manager.setHeight height).manager =
      if height ≤ manager.height then manager else { manager with height } := by
  unfold setHeight
  split <;> rfl

theorem setHeight_result (manager : Manager σ) (height : UInt64) :
    (manager.setHeight height).result = .ok () := by
  unfold setHeight
  split <;> rfl

theorem completeSync_manager (manager : Manager σ) (height : UInt64) :
    (manager.completeSync height).manager =
      if manager.connection = .syncing then
        (({ manager with connection := .connected } : Manager σ).setHeight height).manager
      else manager := by
  unfold completeSync transition
  by_cases syncing : manager.connection = .syncing
  · simp [syncing, Step.andThen]
  · simp [syncing, Step.andThen, refuse]

theorem completeSync_result (manager : Manager σ) (height : UInt64) :
    (manager.completeSync height).result =
      if manager.connection = .syncing then .ok ()
      else .error (.invalidTransition manager.connection.stage .completeSync) := by
  have ends := manager.transition_result .completeSync (· = .syncing) .connected
  unfold completeSync Step.andThen
  by_cases syncing : manager.connection = .syncing
  · rw [decide_eq_true syncing, if_pos rfl] at ends
    rw [ends, if_pos syncing]
    exact setHeight_result _ height
  · rw [decide_eq_false syncing, if_neg Bool.false_ne_true] at ends
    rw [ends, if_neg syncing]

variable [TransferStore σ]

/-! ## The manager after a run -/

/-- The manager that the last step of a run leaves behind. -/
def after (manager : Manager σ) (operations : List Operation) : Manager σ :=
  operations.foldl (fun manager operation => (manager.perform operation).manager) manager

@[simp] theorem after_nil (manager : Manager σ) : manager.after [] = manager := rfl

@[simp] theorem after_cons (manager : Manager σ) (operation : Operation) (rest : List Operation) :
    manager.after (operation :: rest) = (manager.perform operation).manager.after rest := rfl

theorem after_append (manager : Manager σ) (first second : List Operation) :
    manager.after (first ++ second) = (manager.after first).after second :=
  List.foldl_append

/-- A run in two parts: the second one starts from the manager after the first one. -/
theorem run_append (manager : Manager σ) (first second : List Operation) :
    manager.run (first ++ second) = manager.run first ++ (manager.after first).run second := by
  induction first generalizing manager with
  | nil => rfl
  | cons operation rest ih =>
    rw [List.cons_append, run, run, ih, List.cons_append, after_cons]

theorem take_run (manager : Manager σ) (operations : List Operation) (n : Nat) :
    (manager.run operations).take n = manager.run (operations.take n) := by
  induction operations generalizing manager n with
  | nil => rw [run, List.take_nil, List.take_nil, run]
  | cons operation rest ih =>
    cases n with
    | zero => rfl
    | succ n => exact congrArg (List.cons _) (ih _ n)

theorem drop_run (manager : Manager σ) (operations : List Operation) (n : Nat) :
    (manager.run operations).drop n =
      (manager.after (operations.take n)).run (operations.drop n) := by
  induction operations generalizing manager n with
  | nil => rw [run, List.drop_nil, List.drop_nil, run]
  | cons operation rest ih =>
    cases n with
    | zero => rfl
    | succ n => exact ih _ n

/-- The steps between two points of a run are a run from the first point, which leads to the second
one. -/
theorem run_between (manager : Manager σ) (operations : List Operation) {p q : Nat}
    (ordered : p ≤ q) :
    let stretch := (operations.take q).drop p
    ((manager.run operations).take q).drop p = (manager.after (operations.take p)).run stretch ∧
      manager.after (operations.take q) = (manager.after (operations.take p)).after stretch := by
  intro stretch
  have front : (operations.take q).take p = operations.take p := by
    rw [List.take_take, Nat.min_eq_left ordered]
  constructor
  · rw [take_run, drop_run, front]
  · rw [← after_append, ← front, List.take_append_drop]

/-! ## What an operation leaves alone -/

/-- An operation recovers a transfer, or it changes nothing but the connection and the height; and
only deleting leads to a deleted manager. -/
theorem perform_cases (manager : Manager σ) (operation : Operation) :
    (∃ bundle, operation = .recover bundle) ∨
      (∀ bundle, operation ≠ .recover bundle) ∧ ∃ connection height,
        (manager.perform operation).manager = { manager with connection, height } ∧
          (connection = .deleted → operation = .delete ∨ manager.connection = .deleted) := by
  by_cases recovers : ∃ bundle, operation = .recover bundle
  · exact .inl recovers
  refine .inr ⟨fun bundle same => recovers ⟨bundle, same⟩, ?_⟩
  have unchanged : manager =
      { manager with connection := manager.connection, height := manager.height } := rfl
  have moved (action : ManagerAction) (allowed : Connection → Bool) (next : Connection)
      (deleting : next = .deleted → operation = .delete ∨ manager.connection = .deleted) :
      ∃ connection height,
        (manager.transition action allowed next).manager = { manager with connection, height } ∧
          (connection = .deleted → operation = .delete ∨ manager.connection = .deleted) := by
    rw [transition_manager]
    split
    · exact ⟨next, manager.height, rfl, deleting⟩
    · exact ⟨_, _, unchanged, .inr⟩
  cases operation with
  | connect => exact moved .connect Connection.canConnect .connected nofun
  | disconnect reason =>
    exact moved .disconnect Connection.canDisconnect (.disconnected reason) nofun
  | sync => exact moved .sync (· = .connected) .syncing nofun
  | delete => exact moved .delete (· ≠ .deleted) .deleted fun _ => .inl rfl
  | recover bundle => exact absurd ⟨bundle, rfl⟩ recovers
  | setHeight height =>
    change ∃ _ _, (manager.setHeight height).manager = _ ∧ _
    rw [setHeight_manager]
    split
    · exact ⟨_, _, unchanged, .inr⟩
    · exact ⟨_, _, rfl, .inr⟩
  | completeSync height =>
    change ∃ _ _, (manager.completeSync height).manager = _ ∧ _
    rw [completeSync_manager, setHeight_manager]
    split
    · split
      · exact ⟨_, _, rfl, nofun⟩
      · exact ⟨_, _, rfl, nofun⟩
    · exact ⟨_, _, unchanged, .inr⟩

/-! ## Delivering bundles -/

/-- The steps of delivering bundles one after another. -/
def deliver (manager : Manager σ) : List TransferBundle → List (Step σ Reconciled)
  | [] => []
  | bundle :: rest =>
    let step := manager.recover bundle
    step :: step.manager.deliver rest

/-- The manager after bundles were delivered one after another. -/
def delivered (manager : Manager σ) (bundles : List TransferBundle) : Manager σ :=
  manager.after (bundles.map .recover)

@[simp] theorem delivered_cons (manager : Manager σ) (bundle : TransferBundle)
    (rest : List TransferBundle) :
    manager.delivered (bundle :: rest) = (manager.recover bundle).manager.delivered rest := rfl

theorem delivered_append (manager : Manager σ) (first second : List TransferBundle) :
    manager.delivered (first ++ second) = (manager.delivered first).delivered second := by
  rw [delivered, List.map_append, after_append]
  rfl

end AnyStore

/-! ## Stores in memory -/

/-- A manager as it is set up over a store without records. -/
def fresh (config : Config) : Manager MemoryStore :=
  (create config MemoryStore.empty).manager

/-- An operation lets the records absorb a bundle, or changes nothing but the connection and the
height. -/
theorem perform_cases_inMemory (manager : Manager MemoryStore) (operation : Operation) :
    (∃ bundle, operation = .recover bundle ∧ manager.connection ≠ .deleted ∧
        (manager.perform operation).manager = manager.withRecords
          (Ledger.absorb manager.network manager.owned manager.store.records bundle)) ∨
      ∃ connection height,
        (manager.perform operation).manager = { manager with connection, height } := by
  rcases manager.perform_cases operation with ⟨bundle, rfl⟩ | ⟨-, connection, height, next, -⟩
  · change (∃ _, _ ∧ _ ∧ (manager.recover bundle).manager = _) ∨ ∃ _ _,
      (manager.recover bundle).manager = _
    by_cases deleted : manager.connection = .deleted
    · exact .inr ⟨_, _, (recover_deleted deleted).manager_eq⟩
    · exact .inl ⟨bundle, rfl, deleted, recover_manager deleted⟩
  · exact .inr ⟨connection, height, next⟩

/-- No run changes the set-up of a manager. -/
theorem setUp_after (manager : Manager MemoryStore) (operations : List Operation) :
    (manager.after operations).network = manager.network ∧
      (manager.after operations).owned = manager.owned := by
  induction operations generalizing manager with
  | nil => exact ⟨rfl, rfl⟩
  | cons operation rest ih =>
    obtain ⟨network, owned⟩ := ih (manager.perform operation).manager
    rw [after_cons, network, owned]
    rcases manager.perform_cases_inMemory operation with ⟨bundle, -, -, next⟩ | ⟨_, _, next⟩
    · exact ⟨by rw [next]; rfl, by rw [next]; rfl⟩
    · exact ⟨by rw [next], by rw [next]⟩

/-- What holds of the records at first and still holds whenever they have absorbed a bundle of the
run holds of them after the run. -/
theorem records_after_induction {motive : List TransferRecord → Prop}
    {manager : Manager MemoryStore} {operations : List Operation}
    (start : motive manager.store.records)
    (absorbs : ∀ records bundle, .recover bundle ∈ operations → motive records →
      motive (Ledger.absorb manager.network manager.owned records bundle)) :
    motive (manager.after operations).store.records := by
  induction operations using List.reverseRecOn with
  | nil => exact start
  | append_singleton operations operation ih =>
    have before := ih fun records bundle mem =>
      absorbs records bundle (List.mem_append_left _ mem)
    rw [after_append]
    obtain ⟨network, owned⟩ := manager.setUp_after operations
    rcases (manager.after operations).perform_cases_inMemory operation with
      ⟨bundle, rfl, -, next⟩ | ⟨_, _, next⟩
    · rw [after_cons, after_nil, next, network, owned]
      exact absorbs _ bundle List.mem_concat_self before
    · rw [after_cons, after_nil, next]
      exact before

/-- The records absorb the bundles that are delivered, and nothing else changes. -/
theorem delivered_eq {manager : Manager MemoryStore} (live : manager.connection ≠ .deleted)
    (bundles : List TransferBundle) :
    manager.delivered bundles =
      manager.withRecords
        (bundles.foldl (Ledger.absorb manager.network manager.owned) manager.store.records) := by
  induction bundles generalizing manager with
  | nil => rfl
  | cons bundle rest ih =>
    rw [delivered_cons, recover_manager live]
    have next : (manager.withRecords (Ledger.absorb manager.network manager.owned
        manager.store.records bundle)).connection ≠ .deleted := live
    exact ih next

theorem fresh_delivered_eq (config : Config) (bundles : List TransferBundle) :
    (fresh config).delivered bundles = (fresh config).withRecords
      (bundles.foldl (Ledger.absorb config.network (.ofList config.addresses)) []) := by
  have live : (fresh config).connection ≠ .deleted := nofun
  exact delivered_eq live bundles

theorem fresh_delivered_network (config : Config) (bundles : List TransferBundle) :
    ((fresh config).delivered bundles).network = config.network :=
  congrArg Manager.network (fresh_delivered_eq config bundles)

end WalletLedger.Manager
