import WalletLedger.Proofs.Manager.Replica
import WalletLedger.Proofs.Manager.Run

/-!
# The events of a manager as a journal

Every operation announces exactly what it changed (`tellsFrom_perform`): nothing
if it is refused or changes nothing that a replica knows, and two changes if a
synchronization ends at a new height. So whoever receives the events of a manager
from its creation on can replay them, and ends at the manager as it is.

Main statement: `announced_events_recount`, which also says what such events are,
kind by kind.
-/

namespace WalletLedger

/-- What there is to know of a manager from its events. -/
def Manager.replica (manager : Manager MemoryStore) : Replica where
  connection := manager.connection
  height := manager.height
  states := manager.store.records.map (·.state)

/-! ## Steps that tell what they change -/

/-- The events of a step that starts from a manager tell all that a replica has to know of it, and
the step does not turn the receiver away. -/
structure Step.TellsFrom {α : Type} (manager : Manager MemoryStore) (step : Step MemoryStore α) :
    Prop where
  listening : step.manager.listening = manager.listening
  replays : manager.replica.Replays (Notice.events step.notices) step.manager.replica

namespace Step.TellsFrom

variable {α β : Type} {manager : Manager MemoryStore} {step : Step MemoryStore α}

theorem refuse (error : ManagerError) :
    Step.TellsFrom manager (manager.refuse error : Step MemoryStore α) :=
  ⟨rfl, .done _⟩

theorem of_shows {result : Except ManagerError α} {next : Manager MemoryStore} {events : List Event}
    (comesTo : step.Shows result next events) (listening : next.listening = manager.listening)
    (replays : manager.replica.Replays events next.replica) : step.TellsFrom manager := by
  obtain ⟨-, rfl, rfl⟩ := comesTo
  exact ⟨listening, replays⟩

theorem mapResult (tells : step.TellsFrom manager) (f : α → β) :
    (step.mapResult f).TellsFrom manager :=
  ⟨tells.listening, tells.replays⟩

theorem andThen {next : Manager MemoryStore → Step MemoryStore β} (tells : step.TellsFrom manager)
    (tellsNext : (next step.manager).TellsFrom step.manager) :
    (step.andThen next).TellsFrom manager := by
  unfold Step.andThen
  cases step.result with
  | error error => exact ⟨tells.listening, tells.replays⟩
  | ok answer =>
    refine ⟨tellsNext.listening.trans tells.listening, ?_⟩
    change manager.replica.Replays (Notice.events (_ ++ _)) _
    rw [Manager.events_append]
    exact tells.replays.append tellsNext.replays

end Step.TellsFrom

namespace Manager

variable {manager : Manager MemoryStore}

/-- A change of the connection is told if it leads away from the states that allow it. -/
theorem tellsFrom_transition (action : ManagerAction) {allowed : Connection → Bool}
    {next : Connection} (away : allowed next = false) :
    (manager.transition action allowed next).TellsFrom manager := by
  unfold transition
  split
  · next present =>
    have changed : next ≠ manager.connection := by
      intro same
      rw [← same, away] at present
      cases present
    exact ⟨rfl, .connection changed (.done _)⟩
  · exact .refuse _

theorem tellsFrom_setHeight (height : UInt64) : (manager.setHeight height).TellsFrom manager := by
  unfold setHeight
  split
  · exact ⟨rfl, .done _⟩
  · next above => exact ⟨rfl, .height (UInt64.not_le.1 above) (.done _)⟩

theorem tellsFrom_completeSync (height : UInt64) :
    (manager.completeSync height).TellsFrom manager :=
  (tellsFrom_transition .completeSync rfl).andThen (tellsFrom_setHeight height)

/-- A bundle is told if it adds a record or changes the state of one. What else it changes of a
record is not in a replica. -/
theorem tellsFrom_recover (bundle : TransferBundle) :
    (manager.recover bundle).TellsFrom manager := by
  by_cases deleted : manager.connection = .deleted
  · exact .of_shows (recover_deleted deleted) rfl (.done _)
  rcases Ledger.located_or_unknown bundle manager.store.records with
    ⟨index, record, located⟩ | unknown
  · refine .of_shows (recover_located deleted located) rfl ?_
    have known : manager.replica.states[index]? = some record.state := by
      rw [replica, List.getElem?_map, located.found, Option.map_some]
    have next : (manager.withRecords (manager.store.records.set index
        (record.merge bundle manager.network))).replica =
        { manager.replica with states :=
            manager.replica.states.set index (record.merge bundle manager.network).state } := by
      simp only [replica, withRecords, List.map_set]
    rw [next]
    -- a merge that leaves the state alone announces nothing, and a replica does not show it
    split
    · next same =>
      obtain ⟨within, atIndex⟩ := List.getElem?_eq_some_iff.1 known
      rw [same, ← atIndex, List.set_getElem_self]
      exact .done _
    · next changed => exact .changed known changed (.done _)
  · cases found : TransferDirection.find manager.owned bundle.source bundle.target with
    | none => exact .of_shows (recover_unrelated deleted unknown found) rfl (.done _)
    | some direction =>
      refine .of_shows (recover_added deleted unknown found) rfl ?_
      have index : manager.store.records.length = manager.replica.states.length :=
        (List.length_map _).symm
      have next : (manager.withRecords (manager.store.records ++
          [TransferRecord.ofBundle bundle manager.network direction])).replica =
          { manager.replica with states := manager.replica.states ++
              [(TransferRecord.ofBundle bundle manager.network direction).state] } := by
        simp only [replica, withRecords, List.map_append, List.map_singleton]
      rw [next, index]
      exact .added (.done _)

theorem tellsFrom_perform (operation : Operation) :
    (manager.perform operation).TellsFrom manager := by
  cases operation with
  | connect => exact (tellsFrom_transition .connect rfl).mapResult _
  | disconnect reason => exact (tellsFrom_transition .disconnect rfl).mapResult _
  | sync => exact (tellsFrom_transition .sync rfl).mapResult _
  | completeSync height => exact (tellsFrom_completeSync height).mapResult _
  | setHeight height => exact (tellsFrom_setHeight height).mapResult _
  | delete => exact (tellsFrom_transition .delete rfl).mapResult _
  | recover bundle => exact (tellsFrom_recover bundle).mapResult _

/-! ## Runs -/

/-- The events that are received from a run replay to the manager that it leaves behind. -/
theorem replays_run (manager : Manager MemoryStore) (listening : manager.listening = true)
    (operations : List Operation) :
    manager.replica.Replays ((manager.run operations).flatMap Step.events)
      (manager.after operations).replica := by
  induction operations generalizing manager with
  | nil => exact .done _
  | cons operation rest ih =>
    obtain ⟨still, replays⟩ := manager.tellsFrom_perform operation
    have received : (manager.perform operation).events =
        Notice.events (manager.perform operation).notices :=
      if_pos (still.trans listening)
    rw [run, List.flatMap_cons, received]
    exact replays.append (ih _ (still.trans listening))

/-- All events that are received of a manager, from its creation to the end of a run. -/
def announced (config : Config) (operations : List Operation) : List Event :=
  (create config MemoryStore.empty).events ++
    ((fresh config).run operations).flatMap Step.events

/-- What the events that follow the creation of a manager say of it, kind by kind. -/
structure Recounts (events : List Event) (manager : Manager MemoryStore) : Prop where
  notCreated : ∀ network, .created network ∉ events
  connections : Leads .created (events.filterMap Event.connectionChange?) manager.connection
  rising : (events.filterMap Event.newHeight?).Pairwise (· < ·)
  height : (events.filterMap Event.newHeight?).getLast?.getD 0 = manager.height
  added : events.filterMap Event.addedId? =
    (List.range manager.store.records.length).map TransferId.mk
  /-- What is said of a stored transfer, before its record is added and from then on. -/
  transfer : ∀ index record, manager.store.records[index]? = some record →
    ∃ before first after, events = before ++ .transferAdded ⟨index⟩ first :: after ∧
      before.filterMap (Event.transferChange? ⟨index⟩) = [] ∧
      Leads first.state (after.filterMap (Event.transferChange? ⟨index⟩)) record.state
  onlyStored : ∀ id old new, .transferChanged id old new ∈ events →
    id.index < manager.store.records.length

theorem recounts_of_replays {events : List Event}
    (replays : Replica.initial.Replays events manager.replica) : Recounts events manager := by
  have length : manager.replica.states.length = manager.store.records.length := List.length_map _
  obtain ⟨rising, final⟩ := replays.heights
  refine ⟨replays.not_created, replays.connections, (List.pairwise_cons.1 rising).2, ?_, ?_, ?_, ?_⟩
  · rw [List.getLast?_cons, Option.some.injEq] at final
    exact final
  · rw [← length]
    exact replays.added_ids
  · intro index record stored
    refine replays.transfer_of_added (Nat.zero_le index) ?_
    rw [replica, List.getElem?_map, stored, Option.map_some]
  · intro id old new mem
    exact length ▸ replays.changed_known mem

/-- The events of a manager are a faithful journal, whatever happens to it: its creation comes
first, and the rest can be replayed, ends at the manager as it is, and recounts it kind by kind. -/
theorem announced_events_recount (config : Config) (operations : List Operation) :
    ∃ events, announced config operations = .created config.network :: events ∧
      Replica.initial.replay? events = some ((fresh config).after operations).replica ∧
      Recounts events ((fresh config).after operations) := by
  have replays : Replica.initial.Replays _ _ := replays_run (fresh config) rfl operations
  exact ⟨_, rfl, replays.replay?_eq, recounts_of_replays replays⟩

end Manager

end WalletLedger
