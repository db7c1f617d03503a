import WalletLedger.Manager.Event

/-!
# Following a manager by its events

A replica is what somebody knows of a manager who has received all its events
and nothing else. `Replica.follow?` goes on from a replica by one event, and
refuses an event that does not go on from what is known: a change that starts
elsewhere or leads nowhere, a height that is not above the last one, an
identifier out of turn, a second creation.

So a list of events that can be replayed is a faithful account. `Replays` is how
such a list is made, one rule per kind of event, and what it says of a connection,
a height and each transfer follows by induction on it:

* `Replays.connections`, `Replays.heights`: the changes of the connection form a
  chain, and the heights rise.
* `Replays.added_ids`: transfers are added under consecutive identifiers.
* `Replays.transfer_of_added`: what happens to one transfer is a chain that
  starts with its record.
-/

namespace WalletLedger

/-- Changes that lead from one value to another: each starts where the one before ended, and ends
elsewhere. -/
def Leads {α : Type} : α → List (α × α) → α → Prop
  | first, [], last => first = last
  | first, (old, new) :: rest, last => old = first ∧ new ≠ old ∧ Leads new rest last

/-! ## What an event says -/

namespace Event

/-- The change of the connection that an event announces. -/
def connectionChange? : Event → Option (Connection × Connection)
  | stateChanged old new => some (old, new)
  | _ => none

/-- The height of the chain that an event announces. -/
def newHeight? : Event → Option UInt64
  | heightUpdated height => some height
  | _ => none

/-- The identifier under which an event announces a new record. -/
def addedId? : Event → Option TransferId
  | transferAdded id _ => some id
  | _ => none

/-- The change of the state of one transfer that an event announces. -/
def transferChange? (id : TransferId) : Event → Option (TransferState × TransferState)
  | transferChanged changed old new => if changed = id then some (old, new) else none
  | _ => none

theorem transferChange?_self {id : TransferId} {old new : TransferState} :
    transferChange? id (transferChanged id old new) = some (old, new) :=
  if_pos rfl

theorem transferChange?_of_ne {id changed : TransferId} (other : changed ≠ id)
    {old new : TransferState} : transferChange? id (transferChanged changed old new) = none :=
  if_neg other

end Event

/-! ## Replicas -/

/-- What is known of a manager from its events. -/
structure Replica where
  connection : Connection
  height : UInt64
  /-- The states of the transfers, by ascending identifier. -/
  states : List TransferState
deriving DecidableEq

namespace Replica

/-- What is known of a manager that was just created. -/
def initial : Replica := ⟨.created, 0, []⟩

/-- The replica after an event, if the event goes on from what is known. -/
def follow? (replica : Replica) : Event → Option Replica
  | .created _ => none
  | .stateChanged old new =>
    if old = replica.connection ∧ new ≠ old then some { replica with connection := new } else none
  | .heightUpdated height =>
    if replica.height < height then some { replica with height } else none
  | .transferAdded id record =>
    if id.index = replica.states.length then
      some { replica with states := replica.states ++ [record.state] }
    else none
  | .transferChanged id old new =>
    if replica.states[id.index]? = some old ∧ new ≠ old then
      some { replica with states := replica.states.set id.index new }
    else none

/-- The replica after a list of events. -/
def replay? (replica : Replica) (events : List Event) : Option Replica :=
  events.foldlM follow? replica

/-- Events that go on from one replica, each from where the one before led, and end at another. -/
inductive Replays : Replica → List Event → Replica → Prop
  | done (replica : Replica) : Replays replica [] replica
  | connection {replica last : Replica} {new : Connection} {rest : List Event}
      (changed : new ≠ replica.connection)
      (later : Replays { replica with connection := new } rest last) :
      Replays replica (.stateChanged replica.connection new :: rest) last
  | height {replica last : Replica} {height : UInt64} {rest : List Event}
      (above : replica.height < height) (later : Replays { replica with height } rest last) :
      Replays replica (.heightUpdated height :: rest) last
  | added {replica last : Replica} {record : TransferRecord} {rest : List Event}
      (later : Replays { replica with states := replica.states ++ [record.state] } rest last) :
      Replays replica (.transferAdded ⟨replica.states.length⟩ record :: rest) last
  | changed {replica last : Replica} {index : Nat} {old new : TransferState} {rest : List Event}
      (known : replica.states[index]? = some old) (changed : new ≠ old)
      (later : Replays { replica with states := replica.states.set index new } rest last) :
      Replays replica (.transferChanged ⟨index⟩ old new :: rest) last

variable {first last : Replica} {events : List Event}

theorem Replays.append {middle : Replica} {more : List Event} (replays : Replays first events middle)
    (later : Replays middle more last) : Replays first (events ++ more) last := by
  induction replays with
  | done => exact later
  | connection changed _ ih => exact .connection changed (ih later)
  | height above _ ih => exact .height above (ih later)
  | added _ ih => exact .added (ih later)
  | changed known changed _ ih => exact .changed known changed (ih later)

/-- Such events can be replayed. -/
theorem Replays.replay?_eq (replays : Replays first events last) :
    first.replay? events = some last := by
  unfold replay?
  induction replays with
  | done => rfl
  | connection changed _ ih => rw [List.foldlM_cons, follow?, if_pos ⟨rfl, changed⟩]; exact ih
  | height above _ ih => rw [List.foldlM_cons, follow?, if_pos above]; exact ih
  | added _ ih => rw [List.foldlM_cons, follow?, if_pos rfl]; exact ih
  | changed known changed _ ih => rw [List.foldlM_cons, follow?, if_pos ⟨known, changed⟩]; exact ih

/-! ## What replayed events say -/

theorem Replays.not_created (replays : Replays first events last) (network : Network) :
    .created network ∉ events := by
  induction replays with
  | done => exact List.not_mem_nil
  | connection _ _ ih => exact List.not_mem_cons_of_ne_of_not_mem nofun ih
  | height _ _ ih => exact List.not_mem_cons_of_ne_of_not_mem nofun ih
  | added _ ih => exact List.not_mem_cons_of_ne_of_not_mem nofun ih
  | changed _ _ _ ih => exact List.not_mem_cons_of_ne_of_not_mem nofun ih

/-- The changes of the connection lead to the connection that is known in the end. -/
theorem Replays.connections (replays : Replays first events last) :
    Leads first.connection (events.filterMap Event.connectionChange?) last.connection := by
  induction replays with
  | done => rfl
  | connection changed _ ih => exact ⟨rfl, changed, ih⟩
  | height _ _ ih => exact ih
  | added _ ih => exact ih
  | changed _ _ _ ih => exact ih

/-- The heights rise from the one that is known at first to the one that is known in the end. -/
theorem Replays.heights (replays : Replays first events last) :
    (first.height :: events.filterMap Event.newHeight?).Pairwise (· < ·) ∧
      (first.height :: events.filterMap Event.newHeight?).getLast? = some last.height := by
  induction replays with
  | done replica => exact ⟨List.pairwise_singleton _ _, rfl⟩
  | connection _ _ ih => exact ih
  | @height replica last height rest above later ih =>
    obtain ⟨rising, final⟩ := ih
    rw [List.filterMap_cons_some (by rfl : Event.newHeight? (.heightUpdated height) = some height)]
    refine ⟨List.pairwise_cons.2 ⟨fun other among => ?_, rising⟩, ?_⟩
    · rcases List.mem_cons.1 among with rfl | further
      · exact above
      · exact UInt64.lt_trans above ((List.pairwise_cons.1 rising).1 other further)
    · rw [List.getLast?_cons_cons]
      exact final
  | added _ ih => exact ih
  | changed _ _ _ ih => exact ih

/-- Transfers are added under the identifiers that follow those that are known. -/
theorem Replays.added_ids (replays : Replays first events last) :
    (List.range first.states.length).map TransferId.mk ++ events.filterMap Event.addedId? =
      (List.range last.states.length).map TransferId.mk := by
  induction replays with
  | done => exact List.append_nil _
  | connection _ _ ih => exact ih
  | height _ _ ih => exact ih
  | added _ ih =>
    rw [List.length_append, List.length_singleton, List.range_succ, List.map_append,
      List.append_assoc] at ih
    exact ih
  | changed _ _ _ ih =>
    rw [List.length_set] at ih
    exact ih

theorem Replays.length_le (replays : Replays first events last) :
    first.states.length ≤ last.states.length := by
  have lengths := congrArg List.length replays.added_ids
  simp only [List.length_append, List.length_map, List.length_range] at lengths
  omega

/-- Only transfers that are known in the end have changed. -/
theorem Replays.changed_known (replays : Replays first events last) {id : TransferId}
    {old new : TransferState} (mem : .transferChanged id old new ∈ events) :
    id.index < last.states.length := by
  induction replays with
  | done => cases mem
  | connection _ _ ih =>
    rcases List.mem_cons.1 mem with same | further
    · cases same
    · exact ih further
  | height _ _ ih =>
    rcases List.mem_cons.1 mem with same | further
    · cases same
    · exact ih further
  | added _ ih =>
    rcases List.mem_cons.1 mem with same | further
    · cases same
    · exact ih further
  | changed known _ later ih =>
    rcases List.mem_cons.1 mem with same | further
    · cases same
      obtain ⟨within, -⟩ := List.getElem?_eq_some_iff.1 known
      have longer := later.length_le
      rw [List.length_set] at longer
      exact Nat.lt_of_lt_of_le within longer
    · exact ih further

/-- The changes of a transfer that is known lead to its state in the end. -/
theorem Replays.transfer_of_known (replays : Replays first events last) {index : Nat}
    {state : TransferState} (known : first.states[index]? = some state) :
    ∃ final, last.states[index]? = some final ∧
      Leads state (events.filterMap (Event.transferChange? ⟨index⟩)) final := by
  induction replays generalizing state with
  | done => exact ⟨state, known, rfl⟩
  | connection _ _ ih => exact ih known
  | height _ _ ih => exact ih known
  | added _ ih =>
    obtain ⟨within, -⟩ := List.getElem?_eq_some_iff.1 known
    exact ih ((List.getElem?_append_left within).trans known)
  | @changed replica last place old new rest stood changed later ih =>
    by_cases same : place = index
    · -- what the event takes the state to be is what the replica has, so the chain goes on
      subst same
      obtain ⟨within, -⟩ := List.getElem?_eq_some_iff.1 stood
      obtain rfl : old = state := Option.some.inj (stood.symm.trans known)
      obtain ⟨final, found, leads⟩ := ih (List.getElem?_set_self within)
      refine ⟨final, found, ?_⟩
      rw [List.filterMap_cons_some Event.transferChange?_self]
      exact ⟨rfl, changed, leads⟩
    · obtain ⟨final, found, leads⟩ := ih ((List.getElem?_set_ne same).trans known)
      refine ⟨final, found, ?_⟩
      have other : (⟨place⟩ : TransferId) ≠ ⟨index⟩ := fun equal =>
        same (congrArg TransferId.index equal)
      rw [List.filterMap_cons_none (Event.transferChange?_of_ne other)]
      exact leads

/-- A transfer that is known in the end but not at first was added in between. Before that nothing
is said of it, and from then on its changes lead from the state of its first record to its state in
the end. -/
theorem Replays.transfer_of_added (replays : Replays first events last) {index : Nat}
    {final : TransferState} (unknown : first.states.length ≤ index)
    (found : last.states[index]? = some final) :
    ∃ before record after, events = before ++ .transferAdded ⟨index⟩ record :: after ∧
      before.filterMap (Event.transferChange? ⟨index⟩) = [] ∧
      Leads record.state (after.filterMap (Event.transferChange? ⟨index⟩)) final := by
  induction replays with
  | done =>
    obtain ⟨within, -⟩ := List.getElem?_eq_some_iff.1 found
    exact absurd within (Nat.not_lt.2 unknown)
  | connection _ _ ih =>
    obtain ⟨before, record, after, rfl, silent, leads⟩ := ih unknown found
    exact ⟨_ :: before, record, after, rfl, silent, leads⟩
  | height _ _ ih =>
    obtain ⟨before, record, after, rfl, silent, leads⟩ := ih unknown found
    exact ⟨_ :: before, record, after, rfl, silent, leads⟩
  | @added replica last record rest later ih =>
    rcases Nat.eq_or_lt_of_le unknown with rfl | past
    · -- this is the event: the rest is about a transfer that is known by now
      obtain ⟨state, stands, leads⟩ := later.transfer_of_known List.getElem?_concat_length
      obtain rfl : state = final := Option.some.inj (stands.symm.trans found)
      exact ⟨[], record, rest, rfl, rfl, leads⟩
    · have still : (replica.states ++ [record.state]).length ≤ index := by
        rw [List.length_append, List.length_singleton]
        exact past
      obtain ⟨before, record', after, rfl, silent, leads⟩ := ih still found
      exact ⟨_ :: before, record', after, rfl, silent, leads⟩
  | @changed replica last place old new rest stood changed later ih =>
    obtain ⟨within, -⟩ := List.getElem?_eq_some_iff.1 stood
    have still : (replica.states.set place new).length ≤ index := by
      rw [List.length_set]
      exact unknown
    obtain ⟨before, record, after, rfl, silent, leads⟩ := ih still found
    refine ⟨_ :: before, record, after, rfl, ?_, leads⟩
    have earlier : place ≠ index := Nat.ne_of_lt (Nat.lt_of_lt_of_le within unknown)
    have other : (⟨place⟩ : TransferId) ≠ ⟨index⟩ := fun equal =>
      earlier (congrArg TransferId.index equal)
    rw [List.filterMap_cons_none (Event.transferChange?_of_ne other)]
    exact silent

end Replica

end WalletLedger
