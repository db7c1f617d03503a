import WalletLedger.Proofs.Manager.Control

/-!
# The machine of a connection

The connection of a manager is a machine that takes some calls in some states
and refuses all others. `Connection.Moves` lists its moves. Once a connection is
ended it cannot be ended again, so the reason that a disconnected manager
remembers is that of the first report, until the manager connects anew.

`Connection.Takes` is what the machine makes of a list of calls. Each guard of
the manager is one of the moves (`canConnect_iff`, `canDisconnect_iff` and their
companions), hence each call (`perform_isOk_iff`) and each run (`takes_calls`).
The machine leaves no choice (`Takes.unique`). Main statement:
`calls_taken_iff`, the calls that a manager accepts are those of the machine.
-/

namespace WalletLedger

namespace Connection

/-! ## Moves -/

/-- The moves of a connection: a call that is taken in a state, and the state that follows. -/
inductive Moves : Connection → Operation → Connection → Prop
  | connect : Moves created .connect connected
  | reconnect (reason : DisconnectReason) : Moves (disconnected reason) .connect connected
  | sync : Moves connected .sync syncing
  | completeSync (height : UInt64) : Moves syncing (.completeSync height) connected
  | disconnect {state : Connection} (reason : DisconnectReason)
      (present : state = created ∨ state = connected ∨ state = syncing) :
      Moves state (.disconnect reason) (disconnected reason)
  | delete {state : Connection} (live : state ≠ deleted) : Moves state .delete deleted

variable {state next last : Connection} {call : Operation}

/-- A call leads to the state that it asks for. -/
theorem Moves.destination? (moves : Moves state call next) : call.destination? = some next := by
  cases moves <;> rfl

/-! ## Guards -/

theorem canConnect_iff : state.canConnect = true ↔ Moves state .connect connected := by
  constructor
  · intro allowed
    cases state with
    | created => exact .connect
    | disconnected reason => exact .reconnect reason
    | connected | syncing | deleted => cases allowed
  · intro moves
    cases moves with
    | connect => rfl
    | reconnect reason => rfl

theorem canDisconnect_iff {reason : DisconnectReason} :
    state.canDisconnect = true ↔ Moves state (.disconnect reason) (disconnected reason) := by
  constructor
  · intro allowed
    apply Moves.disconnect reason
    cases state with
    | created => exact .inl rfl
    | connected => exact .inr (.inl rfl)
    | syncing => exact .inr (.inr rfl)
    | disconnected _ | deleted => cases allowed
  · intro moves
    cases moves with
    | disconnect _ present => rcases present with rfl | rfl | rfl <;> rfl

theorem eq_connected_iff : state = connected ↔ Moves state .sync syncing := by
  constructor
  · rintro rfl
    exact .sync
  · intro moves
    cases moves
    rfl

theorem eq_syncing_iff {height : UInt64} :
    state = syncing ↔ Moves state (.completeSync height) connected := by
  constructor
  · rintro rfl
    exact .completeSync height
  · intro moves
    cases moves
    rfl

theorem ne_deleted_iff : state ≠ deleted ↔ Moves state .delete deleted := by
  constructor
  · exact .delete
  · intro moves
    cases moves with
    | delete live => exact live

/-! ## Lists of calls -/

/-- What the machine makes of a list of calls: it moves at each call that it takes, and stays where
it is at each call that it refuses, having no move for it. -/
inductive Takes : Connection → List (Operation × Bool) → Connection → Prop
  | done (state : Connection) : Takes state [] state
  | accepted {state next last : Connection} {call : Operation} {rest : List (Operation × Bool)}
      (moves : Moves state call next) (later : Takes next rest last) :
      Takes state ((call, true) :: rest) last
  | refused {state last : Connection} {call : Operation} {rest : List (Operation × Bool)}
      (stuck : ∀ next, ¬Moves state call next) (later : Takes state rest last) :
      Takes state ((call, false) :: rest) last

/-- The calls alone decide which of them are taken, and where that leads. -/
theorem Takes.unique {other : Connection} {entries others : List (Operation × Bool)}
    (takes : Takes state entries last) (again : Takes state others other)
    (same : entries.map Prod.fst = others.map Prod.fst) : entries = others ∧ last = other := by
  induction takes generalizing others with
  | done =>
    cases again with
    | done => exact ⟨rfl, rfl⟩
    | accepted | refused => cases same
  | accepted moves later ih =>
    cases again with
    | done => cases same
    | accepted movesAgain laterAgain =>
      obtain ⟨rfl, sameRest⟩ := List.cons.inj same
      have destination := moves.destination?.symm.trans movesAgain.destination?
      obtain rfl := Option.some.inj destination
      obtain ⟨rfl, rfl⟩ := ih laterAgain sameRest
      exact ⟨rfl, rfl⟩
    | refused stuck _ =>
      obtain ⟨rfl, -⟩ := List.cons.inj same
      exact absurd moves (stuck _)
  | refused stuck later ih =>
    cases again with
    | done => cases same
    | accepted movesAgain _ =>
      obtain ⟨rfl, -⟩ := List.cons.inj same
      exact absurd movesAgain (stuck _)
    | refused _ laterAgain =>
      obtain ⟨rfl, sameRest⟩ := List.cons.inj same
      obtain ⟨rfl, rfl⟩ := ih laterAgain sameRest
      exact ⟨rfl, rfl⟩

end Connection

namespace Manager

open Connection

variable {σ : Type}

/-! ## One call -/

theorem isOk_transition (manager : Manager σ) (action : ManagerAction)
    (allowed : Connection → Bool) (next : Connection) :
    (manager.transition action allowed next).result.isOk = allowed manager.connection := by
  rw [transition_result]
  cases allowed manager.connection <;> rfl

variable [TransferStore σ]

/-- A manager accepts a call that asks for a state of the connection just if the machine moves there
by it. -/
theorem perform_isOk_iff (manager : Manager σ) {call : Operation} {next : Connection}
    (asks : call.destination? = some next) :
    (manager.perform call).result.isOk = true ↔ Moves manager.connection call next := by
  have guarded (action : ManagerAction) {allowed : Connection → Bool} (state : Connection)
      (guard : allowed manager.connection = true ↔ Moves manager.connection call next) :
      ((manager.transition action allowed state).mapResult fun _ =>
        (none : Option Reconciled)).result.isOk = true ↔ Moves manager.connection call next := by
    rw [Step.isOk_mapResult, isOk_transition]
    exact guard
  cases call with
  | connect =>
    cases asks
    exact guarded .connect .connected canConnect_iff
  | disconnect reason =>
    cases asks
    exact guarded .disconnect (.disconnected reason) canDisconnect_iff
  | sync =>
    cases asks
    exact guarded .sync .syncing (decide_eq_true_iff.trans eq_connected_iff)
  | delete =>
    cases asks
    exact guarded .delete .deleted (decide_eq_true_iff.trans ne_deleted_iff)
  | completeSync height =>
    -- its height is reported in a step of its own, which is never refused
    cases asks
    rw [perform, Step.isOk_mapResult, completeSync_result, ← eq_syncing_iff]
    split
    · next syncing => exact iff_of_true rfl syncing
    · next idle => exact iff_of_false Bool.false_ne_true idle
  | setHeight height => cases asks
  | recover bundle => cases asks

/-! ## Runs -/

/-- The calls of a run that ask for a state of the connection, each with whether it is accepted. -/
def calls (manager : Manager σ) (operations : List Operation) : List (Operation × Bool) :=
  (manager.trace operations).filter fun entry => entry.1.destination?.isSome

theorem map_fst_calls (manager : Manager σ) (operations : List Operation) :
    (manager.calls operations).map Prod.fst =
      operations.filter fun call => call.destination?.isSome := by
  have lengths : operations.length ≤ ((manager.run operations).map (·.result.isOk)).length := by
    rw [List.length_map, length_run]
  have all : (manager.trace operations).map Prod.fst = operations := List.map_fst_zip lengths
  conv_rhs => rw [← all, List.filter_map]
  rfl

theorem calls_cons (manager : Manager σ) (operation : Operation) (rest : List Operation) :
    manager.calls (operation :: rest) =
      (if operation.destination?.isSome then
        [(operation, (manager.perform operation).result.isOk)] else []) ++
          (manager.perform operation).manager.calls rest := by
  have trace : manager.trace (operation :: rest) =
      (operation, (manager.perform operation).result.isOk) ::
        (manager.perform operation).manager.trace rest := rfl
  rw [calls, trace, List.filter_cons]
  dsimp only
  split <;> rfl

/-- In every run the manager does with the calls what the machine does. -/
theorem takes_calls (manager : Manager σ) (operations : List Operation) :
    Takes manager.connection (manager.calls operations)
      (manager.after operations).connection := by
  induction operations generalizing manager with
  | nil => exact .done _
  | cons operation rest ih =>
    have later := ih (manager.perform operation).manager
    have moved := manager.connection_perform operation
    rw [after_cons, calls_cons]
    cases asked : operation.destination? with
    | none =>
      rw [asked, Option.getD_none, ite_self] at moved
      rw [moved] at later
      exact later
    | some next =>
      have decides := manager.perform_isOk_iff asked
      rw [asked, Option.getD_some] at moved
      cases accepted : (manager.perform operation).result.isOk with
      | true =>
        rw [accepted, if_pos rfl] at moved
        rw [moved] at later
        exact .accepted (decides.1 accepted) later
      | false =>
        rw [accepted, if_neg Bool.false_ne_true] at moved
        rw [moved] at later
        refine .refused (fun other moves => ?_) later
        obtain rfl := Option.some.inj (asked.symm.trans moves.destination?)
        rw [decides.2 moves] at accepted
        cases accepted

/-- The calls that a new manager accepts, and the state of the connection that they lead to, are
those of the machine: whatever else happens in between, nothing else can be made of the calls. -/
theorem calls_taken_iff (σ : Type) [TransferStore σ] (config : Config) (store : σ)
    (operations : List Operation) (entries : List (Operation × Bool)) (last : Connection) :
    let started := (create config store).manager
    (entries.map Prod.fst = operations.filter fun call => call.destination?.isSome) ∧
        Takes .created entries last ↔
      entries = started.calls operations ∧ last = (started.after operations).connection := by
  intro started
  have takes : Takes .created (started.calls operations) (started.after operations).connection :=
    started.takes_calls operations
  constructor
  · rintro ⟨same, taken⟩
    exact taken.unique takes (same.trans (started.map_fst_calls operations).symm)
  · rintro ⟨rfl, rfl⟩
    exact ⟨started.map_fst_calls operations, takes⟩

/-- A connection that was ended on request is then reported to have failed: the report is refused,
although the manager is not deleted, and the first reason stays. -/
theorem second_disconnect_refused :
    let manager := (fresh { network := .btc, addresses := ["me"] }).after
      [.connect, .disconnect .requested]
    manager.connection ≠ .deleted ∧
      (manager.disconnect (.posix 54)).result =
        .error (.invalidTransition .disconnected .disconnect) ∧
      (manager.disconnect (.posix 54)).manager.connection = .disconnected .requested := by
  decide

end Manager

end WalletLedger
