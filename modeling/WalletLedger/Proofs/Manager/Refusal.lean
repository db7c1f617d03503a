import WalletLedger.Manager.Balance
import WalletLedger.Manager.Operation
import WalletLedger.Proofs.Bundle.Built
import WalletLedger.Proofs.Manager.Run
import WalletLedger.Store.Faulty
import WalletLedger.Store.Memory

/-!
# Refused requests

A request to a manager changes something or asks for something, and may be
refused: by the stage of the connection, because a transfer or an amount will not
do, or because the store fails. Whatever the store is and wherever in the request
it fails, a refused request leaves no trace: the connection, the height and the
records are as they were, and nothing is announced.

* `serve_allOrNothing` says so of one request.
* `serveAll_accepted` says it of a run during which calls of the store fail at
  will: the refused requests might as well not have been made.
* `refusals_leave_no_trace` is both together.
-/

namespace WalletLedger

/-! ## Requests -/

/-- What can be asked of a manager. -/
inductive Query where
  | transfers
  | balance
  | tokenBalance (currency : String) (decimals : UInt8)
  | confirmations (record : TransferRecord)
  | isFinal (record : TransferRecord)

/-- An operation or a query. -/
inductive Request where
  | change (operation : Operation)
  | ask (query : Query)

/-- What a request is answered. -/
inductive Answer where
  | changed (outcome : Option Reconciled)
  | records (records : List TransferRecord)
  | units (units : Nat)
  | confirmations (count : Option Nat)
  | isFinal (reached : Bool)
deriving DecidableEq

namespace Manager

variable {σ : Type} [TransferStore σ]

/-- The answer to a query. -/
def answer (manager : Manager σ) : Query → Except ManagerError Answer
  | .transfers => manager.transfers.map .records
  | .balance => manager.balance.map .units
  | .tokenBalance currency decimals => (manager.tokenBalance currency decimals).map .units
  | .confirmations record => .ok (.confirmations (manager.confirmations record))
  | .isFinal record => .ok (.isFinal (manager.isFinal record))

/-- The step of a request; a query leaves the manager as it is. -/
def serve (manager : Manager σ) : Request → Step σ Answer
  | .change operation => (manager.perform operation).mapResult .changed
  | .ask query => ⟨manager.answer query, manager, []⟩

end Manager

/-! ## All or nothing -/

/-- A step that starts from a manager and, if it is refused, has changed and announced nothing. -/
def Step.AllOrNothing {σ α : Type} (manager : Manager σ) (step : Step σ α) : Prop :=
  ∀ error, step.result = .error error →
    step.manager = manager ∧ Notice.events step.notices = []

namespace Step.AllOrNothing

variable {σ α β : Type} {manager : Manager σ} {step : Step σ α}

theorem of_ok {answer : α} (accepted : step.result = .ok answer) : step.AllOrNothing manager := by
  intro error refused
  rw [accepted] at refused
  cases refused

theorem refuse (error : ManagerError) :
    (manager.refuse error : Step σ α).AllOrNothing manager :=
  fun _ _ => ⟨rfl, rfl⟩

theorem mapResult (whole : step.AllOrNothing manager) (f : α → β) :
    (step.mapResult f).AllOrNothing manager := by
  intro error refused
  change step.result.map f = .error error at refused
  cases result : step.result with
  | error cause => exact whole cause result
  | ok answer =>
    rw [result] at refused
    cases refused

/-- Two steps in a row are all or nothing if the second one is always accepted. -/
theorem andThen {next : Manager σ → Step σ β} (whole : step.AllOrNothing manager)
    (accepts : ∀ middle, ∃ answer, (next middle).result = .ok answer) :
    (step.andThen next).AllOrNothing manager := by
  unfold Step.andThen
  cases result : step.result with
  | error cause => exact fun _ _ => whole cause result
  | ok answer =>
    obtain ⟨last, accepted⟩ := accepts step.manager
    exact of_ok accepted

end Step.AllOrNothing

namespace Manager

variable {σ : Type}

theorem transition_allOrNothing (manager : Manager σ) (action : ManagerAction)
    (allowed : Connection → Bool) (next : Connection) :
    (manager.transition action allowed next).AllOrNothing manager := by
  unfold transition
  split
  · exact .of_ok rfl
  · exact .refuse _

variable [TransferStore σ]

theorem mergeTransfer_allOrNothing (manager : Manager σ) (id : TransferId) (record : TransferRecord)
    (bundle : TransferBundle) : (manager.mergeTransfer id record bundle).AllOrNothing manager := by
  unfold mergeTransfer
  dsimp only
  split
  · exact .of_ok rfl
  · cases TransferStore.update manager.store id (record.merge bundle manager.network) with
    | error error => exact .refuse _
    | ok store => exact .of_ok rfl

theorem addTransfer_allOrNothing (manager : Manager σ) (bundle : TransferBundle)
    (direction : TransferDirection) :
    (manager.addTransfer bundle direction).AllOrNothing manager := by
  unfold addTransfer
  dsimp only
  cases TransferStore.insert manager.store
      (TransferRecord.ofBundle bundle manager.network direction) with
  | error error => exact .refuse _
  | ok inserted => exact .of_ok rfl

/-- A bundle reaches the store at most twice, to look its record up and to write it. The look-up
changes nothing, and if the writing fails nothing has been announced yet. -/
theorem recover_allOrNothing (manager : Manager σ) (bundle : TransferBundle) :
    (manager.recover bundle).AllOrNothing manager := by
  unfold recover
  split
  · exact .refuse _
  · cases TransferStore.find manager.store bundle.hash bundle.uids bundle.target with
    | error error => exact .refuse _
    | ok found =>
      cases found with
      | some entry => exact manager.mergeTransfer_allOrNothing entry.1 entry.2 bundle
      | none =>
        cases TransferDirection.find manager.owned bundle.source bundle.target with
        | some direction => exact manager.addTransfer_allOrNothing bundle direction
        | none => exact fun _ _ => ⟨rfl, rfl⟩

theorem perform_allOrNothing (manager : Manager σ) (operation : Operation) :
    (manager.perform operation).AllOrNothing manager := by
  cases operation with
  | connect => exact (manager.transition_allOrNothing _ _ _).mapResult _
  | disconnect reason => exact (manager.transition_allOrNothing _ _ _).mapResult _
  | sync => exact (manager.transition_allOrNothing _ _ _).mapResult _
  | delete => exact (manager.transition_allOrNothing _ _ _).mapResult _
  | setHeight height =>
    exact Step.AllOrNothing.mapResult (.of_ok (manager.setHeight_result height)) _
  | completeSync height =>
    have ends := manager.transition_allOrNothing .completeSync (· = .syncing) .connected
    have sets (middle : Manager σ) : ∃ answer, (middle.setHeight height).result = .ok answer :=
      ⟨(), middle.setHeight_result height⟩
    exact (ends.andThen sets).mapResult _
  | recover bundle => exact (manager.recover_allOrNothing bundle).mapResult _

theorem serve_allOrNothing (manager : Manager σ) (request : Request) :
    (manager.serve request).AllOrNothing manager := by
  cases request with
  | change operation => exact (manager.perform_allOrNothing operation).mapResult _
  | ask query => exact fun _ _ => ⟨rfl, rfl⟩

/-! ## Runs over a failing store -/

/-- The manager while these calls of its store fail. -/
def amid (manager : Manager (FaultyStore σ)) (failure : StoreCall → Option StoreError) :
    Manager (FaultyStore σ) :=
  { manager with store := { manager.store with failure } }

/-- A request, and which calls of the store fail meanwhile. -/
structure Round where
  request : Request
  failure : StoreCall → Option StoreError

/-- The step of a request while certain calls fail. -/
def serveRound (manager : Manager (FaultyStore σ)) (round : Round) : Step (FaultyStore σ) Answer :=
  (manager.amid round.failure).serve round.request

/-- The steps of a run of requests, each from the manager that the one before leaves behind. -/
def serveAll (manager : Manager (FaultyStore σ)) :
    List Round → List (Step (FaultyStore σ) Answer)
  | [] => []
  | round :: rest =>
    let step := manager.serveRound round
    step :: step.manager.serveAll rest

/-- The requests of a run that are not refused. -/
def accepted (manager : Manager (FaultyStore σ)) : List Round → List Round
  | [] => []
  | round :: rest =>
    let step := manager.serveRound round
    if step.result.isOk then round :: step.manager.accepted rest else step.manager.accepted rest

theorem serveAll_amid (manager : Manager (FaultyStore σ))
    (failure : StoreCall → Option StoreError) (rounds : List Round) :
    (manager.amid failure).serveAll rounds = manager.serveAll rounds := by
  cases rounds <;> rfl

theorem accepted_amid (manager : Manager (FaultyStore σ))
    (failure : StoreCall → Option StoreError) (rounds : List Round) :
    (manager.amid failure).accepted rounds = manager.accepted rounds := by
  cases rounds <;> rfl

/-- The steps that are accepted in a run are those of the run without the requests that are
refused: the same answers, managers and notices. -/
theorem serveAll_accepted (manager : Manager (FaultyStore σ)) (rounds : List Round) :
    manager.serveAll (manager.accepted rounds) =
      (manager.serveAll rounds).filter fun step => step.result.isOk := by
  induction rounds generalizing manager with
  | nil => rfl
  | cons round rest ih =>
    rw [accepted, serveAll, List.filter_cons]
    cases result : (manager.serveRound round).result with
    | ok answer =>
      have accepts : (Except.ok answer : Except ManagerError Answer).isOk = true := rfl
      rw [if_pos accepts, if_pos accepts, serveAll, ih]
    | error error =>
      -- the manager is as it was, but for the calls that fail, and these are chosen anew
      have unchanged : (manager.serveRound round).manager = manager.amid round.failure :=
        ((manager.amid round.failure).serve_allOrNothing round.request error result).1
      have refuses : ¬(Except.error error : Except ManagerError Answer).isOk = true :=
        Bool.false_ne_true
      rw [if_neg refuses, if_neg refuses, unchanged, accepted_amid, serveAll_amid, ih]

/-- Refused requests leave no trace. Whatever the store of a manager is, a request that is refused
leaves the manager as it was, its records included, and announces nothing; so a run during which
calls of the store fail at will is the same without the requests that are refused. -/
theorem refusals_leave_no_trace (σ : Type) [TransferStore σ] :
    (∀ (manager : Manager σ) (request : Request) (error : ManagerError),
      (manager.serve request).result = .error error →
        (manager.serve request).manager = manager ∧
          Notice.events (manager.serve request).notices = []) ∧
      ∀ (manager : Manager (FaultyStore σ)) (rounds : List Round),
        manager.serveAll (manager.accepted rounds) =
          (manager.serveAll rounds).filter fun step => step.result.isOk :=
  ⟨serve_allOrNothing, serveAll_accepted⟩

/-- The store cannot be written when a payment turns out to be mined: the payment is refused, its
record and the balance are as they were, and once the store works the payment is merged. -/
theorem refusals_leave_no_trace_unwritable :
    let seen := TransferBundle.ofOneUnit (some "h") none "me" "shop" "btc"
    let mined : TransferBundle := { seen with status := .included, blockHeight := some 7 }
    let config : Config := { network := .btc, addresses := ["me"] }
    let works : FaultyStore MemoryStore := ⟨.empty, fun _ => none⟩
    let manager := ((create config works).manager.after [.connect, .recover seen]).amid
      fun call => if call = .update then some .poisoned else none
    let step := manager.serve (.change (.recover mined))
    step.result = .error (.store .poisoned) ∧ step.manager = manager ∧
      Notice.events step.notices = [] ∧
      ((step.manager.amid fun _ => none).recover mined).result = .ok (.updated ⟨0⟩) := by
  intro seen mined config works manager step
  have refused : step.result = .error (.store .poisoned) := by decide
  obtain ⟨same, silent⟩ := (refusals_leave_no_trace (FaultyStore MemoryStore)).1 manager
    (.change (.recover mined)) _ refused
  exact ⟨refused, same, silent, by decide⟩

end Manager

end WalletLedger
