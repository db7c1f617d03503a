import WalletLedger.Proofs.Ledger.Estranged
import WalletLedger.Proofs.Manager.Run
import WalletLedger.Proofs.Manager.Totals
import WalletLedger.Report

/-!
# What a report contains

A report is made by a manager that takes client records one after another. A
record that is no bundle is passed over, and so is a bundle of a transfer that is
neither known at its turn nor the wallet's. No record stops the reconciliation:
the tally after all of them is known in closed form (`Tally.result_foldlM`).

With it the whole report is known in closed form. `result_ofRecords`: there is a
report just if the manager then has a balance, and it lists the records of the
manager at the height that was given, or else at the highest block of any bundle.
-/

namespace WalletLedger

open Log (Logged)

/-! ## The turns of records -/

/-- The bundles of those records that have one. -/
def ClientRecord.bundles (records : List ClientRecord) : List TransferBundle :=
  records.filterMap fun record => record.toBundle.toOption

namespace Manager

/-- The manager after it has taken records. -/
def taking (manager : Manager MemoryStore) (records : List ClientRecord) : Manager MemoryStore :=
  manager.delivered (ClientRecord.bundles records)

/-- Whether a manager passes over a record: it is no bundle, or its transfer has no record yet and
neither end of it belongs to the wallet. -/
def passesOver (manager : Manager MemoryStore) (record : ClientRecord) : Bool :=
  match record.toBundle with
  | .error _ => true
  | .ok bundle =>
    manager.store.records.all (fun stored => !stored.isOf bundle) &&
      !manager.owned.contains bundle.source && !manager.owned.contains bundle.target

/-- The records, each with the manager whose turn it is to take it. -/
def turns (manager : Manager MemoryStore) :
    List ClientRecord → List (Manager MemoryStore × ClientRecord)
  | [] => []
  | record :: rest => (manager, record) :: (manager.taking [record]).turns rest

/-- How many of the records a manager passes over that takes them one after another. -/
def passedOver (manager : Manager MemoryStore) (records : List ClientRecord) : Nat :=
  (manager.turns records).countP fun turn => turn.1.passesOver turn.2

end Manager

namespace ClientRecord

variable {record : ClientRecord}

theorem bundles_append (first second : List ClientRecord) :
    bundles (first ++ second) = bundles first ++ bundles second :=
  List.filterMap_append

theorem bundles_cons (record : ClientRecord) (rest : List ClientRecord) :
    bundles (record :: rest) = bundles [record] ++ bundles rest :=
  bundles_append [record] rest

theorem bundles_of_ok {bundle : TransferBundle} (converted : record.toBundle = .ok bundle) :
    bundles [record] = [bundle] := by
  simp [bundles, converted, Except.toOption]

theorem bundles_of_error {fault : InputError} (refused : record.toBundle = .error fault) :
    bundles [record] = [] := by
  simp [bundles, refused, Except.toOption]

theorem mem_bundles_iff {records : List ClientRecord} {bundle : TransferBundle} :
    bundle ∈ bundles records ↔ ∃ record ∈ records, record.toBundle = .ok bundle := by
  unfold bundles
  rw [List.mem_filterMap]
  refine exists_congr fun record => and_congr_right fun _ => ?_
  cases record.toBundle <;> simp [Except.toOption]

end ClientRecord

namespace Manager

open ClientRecord

variable {manager : Manager MemoryStore} {record : ClientRecord} {bundle : TransferBundle}

theorem taking_append (manager : Manager MemoryStore) (first second : List ClientRecord) :
    manager.taking (first ++ second) = (manager.taking first).taking second := by
  rw [taking, bundles_append, delivered_append]
  rfl

theorem taking_cons (manager : Manager MemoryStore) (record : ClientRecord)
    (rest : List ClientRecord) :
    manager.taking (record :: rest) = (manager.taking [record]).taking rest :=
  manager.taking_append [record] rest

theorem turns_append (manager : Manager MemoryStore) (first second : List ClientRecord) :
    manager.turns (first ++ second) =
      manager.turns first ++ (manager.taking first).turns second := by
  induction first generalizing manager with
  | nil => rfl
  | cons record rest ih =>
    rw [List.cons_append, turns, ih, taking_cons manager record rest]
    rfl

theorem passedOver_append (manager : Manager MemoryStore) (first second : List ClientRecord) :
    manager.passedOver (first ++ second) =
      manager.passedOver first + (manager.taking first).passedOver second := by
  rw [passedOver, turns_append, List.countP_append]
  rfl

theorem passedOver_cons (manager : Manager MemoryStore) (record : ClientRecord)
    (rest : List ClientRecord) :
    manager.passedOver (record :: rest) =
      (if manager.passesOver record then 1 else 0) + (manager.taking [record]).passedOver rest := by
  rw [passedOver, turns, List.countP_cons, Nat.add_comm]
  rfl

/-! ## Passing records over -/

theorem taking_of_ok (converted : record.toBundle = .ok bundle) :
    manager.taking [record] = (manager.recover bundle).manager := by
  rw [taking, bundles_of_ok converted]
  rfl

theorem taking_of_error {fault : InputError} (refused : record.toBundle = .error fault) :
    manager.taking [record] = manager := by
  rw [taking, bundles_of_error refused]
  rfl

theorem passesOver_of_error {fault : InputError} (refused : record.toBundle = .error fault) :
    manager.passesOver record = true := by
  rw [passesOver, refused]

theorem passesOver_iff (converted : record.toBundle = .ok bundle) :
    manager.passesOver record = true ↔
      Ledger.Unknown bundle manager.store.records ∧
        TransferDirection.find manager.owned bundle.source bundle.target = none := by
  rw [passesOver, converted, TransferDirection.find_eq_none_iff, Ledger.unknown_iff_all]
  simp [and_assoc]

theorem taking_live (live : manager.connection ≠ .deleted) (records : List ClientRecord) :
    (manager.taking records).connection ≠ .deleted := by
  rw [taking, delivered_eq live]
  exact live

/-- A bundle that is passed over is refused and changes nothing. -/
theorem recover_of_passesOver (live : manager.connection ≠ .deleted)
    (converted : record.toBundle = .ok bundle) (passed : manager.passesOver record = true) :
    (manager.recover bundle).Shows (.error (.unrelatedTransfer bundle.source bundle.target))
      manager [] := by
  obtain ⟨unknown, foreign⟩ := (passesOver_iff converted).1 passed
  exact recover_unrelated live unknown foreign

theorem taking_of_passesOver (live : manager.connection ≠ .deleted)
    (passed : manager.passesOver record = true) : manager.taking [record] = manager := by
  cases converted : record.toBundle with
  | error fault => exact taking_of_error converted
  | ok bundle =>
    rw [taking_of_ok converted]
    exact (recover_of_passesOver live converted passed).manager_eq

/-- A record that is not passed over is a bundle that the manager accepts. -/
theorem exists_recover_ok (live : manager.connection ≠ .deleted)
    (accepted : manager.passesOver record = false) :
    ∃ bundle outcome, record.toBundle = .ok bundle ∧
      (manager.recover bundle).result = .ok outcome := by
  cases converted : record.toBundle with
  | error fault =>
    rw [passesOver_of_error converted] at accepted
    cases accepted
  | ok bundle =>
    refine ⟨bundle, ?_⟩
    rcases Ledger.located_or_unknown bundle manager.store.records with
      ⟨index, stored, located⟩ | unknown
    · exact ⟨_, rfl, (recover_located live located).result_eq⟩
    · cases found : TransferDirection.find manager.owned bundle.source bundle.target with
      | some direction => exact ⟨_, rfl, (recover_added live unknown found).result_eq⟩
      | none =>
        rw [(passesOver_iff converted).2 ⟨unknown, found⟩] at accepted
        cases accepted

end Manager

/-! ## The tally -/

namespace Report

open ClientRecord

/-- The highest block of any bundle, or the one to start from. -/
def highestBlock (start : UInt64) (bundles : List TransferBundle) : UInt64 :=
  bundles.foldl (fun highest bundle => max highest (bundle.blockHeight.getD 0)) start

namespace Tally

variable {tally : Tally}

theorem result_take (live : tally.manager.connection ≠ .deleted) (record : ClientRecord)
    (index : Nat) :
    (tally.take (record, index)).result = .ok {
      manager := tally.manager.taking [record]
      rejected := tally.rejected + if tally.manager.passesOver record then 1 else 0
      highest := highestBlock tally.highest (bundles [record]) } := by
  unfold take
  cases converted : record.toBundle with
  | error fault =>
    dsimp only
    rw [Manager.taking_of_error converted, Manager.passesOver_of_error converted,
      bundles_of_error converted]
    rfl
  | ok bundle =>
    dsimp only
    rw [Manager.taking_of_ok converted, bundles_of_ok converted]
    cases passed : tally.manager.passesOver record with
    | true =>
      have refused := (Manager.recover_of_passesOver live converted passed).result_eq
      simp only [takeBundle, refused]
      rfl
    | false =>
      obtain ⟨_, outcome, same, accepted⟩ := Manager.exists_recover_ok live passed
      rw [converted, Except.ok.injEq] at same
      subst same
      simp only [takeBundle, accepted]
      rfl

/-- The tally after records, whatever indices they have in the log. -/
theorem result_foldlM (live : tally.manager.connection ≠ .deleted) (records : List ClientRecord)
    (index : Nat) :
    ((records.zipIdx index).foldlM take tally).result = .ok {
      manager := tally.manager.taking records
      rejected := tally.rejected + tally.manager.passedOver records
      highest := highestBlock tally.highest (bundles records) } := by
  induction records generalizing tally index with
  | nil => rfl
  | cons record rest ih =>
    rw [List.zipIdx_cons, List.foldlM_cons,
      Logged.result_bind_of_ok (result_take live record index)]
    refine (ih (Manager.taking_live live [record]) (index + 1)).trans ?_
    rw [Manager.taking_cons _ record rest, Manager.passedOver_cons _ record rest,
      bundles_cons record rest, highestBlock, highestBlock, highestBlock, List.foldl_append,
      Nat.add_assoc]

end Tally

/-! ## The report -/

/-- The manager of a report before it takes the first record. -/
def opened (config : Config) : Manager MemoryStore :=
  (Manager.fresh config).after [.connect, .sync]

/-- The manager of a report after it has taken all records. -/
def closed (config : Config) (records : List ClientRecord) : Manager MemoryStore :=
  (opened config).taking records

/-- A record as a report shows it at a height. -/
def showRecord (config : Config) (height : UInt64) (record : TransferRecord) : ReportedTransfer :=
  ⟨record, record.state.confirmations height,
    record.state.isFinal height config.requiredConfirmations⟩

theorem map_record_showRecord (config : Config) (height : UInt64)
    (records : List TransferRecord) :
    (records.map (showRecord config height)).map ReportedTransfer.record = records := by
  rw [List.map_map]
  exact List.map_id records

/-- The height of a report on records. -/
def heightOf (records : List ClientRecord) (height : Option UInt64) : UInt64 :=
  height.getD (highestBlock 0 (bundles records))

theorem opened_live (config : Config) : (opened config).connection ≠ .deleted := nofun

/-- Taking records changes nothing but what is stored. -/
theorem closed_eq (config : Config) (records : List ClientRecord) :
    closed config records = (opened config).withRecords
      ((bundles records).foldl (Ledger.absorb config.network (.ofList config.addresses)) []) :=
  Manager.delivered_eq (opened_live config) (bundles records)

theorem closed_network (config : Config) (records : List ClientRecord) :
    (closed config records).network = config.network := by
  rw [closed_eq]
  rfl

theorem result_tally (config : Config) (records : List ClientRecord) :
    (records.zipIdx.foldlM Tally.take ⟨opened config, 0, 0⟩).result =
      .ok ⟨closed config records, (opened config).passedOver records,
        highestBlock 0 (bundles records)⟩ := by
  have start : (Tally.mk (opened config) 0 0).manager.connection ≠ .deleted := opened_live config
  rw [← Nat.zero_add ((opened config).passedOver records)]
  exact Tally.result_foldlM start records 0

/-- The manager of a report after it has ended the synchronization at a height. -/
def settled (config : Config) (records : List ClientRecord) (height : UInt64) :
    Manager MemoryStore :=
  { closed config records with connection := .connected, height }

/-- No record keeps the manager from ending the synchronization, and no height is too low. -/
theorem result_completeSync (config : Config) (records : List ClientRecord) (height : UInt64) :
    (after ((closed config records).completeSync height)).result =
      .ok (settled config records height) := by
  have syncing : (closed config records).connection = .syncing := by
    rw [closed_eq]
    rfl
  have low : (closed config records).height = 0 := by
    rw [closed_eq]
    rfl
  have ended : ((closed config records).completeSync height).manager =
      settled config records height := by
    rw [Manager.completeSync_manager, if_pos syncing, Manager.setHeight_manager]
    split
    · next lowest =>
      have same : height = 0 := UInt64.le_zero_iff.1 (low ▸ lowest)
      rw [settled, same, ← low]
    · rfl
  rw [after, Manager.completeSync_result, if_pos syncing, ended]
  rfl

theorem ofManager_settled (config : Config) (records : List ClientRecord) (height : UInt64)
    (rejected : Nat) :
    ofManager (settled config records height) rejected =
      (closed config records).balance.map fun balance => {
        network := config.network
        height := height
        balance := balance
        rejected := rejected
        transfers := (closed config records).store.records.map (showRecord config height) } := by
  have network : (settled config records height).network = config.network :=
    closed_network config records
  have required : (settled config records height).requiredConfirmations =
      config.requiredConfirmations := by
    rw [settled, closed_eq]
    rfl
  have shown : (fun record => ReportedTransfer.mk record
      ((settled config records height).confirmations record)
      ((settled config records height).isFinal record)) = showRecord config height := by
    funext record
    rw [showRecord, ← required]
    rfl
  have same : (settled config records height).balance = (closed config records).balance := rfl
  rw [ofManager, Manager.transfers_eq, same, network, shown]
  cases (closed config records).balance <;> rfl

/-- The report on records that come to a balance. -/
def contents (config : Config) (records : List ClientRecord) (height : Option UInt64)
    (balance : Nat) : Report where
  network := config.network
  height := heightOf records height
  balance := balance
  rejected := (opened config).passedOver records
  transfers := (closed config records).store.records.map
    (showRecord config (heightOf records height))

theorem result_ofRecords (config : Config) (records : List ClientRecord)
    (height : Option UInt64) :
    (ofRecords config records height).result =
      (closed config records).balance.map (contents config records height) := by
  have created : (after (Manager.create config MemoryStore.empty)).result =
      .ok (Manager.fresh config) := rfl
  have connected : (after (Manager.fresh config).connect).result =
      .ok ((Manager.fresh config).after [.connect]) := rfl
  have synchronizing : (after ((Manager.fresh config).after [.connect]).sync).result =
      .ok (opened config) := rfl
  have tallied := result_tally config records
  have ended := result_completeSync config records (heightOf records height)
  have reported := ofManager_settled config records (heightOf records height)
    ((opened config).passedOver records)
  have disconnected :
      (after ((settled config records (heightOf records height)).disconnect .requested)).result =
        .ok _ := rfl
  rw [ofRecords, Logged.result_bind_of_ok created, Logged.result_bind_of_ok connected,
    Logged.result_bind_of_ok synchronizing, Logged.result_bind_of_ok tallied]
  refine (Logged.result_bind_of_ok ended _).trans ?_
  -- the report, if there is one, is made before the manager is disconnected
  cases computed : (closed config records).balance with
  | error error =>
    rw [computed] at reported
    exact Logged.result_bind_of_error reported _
  | ok balance =>
    rw [computed] at reported
    rw [Logged.result_bind_of_ok reported, Logged.result_bind_of_ok disconnected]
    rfl

/-- What is read off a report is read off its contents. -/
theorem map_result_ofRecords {α : Type} (figure : Report → α) (config : Config)
    (records : List ClientRecord) (height : Option UInt64) :
    (ofRecords config records height).result.map figure =
      (closed config records).balance.map fun balance =>
        figure (contents config records height balance) := by
  rw [result_ofRecords]
  cases (closed config records).balance <;> rfl

/-- If something can be read off a report, there is one. -/
theorem exists_report_of_map {α : Type} {result : Except ManagerError Report}
    {figure : Report → α} {value : α} (known : result.map figure = .ok value) :
    ∃ report, result = .ok report ∧ figure report = value := by
  cases result with
  | error error => cases known
  | ok report => exact ⟨report, rfl, Except.ok.inj known⟩

/-- A report is made just if the records come to a balance, and it has the contents that go with
it. -/
theorem result_ofRecords_eq_ok_iff {config : Config} {records : List ClientRecord}
    {height : Option UInt64} {report : Report} :
    (ofRecords config records height).result = .ok report ↔
      ∃ balance, (closed config records).balance = .ok balance ∧
        report = contents config records height balance := by
  rw [result_ofRecords]
  cases (closed config records).balance with
  | error error => exact ⟨nofun, nofun⟩
  | ok balance =>
    constructor
    · intro made
      exact ⟨balance, rfl, (Except.ok.inj made).symm⟩
    · rintro ⟨_, same, rfl⟩
      cases same
      rfl

end Report

end WalletLedger
