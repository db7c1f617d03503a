import WalletLedger.CommandLine.Session
import WalletLedger.Proofs.Bundle.Converted
import WalletLedger.Proofs.Manager.Balance
import WalletLedger.Proofs.Report.Contents

/-!
# Why there is no report

Nothing stands between the records of a file and a report on them but the native
balance: the manager takes every record or passes it over, and no stage of its
connection is in the way. So there is no report just if some stored record hinders
the balance by an amount or a fee that is no number of base units
(`TransferRecord.HindersBalance`). The error names the first such amount.

It is the stored records that count. What a record said before it was merged
hinders nothing.
-/

namespace WalletLedger

open Log (Logged)

/-! ## What hinders a balance -/

namespace TransferRecord

variable {network : Network} {record : TransferRecord}

/-- The amount of a record counts for the native balance but is no number of base units, or its fee
is none. -/
def HindersBalance (network : Network) (record : TransferRecord) : Prop :=
  (Text.sameLetters record.currency network.currencyCode ∧ record.state.movesAmount ∧
      record.amount.toBaseUnits? network.decimals = none) ∨
    ((record.direction = .sent ∨ record.direction = .recovered) ∧ record.state.chargesFee ∧
      ∃ fee, record.fee = some fee ∧ fee.toBaseUnits? network.decimals = none)

theorem ne_received_iff {direction : TransferDirection} :
    direction ≠ .received ↔ direction = .sent ∨ direction = .recovered := by
  cases direction <;> decide

theorem hindersBalance_iff_not_expressible :
    record.HindersBalance network ↔
      ¬record.Expressible network network.currencyCode network.decimals := by
  have native : Text.sameLetters network.currencyCode network.currencyCode = true :=
    Text.sameLetters_iff.2 rfl
  constructor
  · rintro (⟨same, moves, missing⟩ | ⟨pays, charged, fee, present, missing⟩) expressible
    · have known := expressible.amount same moves
      rw [missing] at known
      cases known
    · have known := expressible.fee native (ne_received_iff.2 pays) charged fee present
      rw [missing] at known
      cases known
  · intro inexpressible
    by_contra clear
    obtain ⟨amount, fee⟩ := not_or.1 clear
    apply inexpressible
    constructor
    · intro same moves
      rw [Option.isSome_iff_ne_none]
      exact fun missing => amount ⟨same, moves, missing⟩
    · intro _ pays charged charge present
      rw [Option.isSome_iff_ne_none]
      exact fun missing => fee ⟨ne_received_iff.1 pays, charged, charge, present, missing⟩

theorem exists_obstacle_iff {records : List TransferRecord} :
    (∃ amount, records.findSome? (obstacle? network network.currencyCode network.decimals) =
        some amount) ↔
      ∃ record ∈ records, record.HindersBalance network := by
  rw [← Option.isSome_iff_exists, List.findSome?_isSome_iff]
  refine exists_congr fun record => and_congr_right fun _ => ?_
  rw [hindersBalance_iff_not_expressible, ← obstacle?_eq_none_iff, Option.isSome_iff_ne_none]

end TransferRecord

/-! ## Reports -/

namespace Report

/-- The only error of a report is the first obstacle to the balance. -/
theorem result_ofRecords_eq_error_iff {config : Config} {records : List ClientRecord}
    {height : Option UInt64} {error : ManagerError} :
    (ofRecords config records height).result = .error error ↔
      ∃ amount, (closed config records).store.records.findSome? (TransferRecord.obstacle?
          config.network config.network.currencyCode config.network.decimals) = some amount ∧
        error = .inexpressibleAmount amount config.network.currencyCode := by
  have balance : (closed config records).balance = _ :=
    (closed config records).tokenBalance_eq _ _
  rw [closed_network] at balance
  rw [result_ofRecords, balance]
  cases obstacle : (closed config records).store.records.findSome? (TransferRecord.obstacle?
      config.network config.network.currencyCode config.network.decimals) with
  | none => exact ⟨nofun, nofun⟩
  | some amount =>
    constructor
    · intro failed
      exact ⟨amount, rfl, (Except.error.inj failed).symm⟩
    · rintro ⟨_, same, rfl⟩
      cases same
      rfl

end Report

/-! ## The command -/

namespace CommandLine

open Report

variable {environment : Environment} {config : Config} {file : String}
  {records : List ClientRecord}

theorem result_reconcile (addressed : config.addresses ≠ [])
    (parsed : recordsIn environment file = .ok records) (height : Option UInt64) :
    (reconcile environment config file height).result =
      ((ofRecords config records height).result.mapError ManagerError.message).map
        fun report => report.toJson.pretty := by
  have some_address : ¬config.addresses.isEmpty = true := by
    rwa [List.isEmpty_iff]
  have read : (Logged.ofResult (recordsIn environment file)).result = .ok records := parsed
  have said : (Logged.say (loaded records.length file) : Logged String Unit).result = .ok () :=
    rfl
  have reported : (withMessages (ofRecords config records height)).result =
      (ofRecords config records height).result.mapError ManagerError.message := rfl
  rw [reconcile, if_neg some_address, Logged.result_bind_of_ok read,
    Logged.result_bind_of_ok said]
  cases made : (ofRecords config records height).result with
  | error error =>
    rw [made] at reported
    exact Logged.result_bind_of_error reported _
  | ok report =>
    rw [made] at reported
    exact Logged.result_bind_of_ok reported _

/-- On a file of records, reconciling fails just if some stored record hinders the balance, and then
only because of the first amount that does. Otherwise it prints the report on the stored records. -/
theorem reconcile_fails_iff_balance_hindered (environment : Environment) (config : Config)
    (file : String) (height : Option UInt64) (records : List ClientRecord)
    (addressed : config.addresses ≠ []) (parsed : recordsIn environment file = .ok records) :
    let stored := (closed config records).store.records
    let network := config.network
    let command := (reconcile environment config file height).result
    let report := (ofRecords config records height).result
    ((∃ message, command = .error message) ↔
        ∃ record ∈ stored, record.HindersBalance network) ∧
      (∀ message, command = .error message → ∃ amount,
        stored.findSome? (TransferRecord.obstacle? network network.currencyCode
          network.decimals) = some amount ∧
        report = .error (.inexpressibleAmount amount network.currencyCode) ∧
        message = (ManagerError.inexpressibleAmount amount network.currencyCode).message) ∧
      ∀ output, command = .ok output → ∃ made, report = .ok made ∧
        made.transfers.map (·.record) = stored ∧ output = made.toJson.pretty := by
  intro stored network command report
  have printed : command = (report.mapError ManagerError.message).map
      fun report => report.toJson.pretty := result_reconcile addressed parsed height
  rw [printed, ← TransferRecord.exists_obstacle_iff]
  cases made : report with
  | error error =>
    obtain ⟨amount, obstacle, rfl⟩ := result_ofRecords_eq_error_iff.1 made
    refine ⟨iff_of_true ⟨_, rfl⟩ ⟨amount, obstacle⟩, fun message failed => ?_, nofun⟩
    exact ⟨amount, obstacle, rfl, (Except.error.inj failed).symm⟩
  | ok summary =>
    obtain ⟨balance, -, rfl⟩ := result_ofRecords_eq_ok_iff.1 made
    have clear : ¬∃ amount, stored.findSome? (TransferRecord.obstacle? network
        network.currencyCode network.decimals) = some amount := by
      rintro ⟨amount, obstacle⟩
      have failed : report = .error _ :=
        result_ofRecords_eq_error_iff.2 ⟨amount, obstacle, rfl⟩
      cases made.symm.trans failed
    refine ⟨iff_of_false nofun clear, nofun, fun output done => ?_⟩
    exact ⟨_, rfl, map_record_showRecord _ _ _, (Except.ok.inj done).symm⟩

/-- A payment at a fee of less than a base unit: there is no report for the one who pays, and there
is one for the other. -/
theorem reconcile_fails_iff_balance_hindered_fee :
    let payment := { ClientRecord.ofOneUnit "h" "me" "them" "BTC" 5 with fee := "0.000000001" }
    let text := "[\x7b\"status\":\"included\",\"hash\":\"h\",\"from\":\"me\",\"to\":\"them\"," ++
      "\"amount\":\"1\",\"currency\":\"BTC\",\"fee\":\"0.000000001\",\"block_height\":5\x7d]"
    let environment : Environment := {
      envVar? := fun _ => none
      file? := fun _ => some text.toUTF8 }
    let payer : Config := { network := .btc, addresses := ["me"] }
    let payee : Config := { network := .btc, addresses := ["them"] }
    let command (config : Config) := (reconcile environment config "payment.json" none).result
    let hindered (config : Config) :=
      ∃ record ∈ (closed config [payment]).store.records, record.HindersBalance .btc
    (payer.addresses ≠ [] ∧ payee.addresses ≠ []) ∧
      recordsIn environment "payment.json" = .ok [payment] ∧
      (hindered payer ∧
        command payer = .error "amount 0.000000001 btc cannot be expressed in base units") ∧
      ¬hindered payee ∧ ∃ output, command payee = .ok output := by
  intro payment text environment payer payee command hindered
  have paying : payer.addresses ≠ [] := by decide
  have paid : payee.addresses ≠ [] := by decide
  have parsed : recordsIn environment "payment.json" = .ok [payment] := by decide +kernel
  have refused :
      command payer = .error "amount 0.000000001 btc cannot be expressed in base units" := by
    rw [show command payer = _ from result_reconcile paying parsed none]
    decide +kernel
  have balanced : (closed payee [payment]).balance = .ok 100000000 := by decide +kernel
  obtain ⟨fails, -, -⟩ := reconcile_fails_iff_balance_hindered environment payer "payment.json" none
    [payment] paying parsed
  obtain ⟨without, -, -⟩ := reconcile_fails_iff_balance_hindered environment payee "payment.json"
    none [payment] paid parsed
  have done : ∃ output, command payee = .ok output := by
    rw [show command payee = _ from result_reconcile paid parsed none, result_ofRecords, balanced]
    exact ⟨_, rfl⟩
  refine ⟨⟨paying, paid⟩, parsed, ⟨fails.1 ⟨_, refused⟩, refused⟩, fun found => ?_, done⟩
  obtain ⟨message, failed⟩ := without.2 found
  obtain ⟨output, printed⟩ := done
  cases failed.symm.trans printed

end CommandLine

end WalletLedger
