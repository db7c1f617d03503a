import WalletLedger.Proofs.Bundle.Converted
import WalletLedger.Proofs.Report.Contents

/-!
# Records that are passed over

A report counts the records that were passed over, and that is all that is to be
seen of them. All others were accepted at their turn (`accepted_of_mem_turns`).

A record that is passed over leaves the manager as it was, so all later records
find it as if that record were not there (`taking_without`). Without it the report
is the same but for the count (`result_without`), unless it is a bundle of another
wallet whose block is the highest one: then the report is drawn up at a lower
height, and only the holdings are the same (`holdings_without`).
-/

namespace WalletLedger

open ClientRecord

/-! ## Managers -/

namespace Manager

variable {manager : Manager MemoryStore}

/-- The manager is live at every turn. -/
theorem live_of_mem_turns (live : manager.connection ≠ .deleted) {records : List ClientRecord} :
    ∀ turn ∈ manager.turns records, turn.1.connection ≠ .deleted := by
  induction records generalizing manager with
  | nil => exact List.forall_mem_nil _
  | cons record rest ih =>
    have next := ih (taking_live live [record])
    exact List.forall_mem_cons.2 ⟨live, next⟩

/-- A record that is not passed over at its turn is a bundle, which is merged or added then. -/
theorem accepted_of_mem_turns (live : manager.connection ≠ .deleted)
    {records : List ClientRecord} {turn : Manager MemoryStore × ClientRecord}
    (mem : turn ∈ manager.turns records) (accepted : turn.1.passesOver turn.2 = false) :
    ∃ bundle outcome, turn.2.toBundle = .ok bundle ∧
      (turn.1.recover bundle).result = .ok outcome :=
  exists_recover_ok (live_of_mem_turns live turn mem) accepted

variable {before : List ClientRecord} {record : ClientRecord}

theorem taking_before (live : manager.connection ≠ .deleted)
    (passed : (manager.taking before).passesOver record = true) :
    (manager.taking before).taking [record] = manager.taking before :=
  taking_of_passesOver (taking_live live before) passed

theorem taking_without (live : manager.connection ≠ .deleted)
    (passed : (manager.taking before).passesOver record = true) (later : List ClientRecord) :
    manager.taking (before ++ record :: later) = manager.taking (before ++ later) := by
  rw [taking_append, taking_cons _ record later, taking_before live passed, ← taking_append]

theorem passedOver_without (live : manager.connection ≠ .deleted)
    (passed : (manager.taking before).passesOver record = true) (later : List ClientRecord) :
    manager.passedOver (before ++ record :: later) = manager.passedOver (before ++ later) + 1 := by
  have first : (manager.taking before).passedOver (record :: later) =
      1 + (manager.taking before).passedOver later := by
    rw [passedOver_cons, if_pos passed, taking_before live passed]
  rw [passedOver_append, first, passedOver_append]
  omega

end Manager

/-! ## Reports -/

namespace Report

/-- Only a bundle has a say in the height of a report, and only if no height is given. -/
theorem heightOf_without {record : ClientRecord} {height : Option UInt64}
    (silent : height.isSome ∨ ∃ fault, record.toBundle = .error fault)
    (before later : List ClientRecord) :
    heightOf (before ++ record :: later) height = heightOf (before ++ later) height := by
  rcases silent with given | ⟨fault, refused⟩
  · obtain ⟨known, rfl⟩ := Option.isSome_iff_exists.1 given
    rfl
  · have same : bundles (before ++ record :: later) = bundles (before ++ later) := by
      rw [bundles_append, bundles_cons record later, bundles_of_error refused, List.nil_append,
        bundles_append]
    rw [heightOf, heightOf, same]

/-- What a report says about the wallet itself, whatever the height of the chain. -/
def holdings (report : Report) : List TransferRecord × Nat :=
  (report.transfers.map ReportedTransfer.record, report.balance)

section Without

variable {config : Config} {before : List ClientRecord} {record : ClientRecord}

theorem closed_without (passed : ((opened config).taking before).passesOver record = true)
    (later : List ClientRecord) :
    closed config (before ++ record :: later) = closed config (before ++ later) :=
  Manager.taking_without (opened_live config) passed later

theorem count_without (passed : ((opened config).taking before).passesOver record = true)
    (later : List ClientRecord) :
    (opened config).passedOver (before ++ record :: later) =
      (opened config).passedOver (before ++ later) + 1 :=
  Manager.passedOver_without (opened_live config) passed later

/-- Without a record that is passed over, the holdings are the same and the count is one lower. -/
theorem holdings_without (passed : ((opened config).taking before).passesOver record = true)
    (later : List ClientRecord) (height : Option UInt64) :
    (ofRecords config (before ++ record :: later) height).result.map
        (fun whole => (whole.holdings, whole.rejected)) =
      (ofRecords config (before ++ later) height).result.map
        (fun rest => (rest.holdings, rest.rejected + 1)) := by
  rw [map_result_ofRecords, map_result_ofRecords, closed_without passed later]
  simp only [holdings, contents, map_record_showRecord, closed_without passed later,
    count_without passed later]

/-- If the record has no say in the height, nothing but the count differs. -/
theorem result_without (passed : ((opened config).taking before).passesOver record = true)
    (later : List ClientRecord) {height : Option UInt64}
    (silent : height.isSome ∨ ∃ fault, record.toBundle = .error fault) :
    (ofRecords config (before ++ record :: later) height).result =
      (ofRecords config (before ++ later) height).result.map
        fun rest => { rest with rejected := rest.rejected + 1 } := by
  have same := heightOf_without silent before later
  rw [map_result_ofRecords, result_ofRecords, closed_without passed later]
  unfold contents
  rw [closed_without passed later, count_without passed later, same]

end Without

/-- A report counts the records that were passed over at their turn, and all others were merged or
added. Without one of those that were passed over there is the same report, or the same failure, on
the same holdings, and the count is one lower; and if a height is given or that record was no
bundle, then nothing but the count differs. -/
theorem passed_over_without_influence (config : Config) (records : List ClientRecord)
    (height : Option UInt64) :
    let start := opened config
    let report (records : List ClientRecord) := (ofRecords config records height).result
    (report records).map (·.rejected) = (start.taking records).balance.map (fun _ =>
        (start.turns records).countP fun turn => turn.1.passesOver turn.2) ∧
      (∀ turn ∈ start.turns records, turn.1.passesOver turn.2 = false →
        ∃ bundle outcome, turn.2.toBundle = .ok bundle ∧
          (turn.1.recover bundle).result = .ok outcome) ∧
      ∀ before record later, records = before ++ record :: later →
        (start.taking before).passesOver record = true →
          start.taking records = start.taking (before ++ later) ∧
          (report records).map (fun whole => (whole.holdings, whole.rejected)) =
            (report (before ++ later)).map (fun rest => (rest.holdings, rest.rejected + 1)) ∧
          (height.isSome ∨ (∃ fault, record.toBundle = .error fault) →
            report records =
              (report (before ++ later)).map fun rest =>
                { rest with rejected := rest.rejected + 1 }) := by
  intro start report
  have live : start.connection ≠ .deleted := opened_live config
  refine ⟨map_result_ofRecords _ config records height,
    fun turn mem => Manager.accepted_of_mem_turns live mem, ?_⟩
  rintro before record later rfl passed
  exact ⟨closed_without passed later, holdings_without passed later height,
    result_without passed later⟩

/-- A receipt and a payment, and between them a record without any name and a transfer between
others in a higher block. The report has the height of that block, and without it a lower one. -/
theorem passed_over_without_influence_foreign :
    let config : Config := { network := .btc, addresses := ["me"] }
    let receipt := ClientRecord.ofOneUnit "h" "them" "me" "btc" 5
    let nameless := ClientRecord.ofOneUnit "" "them" "me" "btc" 9
    let foreign := ClientRecord.ofOneUnit "k" "them" "us" "btc" 100
    let payment := ClientRecord.ofOneUnit "l" "me" "shop" "btc" 7
    let start := opened config
    let report (records : List ClientRecord) := (ofRecords config records none).result
    (start, receipt) ∈ start.turns [receipt, nameless, foreign, payment] ∧
      start.passesOver receipt = false ∧
      (∃ bundle outcome, receipt.toBundle = .ok bundle ∧
        (start.recover bundle).result = .ok outcome) ∧
      (start.taking [receipt]).passesOver nameless = true ∧
      (start.taking [receipt, nameless]).passesOver foreign = true ∧
      (report [receipt, nameless, foreign, payment]).map (·.rejected) = .ok 2 ∧
      report [receipt, nameless, foreign, payment] =
        (report [receipt, foreign, payment]).map (fun rest =>
          { rest with rejected := rest.rejected + 1 }) ∧
      (report [receipt, nameless, foreign, payment]).map
          (fun whole => (whole.holdings, whole.rejected)) =
        (report [receipt, nameless, payment]).map
          (fun rest => (rest.holdings, rest.rejected + 1)) ∧
      (report [receipt, nameless, foreign, payment]).map (·.height) = .ok 100 ∧
      (report [receipt, nameless, payment]).map (·.height) = .ok 7 := by
  intro config receipt nameless foreign payment start report
  obtain ⟨-, accepts, without⟩ :=
    passed_over_without_influence config [receipt, nameless, foreign, payment] none
  have first : (start, receipt) ∈ start.turns [receipt, nameless, foreign, payment] :=
    List.mem_cons_self
  have accepted : start.passesOver receipt = false := by decide +kernel
  have refused : nameless.toBundle = .error .missingIdentity := by decide +kernel
  have unnamed : (start.taking [receipt]).passesOver nameless = true :=
    Manager.passesOver_of_error refused
  have unrelated : (start.taking [receipt, nameless]).passesOver foreign = true := by
    decide +kernel
  obtain ⟨-, -, unseen⟩ := without [receipt] nameless [foreign, payment] rfl unnamed
  obtain ⟨-, figures, -⟩ := without [receipt, nameless] foreign [payment] rfl unrelated
  refine ⟨first, accepted, accepts (start, receipt) first accepted, unnamed, unrelated, ?_,
    unseen (.inr ⟨_, refused⟩), figures, ?_, ?_⟩
  all_goals decide +kernel

end Report

end WalletLedger
