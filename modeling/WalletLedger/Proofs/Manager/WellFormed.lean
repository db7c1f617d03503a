import WalletLedger.Proofs.Manager.Run
import WalletLedger.Proofs.Transfer.WellFormed

/-!
# What a store holds

Every record that a manager stores is well formed, whatever bundles were
delivered and however little they agree with each other. The bundle that makes a
record settles its ends, and with them its direction; a merge changes neither.
-/

namespace WalletLedger

namespace Ledger

/-- All records of a list are well formed and have the direction that goes with their ends. -/
def WellFormed (network : Network) (owned : AddressSet) (records : List TransferRecord) : Prop :=
  ∀ record ∈ records, record.WellFormed network ∧
    TransferDirection.find owned record.source record.target = some record.direction

theorem WellFormed.absorb {network : Network} {owned : AddressSet} {records : List TransferRecord}
    {bundle : TransferBundle} (built : bundle.IsBuilt) (before : WellFormed network owned records) :
    WellFormed network owned (Ledger.absorb network owned records bundle) := by
  intro record mem
  rcases mem_absorb mem with stays | ⟨old, among, -, rfl⟩ | made
  · exact before record stays
  · obtain ⟨known, direction⟩ := before old among
    have seen : (TransferRecord.ofBundle bundle network old.direction).WellFormed network :=
      TransferRecord.ofBundle_wellFormed built
    exact ⟨known.merge seen, direction⟩
  · obtain ⟨direction, found, rfl⟩ := newcomer?_eq_some made
    exact ⟨TransferRecord.ofBundle_wellFormed built, found⟩

end Ledger

namespace Manager

/-- A run over well-formed records leaves well-formed records behind. -/
theorem wellFormed_after {manager : Manager MemoryStore} {operations : List Operation}
    (start : Ledger.WellFormed manager.network manager.owned manager.store.records)
    (built : ∀ bundle, .recover bundle ∈ operations → bundle.IsBuilt) :
    Ledger.WellFormed manager.network manager.owned (manager.after operations).store.records :=
  records_after_induction start fun _ bundle among before => before.absorb (built bundle among)

/-- Every record that a run leaves in the store is well formed, and its direction is the one that its
ends have for the addresses of the wallet. -/
theorem stored_records_wellFormed (config : Config) (operations : List Operation)
    (built : ∀ bundle, .recover bundle ∈ operations → bundle.IsBuilt) :
    ∀ record ∈ ((fresh config).after operations).store.records,
      record.WellFormed config.network ∧
        TransferDirection.find (.ofList config.addresses) record.source record.target =
          some record.direction := by
  have empty : Ledger.WellFormed (fresh config).network (fresh config).owned
      (fresh config).store.records := List.forall_mem_nil _
  exact wellFormed_after empty built

/-- A payment with a tag is submitted under a correlation id, fails in a block, and is then said to
have gone through after all, at another fee and with another tag. -/
theorem stored_records_wellFormed_contradicted :
    let submitted := {
      TransferBundle.ofOneUnit none (some "u") "me" "them" "xrp" with
      metadata := TextMap.empty.insert "destinationtag" "7" }
    let failed := {
      TransferBundle.ofOneUnit (some "h") (some "u") "me" "them" "xrp" with
      status := .errored
      fee := some ⟨"0.00001", by decide +kernel⟩
      blockHeight := some 5
      blockTimestamp := some 9 }
    let confirmed := {
      TransferBundle.ofOneUnit (some "h") none "me" "them" "xrp" with
      status := .included
      fee := some ⟨"0.00002", by decide +kernel⟩
      blockHeight := some 6
      metadata := TextMap.empty.insert "DESTINATIONTAG" "8" }
    let operations : List Operation :=
      [.connect, .recover submitted, .recover failed, .sync, .recover confirmed]
    let config : Config := { network := .xrp, addresses := ["me"] }
    let stored := ((fresh config).after operations).store.records
    (∀ bundle, .recover bundle ∈ operations → bundle.IsBuilt) ∧
      stored.map (·.attributes.entries) = [[("DestinationTag", "8")]] ∧
      ∀ record ∈ stored, record.WellFormed config.network ∧
        TransferDirection.find (.ofList config.addresses) record.source record.target =
          some record.direction := by
  intro submitted failed confirmed operations config stored
  let ends : List Setting :=
    [.text .source "me", .text .target "them", .text .amount "1", .text .currency "xrp"]
  have first : submitted.IsBuilt :=
    ⟨.submitted, .text .uids "u" :: .entry "destinationtag" "7" :: ends, by decide⟩
  have second : failed.IsBuilt :=
    ⟨.errored, .text .uids "u" :: .text .hash "h" :: .text .fee "0.00001" ::
      .number .blockHeight 5 :: .number .blockTimestamp 9 :: ends, by decide⟩
  have third : confirmed.IsBuilt :=
    ⟨.included, .text .hash "h" :: .text .fee "0.00002" :: .number .blockHeight 6 ::
      .entry "DESTINATIONTAG" "8" :: ends, by decide⟩
  have built : ∀ bundle, .recover bundle ∈ operations → bundle.IsBuilt := by
    intro bundle mem
    simp only [operations, List.mem_cons, List.not_mem_nil, or_false, reduceCtorEq, false_or,
      Operation.recover.injEq] at mem
    rcases mem with rfl | rfl | rfl
    · exact first
    · exact second
    · exact third
  exact ⟨built, by decide, stored_records_wellFormed config operations built⟩

end Manager

end WalletLedger
