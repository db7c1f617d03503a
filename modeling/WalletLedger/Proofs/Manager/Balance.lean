import WalletLedger.Proofs.Bundle.Built
import WalletLedger.Proofs.Ledger.Sums
import WalletLedger.Proofs.Manager.Run

/-!
# Balances in closed form

The balance of a currency is what the wallet received of it less what it paid,
each cut off at the largest number of 128 bits (`tokenBalance_eq`). It is computed
just if all records are expressible, and otherwise the first obstacle is the
error.

Cutting off shows only if the wallet received more than fits 128 bits and more
than it paid (`tokenBalance_exact_iff`); the balance is then too small.
`receipts_cut_off` is a wallet to which that happens.
-/

namespace WalletLedger.Manager

variable (manager : Manager MemoryStore) (currency : String) (decimals : UInt8)

theorem tokenBalance_eq :
    manager.tokenBalance currency decimals =
      match manager.store.records.findSome?
        (TransferRecord.obstacle? manager.network currency decimals) with
      | some amount => .error (.inexpressibleAmount amount currency)
      | none => .ok
        (min (Ledger.credits currency decimals manager.store.records)
            (DecimalAmount.unitBound - 1) -
          min (Ledger.debits manager.network currency decimals manager.store.records)
            (DecimalAmount.unitBound - 1)) := by
  have totals : Totals.ofRecords manager.network currency decimals manager.store.records = _ :=
    Totals.foldlM_addRecord .zero manager.store.records
  rw [tokenBalance, transfers_eq]
  change (Totals.ofRecords manager.network currency decimals manager.store.records >>= _) = _
  rw [totals]
  cases manager.store.records.findSome?
      (TransferRecord.obstacle? manager.network currency decimals) with
  | some amount => rfl
  | none =>
    rw [Totals.plus_comm, Totals.plus_zero]
    rfl

theorem no_obstacle_iff {records : List TransferRecord} :
    records.findSome? (TransferRecord.obstacle? manager.network currency decimals) = none ↔
      ∀ record ∈ records, record.Expressible manager.network currency decimals := by
  rw [List.findSome?_eq_none_iff]
  exact forall₂_congr fun record _ => TransferRecord.obstacle?_eq_none_iff

theorem tokenBalance_of_expressible
    (expressible : ∀ record ∈ manager.store.records,
      record.Expressible manager.network currency decimals) :
    manager.tokenBalance currency decimals = .ok
      (min (Ledger.credits currency decimals manager.store.records) (DecimalAmount.unitBound - 1) -
        min (Ledger.debits manager.network currency decimals manager.store.records)
          (DecimalAmount.unitBound - 1)) := by
  rw [tokenBalance_eq, (no_obstacle_iff manager currency decimals).2 expressible]

theorem tokenBalance_ok_iff :
    (∃ balance, manager.tokenBalance currency decimals = .ok balance) ↔
      ∀ record ∈ manager.store.records,
        record.Expressible manager.network currency decimals := by
  constructor
  · rintro ⟨balance, computed⟩
    rw [tokenBalance_eq] at computed
    cases obstacle : manager.store.records.findSome?
        (TransferRecord.obstacle? manager.network currency decimals) with
    | none => exact (no_obstacle_iff manager currency decimals).1 obstacle
    | some amount =>
      rw [obstacle] at computed
      cases computed
  · intro expressible
    exact ⟨_, tokenBalance_of_expressible manager currency decimals expressible⟩

theorem tokenBalance_ok_iff_of_network {manager : Manager MemoryStore} {network : Network}
    (same : manager.network = network) :
    (∃ balance, manager.tokenBalance currency decimals = .ok balance) ↔
      ∀ record ∈ manager.store.records, record.Expressible network currency decimals := by
  subst same
  exact tokenBalance_ok_iff manager currency decimals

/-- A balance is exact if nothing is cut off. -/
theorem tokenBalance_exact {manager : Manager MemoryStore} {network : Network} {balance : Nat}
    (same : manager.network = network)
    (computed : manager.tokenBalance currency decimals = .ok balance)
    (credits : Ledger.credits currency decimals manager.store.records < DecimalAmount.unitBound)
    (debits : Ledger.debits network currency decimals manager.store.records <
      DecimalAmount.unitBound) :
    balance = Ledger.credits currency decimals manager.store.records -
      Ledger.debits network currency decimals manager.store.records := by
  subst same
  have expressible := (tokenBalance_ok_iff manager currency decimals).1 ⟨balance, computed⟩
  rw [tokenBalance_of_expressible manager currency decimals expressible,
    Nat.min_eq_left (Nat.le_sub_one_of_lt credits),
    Nat.min_eq_left (Nat.le_sub_one_of_lt debits)] at computed
  exact (Except.ok.inj computed).symm

/-- There is a balance of a currency just if all records are expressible, and it is what was
received less what was paid, each at most the largest number of 128 bits. Otherwise the error is
the first obstacle in the order of the identifiers. -/
theorem tokenBalance_credits_less_debits (manager : Manager MemoryStore) (currency : String)
    (decimals : UInt8) :
    let records := manager.store.records
    ((∃ balance, manager.tokenBalance currency decimals = .ok balance) ↔
        ∀ record ∈ records, record.Expressible manager.network currency decimals) ∧
      manager.tokenBalance currency decimals =
        match records.findSome? (TransferRecord.obstacle? manager.network currency decimals) with
        | some amount => .error (.inexpressibleAmount amount currency)
        | none => .ok
          (min (Ledger.credits currency decimals records) (DecimalAmount.unitBound - 1) -
            min (Ledger.debits manager.network currency decimals records)
              (DecimalAmount.unitBound - 1)) :=
  ⟨tokenBalance_ok_iff manager currency decimals, tokenBalance_eq manager currency decimals⟩

/-! ## Where cutting off shows -/

/-- A balance is exact just if what was received fits 128 bits or is not more than what was paid;
and it is never more than the exact one. -/
theorem tokenBalance_exact_iff (manager : Manager MemoryStore) (currency : String)
    (decimals : UInt8) :
    let credits := Ledger.credits currency decimals manager.store.records
    let debits := Ledger.debits manager.network currency decimals manager.store.records
    (manager.tokenBalance currency decimals = .ok (credits - debits) ↔
        (∀ record ∈ manager.store.records,
          record.Expressible manager.network currency decimals) ∧
        (credits < DecimalAmount.unitBound ∨ credits ≤ debits)) ∧
      (manager.tokenBalance currency decimals).toOption.getD 0 ≤ credits - debits := by
  intro credits debits
  have some_unit : 0 < DecimalAmount.unitBound := by decide
  by_cases expressible : ∀ record ∈ manager.store.records,
      record.Expressible manager.network currency decimals
  · rw [tokenBalance_of_expressible manager currency decimals expressible,
      Except.ok.injEq, and_iff_right expressible]
    change (min credits _ - min debits _ = _ ↔ _) ∧ min credits _ - min debits _ ≤ _
    generalize DecimalAmount.unitBound = bound at *
    omega
  · refine ⟨iff_of_false ?_ fun both => expressible both.1, ?_⟩
    · intro computed
      exact expressible ((tokenBalance_ok_iff manager currency decimals).1 ⟨_, computed⟩)
    · cases computed : manager.tokenBalance currency decimals with
      | ok balance =>
        exact absurd ((tokenBalance_ok_iff manager currency decimals).1 ⟨_, computed⟩) expressible
      | error error => exact Nat.zero_le _

/-- A transfer of the largest amount of bitcoin that fits 128 bits. -/
def ofMostUnits (hash source target : String) : TransferBundle :=
  { TransferBundle.ofOneUnit (some hash) none source target "btc" with
    amount := ⟨"3402823669209384634633746074317.68211455", by decide +kernel⟩ }

/-- A wallet that receives the largest amount twice has the balance of one receipt, and none at all
once it has paid one of them. -/
theorem receipts_cut_off :
    let received := (fresh { network := .btc, addresses := ["me"] }).delivered
      [ofMostUnits "h1" "them" "me", ofMostUnits "h2" "them" "me"]
    let paid := received.delivered [ofMostUnits "h3" "me" "shop"]
    let due (manager : Manager MemoryStore) : Nat :=
      Ledger.credits "btc" 8 manager.store.records - Ledger.debits .btc "btc" 8 manager.store.records
    received.balance = .ok (DecimalAmount.unitBound - 1) ∧
      due received = 2 * (DecimalAmount.unitBound - 1) ∧
      paid.balance = .ok 0 ∧ due paid = DecimalAmount.unitBound - 1 := by
  decide +kernel

end WalletLedger.Manager
