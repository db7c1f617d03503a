import WalletLedger.Proofs.Amount.Value
import WalletLedger.Proofs.Manager.Balance
import Mathlib.Algebra.BigOperators.Ring.List

/-!
# Balances in different units

One wallet, asked for the balance of one currency in two units, the finer one
smaller by a power of ten. The amounts that it received and sent are larger by
that power in the finer unit. The fees that it was charged are counted in the
unit of the network, whichever unit the balance is asked for, and so are the same
number in both.

Main statement: `tokenBalance_rescaled_iff`, the balances are of one value just if
no fee counts, or nothing is left in the finer unit. `fee_in_another_unit` is a
wallet whose balance is of another value in each unit.
-/

namespace WalletLedger

variable {network : Network} {currency : String} {coarse fine : UInt8}

/-! ## Sums -/

namespace Ledger

/-- Amounts that are expressible in both units are larger in the finer one. -/
theorem amounts_rescaled (finer : coarse ≤ fine) (direction : TransferDirection)
    {records : List TransferRecord}
    (inCoarse : ∀ record ∈ records, record.Expressible network currency coarse)
    (inFine : ∀ record ∈ records, record.Expressible network currency fine) :
    amounts currency fine direction records =
      amounts currency coarse direction records * 10 ^ (fine.toNat - coarse.toNat) := by
  rw [amounts, amounts, ← List.sum_map_mul_right]
  refine congrArg List.sum (List.map_congr_left fun record mem => ?_)
  obtain ⟨stored, counts⟩ := List.mem_filter.1 mem
  simp only [Bool.and_eq_true] at counts
  obtain ⟨⟨same, moves⟩, -⟩ := counts
  exact record.amount.toBaseUnits?_rescaled finer
    (DecimalAmount.toBaseUnits?_eq_some ((inCoarse record stored).amount same moves))
    (DecimalAmount.toBaseUnits?_eq_some ((inFine record stored).amount same moves))

/-- The fees that count for a currency, in the unit of the network. -/
def charges (network : Network) (currency : String) (records : List TransferRecord) : Nat :=
  if Text.sameLetters currency network.currencyCode then fees network records else 0

theorem debits_eq (decimals : UInt8) (records : List TransferRecord) :
    debits network currency decimals records =
      amounts currency decimals .sent records + charges network currency records := rfl

end Ledger

/-! ## Balances -/

/-- What is left of amounts that are larger by a factor, less charges that are not, against what is
left of the smaller ones with that factor. -/
theorem scaled_difference_iff {factor received sent charged : Nat} (positive : 0 < factor) :
    received * factor - (sent * factor + charged) = (received - (sent + charged)) * factor ↔
      factor = 1 ∨ charged = 0 ∨ received * factor - (sent * factor + charged) = 0 := by
  have grows : charged ≤ charged * factor := Nat.le_mul_of_pos_right charged positive
  have same : charged * factor = charged ↔ factor = 1 ∨ charged = 0 := mul_right_eq_self₀
  have most : received ≤ sent + charged ↔
      received * factor ≤ sent * factor + charged * factor := by
    rw [← Nat.add_mul, Nat.mul_le_mul_right_iff positive]
  rw [Nat.sub_mul, Nat.add_mul, ← or_assoc, ← same]
  omega

namespace Manager

open TransferBundle (ofOneUnit)

/-- In a finer unit a balance is the larger amounts less the same charges. It is of the same value
as in the coarse unit just if the units are the same, no fee counts, or nothing is left. -/
theorem tokenBalance_rescaled_iff (manager : Manager MemoryStore) (currency : String)
    {coarse fine : UInt8} (finer : coarse ≤ fine) {inCoarse inFine : Nat}
    (computed : manager.tokenBalance currency coarse = .ok inCoarse)
    (refined : manager.tokenBalance currency fine = .ok inFine)
    (creditsFit : Ledger.credits currency fine manager.store.records < 2 ^ 128)
    (debitsFit : Ledger.debits manager.network currency fine manager.store.records < 2 ^ 128) :
    let factor := 10 ^ (fine.toNat - coarse.toNat)
    let received := Ledger.amounts currency coarse .received manager.store.records
    let sent := Ledger.amounts currency coarse .sent manager.store.records
    let charged := Ledger.charges manager.network currency manager.store.records
    inCoarse = received - (sent + charged) ∧
      inFine = received * factor - (sent * factor + charged) ∧
      (inFine = inCoarse * factor ↔ coarse = fine ∨ charged = 0 ∨ inFine = 0) := by
  intro factor received sent charged
  have expressibleCoarse := (tokenBalance_ok_iff manager currency coarse).1 ⟨_, computed⟩
  have expressibleFine := (tokenBalance_ok_iff manager currency fine).1 ⟨_, refined⟩
  have credits : Ledger.credits currency fine manager.store.records = received * factor :=
    Ledger.amounts_rescaled finer .received expressibleCoarse expressibleFine
  have debits : Ledger.debits manager.network currency fine manager.store.records =
      sent * factor + charged := by
    rw [Ledger.debits_eq, Ledger.amounts_rescaled finer .sent expressibleCoarse expressibleFine]
  have positive : 0 < factor := Nat.pow_pos (by decide)
  have exactFine : inFine = received * factor - (sent * factor + charged) := by
    rw [← credits, ← debits]
    exact tokenBalance_exact currency fine rfl refined creditsFit debitsFit
  have exactCoarse : inCoarse = received - (sent + charged) := by
    -- what fits in the finer unit fits in the coarse one
    have receivedFits : received < DecimalAmount.unitBound :=
      (Nat.le_mul_of_pos_right received positive).trans_lt (credits ▸ creditsFit)
    have spentFits : sent + charged < DecimalAmount.unitBound :=
      (Nat.add_le_add_right (Nat.le_mul_of_pos_right sent positive) charged).trans_lt
        (debits ▸ debitsFit)
    exact tokenBalance_exact currency coarse rfl computed receivedFits spentFits
  have sameUnit : factor = 1 ↔ coarse = fine := by
    have places := UInt8.le_iff_toNat_le.1 finer
    rw [Nat.pow_eq_one, or_iff_right (by decide), ← UInt8.toNat_inj]
    omega
  refine ⟨exactCoarse, exactFine, ?_⟩
  rw [exactCoarse, exactFine, ← sameUnit]
  exact scaled_difference_iff positive

/-- A wallet that was charged no fee has a balance of one value in satoshi and in millionths of
them. -/
theorem tokenBalance_rescaled_iff_uncharged :
    let manager := (fresh { network := .btc, addresses := ["me"] }).delivered
      [ofOneUnit (some "h1") none "them" "me" "btc"]
    manager.tokenBalance "btc" 8 = .ok 100000000 ∧
      manager.tokenBalance "btc" 14 = .ok 100000000000000 ∧
      Ledger.credits "btc" 14 manager.store.records < 2 ^ 128 ∧
      Ledger.debits manager.network "btc" 14 manager.store.records < 2 ^ 128 ∧
      (100000000000000 = 100000000 * 10 ^ ((14 : UInt8).toNat - (8 : UInt8).toNat) ↔
        (8 : UInt8) = 14 ∨ Ledger.charges manager.network "btc" manager.store.records = 0 ∨
          100000000000000 = 0) := by
  intro manager
  have computed : manager.tokenBalance "btc" 8 = .ok 100000000 := by decide +kernel
  have refined : manager.tokenBalance "btc" 14 = .ok 100000000000000 := by decide +kernel
  have credits : Ledger.credits "btc" 14 manager.store.records < 2 ^ 128 := by decide +kernel
  have debits : Ledger.debits manager.network "btc" 14 manager.store.records < 2 ^ 128 := by
    decide +kernel
  obtain ⟨-, -, law⟩ :=
    tokenBalance_rescaled_iff manager "btc" (by decide) computed refined credits debits
  exact ⟨computed, refined, credits, debits, law⟩

/-- A wallet that received two coins and sent one at a fee of half a coin. Asked for one more
decimal place, it subtracts the same number for the fee, so it shows 9.5 tenths of a coin for
half a coin. -/
theorem fee_in_another_unit :
    let manager := (fresh { network := .btc, addresses := ["me"] }).delivered
      [ofOneUnit (some "h1") none "them" "me" "btc",
        ofOneUnit (some "h2") none "them" "me" "btc",
        { ofOneUnit (some "h3") none "me" "shop" "btc" with
          fee := some ⟨"0.5", by decide +kernel⟩ }]
    manager.tokenBalance "btc" 8 = .ok 50000000 ∧
      manager.tokenBalance "btc" 9 = .ok 950000000 ∧
      Ledger.credits "btc" 9 manager.store.records < 2 ^ 128 ∧
      Ledger.debits manager.network "btc" 9 manager.store.records < 2 ^ 128 ∧
      950000000 ≠ 50000000 * 10 ^ (9 - 8) := by
  decide +kernel

end Manager

end WalletLedger
