import WalletLedger.Proofs.Manager.Totals
import Mathlib.Algebra.GroupWithZero.Nat
import Mathlib.Data.List.Basic

/-!
# Credits and debits

What a list of records comes to for a currency, in exact sums: `credits` is what
was received, `debits` is what was sent and, for the native currency, what was
charged for it. Amounts count for the currency that they are in, fees only for
the native one, and a transfer between two addresses of the wallet moves nothing
but is charged for.

A record is `Expressible` if all of it that counts is a whole number of base
units; otherwise `obstacle?` is what stands in the way. Main statement:
`foldlM_addRecord`, totals that are summed up with a limit are the exact sums, cut
off at the end, or the first obstacle is the error.
-/

namespace WalletLedger

/-- The base units of an amount, none if it is inexpressible. -/
def DecimalAmount.units (amount : DecimalAmount) (decimals : UInt8) : Nat :=
  (amount.toBaseUnits? decimals).getD 0

theorem DecimalAmount.toBaseUnits?_eq_some {amount : DecimalAmount} {decimals : UInt8}
    (expressible : (amount.toBaseUnits? decimals).isSome = true) :
    amount.toBaseUnits? decimals = some (amount.units decimals) := by
  obtain ⟨units, known⟩ := Option.isSome_iff_exists.1 expressible
  rw [DecimalAmount.units, known, Option.getD_some]

/-! ## What can be expressed -/

namespace TransferRecord

/-- All of a record that counts for a currency is a whole number of base units. -/
structure Expressible (network : Network) (currency : String) (decimals : UInt8)
    (record : TransferRecord) : Prop where
  amount : Text.sameLetters record.currency currency → record.state.movesAmount →
    (record.amount.toBaseUnits? decimals).isSome
  fee : Text.sameLetters currency network.currencyCode → record.direction ≠ .received →
    record.state.chargesFee → ∀ fee ∈ record.fee, (fee.toBaseUnits? network.decimals).isSome

/-- What counts of a record for a currency but is inexpressible: its amount, or else its fee. -/
def obstacle? (network : Network) (currency : String) (decimals : UInt8)
    (record : TransferRecord) : Option DecimalAmount :=
  if Text.sameLetters record.currency currency && record.state.movesAmount &&
      (record.amount.toBaseUnits? decimals).isNone then
    some record.amount
  else if Text.sameLetters currency network.currencyCode && record.direction ≠ .received &&
      record.state.chargesFee then
    record.fee.filter fun fee => (fee.toBaseUnits? network.decimals).isNone
  else none

variable {network : Network} {currency : String} {decimals : UInt8} {record : TransferRecord}

theorem obstacle?_eq_none_iff :
    record.obstacle? network currency decimals = none ↔
      record.Expressible network currency decimals := by
  unfold obstacle?
  constructor
  · intro clear
    split at clear
    · cases clear
    · next amount =>
      refine ⟨fun same moves => ?_, fun native pays charged fee present => ?_⟩
      · simpa [same, moves, Option.isSome_iff_ne_none] using amount
      · rw [if_pos (by simp [native, pays, charged]), Option.mem_def.1 present] at clear
        simpa [Option.filter, Option.isSome_iff_ne_none] using clear
  · intro expressible
    obtain ⟨amount, fee⟩ := expressible
    rw [if_neg]
    · split
      · next counts =>
        simp only [Bool.and_eq_true, decide_eq_true_eq] at counts
        cases present : record.fee with
        | none => rfl
        | some charge =>
          have known := fee counts.1.1 counts.1.2 counts.2 charge present
          simpa [Option.filter, Option.isSome_iff_ne_none] using known
      · rfl
    · intro counts
      simp only [Bool.and_eq_true, Option.isNone_iff_eq_none] at counts
      have known := amount counts.1.1 counts.1.2
      rw [counts.2] at known
      cases known

end TransferRecord

/-! ## Exact sums -/

namespace Ledger

variable (network : Network) (currency : String) (decimals : UInt8)

/-- The amounts of a currency that change hands in a direction, in base units. -/
def amounts (direction : TransferDirection) (records : List TransferRecord) : Nat :=
  ((records.filter fun record =>
      Text.sameLetters record.currency currency && record.state.movesAmount &&
        record.direction = direction).map
    fun record => record.amount.units decimals).sum

/-- The fees that the wallet is charged, in base units of the native currency. -/
def fees (records : List TransferRecord) : Nat :=
  ((records.filter fun record => record.direction ≠ .received && record.state.chargesFee).map
    fun record => record.fee.elim 0 (·.units network.decimals)).sum

/-- What the wallet received of a currency. -/
def credits (records : List TransferRecord) : Nat :=
  amounts currency decimals .received records

/-- What the wallet paid of a currency. -/
def debits (records : List TransferRecord) : Nat :=
  amounts currency decimals .sent records +
    if Text.sameLetters currency network.currencyCode then fees network records else 0

variable {network currency decimals}

theorem credits_nil : credits currency decimals [] = 0 := rfl

theorem debits_nil : debits network currency decimals [] = 0 := by
  rw [debits]
  split <;> rfl

theorem amounts_singleton (direction : TransferDirection) (record : TransferRecord) :
    amounts currency decimals direction [record] =
      if Text.sameLetters record.currency currency && record.state.movesAmount &&
          record.direction = direction
      then record.amount.units decimals else 0 := by
  rw [amounts, List.filter_singleton]
  split
  · next counts => rw [counts, cond_true, List.map_singleton, List.sum_singleton]
  · next passes => rw [Bool.eq_false_iff.2 passes, cond_false, List.map_nil, List.sum_nil]

theorem fees_singleton (record : TransferRecord) :
    fees network [record] =
      if record.direction ≠ .received && record.state.chargesFee
      then record.fee.elim 0 (·.units network.decimals) else 0 := by
  rw [fees, List.filter_singleton]
  split
  · next counts => rw [counts, cond_true, List.map_singleton, List.sum_singleton]
  · next passes => rw [Bool.eq_false_iff.2 passes, cond_false, List.map_nil, List.sum_nil]

theorem amounts_append {direction : TransferDirection} (first second : List TransferRecord) :
    amounts currency decimals direction (first ++ second) =
      amounts currency decimals direction first + amounts currency decimals direction second := by
  simp only [amounts, List.filter_append, List.map_append, List.sum_append]

theorem fees_append (first second : List TransferRecord) :
    fees network (first ++ second) = fees network first + fees network second := by
  simp only [fees, List.filter_append, List.map_append, List.sum_append]

theorem credits_append (first second : List TransferRecord) :
    credits currency decimals (first ++ second) =
      credits currency decimals first + credits currency decimals second :=
  amounts_append first second

theorem debits_append (first second : List TransferRecord) :
    debits network currency decimals (first ++ second) =
      debits network currency decimals first + debits network currency decimals second := by
  simp only [debits, amounts_append, fees_append]
  split <;> omega

theorem credits_cons (record : TransferRecord) (rest : List TransferRecord) :
    credits currency decimals (record :: rest) =
      credits currency decimals [record] + credits currency decimals rest :=
  credits_append [record] rest

theorem debits_cons (record : TransferRecord) (rest : List TransferRecord) :
    debits network currency decimals (record :: rest) =
      debits network currency decimals [record] + debits network currency decimals rest :=
  debits_append [record] rest

end Ledger

namespace TransferRecord

open Ledger

variable {network : Network} {currency : String} {decimals : UInt8} {record : TransferRecord}

theorem amountShare?_of_expressible (expressible : record.Expressible network currency decimals) :
    record.amountShare? currency decimals =
      some ⟨amounts currency decimals .received [record],
        amounts currency decimals .sent [record]⟩ := by
  rw [amountShare?, countsAmount, amounts_singleton, amounts_singleton]
  by_cases counts : (Text.sameLetters record.currency currency && record.state.movesAmount) = true
  · obtain ⟨same, moves⟩ := Bool.and_eq_true_iff.1 counts
    rw [if_pos counts, counts, DecimalAmount.toBaseUnits?_eq_some (expressible.amount same moves)]
    cases record.direction <;> rfl
  · rw [if_neg counts, Bool.eq_false_iff.2 counts]
    rfl

theorem feeShare?_of_expressible (expressible : record.Expressible network currency decimals) :
    record.feeShare? network currency =
      some ⟨0, if Text.sameLetters currency network.currencyCode then fees network [record]
        else 0⟩ := by
  rw [feeShare?, countedFee?, fees_singleton, Bool.and_assoc]
  by_cases native : Text.sameLetters currency network.currencyCode = true
  · rw [native, Bool.true_and, if_pos rfl]
    by_cases charged : (decide (record.direction ≠ .received) && record.state.chargesFee) = true
    · obtain ⟨pays, spent⟩ := Bool.and_eq_true_iff.1 charged
      rw [if_pos charged, if_pos charged]
      cases present : record.fee with
      | none => rfl
      | some fee =>
        have known := expressible.fee native (of_decide_eq_true pays) spent fee present
        exact congrArg (Option.map fun units => Totals.mk 0 units)
          (DecimalAmount.toBaseUnits?_eq_some known)
    · rw [if_neg charged, if_neg charged]
      rfl
  · rw [Bool.eq_false_iff.2 native]
    rfl

/-- An expressible record adds to the totals what it adds to the exact sums. -/
theorem share?_of_expressible (expressible : record.Expressible network currency decimals) :
    record.share? network currency decimals =
      some ⟨credits currency decimals [record], debits network currency decimals [record]⟩ := by
  rw [share?, amountShare?_of_expressible expressible, feeShare?_of_expressible expressible]
  rfl

end TransferRecord

namespace Totals

variable {network : Network} {currency : String} {decimals : UInt8}

theorem addAmount_of_inexpressible {record : TransferRecord}
    (counts : record.countsAmount currency = true)
    (inexpressible : record.amount.toBaseUnits? decimals = none) (totals : Totals) :
    totals.addAmount record currency decimals =
      .error (.inexpressibleAmount record.amount currency) := by
  rw [addAmount, if_pos counts, baseUnits, inexpressible]
  rfl

theorem addFee_of_inexpressible {record : TransferRecord} {fee : DecimalAmount}
    (counts : record.countedFee? network currency = some fee)
    (inexpressible : fee.toBaseUnits? network.decimals = none) (totals : Totals) :
    totals.addFee record network currency = .error (.inexpressibleAmount fee currency) := by
  rw [addFee, counts]
  change (baseUnits fee currency network.decimals).map totals.debit = _
  rw [baseUnits, inexpressible]
  rfl

theorem addAmount_of_passes {record : TransferRecord}
    (passes : ¬(record.countsAmount currency = true ∧
      record.amount.toBaseUnits? decimals = none)) (totals : Totals) :
    ∃ next, totals.addAmount record currency decimals = .ok next := by
  rw [addAmount]
  split
  · next counts =>
    cases units : record.amount.toBaseUnits? decimals with
    | none => exact absurd ⟨counts, units⟩ passes
    | some units' => exact ⟨_, by rw [baseUnits, units]; rfl⟩
  · exact ⟨_, rfl⟩

/-- A record stops the sum with its obstacle. -/
theorem addRecord_of_obstacle {record : TransferRecord} {amount : DecimalAmount}
    (obstacle : record.obstacle? network currency decimals = some amount) (totals : Totals) :
    addRecord network currency decimals totals record =
      .error (.inexpressibleAmount amount currency) := by
  unfold TransferRecord.obstacle? at obstacle
  unfold addRecord
  split at obstacle
  · next offends =>
    cases obstacle
    obtain ⟨counts, inexpressible⟩ := Bool.and_eq_true_iff.1 offends
    rw [addAmount_of_inexpressible counts (Option.isNone_iff_eq_none.1 inexpressible)]
    rfl
  · next passes =>
    have clear : ¬(record.countsAmount currency = true ∧
        record.amount.toBaseUnits? decimals = none) := by
      rintro ⟨counts, inexpressible⟩
      exact passes (Bool.and_eq_true_iff.2 ⟨counts, Option.isNone_iff_eq_none.2 inexpressible⟩)
    obtain ⟨next, added⟩ := addAmount_of_passes clear totals
    split at obstacle
    · next charged =>
      obtain ⟨present, inexpressible⟩ := Option.filter_eq_some_iff.1 obstacle
      have counts : record.countedFee? network currency = some amount := by
        rw [TransferRecord.countedFee?, if_pos charged, present]
      rw [added]
      exact addFee_of_inexpressible counts (Option.isNone_iff_eq_none.1 inexpressible) next
    · cases obstacle

theorem addRecord_of_expressible {record : TransferRecord}
    (expressible : record.Expressible network currency decimals) (totals : Totals) :
    addRecord network currency decimals totals.limit record =
      .ok (totals.plus ⟨Ledger.credits currency decimals [record],
        Ledger.debits network currency decimals [record]⟩).limit := by
  have added : (addRecord network currency decimals totals.limit record).toOption = _ :=
    toOption_addRecord totals record
  rw [TransferRecord.share?_of_expressible expressible, Option.map_some] at added
  cases result : addRecord network currency decimals totals.limit record with
  | error error =>
    rw [result] at added
    cases added
  | ok next =>
    rw [result] at added
    exact congrArg Except.ok (Option.some.inj added)

/-- Totals that are summed up with a limit: the exact sums, cut off at the end, or the first
obstacle. -/
theorem foldlM_addRecord (totals : Totals) (records : List TransferRecord) :
    records.foldlM (addRecord network currency decimals) totals.limit =
      match records.findSome? (TransferRecord.obstacle? network currency decimals) with
      | some amount => .error (.inexpressibleAmount amount currency)
      | none => .ok (totals.plus ⟨Ledger.credits currency decimals records,
          Ledger.debits network currency decimals records⟩).limit := by
  induction records generalizing totals with
  | nil =>
    rw [Ledger.credits_nil, Ledger.debits_nil]
    rfl
  | cons record rest ih =>
    -- the totals so far are kept exact under the limit, which no later record can undo
    rw [List.foldlM_cons, List.findSome?_cons]
    cases obstacle : record.obstacle? network currency decimals with
    | some amount =>
      rw [addRecord_of_obstacle obstacle]
      rfl
    | none =>
      have expressible := TransferRecord.obstacle?_eq_none_iff.1 obstacle
      rw [addRecord_of_expressible expressible]
      refine (ih _).trans ?_
      rw [plus_assoc, Ledger.credits_cons record rest, Ledger.debits_cons record rest]
      rfl

end Totals

end WalletLedger
