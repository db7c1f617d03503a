import WalletLedger.Manager.Balance
import WalletLedger.Store.Memory

/-!
# Exact totals

What a wallet was paid and what it paid, summed without a limit. The totals of a
list of records are these sums, each cut off at the largest number of 128 bits at
the end; cutting off on the way comes to the same (`ofRecords_toOption`). There
are none of either kind if some amount or fee that counts is inexpressible.

So totals and balances depend on which records there are, not on their order.
-/

namespace WalletLedger

namespace Totals

/-! ## Sums -/

/-- The sum of two totals, without a limit. -/
def plus (a b : Totals) : Totals :=
  ⟨a.credits + b.credits, a.debits + b.debits⟩

/-- Totals cut off at the largest number of base units. -/
def limit (totals : Totals) : Totals :=
  ⟨min totals.credits (DecimalAmount.unitBound - 1),
    min totals.debits (DecimalAmount.unitBound - 1)⟩

/-- What base units that went in a direction add to the totals. -/
def ofMove (units : Nat) : TransferDirection → Totals
  | .received => ⟨units, 0⟩
  | .sent => ⟨0, units⟩
  | .recovered => zero

theorem plus_zero (a : Totals) : a.plus zero = a := rfl

theorem plus_comm (a b : Totals) : a.plus b = b.plus a := by
  rw [plus, plus, Nat.add_comm, Nat.add_comm b.debits]

theorem plus_assoc (a b c : Totals) : (a.plus b).plus c = a.plus (b.plus c) := by
  simp only [plus, Nat.add_assoc]

theorem capped_min (a b : Nat) :
    capped (min a (DecimalAmount.unitBound - 1)) b = min (a + b) (DecimalAmount.unitBound - 1) := by
  unfold capped
  omega

theorem move_limit (totals : Totals) (units : Nat) (direction : TransferDirection) :
    totals.limit.move units direction = (totals.plus (ofMove units direction)).limit := by
  cases direction with
  | received => simp only [move, credit, limit, capped_min, plus, ofMove, Nat.add_zero]
  | sent => simp only [move, debit, limit, capped_min, plus, ofMove, Nat.add_zero]
  | recovered => rfl

theorem debit_limit (totals : Totals) (units : Nat) :
    totals.limit.debit units = (totals.plus ⟨0, units⟩).limit := by
  simp only [debit, limit, capped_min, plus, Nat.add_zero]

end Totals

/-! ## Shares -/

theorem toOption_baseUnits (amount : DecimalAmount) (currency : String) (decimals : UInt8) :
    (baseUnits amount currency decimals).toOption = amount.toBaseUnits? decimals := by
  unfold baseUnits
  cases amount.toBaseUnits? decimals <;> rfl

theorem toOption_map {ε α β : Type} (f : α → β) (result : Except ε α) :
    (result.map f).toOption = result.toOption.map f := by
  cases result <;> rfl

theorem toOption_bind {ε α β : Type} (result : Except ε α) (next : α → Except ε β) :
    (result >>= next).toOption = result.toOption.bind fun a => (next a).toOption := by
  cases result <;> rfl

namespace TransferRecord

/-- What the amount of a record adds to the totals of a currency, if it is expressible. -/
def amountShare? (record : TransferRecord) (currency : String) (decimals : UInt8) :
    Option Totals :=
  if record.countsAmount currency then
    (record.amount.toBaseUnits? decimals).map (Totals.ofMove · record.direction)
  else some .zero

/-- What the fee of a record adds to the totals of a currency, if it is expressible. -/
def feeShare? (record : TransferRecord) (network : Network) (currency : String) : Option Totals :=
  match record.countedFee? network currency with
  | some fee => (fee.toBaseUnits? network.decimals).map fun units => ⟨0, units⟩
  | none => some .zero

/-- What a record adds to the totals of a currency, if its amount and its fee are expressible. -/
def share? (record : TransferRecord) (network : Network) (currency : String) (decimals : UInt8) :
    Option Totals :=
  (record.amountShare? currency decimals).bind fun amount =>
    (record.feeShare? network currency).map amount.plus

end TransferRecord

namespace Totals

variable {network : Network} {currency : String} {decimals : UInt8}

theorem toOption_addAmount (totals : Totals) (record : TransferRecord) :
    (totals.limit.addAmount record currency decimals).toOption =
      (record.amountShare? currency decimals).map fun share => (totals.plus share).limit := by
  unfold addAmount TransferRecord.amountShare?
  split
  · rw [toOption_map, toOption_baseUnits, Option.map_map]
    exact congrArg (Option.map · _) (funext fun units => move_limit totals units record.direction)
  · rfl

theorem toOption_addFee (totals : Totals) (record : TransferRecord) :
    (totals.limit.addFee record network currency).toOption =
      (record.feeShare? network currency).map fun share => (totals.plus share).limit := by
  unfold addFee TransferRecord.feeShare?
  cases record.countedFee? network currency with
  | some fee =>
    rw [toOption_map, toOption_baseUnits, Option.map_map]
    exact congrArg (Option.map · _) (funext fun units => debit_limit totals units)
  | none => rfl

/-- A record adds its share to the totals, which are cut off before and after. -/
theorem toOption_addRecord (totals : Totals) (record : TransferRecord) :
    (addRecord network currency decimals totals.limit record).toOption =
      (record.share? network currency decimals).map fun share => (totals.plus share).limit := by
  rw [addRecord, toOption_bind, toOption_addAmount, TransferRecord.share?]
  cases record.amountShare? currency decimals with
  | none => rfl
  | some amount =>
    rw [Option.map_some, Option.bind_some, Option.bind_some, toOption_addFee, Option.map_map]
    exact congrArg (Option.map · _) (funext fun fee => by rw [Function.comp_apply, plus_assoc])

/-! ## Totals of a list -/

/-- The exact totals of a list of records, if all that counts is expressible. -/
def unbounded? (network : Network) (currency : String) (decimals : UInt8) :
    List TransferRecord → Option Totals
  | [] => some zero
  | record :: rest =>
    (record.share? network currency decimals).bind fun share =>
      (unbounded? network currency decimals rest).map share.plus

theorem toOption_foldlM_addRecord (totals : Totals) (records : List TransferRecord) :
    (records.foldlM (addRecord network currency decimals) totals.limit).toOption =
      (unbounded? network currency decimals records).map fun sum => (totals.plus sum).limit := by
  induction records generalizing totals with
  | nil => rfl
  | cons record rest ih =>
    rw [List.foldlM_cons, toOption_bind, toOption_addRecord, unbounded?]
    cases record.share? network currency decimals with
    | none => rfl
    | some share =>
      rw [Option.map_some, Option.bind_some, Option.bind_some, ih, Option.map_map]
      exact congrArg (Option.map · _) (funext fun sum => by rw [Function.comp_apply, plus_assoc])

/-- The totals of a list are its exact totals, cut off once at the end. -/
theorem ofRecords_toOption (records : List TransferRecord) :
    (ofRecords network currency decimals records).toOption =
      (unbounded? network currency decimals records).map limit := by
  have start : zero = zero.limit := by decide
  rw [ofRecords, start, toOption_foldlM_addRecord]
  exact congrArg (Option.map · _) (funext fun sum => by rw [plus_comm, plus_zero])

/-- The exact totals do not depend on the order of the records. -/
theorem unbounded?_perm {first second : List TransferRecord} (perm : first.Perm second) :
    unbounded? network currency decimals first = unbounded? network currency decimals second := by
  induction perm with
  | nil => rfl
  | cons record _ ih => rw [unbounded?, unbounded?, ih]
  | trans _ _ first second => exact first.trans second
  | swap a b rest =>
    simp only [unbounded?]
    cases a.share? network currency decimals with
    | none => cases b.share? network currency decimals <;> rfl
    | some shareA =>
      cases b.share? network currency decimals with
      | none => rfl
      | some shareB =>
        simp only [Option.bind_some, Option.map_map]
        refine congrArg (Option.map · _) (funext fun sum => ?_)
        rw [Function.comp_apply, Function.comp_apply, ← plus_assoc, plus_comm shareB, plus_assoc]

end Totals

/-! ## Balances -/

namespace Manager

theorem transfers_eq (manager : Manager MemoryStore) :
    manager.transfers = .ok manager.store.records := by
  change Except.ok (manager.store.entries.map (·.2)) = _
  rw [MemoryStore.entries, List.map_map]
  exact congrArg Except.ok (List.zipIdx_map_fst 0 manager.store.records)

/-- A balance is what is left of the exact totals, each cut off at the largest number of base
units. -/
theorem toOption_tokenBalance (manager : Manager MemoryStore) (currency : String)
    (decimals : UInt8) :
    (manager.tokenBalance currency decimals).toOption =
      (Totals.unbounded? manager.network currency decimals manager.store.records).map
        fun sum => sum.limit.balance := by
  rw [tokenBalance, transfers_eq]
  change ((Totals.ofRecords manager.network currency decimals manager.store.records) >>= _).toOption
    = _
  rw [toOption_bind, Totals.ofRecords_toOption]
  cases Totals.unbounded? manager.network currency decimals manager.store.records <;> rfl

/-- Managers of one network that hold the same records, in whatever order, have the same balance of
every currency, or both have none. -/
theorem toOption_tokenBalance_perm {first second : Manager MemoryStore}
    (network : first.network = second.network)
    (perm : first.store.records.Perm second.store.records) (currency : String) (decimals : UInt8) :
    (first.tokenBalance currency decimals).toOption =
      (second.tokenBalance currency decimals).toOption := by
  rw [toOption_tokenBalance, toOption_tokenBalance, network, Totals.unbounded?_perm perm]

end Manager

end WalletLedger
