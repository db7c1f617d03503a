import WalletLedger.Manager.Basic

/-!
# Balances

The balance of a currency is what the wallet was paid less what it paid, in base
units. Amounts are counted while they change hands. Fees are paid in the native
currency of the network, so only the native balance counts them. Both totals
stop at the largest number of 128 bits, and the balance stops at nothing.
-/

namespace WalletLedger

/-- What a wallet was paid and what it paid, in base units. -/
structure Totals where
  credits : Nat
  debits : Nat
deriving DecidableEq, Repr

namespace Totals

/-- The sum of two numbers of base units, or the largest such number. -/
def capped (a b : Nat) : Nat :=
  min (a + b) (DecimalAmount.unitBound - 1)

/-- Nothing paid. -/
def zero : Totals := ⟨0, 0⟩

/-- The totals after base units that the wallet was paid. -/
def credit (totals : Totals) (units : Nat) : Totals :=
  { totals with credits := capped totals.credits units }

/-- The totals after base units that the wallet paid. -/
def debit (totals : Totals) (units : Nat) : Totals :=
  { totals with debits := capped totals.debits units }

/-- What is left, or nothing if more was paid than came in. -/
def balance (totals : Totals) : Nat :=
  totals.credits - totals.debits

/-- The totals after an amount that went in a direction. -/
def move (totals : Totals) (units : Nat) : TransferDirection → Totals
  | .received => totals.credit units
  | .sent => totals.debit units
  | .recovered => totals

end Totals

/-- An amount of a currency in base units. -/
def baseUnits (amount : DecimalAmount) (currency : String) (decimals : UInt8) :
    Except ManagerError Nat :=
  (amount.toBaseUnits? decimals).elim (.error (.inexpressibleAmount amount currency)) .ok

namespace TransferRecord

/-- Whether the amount of a record counts for a currency. -/
def countsAmount (record : TransferRecord) (currency : String) : Bool :=
  Text.sameLetters record.currency currency && record.state.movesAmount

/-- The fee of a record that counts for a currency on a network. -/
def countedFee? (record : TransferRecord) (network : Network) (currency : String) :
    Option DecimalAmount :=
  if Text.sameLetters currency network.currencyCode && record.direction ≠ .received
      && record.state.chargesFee then
    record.fee
  else none

end TransferRecord

namespace Totals

/-- The totals after the amount of a record. -/
def addAmount (totals : Totals) (record : TransferRecord) (currency : String) (decimals : UInt8) :
    Except ManagerError Totals :=
  if record.countsAmount currency then
    (baseUnits record.amount currency decimals).map (totals.move · record.direction)
  else .ok totals

/-- The totals after the fee of a record. -/
def addFee (totals : Totals) (record : TransferRecord) (network : Network) (currency : String) :
    Except ManagerError Totals :=
  match record.countedFee? network currency with
  | some fee => (baseUnits fee currency network.decimals).map totals.debit
  | none => .ok totals

/-- The totals after a record, its amount first. -/
def addRecord (network : Network) (currency : String) (decimals : UInt8) (totals : Totals)
    (record : TransferRecord) : Except ManagerError Totals := do
  let totals ← totals.addAmount record currency decimals
  totals.addFee record network currency

/-- The totals of a list of records. -/
def ofRecords (network : Network) (currency : String) (decimals : UInt8)
    (records : List TransferRecord) : Except ManagerError Totals :=
  records.foldlM (addRecord network currency decimals) zero

end Totals

namespace Manager

variable {σ : Type} [TransferStore σ]

/-- The balance of a currency that has a number of decimal places, in base units. -/
def tokenBalance (manager : Manager σ) (currency : String) (decimals : UInt8) :
    Except ManagerError Nat := do
  let records ← manager.transfers
  let totals ← Totals.ofRecords manager.network currency decimals records
  return totals.balance

/-- The balance of the native currency of the network, in base units. -/
def balance (manager : Manager σ) : Except ManagerError Nat :=
  manager.tokenBalance manager.network.currencyCode manager.network.decimals

end Manager

end WalletLedger
