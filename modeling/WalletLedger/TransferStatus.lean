import WalletLedger.Tag

/-!
# Transfer statuses

How far a transfer has come, as a source reports it.
-/

namespace WalletLedger

/-- The status of a transfer. -/
inductive TransferStatus where
  | created | signed | submitted | included | errored | deleted
deriving DecidableEq, Repr, Inhabited

namespace TransferStatus

/-- The name of a status. -/
def statusName : TransferStatus → String
  | created => "created"
  | signed => "signed"
  | submitted => "submitted"
  | included => "included"
  | errored => "errored"
  | deleted => "deleted"

/-- The number of a status. -/
def number : TransferStatus → UInt32
  | created => 0
  | signed => 1
  | submitted => 2
  | included => 3
  | errored => 4
  | deleted => 5

instance : Tag TransferStatus where
  kind := "transfer state"
  all := [created, signed, submitted, included, errored, deleted]
  code := number
  name := statusName
  aliases := [("failed", errored)]

end TransferStatus

end WalletLedger
