import WalletLedger.DecimalAmount
import WalletLedger.TransferStatus

/-!
# Transfer bundles

A bundle is one transfer as a source saw it at one moment. It has a hash, or the
correlation id that the source assigned to it, or both. Its fields are kept as
delivered: a status that does not go with the block position is not corrected.
-/

namespace WalletLedger

/-- One transfer at one moment of a synchronization. -/
structure TransferBundle where
  status : TransferStatus
  /-- The identifier of the transaction on the chain. -/
  hash : Option String
  identifier : Option String
  /-- The correlation id that the source assigned. -/
  uids : Option String
  /-- The address that pays. -/
  source : String
  /-- The address that is paid. -/
  target : String
  amount : DecimalAmount
  currency : String
  fee : Option DecimalAmount
  /-- The position within a block or a submission. -/
  transferIndex : UInt64
  blockTimestamp : Option UInt64
  blockHeight : Option UInt64
  blockConfirmations : Option UInt64
  blockTransactionIndex : Option UInt64
  blockHash : Option String
  metadata : TextMap
deriving DecidableEq

namespace TransferBundle

/-- The value of the metadata entry with this key in any case, the smallest such key if there are
several. -/
def metadataValue? (bundle : TransferBundle) (key : String) : Option String :=
  bundle.metadata.findValue? fun k => Text.sameLetters k key

/-- Whether a source says that a transfer is in a block, but not in which. -/
def isUnplaced (bundle : TransferBundle) : Bool :=
  bundle.status = .included && bundle.blockHeight.isNone

/-- The JSON value of an optional number. -/
def numberJson (number : Option UInt64) : Json.Value :=
  .ofOption (fun n => .ofNat n.toNat) number

/-- A bundle as JSON. -/
def toJson (bundle : TransferBundle) : Json.Value :=
  .ofMembers [
    ("status", Tag.toJson bundle.status),
    ("hash", .ofOption .ofText bundle.hash),
    ("identifier", .ofOption .ofText bundle.identifier),
    ("uids", .ofOption .ofText bundle.uids),
    ("from", .ofText bundle.source),
    ("to", .ofText bundle.target),
    ("amount", bundle.amount.toJson),
    ("currency", .ofText bundle.currency),
    ("fee", .ofOption DecimalAmount.toJson bundle.fee),
    ("transfer_index", .ofNat bundle.transferIndex.toNat),
    ("block_timestamp", numberJson bundle.blockTimestamp),
    ("block_height", numberJson bundle.blockHeight),
    ("block_confirmations", numberJson bundle.blockConfirmations),
    ("block_transaction_index", numberJson bundle.blockTransactionIndex),
    ("block_hash", .ofOption .ofText bundle.blockHash),
    ("metadata", .ofTextMap bundle.metadata)]

end TransferBundle

end WalletLedger
