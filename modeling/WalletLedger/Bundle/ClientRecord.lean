import WalletLedger.Bundle.Draft

/-!
# Client records

A client of a block explorer delivers transfers as flat records, in which an
empty text and the number zero stand for what is missing. A record becomes a
bundle or is refused. A record of height zero is of a transfer in no block.
-/

namespace WalletLedger

/-- A transfer as a client delivers it. -/
structure ClientRecord where
  status : TransferStatus
  hash : String
  identifier : String
  uids : String
  source : String
  target : String
  amount : String
  currency : String
  fee : String
  transferIndex : Int64
  blockTimestamp : Int64
  blockHeight : Int64
  blockConfirmations : Int64
  blockTransactionIndex : Int64
  blockHash : String
  metadata : TextMap
deriving DecidableEq

namespace ClientRecord

/-! ## Conversion -/

/-- The number that a record has in a field. -/
def number (record : ClientRecord) : NumberField → Int64
  | .transferIndex => record.transferIndex
  | .blockTimestamp => record.blockTimestamp
  | .blockHeight => record.blockHeight
  | .blockConfirmations => record.blockConfirmations
  | .blockTransactionIndex => record.blockTransactionIndex

/-- The number fields in the order in which a record is checked. -/
def numberFields : List NumberField :=
  [.transferIndex, .blockHeight, .blockTimestamp, .blockConfirmations, .blockTransactionIndex]

/-- The number fields that are of a transfer in a block only. -/
def blockFields : List NumberField :=
  [.blockHeight, .blockTimestamp, .blockConfirmations, .blockTransactionIndex]

/-- The setting of a number field to the number that a record has there. -/
def numberSetting (record : ClientRecord) (field : NumberField) : Setting :=
  .number field (record.number field).toInt

/-- The settings that draft the bundle of a record. -/
def settings (record : ClientRecord) : List Setting :=
  [.text .hash record.hash,
   .text .identifier record.identifier,
   .text .uids record.uids,
   .text .source record.source,
   .text .target record.target,
   .text .amount record.amount,
   .text .currency record.currency,
   .text .fee record.fee,
   record.numberSetting .transferIndex,
   .text .blockHash record.blockHash,
   .entries record.metadata.entries] ++
  if record.blockHeight = 0 then [] else blockFields.map record.numberSetting

/-- The bundle of a record. No number of a record may be negative, not even one that is not used. -/
def toBundle (record : ClientRecord) : Except InputError TransferBundle :=
  match numberFields.find? fun field => record.number field < 0 with
  | some field => .error (.outOfRange field.name)
  | none => ((Draft.ofStatus record.status).applyAll record.settings).build

/-! ## As JSON -/

/-- The names of the fields, in their order. -/
def fieldNames : List String :=
  ["status", "hash", "identifier", "uids", "from", "to", "amount", "currency", "fee",
   "transfer_index", "block_timestamp", "block_height", "block_confirmations",
   "block_transaction_index", "block_hash", "meta"]

/-- A record as JSON. -/
def toJson (record : ClientRecord) : Json.Value :=
  .ofMembers [
    ("status", Tag.toJson record.status),
    ("hash", .ofText record.hash),
    ("identifier", .ofText record.identifier),
    ("uids", .ofText record.uids),
    ("from", .ofText record.source),
    ("to", .ofText record.target),
    ("amount", .ofText record.amount),
    ("currency", .ofText record.currency),
    ("fee", .ofText record.fee),
    ("transfer_index", .ofInt record.transferIndex.toInt),
    ("block_timestamp", .ofInt record.blockTimestamp.toInt),
    ("block_height", .ofInt record.blockHeight.toInt),
    ("block_confirmations", .ofInt record.blockConfirmations.toInt),
    ("block_transaction_index", .ofInt record.blockTransactionIndex.toInt),
    ("block_hash", .ofText record.blockHash),
    ("meta", .ofTextMap record.metadata)]

/-- The record that a JSON value stands for. -/
def ofJson? (v : Json.Value) : Option ClientRecord := do
  let fields ← Json.Fields.of? fieldNames v
  let text (name : String) := fields.defaulted? name "" Json.Value.text?
  let number (name : String) := fields.defaulted? name 0 Json.Value.int64?
  return {
    status := ← fields.required? "status" Tag.ofJson?
    hash := ← text "hash"
    identifier := ← text "identifier"
    uids := ← text "uids"
    source := ← fields.required? "from" Json.Value.text?
    target := ← fields.required? "to" Json.Value.text?
    amount := ← fields.required? "amount" Json.Value.text?
    currency := ← fields.required? "currency" Json.Value.text?
    fee := ← text "fee"
    transferIndex := ← number "transfer_index"
    blockTimestamp := ← number "block_timestamp"
    blockHeight := ← number "block_height"
    blockConfirmations := ← number "block_confirmations"
    blockTransactionIndex := ← number "block_transaction_index"
    blockHash := ← text "block_hash"
    metadata := ← fields.defaulted? "meta" TextMap.empty Json.Value.textMap? }

end ClientRecord

end WalletLedger
