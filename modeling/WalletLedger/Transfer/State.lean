import WalletLedger.Bundle.Basic

/-!
# States of transfers

The state of a transfer is derived from the latest bundle alone. A transfer that
failed is in a block all the same if the source gives the height and the time of
the block, and then its fee is spent; one that is reported to be in a block
without a height cannot be placed and counts as submitted.
-/

namespace WalletLedger

/-- The place of a transfer in a block, and how it fared there. -/
structure Inclusion where
  blockHeight : UInt64
  transactionIndex : UInt64
  timestamp : UInt64
  fee : Option DecimalAmount
  success : Bool
  error : Option String
deriving DecidableEq

/-- The state of a transfer. -/
inductive TransferState where
  | created
  | signed
  | submitted
  | included (inclusion : Inclusion)
  | errored (reason : String)
  | deleted
deriving DecidableEq

namespace TransferState

/-! ## Derivation -/

/-- The reason of a failure that comes without one. -/
def unknownError : String := "unknown"

/-- Whether a bundle is of a transfer that is in a block. -/
def isMined (bundle : TransferBundle) : Bool :=
  match bundle.status with
  | .included => bundle.blockHeight.isSome
  | .errored => bundle.blockHeight.isSome && bundle.blockTimestamp.isSome
  | _ => false

/-- The place in a block that a bundle describes. -/
def inclusionOf (bundle : TransferBundle) : Inclusion where
  blockHeight := bundle.blockHeight.getD 0
  transactionIndex := bundle.blockTransactionIndex.getD 0
  timestamp := bundle.blockTimestamp.getD 0
  fee := bundle.fee
  success := bundle.status = .included
  error := if bundle.status = .included then none else some unknownError

/-- The state that a bundle describes. -/
def ofBundle (bundle : TransferBundle) : TransferState :=
  if isMined bundle then .included (inclusionOf bundle)
  else
    match bundle.status with
    | .created => .created
    | .signed => .signed
    | .submitted | .included => .submitted
    | .errored => .errored ((bundle.metadataValue? "error").getD unknownError)
    | .deleted => .deleted

/-- The status that goes with a state. -/
def status : TransferState → TransferStatus
  | created => .created
  | signed => .signed
  | submitted => .submitted
  | included _ => .included
  | errored _ => .errored
  | deleted => .deleted

/-! ## Consequences -/

/-- How many blocks confirm a transfer at a height of the chain, its own block being the first. A
transfer in no block has no such count. -/
def confirmations (state : TransferState) (height : UInt64) : Option Nat :=
  match state with
  | included inclusion => some (height.toNat + 1 - inclusion.blockHeight.toNat)
  | _ => none

/-- Whether a transfer has as many confirmations as it takes. -/
def isFinal (state : TransferState) (height : UInt64) (required : UInt32) : Bool :=
  (state.confirmations height).any fun count => required.toNat ≤ count

/-- Whether the amount of a transfer changes hands. -/
def movesAmount : TransferState → Bool
  | included inclusion => inclusion.success
  | errored _ | deleted => false
  | created | signed | submitted => true

/-- Whether the sender pays the fee of a transfer. -/
def chargesFee : TransferState → Bool
  | errored _ | deleted => false
  | _ => true

/-! ## As JSON -/

/-- The names of the variants, in their order. -/
def variants : List String := ["created", "signed", "submitted", "included", "errored", "deleted"]

/-- The names of the fields of an inclusion, in their order. -/
def inclusionFields : List String :=
  ["block_height", "transaction_index", "timestamp", "fee", "success", "error"]

/-- A state as JSON. -/
def toJson : TransferState → Json.Value
  | included inclusion => .ofVariant "included" [
      ("block_height", .ofNat inclusion.blockHeight.toNat),
      ("transaction_index", .ofNat inclusion.transactionIndex.toNat),
      ("timestamp", .ofNat inclusion.timestamp.toNat),
      ("fee", .ofOption DecimalAmount.toJson inclusion.fee),
      ("success", .boolean inclusion.success),
      ("error", .ofOption .ofText inclusion.error)]
  | errored reason => .ofVariant "errored" [("reason", .ofText reason)]
  | state => .ofVariant (Tag.name state.status) []

/-- The inclusion that the rest of a JSON value stands for. -/
def inclusionOfJson? (rest : Json.Value) : Option Inclusion := do
  let fields ← Json.Fields.of? inclusionFields rest
  return {
    blockHeight := ← fields.required? "block_height" Json.Value.uint64?
    transactionIndex := ← fields.required? "transaction_index" Json.Value.uint64?
    timestamp := ← fields.required? "timestamp" Json.Value.uint64?
    fee := ← fields.nullable? "fee" DecimalAmount.ofJson?
    success := ← fields.required? "success" Json.Value.boolean?
    error := ← fields.nullable? "error" Json.Value.text? }

/-- The state that a JSON value at a place stands for. -/
def ofJson? (place : Json.Place) (v : Json.Value) : Option TransferState := do
  let (variant, rest) ← Json.variantOf? variants place v
  match variant with
  | "created" => if Json.isBare rest then some created else none
  | "signed" => if Json.isBare rest then some signed else none
  | "submitted" => if Json.isBare rest then some submitted else none
  | "included" => included <$> inclusionOfJson? rest
  | "errored" => do
    let fields ← Json.Fields.of? ["reason"] rest
    errored <$> fields.required? "reason" Json.Value.text?
  | "deleted" => if Json.isBare rest then some deleted else none
  | _ => none

end TransferState

end WalletLedger
