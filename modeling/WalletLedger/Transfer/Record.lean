import WalletLedger.Network
import WalletLedger.Transfer.Direction
import WalletLedger.Transfer.State

/-!
# Transfer records

A wallet keeps one record per transfer. The first bundle makes the record and
every later one is merged into it: what identifies the transfer is filled in and
never cleared, while the state follows the latest bundle.
-/

namespace WalletLedger

/-- What a wallet keeps of one transfer. -/
structure TransferRecord where
  uids : Option String
  hash : Option String
  identifier : Option String
  source : String
  target : String
  amount : DecimalAmount
  fee : Option DecimalAmount
  currency : String
  direction : TransferDirection
  state : TransferState
  attributes : TextMap
deriving DecidableEq

namespace TransferRecord

/-! ## From bundles -/

/-- The metadata entries of a bundle that belong to a transfer on a network, under the keys in the
spelling of the network. -/
def recoverAttributes (bundle : TransferBundle) (network : Network) : TextMap :=
  .ofList (network.attributeKeys.filterMap fun key =>
    (bundle.metadataValue? key).map fun value => (key, value))

/-- The record of a transfer that was not known before. -/
def ofBundle (bundle : TransferBundle) (network : Network) (direction : TransferDirection) :
    TransferRecord where
  uids := bundle.uids
  hash := bundle.hash
  identifier := bundle.identifier
  source := bundle.source
  target := bundle.target
  amount := bundle.amount
  fee := bundle.fee
  currency := bundle.currency
  direction := direction
  state := .ofBundle bundle
  attributes := recoverAttributes bundle network

/-- The record after a later bundle of the same transfer. The hash and the identifier that came
first stay; of correlation ids, fees and attributes the latest counts. -/
def merge (record : TransferRecord) (bundle : TransferBundle) (network : Network) :
    TransferRecord :=
  { record with
    uids := bundle.uids.or record.uids
    hash := record.hash.or bundle.hash
    identifier := record.identifier.or bundle.identifier
    fee := bundle.fee.or record.fee
    state := .ofBundle bundle
    attributes := record.attributes.insertAll (recoverAttributes bundle network).entries }

/-- Whether two texts are both there and equal. -/
def agree (a b : Option String) : Bool :=
  a.isSome && a == b

/-- Whether a record is of the transfer that pays a target under a hash or a correlation id. -/
def isIdentifiedBy (record : TransferRecord) (hash uids : Option String) (target : String) : Bool :=
  record.target == target && (agree record.hash hash || agree record.uids uids)

theorem agree_iff {a b : Option String} : agree a b = true ↔ ∃ s, a = some s ∧ b = some s := by
  cases a with
  | none => exact ⟨nofun, nofun⟩
  | some s =>
    rw [agree, Option.isSome_some, Bool.true_and, beq_iff_eq]
    constructor
    · intro same
      exact ⟨s, rfl, same.symm⟩
    · intro agreed
      obtain ⟨t, first, second⟩ := agreed
      rw [first, second]

/-- What identifies a record: the target, and the hash or the correlation id. -/
theorem isIdentifiedBy_iff {record : TransferRecord} {hash uids : Option String} {target : String} :
    record.isIdentifiedBy hash uids target = true ↔
      record.target = target ∧
        ((∃ s, record.hash = some s ∧ hash = some s) ∨
          ∃ s, record.uids = some s ∧ uids = some s) := by
  rw [isIdentifiedBy, Bool.and_eq_true, Bool.or_eq_true, beq_iff_eq, agree_iff, agree_iff]

/-! ## As JSON -/

/-- The names of the fields, in their order. -/
def fieldNames : List String :=
  ["uids", "hash", "identifier", "source", "target", "amount", "fee", "currency", "direction",
   "state", "attributes"]

/-- The fields of a record with their names. -/
def members (record : TransferRecord) : List (String × Json.Value) :=
  [("uids", .ofOption .ofText record.uids),
   ("hash", .ofOption .ofText record.hash),
   ("identifier", .ofOption .ofText record.identifier),
   ("source", .ofText record.source),
   ("target", .ofText record.target),
   ("amount", record.amount.toJson),
   ("fee", .ofOption DecimalAmount.toJson record.fee),
   ("currency", .ofText record.currency),
   ("direction", record.direction.toJson),
   ("state", record.state.toJson),
   ("attributes", .ofTextMap record.attributes)]

/-- A record as JSON. -/
def toJson (record : TransferRecord) : Json.Value :=
  .ofMembers record.members

/-- The record that a JSON value stands for. -/
def ofJson? (v : Json.Value) : Option TransferRecord := do
  let fields ← Json.Fields.of? fieldNames v
  return {
    uids := ← fields.nullable? "uids" Json.Value.text?
    hash := ← fields.nullable? "hash" Json.Value.text?
    identifier := ← fields.nullable? "identifier" Json.Value.text?
    source := ← fields.required? "source" Json.Value.text?
    target := ← fields.required? "target" Json.Value.text?
    amount := ← fields.required? "amount" DecimalAmount.ofJson?
    fee := ← fields.nullable? "fee" DecimalAmount.ofJson?
    currency := ← fields.required? "currency" Json.Value.text?
    direction := ← fields.required? "direction" TransferDirection.ofJson?
    state := ← fields.required? "state" (TransferState.ofJson? (.direct 1))
    attributes := ← fields.required? "attributes" Json.Value.textMap? }

end TransferRecord

end WalletLedger
