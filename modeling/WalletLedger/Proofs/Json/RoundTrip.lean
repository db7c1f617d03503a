import WalletLedger.Bundle.ClientRecord
import WalletLedger.Config.Basic
import WalletLedger.Connection
import WalletLedger.Proofs.Json.Compact
import WalletLedger.Proofs.Json.Decode
import WalletLedger.Proofs.Tag
import WalletLedger.Transfer.Record

/-!
# What is kept as JSON comes back

Records, states, client records, configurations and amounts are kept as compact
JSON texts. Reading such a text takes two steps: the value that was written is
parsed (`Json.parse?_compact`), and the type is decoded from it. Each type has a
lemma `ofJson?_toJson` for the second step. The states with variants of their
own depend on where they stand, since a value is kept before its variant is
known; the lemmas about them ask only that it can be.

Main statement: `Json.kept_types_readBack`.
-/

namespace WalletLedger

open Json (bind_of_eq_some variantOf?_ofVariant)
open Json.Fields (of?_ofMembers of?_singleton required?_singleton required?_of_lookup
  nullable?_of_lookup defaulted?_of_lookup defaulted?_of_lookup_eq_none)
open Json.Value (fits_ofNat fits_ofInt fits_ofText fits_boolean fits_ofOption fits_ofVariant)

/-! ## Directions -/

theorem TransferDirection.ofJson?_toJson (direction : TransferDirection) :
    ofJson? direction.toJson = some direction := by
  cases direction <;> rfl

/-! ## Amounts -/

namespace DecimalAmount

theorem ofText_text (amount : DecimalAmount) : ofText amount.text = .ok amount :=
  parse_eq_ok_iff.2 rfl

theorem ofJson?_toJson (amount : DecimalAmount) : ofJson? amount.toJson = some amount := by
  rw [toJson, ofJson?, Json.Value.text?_ofText, Option.bind_some, adopt_eq_ofText, ofText_text]
  rfl

theorem nullable?_ofOption (amount : Option DecimalAmount) :
    (Json.Value.ofOption toJson amount).nullable? ofJson? = some amount :=
  Json.Value.nullable?_ofOption ofJson?_toJson nofun amount

end DecimalAmount

/-! ## States with variants -/

namespace DisconnectReason

theorem fits_toJson (reason : DisconnectReason) : reason.toJson.Fits 1 := by
  cases reason with
  | requested | unknown => exact fits_ofVariant (List.forall_mem_nil _)
  | posix errno => exact fits_ofVariant (List.forall_mem_singleton.2 (fits_ofInt errno 0))

theorem ofJson?_toJson (reason : DisconnectReason) {place : Json.Place}
    (keeps : place.keeps reason.toJson = true) : ofJson? place reason.toJson = some reason := by
  cases reason with
  | requested | unknown =>
    rw [toJson, ofJson?, variantOf?_ofVariant keeps (by decide) (by decide)]
    rfl
  | posix errno =>
    rw [toJson, ofJson?, bind_of_eq_some (variantOf?_ofVariant keeps (by decide) (by simp))]
    simp only [bind_of_eq_some (of?_singleton "errno" _),
      required?_singleton "errno" (Json.Value.int32?_ofInt errno)]
    rfl

end DisconnectReason

namespace Connection

theorem fits_toJson (state : Connection) : state.toJson.Fits 2 := by
  cases state with
  | created | connected | syncing | deleted => exact fits_ofVariant (List.forall_mem_nil _)
  | disconnected reason =>
    exact fits_ofVariant (List.forall_mem_singleton.2 reason.fits_toJson)

theorem ofJson?_toJson (state : Connection) {place : Json.Place}
    (keeps : place.keeps state.toJson = true) : ofJson? place state.toJson = some state := by
  cases state with
  | created | connected | syncing | deleted =>
    rw [toJson, ofJson?, variantOf?_ofVariant keeps (by decide) (by decide)]
    · rfl
    · nofun
  | disconnected reason =>
    -- The reason is inside a value that is kept already, so it needs no check of its own.
    have inner : DisconnectReason.ofJson? .kept reason.toJson = some reason :=
      reason.ofJson?_toJson rfl
    rw [toJson, ofJson?, bind_of_eq_some (variantOf?_ofVariant keeps (by decide) (by simp))]
    simp only [bind_of_eq_some (of?_singleton "reason" _), required?_singleton "reason" inner]
    rfl

end Connection

namespace TransferState

theorem fits_toJson (state : TransferState) : state.toJson.Fits 1 := by
  cases state with
  | created | signed | submitted | deleted => exact fits_ofVariant (List.forall_mem_nil _)
  | included inclusion =>
    refine fits_ofVariant fun field mem => ?_
    simp only [List.mem_cons, List.not_mem_nil, or_false] at mem
    rcases mem with rfl | rfl | rfl | rfl | rfl | rfl
    · exact fits_ofNat inclusion.blockHeight 0
    · exact fits_ofNat inclusion.transactionIndex 0
    · exact fits_ofNat inclusion.timestamp 0
    · exact fits_ofOption (fun fee => fits_ofText fee.text 0) inclusion.fee
    · exact fits_boolean inclusion.success 0
    · exact fits_ofOption (fun text => fits_ofText text 0) inclusion.error
  | errored reason => exact fits_ofVariant (List.forall_mem_singleton.2 (fits_ofText reason 0))

/-- What the JSON of an inclusion has beside its variant. -/
def inclusionMembers (inclusion : Inclusion) : List (String × Json.Value) :=
  (included inclusion).toJson.members.tail

theorem inclusionOfJson?_ofMembers (inclusion : Inclusion) :
    inclusionOfJson? (.ofMembers (inclusionMembers inclusion)) = some inclusion := by
  let given := Json.Fields.named (inclusionMembers inclusion)
  have fields : Json.Fields.of? inclusionFields (.ofMembers (inclusionMembers inclusion)) =
      some given :=
    of?_ofMembers _ (by decide : inclusionFields.Nodup)
  have height : given.required? "block_height" Json.Value.uint64? = some inclusion.blockHeight :=
    required?_of_lookup rfl (Json.Value.uint64?_ofNat _)
  have index : given.required? "transaction_index" Json.Value.uint64? =
      some inclusion.transactionIndex :=
    required?_of_lookup rfl (Json.Value.uint64?_ofNat _)
  have timestamp : given.required? "timestamp" Json.Value.uint64? = some inclusion.timestamp :=
    required?_of_lookup rfl (Json.Value.uint64?_ofNat _)
  have fee : given.nullable? "fee" DecimalAmount.ofJson? = some inclusion.fee :=
    nullable?_of_lookup rfl (DecimalAmount.nullable?_ofOption _)
  have success : given.required? "success" Json.Value.boolean? = some inclusion.success := rfl
  have error : given.nullable? "error" Json.Value.text? = some inclusion.error :=
    nullable?_of_lookup rfl (Json.Value.nullable?_ofText _)
  rw [inclusionOfJson?, bind_of_eq_some fields, bind_of_eq_some height, bind_of_eq_some index,
    bind_of_eq_some timestamp, bind_of_eq_some fee, bind_of_eq_some success, bind_of_eq_some error]
  rfl

theorem ofJson?_toJson (state : TransferState) {place : Json.Place}
    (keeps : place.keeps state.toJson = true) : ofJson? place state.toJson = some state := by
  cases state with
  | created | signed | submitted | deleted =>
    rw [toJson, ofJson?, variantOf?_ofVariant keeps (by decide) (by decide)]
    · rfl
    all_goals nofun
  | included inclusion =>
    have variant : Json.variantOf? variants place (included inclusion).toJson =
        some ("included", .ofMembers (inclusionMembers inclusion)) :=
      variantOf?_ofVariant keeps (by decide) (by simp)
    rw [ofJson?, bind_of_eq_some variant]
    simp only [inclusionOfJson?_ofMembers inclusion]
    rfl
  | errored reason =>
    rw [toJson, ofJson?, bind_of_eq_some (variantOf?_ofVariant keeps (by decide) (by simp))]
    simp only [bind_of_eq_some (of?_singleton "reason" _),
      required?_singleton "reason" (Json.Value.text?_ofText reason)]
    rfl

end TransferState

/-! ## Records -/

namespace TransferRecord

theorem ofJson?_toJson (record : TransferRecord) : ofJson? record.toJson = some record := by
  let given := Json.Fields.named record.members
  have fields : Json.Fields.of? fieldNames record.toJson = some given :=
    of?_ofMembers _ (by decide : fieldNames.Nodup)
  have uids : given.nullable? "uids" Json.Value.text? = some record.uids :=
    nullable?_of_lookup rfl (Json.Value.nullable?_ofText _)
  have hash : given.nullable? "hash" Json.Value.text? = some record.hash :=
    nullable?_of_lookup rfl (Json.Value.nullable?_ofText _)
  have identifier : given.nullable? "identifier" Json.Value.text? = some record.identifier :=
    nullable?_of_lookup rfl (Json.Value.nullable?_ofText _)
  have source : given.required? "source" Json.Value.text? = some record.source := rfl
  have target : given.required? "target" Json.Value.text? = some record.target := rfl
  have amount : given.required? "amount" DecimalAmount.ofJson? = some record.amount :=
    required?_of_lookup rfl (DecimalAmount.ofJson?_toJson _)
  have fee : given.nullable? "fee" DecimalAmount.ofJson? = some record.fee :=
    nullable?_of_lookup rfl (DecimalAmount.nullable?_ofOption _)
  have currency : given.required? "currency" Json.Value.text? = some record.currency := rfl
  have direction : given.required? "direction" TransferDirection.ofJson? =
      some record.direction :=
    required?_of_lookup rfl (TransferDirection.ofJson?_toJson _)
  have state : given.required? "state" (TransferState.ofJson? (.direct 1)) = some record.state :=
    required?_of_lookup rfl
      (record.state.ofJson?_toJson (Json.Value.keeps_of_fits record.state.fits_toJson (by decide)))
  have attributes : given.required? "attributes" Json.Value.textMap? = some record.attributes :=
    required?_of_lookup rfl (Json.Value.textMap?_ofTextMap _)
  rw [ofJson?, bind_of_eq_some fields, bind_of_eq_some uids, bind_of_eq_some hash,
    bind_of_eq_some identifier, bind_of_eq_some source, bind_of_eq_some target,
    bind_of_eq_some amount, bind_of_eq_some fee, bind_of_eq_some currency,
    bind_of_eq_some direction, bind_of_eq_some state, bind_of_eq_some attributes]
  rfl

end TransferRecord

namespace ClientRecord

theorem ofJson?_toJson (record : ClientRecord) : ofJson? record.toJson = some record := by
  let given := Json.Fields.named record.toJson.members
  have fields : Json.Fields.of? fieldNames record.toJson = some given :=
    of?_ofMembers _ (by decide : fieldNames.Nodup)
  have status : given.required? "status" Tag.ofJson? = some record.status :=
    required?_of_lookup rfl (TransferStatus.lawful.ofJson?_toJson _)
  have hash : given.defaulted? "hash" "" Json.Value.text? = some record.hash := rfl
  have identifier : given.defaulted? "identifier" "" Json.Value.text? =
      some record.identifier := rfl
  have uids : given.defaulted? "uids" "" Json.Value.text? = some record.uids := rfl
  have source : given.required? "from" Json.Value.text? = some record.source := rfl
  have target : given.required? "to" Json.Value.text? = some record.target := rfl
  have amount : given.required? "amount" Json.Value.text? = some record.amount := rfl
  have currency : given.required? "currency" Json.Value.text? = some record.currency := rfl
  have fee : given.defaulted? "fee" "" Json.Value.text? = some record.fee := rfl
  have index : given.defaulted? "transfer_index" 0 Json.Value.int64? =
      some record.transferIndex :=
    defaulted?_of_lookup rfl (Json.Value.int64?_ofInt _)
  have timestamp : given.defaulted? "block_timestamp" 0 Json.Value.int64? =
      some record.blockTimestamp :=
    defaulted?_of_lookup rfl (Json.Value.int64?_ofInt _)
  have height : given.defaulted? "block_height" 0 Json.Value.int64? = some record.blockHeight :=
    defaulted?_of_lookup rfl (Json.Value.int64?_ofInt _)
  have confirmations : given.defaulted? "block_confirmations" 0 Json.Value.int64? =
      some record.blockConfirmations :=
    defaulted?_of_lookup rfl (Json.Value.int64?_ofInt _)
  have position : given.defaulted? "block_transaction_index" 0 Json.Value.int64? =
      some record.blockTransactionIndex :=
    defaulted?_of_lookup rfl (Json.Value.int64?_ofInt _)
  have blockHash : given.defaulted? "block_hash" "" Json.Value.text? = some record.blockHash := rfl
  have metadata : given.defaulted? "meta" TextMap.empty Json.Value.textMap? =
      some record.metadata :=
    defaulted?_of_lookup rfl (Json.Value.textMap?_ofTextMap _)
  rw [ofJson?, bind_of_eq_some fields]
  dsimp only
  rw [bind_of_eq_some status, bind_of_eq_some hash, bind_of_eq_some identifier,
    bind_of_eq_some uids, bind_of_eq_some source, bind_of_eq_some target, bind_of_eq_some amount,
    bind_of_eq_some currency, bind_of_eq_some fee, bind_of_eq_some index,
    bind_of_eq_some timestamp, bind_of_eq_some height, bind_of_eq_some confirmations,
    bind_of_eq_some position, bind_of_eq_some blockHash, bind_of_eq_some metadata]
  rfl

end ClientRecord

namespace Config

theorem ofJson?_toJson (config : Config) : ofJson? config.toJson = some config := by
  obtain ⟨network, addresses, confirmations, logFormat, logLevel⟩ := config
  let config : Config := ⟨network, addresses, confirmations, logFormat, logLevel⟩
  let given := Json.Fields.named config.toJson.members
  -- The number of confirmations is a member if there is one.
  have fields : Json.Fields.of? fieldNames config.toJson = some given := by
    cases confirmations with
    | none =>
      exact of?_ofMembers _
        (by decide : (fieldNames.erase "confirmations_until_final").Nodup)
    | some n => exact of?_ofMembers _ (by decide : fieldNames.Nodup)
  have confirmed : given.defaulted? "confirmations_until_final" none
      (Json.Value.nullable? Json.Value.uint32?) = some confirmations := by
    cases confirmations with
    | none => exact defaulted?_of_lookup_eq_none rfl
    | some n =>
      exact defaulted?_of_lookup rfl
        (Json.Value.nullable?_ofOption Json.Value.uint32?_ofNat nofun (some n))
  have net : given.defaulted? "network" Network.btc Tag.ofJson? = some network :=
    defaulted?_of_lookup rfl (Network.lawful.ofJson?_toJson network)
  have owned : given.defaulted? "addresses" [] (Json.Value.list? Json.Value.text?) =
      some addresses :=
    defaulted?_of_lookup rfl (Json.Value.list?_map Json.Value.text?_ofText addresses)
  have format : given.defaulted? "log_format" "human" Json.Value.text? = some logFormat := by
    cases confirmations <;> rfl
  have level : given.defaulted? "log_level" "info" Json.Value.text? = some logLevel := by
    cases confirmations <;> rfl
  rw [ofJson?, bind_of_eq_some fields, bind_of_eq_some net, bind_of_eq_some owned,
    bind_of_eq_some confirmed, bind_of_eq_some format, bind_of_eq_some level]
  rfl

end Config

/-! ## Texts -/

namespace Json

/-- Every value of a type is read back from the compact text that is written for it. -/
def ReadsBack {α : Type} (encode : α → Value) (decode : Value → Option α) : Prop :=
  ∀ a, (parse? (encode a).compact).bind decode = some a

theorem readsBack_of_decodes {α : Type} {encode : α → Value} {decode : Value → Option α}
    (decodes : ∀ a, decode (encode a) = some a) : ReadsBack encode decode := by
  intro a
  rw [parse?_compact, Option.bind_some, decodes]

/-- A value that fits below the depth limit can be kept in a text of its own. -/
theorem keeps_alone {v : Value} {levels : Nat} (fits : v.Fits levels)
    (room : levels ≤ depthLimit) : (Place.direct 0).keeps v = true :=
  Value.keeps_of_fits fits (by omega)

/-- Every type that is kept as JSON is read back from the text that is written for it, whatever
texts, numbers and maps are in it and whatever is absent from it. -/
theorem kept_types_readBack :
    ReadsBack TransferRecord.toJson TransferRecord.ofJson? ∧
    ReadsBack TransferState.toJson (TransferState.ofJson? (.direct 0)) ∧
    ReadsBack ClientRecord.toJson ClientRecord.ofJson? ∧
    ReadsBack Config.toJson Config.ofJson? ∧
    ReadsBack DisconnectReason.toJson (DisconnectReason.ofJson? (.direct 0)) ∧
    ReadsBack Connection.toJson (Connection.ofJson? (.direct 0)) ∧
    ReadsBack DecimalAmount.toJson DecimalAmount.ofJson? := by
  refine ⟨?record, ?state, ?client, ?config, ?reason, ?connection, ?amount⟩
  case record => exact readsBack_of_decodes TransferRecord.ofJson?_toJson
  case state =>
    exact readsBack_of_decodes fun state =>
      state.ofJson?_toJson (keeps_alone state.fits_toJson (by decide))
  case client => exact readsBack_of_decodes ClientRecord.ofJson?_toJson
  case config => exact readsBack_of_decodes Config.ofJson?_toJson
  case reason =>
    exact readsBack_of_decodes fun reason =>
      reason.ofJson?_toJson (keeps_alone reason.fits_toJson (by decide))
  case connection =>
    exact readsBack_of_decodes fun state =>
      state.ofJson?_toJson (keeps_alone state.fits_toJson (by decide))
  case amount => exact readsBack_of_decodes DecimalAmount.ofJson?_toJson

end Json

end WalletLedger
