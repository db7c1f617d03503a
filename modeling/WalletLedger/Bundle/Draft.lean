import WalletLedger.Bundle.Basic
import WalletLedger.FixedWidth

/-!
# Drafts of bundles

A bundle is drafted by a sequence of settings, of which the last one for a field
counts, and then built. A setting that cannot be followed does not stop the
sequence: the first such fault stays with the draft, whatever comes later, and is
what building reports. Everything else is checked when the bundle is built.
Main statements: `decodeText_eq_ok_iff`, which bytes are a text; and
`Draft.build_eq_error_of_fault`, a fault decides about the whole draft.
-/

namespace WalletLedger

/-! ## Fields -/

/-- A field of a draft that holds a text. -/
inductive TextField where
  | hash | identifier | uids | source | target | amount | currency | fee | blockHash
deriving DecidableEq, Repr

/-- The name of a text field in messages. -/
def TextField.name : TextField → String
  | hash => "hash"
  | identifier => "identifier"
  | uids => "uids"
  | source => "from"
  | target => "to"
  | amount => "amount"
  | currency => "currency"
  | fee => "fee"
  | blockHash => "block_hash"

/-- The text fields in the order in which they are checked. -/
def TextField.all : List TextField :=
  [hash, identifier, uids, source, target, amount, currency, fee, blockHash]

/-- A field of a draft that holds a number. -/
inductive NumberField where
  | transferIndex | blockTimestamp | blockHeight | blockConfirmations | blockTransactionIndex
deriving DecidableEq, Repr

/-- The name of a number field in messages. -/
def NumberField.name : NumberField → String
  | transferIndex => "transfer_index"
  | blockTimestamp => "block_timestamp"
  | blockHeight => "block_height"
  | blockConfirmations => "block_confirmations"
  | blockTransactionIndex => "block_transaction_index"

/-! ## Texts from bytes -/

/-- Whether a text has the character number zero in it. -/
def hasNul (value : String) : Bool :=
  value.toList.contains '\x00'

/-- The text that the bytes of a field encode. -/
def decodeText (field : String) (bytes : ByteArray) : Except InputError String :=
  match String.fromUTF8? bytes with
  | none => .error (.encoding field)
  | some text => if hasNul text then .error (.embeddedNul field) else .ok text

theorem fromUTF8?_eq_some_iff {bytes : ByteArray} {text : String} :
    String.fromUTF8? bytes = some text ↔ text.toUTF8 = bytes := by
  unfold String.fromUTF8?
  split
  · next valid =>
    rw [Option.some.injEq]
    constructor
    · intro same
      subst same
      rfl
    · intro same
      subst same
      rfl
  · next invalid =>
    constructor
    · intro decoded
      cases decoded
    · intro same
      subst same
      exact absurd text.isValidUTF8 invalid

/-- The bytes that are decoded are those of texts without the character number zero. -/
theorem decodeText_eq_ok_iff {field : String} {bytes : ByteArray} {text : String} :
    decodeText field bytes = .ok text ↔ text.toUTF8 = bytes ∧ hasNul text = false := by
  rw [← fromUTF8?_eq_some_iff]
  unfold decodeText
  split
  · next undecodable => simp [undecodable]
  · next found decodable =>
    rw [decodable, Option.some.injEq]
    split
    · next nul =>
      constructor
      · intro decoded
        cases decoded
      · intro means
        obtain ⟨rfl, clean⟩ := means
        rw [nul] at clean
        cases clean
    · next clean =>
      rw [Except.ok.injEq]
      constructor
      · intro same
        subst same
        exact ⟨rfl, Bool.eq_false_iff.2 clean⟩
      · exact And.left

/-- A metadata entry from the bytes of its key and of its value. -/
def decodeEntry (key value : ByteArray) : Except InputError (String × String) := do
  let key ← decodeText "metadata key" key
  let value ← decodeText "metadata value" value
  return (key, value)

/-! ## Drafts -/

/-- A bundle in the making. -/
structure Draft where
  status : TransferStatus
  texts : TextField → String
  numbers : NumberField → Option UInt64
  metadata : TextMap
  /-- What was wrong with the first setting that could not be followed. -/
  fault : Option InputError

/-- One step of drafting. -/
inductive Setting where
  | text (field : TextField) (value : String)
  /-- Gives a field a number of any size and sign. -/
  | number (field : NumberField) (value : Int)
  | entry (key value : String)
  | entries (list : List (String × String))
  /-- Adds metadata from the encoded keys and, in a list beside them, the encoded values. -/
  | rawEntries (keys values : List ByteArray)

namespace Draft

/-- The draft of a bundle of which only the status is known. -/
def ofStatus (status : TransferStatus) : Draft where
  status := status
  texts _ := ""
  numbers _ := none
  metadata := .empty
  fault := none

/-- The draft with a fault, unless it has one already. -/
def fail (draft : Draft) (fault : InputError) : Draft :=
  { draft with fault := some (draft.fault.getD fault) }

/-- The draft with a text in a field. -/
def setText (draft : Draft) (field : TextField) (value : String) : Draft :=
  { draft with texts := fun f => if f = field then value else draft.texts f }

/-- The draft with a number in a field, or with none if there is none to put there. -/
def putNumber (draft : Draft) (field : NumberField) (value : Option UInt64) : Draft :=
  { draft with numbers := fun f => if f = field then value else draft.numbers f }

/-- The draft with a number in a field. A number that does not fit empties the field. -/
def setNumber (draft : Draft) (field : NumberField) (value : Int) : Draft :=
  match FixedWidth.uint64? value with
  | some number => draft.putNumber field (some number)
  | none => (draft.putNumber field none).fail (.outOfRange field.name)

/-- The draft with further metadata. -/
def addEntries (draft : Draft) (list : List (String × String)) : Draft :=
  { draft with metadata := draft.metadata.insertAll list }

/-- The draft with the metadata of encoded entries, up to the first that cannot be decoded. -/
def addEncoded (draft : Draft) : List (ByteArray × ByteArray) → Draft
  | [] => draft
  | (key, value) :: rest =>
    match decodeEntry key value with
    | .ok entry => (draft.addEntries [entry]).addEncoded rest
    | .error fault => draft.fail fault

/-- The draft after one setting. -/
def apply (draft : Draft) : Setting → Draft
  | .text field value => draft.setText field value
  | .number field value => draft.setNumber field value
  | .entry key value => draft.addEntries [(key, value)]
  | .entries list => draft.addEntries list
  | .rawEntries keys values =>
    if keys.length = values.length then draft.addEncoded (keys.zip values)
    else draft.fail (.metadataCountMismatch keys.length values.length)

/-- The draft after a sequence of settings. -/
def applyAll (draft : Draft) (settings : List Setting) : Draft :=
  settings.foldl apply draft

/-! ## Building -/

/-- What is wrong with a text that must not have the character number zero in it. -/
def nulFlaw? (field value : String) : Option InputError :=
  if hasNul value then some (.embeddedNul field) else none

/-- What is wrong with the first text field that has something wrong with it. -/
def textFlaw? (draft : Draft) : Option InputError :=
  TextField.all.findSome? fun field => nulFlaw? field.name (draft.texts field)

/-- What is wrong with the first metadata entry that has something wrong with it. -/
def metadataFlaw? (draft : Draft) : Option InputError :=
  draft.metadata.entries.findSome? fun entry =>
    (nulFlaw? "metadata key" entry.1).or (nulFlaw? "metadata value" entry.2)

/-- What is wrong with a draft that has neither a hash nor a correlation id. -/
def identityFlaw? (draft : Draft) : Option InputError :=
  if draft.texts .hash = "" ∧ draft.texts .uids = "" then some .missingIdentity else none

/-- The first thing that is wrong with a draft, its amounts aside. -/
def flaw? (draft : Draft) : Option InputError :=
  draft.fault.or (draft.textFlaw?.or (draft.metadataFlaw?.or draft.identityFlaw?))

/-- The text of a field, if it has one that is not empty. -/
def present? (draft : Draft) (field : TextField) : Option String :=
  if draft.texts field = "" then none else some (draft.texts field)

/-- The fee of a draft; an empty text is no fee. -/
def fee? (draft : Draft) : Except InputError (Option DecimalAmount) :=
  if draft.texts .fee = "" then .ok none
  else (DecimalAmount.parse "fee" (draft.texts .fee)).map some

/-- The bundle of a draft with amounts that have been read. -/
def bundleWith (draft : Draft) (amount : DecimalAmount) (fee : Option DecimalAmount) :
    TransferBundle where
  status := draft.status
  hash := draft.present? .hash
  identifier := draft.present? .identifier
  uids := draft.present? .uids
  source := draft.texts .source
  target := draft.texts .target
  amount := amount
  currency := draft.texts .currency
  fee := fee
  transferIndex := (draft.numbers .transferIndex).getD 0
  blockTimestamp := draft.numbers .blockTimestamp
  blockHeight := draft.numbers .blockHeight
  blockConfirmations := draft.numbers .blockConfirmations
  blockTransactionIndex := draft.numbers .blockTransactionIndex
  blockHash := draft.present? .blockHash
  metadata := draft.metadata

/-- The bundle that a draft describes, or the first thing that is wrong with it. -/
def build (draft : Draft) : Except InputError TransferBundle :=
  match draft.flaw? with
  | some flaw => .error flaw
  | none => do
    let amount ← DecimalAmount.parse "amount" (draft.texts .amount)
    let fee ← draft.fee?
    return draft.bundleWith amount fee

/-! ## Laws -/

theorem fault_fail (draft : Draft) (fault : InputError) :
    (draft.fail fault).fault = some (draft.fault.getD fault) := rfl

/-- A fault that a draft has stays its first one. -/
theorem fault_fail_of_fault {draft : Draft} {first : InputError} (faulty : draft.fault = some first)
    (fault : InputError) : (draft.fail fault).fault = some first := by
  rw [fault_fail, faulty, Option.getD_some]

theorem fault_addEncoded_of_fault {draft : Draft} {first : InputError}
    (faulty : draft.fault = some first) (pairs : List (ByteArray × ByteArray)) :
    (draft.addEncoded pairs).fault = some first := by
  induction pairs generalizing draft with
  | nil => exact faulty
  | cons pair rest ih =>
    obtain ⟨key, value⟩ := pair
    rw [addEncoded]
    split
    · exact ih faulty
    · exact fault_fail_of_fault faulty _

theorem fault_apply_of_fault {draft : Draft} {first : InputError} (faulty : draft.fault = some first)
    (setting : Setting) : (draft.apply setting).fault = some first := by
  cases setting with
  | text field value => exact faulty
  | number field value =>
    simp only [apply, setNumber]
    split
    · exact faulty
    · exact fault_fail_of_fault faulty _
  | entry key value => exact faulty
  | entries list => exact faulty
  | rawEntries keys values =>
    simp only [apply]
    split
    · exact fault_addEncoded_of_fault faulty _
    · exact fault_fail_of_fault faulty _

/-- No setting mends a draft. -/
theorem fault_applyAll_of_fault {draft : Draft} {first : InputError}
    (faulty : draft.fault = some first) (settings : List Setting) :
    (draft.applyAll settings).fault = some first := by
  induction settings generalizing draft with
  | nil => exact faulty
  | cons setting rest ih => exact ih (fault_apply_of_fault faulty setting)

/-- A fault decides about the whole draft. -/
theorem build_eq_error_of_fault {draft : Draft} {first : InputError}
    (faulty : draft.fault = some first) : draft.build = .error first := by
  unfold build flaw?
  rw [faulty]
  rfl

end Draft

end WalletLedger
