import WalletLedger.Proofs.Bundle.Built
import Mathlib.Algebra.Ring.Int.Defs

/-!
# What counts of a sequence of settings

A draft is made by any sequence of settings, in which one field may be set many
times. If some setting cannot be followed, the fault of the first one is all that
counts. Otherwise each field is as its last setting left it, and each key of the
metadata has its last value (`applyAll_of_followed`).

Building then goes through the texts, the metadata by ascending key, the identity
and the amounts, and reports the first complaint. `complaints` lists them all in
this order.

Main statement: `build_applyAll`.
-/

namespace WalletLedger

/-! ## Settings by themselves -/

/-- What is wrong with an encoded metadata entry. -/
def entryFault? (entry : ByteArray × ByteArray) : Option InputError :=
  match decodeEntry entry.1 entry.2 with
  | .ok _ => none
  | .error fault => some fault

namespace Setting

/-- What is wrong with a setting, whichever draft it is made to. -/
def fault? : Setting → Option InputError
  | .number field value => if 0 ≤ value ∧ value < 2 ^ 64 then none else some (.outOfRange field.name)
  | .rawEntries keys values =>
    if keys.length = values.length then (keys.zip values).findSome? entryFault?
    else some (.metadataCountMismatch keys.length values.length)
  | .text .. | .entry .. | .entries .. => none

/-- A number is followed just if it fits the field. -/
theorem fault?_number (field : NumberField) (value : Int) :
    (Setting.number field value).fault? =
      match FixedWidth.uint64? value with
      | some _ => none
      | none => some (.outOfRange field.name) := by
  have size : (2 : Int) ^ 64 = UInt64.size := rfl
  rw [fault?, size, FixedWidth.uint64?]
  split <;> rfl

/-- The text that a setting gives to a field. -/
def text? (field : TextField) : Setting → Option String
  | .text f value => if f = field then some value else none
  | _ => none

/-- The number that a setting gives to a field. -/
def number? (field : NumberField) : Setting → Option Int
  | .number f value => if f = field then some value else none
  | _ => none

/-- The metadata entries of a setting. -/
def metadata : Setting → List (String × String)
  | .entry key value => [(key, value)]
  | .entries list => list
  | .rawEntries keys values =>
    (keys.zip values).filterMap fun entry => (decodeEntry entry.1 entry.2).toOption
  | _ => []

/-! ## What counts -/

/-- The last text that a field is given, or the empty one. -/
def lastText (settings : List Setting) (field : TextField) : String :=
  (settings.filterMap (text? field)).getLast?.getD ""

/-- The last number that a field is given. -/
def lastNumber? (settings : List Setting) (field : NumberField) : Option Int :=
  (settings.filterMap (number? field)).getLast?

/-- The last value that a key of the metadata is given. -/
def lastValue? (settings : List Setting) (key : String) : Option String :=
  (settings.flatMap metadata).reverse.lookup key

/-- Two sequences of settings end in the same texts, numbers and metadata. -/
structure Agree (first second : List Setting) : Prop where
  texts : ∀ field, lastText first field = lastText second field
  numbers : ∀ field, lastNumber? first field = lastNumber? second field
  values : ∀ key, lastValue? first key = lastValue? second key

/-- The metadata of a sequence of settings. -/
def collected (settings : List Setting) : TextMap :=
  .ofList (settings.flatMap metadata)

theorem get?_collected (settings : List Setting) (key : String) :
    (collected settings).get? key = lastValue? settings key := by
  rw [collected, TextMap.ofList, TextMap.get?_insertAll, TextMap.get?_empty, Option.or_none]
  rfl

/-- Sequences of settings with the same last values have the same metadata. -/
theorem Agree.collected_eq {first second : List Setting} (agree : Agree first second) :
    collected first = collected second := by
  refine TextMap.ext_get? fun key => ?_
  rw [get?_collected, get?_collected, agree.values]

end Setting

/-! ## Following settings -/

/-- The last of the values that a list gives is the last one behind its head, or else that of the
head. -/
theorem getLast?_filterMap_cons {α β : Type} (value? : α → Option β) (head : α) (rest : List α) :
    ((head :: rest).filterMap value?).getLast? =
      (rest.filterMap value?).getLast?.or (value? head) := by
  cases given : value? head with
  | none => rw [List.filterMap_cons_none given, Option.or_none]
  | some value =>
    rw [List.filterMap_cons_some given, List.getLast?_cons]
    cases (rest.filterMap value?).getLast? <;> rfl

namespace Draft

variable (draft : Draft)

theorem fault_addEncoded (entries : List (ByteArray × ByteArray)) :
    (draft.addEncoded entries).fault = draft.fault.or (entries.findSome? entryFault?) := by
  induction entries generalizing draft with
  | nil => exact (Option.or_none).symm
  | cons entry rest ih =>
    obtain ⟨key, value⟩ := entry
    rw [addEncoded, List.findSome?_cons, entryFault?]
    cases decodeEntry key value with
    | ok entry => exact ih _
    | error fault => cases given : draft.fault <;> simp [fault_fail, given]

/-- Encoded entries that can all be decoded are added like others. -/
theorem addEncoded_of_decodable {entries : List (ByteArray × ByteArray)}
    (decodable : entries.findSome? entryFault? = none) :
    draft.addEncoded entries =
      draft.addEntries (entries.filterMap fun entry => (decodeEntry entry.1 entry.2).toOption) := by
  induction entries generalizing draft with
  | nil => rfl
  | cons entry rest ih =>
    obtain ⟨key, value⟩ := entry
    rw [List.findSome?_cons, entryFault?] at decodable
    rw [addEncoded]
    cases decoded : decodeEntry key value with
    | error fault =>
      rw [decoded] at decodable
      cases decodable
    | ok entry =>
      rw [decoded] at decodable
      rw [List.filterMap_cons_some (b := entry) (by rw [decoded]; rfl)]
      exact ih _ decodable

/-- A setting leaves a fault behind if it has one and there was none before. -/
theorem fault_apply (setting : Setting) :
    (draft.apply setting).fault = draft.fault.or setting.fault? := by
  cases setting with
  | text field value => exact (Option.or_none).symm
  | entry key value => exact (Option.or_none).symm
  | entries list => exact (Option.or_none).symm
  | number field value =>
    rw [apply, setNumber, Setting.fault?_number]
    cases FixedWidth.uint64? value with
    | none => cases given : draft.fault <;> simp [fault_fail, putNumber, given]
    | some word => exact Option.or_none.symm
  | rawEntries keys values =>
    rw [apply, Setting.fault?]
    split
    · exact draft.fault_addEncoded _
    · cases given : draft.fault <;> simp [fault_fail, given]

/-- The fault of a draft is that of the first setting that has one. -/
theorem fault_applyAll (settings : List Setting) :
    (draft.applyAll settings).fault = draft.fault.or (settings.findSome? Setting.fault?) := by
  induction settings generalizing draft with
  | nil => exact (Option.or_none).symm
  | cons setting rest ih =>
    have step : draft.applyAll (setting :: rest) = (draft.apply setting).applyAll rest := rfl
    rw [step, ih, fault_apply, Option.or_assoc, List.findSome?_cons]
    cases setting.fault? <;> rfl

/-- What a setting that can be followed does. -/
theorem apply_of_followed {setting : Setting} (followed : setting.fault? = none) :
    draft.apply setting =
      { draft with
        texts := fun field => (setting.text? field).getD (draft.texts field)
        numbers := fun field =>
          ((setting.number? field).map FixedWidth.uint64?).getD (draft.numbers field)
        metadata := draft.metadata.insertAll setting.metadata } := by
  cases setting with
  | text field value =>
    rw [apply, setText, Draft.mk.injEq]
    refine ⟨rfl, funext fun other => ?_, rfl, rfl, rfl⟩
    by_cases same : other = field
    · simp [Setting.text?, same]
    · simp [Setting.text?, same, Ne.symm same]
  | entry key value => rfl
  | entries list => rfl
  | number field value =>
    rw [Setting.fault?_number] at followed
    rw [apply, setNumber]
    cases fits : FixedWidth.uint64? value with
    | none =>
      rw [fits] at followed
      cases followed
    | some word =>
      rw [putNumber, Draft.mk.injEq]
      refine ⟨rfl, rfl, funext fun other => ?_, rfl, rfl⟩
      by_cases same : other = field
      · simp [putNumber, Setting.number?, same, fits]
      · simp [putNumber, Setting.number?, same, Ne.symm same]
  | rawEntries keys values =>
    rw [Setting.fault?] at followed
    rw [apply]
    split
    · next paired =>
      rw [if_pos paired] at followed
      exact draft.addEncoded_of_decodable followed
    · next unpaired =>
      rw [if_neg unpaired] at followed
      cases followed

/-- What settings that can all be followed do: to each field what the last one for it says. -/
theorem applyAll_of_followed {settings : List Setting}
    (followed : settings.findSome? Setting.fault? = none) :
    draft.applyAll settings =
      { draft with
        texts := fun field =>
          (settings.filterMap (Setting.text? field)).getLast?.getD (draft.texts field)
        numbers := fun field =>
          ((settings.filterMap (Setting.number? field)).getLast?.map FixedWidth.uint64?).getD
            (draft.numbers field)
        metadata := draft.metadata.insertAll (settings.flatMap Setting.metadata) } := by
  induction settings generalizing draft with
  | nil => rfl
  | cons setting rest ih =>
    rw [List.findSome?_cons] at followed
    have step : draft.applyAll (setting :: rest) = (draft.apply setting).applyAll rest := rfl
    cases first : setting.fault? with
    | some fault =>
      rw [first] at followed
      cases followed
    | none =>
      rw [first] at followed
      rw [step, ih _ followed, draft.apply_of_followed first, Draft.mk.injEq]
      refine ⟨rfl, funext fun field => ?_, funext fun field => ?_, ?_, rfl⟩
      · rw [getLast?_filterMap_cons]
        cases (rest.filterMap (Setting.text? field)).getLast? <;> rfl
      · rw [getLast?_filterMap_cons]
        cases (rest.filterMap (Setting.number? field)).getLast? <;> rfl
      · rw [List.flatMap_cons]
        exact List.foldl_append.symm

end Draft

/-! ## Complaints -/

/-- The text, unless it is empty. -/
def filled? (text : String) : Option String :=
  if text = "" then none else some text

theorem filled?_eq_none_iff {text : String} : filled? text = none ↔ text = "" := by
  rw [filled?]
  split
  · next empty => exact iff_of_true rfl empty
  · next filled => exact iff_of_false (Option.some_ne_none _) filled

theorem filled?_inj {first second : String} : filled? first = filled? second ↔ first = second := by
  refine ⟨fun same => ?_, congrArg filled?⟩
  by_cases empty : first = ""
  · rw [filled?_eq_none_iff.2 empty] at same
    exact empty.trans (filled?_eq_none_iff.1 same.symm).symm
  · by_cases other : second = ""
    · rw [filled?_eq_none_iff.2 other] at same
      exact absurd (filled?_eq_none_iff.1 same) empty
    · rw [filled?, filled?, if_neg empty, if_neg other] at same
      exact Option.some.inj same

/-- The complaint about a text that has the character number zero in it. -/
def nulComplaints (field text : String) : List InputError :=
  if hasNul text then [.embeddedNul field] else []

/-- The complaints about the text fields, in their order. -/
def textComplaints (texts : TextField → String) : List InputError :=
  TextField.all.flatMap fun field => nulComplaints field.name (texts field)

/-- The complaints about metadata, by ascending key and about the key before its value. -/
def metadataComplaints (metadata : TextMap) : List InputError :=
  metadata.entries.flatMap fun entry =>
    nulComplaints "metadata key" entry.1 ++ nulComplaints "metadata value" entry.2

/-- The complaint about a transfer with neither a hash nor a correlation id. -/
def identityComplaints (hash uids : String) : List InputError :=
  if hash = "" ∧ uids = "" then [.missingIdentity] else []

/-- The complaint about a text that is no amount. -/
def amountComplaints (field text : String) : List InputError :=
  if IsDecimal text.toList then [] else [.invalidDecimal field text]

/-- All that is wrong with texts and metadata, in the order in which it is found. No fee is no
reason to complain. -/
def complaints (texts : TextField → String) (metadata : TextMap) : List InputError :=
  textComplaints texts ++ metadataComplaints metadata ++
    identityComplaints (texts .hash) (texts .uids) ++ amountComplaints "amount" (texts .amount) ++
      if texts .fee = "" then [] else amountComplaints "fee" (texts .fee)

theorem head?_nulComplaints (field text : String) :
    (nulComplaints field text).head? = Draft.nulFlaw? field text := by
  rw [nulComplaints, Draft.nulFlaw?]
  split <;> rfl

theorem parse_of_complaint {field text : String} {complaint : InputError}
    (first : (amountComplaints field text).head? = some complaint) :
    DecimalAmount.parse field text = .error complaint := by
  rw [amountComplaints] at first
  split at first
  · cases first
  · next other =>
    cases first
    exact dif_neg fun decimal => other (isDecimal_iff.1 decimal)

theorem exists_parse_of_no_complaint {field text : String}
    (clear : (amountComplaints field text).head? = none) :
    ∃ amount, DecimalAmount.parse field text = .ok amount ∧ amount.text = text := by
  rw [amountComplaints] at clear
  split at clear
  · next decimal =>
    have accepted : DecimalAmount.parse field text = .ok ⟨text, isDecimal_iff.2 decimal⟩ :=
      DecimalAmount.parse_eq_ok_iff.2 rfl
    exact ⟨_, accepted, rfl⟩
  · cases clear

namespace Draft

variable {draft : Draft}

/-- A draft without a fault is checked for flaws in the order of the complaints. -/
theorem head?_complaints (faultless : draft.fault = none) :
    (complaints draft.texts draft.metadata).head? =
      draft.flaw?.or ((amountComplaints "amount" (draft.texts .amount)).head?.or
        (if draft.texts .fee = "" then []
          else amountComplaints "fee" (draft.texts .fee)).head?) := by
  have texts : (textComplaints draft.texts).head? = draft.textFlaw? := by
    simp only [textComplaints, List.head?_flatMap, head?_nulComplaints, textFlaw?]
  have metadata : (metadataComplaints draft.metadata).head? = draft.metadataFlaw? := by
    simp only [metadataComplaints, List.head?_flatMap, List.head?_append, head?_nulComplaints,
      metadataFlaw?]
  have identity :
      (identityComplaints (draft.texts .hash) (draft.texts .uids)).head? = draft.identityFlaw? := by
    rw [identityComplaints, identityFlaw?]
    split <;> rfl
  simp only [complaints, List.head?_append, texts, metadata, identity, flaw?, faultless,
    Option.none_or, Option.or_assoc]

/-- The first complaint about a draft without a fault is the error of building it. -/
theorem build_of_complaint (faultless : draft.fault = none) {complaint : InputError}
    (first : (complaints draft.texts draft.metadata).head? = some complaint) :
    draft.build = .error complaint := by
  rw [head?_complaints faultless] at first
  rw [build]
  cases flaw : draft.flaw? with
  | some flaw =>
    rw [flaw] at first
    cases first
    rfl
  | none =>
    rw [flaw, Option.none_or] at first
    cases aboutAmount : (amountComplaints "amount" (draft.texts .amount)).head? with
    | some complaint =>
      rw [aboutAmount] at first
      cases first
      rw [parse_of_complaint aboutAmount]
      rfl
    | none =>
      obtain ⟨amount, read, -⟩ := exists_parse_of_no_complaint aboutAmount
      rw [aboutAmount, Option.none_or] at first
      rw [read, fee?]
      by_cases free : draft.texts .fee = ""
      · rw [if_pos free] at first
        cases first
      · rw [if_neg free] at first
        rw [if_neg free, parse_of_complaint first]
        rfl

/-- A draft without a fault about which there is no complaint is built. -/
theorem exists_build (faultless : draft.fault = none)
    (clear : (complaints draft.texts draft.metadata).head? = none) :
    ∃ amount fee, draft.build = .ok (draft.bundleWith amount fee) ∧
      amount.text = draft.texts .amount ∧
      fee.map DecimalAmount.text = filled? (draft.texts .fee) := by
  rw [head?_complaints faultless, Option.or_eq_none_iff, Option.or_eq_none_iff] at clear
  obtain ⟨flawless, aboutAmount, aboutFee⟩ := clear
  obtain ⟨amount, read, given⟩ := exists_parse_of_no_complaint aboutAmount
  rw [build, flawless, read, fee?, filled?]
  by_cases free : draft.texts .fee = ""
  · rw [if_pos free, if_pos free]
    exact ⟨amount, none, rfl, given, rfl⟩
  · rw [if_neg free] at aboutFee
    obtain ⟨fee, readFee, givenFee⟩ := exists_parse_of_no_complaint aboutFee
    rw [if_neg free, if_neg free, readFee]
    exact ⟨amount, some fee, rfl, given, congrArg some givenFee⟩

end Draft

/-! ## Building -/

/-- A bundle has a status and what counts of a sequence of settings; texts that may be missing are
missing if they are empty. -/
structure TransferBundle.Shows (bundle : TransferBundle) (status : TransferStatus)
    (settings : List Setting) : Prop where
  status : bundle.status = status
  hash : bundle.hash = filled? (Setting.lastText settings .hash)
  identifier : bundle.identifier = filled? (Setting.lastText settings .identifier)
  uids : bundle.uids = filled? (Setting.lastText settings .uids)
  source : bundle.source = Setting.lastText settings .source
  target : bundle.target = Setting.lastText settings .target
  amount : bundle.amount.text = Setting.lastText settings .amount
  currency : bundle.currency = Setting.lastText settings .currency
  fee : bundle.fee.map DecimalAmount.text = filled? (Setting.lastText settings .fee)
  transferIndex :
    (bundle.transferIndex.toNat : Int) = (Setting.lastNumber? settings .transferIndex).getD 0
  blockTimestamp :
    bundle.blockTimestamp.map (·.toNat : UInt64 → Int) = Setting.lastNumber? settings .blockTimestamp
  blockHeight :
    bundle.blockHeight.map (·.toNat : UInt64 → Int) = Setting.lastNumber? settings .blockHeight
  blockConfirmations :
    bundle.blockConfirmations.map (·.toNat : UInt64 → Int) =
      Setting.lastNumber? settings .blockConfirmations
  blockTransactionIndex :
    bundle.blockTransactionIndex.map (·.toNat : UInt64 → Int) =
      Setting.lastNumber? settings .blockTransactionIndex
  blockHash : bundle.blockHash = filled? (Setting.lastText settings .blockHash)
  metadata : ∀ key, bundle.metadata.get? key = Setting.lastValue? settings key

namespace Setting

variable {settings : List Setting}

/-- The draft of a sequence of settings that can all be followed. -/
def draftOf (status : TransferStatus) (settings : List Setting) : Draft where
  status := status
  texts := lastText settings
  numbers field := (lastNumber? settings field).bind FixedWidth.uint64?
  metadata := collected settings
  fault := none

theorem applyAll_ofStatus (status : TransferStatus)
    (followed : settings.findSome? fault? = none) :
    (Draft.ofStatus status).applyAll settings = draftOf status settings := by
  rw [Draft.applyAll_of_followed _ followed, draftOf, Draft.mk.injEq]
  refine ⟨rfl, rfl, funext fun field => ?_, rfl, rfl⟩
  rw [lastNumber?]
  cases (settings.filterMap (number? field)).getLast? <;> rfl

/-- A number that a field is given fits the field. -/
theorem exists_uint64_of_lastNumber? (followed : settings.findSome? fault? = none)
    {field : NumberField} {value : Int} (given : lastNumber? settings field = some value) :
    ∃ word, FixedWidth.uint64? value = some word ∧ (word.toNat : Int) = value := by
  obtain ⟨setting, among, gives⟩ := List.mem_filterMap.1 (List.mem_of_getLast? given)
  have clear := List.findSome?_eq_none_iff.1 followed setting among
  cases setting with
  | number f v =>
    have same : v = value := Option.some.inj (Option.ite_none_right_eq_some.1 gives).2
    subst same
    rw [fault?_number] at clear
    cases fits : FixedWidth.uint64? v with
    | none =>
      rw [fits] at clear
      cases clear
    | some word => exact ⟨word, rfl, FixedWidth.uint64?_eq_some_iff.1 fits⟩
  | text | entry | entries | rawEntries => cases gives

/-- The numbers of settings that can all be followed are kept unchanged. -/
theorem map_numbers_draftOf (status : TransferStatus) (followed : settings.findSome? fault? = none)
    (field : NumberField) :
    ((draftOf status settings).numbers field).map (·.toNat : UInt64 → Int) =
      lastNumber? settings field := by
  change ((lastNumber? settings field).bind FixedWidth.uint64?).map _ = _
  cases given : lastNumber? settings field with
  | none => rfl
  | some value =>
    obtain ⟨word, fits, same⟩ := exists_uint64_of_lastNumber? followed given
    rw [Option.bind_some, fits, Option.map_some, same]

/-- A bundle that is built from settings shows what counts of them. -/
theorem shows_bundleWith (status : TransferStatus) (followed : settings.findSome? fault? = none)
    {amount : DecimalAmount} {fee : Option DecimalAmount}
    (read : amount.text = lastText settings .amount)
    (charged : fee.map DecimalAmount.text = filled? (lastText settings .fee)) :
    ((draftOf status settings).bundleWith amount fee).Shows status settings where
  status := rfl
  hash := rfl
  identifier := rfl
  uids := rfl
  source := rfl
  target := rfl
  amount := read
  currency := rfl
  fee := charged
  transferIndex := by
    have index := map_numbers_draftOf status followed .transferIndex
    rw [Draft.bundleWith, ← index]
    cases (draftOf status settings).numbers .transferIndex <;> rfl
  blockTimestamp := map_numbers_draftOf status followed .blockTimestamp
  blockHeight := map_numbers_draftOf status followed .blockHeight
  blockConfirmations := map_numbers_draftOf status followed .blockConfirmations
  blockTransactionIndex := map_numbers_draftOf status followed .blockTransactionIndex
  blockHash := rfl
  metadata := get?_collected settings

/-- What building any sequence of settings comes to. The first setting that cannot be followed is
the error, whatever comes behind it. Otherwise only the last texts, numbers and metadata values
count: the first complaint about them is the error, and if there is none the bundle shows them. -/
theorem build_applyAll (status : TransferStatus) (settings : List Setting) :
    let built (settings : List Setting) := ((Draft.ofStatus status).applyAll settings).build
    match settings.findSome? fault? with
    | some fault => built settings = .error fault
    | none =>
      (match (complaints (lastText settings) (collected settings)).head? with
        | some complaint => built settings = .error complaint
        | none => ∃ bundle, built settings = .ok bundle ∧ bundle.Shows status settings) ∧
      (∀ key, (collected settings).get? key = lastValue? settings key) ∧
      ∀ others : List Setting, others.findSome? fault? = none → Agree settings others →
        built others = built settings := by
  intro built
  cases faulty : settings.findSome? fault? with
  | some fault =>
    refine Draft.build_eq_error_of_fault ?_
    rw [Draft.fault_applyAll, faulty]
    rfl
  | none =>
    have drafted : built settings = (draftOf status settings).build :=
      congrArg Draft.build (applyAll_ofStatus status faulty)
    refine ⟨?_, get?_collected settings, fun others followed agree => ?_⟩
    · rw [drafted]
      cases first : (complaints (lastText settings) (collected settings)).head? with
      | some complaint => exact Draft.build_of_complaint rfl first
      | none =>
        have faultless : (draftOf status settings).fault = none := rfl
        obtain ⟨amount, fee, bundle, read, charged⟩ := Draft.exists_build faultless first
        exact ⟨_, bundle, shows_bundleWith status faulty read charged⟩
    · have same : draftOf status others = draftOf status settings := by
        simp only [draftOf, Draft.mk.injEq, true_and, and_true]
        refine ⟨funext fun field => (agree.texts field).symm, funext fun field => ?_,
          agree.collected_eq.symm⟩
        rw [agree.numbers]
      rw [drafted, ← same]
      exact congrArg Draft.build (applyAll_ofStatus status followed)

end Setting

end WalletLedger
