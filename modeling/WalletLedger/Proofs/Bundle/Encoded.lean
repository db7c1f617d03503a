import WalletLedger.Proofs.Bundle.Settings
import WalletLedger.Proofs.Text.Bytes

/-!
# Encoded metadata

Metadata may be set as encoded keys and values or as texts. The bytes of a text
are decoded just if they are valid and none of them is zero, which is to say that
the text does not have the character number zero in it: in all other characters
every byte has a bit set (`zero_mem_utf8EncodeChar_iff`).

If every key and every value can be decoded, it makes no difference to a draft
which way the metadata are set. Otherwise the first entry that cannot be decoded
leaves a fault behind, which is about its key if that is at fault, and which
building reports.

Main statement: `Draft.encoded_metadata_as_decoded`.
-/

namespace WalletLedger

/-! ## Bytes of texts -/

/-- Bytes encode a text without the character number zero. -/
structure IsText (bytes : ByteArray) : Prop where
  valid : bytes.IsValidUTF8
  nonzero : (0 : UInt8) ∉ bytes.data.toList

/-- What is wrong with the bytes of a field that are not decoded. Whether they are valid is looked at
first. -/
def bytesFault (field : String) (bytes : ByteArray) : InputError :=
  if bytes.IsValidUTF8 then .embeddedNul field else .encoding field

theorem zero_eq_ofNat_iff {n : Nat} : (0 : UInt8) = UInt8.ofNat n ↔ n % 256 = 0 := by
  rw [← UInt8.toNat_inj, UInt8.toNat_ofNat']
  exact eq_comm

/-- Only the character number zero has a zero among its bytes. -/
theorem zero_mem_utf8EncodeChar_iff {c : Char} :
    (0 : UInt8) ∈ String.utf8EncodeChar c ↔ c = '\x00' := by
  have number : c = '\x00' ↔ c.val.toNat = 0 := by
    rw [← Char.val_inj, ← UInt32.toNat_inj]
    rfl
  rw [number, String.utf8EncodeChar]
  -- The characters go by how many bytes they have, and only a single byte can be zero.
  split
  · rw [List.mem_singleton, zero_eq_ofNat_iff]
    omega
  · split
    · simp only [List.mem_cons, List.not_mem_nil, or_false, zero_eq_ofNat_iff]
      omega
    · split
      · simp only [List.mem_cons, List.not_mem_nil, or_false, zero_eq_ofNat_iff]
        omega
      · simp only [List.mem_cons, List.not_mem_nil, or_false, zero_eq_ofNat_iff]
        omega

theorem hasNul_eq_true_iff {text : String} :
    hasNul text = true ↔ (0 : UInt8) ∈ text.toUTF8.data.toList := by
  rw [hasNul, List.contains_iff_mem, toList_data_toUTF8, List.mem_flatMap]
  simp only [zero_mem_utf8EncodeChar_iff, exists_eq_right]

theorem valid_toUTF8 (text : String) : text.toUTF8.IsValidUTF8 := by
  rw [String.toUTF8_eq_toByteArray]
  exact text.isValidUTF8

theorem isText_toUTF8_iff {text : String} : IsText text.toUTF8 ↔ hasNul text = false := by
  rw [← Bool.not_eq_true, hasNul_eq_true_iff]
  exact ⟨IsText.nonzero, fun nonzero => ⟨valid_toUTF8 text, nonzero⟩⟩

/-! ## Decoding -/

section Decoding

variable {bytes : ByteArray}

theorem fromUTF8?_eq_none_iff : String.fromUTF8? bytes = none ↔ ¬bytes.IsValidUTF8 := by
  unfold String.fromUTF8?
  split
  · next valid => exact iff_of_false (Option.some_ne_none _) fun invalid => invalid valid
  · next invalid => exact iff_of_true rfl invalid

/-- The bytes of a text are decoded to it. -/
theorem exists_decodeText (field : String) (isText : IsText bytes) :
    ∃ text, decodeText field bytes = .ok text ∧ text.toUTF8 = bytes := by
  cases decoded : String.fromUTF8? bytes with
  | none => exact absurd isText.valid (fromUTF8?_eq_none_iff.1 decoded)
  | some text =>
    obtain rfl := fromUTF8?_eq_some_iff.1 decoded
    exact ⟨text, decodeText_eq_ok_iff.2 ⟨rfl, isText_toUTF8_iff.1 isText⟩, rfl⟩

/-- Other bytes are refused. -/
theorem decodeText_of_not_isText (field : String) (undecodable : ¬IsText bytes) :
    decodeText field bytes = .error (bytesFault field bytes) := by
  cases decoded : String.fromUTF8? bytes with
  | none =>
    rw [decodeText, decoded, bytesFault, if_neg (fromUTF8?_eq_none_iff.1 decoded)]
  | some text =>
    obtain rfl := fromUTF8?_eq_some_iff.1 decoded
    rw [isText_toUTF8_iff, Bool.not_eq_false] at undecodable
    rw [decodeText, decoded, bytesFault, if_pos (valid_toUTF8 text)]
    exact if_pos undecodable

end Decoding

/-! ## Entries -/

section Entries

variable {key value : ByteArray}

theorem exists_decodeEntry (keyText : IsText key) (valueText : IsText value) :
    ∃ entry, decodeEntry key value = .ok entry ∧ decodeText "metadata key" key = .ok entry.1 ∧
      decodeText "metadata value" value = .ok entry.2 := by
  obtain ⟨first, decodedKey, -⟩ := exists_decodeText "metadata key" keyText
  obtain ⟨second, decodedValue, -⟩ := exists_decodeText "metadata value" valueText
  refine ⟨(first, second), ?_, decodedKey, decodedValue⟩
  rw [decodeEntry, decodedKey, decodedValue]
  rfl

/-- A key that cannot be decoded is complained about whatever the value is. -/
theorem entryFault?_of_key (undecodable : ¬IsText key) :
    entryFault? (key, value) = some (bytesFault "metadata key" key) := by
  have refused : decodeEntry key value = .error (bytesFault "metadata key" key) := by
    rw [decodeEntry, decodeText_of_not_isText _ undecodable]
    rfl
  simp only [entryFault?, refused]

theorem entryFault?_of_value (keyText : IsText key) (undecodable : ¬IsText value) :
    entryFault? (key, value) = some (bytesFault "metadata value" value) := by
  obtain ⟨first, decodedKey, -⟩ := exists_decodeText "metadata key" keyText
  have refused : decodeEntry key value = .error (bytesFault "metadata value" value) := by
    rw [decodeEntry, decodedKey, decodeText_of_not_isText _ undecodable]
    rfl
  simp only [entryFault?, refused]

theorem entryFault?_of_texts (keyText : IsText key) (valueText : IsText value) :
    entryFault? (key, value) = none := by
  obtain ⟨entry, decoded, -⟩ := exists_decodeEntry keyText valueText
  simp only [entryFault?, decoded]

end Entries

/-- Both the key and the value of an encoded entry can be decoded. -/
def IsTextEntry (entry : ByteArray × ByteArray) : Prop :=
  IsText entry.1 ∧ IsText entry.2

/-- The first entry that cannot be decoded decides about the fault of them all. -/
theorem findSome?_entryFault? {before after : List (ByteArray × ByteArray)}
    {entry : ByteArray × ByteArray} {fault : InputError}
    (earlier : ∀ other ∈ before, IsTextEntry other) (faulty : entryFault? entry = some fault) :
    (before ++ entry :: after).findSome? entryFault? = some fault := by
  have passed : before.findSome? entryFault? = none :=
    List.findSome?_eq_none_iff.2 fun other mem =>
      entryFault?_of_texts (earlier other mem).1 (earlier other mem).2
  rw [List.findSome?_append, passed, Option.none_or, List.findSome?_cons, faulty]

/-- The entries that encoded ones are decoded to, which are added to any draft in their place. -/
theorem exists_decoded {encoded : List (ByteArray × ByteArray)}
    (texts : ∀ entry ∈ encoded, IsTextEntry entry) :
    ∃ entries : List (String × String),
      (encoded.map (·.1)).map (decodeText "metadata key") =
        entries.map (fun entry => .ok entry.1) ∧
      (encoded.map (·.2)).map (decodeText "metadata value") =
        entries.map (fun entry => .ok entry.2) ∧
      ∀ draft : Draft, draft.addEncoded encoded = draft.addEntries entries := by
  induction encoded with
  | nil => exact ⟨[], rfl, rfl, fun _ => rfl⟩
  | cons head rest ih =>
    obtain ⟨first, others⟩ := List.forall_mem_cons.1 texts
    obtain ⟨entry, decoded, key, value⟩ := exists_decodeEntry first.1 first.2
    obtain ⟨entries, keys, values, added⟩ := ih others
    refine ⟨entry :: entries, ?_, ?_, fun draft => ?_⟩
    · rw [List.map_cons, List.map_cons, List.map_cons, key, keys]
    · rw [List.map_cons, List.map_cons, List.map_cons, value, values]
    · rw [Draft.addEncoded, decoded]
      exact added _

namespace Draft

variable {draft : Draft} {keys values : List ByteArray}

theorem apply_rawEntries (paired : keys.length = values.length) (draft : Draft) :
    draft.apply (.rawEntries keys values) = draft.addEncoded (keys.zip values) := by
  rw [apply, if_pos paired]

/-- An encoded entry that is at fault is what building reports, if nothing before it was. -/
theorem build_of_entryFault (paired : keys.length = values.length) (faultless : draft.fault = none)
    {before after : List (ByteArray × ByteArray)} {entry : ByteArray × ByteArray}
    (order : keys.zip values = before ++ entry :: after)
    (earlier : ∀ other ∈ before, IsTextEntry other) {fault : InputError}
    (faulty : entryFault? entry = some fault) (later : List Setting) :
    (draft.applyAll (.rawEntries keys values :: later)).build = .error fault := by
  have left : (draft.apply (.rawEntries keys values)).fault = some fault := by
    rw [apply_rawEntries paired, fault_addEncoded, faultless, Option.none_or, order]
    exact findSome?_entryFault? earlier faulty
  exact build_eq_error_of_fault (fault_applyAll_of_fault left later)

/-- Encoded metadata and texts agree. Bytes are decoded just if they are those of a text. If all keys
and values are, setting them encoded is the same as setting what they are decoded to, in this order
and whatever follows. Otherwise building reports the first entry that is not decoded, its key before
its value, if the draft was not at fault before. -/
theorem encoded_metadata_as_decoded (draft : Draft) (keys values : List ByteArray)
    (paired : keys.length = values.length) :
    let built (setting : Setting) (later : List Setting) :=
      (draft.applyAll (setting :: later)).build
    (∀ field bytes,
      (IsText bytes → ∃ text, decodeText field bytes = .ok text ∧ text.toUTF8 = bytes) ∧
        (¬IsText bytes → decodeText field bytes = .error (bytesFault field bytes))) ∧
    ((∀ key ∈ keys, IsText key) → (∀ value ∈ values, IsText value) →
      ∃ entries : List (String × String),
        keys.map (decodeText "metadata key") = entries.map (fun entry => .ok entry.1) ∧
        values.map (decodeText "metadata value") = entries.map (fun entry => .ok entry.2) ∧
        ∀ later, built (.rawEntries keys values) later = built (.entries entries) later) ∧
    (draft.fault = none → ∀ before key value after,
      keys.zip values = before ++ (key, value) :: after → (∀ entry ∈ before, IsTextEntry entry) →
        (¬IsText key → ∀ later,
          built (.rawEntries keys values) later = .error (bytesFault "metadata key" key)) ∧
        (IsText key → ¬IsText value → ∀ later,
          built (.rawEntries keys values) later = .error (bytesFault "metadata value" value))) := by
  intro built
  refine ⟨fun field bytes => ?_, fun keyTexts valueTexts => ?_, ?_⟩
  · exact ⟨exists_decodeText field, decodeText_of_not_isText field⟩
  · have texts : ∀ entry ∈ keys.zip values, IsTextEntry entry := fun entry mem =>
      ⟨keyTexts _ (List.of_mem_zip mem).1, valueTexts _ (List.of_mem_zip mem).2⟩
    obtain ⟨entries, decodedKeys, decodedValues, added⟩ := exists_decoded texts
    refine ⟨entries, ?_, ?_, fun later => ?_⟩
    · rwa [List.map_fst_zip (Nat.le_of_eq paired)] at decodedKeys
    · rwa [List.map_snd_zip (Nat.le_of_eq paired.symm)] at decodedValues
    · have same : draft.apply (.rawEntries keys values) = draft.apply (.entries entries) := by
        rw [apply_rawEntries paired, added, apply]
      exact congrArg (fun next : Draft => (next.applyAll later).build) same
  · intro faultless before key value after order earlier
    constructor
    · intro undecodable later
      exact build_of_entryFault paired faultless order earlier (entryFault?_of_key undecodable) later
    · intro keyText undecodable later
      exact build_of_entryFault paired faultless order earlier
        (entryFault?_of_value keyText undecodable) later

/-- A key that comes twice, and is in the draft already, has its last value; a key that is no text is
reported, and not the value beside it, which is none either. -/
theorem encoded_metadata_as_decoded_repeated :
    let draft := (ofStatus .submitted).applyAll [.text .hash "h", .entry "memo" "rent"]
    let keys := ["memo".toUTF8, "memo".toUTF8]
    let values := ["food".toUTF8, "fuel".toUTF8]
    let badKeys := ["memo".toUTF8, ⟨#[0xff]⟩]
    let badValues := ["food".toUTF8, ⟨#[0]⟩]
    let later : List Setting := [.text .amount "7"]
    keys.length = values.length ∧ (∀ key ∈ keys, IsText key) ∧ (∀ value ∈ values, IsText value) ∧
      (draft.applyAll (.rawEntries keys values :: later)).build =
        (draft.applyAll (.entries [("memo", "food"), ("memo", "fuel")] :: later)).build ∧
      (draft.applyAll (.rawEntries badKeys badValues :: later)).build =
        .error (.encoding "metadata key") := by
  intro draft keys values badKeys badValues later
  have paired : keys.length = values.length := rfl
  have memo : IsText "memo".toUTF8 := isText_toUTF8_iff.2 (by decide)
  have food : IsText "food".toUTF8 := isText_toUTF8_iff.2 (by decide)
  have fuel : IsText "fuel".toUTF8 := isText_toUTF8_iff.2 (by decide)
  have keyTexts : ∀ key ∈ keys, IsText key :=
    List.forall_mem_cons.2 ⟨memo, List.forall_mem_singleton.2 memo⟩
  have valueTexts : ∀ value ∈ values, IsText value :=
    List.forall_mem_cons.2 ⟨food, List.forall_mem_singleton.2 fuel⟩
  refine ⟨paired, keyTexts, valueTexts, ?_, ?_⟩
  · obtain ⟨-, agree, -⟩ := encoded_metadata_as_decoded draft keys values paired
    obtain ⟨entries, decodedKeys, decodedValues, same⟩ := agree keyTexts valueTexts
    have keysRead : keys.map (decodeText "metadata key") = [.ok "memo", .ok "memo"] := by
      decide +kernel
    have valuesRead : values.map (decodeText "metadata value") = [.ok "food", .ok "fuel"] := by
      decide +kernel
    rw [keysRead] at decodedKeys
    rw [valuesRead] at decodedValues
    obtain ⟨⟨_, _⟩, ⟨_, _⟩, rfl⟩ : ∃ first second, entries = [first, second] :=
      List.length_eq_two.1 (by simpa using (congrArg List.length decodedKeys).symm)
    cases decodedKeys
    cases decodedValues
    exact same later
  · have faultless : draft.fault = none := rfl
    have invalid : ¬(⟨#[0xff]⟩ : ByteArray).IsValidUTF8 := by decide +kernel
    obtain ⟨-, -, reports⟩ := encoded_metadata_as_decoded draft badKeys badValues rfl
    have first : ∀ entry ∈ [("memo".toUTF8, "food".toUTF8)], IsTextEntry entry :=
      List.forall_mem_singleton.2 ⟨memo, food⟩
    obtain ⟨ofKey, -⟩ := reports faultless _ _ _ [] rfl first
    have encoding : bytesFault "metadata key" ⟨#[0xff]⟩ = .encoding "metadata key" := if_neg invalid
    rw [← encoding]
    exact ofKey (fun isText => invalid isText.valid) later

end Draft

end WalletLedger
