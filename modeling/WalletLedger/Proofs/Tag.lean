import WalletLedger.Connection
import WalletLedger.Network
import WalletLedger.Proofs.Text.Blank
import WalletLedger.TransferStatus
import Mathlib.Data.List.Nodup

/-!
# Reading tags

A tag is looked up by its number, or by a name in a table of all names, and the
first hit counts. What is read is exact if the tables are as they should be: every
tag is in them, and no two numbers and no two names are equal. `Tag.Lawful` says
this of a set of tags as facts about closed lists, which are checked for each of
the four sets; all that follows about texts and numbers is proved once, for every
lawful set (`Lawful.readsExactly`), and also that what is kept of a tag comes back
(`Lawful.ofJson?_toJson`).

Main statement: `Tag.read_exactly`.
-/

namespace WalletLedger

/-! ## Looking up -/

section Lookup

variable {α κ : Type} [DecidableEq κ] {key : α → κ} {entries : List α} {k : κ} {entry : α}

theorem mem_and_key_of_find? (found : entries.find? (fun other => key other = k) = some entry) :
    entry ∈ entries ∧ key entry = k := by
  have hit : key entry = k := by simpa using List.find?_some found
  exact ⟨List.mem_of_find?_eq_some found, hit⟩

/-- Among entries with distinct keys, the first one that has a key is the only one. -/
theorem find?_key_eq_some_iff (distinct : (entries.map key).Nodup) :
    entries.find? (fun other => key other = k) = some entry ↔ entry ∈ entries ∧ key entry = k := by
  refine ⟨mem_and_key_of_find?, fun ⟨mem, has⟩ => ?_⟩
  cases found : entries.find? fun other => key other = k with
  | none => exact absurd (decide_eq_true has) (List.find?_eq_none.1 found entry mem)
  | some first =>
    obtain ⟨firstMem, firstHas⟩ := mem_and_key_of_find? found
    rw [List.inj_on_of_nodup_map distinct firstMem mem (firstHas.trans has.symm)]

/-- A look-up gives what was found, and an error just if nothing was. -/
theorem elim_eq_ok_iff {ε : Type} {found : Option α} {error : ε} :
    found.elim (.error error) Except.ok = .ok entry ↔ found = some entry := by
  cases found <;> simp

theorem elim_eq_error_iff {ε : Type} {found : Option α} {error : ε} :
    found.elim (.error error) Except.ok = .error error ↔ found = none := by
  cases found <;> simp

end Lookup

namespace Tag

variable {τ : Type} [Tag τ]

/-! ## What is to be read -/

/-- A text without blanks at its ends is, in some case, the name of a tag or one of the further
names that tags of the set have. -/
inductive Names (others : List (String × τ)) (core : String) : τ → Prop where
  | name {tag : τ} (same : Text.sameLetters (name tag) core = true) : Names others core tag
  | other {further : String} {tag : τ} (listed : (further, tag) ∈ others)
    (same : Text.sameLetters further core = true) : Names others core tag

/-- A text stands for a tag if what is left of it without the blanks at its ends names the tag. -/
def StandsFor (others : List (String × τ)) (text : String) (tag : τ) : Prop :=
  ∃ core, Text.HasCore text core ∧ Names others core tag

/-- Numbers and texts are read as the tags that they stand for, and refused if they stand for none.
No text stands for two tags, and what is written for a tag is read as the tag. -/
structure ReadsExactly (τ : Type) [Tag τ] (others : List (String × τ)) : Prop where
  ofCode_ok : ∀ value, ∀ tag : τ, ofCode value = .ok tag ↔ code tag = value
  ofCode_error : ∀ value,
    (ofCode value : Except InputError τ) = .error (.unrecognizedTag (kind τ) value) ↔
      ∀ tag : τ, code tag ≠ value
  ofName_ok : ∀ text, ∀ tag : τ, ofName text = .ok tag ↔ StandsFor others text tag
  ofName_error : ∀ text,
    (∃ core, Text.HasCore text core ∧
        (ofName text : Except InputError τ) = .error (.unrecognizedName (kind τ) core)) ↔
      ∀ tag, ¬StandsFor others text tag
  unique : ∀ text, ∀ first second : τ,
    StandsFor others text first → StandsFor others text second → first = second
  ofCode_code : ∀ tag : τ, ofCode (code tag) = .ok tag
  ofName_name : ∀ tag : τ, ofName (name tag) = .ok tag
  ofName_label : ∀ tag : τ, ofName (label tag) = .ok tag

/-! ## Tables -/

/-- Every name of a set with the tag that it stands for, in the order in which they are tried. -/
def spellings (τ : Type) [Tag τ] : List (String × τ) :=
  aliases ++ all.map fun tag => (name tag, tag)

/-- The tables of a set of tags list every tag, and tell numbers and names apart. Names and labels
have no blanks at their ends, and a label is the name in some case. -/
structure Lawful (τ : Type) [Tag τ] : Prop where
  complete : ∀ tag : τ, tag ∈ (all : List τ)
  codes : ((all : List τ).map code).Nodup := by decide
  names : ((spellings τ).map fun entry => Text.lowered entry.1).Nodup := by decide +kernel
  trimmed : ∀ tag ∈ (all : List τ),
    Text.trim (name tag) = name tag ∧ Text.trim (label tag) = label tag := by decide +kernel
  labels : ∀ tag ∈ (all : List τ), Text.sameLetters (name tag) (label tag) = true := by
    decide +kernel

/-- Names are looked up in one table. -/
theorem named?_eq (core : String) :
    (named? core : Option τ) =
      ((spellings τ).find? fun entry => Text.lowered entry.1 = Text.lowered core).map (·.2) := by
  rw [spellings, List.find?_append, List.find?_map, named?]
  simp only [Text.sameLetters, beq_eq_decide]
  cases (aliases : List (String × τ)).find? fun entry =>
      Text.lowered entry.1 = Text.lowered core with
  | some entry => rfl
  | none =>
    -- A tag stands beside its name in the table, so the entry found is left out again.
    rw [Option.none_or, Option.map_map]
    exact Option.map_id'.symm

theorem ofName_eq (text : String) :
    (ofName text : Except InputError τ) =
      (named? (Text.trim text)).elim
        (.error (.unrecognizedName (kind τ) (Text.trim text))) .ok := by
  rw [ofName]
  cases (named? (Text.trim text) : Option τ) <;> rfl

theorem ofCode_eq (value : UInt32) :
    (ofCode value : Except InputError τ) =
      ((all : List τ).find? fun tag => code tag = value).elim
        (.error (.unrecognizedTag (kind τ) value)) .ok := by
  rw [ofCode]
  cases (all : List τ).find? fun tag => code tag = value <;> rfl

theorem standsFor_iff {others : List (String × τ)} {text : String} {tag : τ} :
    StandsFor others text tag ↔ Names others (Text.trim text) tag := by
  simp only [StandsFor, ← Text.trim_eq_iff, exists_eq_left']

namespace Lawful

variable (lawful : Lawful τ)
include lawful

theorem find?_code_eq_some_iff {value : UInt32} {tag : τ} :
    (all.find? fun other => code other = value) = some tag ↔ code tag = value := by
  rw [find?_key_eq_some_iff lawful.codes]
  exact and_iff_right (lawful.complete tag)

/-- The names of a tag are its entries in the table. -/
theorem names_iff {core : String} {tag : τ} :
    Names aliases core tag ↔
      ∃ entry ∈ spellings τ, Text.lowered entry.1 = Text.lowered core ∧ entry.2 = tag := by
  constructor
  · intro named
    cases named with
    | name same =>
      have listed := List.mem_map_of_mem (f := fun tag => (name tag, tag)) (lawful.complete tag)
      exact ⟨_, List.mem_append_right _ listed, Text.sameLetters_iff.1 same, rfl⟩
    | other listed same =>
      exact ⟨_, List.mem_append_left _ listed, Text.sameLetters_iff.1 same, rfl⟩
  · rintro ⟨⟨spelling, _⟩, mem, same, rfl⟩
    rcases List.mem_append.1 mem with further | first
    · exact .other further (Text.sameLetters_iff.2 same)
    · obtain ⟨tag, -, entry⟩ := List.mem_map.1 first
      cases entry
      exact .name (Text.sameLetters_iff.2 same)

theorem named?_eq_some_iff {core : String} {tag : τ} :
    named? core = some tag ↔ Names aliases core tag := by
  rw [named?_eq, Option.map_eq_some_iff, lawful.names_iff]
  simp only [find?_key_eq_some_iff lawful.names, and_assoc]

/-- The exact name of a tag is the name of no other one. -/
theorem exactly?_name (tag : τ) : exactly? (name tag) = some tag := by
  have lowered : ((all : List τ).map fun tag => Text.lowered (name tag)).Nodup := by
    have together := lawful.names
    rw [spellings, List.map_append, List.map_map] at together
    exact together.of_append_right
  have distinct : ((all : List τ).map name).Nodup := by
    refine List.Nodup.of_map Text.lowered ?_
    rw [List.map_map]
    exact lowered
  exact (find?_key_eq_some_iff distinct).2 ⟨lawful.complete tag, rfl⟩

/-- A tag comes back from the JSON that is written for it. -/
theorem ofJson?_toJson (tag : τ) : ofJson? (toJson tag) = some tag :=
  lawful.exactly?_name tag

/-- What is read of a lawful set of tags is exact. -/
theorem readsExactly : ReadsExactly τ aliases where
  ofCode_ok value tag := by
    rw [ofCode_eq, elim_eq_ok_iff, lawful.find?_code_eq_some_iff]
  ofCode_error value := by
    rw [ofCode_eq, elim_eq_error_iff, Option.eq_none_iff_forall_ne_some]
    exact forall_congr' fun tag => lawful.find?_code_eq_some_iff.not
  ofName_ok text tag := by
    rw [ofName_eq, elim_eq_ok_iff, lawful.named?_eq_some_iff, standsFor_iff]
  ofName_error text := by
    -- The core of the error is what is left by trimming, as no text has two cores.
    simp only [← Text.trim_eq_iff, exists_eq_left', standsFor_iff]
    rw [ofName_eq, elim_eq_error_iff, Option.eq_none_iff_forall_ne_some]
    exact forall_congr' fun tag => lawful.named?_eq_some_iff.not
  unique text first second named other := by
    rw [standsFor_iff, ← lawful.named?_eq_some_iff] at named other
    exact Option.some.inj (named.symm.trans other)
  ofCode_code tag := by
    rw [ofCode_eq, elim_eq_ok_iff, lawful.find?_code_eq_some_iff]
  ofName_name tag := by
    obtain ⟨trimmed, -⟩ := lawful.trimmed tag (lawful.complete tag)
    rw [ofName_eq, elim_eq_ok_iff, lawful.named?_eq_some_iff, trimmed]
    exact .name (Text.sameLetters_iff.2 rfl)
  ofName_label tag := by
    obtain ⟨-, trimmed⟩ := lawful.trimmed tag (lawful.complete tag)
    rw [ofName_eq, elim_eq_ok_iff, lawful.named?_eq_some_iff, trimmed]
    exact .name (lawful.labels tag (lawful.complete tag))

end Lawful

end Tag

/-! ## The four sets -/

theorem Network.lawful : Tag.Lawful Network where
  complete tag := by cases tag <;> decide

theorem TransferStatus.lawful : Tag.Lawful TransferStatus where
  complete tag := by cases tag <;> decide

theorem ConnectionStage.lawful : Tag.Lawful ConnectionStage where
  complete tag := by cases tag <;> decide

theorem DisconnectKind.lawful : Tag.Lawful DisconnectKind where
  complete tag := by cases tag <;> decide

/-- Numbers and texts are read exactly as the tags that they stand for. Only a transfer status has a
further name: a transfer that `failed` is one that errored. -/
theorem Tag.read_exactly :
    ReadsExactly Network [] ∧
      ReadsExactly TransferStatus [("failed", .errored)] ∧
      ReadsExactly ConnectionStage [] ∧
      ReadsExactly DisconnectKind [] :=
  ⟨Network.lawful.readsExactly, TransferStatus.lawful.readsExactly,
    ConnectionStage.lawful.readsExactly, DisconnectKind.lawful.readsExactly⟩

end WalletLedger
