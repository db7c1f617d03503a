import WalletLedger.Config.Toml
import WalletLedger.Proofs.Json.Decode
import WalletLedger.Proofs.Tag
import WalletLedger.Proofs.Toml.Document

/-!
# Configurations in TOML come back

A configuration is written as a document with a line for each field, apart from
the number of confirmations, whose line is there only if the number is. The
entries that the document is read as hold every field, and what has no entry is
absent by default. Main statement: `Config.toml_readsBack`.
-/

namespace WalletLedger.Config

open Json (bind_of_eq_some mapM_map_eq_some)
open Toml (Line denotes_writeText denotes_writeArray denotes_numeral)

/-! ## Lines -/

/-- The line of a field that is a text. -/
def textLine (key text : String) (given : key.toList ≠ [])
    (plain : key.toList.all Toml.isKeyChar = true) : Line :=
  ⟨key, Toml.writeText text, .text text, given, plain, denotes_writeText _ text⟩

/-- The line of the addresses. -/
def addressesLine (addresses : List String) : Line where
  key := "addresses"
  written := Toml.writeArray (addresses.map Toml.writeText)
  value := .array (addresses.map .text)
  given := by decide
  plain := by decide
  denotes := denotes_writeArray (denotes_writeText _) addresses

/-- The line of a number of confirmations. -/
def numberLine (n : UInt32) : Line where
  key := "confirmations_until_final"
  written := Text.numeral n.toNat
  value := .integer n.toNat
  given := by decide
  plain := by decide
  denotes := denotes_numeral _ n.toNat_lt_size

/-- The lines of a configuration. -/
def lines (config : Config) : List Line :=
  [textLine "network" config.network.currencyCode (by decide) (by decide),
   addressesLine config.addresses] ++
  (config.confirmationsUntilFinal.map numberLine).toList ++
  [textLine "log_format" config.logFormat (by decide) (by decide),
   textLine "log_level" config.logLevel (by decide) (by decide)]

theorem toToml_eq (config : Config) :
    config.toToml = String.ofList (config.lines.flatMap Line.text) := by
  rw [toToml, confirmationsLine]
  cases confirmations : config.confirmationsUntilFinal with
  | none => simp [lines, confirmations, Line.text, textLine, addressesLine]
  | some n => simp [lines, confirmations, Line.text, textLine, addressesLine, numberLine]

/-- No two lines of a configuration have one key. -/
theorem nodup_keys_lines (config : Config) : (config.lines.map Line.key).Nodup := by
  rw [lines]
  cases config.confirmationsUntilFinal with
  | none => exact (by decide : (fieldNames.erase "confirmations_until_final").Nodup)
  | some n => exact (by decide : fieldNames.Nodup)

/-! ## Entries -/

section

variable {α : Type} {entries : Toml.Entries} {name : String} {default : α}
  {decode : Toml.Value → Option α}

theorem fieldOf?_of_lookup {v : Toml.Value} {a : α} (given : entries.lookup name = some v)
    (decodes : decode v = some a) : fieldOf? entries name default decode = some a := by
  rw [fieldOf?, given]
  exact decodes

theorem fieldOf?_of_lookup_eq_none (missing : entries.lookup name = none) :
    fieldOf? entries name default decode = some default := by
  rw [fieldOf?, missing]

end

theorem networkOf?_text (network : Network) :
    networkOf? (.text network.currencyCode) = some network :=
  Network.lawful.exactly?_name network

theorem textsOf?_map (texts : List String) :
    textsOf? (.array (texts.map .text)) = some texts := by
  have reads (text : String) : textOf? (.text text) = some text := rfl
  exact mapM_map_eq_some reads texts

theorem numberOf?_integer (n : UInt32) : numberOf? (.integer n.toNat) = some n := by
  rw [numberOf?, FixedWidth.uint32?_eq_some_iff]

/-- The entries of the lines of a configuration stand for the configuration. -/
theorem ofEntries?_lines (config : Config) :
    ofEntries? (config.lines.map Line.entry) = some config := by
  obtain ⟨network, addresses, confirmations, logFormat, logLevel⟩ := config
  let entries := (lines ⟨network, addresses, confirmations, logFormat, logLevel⟩).map Line.entry
  have net : fieldOf? entries "network" .btc networkOf? = some network :=
    fieldOf?_of_lookup rfl (networkOf?_text network)
  have owned : fieldOf? entries "addresses" [] textsOf? = some addresses :=
    fieldOf?_of_lookup rfl (textsOf?_map addresses)
  have confirmed : fieldOf? entries "confirmations_until_final" none
      (fun v => (numberOf? v).map some) = some confirmations := by
    cases confirmations with
    | none => exact fieldOf?_of_lookup_eq_none rfl
    | some n => exact fieldOf?_of_lookup rfl (congrArg (Option.map some) (numberOf?_integer n))
  have format : fieldOf? entries "log_format" "human" textOf? = some logFormat := by
    cases confirmations <;> rfl
  have level : fieldOf? entries "log_level" "info" textOf? = some logLevel := by
    cases confirmations <;> rfl
  rw [ofEntries?, bind_of_eq_some net, bind_of_eq_some owned, bind_of_eq_some confirmed,
    bind_of_eq_some format, bind_of_eq_some level]
  rfl

/-- Every configuration is read back from the text that is written for it, whatever texts it has. -/
theorem toml_readsBack (config : Config) : ofToml? config.toToml = some config := by
  rw [ofToml?, toToml_eq, Toml.parse?_lines config.nodup_keys_lines, Option.bind_some,
    ofEntries?_lines]

end WalletLedger.Config
