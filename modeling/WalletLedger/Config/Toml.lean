import WalletLedger.Config.Basic
import WalletLedger.FixedWidth
import WalletLedger.Toml.Reader
import WalletLedger.Toml.Writer

/-!
# Configurations in TOML

A configuration file gives the fields of a configuration as keys of the document
and may leave out any of them. Keys that no field has are passed over.
-/

namespace WalletLedger.Config

/-! ## Reading -/

/-- The name of a member of a closed set: a text, or a table of which it is the only key. The value
under that key must be empty. -/
def bareName? : Toml.Value → Option String
  | .text name => some name
  | .table _ [(name, .array [])] => some name
  | .table _ [(name, .table _ [])] => some name
  | _ => none

/-- The network that a TOML value names exactly. -/
def networkOf? (v : Toml.Value) : Option Network :=
  (bareName? v).bind Tag.exactly?

/-- The text of a TOML value. -/
def textOf? : Toml.Value → Option String
  | .text text => some text
  | _ => none

/-- The texts of a TOML array. -/
def textsOf? : Toml.Value → Option (List String)
  | .array items => items.mapM textOf?
  | _ => none

/-- The number of a TOML integer without sign that has 32 bits. -/
def numberOf? : Toml.Value → Option UInt32
  | .integer n => FixedWidth.uint32? n
  | _ => none

/-- The value of a field, or its default. -/
def fieldOf? {α : Type} (entries : Toml.Entries) (name : String) (default : α)
    (decode : Toml.Value → Option α) : Option α :=
  match entries.lookup name with
  | some v => decode v
  | none => some default

/-- The configuration that the content of a document stands for. -/
def ofEntries? (entries : Toml.Entries) : Option Config := do
  return {
    network := ← fieldOf? entries "network" .btc networkOf?
    addresses := ← fieldOf? entries "addresses" [] textsOf?
    confirmationsUntilFinal := ←
      fieldOf? entries "confirmations_until_final" none fun v => (numberOf? v).map some
    logFormat := ← fieldOf? entries "log_format" "human" textOf?
    logLevel := ← fieldOf? entries "log_level" "info" textOf? }

/-- The configuration that a TOML text stands for. -/
def ofToml? (text : String) : Option Config :=
  (Toml.parse? text).bind ofEntries?

/-- The configuration in a file with these contents. -/
def ofFile? (contents : ByteArray) : Option Config :=
  (String.fromUTF8? contents).bind ofToml?

/-! ## Writing -/

/-- The line of the number of confirmations, if it is not the network's own. -/
def confirmationsLine (config : Config) : List Char :=
  match config.confirmationsUntilFinal with
  | some n => Toml.writePair "confirmations_until_final" (Text.numeral n.toNat)
  | none => []

/-- A configuration as TOML. -/
def toToml (config : Config) : String :=
  String.ofList (
    Toml.writePair "network" (Toml.writeText config.network.currencyCode) ++
    Toml.writePair "addresses" (Toml.writeArray (config.addresses.map Toml.writeText)) ++
    config.confirmationsLine ++
    Toml.writePair "log_format" (Toml.writeText config.logFormat) ++
    Toml.writePair "log_level" (Toml.writeText config.logLevel))

end WalletLedger.Config
