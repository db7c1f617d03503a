import WalletLedger.Network

/-!
# Configurations

What a wallet manager is set up with: its network, the addresses that the wallet
owns, how many confirmations make a transfer final, and how it writes its log.
Everything has a value of its own when nothing else is said.
-/

namespace WalletLedger

/-- The set-up of a wallet manager. -/
structure Config where
  network : Network := .btc
  addresses : List String := []
  /-- The number of confirmations to use instead of the network's own. -/
  confirmationsUntilFinal : Option UInt32 := none
  logFormat : String := "human"
  logLevel : String := "info"
deriving DecidableEq, Repr

namespace Config

/-- The configuration for a network with everything else as it is by default. -/
def forNetwork (network : Network) : Config :=
  { network }

/-- After how many confirmations a transfer is final. -/
def requiredConfirmations (config : Config) : UInt32 :=
  config.confirmationsUntilFinal.getD config.network.confirmationsUntilFinal

/-! ## As JSON -/

/-- The names of the fields, in their order. -/
def fieldNames : List String :=
  ["network", "addresses", "confirmations_until_final", "log_format", "log_level"]

/-- A configuration as JSON, without the number of confirmations if it is the network's own. -/
def toJson (config : Config) : Json.Value :=
  .ofMembers (
    [("network", Tag.toJson config.network),
     ("addresses", .array (config.addresses.map .ofText))] ++
    (config.confirmationsUntilFinal.map fun n =>
      ("confirmations_until_final", .ofNat n.toNat)).toList ++
    [("log_format", .ofText config.logFormat),
     ("log_level", .ofText config.logLevel)])

/-- The configuration that a JSON value stands for. -/
def ofJson? (v : Json.Value) : Option Config := do
  let fields ← Json.Fields.of? fieldNames v
  return {
    network := ← fields.defaulted? "network" Network.btc Tag.ofJson?
    addresses := ← fields.defaulted? "addresses" [] (Json.Value.list? Json.Value.text?)
    confirmationsUntilFinal := ←
      fields.defaulted? "confirmations_until_final" none (Json.Value.nullable? Json.Value.uint32?)
    logFormat := ← fields.defaulted? "log_format" "human" Json.Value.text?
    logLevel := ← fields.defaulted? "log_level" "info" Json.Value.text? }

end Config

end WalletLedger
