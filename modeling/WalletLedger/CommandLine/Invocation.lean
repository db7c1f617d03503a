import WalletLedger.CommandLine.Arguments
import WalletLedger.Connection
import WalletLedger.FixedWidth
import WalletLedger.Network
import WalletLedger.Text.Numeral
import WalletLedger.TransferStatus

/-!
# Invocations

What a command line asks for: settings that go over those of a configuration
file, and one of two commands. One command reports on a file of client records,
the other one names the tag that a number stands for.
-/

namespace WalletLedger.CommandLine

/-- A set of tags that numbers can be looked up in. -/
inductive TagSet where
  | network | transferState | disconnectReason | managerState
deriving DecidableEq, Repr

/-- What a command line asks to be done. -/
inductive Command where
  /-- To report on the records in a file, at a height or else at the highest block. -/
  | reconcile (file : String) (height : Option UInt64)
  /-- To name the tag with a number. -/
  | decode (set : TagSet) (number : UInt32)
deriving DecidableEq, Repr

/-- What goes over the configuration of a file. -/
structure Settings where
  network : Option String := none
  /-- The addresses, none if they are not given. -/
  addresses : List String := []
  logLevel : Option String := none
  logFormat : Option String := none
  configFile : Option String := none
deriving DecidableEq, Repr

/-- What a command line asks for. -/
structure Invocation extends Settings where
  command : Command
deriving DecidableEq, Repr

/-! ## Values -/

namespace TagSet

/-- The set with a name. -/
def ofName? : String → Option TagSet
  | "network" => some network
  | "transfer-state" => some transferState
  | "disconnect-reason" => some disconnectReason
  | "manager-state" => some managerState
  | _ => none

/-- How the tag with a number is shown. -/
def labelOf : TagSet → UInt32 → Except InputError String
  | network, number => (Tag.ofCode number : Except InputError Network).map Tag.label
  | transferState, number => (Tag.ofCode number : Except InputError TransferStatus).map Tag.label
  | disconnectReason, number => (Tag.ofCode number : Except InputError DisconnectKind).map Tag.label
  | managerState, number => (Tag.ofCode number : Except InputError ConnectionStage).map Tag.label

end TagSet

/-- The height that an argument gives. -/
def heightOf? (argument : String) : Option UInt64 :=
  (Text.readUnsigned? argument.toList).bind fun n => FixedWidth.uint64? n

/-- The number of a tag that an argument gives. -/
def tagNumberOf? (argument : String) : Option UInt32 :=
  (Text.readSigned? argument.toList).bind FixedWidth.uint32?

/-- The file that an argument gives. -/
def fileOf? (argument : String) : Option String :=
  if argument = "" then none else some argument

/-! ## Commands -/

/-- The arguments of the command that reconciles. -/
structure ReconcileArguments where
  file : Option String := none
  height : Option UInt64 := none

/-- The arguments of the command that decodes. -/
structure DecodeArguments where
  set : Option TagSet := none
  number : Option UInt32 := none

/-- How the arguments for reconciling are given: a file, and a height or none. -/
def ReconcileArguments.form : Form ReconcileArguments where
  options := [
    ("bundles", fun given text =>
      return { given with file := ← once given.file (fileOf? text) }),
    ("height", fun given text =>
      return { given with height := ← once given.height (heightOf? text) })]
  word? := some fun _ _ => none

/-- How the arguments for decoding are given: a set of tags, and as a word the number. -/
def DecodeArguments.form : Form DecodeArguments where
  options := [
    ("kind", fun given text =>
      return { given with set := ← once given.set (TagSet.ofName? text) })]
  word? := some fun given text =>
    return { given with number := ← once given.number (tagNumberOf? text) }

namespace Command

/-- The names of the commands. -/
def names : List String := ["reconcile", "decode", "help"]

/-- The command that a name and the arguments behind it stand for. Help is for one command or for
none. -/
def ofWords : List String → Except Refusal Command
  | "reconcile" :: arguments => do
    let (given, _) ← ReconcileArguments.form.follow {} arguments
    return .reconcile (← demand given.file) given.height
  | "decode" :: arguments => do
    let (given, _) ← DecodeArguments.form.follow {} arguments
    return .decode (← demand given.set) (← demand given.number)
  | ["help"] => .error .help
  | ["help", name] => if names.contains name then .error .help else .error .usage
  | _ => .error .usage

end Command

/-! ## Settings -/

namespace Settings

/-- How settings are given: each one once, but addresses also one after the other and between
commas. -/
def form : Form Settings where
  options := [
    ("network", fun given text => return { given with network := ← once given.network text }),
    ("address", fun given text =>
      return { given with addresses := given.addresses ++ text.splitOn "," }),
    ("log-level", fun given text => return { given with logLevel := ← once given.logLevel text }),
    ("log-format", fun given text =>
      return { given with logFormat := ← once given.logFormat text }),
    ("config", fun given text =>
      return { given with configFile := ← once given.configFile (fileOf? text) })]
  word? := none

/-- The settings with the variables of the environment in place of those that are not given. -/
def orVariables (given : Settings) (envVar? : String → Option String) : Settings :=
  let listed := (envVar? "WALLETKIT_ADDRESSES").map fun addresses => addresses.splitOn ","
  { given with
    network := given.network.or (envVar? "WALLETKIT_NETWORK")
    addresses := if given.addresses.isEmpty then listed.getD [] else given.addresses
    logLevel := given.logLevel.or (envVar? "WALLETKIT_LOG_LEVEL")
    logFormat := given.logFormat.or (envVar? "WALLETKIT_LOG_FORMAT") }

end Settings

namespace Invocation

/-- What arguments ask for, with the variables of the environment in place of options that are not
given. -/
def ofArguments (envVar? : String → Option String) (arguments : List String) :
    Except Refusal Invocation := do
  let (given, words) ← Settings.form.follow {} arguments
  let command ← Command.ofWords words
  return { toSettings := given.orVariables envVar?, command }

/-- The files that an invocation reads. -/
def files (invocation : Invocation) : List String :=
  invocation.configFile.toList ++
  match invocation.command with
  | .reconcile file _ => [file]
  | .decode .. => []

end Invocation

end WalletLedger.CommandLine
