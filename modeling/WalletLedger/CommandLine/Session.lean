import WalletLedger.CommandLine.Invocation
import WalletLedger.Config.Toml
import WalletLedger.Json.Reader
import WalletLedger.Log.Filter
import WalletLedger.Log.Format
import WalletLedger.Report

/-!
# Sessions

A session is one run of the program: from the arguments, the variables of the
environment and the files to what is printed, what is logged, and how it ends. A
session fails at the first thing that is wrong, and what it logged before stays.
-/

namespace WalletLedger.CommandLine

open Log (Logged)

/-- What a session finds around it: variables, and files by their paths. -/
structure Environment where
  envVar? : String → Option String
  file? : String → Option ByteArray

/-- Why a session fails, and with which exit code. -/
structure Failure where
  exitCode : Nat
  message : String

namespace Failure

/-- The failure with a message. -/
def ofMessage (message : String) : Failure := ⟨1, message⟩

/-- The failure because of a log filter. One that would split a character breaks the session off. -/
def ofDirectiveError : Log.DirectiveError → Failure
  | .malformed => ofMessage "invalid log filter: invalid filter directive"
  | .unknownLevel =>
    ofMessage ("invalid log filter: error parsing level filter: expected one of "
      ++ "\"off\", \"error\", \"warn\", \"info\", \"debug\", \"trace\", or a number 0-5")
  | .unusablePattern .malformed =>
    ofMessage "invalid log filter: invalid field filter: error building NFA"
  | .unusablePattern .wordBoundary =>
    ofMessage ("invalid log filter: invalid field filter: unsupported regex feature for DFAs: "
      ++ "cannot build DFAs for regexes with Unicode word boundaries; switch to ASCII word "
      ++ "boundaries, or heuristically enable Unicode word boundaries or use a different regex "
      ++ "engine")
  | .splitCharacter => ⟨101, "invalid log filter: a part of it splits a character"⟩

end Failure

/-- What comes of a session. -/
structure Outcome where
  /-- Zero for success, two if the arguments are not as they should be, and one or more than two for
  failure. -/
  exitCode : Nat
  /-- What is printed. -/
  output : String
  /-- Why the session failed. -/
  error : Option String
  logFormat : Log.Format
  /-- The log entries that passed the filter. -/
  log : List Log.Entry

/-! ## Set-up -/

/-- An answer, or else a message. -/
def orFail {α : Type} (message : String) : Option α → Except String α
  | some a => .ok a
  | none => .error message

/-- The configuration of an invocation: that of its file, with its own settings over it. -/
def configOf (environment : Environment) (invocation : Invocation) : Except String Config := do
  let base ← match invocation.configFile with
    | some file =>
      orFail ("loading config " ++ file) ((environment.file? file).bind Config.ofFile?)
    | none => pure {}
  let network ← match invocation.network with
    | some name => ((Tag.ofName name : Except InputError Network).mapError InputError.message)
    | none => pure base.network
  return { base with
    network
    addresses := if invocation.addresses.isEmpty then base.addresses else invocation.addresses
    logLevel := invocation.logLevel.getD base.logLevel
    logFormat := invocation.logFormat.getD base.logFormat }

/-- The format of the log. -/
def logFormatOf (config : Config) : Except String Log.Format :=
  (Log.Format.ofName config.logFormat).mapError Log.Format.unknownMessage

/-- The filter of the log: that of the environment, if it has one, or else that of the
configuration. -/
def logFilterOf (environment : Environment) (config : Config) : Except Failure Log.Filter :=
  let text := match environment.envVar? "RUST_LOG" with
    | none | some "" => config.logLevel
    | some directives => directives
  (Log.Filter.ofText text).mapError Failure.ofDirectiveError

/-! ## Commands -/

/-- The log entry for a file that has been read. -/
def loaded (count : Nat) (file : String) : Log.Entry where
  level := .info
  target := "walletkit"
  message := "loaded transfer records"
  fields := [("count", .ofNat count), ("file", .ofText file)]

/-- The records in a file. -/
def recordsIn (environment : Environment) (file : String) :
    Except String (List ClientRecord) := do
  let text ← orFail ("reading " ++ file) ((environment.file? file).bind String.fromUTF8?)
  orFail ("parsing " ++ file)
    ((Json.parse? text).bind (Json.Value.list? ClientRecord.ofJson?))

/-- A logged answer with the messages of its errors. -/
def withMessages {α : Type} (logged : Logged ManagerError α) : Logged String α :=
  ⟨logged.result.mapError ManagerError.message, logged.entries⟩

/-- What reconciling prints. -/
def reconcile (environment : Environment) (config : Config) (file : String)
    (height : Option UInt64) : Logged String String :=
  if config.addresses.isEmpty then
    .ofResult (.error
      "no wallet addresses configured; pass --address or set them in the config file")
  else do
    let records ← Logged.ofResult (recordsIn environment file)
    Logged.say (loaded records.length file)
    let report ← withMessages (Report.ofRecords config records height)
    return report.toJson.pretty

/-- What a command prints. -/
def perform (environment : Environment) (config : Config) : Command → Logged String String
  | .reconcile file height => reconcile environment config file height
  | .decode set number => .ofResult ((set.labelOf number).mapError InputError.message)

/-! ## Sessions -/

namespace Outcome

/-- The first line of why a session failed. -/
def errorLine (outcome : Outcome) : Option String :=
  outcome.error.map fun message =>
    let line := message.toList.takeWhile (· ≠ '\n')
    String.ofList (if line.getLast? = some '\r' then line.dropLast else line)

/-- The outcome of a session that failed before it could log anything. -/
def failed (failure : Failure) : Outcome where
  exitCode := failure.exitCode
  output := ""
  error := some failure.message
  logFormat := .human
  log := []

/-- The outcome of a session that did nothing because of its arguments. -/
def refused : Refusal → Outcome
  | .help => ⟨0, "Usage: walletkit [OPTIONS] <COMMAND>\n", none, .human, []⟩
  | .usage => ⟨2, "", some "unexpected arguments; try --help", .human, []⟩

/-- The outcome of a command whose log entries go through a filter. -/
def ofLogged (format : Log.Format) (filter : Log.Filter) (logged : Logged String String) :
    Outcome :=
  let log := logged.entries.filter filter.passes
  match logged.result with
  | .ok line => ⟨0, line ++ "\n", none, format, log⟩
  | .error message => ⟨1, "", some message, format, log⟩

end Outcome

/-- Does what an invocation asks for. -/
def follow (environment : Environment) (invocation : Invocation) : Outcome :=
  let setUp : Except Failure (Config × Log.Format × Log.Filter) := do
    let config ← (configOf environment invocation).mapError .ofMessage
    let format ← (logFormatOf config).mapError .ofMessage
    let filter ← logFilterOf environment config
    return (config, format, filter)
  match setUp with
  | .error failure => .failed failure
  | .ok (config, format, filter) =>
    .ofLogged format filter (perform environment config invocation.command)

/-- A whole session. -/
def run (environment : Environment) (arguments : List String) : Outcome :=
  match Invocation.ofArguments environment.envVar? arguments with
  | .error refusal => .refused refusal
  | .ok invocation => follow environment invocation

end WalletLedger.CommandLine
