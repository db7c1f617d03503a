import WalletLedger.CommandLine.Session

/-!
# The program

Collects the arguments, the variables of the environment and the files that a
session needs, and prints what comes of it.
-/

namespace WalletLedger.CommandLine

/-- The variables that a session may look at. -/
def variableNames : List String :=
  ["WALLETKIT_NETWORK", "WALLETKIT_ADDRESSES", "WALLETKIT_LOG_LEVEL", "WALLETKIT_LOG_FORMAT",
   "RUST_LOG"]

/-- The variables of the environment that are set. -/
def readVariables : IO (List (String × String)) :=
  variableNames.filterMapM fun name => do
    return (← IO.getEnv name).map (name, ·)

/-- The files that can be read. -/
def readFiles (names : List String) : IO (List (String × ByteArray)) :=
  names.filterMapM fun (name : String) => do
    try return some (name, ← IO.FS.readBinFile name)
    catch _ => return none

/-- Runs a session and prints its log, its output and its error. -/
def execute (arguments : List String) : IO UInt32 := do
  let environment ← readVariables
  let envVar? (name : String) := environment.lookup name
  let files ← match Invocation.ofArguments envVar? arguments with
    | .ok invocation => readFiles invocation.files
    | .error _ => pure []
  let outcome := run ⟨envVar?, fun name => files.lookup name⟩ arguments
  for entry in outcome.log do
    IO.println (entry.line outcome.logFormat)
  IO.print outcome.output
  if let some message := outcome.error then
    IO.eprintln s!"Error: {message}"
  return outcome.exitCode.toUInt32

end WalletLedger.CommandLine

/-- The entry point of the program. -/
def main (arguments : List String) : IO UInt32 :=
  WalletLedger.CommandLine.execute arguments
