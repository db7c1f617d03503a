import WalletLedger.Json.Writer

/-!
# Log entries

What a program says about its work: how important it is, which part of the
program says it, a message, and named values beside it.
-/

namespace WalletLedger.Log

/-- How important an entry is. -/
inductive Level where
  | error | warn | info | debug | trace
deriving DecidableEq, Repr

namespace Level

/-- The name of a level in log lines. -/
def name : Level → String
  | error => "ERROR"
  | warn => "WARN"
  | info => "INFO"
  | debug => "DEBUG"
  | trace => "TRACE"

/-- How many levels are at least as important as this one. -/
def rank : Level → Nat
  | error => 1
  | warn => 2
  | info => 3
  | debug => 4
  | trace => 5

end Level

/-- An entry of a log. -/
structure Entry where
  level : Level
  /-- The part of the program that speaks. -/
  target : String
  message : String
  fields : List (String × Json.Value)

/-- The parts of a log line as JSON. -/
def Entry.toJson (entry : Entry) : Json.Value :=
  .ofMembers [
    ("level", .ofText entry.level.name),
    ("fields", .ofMembers (("message", .ofText entry.message) :: entry.fields)),
    ("target", .ofText entry.target)]

end WalletLedger.Log
