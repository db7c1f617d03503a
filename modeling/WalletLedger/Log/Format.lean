import WalletLedger.Json.Decode
import WalletLedger.Log.Entry
import WalletLedger.Text.Letters
import WalletLedger.Text.Quoted

/-!
# Formats of log lines

A log is written for people or for machines. The name of a format is recognized
in any case, but not with blanks around it.
-/

namespace WalletLedger.Log

/-- How log lines are written. -/
inductive Format where
  | human | json
deriving DecidableEq, Repr

namespace Format

/-- The text that a user sees when there is no format of a name. -/
def unknownMessage (name : String) : String :=
  "unknown log format: " ++ Text.quoted name ++ " (expected \"human\" or \"json\")"

/-- The format of a name, or else the name as it was looked up. -/
def ofName (name : String) : Except String Format :=
  match Text.lowered name with
  | "human" | "text" => .ok human
  | "json" => .ok json
  | other => .error other

/-- The name of a format. -/
def name : Format → String
  | human => "human"
  | json => "json"

end Format

/-- One named value of a log line for people. -/
def humanField (field : String × Json.Value) : String :=
  " " ++ field.1 ++ "=" ++ field.2.text?.getD field.2.compact

/-- An entry as a line of a log. -/
def Entry.line (entry : Entry) : Format → String
  | .json => entry.toJson.compact
  | .human =>
    entry.level.name ++ " " ++ entry.target ++ ": " ++ entry.message
      ++ String.join (entry.fields.map humanField)

end WalletLedger.Log
