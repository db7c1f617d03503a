import WalletLedger.Toml.Text

/-!
# Writing TOML

A value is written under a key without quotes, on a line of its own. An array of
more than one item has every item on a line of its own, with a comma behind it.
-/

namespace WalletLedger.Toml

/-- The items of an array, each on a line of its own. -/
def writeItemLines (items : List (List Char)) : List Char :=
  items.flatMap fun item => [' ', ' ', ' ', ' '] ++ item ++ [',', '\n']

/-- An array of written items. -/
def writeArray : List (List Char) → List Char
  | [] => ['[', ']']
  | [item] => '[' :: item ++ [']']
  | items => '[' :: '\n' :: writeItemLines items ++ [']']

/-- The line that gives a written value to a key. -/
def writePair (key : String) (value : List Char) : List Char :=
  key.toList ++ [' ', '=', ' '] ++ value ++ ['\n']

end WalletLedger.Toml
