/-!
# TOML values

A document is a table. A table remembers how it came to be, because that decides
what may still be added to it. Of floats and moments nothing is kept, since no
field of this library is one.
-/

namespace WalletLedger.Toml

/-- How a table came to be. -/
inductive Origin where
  /-- It is the document, or has a header of its own. -/
  | header
  /-- It is on the way to a table that has a header. -/
  | implied
  /-- It is on the way to the value of a dotted key. -/
  | dotted
  /-- It is written on one line between braces. -/
  | braces
deriving DecidableEq, Repr

/-- A TOML value. -/
inductive Value where
  | text (text : String)
  | integer (value : Int)
  | float
  | boolean (value : Bool)
  /-- A date, a time, or both. -/
  | moment
  | array (items : List Value)
  | table (origin : Origin) (entries : List (String × Value))
  /-- An array of tables with headers, of which the last one may still grow. -/
  | tables (earlier : List (List (String × Value))) (last : List (String × Value))
deriving Repr, Inhabited

/-- The contents of a table. -/
abbrev Entries := List (String × Value)

/-- A key with the keys of the tables that lead to it. -/
structure Path where
  parents : List String
  key : String
deriving DecidableEq, Repr

/-- All keys of a path. -/
def Path.keys (path : Path) : List String :=
  path.parents ++ [path.key]

end WalletLedger.Toml
