import WalletLedger.Toml.Value

/-!
# Building TOML tables

A value is put under a path of keys, and a header opens the table of a path. The
tables on the way are made as needed, or entered if that is allowed: a table
between braces is closed for good, and a dotted key enters no table that has a
header of its own. Nothing is ever put in the place of something else.
-/

namespace WalletLedger.Toml

namespace Entries

/-- The entries with another value under a key that is among them. -/
def replace (key : String) (v : Value) (entries : Entries) : Entries :=
  entries.map fun entry => if entry.1 = key then (key, v) else entry

/-- The entries with a value under a key, if the key is new. -/
def add? (key : String) (v : Value) (entries : Entries) : Option Entries :=
  match entries.lookup key with
  | none => some (entries ++ [(key, v)])
  | some _ => none

/-- The origin of the tables that are made on the way. -/
def newOrigin (byDots : Bool) : Origin :=
  if byDots then .dotted else .implied

/-- Whether a table of an origin may be entered. -/
def mayEnter (byDots : Bool) : Origin → Bool
  | .header => !byDots
  | .implied | .dotted => true
  | .braces => false

/-- Changes the table at the end of a path of keys, which starts in a table of an origin. -/
def alter? (byDots : Bool) (change : Origin → Entries → Option Entries) (origin : Origin)
    (entries : Entries) : List String → Option Entries
  | [] => change origin entries
  | key :: keys =>
    match entries.lookup key with
    | none => do
      let made ← alter? byDots change (newOrigin byDots) [] keys
      return entries ++ [(key, .table (newOrigin byDots) made)]
    | some (.table origin inner) =>
      if mayEnter byDots origin then do
        let changed ← alter? byDots change origin inner keys
        return replace key (.table origin changed) entries
      else none
    | some (.tables earlier last) => do
      let changed ← alter? byDots change .header last keys
      return replace key (.tables earlier changed) entries
    | some _ => none

/-- Puts a value under a path. Behind dots it goes only into a table that dots have made. -/
def put? (path : Path) (v : Value) (origin : Origin) (entries : Entries) : Option Entries :=
  let change (reached : Origin) (inner : Entries) : Option Entries :=
    if path.parents ≠ [] ∧ reached ≠ .dotted then none else add? path.key v inner
  alter? true change origin entries path.parents

/-- Opens the table with a header. A table that was only implied so far may be opened, once. -/
def open? (path : Path) (entries : Entries) : Option Entries :=
  let change (_ : Origin) (inner : Entries) : Option Entries :=
    match inner.lookup path.key with
    | some (.table .implied known) => some (replace path.key (.table .header known) inner)
    | _ => add? path.key (.table .header []) inner
  alter? false change .header entries path.parents

/-- Opens a further table of an array of tables. -/
def openNext? (path : Path) (entries : Entries) : Option Entries :=
  let change (_ : Origin) (inner : Entries) : Option Entries :=
    match inner.lookup path.key with
    | some (.tables earlier last) =>
      some (replace path.key (.tables (earlier ++ [last]) []) inner)
    | _ => add? path.key (.tables [] []) inner
  alter? false change .header entries path.parents

/-- The entries of a table between braces. -/
def ofPairs? (pairs : List (Path × Value)) : Option Entries :=
  pairs.foldlM (fun entries pair => put? pair.1 pair.2 .braces entries) []

end Entries

/-! ## Documents -/

/-- A line of a document that says something. -/
inductive Statement where
  | pair (path : Path) (value : Value)
  | opening (path : Path)
  | openingNext (path : Path)
deriving Repr

/-- A document so far, and the keys of the table that the last header opened. -/
structure Document where
  entries : Entries
  current : List String

namespace Document

/-- The document without content. -/
def empty : Document := ⟨[], []⟩

/-- The document after a further statement. -/
def add? (document : Document) : Statement → Option Document
  | .pair path v => do
    let change (origin : Origin) (inner : Entries) := Entries.put? path v origin inner
    let entries ← Entries.alter? false change .header document.entries document.current
    return { document with entries }
  | .opening path => do
    return ⟨← Entries.open? path document.entries, path.keys⟩
  | .openingNext path => do
    return ⟨← Entries.openNext? path document.entries, path.keys⟩

/-- The content of the document that has these statements. -/
def ofStatements? (statements : List Statement) : Option Entries :=
  (statements.foldlM add? empty).map (·.entries)

end Document

end WalletLedger.Toml
