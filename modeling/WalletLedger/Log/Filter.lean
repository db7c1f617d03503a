import WalletLedger.Log.Directive

/-!
# Log filters

A filter is a list of directives between commas. Of the directives that are about
an entry the one that asks for most decides, and nothing passes if none is about
it.
-/

namespace WalletLedger.Log

/-- The directives that decide which entries are written. -/
structure Filter where
  directives : List Directive
deriving DecidableEq, Repr

namespace Filter

/-- The filter that lets only errors pass. -/
def errorsOnly : Filter := ⟨[⟨"", .always, Level.error.rank⟩]⟩

/-- The filter that a text stands for; without directives only errors pass. -/
def ofText (text : String) : Except DirectiveError Filter := do
  let texts := (text.splitOn ",").filter (· ≠ "")
  let directives ← texts.mapM fun part => Directive.ofText part.toList
  return if directives.isEmpty then errorsOnly else ⟨directives⟩

/-- The directive that decides after one more has been looked at. -/
def decisive (earlier : Option Directive) (directive : Directive) : Option Directive :=
  match earlier with
  | none => some directive
  | some other => some (if directive.replaces other then directive else other)

/-- The directive that decides about an entry. -/
def directiveFor? (filter : Filter) (entry : Entry) : Option Directive :=
  (filter.directives.filter fun directive => directive.applies entry).foldl decisive none

/-- Whether an entry is written. -/
def passes (filter : Filter) (entry : Entry) : Bool :=
  (filter.directiveFor? entry).any fun directive => entry.level.rank ≤ directive.limit

end Filter

end WalletLedger.Log
