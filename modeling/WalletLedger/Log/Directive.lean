import WalletLedger.Log.Entry
import WalletLedger.Pattern.Reader
import WalletLedger.Text.Alphanumeric
import WalletLedger.Text.Blank
import WalletLedger.Text.Letters
import WalletLedger.Text.Numeral
import WalletLedger.Text.Slice

/-!
# Directives

A directive says which entries of a log pass. It is a level, the least important
one that passes of all entries; or a target, a condition in brackets, or both,
with a level behind an equals sign or without one. It is about the entries whose
target begins with its own and that meet its condition. A condition may compare
values with a number or with a pattern.

A text is searched for the parts of a directive as if there were no blanks
around it, but the parts are then cut from the text with the blanks, at the same
distances in bytes from its start.
-/

namespace WalletLedger.Log

/-- What a directive asks of entries beside their target. -/
inductive Condition where
  /-- Nothing. -/
  | always
  /-- That they have a value of a certain name. -/
  | hasField (name : String)
  /-- That they are made within a named span of work. The program has no such spans. -/
  | withinSpan
deriving DecidableEq, Repr

/-- What passes of some entries. -/
structure Directive where
  /-- The text that begins the targets; empty for all entries. -/
  target : String
  condition : Condition
  /-- How many levels pass, the most important ones first. -/
  limit : Nat
deriving DecidableEq, Repr

/-- Why a text is no directive. -/
inductive DirectiveError where
  /-- It has not the form of one. -/
  | malformed
  /-- What stands behind the equals sign is no level. -/
  | unknownLevel
  /-- What a value is compared with has a fault as a pattern. -/
  | unusablePattern (fault : Pattern.Fault)
  /-- One of its parts would have to begin or end inside of a character. -/
  | splitCharacter
deriving DecidableEq, Repr

/-! ## What directives are about -/

/-- Whether an entry meets a condition. Its message is a value, too. -/
def Condition.isMet (entry : Entry) : Condition → Bool
  | always => true
  | hasField name => name = "message" || entry.fields.any fun field => field.1 = name
  | withinSpan => false

/-- Whether a condition is not before another one. One that asks for nothing is before all that name
a value, and these are ordered by the names. -/
def Condition.isAtLeast : Condition → Condition → Bool
  | hasField name, hasField other => other ≤ name
  | _, hasField _ => false
  | _, _ => true

namespace Directive

/-- Whether a directive is about an entry. -/
def applies (directive : Directive) (entry : Entry) : Bool :=
  directive.target.toList.isPrefixOf entry.target.toList && directive.condition.isMet entry

/-- Whether a directive takes the place of an earlier one that is about the same entry: if its
target is longer, or as long and its condition is not before the other one. -/
def replaces (directive earlier : Directive) : Bool :=
  earlier.target.length < directive.target.length
    || (earlier.target.length = directive.target.length
      && directive.condition.isAtLeast earlier.condition)

/-! ## Levels -/

/-- How many levels there are to pass. -/
def everything : Nat := Level.trace.rank

/-- How many levels a word lets pass: those down to the named one, by its name in any case or by its
number. -/
def limit? (word : List Char) : Option Nat :=
  match Text.readUnsigned? word with
  | some number => if number ≤ everything then some number else none
  | none =>
    match Text.lowered (String.ofList word) with
    | "off" => some 0
    | "error" => some Level.error.rank
    | "warn" => some Level.warn.rank
    | "info" => some Level.info.rank
    | "debug" => some Level.debug.rank
    | "trace" => some Level.trace.rank
    | _ => none

/-- The directive that a word stands for: a level, or else a target of which everything passes. -/
def ofWord (word : List Char) : Directive :=
  match limit? word with
  | some limit => ⟨"", .always, limit⟩
  | none => ⟨String.ofList word, .always, everything⟩

/-! ## Reading -/

/-- What is at a distance from the start of a text: the distance, and the characters from there to
the blanks at the end. -/
structure Place where
  distance : Nat
  ahead : List Char

/-- The place behind some characters that are ahead and one more, which has one byte. -/
def Place.behind (place : Place) (passed rest : List Char) : Place :=
  ⟨place.distance + Text.byteSize passed + 1, rest⟩

/-- A part of a text, or the error that there is none. -/
def cut (part : Option (List Char)) : Except DirectiveError (List Char) :=
  match part with
  | some cs => .ok cs
  | none => .error .splitCharacter

/-- The part of a text that consists of characters ahead. -/
def partAt (text : List Char) (place : Place) (cs : List Char) :
    Except DirectiveError (List Char) :=
  cut (Text.slice? place.distance (place.distance + Text.byteSize cs) text)

/-- Reads a level behind an equals sign. Without either, everything passes. -/
def readLimit (text : List Char) (place : Place) : Except DirectiveError Nat :=
  match place.ahead with
  | [] => .ok everything
  | '=' :: _ => do
    let word ← cut (Text.dropBytes? (place.distance + 1) text)
    if word.isEmpty then return everything
    match limit? word with
    | some limit => return limit
    | none => throw .unknownLevel
  | _ => .error .malformed

/-- The condition with a span and with what is in its braces: the name of a value, and what a value
of a span is compared with. -/
def conditionOf (span field : List Char) : Condition :=
  if span.isEmpty && !field.contains '=' then .hasField (String.ofList field) else .withinSpan

/-- What a value is compared with: what is between the first equals sign of what is in braces and
the second one. -/
def comparand? (field : List Char) : Option (List Char) :=
  match field.dropWhile (· ≠ '=') with
  | _ :: behind => some (behind.takeWhile (· ≠ '='))
  | [] => none

/-- Accepts what is in braces if a value is compared with nothing, a number or a pattern. -/
def checkComparand (field : List Char) : Except DirectiveError Unit :=
  match comparand? field with
  | some text =>
    if Text.isNumber text then .ok ()
    else match Pattern.fault? text with
      | some fault => .error (.unusablePattern fault)
      | none => .ok ()
  | none => .ok ()

/-- Reads a condition from behind its opening bracket: the name of a span, braces, or both. -/
def readCondition (text : List Char) (place : Place) :
    Except DirectiveError (Condition × Place) := do
  let name := place.ahead.takeWhile fun c => c ≠ ']' && c ≠ '\x7b'
  match place.ahead.drop name.length with
  | ']' :: rest =>
    let _ ← partAt text place name
    return (.withinSpan, place.behind name rest)
  | '\x7b' :: rest =>
    let span ← partAt text place name
    let place := place.behind name rest
    let name := place.ahead.takeWhile (· ≠ '\x7d')
    match place.ahead.drop name.length with
    | '\x7d' :: rest =>
      let field ← partAt text place name
      if field.isEmpty then throw .malformed
      checkComparand field
      match rest with
      | ']' :: rest => return (conditionOf span field, (place.behind name rest).behind [] rest)
      | _ => throw .malformed
    | _ => throw .malformed
  | _ => throw .malformed

/-- Whether a target may begin with a character. -/
def isInitial (c : Char) : Bool :=
  Text.isAlphanumeric c || c = '_' || c = ':' || c = '-'

/-- Reads what is behind a target. -/
def readRest (text target : List Char) (place : Place) : Except DirectiveError Directive :=
  match place.ahead with
  | '[' :: rest => do
    let (condition, place) ← readCondition text (place.behind [] rest)
    return ⟨String.ofList target, condition, ← readLimit text place⟩
  | _ => do return ⟨String.ofList target, .always, ← readLimit text place⟩

/-- The directive that a text stands for. -/
def ofText (text : List Char) : Except DirectiveError Directive :=
  let start : Place := ⟨0, Text.trimRight (text.dropWhile Text.isBlank)⟩
  let name := start.ahead.takeWhile fun c => c ≠ '=' && c ≠ '['
  let rest := start.ahead.drop name.length
  match name with
  | [] => if rest.head? = some '[' then readRest text [] start else .error .malformed
  | first :: _ =>
    if !isInitial first then .error .malformed
    else if rest.isEmpty then .ok (ofWord text)
    else do readRest text (← partAt text start name) ⟨Text.byteSize name, rest⟩

end Directive

end WalletLedger.Log
