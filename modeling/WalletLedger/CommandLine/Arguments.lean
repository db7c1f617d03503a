/-!
# Arguments of a command line

Arguments are options with a value and words without one. An option is written
with two dashes, and its value behind an equals sign or as the next argument,
which then must not look like an option. Two dashes alone make everything behind
them a word. Arguments are followed from the first to the last, and the first one
that asks for help or is not as it should be decides, whatever is behind it.
-/

namespace WalletLedger.CommandLine

/-- Why arguments are not followed. -/
inductive Refusal where
  /-- They ask for help. -/
  | help
  /-- They are not as they should be. -/
  | usage
deriving DecidableEq, Repr

/-- What a single argument is. -/
inductive Argument where
  /-- An option with its value. -/
  | option (name value : String)
  /-- An option whose value is the next argument. -/
  | opening (name : String)
  | word
  /-- Two dashes alone. -/
  | escape
  | help
  | unknown
deriving DecidableEq, Repr

namespace Argument

/-- Whether an argument begins like an option. -/
def looksLikeOption (argument : String) : Bool :=
  match argument.toList with
  | '-' :: _ :: _ => true
  | _ => false

/-- What the characters behind two dashes are, given the names of the options. -/
def ofLong (known : List String) (cs : List Char) : Argument :=
  let name := String.ofList (cs.takeWhile (· ≠ '='))
  match cs.dropWhile (· ≠ '=') with
  | [] =>
    if known.contains name then .opening name
    else if name = "help" then .help
    else .unknown
  | _ :: value => if known.contains name then .option name (String.ofList value) else .unknown

/-- What an argument is, given the names of the options. Behind a single dash the first letter
decides. -/
def ofText (known : List String) (argument : String) : Argument :=
  match argument.toList with
  | ['-', '-'] => .escape
  | '-' :: '-' :: cs => ofLong known cs
  | '-' :: 'h' :: _ => .help
  | '-' :: _ :: _ => .unknown
  | _ => .word

end Argument

/-! ## Following arguments -/

/-- Whatever satisfies a test, or a refusal. -/
def demand {α : Type} : Option α → Except Refusal α
  | some a => .ok a
  | none => .error .usage

/-- What arguments do to a value that they give in parts. -/
structure Form (α : Type) where
  /-- The options by their names, with what the value of each one does, or `none` if the option must
  not have that value. -/
  options : List (String × (α → String → Option α))
  /-- What a word does, or `none` if it must not stand there. Without this the first word begins the
  arguments of a command. -/
  word? : Option (α → String → Option α)

namespace Form

variable {α : Type}

/-- Takes in the value of an option. -/
def addOption (form : Form α) (a : α) (name value : String) : Except Refusal α :=
  demand ((form.options.lookup name).bind fun add => add a value)

/-- Takes in the words behind two dashes, where a command cannot begin. -/
def addWords (form : Form α) (a : α) (words : List String) : Except Refusal α :=
  match form.word? with
  | some add => demand (words.foldlM add a)
  | none => .error .usage

/-- Takes in arguments, and gives those that are left for a command. -/
def follow (form : Form α) (a : α) : List String → Except Refusal (α × List String)
  | [] => .ok (a, [])
  | argument :: rest =>
    match Argument.ofText (form.options.map (·.1)) argument with
    | .option name value => do form.follow (← form.addOption a name value) rest
    | .opening name =>
      match rest with
      | [] => .error .usage
      | value :: rest =>
        if Argument.looksLikeOption value then .error .usage
        else do form.follow (← form.addOption a name value) rest
    | .word =>
      match form.word? with
      | some add => do form.follow (← demand (add a argument)) rest
      | none => .ok (a, argument :: rest)
    | .escape => (form.addWords a rest).map (·, [])
    | .help => .error .help
    | .unknown => .error .usage

end Form

/-- A part that can be given once: there must be none yet, and the new one must have been read. -/
def once {α : Type} (given read : Option α) : Option (Option α) :=
  if given.isSome then none else read.map some

end WalletLedger.CommandLine
