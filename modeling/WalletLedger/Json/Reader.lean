import WalletLedger.Json.Token

/-!
# Reading a JSON text

The tokens of a text drive a machine that remembers the open arrays and objects
and what may come next. Each token is one step, so a text of any depth is read
without recursion, and a text is refused at the first token out of place.
-/

namespace WalletLedger.Json

/-- An array or object that is still open, with what it holds so far in reverse. -/
inductive Frame where
  | items (done : List Value)
  | members (done : List (Literal × Value)) (name : Literal)
deriving Inhabited

/-- How far a text has been read, and inside which open arrays and objects. -/
inductive Progress where
  /-- A value must follow. -/
  | needValue (outer : List Frame)
  /-- An array was just opened. -/
  | firstItem (outer : List Frame)
  /-- An object was just opened. -/
  | firstName (outer : List Frame)
  /-- The name of a further member must follow. -/
  | needName (done : List (Literal × Value)) (outer : List Frame)
  /-- The separator behind a name must follow. -/
  | needColon (done : List (Literal × Value)) (name : Literal) (outer : List Frame)
  /-- A value has just ended. -/
  | haveValue (value : Value) (outer : List Frame)

/-- The blanks that JSON allows between tokens. -/
def isJsonBlank (c : Char) : Bool :=
  c = ' ' || c = '\t' || c = '\n' || c = '\r'

/-- Begins a value with a token. -/
def beginValue (outer : List Frame) : Token → Option Progress
  | .beginArray => some (.firstItem outer)
  | .beginObject => some (.firstName outer)
  | .null => some (.haveValue .null outer)
  | .boolean b => some (.haveValue (.boolean b) outer)
  | .number n => some (.haveValue (.number n) outer)
  | .string literal => some (.haveValue (.string literal) outer)
  | _ => none

/-- Goes on after a value with a token. -/
def endValue (value : Value) : List Frame → Token → Option Progress
  | .items done :: outer, .valueSeparator => some (.needValue (.items (value :: done) :: outer))
  | .items done :: outer, .endArray => some (.haveValue (.array (value :: done).reverse) outer)
  | .members done name :: outer, .valueSeparator =>
    some (.needName ((name, value) :: done) outer)
  | .members done name :: outer, .endObject =>
    some (.haveValue (.object ((name, value) :: done).reverse) outer)
  | _, _ => none

/-- One token further. -/
def Progress.step : Progress → Token → Option Progress
  | .needValue outer, token => beginValue outer token
  | .firstItem outer, .endArray => some (.haveValue (.array []) outer)
  | .firstItem outer, token => beginValue (.items [] :: outer) token
  | .firstName outer, .endObject => some (.haveValue (.object []) outer)
  | .firstName outer, .string name => some (.needColon [] name outer)
  | .firstName _, _ => none
  | .needName done outer, .string name => some (.needColon done name outer)
  | .needName _ _, _ => none
  | .needColon done name outer, .nameSeparator => some (.needValue (.members done name :: outer))
  | .needColon _ _ _, _ => none
  | .haveValue value outer, token => endValue value outer token

/-- The value of a text that ends here. -/
def Progress.finish? : Progress → Option Value
  | .haveValue value [] => some value
  | _ => none

theorem length_dropBlanks_le (cs : List Char) : (cs.dropWhile isJsonBlank).length ≤ cs.length :=
  length_dropWhile_le isJsonBlank cs

/-- Reads the rest of a text. -/
def Progress.read? (progress : Progress) (cs : List Char) : Option Value :=
  match _dropped : cs.dropWhile isJsonBlank with
  | [] => progress.finish?
  | c :: others =>
    match _read : Token.next? (c :: others) with
    | none => none
    | some (token, rest) =>
      match progress.step token with
      | none => none
      | some next => next.read? rest
termination_by cs.length
decreasing_by
  have shorter := Token.next?_length _read
  rw [← _dropped] at shorter
  exact Nat.lt_of_lt_of_le shorter (length_dropBlanks_le cs)

/-- The value that a JSON text denotes, if it is one. -/
def parse? (text : String) : Option Value :=
  (Progress.needValue []).read? text.toList

end WalletLedger.Json
