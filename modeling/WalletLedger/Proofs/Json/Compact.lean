import WalletLedger.Proofs.Json.Token

/-!
# Reading compact JSON

What is written without blanks is read back as the value that was written,
whatever the value is: numbers of any size and any way of writing, literals that
denote no text, repeated names and any nesting. The reader takes one step for
each token (`read?_token`), and the tokens of a value take it from where a value
may begin to where this value has ended (`read?_tokens`), by induction on the
value. Main statement: `parse?_compact`.
-/

namespace WalletLedger.Json

open Text

/-! ## One token -/

/-- The text of tokens one after another. -/
def textOf (tokens : List Token) : List Char :=
  tokens.flatMap Token.text

theorem textOf_cons (token : Token) (tokens : List Token) :
    textOf (token :: tokens) = token.text ++ textOf tokens := rfl

theorem textOf_singleton (token : Token) : textOf [token] = token.text :=
  List.append_nil _

theorem textOf_append (first second : List Token) :
    textOf (first ++ second) = textOf first ++ textOf second :=
  List.flatMap_append

namespace Progress

theorem read?_nil (progress : Progress) : progress.read? [] = progress.finish? := by
  rw [read?]
  rfl

/-- A written token is one step. -/
theorem read?_token (progress : Progress) {token : Token} {rest : List Char}
    (ends : token.EndsBefore rest) :
    progress.read? (token.text ++ rest) =
      (progress.step token).bind fun next => next.read? rest := by
  have front := token.dropWhile_text_append rest
  have read := token.next?_text_append ends
  rw [Progress.read?]
  split
  · next empty =>
    rw [front] at empty
    rw [empty] at read
    cases read
  · next c others dropped =>
    rw [front] at dropped
    rw [dropped] at read
    split
    · next fails =>
      rw [read] at fails
      cases fails
    · next token' rest' reads =>
      rw [read, Option.some.injEq, Prod.mk.injEq] at reads
      obtain ⟨rfl, rfl⟩ := reads
      split
      · next stuck =>
        rw [stuck]
        rfl
      · next next' steps =>
        rw [steps]
        rfl

/-- A step that a token makes, however the text goes on. -/
theorem read?_of_step {progress next : Progress} {token : Token} {rest : List Char}
    (steps : progress.step token = some next) (ends : token.EndsBefore rest) :
    progress.read? (token.text ++ rest) = next.read? rest := by
  rw [read?_token progress ends, steps, Option.bind_some]

/-! ## Values -/

/-- A value may begin, inside certain open arrays and objects. -/
def Awaits (progress : Progress) (outer : List Frame) : Prop :=
  ∀ token, token ≠ .endArray → progress.step token = beginValue outer token

theorem awaits_needValue (outer : List Frame) : (needValue outer).Awaits outer :=
  fun _ _ => rfl

theorem awaits_firstItem (outer : List Frame) : (firstItem outer).Awaits (.items [] :: outer) := by
  intro token notEnd
  cases token with
  | endArray => exact absurd rfl notEnd
  | _ => rfl

/-- A member may begin, behind certain members of an object. -/
def AwaitsName (progress : Progress) (done : List (Literal × Value)) (outer : List Frame) : Prop :=
  ∀ name, progress.step (.string name) = some (.needColon done name outer)

/-- No number runs on into what follows an item of an array. -/
theorem endsRun_itemsTokens (items : List Value) (rest : List Char) :
    EndsRun isNumberChar (textOf (Value.itemsTokens items) ++ (Token.endArray.text ++ rest)) := by
  cases items with
  | nil => exact endsRun_cons.2 rfl
  | cons next items => exact endsRun_cons.2 rfl

/-- No number runs on into what follows a member of an object. -/
theorem endsRun_membersTokens (members : List (Literal × Value)) (rest : List Char) :
    EndsRun isNumberChar
      (textOf (Value.membersTokens members) ++ (Token.endObject.text ++ rest)) := by
  cases members with
  | nil => exact endsRun_cons.2 rfl
  | cons next members => exact endsRun_cons.2 rfl

mutual

/-- The tokens of a value lead to where it has ended. -/
theorem read?_tokens (v : Value) {progress : Progress} {outer : List Frame}
    (awaits : progress.Awaits outer) {rest : List Char} (ends : EndsRun isNumberChar rest) :
    progress.read? (textOf v.tokens ++ rest) = (haveValue v outer).read? rest := by
  cases v with
  | null =>
    rw [Value.tokens, textOf_singleton]
    exact read?_of_step (awaits .null nofun) trivial
  | boolean b =>
    rw [Value.tokens, textOf_singleton]
    exact read?_of_step (awaits (.boolean b) nofun) trivial
  | number n =>
    rw [Value.tokens, textOf_singleton]
    exact read?_of_step (awaits (.number n) nofun) ends
  | string literal =>
    rw [Value.tokens, textOf_singleton]
    exact read?_of_step (awaits (.string literal) nofun) trivial
  | array items =>
    have opens : progress.step .beginArray = some (firstItem outer) := awaits .beginArray nofun
    cases items with
    | nil =>
      rw [Value.tokens, textOf_cons, textOf_singleton, List.append_assoc,
        read?_of_step opens trivial]
      exact read?_of_step rfl trivial
    | cons first others =>
      rw [Value.tokens, textOf_append, textOf_append, textOf_cons, textOf_singleton,
        List.append_assoc, List.append_assoc, List.append_assoc, read?_of_step opens trivial,
        read?_tokens first (awaits_firstItem outer) (endsRun_itemsTokens others rest)]
      exact read?_itemsTokens others first [] outer rest
  | object members =>
    have opens : progress.step .beginObject = some (firstName outer) := awaits .beginObject nofun
    cases members with
    | nil =>
      rw [Value.tokens, textOf_cons, textOf_singleton, List.append_assoc,
        read?_of_step opens trivial]
      exact read?_of_step rfl trivial
    | cons first others =>
      have named : (firstName outer).AwaitsName [] outer := fun _ => rfl
      rw [Value.tokens, textOf_append, textOf_append, textOf_cons, textOf_singleton,
        List.append_assoc, List.append_assoc, List.append_assoc, read?_of_step opens trivial,
        read?_memberTokens first named (endsRun_membersTokens others rest)]
      exact read?_membersTokens others first [] outer rest
termination_by structural v

/-- The tokens of the further items of an array lead to the end of the array. -/
theorem read?_itemsTokens (items : List Value) (v : Value) (done : List Value)
    (outer : List Frame) (rest : List Char) :
    (haveValue v (.items done :: outer)).read?
        (textOf (Value.itemsTokens items) ++ (Token.endArray.text ++ rest)) =
      (haveValue (.array (done.reverse ++ v :: items)) outer).read? rest := by
  cases items with
  | nil =>
    rw [Value.itemsTokens, ← List.reverse_cons]
    exact read?_of_step rfl trivial
  | cons next items =>
    have separates : (haveValue v (.items done :: outer)).step .valueSeparator =
        some (needValue (.items (v :: done) :: outer)) := rfl
    rw [Value.itemsTokens, textOf_append, textOf_cons, List.append_assoc, List.append_assoc,
      read?_of_step separates trivial,
      read?_tokens next (awaits_needValue _) (endsRun_itemsTokens items rest),
      read?_itemsTokens items next (v :: done) outer rest, List.reverse_cons, List.append_assoc]
    rfl
termination_by structural items

/-- The tokens of the further members of an object lead to the end of the object. -/
theorem read?_membersTokens (members : List (Literal × Value)) (member : Literal × Value)
    (done : List (Literal × Value)) (outer : List Frame) (rest : List Char) :
    (haveValue member.2 (.members done member.1 :: outer)).read?
        (textOf (Value.membersTokens members) ++ (Token.endObject.text ++ rest)) =
      (haveValue (.object (done.reverse ++ member :: members)) outer).read? rest := by
  cases members with
  | nil =>
    rw [Value.membersTokens, ← List.reverse_cons]
    exact read?_of_step rfl trivial
  | cons next members =>
    have separates : (haveValue member.2 (.members done member.1 :: outer)).step .valueSeparator =
        some (needName (member :: done) outer) := rfl
    have named : (needName (member :: done) outer).AwaitsName (member :: done) outer :=
      fun _ => rfl
    rw [Value.membersTokens, textOf_append, textOf_cons, List.append_assoc, List.append_assoc,
      read?_of_step separates trivial,
      read?_memberTokens next named (endsRun_membersTokens members rest),
      read?_membersTokens members next (member :: done) outer rest, List.reverse_cons,
      List.append_assoc]
    rfl
termination_by structural members

/-- The tokens of a member lead to where its value has ended. -/
theorem read?_memberTokens (member : Literal × Value) {progress : Progress}
    {done : List (Literal × Value)} {outer : List Frame} (awaits : progress.AwaitsName done outer)
    {rest : List Char} (ends : EndsRun isNumberChar rest) :
    progress.read? (textOf (Value.memberTokens member) ++ rest) =
      (haveValue member.2 (.members done member.1 :: outer)).read? rest := by
  cases member with
  | mk name v =>
    have separates : (needColon done name outer).step .nameSeparator =
        some (needValue (.members done name :: outer)) := rfl
    rw [Value.memberTokens, textOf_cons, textOf_cons, List.append_assoc, List.append_assoc,
      read?_of_step (awaits name) trivial, read?_of_step separates trivial]
    exact read?_tokens v (awaits_needValue _) ends
termination_by structural member

end

end Progress

/-- Every value is read back from its compact text. -/
theorem parse?_compact (v : Value) : parse? v.compact = some v := by
  have read := Progress.read?_tokens v (Progress.awaits_needValue []) endsRun_nil
  rw [List.append_nil, Progress.read?_nil] at read
  rw [parse?, Value.compact, String.toList_ofList]
  exact read

end WalletLedger.Json
