import WalletLedger.Proofs.Amount.Grammar
import WalletLedger.Proofs.Json.RoundTrip

/-!
# Reading amounts

A text is read as an amount in a named field (`parse`) or on its own (`ofText`), taken
over as one (`adopt`), or read from a JSON string, in which any character may be written
as an escape (`ofJson?`). Two of these routes have a check of their own. Each goes by the
grammar and by nothing else, so a text that is an amount by one route is the same amount
by all, and a text that is refused by one route is refused by all. Every text has a JSON
string that can be read, so where this one is refused, it is refused as an amount. An
amount has no character that JSON escapes (`IsDecimal.unescaped`), and so it is written
back as its text between two quotes.

Main statement: `DecimalAmount.accepted_by_grammar`.
-/

namespace WalletLedger

/-! ## Literals without escapes -/

namespace Json

/-- Only quotes, backslashes and control characters are escaped. -/
theorem escapedChar_of_plain {c : Char} (notQuote : c ≠ '"') (notBackslash : c ≠ '\\')
    (printed : 0x20 ≤ c.toNat) : escapedChar c = [c] := by
  have notControl (control : Char) (low : control.toNat < 0x20) : c ≠ control := by
    rintro rfl
    exact absurd printed (Nat.not_le.2 low)
  rw [escapedChar, if_neg notQuote, if_neg notBackslash, if_neg (notControl _ (by decide)),
    if_neg (notControl _ (by decide)), if_neg (notControl _ (by decide)),
    if_neg (notControl _ (by decide)), if_neg (notControl _ (by decide)),
    if_neg (Nat.not_lt.2 printed)]

/-- A text without characters to escape is written between two quotes as it is. -/
theorem compact_ofText_of_unescaped {text : String}
    (unescaped : ∀ c ∈ text.toList, escapedChar c = [c]) :
    (Value.ofText text).compact = "\"" ++ text ++ "\"" := by
  have written : text.toList.flatMap escapedChar = text.toList := by
    rw [List.flatMap_congr unescaped, List.flatMap_singleton']
  rw [Value.compact, Value.ofText, Value.tokens, List.flatMap_singleton, Token.text, literalText,
    written, ← String.toList_inj, String.toList_ofList, String.toList_append, String.toList_append]
  rfl

/-- A value whose text is known is the string literal of this text. -/
theorem Value.text?_eq_some_iff {v : Value} {text : String} :
    v.text? = some text ↔ v = ofText text := by
  cases v <;> simp [text?, ofText]

end Json

/-- An amount has no character that JSON escapes. -/
theorem IsDecimal.unescaped {cs : List Char} (decimal : IsDecimal cs) :
    ∀ c ∈ cs, Json.escapedChar c = [c] := by
  intro c mem
  by_cases digit : c.isDigit = true
  · have range := Char.isDigit_iff_toNat.1 digit
    have printed : 0x20 ≤ c.toNat := Nat.le_trans (by decide) range.1
    exact Json.escapedChar_of_plain (Text.ne_of_test digit rfl) (Text.ne_of_test digit rfl) printed
  · by_cases point : c = '.'
    · subst point
      rfl
    · exact absurd mem (decimal.not_mem (Bool.eq_false_iff.2 digit) point)

namespace DecimalAmount

/-! ## Routes -/

/-- A text that does not follow the grammar is refused, and the error has the text. -/
theorem parse_of_not_isDecimal {value : String} (ungrammatical : ¬IsDecimal value.toList)
    (field : String) : parse field value = .error (.invalidDecimal field value) := by
  rw [← isDecimal_iff] at ungrammatical
  rw [parse, dif_neg ungrammatical]

theorem toOption_adopt_eq_some_iff {text : String} {amount : DecimalAmount} :
    (adopt text).toOption = some amount ↔ amount.text = text := by
  have accepted : ofText text = .ok amount ↔ amount.text = text := parse_eq_ok_iff
  rw [adopt_eq_ofText, ← accepted]
  cases ofText text with
  | error refused => exact ⟨nofun, nofun⟩
  | ok taken => rw [Except.toOption, Option.some.injEq, Except.ok.injEq]

/-- A JSON value is read as an amount just if it is the string of the amount's text. -/
theorem ofJson?_eq_some_iff {v : Json.Value} {amount : DecimalAmount} :
    ofJson? v = some amount ↔ v = .ofText amount.text := by
  rw [ofJson?, Option.bind_eq_some_iff]
  constructor
  · rintro ⟨text, given, taken⟩
    rw [toOption_adopt_eq_some_iff.1 taken]
    exact Json.Value.text?_eq_some_iff.1 given
  · rintro rfl
    exact ⟨amount.text, rfl, toOption_adopt_eq_some_iff.2 rfl⟩

/-- The JSON string of a text that does not follow the grammar is read as no amount. -/
theorem ofJson?_of_not_isDecimal {text : String} (ungrammatical : ¬IsDecimal text.toList) :
    ofJson? (.ofText text) = none := by
  have refused : ofText text = .error _ := parse_of_not_isDecimal ungrammatical unnamed
  rw [ofJson?, Json.Value.text?_ofText, Option.bind_some, adopt_eq_ofText, refused]
  rfl

/-- A text is read as an amount by every route, and the amount keeps and writes it unchanged. -/
structure ReadAs (field text : String) (amount : DecimalAmount) : Prop where
  inField : parse field text = .ok amount
  alone : ofText text = .ok amount
  handedOver : adopt text = .ok amount
  fromOwnJson : (Json.parse? (Json.Value.ofText text).compact).bind ofJson? = some amount
  fromJson : ∀ json, (Json.parse? json).bind ofJson? = some amount ↔
    Json.parse? json = some (.ofText text)
  kept : amount.text = text
  writtenBack : amount.toJson.compact = "\"" ++ text ++ "\""

/-- A text is refused by every route. An error has the text, and the field if one was named. -/
structure Refused (field text : String) : Prop where
  inField : parse field text = .error (.invalidDecimal field text)
  alone : ofText text = .error (.invalidDecimal "decimal" text)
  handedOver : adopt text = .error (.invalidDecimal "decimal" text)
  ownJson : Json.parse? (Json.Value.ofText text).compact = some (.ofText text)
  fromOwnJson : (Json.parse? (Json.Value.ofText text).compact).bind ofJson? = none
  fromJson : ∀ json, Json.parse? json = some (.ofText text) →
    (Json.parse? json).bind ofJson? = none

theorem readAs_text (field : String) (amount : DecimalAmount) :
    ReadAs field amount.text amount where
  inField := parse_eq_ok_iff.2 rfl
  alone := amount.ofText_text
  handedOver := (adopt_eq_ofText _).trans amount.ofText_text
  fromOwnJson := Json.readsBack_of_decodes ofJson?_toJson amount
  fromJson json := by
    rw [Option.bind_eq_some_iff]
    simp only [ofJson?_eq_some_iff, exists_eq_right]
  kept := rfl
  writtenBack := Json.compact_ofText_of_unescaped amount.isDecimal_text.unescaped

theorem refused_of_not_isDecimal (field : String) {text : String}
    (ungrammatical : ¬IsDecimal text.toList) : Refused field text where
  inField := parse_of_not_isDecimal ungrammatical field
  alone := parse_of_not_isDecimal ungrammatical "decimal"
  handedOver := (adopt_eq_ofText _).trans (parse_of_not_isDecimal ungrammatical "decimal")
  ownJson := Json.parse?_compact _
  fromOwnJson := by
    rw [Json.parse?_compact, Option.bind_some]
    exact ofJson?_of_not_isDecimal ungrammatical
  fromJson json denotes := by
    rw [denotes, Option.bind_some]
    exact ofJson?_of_not_isDecimal ungrammatical

/-- A text is an amount by every route if it follows the grammar, and by none if it does not, in
whatever field it stands and however it is spelled in JSON. -/
theorem accepted_by_grammar (field text : String) :
    (IsDecimal text.toList ↔ ∃ amount, ReadAs field text amount) ∧
      (¬IsDecimal text.toList ↔ Refused field text) := by
  by_cases grammatical : IsDecimal text.toList
  · have taken := readAs_text field ⟨text, isDecimal_iff.2 grammatical⟩
    refine ⟨iff_of_true grammatical ⟨_, taken⟩, iff_of_false (not_not_intro grammatical) ?_⟩
    intro refused
    cases taken.alone.symm.trans refused.alone
  · have refused : Refused field text := refused_of_not_isDecimal field grammatical
    refine ⟨iff_of_false grammatical ?_, iff_of_true grammatical refused⟩
    rintro ⟨amount, taken⟩
    cases taken.alone.symm.trans refused.alone

end DecimalAmount

end WalletLedger
