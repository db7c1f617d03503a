import WalletLedger.Proofs.Text.Run
import WalletLedger.Toml.Text

/-!
# Reading written TOML texts

A text in any style is read back, whatever characters it has. What stands
between the quotes is described by a relation, `Written`: characters in forms
that are read one by one, and quotes that stand for themselves, of which there
are at most two in a row. Reading inverts the relation (`readElements_written`):
the delicate place is the end, where quotes of the text meet the closing ones.
Both ways of writing satisfy it (`written_basicBody`, `written_literalBody`).

Main statement: `readText_writeText`.
-/

namespace WalletLedger.Toml

open Text

/-! ## Quotes -/

namespace TextStyle

variable {style : TextStyle}

theorem quote_of_hasEscapes (escapes : style.hasEscapes = true) : style.quote = '"' := by
  cases style <;> first | rfl | cases escapes

theorem quotes_of_isMultiline (multiline : style.isMultiline = true) :
    style.quotes = [style.quote, style.quote, style.quote] := by
  rw [quotes, if_pos multiline]
  rfl

theorem quotes_of_not_isMultiline (single : style.isMultiline = false) :
    style.quotes = [style.quote] := by
  rw [quotes, single]
  rfl

/-- A quote is a plain character other than the backslash. -/
theorem quote_plain (style : TextStyle) : isPlain style.quote = true ∧ style.quote ≠ '\\' := by
  cases style <;> decide

end TextStyle

/-! ## Single elements -/

variable {style : TextStyle}

/-- A line ends with a line feed or with a carriage return and a line feed. -/
theorem first_of_afterLineEnd? {c : Char} {cs rest : List Char}
    (ends : afterLineEnd? (c :: cs) = some rest) : c = '\n' ∨ c = '\r' := by
  unfold afterLineEnd? at ends
  split at ends <;> simp_all

/-- A line end inside a text on several lines is a line feed of the text. -/
theorem readElement_lineEnd (multiline : style.isMultiline = true) {cs rest : List Char}
    (ends : afterLineEnd? cs = some rest) : readElement style cs = some (.chars ['\n'], rest) := by
  unfold afterLineEnd? at ends
  split at ends
  · cases ends
    cases style <;> first | rfl | cases multiline
  · cases ends
    cases style <;> first | rfl | cases multiline
  · cases ends

/-- A written form is read as one character, and is told from a quote by its first one. -/
structure Spells (style : TextStyle) (form : List Char) (c : Char) : Prop where
  reads : ∀ rest, readElement style (form ++ rest) = some (.chars [c], rest)
  unquoted : ∃ first others, form = first :: others ∧ first ≠ style.quote

/-- A plain character stands for itself if it is neither a quote nor the beginning of an escape. -/
theorem spells_self {c : Char} (plain : isPlain c = true) (other : c ≠ style.quote)
    (unescaped : (c = '\\' && style.hasEscapes) = false) : Spells style [c] c where
  reads rest := by
    rw [List.singleton_append, readElement, if_neg other, unescaped, if_neg Bool.false_ne_true,
      if_pos plain]
  unquoted := ⟨c, [], rfl, other⟩

theorem spells_lineFeed (multiline : style.isMultiline = true) : Spells style ['\n'] '\n' where
  reads rest := readElement_lineEnd multiline rfl
  unquoted := ⟨'\n', [], rfl, by cases style <;> decide⟩

/-- A backslash makes an escape of what can be read as one. -/
theorem spells_escape (escapes : style.hasEscapes = true) {letter : Char} {code : List Char}
    {c : Char} (reads : ∀ rest, readEscape (letter :: (code ++ rest)) = some (c, rest))
    (dark : isSpace letter = false) (unbroken : letter ≠ '\n' ∧ letter ≠ '\r') :
    Spells style ('\\' :: letter :: code) c where
  reads rest := by
    have sameLine : afterEscapedLine? (letter :: (code ++ rest)) = none := by
      rw [afterEscapedLine?, skipSpaces, List.dropWhile_cons_of_neg (by simp [dark]),
        Option.map_eq_none_iff, Option.eq_none_iff_forall_ne_some]
      exact fun _ ends => (first_of_afterLineEnd? ends).elim unbroken.1 unbroken.2
    rw [List.cons_append, List.cons_append, readElement, if_neg style.quote_plain.2.symm,
      escapes, sameLine, ite_self, reads]
    rfl
  unquoted := ⟨'\\', letter :: code, rfl, style.quote_plain.2.symm⟩

theorem spells_short (escapes : style.hasEscapes = true) {letter c : Char}
    (means : shortEscape? letter = some c) : Spells style ['\\', letter] c := by
  have other {d : Char} (meaningless : shortEscape? d = none) : letter ≠ d :=
    ne_of_apply_ne shortEscape? (by rw [means, meaningless]; exact Option.some_ne_none c)
  have noSpace : letter ≠ ' ' := other rfl
  have noTab : letter ≠ '\t' := other rfl
  refine spells_escape escapes (fun rest => ?_) (by simp [isSpace, noSpace, noTab])
    ⟨other rfl, other rfl⟩
  unfold readEscape
  split
  · next code => exact absurd (List.cons.inj code).1 (other rfl)
  · next code => exact absurd (List.cons.inj code).1 (other rfl)
  · next same =>
    obtain ⟨rfl, rfl⟩ := List.cons.inj same
    rw [means]
    rfl
  · next same => cases same

/-- What needs a code is a character of the ASCII range. -/
theorem toNat_lt_of_needsCode {c : Char} (needs : needsCode c = true) : c.toNat < 128 := by
  simp only [needsCode, isPlain, Bool.and_eq_true, Bool.not_eq_true', Bool.or_eq_false_iff,
    Bool.and_eq_false_iff, decide_eq_false_iff_not] at needs
  omega

theorem readEscape_code {c : Char} (small : c.toNat < 65536) (rest : List Char) :
    readEscape ('u' :: ((hexQuad c.toNat).map Char.toUpper ++ rest)) = some (c, rest) := by
  have value : hexValue? ((hexQuad c.toNat).map Char.toUpper) = some c.toNat :=
    hexValue?_map_hexQuad small hexDigit?_toUpper_digitChar
  have four : ((hexQuad c.toNat).map Char.toUpper).length = 4 := rfl
  have code : ((hexQuad c.toNat).map Char.toUpper ++ rest).take 4 =
      (hexQuad c.toNat).map Char.toUpper := rfl
  have behind : ((hexQuad c.toNat).map Char.toUpper ++ rest).drop 4 = rest := rfl
  rw [readEscape, readCode, code, behind, value]
  simp only [four, true_and, Char.ofNat_toNat]
  exact if_pos c.valid

/-- The form of a character other than a quote in a style with escapes. -/
theorem spells_basicChar (escapes : style.hasEscapes = true) {c : Char} (other : c ≠ '"') :
    Spells style (basicChar style.isMultiline c) c := by
  unfold basicChar
  split_ifs with b t n multiline f r backslash needs
  · rw [b]
    exact spells_short escapes rfl
  · rw [t]
    exact spells_short escapes rfl
  · rw [n]
    exact spells_lineFeed multiline
  · rw [n]
    exact spells_short escapes rfl
  · rw [f]
    exact spells_short escapes rfl
  · rw [r]
    exact spells_short escapes rfl
  · rw [backslash]
    exact spells_short escapes rfl
  · have small : c.toNat < 65536 := by
      have ascii := toNat_lt_of_needsCode needs
      omega
    exact spells_escape escapes (readEscape_code small) (by decide) (by decide)
  · have plain : isPlain c = true := by
      simpa [needsCode, n] using needs
    exact spells_self plain (TextStyle.quote_of_hasEscapes escapes ▸ other) (by simp [backslash])

/-! ## What stands between the quotes -/

/-- Characters are written in a style, behind so many quotes in a row: each in a form of its own, or
as a quote that stands for itself. -/
inductive Written (style : TextStyle) : Nat → List Char → List Char → Prop where
  | nil {inRow : Nat} : Written style inRow [] []
  | char {inRow : Nat} {c : Char} {form text body : List Char} (spells : Spells style form c)
      (others : Written style 0 text body) : Written style inRow (c :: text) (form ++ body)
  | quote {inRow : Nat} {text body : List Char} (multiline : style.isMultiline = true)
      (few : inRow < 2) (others : Written style (inRow + 1) text body) :
      Written style inRow (style.quote :: text) (style.quote :: body)

theorem written_basicBody (escapes : style.hasEscapes = true) (cs : List Char) (inRow : Nat) :
    Written style inRow cs (basicBody style.isMultiline inRow cs) := by
  induction cs generalizing inRow with
  | nil => exact .nil
  | cons c rest ih =>
    rw [basicBody]
    split
    · next isQuote =>
      subst isQuote
      split
      · next raw =>
        rw [Bool.and_eq_true, decide_eq_true_eq] at raw
        rw [← TextStyle.quote_of_hasEscapes escapes]
        exact .quote raw.1 raw.2 (ih (inRow + 1))
      · exact .char (spells_short escapes rfl) (ih 0)
    · next other => exact .char (spells_basicChar escapes other) (ih 0)

theorem le_longestRun (c : Char) (inRow : Nat) (cs : List Char) :
    inRow ≤ longestRun c inRow cs := by
  induction cs generalizing inRow with
  | nil => exact Nat.le_refl inRow
  | cons d rest ih =>
    rw [longestRun]
    split
    · exact Nat.le_of_succ_le (ih (inRow + 1))
    · exact Nat.le_max_left _ _

/-- What has no characters that need an escape is written as it is, if its runs of quotes are short. -/
theorem written_literalBody (literal : style.hasEscapes = false) {cs : List Char} {inRow : Nat}
    (plain : ∀ c ∈ cs, isPlain c = true ∨ c = '\n' ∧ style.isMultiline = true)
    (runs : longestRun style.quote inRow cs ≤ if style.isMultiline then 2 else 0) :
    Written style inRow cs cs := by
  induction cs generalizing inRow with
  | nil => exact .nil
  | cons c rest ih =>
    have later : ∀ d ∈ rest, isPlain d = true ∨ d = '\n' ∧ style.isMultiline = true :=
      fun d mem => plain d (List.mem_cons_of_mem _ mem)
    by_cases isQuote : c = style.quote
    · subst isQuote
      rw [longestRun, if_pos rfl] at runs
      have more := le_longestRun style.quote (inRow + 1) rest
      cases multiline : style.isMultiline with
      | false =>
        rw [multiline] at runs
        exact absurd (le_trans more runs) (by simp)
      | true =>
        have few : inRow + 1 ≤ 2 := le_trans more (by simpa [multiline] using runs)
        exact .quote multiline few (ih later runs)
    · rw [longestRun, if_neg isQuote] at runs
      have others := ih later (le_trans (Nat.le_max_right _ _) runs)
      rcases plain c List.mem_cons_self with isPlain | ⟨rfl, multiline⟩
      · exact .char (spells_self isPlain isQuote (by simp [literal])) others
      · exact .char (spells_lineFeed multiline) others

/-! ## Reading it -/

/-- The closing quotes are read with the quotes before them. -/
theorem readElement_close (multiline : style.isMultiline = true) {extra : Nat} (few : extra ≤ 2)
    {rest : List Char} (ends : EndsRun (· = style.quote) rest) :
    readElement style (List.replicate extra style.quote ++ (style.quotes ++ rest)) =
      some (.close (List.replicate extra style.quote), rest) := by
  have length : (List.replicate extra style.quote).length = extra := List.length_replicate
  have closingFirst : List.replicate extra style.quote ++ (style.quotes ++ rest) =
      style.quote :: style.quote :: style.quote ::
        (List.replicate extra style.quote ++ rest) := by
    rw [TextStyle.quotes_of_isMultiline multiline]
    obtain rfl | rfl | rfl : extra = 0 ∨ extra = 1 ∨ extra = 2 := by omega
    all_goals rfl
  have run : ((List.replicate extra style.quote ++ rest).take 2).takeWhile (· = style.quote) =
      List.replicate extra style.quote := by
    rw [List.take_append, length, List.take_of_length_le (length.trans_le few)]
    exact takeWhile_append_of_endsRun
      (fun c mem => decide_eq_true (List.eq_of_mem_replicate mem)) (ends.take _)
  rw [closingFirst, readElement, if_pos rfl, if_pos multiline, readQuotes, if_pos ⟨rfl, rfl⟩]
  dsimp only
  rw [run, length, List.drop_left' length]

theorem readElement_closeLine (single : style.isMultiline = false) (rest : List Char) :
    readElement style (style.quotes ++ rest) = some (.close [], rest) := by
  rw [TextStyle.quotes_of_not_isMultiline single, List.singleton_append, readElement, if_pos rfl,
    single]
  rfl

/-- A quote in front of less than two others is one of the text. -/
theorem readElement_quote (multiline : style.isMultiline = true) {rest : List Char}
    (few : ∀ more, rest ≠ style.quote :: style.quote :: more) :
    readElement style (style.quote :: rest) = some (.chars [style.quote], rest) := by
  rw [readElement, if_pos rfl, if_pos multiline]
  unfold readQuotes
  split
  · next a b more =>
    refine if_neg fun same => ?_
    obtain ⟨rfl, rfl⟩ := same
    exact few more rfl
  · rfl

theorem readElements_chars {cs next these others rest : List Char} {bound : Nat}
    (first : readElement style cs = some (.chars these, next))
    (later : readElements style bound next = some (others, rest)) :
    readElements style (bound + 1) cs = some (these ++ others, rest) := by
  rw [readElements, first]
  simp only [Option.bind_eq_bind, Option.bind_some, later]
  rfl

theorem readElements_close {cs extra rest : List Char} (bound : Nat)
    (close : readElement style cs = some (.close extra, rest)) :
    readElements style (bound + 1) cs = some (extra, rest) := by
  rw [readElements, close]
  rfl

/-- A run of quotes is either the end of a text, or another character follows. -/
theorem Written.quotes_cases {inRow : Nat} {text body : List Char}
    (written : Written style inRow text body) (few : inRow ≤ 2) :
    ∃ extra, extra + inRow ≤ 2 ∧
      (text = List.replicate extra style.quote ∧ body = List.replicate extra style.quote ∨
        ∃ first others, body = List.replicate extra style.quote ++ first :: others ∧
          first ≠ style.quote) := by
  induction written with
  | nil => exact ⟨0, by omega, .inl ⟨rfl, rfl⟩⟩
  | char spells others =>
    obtain ⟨first, more, rfl, other⟩ := spells.unquoted
    exact ⟨0, by omega, .inr ⟨first, _, rfl, other⟩⟩
  | quote multiline fewer others ih =>
    obtain ⟨extra, within, ⟨rfl, rfl⟩ | ⟨first, more, rfl, other⟩⟩ := ih fewer
    · exact ⟨extra + 1, by omega, .inl ⟨rfl, rfl⟩⟩
    · exact ⟨extra + 1, by omega, .inr ⟨first, more, rfl, other⟩⟩

/-- What is written behind the opening quotes is read up to the closing ones. -/
theorem readElements_written {inRow : Nat} {text body : List Char}
    (written : Written style inRow text body) {rest : List Char}
    (ends : EndsRun (· = style.quote) rest) {bound : Nat} (enough : body.length < bound) :
    readElements style bound (body ++ (style.quotes ++ rest)) = some (text, rest) := by
  induction written generalizing bound with
  | nil =>
    obtain ⟨bound, rfl⟩ := Nat.exists_eq_succ_of_ne_zero (Nat.ne_zero_of_lt enough)
    cases multiline : style.isMultiline with
    | true => exact readElements_close bound (readElement_close multiline (Nat.zero_le 2) ends)
    | false => exact readElements_close bound (readElement_closeLine multiline rest)
  | char spells others ih =>
    obtain ⟨bound, rfl⟩ := Nat.exists_eq_succ_of_ne_zero (Nat.ne_zero_of_lt enough)
    obtain ⟨first, more, rfl, -⟩ := spells.unquoted
    rw [List.cons_append, List.length_cons, List.length_append] at enough
    rw [List.append_assoc]
    exact readElements_chars (spells.reads _) (ih (by omega))
  | quote multiline few others ih =>
    obtain ⟨bound, rfl⟩ := Nat.exists_eq_succ_of_ne_zero (Nat.ne_zero_of_lt enough)
    have later := ih (Nat.lt_of_succ_lt_succ enough)
    -- A quote is one of the closing ones if only quotes are between it and the end. Then it is read
    -- together with them, and the induction hypothesis about the quotes behind it is of no use.
    obtain ⟨extra, within, ⟨rfl, rfl⟩ | ⟨first, more, rfl, other⟩⟩ := others.quotes_cases few
    · have few : extra + 1 ≤ 2 := by omega
      exact readElements_close bound (readElement_close multiline few ends)
    · refine readElements_chars (readElement_quote multiline fun more same => ?_) later
      obtain rfl | rfl : extra = 0 ∨ extra = 1 := by omega
      · exact other (List.cons.inj same).1
      · exact other (List.cons.inj (List.cons.inj same).2).1

/-! ## Whole texts -/

theorem afterLineEnd?_quote (style : TextStyle) (rest : List Char) :
    afterLineEnd? (style.quote :: rest) = none := by
  cases style <;> rfl

theorem quotes_append (style : TextStyle) (rest : List Char) :
    ∃ more, style.quotes ++ rest = style.quote :: more := by
  cases style <;> exact ⟨_, rfl⟩

/-- What is written for a text without line feeds does not begin with a line end. -/
theorem Written.afterLineEnd?_eq_none {inRow : Nat} {text body : List Char}
    (written : Written style inRow text body) (multiline : style.isMultiline = true)
    (unbroken : '\n' ∉ text) (rest : List Char) :
    afterLineEnd? (body ++ (style.quotes ++ rest)) = none := by
  cases written with
  | nil =>
    obtain ⟨more, front⟩ := quotes_append style rest
    rw [List.nil_append, front]
    exact afterLineEnd?_quote style more
  | @char _ c form _ _ spells others =>
    refine Option.eq_none_iff_forall_ne_some.2 fun next ends => ?_
    have asLineFeed := readElement_lineEnd multiline ends
    rw [List.append_assoc, spells.reads] at asLineFeed
    simp only [Option.some.injEq, Prod.mk.injEq, TextElement.chars.injEq, List.cons.injEq,
      and_true] at asLineFeed
    exact unbroken (List.mem_cons.2 (.inl asLineFeed.1.symm))
  | quote _ few others => exact afterLineEnd?_quote style _

/-- A text is read from behind its opening quotes, whether or not it begins on a line of its own. -/
theorem readStyled_written {text body : List Char} (written : Written style 0 text body)
    {rest : List Char} (ends : EndsRun (· = style.quote) rest) :
    readStyled style ((if style.isMultiline && text.contains '\n' then ['\n'] else []) ++
      (body ++ (style.quotes ++ rest))) = some (String.ofList text, rest) := by
  let lead : List Char := if style.isMultiline && text.contains '\n' then ['\n'] else []
  let cs := body ++ (style.quotes ++ rest)
  have front : (if style.isMultiline then (afterLineEnd? (lead ++ cs)).getD (lead ++ cs)
      else lead ++ cs) = cs := by
    cases multiline : style.isMultiline with
    | false => simp [lead, multiline]
    | true =>
      by_cases lines : '\n' ∈ text
      · simp [lead, multiline, lines, afterLineEnd?]
      · have unbroken := written.afterLineEnd?_eq_none multiline lines rest
        simp [lead, multiline, lines, cs, unbroken]
  have enough : body.length < cs.length + 1 := by
    simp only [cs, List.length_append]
    omega
  have read : readElements style (cs.length + 1) cs = some (text, rest) :=
    readElements_written written ends enough
  change readStyled style (lead ++ cs) = some (String.ofList text, rest)
  simp only [readStyled, front, read, Option.map_some]

/-! ## The best style -/

/-- The literal styles are for texts that they can hold. -/
theorem best_literal {cs : List Char} (literal : (TextStyle.best cs).hasEscapes = false) :
    cs.any needsCode = false ∧
      (TextStyle.best cs = .literal ∧ longestRun '\'' 0 cs = 0 ∧ cs.contains '\n' = false ∨
        TextStyle.best cs = .multilineLiteral ∧ longestRun '\'' 0 cs ≤ 2) := by
  unfold TextStyle.best at literal ⊢
  dsimp only at literal ⊢
  split_ifs at literal ⊢ <;> simp_all [TextStyle.hasEscapes]

/-- The best style for a text suits it. -/
theorem written_best (cs : List Char) :
    Written (.best cs) 0 cs
      (if (TextStyle.best cs).hasEscapes then basicBody (TextStyle.best cs).isMultiline 0 cs
      else cs) := by
  cases escapes : (TextStyle.best cs).hasEscapes with
  | true => exact written_basicBody escapes cs 0
  | false =>
    obtain ⟨noCodes, suits⟩ := best_literal escapes
    have plain : ∀ c ∈ cs, isPlain c = true ∨ c = '\n' := by
      intro c mem
      have harmless := List.any_eq_false.1 noCodes c mem
      simpa [needsCode, or_iff_not_imp_right] using harmless
    rcases suits with ⟨best, short, noLines⟩ | ⟨best, short⟩
    · have unbroken : '\n' ∉ cs := by simpa using noLines
      rw [best]
      refine written_literalBody rfl (fun c mem => .inl ?_) (Nat.le_of_eq short)
      exact (plain c mem).resolve_right fun same => unbroken (same ▸ mem)
    · rw [best]
      exact written_literalBody rfl (fun c mem => (plain c mem).imp_right fun same => ⟨same, rfl⟩)
        short

/-! ## Texts with their quotes -/

/-- What opens and closes texts. -/
def isQuote (c : Char) : Bool :=
  c = '"' || c = '\''

theorem isQuote_quote (style : TextStyle) : isQuote style.quote = true := by
  cases style <;> rfl

/-- Three quotes open a text on several lines. -/
theorem readText_multiline (multiline : style.isMultiline = true) (cs : List Char) :
    readText (style.quotes ++ cs) = readStyled style cs := by
  cases style <;> first | rfl | cases multiline

/-- A single quote opens a text on one line, which is not taken for three. -/
theorem readText_line (single : style.isMultiline = false) {cs : List Char}
    (few : ∀ more, cs ≠ style.quote :: style.quote :: more) :
    readText (style.quotes ++ cs) = readStyled style cs := by
  cases style with
  | basic =>
    rw [TextStyle.quotes_of_not_isMultiline single, List.singleton_append]
    unfold readText
    split
    · next more three => exact absurd (List.cons.inj three).2 (few more)
    · next more three => cases three
    · rfl
  | literal =>
    rw [TextStyle.quotes_of_not_isMultiline single, List.singleton_append]
    unfold readText
    split
    · next more three => cases three
    · next more three => exact absurd (List.cons.inj three).2 (few more)
    · rfl
  | multilineBasic => cases single
  | multilineLiteral => cases single

/-- No text on one line begins with a quote, and so none with two unless another follows it. -/
theorem Written.ne_quotes {inRow : Nat} {text body : List Char}
    (written : Written style inRow text body) (single : style.isMultiline = false)
    {rest : List Char} (ends : EndsRun (· = style.quote) rest) (more : List Char) :
    body ++ (style.quotes ++ rest) ≠ style.quote :: style.quote :: more := by
  intro same
  cases written with
  | nil =>
    rw [TextStyle.quotes_of_not_isMultiline single] at same
    have further : rest = style.quote :: more := (List.cons.inj same).2
    rw [further, endsRun_cons] at ends
    exact of_decide_eq_false ends rfl
  | char spells others =>
    obtain ⟨first, behind, rfl, other⟩ := spells.unquoted
    exact other (List.cons.inj same).1
  | quote multiline few others =>
    rw [single] at multiline
    cases multiline

/-- Every text is read back, in front of anything but a further quote. -/
theorem readText_writeText (text : String) {rest : List Char} (ends : EndsRun isQuote rest) :
    readText (writeText text ++ rest) = some (text, rest) := by
  have quoteEnds : EndsRun (· = (TextStyle.best text.toList).quote) rest :=
    ends.mono fun c same => by
      rw [of_decide_eq_true same]
      exact isQuote_quote _
  have written := written_best text.toList
  have read := readStyled_written written quoteEnds
  rw [String.ofList_toList] at read
  rw [writeText, TextStyle.write, List.append_assoc, List.append_assoc, List.append_assoc]
  by_cases multiline : (TextStyle.best text.toList).isMultiline = true
  · rw [readText_multiline multiline]
    exact read
  · have single := Bool.eq_false_iff.2 multiline
    have few := written.ne_quotes single quoteEnds
    rw [readText_line single]
    · exact read
    · rw [single] at few ⊢
      exact few

/-- Of the five quotes at the end, two are of the text. -/
example : readText "\"\"\"'\"\"\"\"\"".toList = some ("'\"\"", []) := by decide

end WalletLedger.Toml
