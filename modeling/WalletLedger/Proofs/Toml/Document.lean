import WalletLedger.Proofs.Toml.Value

/-!
# Reading written TOML documents

A document of lines with distinct plain keys is read as their keys and values,
in their order: each line is one statement, and a statement adds one entry. Main
statement: `parse?_lines`.
-/

namespace WalletLedger.Toml

open Text

/-! ## Keys -/

section Keys

variable {key : List Char}

theorem skipSpaces_of_isKeyChar {c : Char} (plain : isKeyChar c = true) (rest : List Char) :
    skipSpaces (c :: rest) = c :: rest :=
  List.dropWhile_cons_of_neg
    (Bool.eq_false_iff.1 (isSpace_of_test plain (by decide) (by decide)))

/-- A key without quotes is read up to the next character that belongs in no key. -/
theorem readKey_append (given : key ≠ []) (plain : ∀ c ∈ key, isKeyChar c = true)
    {rest : List Char} (ends : EndsRun isKeyChar rest) :
    readKey (key ++ rest) = some (String.ofList key, rest) := by
  have run := takeWhile_append_of_endsRun plain ends
  have behind := dropWhile_append_of_endsRun plain ends
  cases key with
  | nil => exact absurd rfl given
  | cons c more =>
    have first := plain c List.mem_cons_self
    unfold readKey
    split
    · next same => exact absurd (List.cons.inj same).1 (ne_of_test first (by decide))
    · next same => exact absurd (List.cons.inj same).1 (ne_of_test first (by decide))
    · rw [run, behind]

end Keys

/-! ## Lines -/

/-- A line that gives a value to a key without quotes. -/
structure Line where
  key : String
  written : List Char
  value : Value
  given : key.toList ≠ []
  plain : key.toList.all isKeyChar = true
  denotes : Denotes limit written value

namespace Line

variable (line : Line) (rest : List Char)

/-- A line as it is written. -/
def text : List Char :=
  writePair line.key line.written

/-- What a line adds to a document. -/
def entry : String × Value :=
  (line.key, line.value)

/-- What a line says. -/
def statement : Statement :=
  .pair ⟨[], line.key⟩ line.value

theorem isKeyChar_of_mem {c : Char} (mem : c ∈ line.key.toList) : isKeyChar c = true :=
  List.all_eq_true.1 line.plain c mem

theorem text_append :
    line.text ++ rest =
      line.key.toList ++ ' ' :: '=' :: ' ' :: (line.written ++ '\n' :: rest) := by
  simp [text, writePair]

/-- A line begins with a character of its key. -/
theorem text_append_eq :
    ∃ c more, line.text ++ rest = c :: more ∧ isKeyChar c = true := by
  rw [text_append]
  cases key : line.key.toList with
  | nil => exact absurd key line.given
  | cons c more => exact ⟨c, _, rfl, line.isKeyChar_of_mem (key ▸ List.mem_cons_self)⟩

theorem skipSpaces_text : skipSpaces (line.text ++ rest) = line.text ++ rest := by
  obtain ⟨c, more, front, plain⟩ := line.text_append_eq rest
  rw [front]
  exact skipSpaces_of_isKeyChar plain more

/-- The key of a line is read up to the equals sign. -/
theorem readPath_text :
    readPath limit (line.text ++ rest) =
      some (⟨[], line.key⟩, '=' :: ' ' :: (line.written ++ '\n' :: rest)) := by
  have ends : EndsRun isKeyChar (' ' :: '=' :: ' ' :: (line.written ++ '\n' :: rest)) :=
    endsRun_cons.2 (by decide)
  have key := readKey_append line.given (fun _ => line.isKeyChar_of_mem) ends
  rw [String.ofList_toList] at key
  rw [limit, readPath, skipSpaces_text, text_append, key]
  rfl

/-- Behind the equals sign the value is read up to the end of the line. -/
theorem readPair_text :
    readPair (readValue limit) (line.text ++ rest) =
      some ((⟨[], line.key⟩, line.value), '\n' :: rest) := by
  have read := line.denotes.reads ('\n' :: rest) (endsRun_cons.2 (by decide))
  have front : skipSpaces (' ' :: (line.written ++ '\n' :: rest)) = line.written ++ '\n' :: rest :=
    line.denotes.skipSpaces_append _
  rw [readPair, readPath_text]
  simp only [Option.bind_eq_bind, Option.bind_some, front, read]
  rfl

theorem readStatement_text :
    readStatement (line.text ++ rest) = some (some line.statement, '\n' :: rest) := by
  have read := line.readPair_text rest
  have front := line.skipSpaces_text rest
  obtain ⟨c, more, same, plain⟩ := line.text_append_eq rest
  rw [same] at read front ⊢
  unfold readStatement
  rw [front]
  split
  · next empty => cases empty
  · next opens => exact absurd (List.cons.inj opens).1 (ne_of_test plain (by decide))
  · next opens => exact absurd (List.cons.inj opens).1 (ne_of_test plain (by decide))
  · next c' more' same' =>
    obtain ⟨rfl, rfl⟩ := List.cons.inj same'
    have noComment : c ≠ '#' := ne_of_test plain (by decide)
    have noLineFeed : c ≠ '\n' := ne_of_test plain (by decide)
    have noReturn : c ≠ '\r' := ne_of_test plain (by decide)
    simp [noComment, noLineFeed, noReturn, read, statement]

end Line

/-- Every line is read as one statement. -/
theorem readStatements?_lines (lines : List Line) {bound : Nat} (enough : lines.length ≤ bound) :
    readStatements? bound (lines.flatMap Line.text) = some (lines.map Line.statement) := by
  induction lines generalizing bound with
  | nil => rw [List.flatMap_nil, readStatements?, List.map_nil]
  | cons line more ih =>
    obtain ⟨bound, rfl⟩ := Nat.exists_eq_succ_of_ne_zero (Nat.ne_zero_of_lt enough)
    have read := line.readStatement_text (more.flatMap Line.text)
    have ended : nextLine? ('\n' :: more.flatMap Line.text) = some (more.flatMap Line.text) := rfl
    have later := ih (Nat.le_of_succ_le_succ enough)
    obtain ⟨c, behind, front, -⟩ := line.text_append_eq (more.flatMap Line.text)
    rw [List.flatMap_cons]
    rw [front] at read ⊢
    rw [readStatements?, read]
    · simp only [Option.bind_eq_bind, Option.bind_some, ended, later]
      rfl
    · exact nofun

/-! ## Documents -/

theorem add?_pair {entries : Entries} {key : String} (new : entries.lookup key = none)
    (v : Value) :
    Document.add? ⟨entries, []⟩ (.pair ⟨[], key⟩ v) = some ⟨entries ++ [(key, v)], []⟩ := by
  have added : Entries.add? key v entries = some (entries ++ [(key, v)]) := by
    rw [Entries.add?, new]
  simp [Document.add?, Entries.alter?, Entries.put?, added]

/-- Statements about new keys add their entries in order. -/
theorem foldlM_add?_lines (lines : List Line) (entries : Entries)
    (distinct : (entries.map (·.1) ++ lines.map Line.key).Nodup) :
    (lines.map Line.statement).foldlM Document.add? ⟨entries, []⟩ =
      some ⟨entries ++ lines.map Line.entry, []⟩ := by
  induction lines generalizing entries with
  | nil => simp
  | cons line more ih =>
    have new : entries.lookup line.key = none := by
      refine List.lookup_eq_none_iff.2 fun entry mem => bne_iff_ne.2 fun same => ?_
      have disjoint := (List.nodup_append.1 distinct).2.2
      exact disjoint entry.1 (List.mem_map_of_mem mem) line.key List.mem_cons_self same.symm
    have later := ih (entries ++ [line.entry]) (by simpa [Line.entry] using distinct)
    rw [List.map_cons, List.foldlM_cons, Line.statement, add?_pair new, Option.bind_eq_bind,
      Option.bind_some, List.map_cons,
      List.append_cons entries line.entry (more.map Line.entry)]
    exact later

theorem ofStatements?_lines {lines : List Line} (distinct : (lines.map Line.key).Nodup) :
    Document.ofStatements? (lines.map Line.statement) = some (lines.map Line.entry) := by
  rw [Document.ofStatements?, Document.empty, foldlM_add?_lines lines [] distinct]
  rfl

/-- A document of lines with distinct keys is read as what the lines add. -/
theorem parse?_lines {lines : List Line} (distinct : (lines.map Line.key).Nodup) :
    parse? (String.ofList (lines.flatMap Line.text)) = some (lines.map Line.entry) := by
  have unmarked : withoutMark (lines.flatMap Line.text) = lines.flatMap Line.text := by
    cases lines with
    | nil => rfl
    | cons line more =>
      obtain ⟨c, behind, front, plain⟩ := line.text_append_eq (more.flatMap Line.text)
      rw [List.flatMap_cons, front]
      unfold withoutMark
      split
      · next same => exact absurd (List.cons.inj same).1 (ne_of_test plain (by decide))
      · rfl
  have enough : lines.length ≤ (lines.flatMap Line.text).length :=
    length_le_flatMap (fun line => by simp [Line.text, writePair]) lines
  rw [parse?, String.toList_ofList]
  simp only [unmarked, readStatements?_lines lines enough, Option.bind_eq_bind, Option.bind_some,
    ofStatements?_lines distinct]

end WalletLedger.Toml
