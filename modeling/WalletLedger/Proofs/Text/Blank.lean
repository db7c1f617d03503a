import WalletLedger.Proofs.Text.Run
import WalletLedger.Text.Blank

/-!
# What is left without the blanks at the ends

A text is blanks, a core and blanks again, where neither end of the core is a
blank. No text has two cores, and trimming gives the one it has (`trim_eq_iff`),
also if the text is nothing but blanks: then the core is empty.
-/

namespace WalletLedger.Text

/-- What is left of a text without the blanks at its ends. -/
structure HasCore (text core : String) : Prop where
  between : ∃ before behind, text.toList = before ++ core.toList ++ behind ∧
    (∀ c ∈ before, isBlank c = true) ∧ ∀ c ∈ behind, isBlank c = true
  front : EndsRun isBlank core.toList
  back : EndsRun isBlank core.toList.reverse

/-- What is left behind a run does not begin with a character of the run. -/
theorem endsRun_dropWhile (test : Char → Bool) (cs : List Char) :
    EndsRun test (cs.dropWhile test) := by
  intro c first
  have rejected := List.head?_dropWhile_not test cs
  rw [first] at rejected
  exact rejected

/-- A text that begins with no blank begins with none when the blanks at its end are gone. -/
theorem endsRun_trimRight {cs : List Char} (front : EndsRun isBlank cs) :
    EndsRun isBlank (trimRight cs) := by
  have initial : trimRight cs <+: cs := by
    rw [← List.reverse_suffix, trimRight, List.reverse_reverse]
    exact List.dropWhile_suffix isBlank
  rw [List.prefix_iff_eq_take.1 initial]
  exact front.take _

theorem hasCore_trim (text : String) : HasCore text (trim text) := by
  let started := text.toList.dropWhile isBlank
  have core : (trim text).toList = trimRight started := String.toList_ofList
  refine ⟨⟨text.toList.takeWhile isBlank, (started.reverse.takeWhile isBlank).reverse, ?_, ?_, ?_⟩,
    ?_, ?_⟩
  · have ended : trimRight started ++ (started.reverse.takeWhile isBlank).reverse = started := by
      rw [trimRight, ← List.reverse_append, List.takeWhile_append_dropWhile, List.reverse_reverse]
    rw [core, List.append_assoc, ended]
    exact List.takeWhile_append_dropWhile.symm
  · exact fun c mem => List.mem_takeWhile_imp mem
  · exact fun c mem => List.mem_takeWhile_imp (List.mem_reverse.1 mem)
  · rw [core]
    exact endsRun_trimRight (endsRun_dropWhile isBlank _)
  · rw [core, trimRight, List.reverse_reverse]
    exact endsRun_dropWhile isBlank _

/-- Trimming takes no more than the blanks around a core. -/
theorem trimRight_dropWhile_append {core behind : List Char} (front : EndsRun isBlank core)
    (back : EndsRun isBlank core.reverse) (blank : ∀ c ∈ behind, isBlank c = true) :
    trimRight ((core ++ behind).dropWhile isBlank) = core := by
  cases core with
  | nil =>
    rw [List.nil_append, List.dropWhile_eq_nil_iff.2 blank]
    rfl
  | cons c rest =>
    have notBlank : ¬isBlank c = true := Bool.eq_false_iff.1 (endsRun_cons.1 front)
    have blankReversed : ∀ d ∈ behind.reverse, isBlank d = true := fun d mem =>
      blank d (List.mem_reverse.1 mem)
    rw [List.cons_append, List.dropWhile_cons_of_neg notBlank, ← List.cons_append, trimRight,
      List.reverse_append, dropWhile_append_of_endsRun blankReversed back, List.reverse_reverse]

/-- Trimming a text gives its only core. -/
theorem trim_eq_iff {text core : String} : trim text = core ↔ HasCore text core := by
  constructor
  · rintro rfl
    exact hasCore_trim text
  · rintro ⟨⟨before, behind, split, blankBefore, blankBehind⟩, front, back⟩
    rw [trim, split, List.append_assoc, List.dropWhile_append_of_pos blankBefore,
      trimRight_dropWhile_append front back blankBehind, String.ofList_toList]

end WalletLedger.Text
