/-!
# The order of encoded texts

Texts are compared by their characters, and their encodings by bytes. Both orders
are one: a character with a greater number has bytes that are greater, whatever
follows them. A number is encoded by a first byte and up to three more, each of
which has six of its bits (`encoding`). More bytes mean a greater first byte, and
among numbers with equally many bytes the bits decide from the front.

Main statement: `Text.bytes_lt_iff`.
-/

namespace WalletLedger

theorem toList_data_toUTF8 (text : String) :
    text.toUTF8.data.toList = text.toList.flatMap String.utf8EncodeChar := by
  rw [String.toUTF8_eq_toByteArray, ← String.utf8Encode_toList, List.utf8Encode,
    List.toList_data_toByteArray]

namespace Text

/-- The bytes of a text. -/
def bytes (text : String) : List UInt8 :=
  text.toUTF8.data.toList

/-! ## The bytes of a number -/

/-- A first byte, whose mark says how many bytes follow. -/
def firstByte (room mark v : Nat) : List UInt8 :=
  [UInt8.ofNat (v % room + mark)]

/-- A code with one more byte, which has the last six bits of the number. -/
def continued (code : Nat → List UInt8) (v : Nat) : List UInt8 :=
  code (v / 64) ++ [UInt8.ofNat (v % 64 + 0x80)]

/-- The bytes of the character with a number. -/
def encoding (v : Nat) : List UInt8 :=
  if v ≤ 0x7f then firstByte 0x80 0 v
  else if v ≤ 0x7ff then continued (firstByte 0x20 0xc0) v
  else if v ≤ 0xffff then continued (continued (firstByte 0x10 0xe0)) v
  else continued (continued (continued (firstByte 0x8 0xf0))) v

theorem utf8EncodeChar_eq (c : Char) : String.utf8EncodeChar c = encoding c.val.toNat := by
  rw [String.utf8EncodeChar, encoding]
  split
  · next single =>
    rw [firstByte, Nat.mod_eq_of_lt (Nat.lt_succ_of_le single)]
    rfl
  · simp only [continued, firstByte, Nat.div_div_eq_div_mul]
    rfl

/-! ## Ascending codes -/

/-- The codes of the numbers below a bound ascend with the numbers, whatever follows them. -/
def Ascends (code : Nat → List UInt8) (bound : Nat) : Prop :=
  ∀ v w, v < w → w < bound → ∀ r s, code v ++ r < code w ++ s

theorem ofNat_lt_ofNat {m n : Nat} (less : m < n) (small : n < 256) :
    UInt8.ofNat m < UInt8.ofNat n := by
  rw [UInt8.lt_iff_toNat_lt, UInt8.toNat_ofNat', UInt8.toNat_ofNat']
  omega

theorem ascends_firstByte {room mark : Nat} (fits : room + mark ≤ 256) :
    Ascends (firstByte room mark) room := by
  intro v w less small r s
  have lower : v % room = v := Nat.mod_eq_of_lt (Nat.lt_trans less small)
  have upper : w % room = w := Nat.mod_eq_of_lt small
  rw [firstByte, firstByte, lower, upper]
  exact List.Lex.rel (ofNat_lt_ofNat (by omega) (by omega))

/-- If numbers differ in front of the last six bits, these do not matter; otherwise they decide. -/
theorem Ascends.continued {code : Nat → List UInt8} {bound : Nat} (ascends : Ascends code bound) :
    Ascends (continued code) (64 * bound) := by
  intro v w less small r s
  rw [Text.continued, Text.continued, List.append_assoc, List.append_assoc]
  have front : v / 64 ≤ w / 64 := Nat.div_le_div_right (Nat.le_of_lt less)
  rcases Nat.lt_or_eq_of_le front with before | same
  · exact ascends _ _ before (by omega) _ _
  · rw [same]
    exact List.append_left_lt (List.Lex.rel (ofNat_lt_ofNat (by omega) (by omega)))

/-- Codes of two forms ascend if those of each form do, and those of the first one stay below. -/
theorem Ascends.ite {low high : Nat → List UInt8} {last bound : Nat}
    (below : Ascends low (last + 1)) (above : Ascends high bound)
    (across : ∀ v w, v ≤ last → last < w → w < bound → ∀ r s, low v ++ r < high w ++ s) :
    Ascends (fun v => if v ≤ last then low v else high v) bound := by
  intro v w less small r s
  dsimp only
  split
  · next inLow =>
    split
    · next alsoLow => exact below v w less (Nat.lt_succ_of_le alsoLow) r s
    · next inHigh => exact across v w inLow (Nat.lt_of_not_le inHigh) small r s
  · next inHigh =>
    rw [if_neg fun inLow => inHigh (Nat.le_trans (Nat.le_of_lt less) inLow)]
    exact above v w less small r s

theorem ascends_encoding : Ascends encoding (64 * (64 * (64 * 8))) := by
  have one : Ascends (firstByte 0x80 0) (0x7f + 1) := ascends_firstByte (by decide)
  have two : Ascends (continued (firstByte 0x20 0xc0)) (0x7ff + 1) :=
    (ascends_firstByte (by decide)).continued
  have three : Ascends (continued (continued (firstByte 0x10 0xe0))) (0xffff + 1) :=
    (ascends_firstByte (by decide)).continued.continued
  have four : Ascends (continued (continued (continued (firstByte 0x8 0xf0))))
      (64 * (64 * (64 * 8))) :=
    (ascends_firstByte (by decide)).continued.continued.continued
  -- Where the number of bytes differs, the first bytes do already.
  refine one.ite (two.ite (three.ite four ?_) ?_) ?_
  all_goals
    intro v w low high small r s
    repeat' split
    all_goals exact List.Lex.rel (ofNat_lt_ofNat (by omega) (by omega))

/-! ## Texts -/

theorem utf8EncodeChar_append_lt {c d : Char} (less : c < d) (r s : List UInt8) :
    String.utf8EncodeChar c ++ r < String.utf8EncodeChar d ++ s := by
  have numbered : d.val.toNat < 64 * (64 * (64 * 8)) := by
    rcases d.valid with low | ⟨-, high⟩
    · exact Nat.lt_trans low (by decide)
    · exact Nat.lt_trans high (by decide)
  rw [utf8EncodeChar_eq, utf8EncodeChar_eq]
  exact ascends_encoding _ _ less numbered r s

theorem flatMap_utf8EncodeChar_lt {cs ds : List Char} (less : cs < ds) :
    cs.flatMap String.utf8EncodeChar < ds.flatMap String.utf8EncodeChar := by
  induction less with
  | @nil c rest =>
    have given : String.utf8EncodeChar c ≠ [] := String.utf8EncodeChar_ne_nil
    obtain ⟨byte, more, code⟩ := List.exists_cons_of_ne_nil given
    rw [List.flatMap_cons, code]
    exact List.nil_lt_cons _ _
  | cons _ ih => exact List.append_left_lt ih
  | rel first => exact utf8EncodeChar_append_lt first _ _

theorem bytes_lt_of_lt {s t : String} (less : s < t) : bytes s < bytes t := by
  rw [bytes, bytes, toList_data_toUTF8, toList_data_toUTF8]
  exact flatMap_utf8EncodeChar_lt less

/-- Texts are in the order of their bytes. -/
theorem bytes_lt_iff {s t : String} : bytes s < bytes t ↔ s < t := by
  refine ⟨fun less => Classical.byContradiction fun notLess => ?_, bytes_lt_of_lt⟩
  by_cases greater : t < s
  · exact List.lt_asymm less (bytes_lt_of_lt greater)
  · have same : s = t := String.le_antisymm (String.not_lt.1 greater) (String.not_lt.1 notLess)
    rw [same] at less
    exact List.lt_irrefl _ less

end Text

end WalletLedger
