/-!
# Numbers of fixed width

Texts give numbers of any size, while records hold numbers of 32 or 64 bits. A
number that does not fit is refused and never wrapped. Main statements:
`uint64?_eq_some_iff` and its companions, what fits keeps its value.
-/

namespace WalletLedger.FixedWidth

/-- A number with 64 bits and no sign. -/
def uint64? (n : Int) : Option UInt64 :=
  if 0 ≤ n ∧ n < UInt64.size then some (.ofNat n.toNat) else none

/-- A number with 32 bits and no sign. -/
def uint32? (n : Int) : Option UInt32 :=
  if 0 ≤ n ∧ n < UInt32.size then some (.ofNat n.toNat) else none

/-- A number with 64 bits, one of them for the sign. -/
def int64? (n : Int) : Option Int64 :=
  if Int64.minValue.toInt ≤ n ∧ n ≤ Int64.maxValue.toInt then some (.ofInt n) else none

/-- A number with 32 bits, one of them for the sign. -/
def int32? (n : Int) : Option Int32 :=
  if Int32.minValue.toInt ≤ n ∧ n ≤ Int32.maxValue.toInt then some (.ofInt n) else none

/-- A value that is only given under a guard: the guard has to hold for all that the value may
mean. -/
theorem guarded_eq_some_iff {α : Type} {guard meaning : Prop} [Decidable guard] {a w : α}
    (within : guard → (a = w ↔ meaning)) (complete : meaning → guard) :
    (if guard then some a else none) = some w ↔ meaning := by
  by_cases holds : guard
  · rw [if_pos holds, Option.some.injEq]
    exact within holds
  · rw [if_neg holds]
    exact iff_of_false nofun fun means => holds (complete means)

theorem uint64?_eq_some_iff {n : Int} {w : UInt64} : uint64? n = some w ↔ (w.toNat : Int) = n := by
  refine guarded_eq_some_iff (fun within => ?_) fun same => ?_
  · obtain ⟨low, high⟩ := within
    constructor
    · intro same
      rw [← same, UInt64.toNat_ofNat_of_lt' (by omega)]
      omega
    · intro same
      rw [← same, Int.toNat_natCast, UInt64.ofNat_toNat]
  · have bound := w.toNat_lt_size
    omega

theorem uint32?_eq_some_iff {n : Int} {w : UInt32} : uint32? n = some w ↔ (w.toNat : Int) = n := by
  refine guarded_eq_some_iff (fun within => ?_) fun same => ?_
  · obtain ⟨low, high⟩ := within
    constructor
    · intro same
      rw [← same, UInt32.toNat_ofNat_of_lt' (by omega)]
      omega
    · intro same
      rw [← same, Int.toNat_natCast, UInt32.ofNat_toNat]
  · have bound := w.toNat_lt_size
    omega

theorem int64?_eq_some_iff {n : Int} {w : Int64} : int64? n = some w ↔ w.toInt = n := by
  refine guarded_eq_some_iff (fun within => ?_) fun same => ?_
  · constructor
    · intro same
      rw [← same]
      exact Int64.toInt_ofInt_of_le within.1 (Int.lt_add_one_of_le within.2)
    · intro same
      rw [← same, Int64.ofInt_toInt]
  · rw [← same]
    exact ⟨Int64.minValue_le_toInt w, Int64.toInt_le w⟩

theorem int32?_eq_some_iff {n : Int} {w : Int32} : int32? n = some w ↔ w.toInt = n := by
  refine guarded_eq_some_iff (fun within => ?_) fun same => ?_
  · constructor
    · intro same
      rw [← same]
      exact Int32.toInt_ofInt_of_le within.1 (Int.lt_add_one_of_le within.2)
    · intro same
      rw [← same, Int32.ofInt_toInt]
  · rw [← same]
    exact ⟨Int32.minValue_le_toInt w, Int32.toInt_le w⟩

theorem map_toNat_inj {first second : Option UInt64} :
    first.map (·.toNat : UInt64 → Int) = second.map (·.toNat : UInt64 → Int) ↔ first = second :=
  Option.map_inj_right fun _ _ same => UInt64.toNat_inj.1 (Int.ofNat_inj.1 same)

end WalletLedger.FixedWidth
