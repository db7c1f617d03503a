/-!
# How large a decimal number may be

Both data formats allow numbers with a fraction and an exponent, which readers
keep as double-precision floating point. No field of this library has such a
number, but a text that holds one too large for that format is refused. A reader
rounds the number once, or it rounds in steps: the leading digits, the power of
ten, and the product of the two. The ways differ next to the bound alone, where
a step may go beyond it or fall short of it.
-/

namespace WalletLedger.Text

/-- The least number that rounds to infinity in double precision: half a unit above the largest. -/
def infinityBound : Nat := Nat.pow 2 1024 - Nat.pow 2 970

/-! ## Rounding once -/

/-- Whether `digits * 10 ^ exponent` rounds to infinity in double precision. -/
def roundsToInfinity (digits : Nat) (exponent : Int) : Bool :=
  if digits = 0 then false
  else if 0 ≤ exponent then
    309 ≤ exponent || infinityBound ≤ digits * Nat.pow 10 exponent.toNat
  else
    -- A power of ten above the binary length of `digits` settles the comparison unseen.
    exponent.natAbs ≤ digits.log2 && infinityBound * Nat.pow 10 exponent.natAbs ≤ digits

/-! ## Rounding in steps -/

/-- A number rounded to 53 binary digits, as many as double precision has. Of two numbers that are
equally near the one with an even last digit is taken. -/
def roundedToDouble (n : Nat) : Nat :=
  let unit := Nat.pow 2 (n.log2 - 52)
  let below := n / unit
  let rest := n % unit
  if unit < 2 * rest || (unit = 2 * rest && below % 2 = 1) then (below + 1) * unit
  else below * unit

/-- A number of at most 53 binary digits needs no rounding. -/
theorem roundedToDouble_of_lt {n : Nat} (small : n < Nat.pow 2 53) : roundedToDouble n = n := by
  have noExcess : n.log2 - 52 = 0 := by
    by_cases zero : n = 0
    · simp [zero]
    · have := (Nat.log2_lt zero).2 small
      omega
  simp [roundedToDouble, noExcess, Nat.mod_one]

/-- The longest run of leading digits that 64 bits hold, with the exponent that makes up for the
digits behind it. -/
def leadingDigits (digits : Nat) (exponent : Int) : Nat × Int :=
  if digits < UInt64.size then (digits, exponent) else leadingDigits (digits / 10) (exponent + 1)
termination_by digits
decreasing_by
  simp only [UInt64.size] at *
  omega

/-- Whether `digits * 10 ^ exponent` gets to infinity when its leading digits, the power of ten and
their product are rounded one after the other. -/
def overflowsInSteps (digits : Nat) (exponent : Int) : Bool :=
  let (significand, exponent) := leadingDigits digits exponent
  significand ≠ 0 && 0 ≤ exponent &&
    (309 ≤ exponent || infinityBound ≤
      roundedToDouble significand * roundedToDouble (Nat.pow 10 exponent.toNat))

end WalletLedger.Text
