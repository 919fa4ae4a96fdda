import Arena60.Misc.DoubleArith
import Mathlib.Data.Rat.Sqrt
import Mathlib.Analysis.SpecialFunctions.Complex.Arg
import Mathlib.Analysis.SpecialFunctions.Pow.Real

/-!
# Exact rational arithmetic

The arithmetic in which concrete runs are computed: sums, products, quotients and
comparisons of rationals are exact, and so are roots of squares, angles of the
positive axis and zeroth powers. A result that is irrational, which none of those
runs inspects, is rounded down to a multiple of `2 ^ (-53)`.
-/

namespace Arena60.Misc

/-- A real number rounded down to a multiple of `2 ^ (-53)`. -/
noncomputable def roundDown (x : ℝ) : ℚ := ⌊x * (2 ^ 53 : ℕ)⌋ / 2 ^ 53

noncomputable instance : DoubleConversions ℚ where
  ofRat q := q
  lowest := -((2 ^ 53 - 1) * 2 ^ 971)
  sqrt q := if Rat.sqrt q * Rat.sqrt q = q then Rat.sqrt q else roundDown (Real.sqrt q)
  abs q := if q < 0 then -q else q
  atan2 y x := if y = 0 ∧ 0 ≤ x then 0 else roundDown (Complex.arg ⟨x, y⟩)
  less p q := decide (p < q)
  lessEq p q := decide (p ≤ q)
  toInt q := if q < 0 then ⌈q⌉ else ⌊q⌋
  lround q := if q < 0 then ⌈q - 1 / 2⌉ else ⌊q + 1 / 2⌋
  pow p q := if q = 0 then 1 else roundDown ((p : ℝ) ^ (q : ℝ))

end Arena60.Misc
