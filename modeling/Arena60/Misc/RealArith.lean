import Arena60.Misc.DoubleArith
import Mathlib.Analysis.SpecialFunctions.Complex.Arg

/-!
# Exact real arithmetic

The arithmetic of results about exact values: every operation is the one of the real
numbers.
-/

namespace Arena60.Misc.RealArith

open Classical in
noncomputable scoped instance : DoubleArith ℝ where
  ofRat q := q
  lowest := ((-((2 ^ 53 - 1) * 2 ^ 971) : ℚ) : ℝ)
  sqrt := Real.sqrt
  abs x := |x|
  atan2 y x := Complex.arg ⟨x, y⟩
  less x y := decide (x < y)
  lessEq x y := decide (x ≤ y)

theorem less_real (x y : ℝ) : DoubleArith.less x y = true ↔ x < y := decide_eq_true_iff

theorem ofRat_real (q : ℚ) : (DoubleArith.ofRat q : ℝ) = q := rfl

end Arena60.Misc.RealArith
