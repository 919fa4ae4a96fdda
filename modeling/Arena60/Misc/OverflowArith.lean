import Arena60.Misc.DoubleArith
import Mathlib.Analysis.SpecialFunctions.Complex.Arg

/-!
# Exact arithmetic with overflow

Doubles without rounding: a number is exact as long as its magnitude is at most that of
the largest finite double, and infinite beyond it. The infinities and the NaN combine as
those of IEEE arithmetic do; zero has no sign.
-/

namespace Arena60.Misc

/-- The largest finite double. -/
noncomputable def maxDouble : ℝ := (2 ^ 53 - 1) * 2 ^ 971

/-- A number within the range of the doubles, an infinity, or no number. -/
inductive OverflowDouble where
  | finite (value : ℝ) (inRange : |value| ≤ maxDouble)
  | infinity (negative : Bool)
  | nan

namespace OverflowDouble

open Classical in
/-- A real number as a double. -/
noncomputable def ofReal (value : ℝ) : OverflowDouble :=
  if inRange : |value| ≤ maxDouble then finite value inRange else infinity (decide (value < 0))

/-- `x + y`. -/
noncomputable def add : OverflowDouble → OverflowDouble → OverflowDouble
  | finite x _, finite y _ => ofReal (x + y)
  | finite _ _, infinity negative => infinity negative
  | infinity negative, finite _ _ => infinity negative
  | infinity negative, infinity negative' => if negative = negative' then infinity negative else nan
  | _, _ => nan

/-- `-x`. -/
noncomputable def neg : OverflowDouble → OverflowDouble
  | finite x _ => ofReal (-x)
  | infinity negative => infinity (!negative)
  | nan => nan

open Classical in
/-- `x * y`. -/
noncomputable def mul : OverflowDouble → OverflowDouble → OverflowDouble
  | finite x _, finite y _ => ofReal (x * y)
  | finite x _, infinity negative =>
      if x = 0 then nan else infinity (negative ^^ decide (x < 0))
  | infinity negative, finite y _ =>
      if y = 0 then nan else infinity (negative ^^ decide (y < 0))
  | infinity negative, infinity negative' => infinity (negative ^^ negative')
  | _, _ => nan

open Classical in
/-- `x / y`. -/
noncomputable def div : OverflowDouble → OverflowDouble → OverflowDouble
  | finite x _, finite y _ =>
      if y = 0 then if x = 0 then nan else infinity (decide (x < 0)) else ofReal (x / y)
  | finite _ _, infinity _ => ofReal 0
  | infinity negative, finite y _ => infinity (negative ^^ decide (y < 0))
  | _, _ => nan

open Classical in
/-- `std::sqrt`. -/
noncomputable def sqrt : OverflowDouble → OverflowDouble
  | finite x _ => if x < 0 then nan else ofReal (Real.sqrt x)
  | infinity false => infinity false
  | _ => nan

/-- `std::abs`. -/
noncomputable def abs : OverflowDouble → OverflowDouble
  | finite x _ => ofReal |x|
  | infinity _ => infinity false
  | nan => nan

/-- `std::atan2(y, x)` of finite arguments. -/
noncomputable def atan2 : OverflowDouble → OverflowDouble → OverflowDouble
  | finite y _, finite x _ => ofReal (Complex.arg ⟨x, y⟩)
  | _, _ => nan

open Classical in
/-- `x < y`. -/
noncomputable def less : OverflowDouble → OverflowDouble → Bool
  | finite x _, finite y _ => decide (x < y)
  | finite _ _, infinity negative => !negative
  | infinity negative, finite _ _ => negative
  | infinity negative, infinity negative' => negative && !negative'
  | _, _ => false

open Classical in
/-- `x <= y`. -/
noncomputable def lessEq : OverflowDouble → OverflowDouble → Bool
  | finite x _, finite y _ => decide (x ≤ y)
  | finite _ _, infinity negative => !negative
  | infinity negative, finite _ _ => negative
  | infinity negative, infinity negative' => negative || !negative'
  | _, _ => false

noncomputable instance : DoubleArith OverflowDouble where
  add := add
  sub x y := add x (neg y)
  mul := mul
  div := div
  ofRat q := ofReal q
  lowest := ofReal (-maxDouble)
  sqrt := sqrt
  abs := abs
  atan2 := atan2
  less := less
  lessEq := lessEq

/-! ## Operations on numbers within the range -/

variable {x y : ℝ}

theorem one_le_maxDouble : 1 ≤ maxDouble := by
  have large : (1 : ℝ) ≤ 2 ^ 971 := one_le_pow₀ one_le_two
  calc
    (1 : ℝ) ≤ 2 ^ 971 := large
    _ = 1 * 2 ^ 971 := (one_mul _).symm
    _ ≤ maxDouble := mul_le_mul_of_nonneg_right (by norm_num) (zero_le_one.trans large)

theorem ofReal_of_inRange (inRange : |x| ≤ maxDouble) : ofReal x = finite x inRange :=
  dif_pos inRange

theorem ofReal_of_above (above : maxDouble < x) : ofReal x = infinity false := by
  have beyond : ¬ |x| ≤ maxDouble := not_le.mpr (lt_of_lt_of_le above (le_abs_self x))
  have positive : ¬ x < 0 := by
    have := one_le_maxDouble
    intro negative
    linarith
  rw [ofReal, dif_neg beyond, decide_eq_false positive]

theorem ofReal_mul (hx : |x| ≤ maxDouble) (hy : |y| ≤ maxDouble) :
    ofReal x * ofReal y = ofReal (x * y) := by
  rw [ofReal_of_inRange hx, ofReal_of_inRange hy]
  rfl

theorem ofReal_add (hx : |x| ≤ maxDouble) (hy : |y| ≤ maxDouble) :
    ofReal x + ofReal y = ofReal (x + y) := by
  rw [ofReal_of_inRange hx, ofReal_of_inRange hy]
  rfl

theorem ofReal_sub (hx : |x| ≤ maxDouble) (hy : |y| ≤ maxDouble) :
    ofReal x - ofReal y = ofReal (x - y) := by
  have opposite : |-y| ≤ maxDouble := by rwa [abs_neg]
  have negated : neg (ofReal y) = finite (-y) opposite := by
    rw [ofReal_of_inRange hy]
    exact ofReal_of_inRange opposite
  show add (ofReal x) (neg (ofReal y)) = ofReal (x - y)
  rw [negated, ofReal_of_inRange hx, sub_eq_add_neg]
  rfl

theorem ofReal_div (hx : |x| ≤ maxDouble) (hy : |y| ≤ maxDouble) (nonzero : y ≠ 0) :
    ofReal x / ofReal y = ofReal (x / y) := by
  rw [ofReal_of_inRange hx, ofReal_of_inRange hy]
  exact if_neg nonzero

theorem ofReal_sqrt (hx : |x| ≤ maxDouble) (nonnegative : 0 ≤ x) :
    DoubleArith.sqrt (ofReal x) = ofReal (Real.sqrt x) := by
  rw [ofReal_of_inRange hx]
  exact if_neg (not_lt.mpr nonnegative)

theorem ofReal_div_infinity (hx : |x| ≤ maxDouble) (negative : Bool) :
    ofReal x / infinity negative = ofReal 0 := by
  rw [ofReal_of_inRange hx]
  rfl

theorem less_ofReal (hx : |x| ≤ maxDouble) (hy : |y| ≤ maxDouble) :
    DoubleArith.less (ofReal x) (ofReal y) = true ↔ x < y := by
  rw [ofReal_of_inRange hx, ofReal_of_inRange hy]
  exact decide_eq_true_iff

theorem abs_sqrt_le (hx : |x| ≤ maxDouble) : |Real.sqrt x| ≤ maxDouble := by
  have large := one_le_maxDouble
  rw [abs_of_nonneg (Real.sqrt_nonneg x), Real.sqrt_le_left (by linarith)]
  calc
    x ≤ |x| := le_abs_self x
    _ ≤ maxDouble := hx
    _ ≤ maxDouble ^ 2 := by nlinarith

/-- The sum of the squares of two numbers, computed with overflow. -/
theorem sum_of_squares (hx : |x| ≤ maxDouble) (hy : |y| ≤ maxDouble) :
    ofReal x * ofReal x + ofReal y * ofReal y = ofReal (x * x + y * y) := by
  rw [ofReal_mul hx hx, ofReal_mul hy hy]
  have squareX := mul_self_nonneg x
  have squareY := mul_self_nonneg y
  by_cases largeX : maxDouble < x * x
  · have above : maxDouble < x * x + y * y := by linarith
    rw [ofReal_of_above largeX, ofReal_of_above above]
    by_cases largeY : maxDouble < y * y
    · rw [ofReal_of_above largeY]
      rfl
    · have inRangeY : |y * y| ≤ maxDouble := by
        rw [abs_of_nonneg squareY]
        exact not_lt.mp largeY
      rw [ofReal_of_inRange inRangeY]
      rfl
  · have inRangeX : |x * x| ≤ maxDouble := by
      rw [abs_of_nonneg squareX]
      exact not_lt.mp largeX
    by_cases largeY : maxDouble < y * y
    · have above : maxDouble < x * x + y * y := by linarith
      rw [ofReal_of_above largeY, ofReal_of_above above, ofReal_of_inRange inRangeX]
      rfl
    · refine ofReal_add inRangeX ?_
      rw [abs_of_nonneg squareY]
      exact not_lt.mp largeY

end OverflowDouble

end Arena60.Misc
