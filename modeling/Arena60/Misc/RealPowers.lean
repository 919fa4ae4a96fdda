import Arena60.Misc.RealArith
import Mathlib.Analysis.SpecialFunctions.Pow.Real

/-!
# Real arithmetic with a given power function

The exact arithmetic of results that hold for any function in place of `std::pow`. Numbers are
rounded to the nearest integer, halves away from zero.
-/

namespace Arena60.Misc

/-- The nearest integer; halves are rounded away from zero. -/
noncomputable def roundAway (x : ℝ) : ℤ := if x < 0 then -round (-x) else round x

theorem abs_roundAway_sub_le (x : ℝ) : |(roundAway x : ℝ) - x| ≤ 1 / 2 := by
  rw [roundAway]
  split_ifs with negative
  · have mirrored := abs_sub_round (-x)
    have same : ((-round (-x) : ℤ) : ℝ) - x = -x - round (-x) := by
      push_cast
      ring
    rw [same]
    exact mirrored
  · rw [abs_sub_comm]
    exact abs_sub_round x

/-- No integer below a number is above what it is rounded to. -/
theorem le_roundAway {n : ℤ} {x : ℝ} (below : (n : ℝ) ≤ x) : n ≤ roundAway x := by
  obtain ⟨error, -⟩ := abs_le.mp (abs_roundAway_sub_le x)
  have near : (n : ℝ) < (roundAway x + 1 : ℤ) := by
    push_cast
    linarith
  have near' : n < roundAway x + 1 := by exact_mod_cast near
  omega

theorem roundAway_le {n : ℤ} {x : ℝ} (above : x ≤ n) : roundAway x ≤ n := by
  obtain ⟨-, error⟩ := abs_le.mp (abs_roundAway_sub_le x)
  have near : (roundAway x : ℝ) < (n + 1 : ℤ) := by
    push_cast
    linarith
  have near' : roundAway x < n + 1 := by exact_mod_cast near
  omega

/-- Two numbers that add up to an integer are rounded to integers that add up to it but for one. -/
theorem abs_roundAway_add_sub_le {x y : ℝ} {n : ℤ} (sum : x + y = n) : |roundAway x + roundAway y - n| ≤ 1 := by
  have first := abs_roundAway_sub_le x
  have second := abs_roundAway_sub_le y
  have both := abs_add_le ((roundAway x : ℝ) - x) (roundAway y - y)
  have errors : (roundAway x : ℝ) - x + (roundAway y - y) = (roundAway x + roundAway y - n : ℤ) := by
    push_cast
    linarith
  rw [errors] at both
  have bound : |((roundAway x + roundAway y - n : ℤ) : ℝ)| ≤ 1 := by linarith
  exact_mod_cast bound

/-- The real numbers with a function in place of `std::pow`. -/
def RealWith (_pow : ℝ → ℝ → ℝ) : Type := ℝ

open RealArith in
noncomputable instance (pow : ℝ → ℝ → ℝ) : DoubleConversions (RealWith pow) :=
  { (inferInstance : DoubleArith ℝ) with
    toInt := fun x : ℝ => if x < 0 then ⌈x⌉ else ⌊x⌋
    lround := roundAway
    pow := pow }

namespace RealConversions

open RealArith in
/-- The real numbers with their own powers. -/
noncomputable scoped instance : DoubleConversions ℝ :=
  { (inferInstance : DoubleArith ℝ) with
    toInt := fun x => if x < 0 then ⌈x⌉ else ⌊x⌋
    lround := roundAway
    pow := fun x y => x ^ y }

end RealConversions

end Arena60.Misc
