import Arena60.Misc.Decimals
import Mathlib.Algebra.Order.Field.Power
import Mathlib.Data.Int.Log
import Mathlib.Tactic.FieldSimp
import Mathlib.Tactic.Linarith
import Mathlib.Tactic.NormNum
import Mathlib.Tactic.Positivity
import Mathlib.Tactic.Ring

/-!
# Binary64 values

The values of a `double`, rounding to the nearest of them with halves to the even one, and the
reciprocal. A finite value carries the proof that it has the format.
-/

namespace Arena60.Misc

/-! ## Rounding to an integer -/

theorem roundEven_bounds (x : ℚ) : ⌊x⌋ ≤ roundEven x ∧ roundEven x ≤ ⌊x⌋ + 1 := by
  unfold roundEven
  dsimp only
  split_ifs <;> omega

theorem le_roundEven {n : Int} {x : ℚ} (below : n ≤ x) : n ≤ roundEven x := by
  have floor : n ≤ ⌊x⌋ := Int.le_floor.mpr below
  have bounds := roundEven_bounds x
  omega

theorem roundEven_le {n : Int} {x : ℚ} (above : x ≤ n) : roundEven x ≤ n := by
  rcases above.lt_or_eq with less | same
  · have floor : ⌊x⌋ < n := Int.floor_lt.mpr less
    have bounds := roundEven_bounds x
    omega
  · subst same
    simp [roundEven]

/-- Below the half in front of an integer the integer is not reached. -/
theorem roundEven_lt {n : Int} {x : ℚ} (above : x < n - 1 / 2) : roundEven x < n := by
  have floor : ⌊x⌋ < n := by
    rw [Int.floor_lt]
    linarith
  unfold roundEven
  dsimp only
  by_cases last : ⌊x⌋ = n - 1
  · have small : x - ⌊x⌋ < 1 / 2 := by
      rw [last]
      push_cast
      linarith
    rw [if_pos small]
    exact floor
  · split_ifs <;> omega

/-! ## The format -/

/-- The magnitudes of the finite values: a significand of at most 53 bits times a power of two. -/
def IsMagnitude (q : ℚ) : Prop :=
  ∃ (significand : Nat) (exponent : Int), significand < 2 ^ 53 ∧ -1074 ≤ exponent ∧ exponent ≤ 971 ∧
    q = significand * 2 ^ exponent

/-- The values of a `double`. -/
inductive Binary64 where
  | nan
  | infinite (negative : Bool)
  | finite (negative : Bool) (magnitude : ℚ) (representable : IsMagnitude magnitude)

theorem isMagnitude_zero : IsMagnitude 0 := ⟨0, 0, by norm_num, by norm_num, by norm_num, by norm_num⟩

theorem IsMagnitude.nonneg {q : ℚ} (representable : IsMagnitude q) : 0 ≤ q := by
  obtain ⟨significand, exponent, -, -, -, rfl⟩ := representable
  positivity

/-- A finite value is a multiple of the least positive one. -/
theorem IsMagnitude.multiple {q : ℚ} (representable : IsMagnitude q) :
    ∃ n : Nat, q = n * 2 ^ (-1074 : Int) := by
  obtain ⟨significand, exponent, -, least, -, rfl⟩ := representable
  obtain ⟨more, sum⟩ := Int.eq_ofNat_of_zero_le (show 0 ≤ exponent + 1074 by omega)
  have split : exponent = more + (-1074) := by omega
  refine ⟨significand * 2 ^ more, ?_⟩
  rw [split, zpow_add₀ (by norm_num), zpow_natCast, Nat.cast_mul, Nat.cast_pow, Nat.cast_ofNat,
    mul_assoc]

/-! ## Rounding to the format -/

/-- The exponent of the unit in the last place of a number. -/
def ulpExponent (q : ℚ) : Int := max (Int.log 2 q - 52) (-1074)

/-- The nearest multiple of the unit in the last place; halves go to the even one. -/
def nearest (q : ℚ) : ℚ := roundEven (q / 2 ^ ulpExponent q) * 2 ^ ulpExponent q

theorem two_zpow_pos (k : Int) : (0 : ℚ) < 2 ^ k := zpow_pos (by norm_num) k

theorem div_ulp_lt (q : ℚ) : q / 2 ^ ulpExponent q < 2 ^ 53 := by
  have above := Int.lt_zpow_succ_log_self (b := 2) (by decide) q
  have exponents : Int.log 2 q + 1 ≤ 53 + ulpExponent q := by
    unfold ulpExponent
    omega
  rw [div_lt_iff₀ (two_zpow_pos _)]
  calc q < 2 ^ (Int.log 2 q + 1) := by exact_mod_cast above
    _ ≤ 2 ^ (53 + ulpExponent q) := zpow_le_zpow_right₀ (by norm_num) exponents
    _ = 2 ^ 53 * 2 ^ ulpExponent q := by
      rw [zpow_add₀ (by norm_num)]
      norm_num

/-- The multiples of the unit in the last place are kept on their side. -/
theorem multiple_le_nearest {q : ℚ} {n : Int} (below : n * 2 ^ ulpExponent q ≤ q) :
    n * 2 ^ ulpExponent q ≤ nearest q := by
  have integer : n ≤ roundEven (q / 2 ^ ulpExponent q) := by
    apply le_roundEven
    rwa [le_div_iff₀ (two_zpow_pos _)]
  unfold nearest
  gcongr

theorem nearest_le_multiple {q : ℚ} {n : Int} (above : q ≤ n * 2 ^ ulpExponent q) :
    nearest q ≤ n * 2 ^ ulpExponent q := by
  have integer : roundEven (q / 2 ^ ulpExponent q) ≤ n := by
    apply roundEven_le
    rwa [div_le_iff₀ (two_zpow_pos _)]
  unfold nearest
  gcongr

theorem nearest_of_multiple {q : ℚ} {n : Int} (same : q = n * 2 ^ ulpExponent q) : nearest q = q :=
  le_antisymm ((nearest_le_multiple same.le).trans same.ge) (same.le.trans (multiple_le_nearest same.ge))

/-- A power of two within the format is a multiple of the units of the numbers up to it. -/
theorem zpow_eq_multiple {k e : Int} (finer : e ≤ k) : ∃ n : Int, (2 : ℚ) ^ k = n * 2 ^ e := by
  obtain ⟨more, sum⟩ := Int.eq_ofNat_of_zero_le (show 0 ≤ k - e by omega)
  refine ⟨2 ^ more, ?_⟩
  have split : k = more + e := by omega
  rw [split, zpow_add₀ (by norm_num), zpow_natCast]
  push_cast
  rfl

theorem zpow_le_nearest {q : ℚ} {k : Int} (least : -1074 ≤ k) (below : 2 ^ k ≤ q) :
    2 ^ k ≤ nearest q := by
  have positive : 0 < q := (two_zpow_pos k).trans_le below
  have log : (2 : ℚ) ^ Int.log 2 q ≤ q := by
    exact_mod_cast Int.zpow_log_le_self (b := 2) (by decide) positive
  have higher : k ≤ Int.log 2 q :=
    (Int.zpow_le_iff_le_log (by decide) positive).mp (by exact_mod_cast below)
  have finer : ulpExponent q ≤ Int.log 2 q := by
    unfold ulpExponent
    omega
  obtain ⟨n, multiple⟩ := zpow_eq_multiple finer
  calc (2 : ℚ) ^ k ≤ 2 ^ Int.log 2 q := zpow_le_zpow_right₀ (by norm_num) higher
    _ = n * 2 ^ ulpExponent q := multiple
    _ ≤ nearest q := multiple_le_nearest (multiple ▸ log)

/-- Below the normal range the multiples of the least positive value are exact. -/
theorem nearest_of_subnormal {q : ℚ} (small : q < 2 ^ (-1022 : Int)) {n : Nat}
    (multiple : q = n * 2 ^ (-1074 : Int)) : nearest q = q := by
  have nonneg : 0 ≤ q := by
    rw [multiple]
    positivity
  rcases nonneg.lt_or_eq with positive | zero
  · have log : Int.log 2 q < -1022 :=
      (Int.lt_zpow_iff_log_lt (by decide) positive).mp (by exact_mod_cast small)
    have least : ulpExponent q = -1074 := by
      unfold ulpExponent
      omega
    apply nearest_of_multiple (n := n)
    rw [least]
    exact_mod_cast multiple
  · apply nearest_of_multiple (n := 0)
    rw [← zero]
    norm_num

/-- The numbers from here on are rounded to an infinity. -/
def overflowThreshold : ℚ := 2 ^ (1024 : Int) - 2 ^ (970 : Int)

theorem overflowThreshold_eq : overflowThreshold = (2 ^ 53 - 1 / 2) * 2 ^ (971 : Int) := by
  have upper : (2 : ℚ) ^ (1024 : Int) = 2 ^ 53 * 2 ^ (971 : Int) := by
    rw [show (1024 : Int) = 53 + 971 by norm_num, zpow_add₀ (by norm_num)]
    norm_num
  have half : (2 : ℚ) ^ (970 : Int) = 1 / 2 * 2 ^ (971 : Int) := by
    rw [show (970 : Int) = -1 + 971 by norm_num, zpow_add₀ (by norm_num)]
    norm_num
  rw [overflowThreshold, upper, half, sub_mul]

theorem lt_of_lt_overflowThreshold {q : ℚ} (small : q < overflowThreshold) : q < 2 ^ (1024 : Int) := by
  have slack := two_zpow_pos 970
  exact small.trans_le (sub_le_self _ slack.le)

/-- Rounding stays within the format. -/
theorem isMagnitude_nearest {q : ℚ} (nonneg : 0 ≤ q) (small : q < overflowThreshold) :
    IsMagnitude (nearest q) := by
  have coarse : ulpExponent q ≤ 971 := by
    unfold ulpExponent
    rcases nonneg.lt_or_eq with positive | zero
    · have log : Int.log 2 q < 1024 := (Int.lt_zpow_iff_log_lt (by decide) positive).mp
        (by exact_mod_cast lt_of_lt_overflowThreshold small)
      omega
    · rw [← zero, Int.log_zero_right]
      omega
  have fine : -1074 ≤ ulpExponent q := le_max_right _ _
  have low : 0 ≤ roundEven (q / 2 ^ ulpExponent q) := by
    apply le_roundEven
    exact_mod_cast div_nonneg nonneg (two_zpow_pos _).le
  have high : roundEven (q / 2 ^ ulpExponent q) ≤ 2 ^ 53 := by
    apply roundEven_le
    exact_mod_cast (div_ulp_lt q).le
  obtain ⟨significand, same⟩ := Int.eq_ofNat_of_zero_le low
  have rounded : nearest q = significand * 2 ^ ulpExponent q := by
    rw [nearest, same]
    rfl
  rcases high.lt_or_eq with less | carry
  · exact ⟨significand, ulpExponent q, by omega, fine, coarse, rounded⟩
  · -- the significand overflows into the next exponent, which the threshold leaves room for
    have room : ulpExponent q ≠ 971 := by
      intro last
      have reached : roundEven (q / 2 ^ ulpExponent q) < 2 ^ 53 := by
        apply roundEven_lt
        rw [last, div_lt_iff₀ (two_zpow_pos _)]
        rw [overflowThreshold_eq] at small
        exact_mod_cast small
      omega
    refine ⟨2 ^ 52, ulpExponent q + 1, by norm_num, by omega, by omega, ?_⟩
    have full : (significand : ℚ) = 2 ^ 53 := by
      rw [same] at carry
      exact_mod_cast carry
    have carried : (2 : ℚ) ^ 53 = 2 ^ 52 * 2 := by norm_num
    rw [rounded, full, zpow_add₀ (by norm_num), zpow_one, carried]
    push_cast
    ring

namespace Binary64

/-- The value nearest to a number with a sign. -/
def round (negative : Bool) (q : ℚ) (nonneg : 0 ≤ q) : Binary64 :=
  if small : q < overflowThreshold then finite negative (nearest q) (isMagnitude_nearest nonneg small)
  else infinite negative

/-- `1.0 / x`. -/
def reciprocal : Binary64 → Binary64
  | nan => nan
  | infinite negative => finite negative 0 isMagnitude_zero
  | finite negative magnitude representable =>
      if magnitude = 0 then infinite negative
      else round negative (1 / magnitude) (one_div_nonneg.mpr representable.nonneg)

/-- The finite values greater than 0. -/
def IsPositive : Binary64 → Prop
  | finite false magnitude _ => 0 < magnitude
  | _ => False

instance : DecidablePred IsPositive
  | nan => isFalse id
  | infinite _ => isFalse id
  | finite true _ _ => isFalse id
  | finite false magnitude _ => inferInstanceAs (Decidable (0 < magnitude))

/-- A number is rounded to a finite positive value unless it is too small or too large. -/
theorem round_isPositive {q : ℚ} {nonneg : 0 ≤ q} (least : 2 ^ (-1074 : Int) ≤ q) :
    (round false q nonneg).IsPositive ↔ q < overflowThreshold := by
  unfold round
  split_ifs with small
  · refine iff_of_true ?_ small
    exact (two_zpow_pos (-1074)).trans_le (zpow_le_nearest (by norm_num) least)
  · exact iff_of_false id small

/-- A reciprocal does not overflow as long as the value is above `2 ^ -1024`. -/
theorem one_div_lt_overflowThreshold_iff {magnitude : ℚ} (representable : IsMagnitude magnitude)
    (positive : 0 < magnitude) : 1 / magnitude < overflowThreshold ↔ 2 ^ (-1024 : Int) < magnitude := by
  constructor
  · intro small
    have inverse : 1 / magnitude < 2 ^ (1024 : Int) := lt_of_lt_overflowThreshold small
    rw [div_lt_iff₀ positive] at inverse
    rw [zpow_neg, inv_lt_iff_one_lt_mul₀ (two_zpow_pos _)]
    linarith
  · intro above
    -- the next value above is 2 ^ 50 + 1 least units, and its reciprocal rounds below the threshold
    obtain ⟨n, multiple⟩ := representable.multiple
    have bound : (2 : ℚ) ^ (-1024 : Int) = 2 ^ 50 * 2 ^ (-1074 : Int) := by
      rw [show (-1024 : Int) = 50 + -1074 by norm_num, zpow_add₀ (by norm_num)]
      norm_num
    have many : 2 ^ 50 + 1 ≤ n := by
      rw [multiple, bound] at above
      have fewer := lt_of_mul_lt_mul_right above (two_zpow_pos (-1074)).le
      exact_mod_cast fewer
    have many' : (2 : ℚ) ^ 50 + 1 ≤ n := by exact_mod_cast many
    have product : overflowThreshold * magnitude = (2 ^ 53 - 1 / 2) * n / 2 ^ 103 := by
      have units : (2 : ℚ) ^ (971 : Int) * 2 ^ (-1074 : Int) = 1 / 2 ^ 103 := by
        rw [← zpow_add₀ (by norm_num)]
        norm_num
      calc overflowThreshold * magnitude
          = (2 ^ 53 - 1 / 2) * n * (2 ^ (971 : Int) * 2 ^ (-1074 : Int)) := by
            rw [overflowThreshold_eq, multiple]
            ring
        _ = (2 ^ 53 - 1 / 2) * n / 2 ^ 103 := by
            rw [units]
            ring
    rw [div_lt_iff₀ positive, product, one_lt_div (by norm_num)]
    linarith

/-- The reciprocal of a value is finite and positive when the value is, and is not so small that the
reciprocal overflows. -/
theorem reciprocal_isPositive_iff (magnitude : ℚ) (representable : IsMagnitude magnitude) :
    ((finite false magnitude representable).IsPositive ∧
      (finite false magnitude representable).reciprocal.IsPositive) ↔ 2 ^ (-1024 : Int) < magnitude := by
  by_cases positive : 0 < magnitude
  · have below : magnitude ≤ 2 ^ (1024 : Int) := by
      obtain ⟨significand, exponent, bits, -, largest, rfl⟩ := representable
      have bits' : (significand : ℚ) ≤ 2 ^ 53 := by exact_mod_cast bits.le
      calc (significand : ℚ) * 2 ^ exponent ≤ 2 ^ 53 * 2 ^ (971 : Int) :=
            mul_le_mul bits' (zpow_le_zpow_right₀ (by norm_num) largest) (two_zpow_pos _).le
              (by norm_num)
        _ = 2 ^ (1024 : Int) := by
            rw [show (1024 : Int) = 53 + 971 by norm_num, zpow_add₀ (by norm_num)]
            norm_num
    have least : 2 ^ (-1074 : Int) ≤ 1 / magnitude := by
      rw [le_div_iff₀ positive]
      calc (2 : ℚ) ^ (-1074 : Int) * magnitude ≤ 2 ^ (-1074 : Int) * 2 ^ (1024 : Int) :=
            mul_le_mul_of_nonneg_left below (two_zpow_pos _).le
        _ = 2 ^ (-50 : Int) := by
            rw [← zpow_add₀ (by norm_num)]
            norm_num
        _ ≤ 1 := by norm_num
    rw [reciprocal, if_neg positive.ne', round_isPositive least,
      one_div_lt_overflowThreshold_iff representable positive]
    exact and_iff_right positive
  · refine iff_of_false (fun both => positive both.1) fun above => positive ?_
    exact (two_zpow_pos _).trans above

end Binary64

end Arena60.Misc
