import Arena60.Misc.ExactArith

/-!
# Computed powers

The exact rational arithmetic with powers that can be computed: a power with a rational
exponent is a root, and the bits of its binary fraction are found one after the other.
-/

namespace Arena60.Misc

/-- The largest number whose `n`th power is at most `target`, from its highest bits `root` on. -/
def rootBelow (n target : Nat) : Nat → Nat → Nat
  | 0, root => root
  | bits + 1, root =>
      if (root + 2 ^ bits) ^ n ≤ target then rootBelow n target bits (root + 2 ^ bits)
      else rootBelow n target bits root

/-- A power rounded down to a multiple of `2 ^ (-53)`, if it is less than `2 ^ 7`. -/
def powDown (p q : ℚ) : ℚ :=
  rootBelow q.den ⌊p ^ q.num * 2 ^ (53 * q.den)⌋₊ 60 0 / 2 ^ 53

theorem rootBelow_spec {n target : Nat} : ∀ (bits root : Nat), root ^ n ≤ target →
    target < (root + 2 ^ bits) ^ n →
    rootBelow n target bits root ^ n ≤ target ∧ target < (rootBelow n target bits root + 1) ^ n
  | 0, _, below, above => ⟨below, above⟩
  | bits + 1, root, below, above => by
      rw [rootBelow]
      split
      · refine rootBelow_spec bits _ ‹_› ?_
        rwa [Nat.add_assoc, ← Nat.two_mul, ← Nat.pow_succ']
      · exact rootBelow_spec bits root below (Nat.lt_of_not_le ‹_›)

theorem rpow_pow_den {p : ℚ} (positive : 0 < p) (q : ℚ) :
    ((p : ℝ) ^ (q : ℝ)) ^ q.den = ((p ^ q.num : ℚ) : ℝ) := by
  have nonneg : (0 : ℝ) ≤ p := by exact_mod_cast positive.le
  have exponent : (q : ℝ) * (q.den : ℝ) = (q.num : ℝ) := by exact_mod_cast Rat.mul_den_eq_num q
  rw [← Real.rpow_natCast, ← Real.rpow_mul nonneg, exponent, Real.rpow_intCast, Rat.cast_zpow]

/-- The computed powers are those of the exact arithmetic. -/
theorem powDown_eq_roundDown {p q : ℚ} (positive : 0 < p) (small : (p : ℝ) ^ (q : ℝ) < 2 ^ 7) :
    powDown p q = roundDown ((p : ℝ) ^ (q : ℝ)) := by
  have nonneg : (0 : ℝ) ≤ (p : ℝ) ^ (q : ℝ) := Real.rpow_nonneg (by exact_mod_cast positive.le) _
  have scaled : ((p : ℝ) ^ (q : ℝ) * (2 ^ 53 : ℕ)) ^ q.den =
      ((p ^ q.num * 2 ^ (53 * q.den) : ℚ) : ℝ) := by
    rw [mul_pow, rpow_pow_den positive, Nat.cast_pow, ← pow_mul, Rat.cast_mul, Rat.cast_pow]
    norm_cast
  have nonnegScaled : (0 : ℚ) ≤ p ^ q.num * 2 ^ (53 * q.den) := by positivity
  -- the power is below the first number the bits cannot reach
  have above : ⌊p ^ q.num * 2 ^ (53 * q.den)⌋₊ < (0 + 2 ^ 60) ^ q.den := by
    rw [Nat.floor_lt nonnegScaled, ← Rat.cast_lt (K := ℝ), ← scaled]
    push_cast
    refine pow_lt_pow_left₀ ?_ (by positivity) q.den_nz
    linarith
  obtain ⟨reached, missed⟩ := rootBelow_spec 60 0 (by rw [zero_pow q.den_nz]; exact Nat.zero_le _) above
  rw [powDown, roundDown]
  generalize rootBelow q.den ⌊p ^ q.num * 2 ^ (53 * q.den)⌋₊ 60 0 = root at reached missed ⊢
  rw [Nat.le_floor_iff nonnegScaled, ← Rat.cast_le (K := ℝ), ← scaled] at reached
  rw [Nat.floor_lt nonnegScaled, ← Rat.cast_lt (K := ℝ), ← scaled] at missed
  have floor : ⌊(p : ℝ) ^ (q : ℝ) * (2 ^ 53 : ℕ)⌋ = (root : ℤ) := by
    rw [Int.floor_eq_iff]
    rw [Rat.cast_natCast, Nat.cast_pow] at reached
    rw [Rat.cast_natCast, Nat.cast_pow (root + 1)] at missed
    have least := le_of_pow_le_pow_left₀ q.den_nz (by positivity) reached
    have greatest := lt_of_pow_lt_pow_left₀ q.den (by positivity) missed
    rw [Nat.cast_succ] at greatest
    exact ⟨least, greatest⟩
  rw [floor, Int.cast_natCast]

/-- The exact arithmetic with computed powers. -/
@[reducible] noncomputable def computedPowers : DoubleConversions ℚ :=
  { (inferInstance : DoubleConversions ℚ) with pow := powDown }

/-- The rationals under the arithmetic with computed powers. -/
def Computed : Type := ℚ

noncomputable instance : DoubleConversions Computed := computedPowers

end Arena60.Misc
