import Arena60.Misc.Binary64
import Arena60.Misc.Numerals
import Mathlib.Data.List.DropRight

/-!
# General notation

How a stream writes a `double` by default, which is `%g`: the nearest number with six significant digits,
in positional notation unless its exponent is below -4 or above 5, and without zeros at the end.
-/

namespace Arena60.Misc

universe u

/-! ## Six significant digits -/

/-- The significant digits as a number, and the exponent of the first of them. -/
def significant (x : ℚ) : Nat × Int :=
  let exponent := Int.log 10 x
  let digits := (roundEven (x / 10 ^ (exponent - 5))).toNat
  -- Rounding up may carry into a seventh digit.
  if digits = 10 ^ 6 then (10 ^ 5, exponent + 1) else (digits, exponent)

/-- The number that is shown for another. -/
def shown (x : ℚ) : ℚ := (significant x).1 * 10 ^ ((significant x).2 - 5)

theorem shown_eq (x : ℚ) :
    shown x = (roundEven (x / 10 ^ (Int.log 10 x - 5))).toNat * (10 : ℚ) ^ (Int.log 10 x - 5) := by
  unfold shown significant
  dsimp only
  split_ifs with carry
  · rw [carry]
    have step : Int.log 10 x + 1 - 5 = Int.log 10 x - 5 + 1 := by omega
    rw [step, zpow_add_one₀ (by norm_num)]
    push_cast
    ring
  · rfl

theorem abs_sub_roundEven (x : ℚ) : |roundEven x - x| ≤ 1 / 2 := by
  have below := Int.floor_le x
  have above := Int.lt_floor_add_one x
  unfold roundEven
  dsimp only
  split_ifs with lower upper even
  · rw [abs_le]
    constructor <;> linarith
  · rw [abs_le]
    push_cast
    constructor <;> linarith
  · rw [abs_le]
    constructor <;> linarith
  · rw [abs_le]
    push_cast
    constructor <;> linarith

theorem roundEven_intCast (n : Int) : roundEven n = n := by simp [roundEven]

theorem roundEven_nonneg {x : ℚ} (nonneg : 0 ≤ x) : 0 ≤ roundEven x :=
  le_roundEven (by exact_mod_cast nonneg)

theorem cast_toNat_roundEven {x : ℚ} (nonneg : 0 ≤ x) : ((roundEven x).toNat : ℚ) = roundEven x := by
  exact_mod_cast Int.toNat_of_nonneg (roundEven_nonneg nonneg)

theorem ten_zpow_pos (n : Int) : (0 : ℚ) < 10 ^ n := zpow_pos (by norm_num) n

theorem shown_zero : shown 0 = 0 := by simp [shown_eq, roundEven]

/-- The unit of the sixth significant digit. -/
def sixthUnit (x : ℚ) : ℚ := 10 ^ (Int.log 10 x - 5)

/-- What is shown is off by at most half a unit of the sixth digit. -/
theorem abs_shown_sub_le {x : ℚ} (nonneg : 0 ≤ x) : |shown x - x| ≤ sixthUnit x / 2 := by
  have unit : 0 < sixthUnit x := ten_zpow_pos (Int.log 10 x - 5)
  have nonneg : 0 ≤ x / sixthUnit x := div_nonneg nonneg unit.le
  have close := abs_sub_roundEven (x / sixthUnit x)
  have scaled : (roundEven (x / sixthUnit x) : ℚ) * sixthUnit x - x =
      (roundEven (x / sixthUnit x) - x / sixthUnit x) * sixthUnit x := by
    field_simp
  have whole : shown x = roundEven (x / sixthUnit x) * sixthUnit x := by
    rw [← cast_toNat_roundEven nonneg]
    exact shown_eq x
  rw [whole, scaled, abs_mul, abs_of_pos unit]
  calc |(roundEven (x / sixthUnit x) : ℚ) - x / sixthUnit x| * sixthUnit x
      ≤ 1 / 2 * sixthUnit x := mul_le_mul_of_nonneg_right close unit.le
    _ = sixthUnit x / 2 := by ring

/-- A number of at most six digits, wherever the point is. -/
def SixDigits (x : ℚ) : Prop := ∃ (n : Nat) (k : Int), n < 10 ^ 6 ∧ x = n * 10 ^ k

/-- Six digits are shown as they are. -/
theorem SixDigits.shown_eq {x : ℚ} (sixDigits : SixDigits x) : shown x = x := by
  obtain ⟨n, k, few, rfl⟩ := sixDigits
  rcases Nat.eq_zero_or_pos n with rfl | positive
  · simp [shown_zero]
  · have unit := ten_zpow_pos k
    have positive' : (0 : ℚ) < n * 10 ^ k := mul_pos (by exact_mod_cast positive) unit
    have below : (n * 10 ^ k : ℚ) < (10 : ℕ) ^ (k + 6) := by
      rw [Nat.cast_ofNat, add_comm, zpow_add₀ (by norm_num)]
      exact mul_lt_mul_of_pos_right (by exact_mod_cast few) unit
    have log : Int.log 10 (n * 10 ^ k : ℚ) < k + 6 := (Int.lt_zpow_iff_log_lt (by norm_num) positive').mp below
    rw [Misc.shown_eq]
    generalize Int.log 10 (n * 10 ^ k : ℚ) = exponent at log
    obtain ⟨places, split⟩ := Int.le.dest (show exponent - 5 ≤ k by omega)
    have power : (10 : ℚ) ^ k = 10 ^ (exponent - 5) * 10 ^ places := by
      rw [← split, zpow_add₀ (by norm_num), zpow_natCast]
    have whole : (n * 10 ^ k : ℚ) / 10 ^ (exponent - 5) = ((n * 10 ^ places : Nat) : Int) := by
      have unit' := (ten_zpow_pos (exponent - 5)).ne'
      rw [power]
      push_cast
      field_simp
    rw [whole, roundEven_intCast, Int.toNat_natCast, power]
    push_cast
    ring

/-! ## The text -/

/-- The digits after the point without zeros at the end. -/
def trimmed (places part : Nat) : Option Digits :=
  let chars := (fractionDigits places part).rdropWhile (· == '0')
  if chars = [] then none
  else some ⟨chars, fun c member => isDigit_fractionDigits places part c ((List.rdropWhile_prefix _ _).subset member)⟩

/-- An exponent has two digits at least. -/
def exponentOf (exponent : Int) : ExponentField :=
  ⟨false, ⟨if exponent < 0 then .minus else .plus,
    ⟨fractionDigits 2 exponent.natAbs, isDigit_fractionDigits 2 exponent.natAbs⟩⟩⟩

/-- `%g` of a finite number. -/
def generalField (negative : Bool) (x : ℚ) : DecimalField :=
  let (digits, exponent) := significant x
  let positional := -4 ≤ exponent ∧ exponent < 6
  let places := if positional then (5 - exponent).toNat else 5
  { sign := if negative then .minus else .none
    whole := .ofNat (digits / 10 ^ places)
    fraction := trimmed places (digits % 10 ^ places)
    exponent := if positional then none else some (exponentOf exponent) }

theorem generalField_sign (negative : Bool) (x : ℚ) :
    ((generalField negative x).sign == .minus) = negative := by
  cases negative <;> rfl

theorem complete_generalField (negative : Bool) (x : ℚ) : (generalField negative x).Complete := by
  refine ⟨?_, ?_⟩
  · intro empty
    exact Nat.toDigits_ne_nil (List.append_eq_nil_iff.mp empty).1
  · intro field member
    unfold generalField at member
    dsimp only at member
    split_ifs at member
    · cases member
    · cases member
      exact fractionDigits_ne_nil _ _

/-- What digits after a point stand for. -/
def fractionValue (chars : List Char) : ℚ := Nat.ofDigitChars 10 chars 0 / 10 ^ chars.length

theorem ofDigitChars_zeros (chars : List Char) (zeros : Nat) :
    Nat.ofDigitChars 10 (chars ++ List.replicate zeros '0') 0 = Nat.ofDigitChars 10 chars 0 * 10 ^ zeros := by
  rw [Nat.ofDigitChars_append, Nat.ofDigitChars_replicate_zero, Nat.mul_comm]

/-- Zeros at the end do not count. -/
theorem fractionValue_zeros (chars : List Char) (zeros : Nat) :
    fractionValue (chars ++ List.replicate zeros '0') = fractionValue chars := by
  unfold fractionValue
  rw [ofDigitChars_zeros, List.length_append, List.length_replicate, pow_add]
  push_cast
  field_simp

theorem value_fractionDigits (places part : Nat) : Nat.ofDigitChars 10 (fractionDigits places part) 0 = part := by
  rw [fractionDigits, Nat.ofDigitChars_append, Nat.ofDigitChars_replicate_zero, Nat.mul_zero,
    Nat.ofDigitChars_ten_toDigits]

theorem fractionValue_fractionDigits {places part : Nat} (fits : part < 10 ^ places) :
    fractionValue (fractionDigits places part) = part / 10 ^ places := by
  rw [fractionValue, value_fractionDigits]
  rcases Nat.eq_zero_or_pos places with rfl | some
  · have zero : part = 0 := by omega
    subst zero
    simp
  · have short : (Nat.toDigits 10 part).length ≤ places :=
      (Nat.length_toDigits_le_iff (by decide) some).mpr fits
    have length : (fractionDigits places part).length = places := by
      rw [fractionDigits, List.length_append, List.length_replicate]
      omega
    rw [length]

theorem DecimalField.magnitude_eq (field : DecimalField) :
    field.magnitude = (field.whole.value + fractionValue ((field.fraction.map Digits.chars).getD [])) *
      10 ^ ((field.exponent.map fun exponent => exponent.power.value).getD 0) := by
  have length : ((field.fraction.map fun digits => (digits.chars.length : Int)).getD 0) =
      (((field.fraction.map Digits.chars).getD []).length : Int) := by
    cases field.fraction <;> rfl
  rw [DecimalField.magnitude, length, mantissa, zpow_sub₀ (by norm_num), zpow_natCast, Nat.ofDigitChars_append,
    Nat.ofDigitChars_eq_ofDigitChars_zero, fractionValue, Digits.value]
  push_cast
  field_simp

theorem fractionValue_trimmed {places part : Nat} (fits : part < 10 ^ places) :
    fractionValue (((trimmed places part).map Digits.chars).getD []) = part / 10 ^ places := by
  have kept : ((trimmed places part).map Digits.chars).getD [] =
      (fractionDigits places part).rdropWhile (· == '0') := by
    unfold trimmed
    dsimp only
    split_ifs with none
    · rw [none]
      rfl
    · rfl
  have zeros : (fractionDigits places part).rtakeWhile (· == '0') =
      List.replicate ((fractionDigits places part).rtakeWhile (· == '0')).length '0' := by
    refine List.eq_replicate_iff.mpr ⟨rfl, ?_⟩
    intro c member
    have zero : (c == '0') = true := List.mem_rtakeWhile_imp (p := fun c => c == '0') member
    exact beq_iff_eq.mp zero
  have whole : (fractionDigits places part).rdropWhile (· == '0') ++
      (fractionDigits places part).rtakeWhile (· == '0') = fractionDigits places part :=
    List.rdropWhile_append_rtakeWhile
  rw [kept, ← fractionValue_zeros _ ((fractionDigits places part).rtakeWhile (· == '0')).length, ← zeros, whole,
    fractionValue_fractionDigits fits]

theorem value_exponentOf (exponent : Int) : (exponentOf exponent).power.value = exponent := by
  have value : Digits.value ⟨fractionDigits 2 exponent.natAbs, isDigit_fractionDigits 2 exponent.natAbs⟩ =
      exponent.natAbs := by
    exact value_fractionDigits 2 exponent.natAbs
  unfold exponentOf IntegerField.value
  dsimp only
  rw [value]
  by_cases negative : exponent < 0
  · rw [if_pos negative, if_pos rfl]
    omega
  · rw [if_neg negative, if_neg (by decide)]
    omega

/-- The text stands for the number that is shown. -/
theorem magnitude_generalField (negative : Bool) (x : ℚ) : (generalField negative x).magnitude = shown x := by
  have parts : ∀ digits places : Nat, ((Digits.ofNat (digits / 10 ^ places)).value +
      fractionValue (((trimmed places (digits % 10 ^ places)).map Digits.chars).getD []) : ℚ) =
        digits / 10 ^ places := by
    intro digits places
    have value : (Digits.ofNat (digits / 10 ^ places)).value = digits / 10 ^ places := Nat.ofDigitChars_ten_toDigits
    have split := Nat.div_add_mod digits (10 ^ places)
    rw [value, fractionValue_trimmed (Nat.mod_lt _ (by positivity))]
    rw [eq_div_iff (by positivity), add_mul, div_mul_cancel₀ _ (by positivity)]
    exact_mod_cast (Nat.mul_comm _ _ ▸ split)
  rw [DecimalField.magnitude_eq, shown]
  unfold generalField
  cases significant x with
  | mk digits exponent =>
      dsimp only
      by_cases positional : -4 ≤ exponent ∧ exponent < 6
      · rw [if_pos positional, if_pos positional, parts]
        have places : exponent - 5 = -((5 - exponent).toNat : Int) := by omega
        rw [places, zpow_neg, zpow_natCast, div_eq_mul_inv]
        simp
      · rw [if_neg positional, if_neg positional, parts]
        rw [Option.map_some, Option.getD_some, value_exponentOf, zpow_sub₀ (by norm_num)]
        norm_num
        ring

/-! ## Doubles -/

/-- What is printed of a `double`. -/
inductive DoubleClass where
  | finite (negative : Bool) (magnitude : ℚ) (nonneg : 0 ≤ magnitude)
  | infinite (negative : Bool)
  | notANumber (negative : Bool)

/-- The classes of the `double` values of an arithmetic. -/
class PrintedDouble (R : Type u) where
  classify : R → DoubleClass

instance : PrintedDouble ℚ := ⟨fun x => .finite (decide (x < 0)) |x| (abs_nonneg x)⟩

/-- `operator<<` for a `double`. -/
def printDouble {R : Type u} [PrintedDouble R] (x : R) : List Char :=
  match PrintedDouble.classify x with
  | .finite negative magnitude _ => (generalField negative magnitude).text
  | .infinite negative => (if negative then "-inf" else "inf").toList
  | .notANumber negative => (if negative then "-nan" else "nan").toList

/-- The characters of numbers. -/
def isNumeral (c : Char) : Bool := c.isAlphanum || c == '.' || c == '+' || c == '-'

theorem isNumeral_of_isDigit {c : Char} (digit : c.isDigit = true) : isNumeral c = true := by
  simp [isNumeral, Char.isAlphanum, digit]

theorem DecimalField.numeral (field : DecimalField) : ∀ c ∈ field.text, isNumeral c = true := by
  obtain ⟨sign, whole, fraction, exponent⟩ := field
  have signs : ∀ sign : Sign, ∀ c ∈ sign.text, isNumeral c = true := by
    intro sign
    cases sign with
    | none => exact fun _ member => absurd member List.not_mem_nil
    | plus => exact List.forall_mem_singleton.mpr (by decide)
    | minus => exact List.forall_mem_singleton.mpr (by decide)
  have digits : ∀ digits : Digits, ∀ c ∈ digits.chars, isNumeral c = true :=
    fun digits c member => isNumeral_of_isDigit (digits.decimal c member)
  have fraction' : ∀ c ∈ fractionText fraction, isNumeral c = true := by
    cases fraction with
    | none => exact fun _ member => absurd member List.not_mem_nil
    | some fraction => exact List.forall_mem_cons.mpr ⟨by decide, digits fraction⟩
  have exponent' : ∀ c ∈ exponentText exponent, isNumeral c = true := by
    cases exponent with
    | none => exact fun _ member => absurd member List.not_mem_nil
    | some field =>
        refine List.forall_mem_cons.mpr ⟨?_, List.forall_mem_append.mpr ⟨signs _, digits _⟩⟩
        cases field.capital <;> decide
  simp only [text, List.forall_mem_append]
  exact ⟨signs sign, digits whole, fraction', exponent'⟩

/-- What is printed of a `double` has no space, quote or line break. -/
theorem isNumeral_printDouble {R : Type u} [PrintedDouble R] (x : R) : ∀ c ∈ printDouble x, isNumeral c = true := by
  have words : ∀ word ∈ [("-inf" : String), "inf", "-nan", "nan"], (word.toList.all isNumeral) = true := by decide
  unfold printDouble
  split
  · exact DecimalField.numeral _
  · next negative _ =>
      cases negative
      · exact List.all_eq_true.mp (words "inf" (by simp))
      · exact List.all_eq_true.mp (words "-inf" (by simp))
  · next negative _ =>
      cases negative
      · exact List.all_eq_true.mp (words "nan" (by simp))
      · exact List.all_eq_true.mp (words "-nan" (by simp))

end Arena60.Misc
