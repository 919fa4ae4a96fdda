import Mathlib.Data.Rat.Floor

/-!
# Decimal texts

How a stream writes a `double` in fixed notation: the exact value is rounded to the nearest decimal
with the given number of digits, halves to the even one.
-/

namespace Arena60.Misc

universe u

/-- The exact values of the finite `double` values of an arithmetic. -/
class DoubleValue (R : Type u) where
  toRat : R → ℚ

instance : DoubleValue ℚ := ⟨id⟩

/-- The nearest integer; halves are rounded to the even one. -/
def roundEven (x : ℚ) : Int :=
  let below := ⌊x⌋
  if x - below < 1 / 2 then below
  else if 1 / 2 < x - below then below + 1
  else if below % 2 = 0 then below
  else below + 1

/-- The digits after the point, with leading zeros. -/
def fractionDigits (precision part : Nat) : List Char :=
  List.replicate (precision - (Nat.toDigits 10 part).length) '0' ++ Nat.toDigits 10 part

/-- `std::fixed` and `std::setprecision(precision)`, with at least one digit after the point. -/
def fixedText (precision : Nat) (x : ℚ) : String :=
  let scaled := (roundEven (|x| * 10 ^ precision)).toNat
  (if x < 0 then "-" else "") ++ toString (scaled / 10 ^ precision) ++ "." ++
    String.ofList (fractionDigits precision (scaled % 10 ^ precision))

theorem isDigit_fractionDigits (precision part : Nat) :
    ∀ c ∈ fractionDigits precision part, c.isDigit = true := by
  intro c member
  rcases List.mem_append.mp member with zero | digit
  · rw [List.eq_of_mem_replicate zero]
    rfl
  · exact Nat.isDigit_of_mem_toDigits (by decide) (by decide) digit

theorem fractionDigits_ne_nil (precision part : Nat) : fractionDigits precision part ≠ [] := by
  simp [fractionDigits, Nat.toDigits_ne_nil]

end Arena60.Misc
