import Mathlib.Data.Rat.Defs

/-!
# Floating-point arithmetic as an interface

A program that computes with `double` is modelled over an arbitrary type of
numbers with the operations it uses, written in the order the program applies
them. What is proved for every such type holds for hardware doubles with all
their rounding, and for exact arithmetic; a result about exact values names the
arithmetic it is about. No law is assumed of the operations: comparisons return
a `Bool` because they need not form an order.
-/

namespace Arena60.Misc

universe u

/-- The operations on `double` values of a program's expressions. -/
class DoubleArith (R : Type u) extends Add R, Sub R, Mul R, Div R where
  /-- The value of a numeric literal, or of an integer converted to `double`. -/
  ofRat : ℚ → R
  /-- `std::numeric_limits<double>::lowest()`. -/
  lowest : R
  /-- `std::sqrt`. -/
  sqrt : R → R
  /-- `std::abs`. -/
  abs : R → R
  /-- `std::atan2(y, x)`. -/
  atan2 : R → R → R
  /-- `x < y`. -/
  less : R → R → Bool
  /-- `x <= y`. -/
  lessEq : R → R → Bool

/-- The operations that leave `double` for integers, and `std::pow`. -/
class DoubleConversions (R : Type u) extends DoubleArith R where
  /-- `static_cast<int>(x)`, which drops the fraction. -/
  toInt : R → Int
  /-- `std::lround(x)`, which rounds halves away from zero. -/
  lround : R → Int
  /-- `std::pow(x, y)`. -/
  pow : R → R → R

namespace DoubleArith

variable {R : Type u} [DoubleArith R]

/-- `std::max(x, y)`, which returns its second argument exactly when the first is less. -/
def max (x y : R) : R := if less x y then y else x

end DoubleArith

end Arena60.Misc
