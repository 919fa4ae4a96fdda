import Arena60.Misc.Binary64
import Arena60.Misc.Json
import Arena60.Misc.Numerals

/-!
# Numbers at the beginning of a text

`std::stod` and `std::stol`: the longest beginning of a text, after white space, that is a number. What
follows it is ignored; a text without a number and a number out of range are exceptions.
-/

namespace Arena60.Misc

/-- The exceptions of `std::stod` and `std::stol`. -/
inductive ConversionError where
  | invalidArgument
  | outOfRange
  deriving DecidableEq, Repr

/-- What the number at the beginning of a text stands for, before it is rounded. -/
inductive Numeral where
  | number (negative : Bool) (magnitude : ℚ) (nonneg : 0 ≤ magnitude)
  | infinity (negative : Bool)
  | nan

/-- The text after some letters, which may be written small or capital. -/
def afterLetters : List Char → List Char → Option (List Char)
  | [], body => some body
  | _ :: _, [] => none
  | letter :: letters, c :: body => if c.toLower = letter then afterLetters letters body else none

/-! ## Decimal numbers -/

/-- A decimal number; an exponent without digits is left to what follows. -/
def decimalPrefix (body : List Char) : Option DecimalField :=
  let (field, _) := scanDecimal body
  let field := { field with exponent := field.exponent.filter fun exponent => exponent.power.Complete }
  if field.Complete then some field else none

theorem DecimalField.magnitude_nonneg (field : DecimalField) : 0 ≤ field.magnitude := by
  unfold magnitude
  positivity

/-! ## Hexadecimal numbers -/

/-- A hexadecimal number without its sign: the values of the digits before and after the point, and the
power of two. -/
structure HexField where
  whole : List Nat
  fraction : List Nat
  power : Option IntegerField

def HexField.magnitude (field : HexField) : ℚ :=
  ((field.whole ++ field.fraction).foldl (fun value digit => 16 * value + digit) 0 : Nat) *
    2 ^ (((field.power.map IntegerField.value).getD 0) - 4 * (field.fraction.length : Int))

theorem HexField.magnitude_nonneg (field : HexField) : 0 ≤ field.magnitude := by
  unfold magnitude
  positivity

def scanHexDigits : List Char → List Nat × List Char
  | [] => ([], [])
  | c :: body =>
      match Json.hexDigit c with
      | none => ([], c :: body)
      | some digit =>
          let (digits, rest) := scanHexDigits body
          (digit :: digits, rest)

/-- A hexadecimal number: `0x`, a digit at least, and an exponent if it has digits. -/
def hexPrefix (body : List Char) : Option HexField :=
  match afterLetters ['0', 'x'] body with
  | none => none
  | some body =>
      let (whole, body) := scanHexDigits body
      let (fraction, body) :=
        match body with
        | '.' :: rest => scanHexDigits rest
        | _ => ([], body)
      let power := ((afterLetters ['p'] body).map fun body => (scanInteger body).1).filter
        fun power => power.Complete
      if whole ++ fraction = [] then none else some ⟨whole, fraction, power⟩

/-! ## The conversions -/

/-- The number at the beginning of a text. -/
def numericPrefix (text : List Char) : Option Numeral :=
  let body := text.dropWhile isSpace
  let (sign, digits) := scanSign body
  let negative := sign == .minus
  match hexPrefix digits with
  | some field => some (.number negative field.magnitude field.magnitude_nonneg)
  | none =>
      if (afterLetters ['i', 'n', 'f'] digits).isSome then some (.infinity negative)
      else if (afterLetters ['n', 'a', 'n'] digits).isSome then some .nan
      else (decimalPrefix body).map fun field =>
        .number negative field.magnitude field.magnitude_nonneg

/-- A magnitude that overflows, or that lies below the normal range and is no value of the format. -/
def isOutOfRange (magnitude : ℚ) : Bool :=
  decide (overflowThreshold ≤ magnitude) ||
    (decide (0 < magnitude ∧ magnitude < 2 ^ (-1022 : Int)) && (magnitude / 2 ^ (-1074 : Int)).den != 1)

/-- `std::stod`. -/
def stod (text : String) : Except ConversionError Binary64 :=
  match numericPrefix text.toList with
  | none => .error .invalidArgument
  | some (.number negative magnitude nonneg) =>
      if isOutOfRange magnitude then .error .outOfRange else .ok (.round negative magnitude nonneg)
  | some (.infinity negative) => .ok (.infinite negative)
  | some .nan => .ok .nan

/-- `std::stol`, for 64 bits. -/
def stol (text : String) : Except ConversionError Int :=
  let (field, _) := scanInteger (text.toList.dropWhile isSpace)
  if field.Complete then
    match toSigned (2 ^ 63) field with
    | none => .error .outOfRange
    | some value => .ok value
  else .error .invalidArgument

theorem exists_natCast_of_den {q : ℚ} (nonneg : 0 ≤ q) (whole : q.den = 1) : ∃ n : Nat, q = n := by
  have numerator : 0 ≤ q.num := Rat.num_nonneg.mpr nonneg
  refine ⟨q.num.toNat, ?_⟩
  calc q = q.num := (Rat.coe_int_num_of_den_eq_one whole).symm
    _ = q.num.toNat := by exact_mod_cast (Int.toNat_of_nonneg numerator).symm

/-- A magnitude in range is normal, or one of the values below the normal range. -/
theorem normal_or_multiple {magnitude : ℚ} (nonneg : 0 ≤ magnitude)
    (inRange : isOutOfRange magnitude = false) : magnitude < overflowThreshold ∧
      (2 ^ (-1022 : Int) ≤ magnitude ∨ ∃ n : Nat, magnitude = n * 2 ^ (-1074 : Int)) := by
  simp only [isOutOfRange, Bool.or_eq_false_iff, Bool.and_eq_false_iff, decide_eq_false_iff_not,
    bne_eq_false_iff_eq, not_le, not_and, not_lt] at inRange
  obtain ⟨small, normal | whole⟩ := inRange
  · refine ⟨small, ?_⟩
    rcases nonneg.lt_or_eq with positive | zero
    · exact Or.inl (normal positive)
    · refine Or.inr ⟨0, ?_⟩
      rw [← zero, Nat.cast_zero, zero_mul]
  · have unit := two_zpow_pos (-1074)
    obtain ⟨n, count⟩ := exists_natCast_of_den (div_nonneg nonneg unit.le) whole
    exact ⟨small, Or.inr ⟨n, (div_eq_iff unit.ne').mp count⟩⟩

end Arena60.Misc
