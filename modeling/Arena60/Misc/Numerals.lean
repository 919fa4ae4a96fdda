import Arena60.Misc.InputStreams
import Mathlib.Algebra.Field.Rat
import Mathlib.Data.Rat.Cast.Defs
import Mathlib.Tactic.NormNum

/-!
# Numerals in formatted input

The fields of `operator>>` for integers and for floating-point numbers, in decimal, and their values:
an integer must fit its type, and a minus sign in front of an unsigned one wraps.
-/

namespace Arena60.Misc

universe u

/-- A sign, if there is one. -/
inductive Sign where
  | none
  | plus
  | minus
  deriving DecidableEq

def Sign.text : Sign → List Char
  | none => []
  | plus => ['+']
  | minus => ['-']

/-- Decimal digits. -/
structure Digits where
  chars : List Char
  decimal : ∀ c ∈ chars, c.isDigit = true

def Digits.value (digits : Digits) : Nat := Nat.ofDigitChars 10 digits.chars 0

/-- The digits of a number. -/
def Digits.ofNat (n : Nat) : Digits :=
  ⟨Nat.toDigits 10 n, fun _ => Nat.isDigit_of_mem_toDigits (by omega) (by omega)⟩

/-- An integer: a sign, if there is one, and digits. -/
structure IntegerField where
  sign : Sign
  digits : Digits

namespace IntegerField

def text (field : IntegerField) : List Char := field.sign.text ++ field.digits.chars

def Complete (field : IntegerField) : Prop := field.digits.chars ≠ []

instance (field : IntegerField) : Decidable field.Complete := inferInstanceAs (Decidable (¬_))

def value (field : IntegerField) : Int :=
  if field.sign = .minus then -(field.digits.value : Int) else field.digits.value

end IntegerField

/-- The power of ten of a floating-point number. -/
structure ExponentField where
  capital : Bool
  power : IntegerField

def ExponentField.text (field : ExponentField) : List Char :=
  (if field.capital then 'E' else 'e') :: field.power.text

/-- The digits after the point, if there is one. -/
def fractionText : Option Digits → List Char
  | none => []
  | some digits => '.' :: digits.chars

def exponentText : Option ExponentField → List Char
  | none => []
  | some exponent => exponent.text

/-- The digits before and after the point. -/
def mantissa (whole : Digits) (fraction : Option Digits) : List Char :=
  whole.chars ++ (fraction.map Digits.chars).getD []

/-- A floating-point number, in decimal. -/
structure DecimalField where
  sign : Sign
  whole : Digits
  fraction : Option Digits
  exponent : Option ExponentField

namespace DecimalField

def text (field : DecimalField) : List Char :=
  field.sign.text ++ (field.whole.chars ++ (fractionText field.fraction ++ exponentText field.exponent))

/-- There is a digit, and one after `e` too. -/
def Complete (field : DecimalField) : Prop :=
  mantissa field.whole field.fraction ≠ [] ∧ ∀ exponent ∈ field.exponent, exponent.power.Complete

instance (field : DecimalField) : Decidable field.Complete := inferInstanceAs (Decidable (_ ∧ _))

/-- The number without its sign. -/
def magnitude (field : DecimalField) : ℚ :=
  Nat.ofDigitChars 10 (mantissa field.whole field.fraction) 0 *
    10 ^ (((field.exponent.map fun exponent => exponent.power.value).getD 0) -
      ((field.fraction.map fun digits => (digits.chars.length : Int)).getD 0))

end DecimalField

/-! ## Scanning -/

def scanSign : List Char → Sign × List Char
  | '+' :: rest => (.plus, rest)
  | '-' :: rest => (.minus, rest)
  | body => (.none, body)

def scanDigits (body : List Char) : Digits × List Char :=
  (⟨body.takeWhile Char.isDigit, fun _ => List.mem_takeWhile_imp⟩, body.dropWhile Char.isDigit)

def scanInteger (body : List Char) : IntegerField × List Char :=
  let (sign, body) := scanSign body
  let (digits, rest) := scanDigits body
  (⟨sign, digits⟩, rest)

def scanFraction : List Char → Option Digits × List Char
  | '.' :: body =>
      let (digits, rest) := scanDigits body
      (some digits, rest)
  | body => (none, body)

def scanExponent : List Char → Option ExponentField × List Char
  | 'e' :: body =>
      let (power, rest) := scanInteger body
      (some ⟨false, power⟩, rest)
  | 'E' :: body =>
      let (power, rest) := scanInteger body
      (some ⟨true, power⟩, rest)
  | body => (none, body)

/-- An exponent is taken after a digit only. -/
def scanDecimal (body : List Char) : DecimalField × List Char :=
  let (sign, body) := scanSign body
  let (whole, body) := scanDigits body
  let (fraction, body) := scanFraction body
  if mantissa whole fraction = [] then (⟨sign, whole, fraction, none⟩, body)
  else
    let (exponent, rest) := scanExponent body
    (⟨sign, whole, fraction, exponent⟩, rest)

/-! ## What is taken -/

/-- A text does not begin with a digit. -/
def NoDigit (rest : List Char) : Prop := ∀ c ∈ rest.head?, c.isDigit = false

theorem noDigit_cons {c : Char} (other : c.isDigit = false) (rest : List Char) : NoDigit (c :: rest)
    := by
  intro d first
  cases first
  exact other

theorem EndsWord.head?_ne {rest : List Char} (ends : EndsWord rest) {c : Char}
    (solid : isSpace c = false) :
    rest.head? ≠ some c := by
  intro first
  have space := ends c first
  rw [solid] at space
  cases space

theorem not_isSpace_of_isDigit {c : Char} (digit : c.isDigit = true) : isSpace c = false := by
  simp only [Char.isDigit, Bool.and_eq_true, decide_eq_true_eq, ge_iff_le,
    UInt32.le_iff_toNat_le] at digit
  obtain ⟨low, high⟩ := digit
  have low' : 48 ≤ c.toNat := low
  simp only [isSpace, Bool.or_eq_false_iff, beq_eq_false_iff_ne, decide_eq_false_iff_not]
  omega

theorem EndsWord.noDigit {rest : List Char} (ends : EndsWord rest) : NoDigit rest := by
  intro c first
  cases digit : c.isDigit with
  | false => rfl
  | true => exact absurd first (ends.head?_ne (not_isSpace_of_isDigit digit))

theorem text_scanSign (body : List Char) : (scanSign body).1.text ++ (scanSign body).2 = body := by
  unfold scanSign
  split <;> rfl

theorem scanSign_text (sign : Sign) {rest : List Char} (plus : rest.head? ≠ some '+')
    (minus : rest.head? ≠ some '-') : scanSign (sign.text ++ rest) = (sign, rest) := by
  cases sign with
  | plus => rfl
  | minus => rfl
  | none =>
      rw [Sign.text, List.nil_append]
      unfold scanSign
      split
      · exact absurd rfl plus
      · exact absurd rfl minus
      · rfl

theorem text_scanDigits (body : List Char) : (scanDigits body).1.chars ++ (scanDigits body).2 = body :=
  List.takeWhile_append_dropWhile

theorem noDigit_scanDigits (body : List Char) : NoDigit (scanDigits body).2 := by
  intro c first
  exact head?_dropWhile_stops first

theorem scanDigits_append (digits : Digits) {rest : List Char} (stops : NoDigit rest) :
    scanDigits (digits.chars ++ rest) = (digits, rest) := by
  obtain ⟨chars, decimal⟩ := digits
  simpa only [scanDigits, Prod.mk.injEq, Digits.mk.injEq] using takeWhile_append_run decimal stops

/-- Digits begin with a digit. -/
theorem Digits.head?_ne {digits : Digits} (present : digits.chars ≠ []) (rest : List Char) {c : Char}
    (other : c.isDigit = false) : (digits.chars ++ rest).head? ≠ some c := by
  obtain ⟨chars, decimal⟩ := digits
  cases chars with
  | nil => exact absurd rfl present
  | cons d chars =>
      intro first
      have same : d = c := Option.some.inj first
      rw [← same, decimal d List.mem_cons_self] at other
      cases other

/-! ### Integers -/

theorem text_scanInteger (body : List Char)
    : (scanInteger body).1.text ++ (scanInteger body).2 = body := by
  have sign := text_scanSign body
  have digits := text_scanDigits (scanSign body).2
  simp only [scanInteger, IntegerField.text, List.append_assoc, digits, sign]

theorem noDigit_scanInteger (body : List Char) : NoDigit (scanInteger body).2 :=
  noDigit_scanDigits (scanSign body).2

theorem scanInteger_text {field : IntegerField} (complete : field.Complete) {rest : List Char}
    (stops : NoDigit rest) : scanInteger (field.text ++ rest) = (field, rest) := by
  have plus := Digits.head?_ne complete rest (c := '+') (by decide)
  have minus := Digits.head?_ne complete rest (c := '-') (by decide)
  simp only [scanInteger, IntegerField.text, List.append_assoc, scanSign_text field.sign plus minus,
    scanDigits_append field.digits stops]

theorem Sign.solid (sign : Sign) : ∀ c ∈ sign.text, isSpace c = false := by
  cases sign <;> simp [Sign.text, isSpace]

theorem Digits.solid (digits : Digits) : ∀ c ∈ digits.chars, isSpace c = false :=
  fun c member => not_isSpace_of_isDigit (digits.decimal c member)

theorem IntegerField.solid (field : IntegerField) : ∀ c ∈ field.text, isSpace c = false :=
  List.forall_mem_append.mpr ⟨field.sign.solid, field.digits.solid⟩

/-- The fields of `operator>>` for integers. -/
def integerKind : FieldKind IntegerField where
  text := IntegerField.text
  scan := scanInteger
  Complete := IntegerField.Complete
  Stops _ := NoDigit
  text_scan := text_scanInteger
  stops_scan body _ := noDigit_scanInteger body
  scan_text _ _ complete stops := scanInteger_text complete stops
  solid field complete := ⟨List.append_ne_nil_of_right_ne_nil _ complete, field.solid⟩
  stops_of_endsWord _ _ _ := EndsWord.noDigit

/-! ### Floating-point numbers -/

theorem text_scanFraction (body : List Char) :
    fractionText (scanFraction body).1 ++ (scanFraction body).2 = body := by
  unfold scanFraction
  split
  · next body => exact congrArg (List.cons '.') (text_scanDigits body)
  · rfl

theorem noDigit_scanFraction {body : List Char} (stops : NoDigit body)
    : NoDigit (scanFraction body).2 := by
  unfold scanFraction
  split
  · next body => exact noDigit_scanDigits body
  · exact stops

theorem scanFraction_none {body : List Char} (absent : (scanFraction body).1 = none) :
    (scanFraction body).2.head? ≠ some '.' := by
  unfold scanFraction at absent ⊢
  split at absent
  · cases absent
  · next other =>
      intro first
      cases body with
      | nil => cases first
      | cons c more =>
          cases first
          exact other more rfl

theorem scanFraction_text (fraction : Option Digits) {rest : List Char} (stops : NoDigit rest)
    (point : fraction = none → rest.head? ≠ some '.') :
    scanFraction (fractionText fraction ++ rest) = (fraction, rest) := by
  cases fraction with
  | some digits =>
      have scanned := scanDigits_append digits stops
      simp only [fractionText, List.cons_append, scanFraction, scanned]
  | none =>
      rw [fractionText, List.nil_append]
      unfold scanFraction
      split
      · exact absurd rfl (point rfl)
      · rfl

theorem text_scanExponent (body : List Char) :
    exponentText (scanExponent body).1 ++ (scanExponent body).2 = body := by
  unfold scanExponent
  split
  · next body => exact congrArg (List.cons 'e') (text_scanInteger body)
  · next body => exact congrArg (List.cons 'E') (text_scanInteger body)
  · rfl

theorem noDigit_scanExponent {body : List Char} (stops : NoDigit body)
    : NoDigit (scanExponent body).2 := by
  unfold scanExponent
  split
  · next body => exact noDigit_scanInteger body
  · next body => exact noDigit_scanInteger body
  · exact stops

theorem scanExponent_none {body : List Char} (absent : (scanExponent body).1 = none) :
    (scanExponent body).2 = body ∧ body.head? ≠ some 'e' ∧ body.head? ≠ some 'E' := by
  unfold scanExponent at absent ⊢
  split at absent
  · cases absent
  · cases absent
  · next small large =>
      refine ⟨rfl, ?_, ?_⟩
      · intro first
        obtain ⟨more, rfl⟩ := List.head?_eq_some_iff.mp first
        exact small more rfl
      · intro first
        obtain ⟨more, rfl⟩ := List.head?_eq_some_iff.mp first
        exact large more rfl

theorem scanExponent_text {exponent : Option ExponentField}
    (complete : ∀ field ∈ exponent, field.power.Complete)
    {rest : List Char} (stops : NoDigit rest)
    (mark : exponent = none → rest.head? ≠ some 'e' ∧ rest.head? ≠ some 'E') :
    scanExponent (exponentText exponent ++ rest) = (exponent, rest) := by
  cases exponent with
  | some field =>
      obtain ⟨capital, power⟩ := field
      have scanned := scanInteger_text (complete _ rfl) stops
      cases capital with
      | false =>
          have small : exponentText (some ⟨false, power⟩) ++ rest = 'e' :: (power.text ++ rest) := rfl
          simp only [small, scanExponent, scanned]
      | true =>
          have large : exponentText (some ⟨true, power⟩) ++ rest = 'E' :: (power.text ++ rest) := rfl
          simp only [large, scanExponent, scanned]
  | none =>
      obtain ⟨small, large⟩ := mark rfl
      rw [exponentText, List.nil_append]
      unfold scanExponent
      split
      · exact absurd rfl small
      · exact absurd rfl large
      · rfl

/-- A text does not make a floating-point number in front of it longer. -/
structure DecimalField.Stops (field : DecimalField) (rest : List Char) : Prop where
  digit : NoDigit rest
  point : field.fraction = none → field.exponent = none → rest.head? ≠ some '.'
  mark : field.exponent = none → rest.head? ≠ some 'e' ∧ rest.head? ≠ some 'E'

theorem text_scanDecimal (body : List Char)
    : (scanDecimal body).1.text ++ (scanDecimal body).2 = body := by
  have sign := text_scanSign body
  have whole := text_scanDigits (scanSign body).2
  have fraction := text_scanFraction (scanDigits (scanSign body).2).2
  have exponent := text_scanExponent (scanFraction (scanDigits (scanSign body).2).2).2
  simp only [scanDecimal]
  split_ifs with empty
  · simp only [DecimalField.text, List.append_assoc, exponentText, List.nil_append, fraction, whole, sign]
  · simp only [DecimalField.text, List.append_assoc, exponent, fraction, whole, sign]

theorem stops_scanDecimal (body : List Char) (complete : (scanDecimal body).1.Complete) :
    (scanDecimal body).1.Stops (scanDecimal body).2 := by
  have whole := noDigit_scanDigits (scanSign body).2
  have fraction := noDigit_scanFraction whole
  simp only [scanDecimal] at complete ⊢
  split_ifs at complete ⊢ with empty
  · exact absurd empty complete.1
  · refine ⟨noDigit_scanExponent fraction, fun noPoint noMark => ?_, fun noMark => ?_⟩
    · rw [(scanExponent_none noMark).1]
      exact scanFraction_none noPoint
    · rw [(scanExponent_none noMark).1]
      exact (scanExponent_none noMark).2

/-- The text of an exponent begins with a letter. -/
theorem exponentText_head?_ne {exponent : Option ExponentField} {rest : List Char} {c : Char}
    (small : c ≠ 'e') (large : c ≠ 'E') (other : exponent = none → rest.head? ≠ some c) :
    (exponentText exponent ++ rest).head? ≠ some c := by
  cases exponent with
  | none => exact other rfl
  | some field =>
      intro first
      have same : (if field.capital then 'E' else 'e') = c := Option.some.inj first
      cases capital : field.capital with
      | false =>
          rw [capital] at same
          exact small same.symm
      | true =>
          rw [capital] at same
          exact large same.symm

theorem noDigit_exponentText (exponent : Option ExponentField) {rest : List Char}
    (stops : NoDigit rest) :
    NoDigit (exponentText exponent ++ rest) := by
  intro c first
  cases digit : c.isDigit with
  | false => rfl
  | true =>
      refine absurd first (exponentText_head?_ne ?_ ?_ fun _ here => ?_)
      · rintro rfl
        cases digit
      · rintro rfl
        cases digit
      · rw [stops c here] at digit
        cases digit

theorem noDigit_fractionText (fraction : Option Digits) {rest : List Char} (stops : NoDigit rest) :
    NoDigit (fractionText fraction ++ rest) := by
  cases fraction with
  | none => exact stops
  | some digits => exact noDigit_cons (by decide) _

/-- A number without its sign begins with a digit or a point. -/
theorem mantissa_head?_ne {whole : Digits} {fraction : Option Digits}
    (present : mantissa whole fraction ≠ [])
    (rest : List Char) {c : Char} (other : c.isDigit = false) (point : c ≠ '.') :
    (whole.chars ++ (fractionText fraction ++ rest)).head? ≠ some c := by
  by_cases empty : whole.chars = []
  · cases fraction with
    | none => exact absurd (by rw [mantissa, empty]; rfl) present
    | some digits =>
        rw [empty]
        intro first
        exact point (Option.some.inj first).symm
  · exact Digits.head?_ne empty _ other

theorem scanDecimal_text {field : DecimalField} (complete : field.Complete) {rest : List Char}
    (stops : field.Stops rest) : scanDecimal (field.text ++ rest) = (field, rest) := by
  obtain ⟨present, powered⟩ := complete
  have exponent := scanExponent_text powered stops.digit stops.mark
  have noDigit := noDigit_exponentText field.exponent stops.digit
  have fraction := scanFraction_text field.fraction noDigit fun noPoint =>
    exponentText_head?_ne (by decide) (by decide) (stops.point noPoint)
  have whole := scanDigits_append field.whole (noDigit_fractionText field.fraction noDigit)
  let tail := exponentText field.exponent ++ rest
  have plus := mantissa_head?_ne present tail (c := '+') (by decide) (by decide)
  have minus := mantissa_head?_ne present tail (c := '-') (by decide) (by decide)
  have sign := scanSign_text field.sign plus minus
  simp only [scanDecimal, DecimalField.text, List.append_assoc, sign, tail, whole, fraction,
    if_neg present, exponent]

theorem DecimalField.text_ne_nil {field : DecimalField} (complete : field.Complete)
    : field.text ≠ [] := by
  intro empty
  obtain ⟨_, empty⟩ := List.append_eq_nil_iff.mp empty
  obtain ⟨whole, empty⟩ := List.append_eq_nil_iff.mp empty
  obtain ⟨fraction, _⟩ := List.append_eq_nil_iff.mp empty
  apply complete.1
  cases absent : field.fraction with
  | none => rw [mantissa, whole]; rfl
  | some digits =>
      rw [absent] at fraction
      cases fraction

theorem DecimalField.solid (field : DecimalField) : ∀ c ∈ field.text, isSpace c = false := by
  obtain ⟨sign, whole, fraction, exponent⟩ := field
  have fraction' : ∀ c ∈ fractionText fraction, isSpace c = false := by
    cases fraction with
    | none => exact nofun
    | some digits => exact List.forall_mem_cons.mpr ⟨by decide, digits.solid⟩
  have exponent' : ∀ c ∈ exponentText exponent, isSpace c = false := by
    cases exponent with
    | none => exact nofun
    | some field =>
        refine List.forall_mem_cons.mpr ⟨?_, field.power.solid⟩
        cases field.capital <;> decide
  simp only [text, List.forall_mem_append]
  exact ⟨sign.solid, whole.solid, fraction', exponent'⟩

/-- The fields of `operator>>` for floating-point numbers. -/
def decimalKind : FieldKind DecimalField where
  text := DecimalField.text
  scan := scanDecimal
  Complete := DecimalField.Complete
  Stops := DecimalField.Stops
  text_scan := text_scanDecimal
  stops_scan := stops_scanDecimal
  scan_text _ _ complete stops := scanDecimal_text complete stops
  solid field complete := ⟨DecimalField.text_ne_nil complete, field.solid⟩
  stops_of_endsWord _ _ _ ends :=
    { digit := ends.noDigit
      point := fun _ _ => ends.head?_ne (by decide)
      mark := fun _ => ⟨ends.head?_ne (by decide), ends.head?_ne (by decide)⟩ }

/-! ## Values -/

/-- `strtoull` for a type of so many values: the number must fit, and a minus sign negates it. -/
def toUnsigned (size : Nat) (field : IntegerField) : Option Nat :=
  if field.Complete ∧ field.digits.value < size then
    some (if field.sign = .minus then (size - field.digits.value) % size else field.digits.value)
  else none

/-- `strtoll` for a type of so many values from zero, and as many below. -/
def toSigned (size : Nat) (field : IntegerField) : Option Int :=
  if field.Complete ∧ -(size : Int) ≤ field.value ∧ field.value < size then some field.value else none

/-- `strtod`, given the numbers that stand for a sign and a magnitude in range. -/
def toFloating {R : Type u} (toDouble : Bool → ℚ → Option R) (field : DecimalField) : Option R :=
  if field.Complete then toDouble (field.sign == .minus) field.magnitude else none

namespace Extraction

/-- `operator>>` for an unsigned integer. -/
def unsigned (size : Nat) : Extraction Nat :=
  ofKind integerKind (toUnsigned size) fun _ _ converted =>
    (Option.ite_none_right_eq_some.mp converted).1.1

/-- `operator>>` for a signed integer. -/
def signed (size : Nat) : Extraction Int :=
  ofKind integerKind (toSigned size) fun _ _ converted =>
    (Option.ite_none_right_eq_some.mp converted).1.1

/-- `operator>>` for a floating-point number. -/
def floating {R : Type u} (toDouble : Bool → ℚ → Option R) : Extraction R :=
  ofKind decimalKind (toFloating toDouble) fun _ _ converted =>
    (Option.ite_none_right_eq_some.mp converted).1

end Extraction

end Arena60.Misc
