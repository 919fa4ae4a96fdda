import Mathlib.Data.List.Basic

/-!
# Numbered names

Names made of a fixed text and a decimal number are as distinct as their numbers, also when more text
follows the number that does not begin with a digit.
-/

namespace Arena60.Misc

theorem numberedName_inj {text : String} {i j : Nat}
    (same : text ++ toString i = text ++ toString j) : i = j := by
  have characters : text.toList ++ Nat.toDigits 10 i = text.toList ++ Nat.toDigits 10 j := by
    simpa using congrArg String.toList same
  have read := congrArg (Nat.ofDigitChars 10 · 0) (List.append_cancel_left characters)
  simpa using read

/-- Digits end at a character that is no digit. -/
theorem digits_append_inj {digits digits' rest rest' : List Char} {stop : Char}
    (decimal : ∀ c ∈ digits, c.isDigit = true) (decimal' : ∀ c ∈ digits', c.isDigit = true)
    (other : stop.isDigit = false) (same : digits ++ stop :: rest = digits' ++ stop :: rest') :
    digits = digits' ∧ rest = rest' := by
  have ends : ∀ {run : List Char}, (∀ c ∈ run, c.isDigit = true) → ∀ after : List Char,
      (run ++ stop :: after).takeWhile Char.isDigit = run := by
    intro run decimal after
    rw [List.takeWhile_append_of_pos decimal, List.takeWhile_cons, other]
    simp
  have run : digits = digits' := by
    rw [← ends decimal rest, same, ends decimal' rest']
  subst run
  exact ⟨rfl, (List.cons.inj (List.append_cancel_left same)).2⟩

theorem toDigits_append_inj {i j : Nat} {rest rest' : List Char} {stop : Char}
    (other : stop.isDigit = false)
    (same : Nat.toDigits 10 i ++ stop :: rest = Nat.toDigits 10 j ++ stop :: rest') :
    i = j ∧ rest = rest' := by
  have decimal : ∀ n, ∀ c ∈ Nat.toDigits 10 n, c.isDigit = true := fun n _ =>
    Nat.isDigit_of_mem_toDigits (by decide) (by decide)
  obtain ⟨digits, later⟩ := digits_append_inj (decimal i) (decimal j) other same
  have read := congrArg (Nat.ofDigitChars 10 · 0) digits
  exact ⟨by simpa using read, later⟩

end Arena60.Misc
