import Arena60.Network.ProfileHttpRouter

/-!
# The limit of the leaderboard

`ParseLimit` looks for a piece of text and not for a parameter: it reads what its query says when
that piece begins the first parameter of that name, and when the number fits a machine word.
-/

namespace Arena60

open Misc

namespace ProfileHttpRouter

/-! ## What a query says -/

/-- The parameters of a query. -/
def parametersOf (query : List Char) : List (List Char) := query.splitOn '&'

/-- The key of a parameter; one without `=` is a key. -/
def keyOf (parameter : List Char) : List Char := parameter.takeWhile (· != '=')

/-- The value of a parameter; one without `=` has none. -/
def valueOf (parameter : List Char) : List Char := (parameter.dropWhile (· != '=')).drop 1

/-- The longest run of decimal digits that a text begins with. -/
def digitsOf (text : List Char) : List Char := text.takeWhile Char.isDigit

/-- The number that digits stand for, if there are any. -/
def numberOf (digits : List Char) : Option Nat :=
  if digits = [] then none else some (Nat.ofDigitChars 10 digits 0)

/-- The limit for a number: ten without one, and between one and fifty. -/
def limitFor : Option Nat → Nat
  | none => 10
  | some number => max 1 (min 50 number)

/-- The number that a query gives for the limit: that of its first parameter of this name. -/
def limitNumber (query : List Char) : Option Nat :=
  ((parametersOf query).find? fun parameter => keyOf parameter == "limit".toList).bind fun parameter =>
    numberOf (digitsOf (valueOf parameter))

/-- The limit that a query asks for. -/
def limitOf (query : String) : Nat := limitFor (limitNumber query.toList)

/-! ## What the code reads -/

/-- The number after the first `limit=` of a text, wherever that stands, if it fits 64 bits. -/
def numberAfterLimit (query : List Char) : Option Nat :=
  (afterFirst "limit=".toList query).bind fun rest =>
    (numberOf (digitsOf rest)).filter fun number => number < 2 ^ 64

theorem parseLimit_eq (query : String) : parseLimit query = limitFor (numberAfterLimit query.toList) := by
  unfold parseLimit numberAfterLimit
  by_cases empty : query = ""
  · subst empty
    rfl
  · rw [if_neg empty]
    cases afterFirst "limit=".toList query.toList with
    | none => rfl
    | some rest =>
        have run : rest.takeWhile Char.isDigit = digitsOf rest := rfl
        simp only [Option.bind_some, run, numberOf]
        by_cases none : digitsOf rest = []
        · rw [if_pos none, if_pos none]
          rfl
        · rw [if_neg none, if_neg none, stoul]
          by_cases fits : Nat.ofDigitChars 10 (digitsOf rest) 0 < 2 ^ 64
          · simp only [Option.filter, fits, decide_true, if_true, limitFor]
            split_ifs <;> omega
          · simp only [Option.filter, fits, decide_false, if_false, Bool.false_eq_true, limitFor]

/-- A parameter that is named `limit`, or in which the code finds a limit. -/
def mentionsLimit (parameter : List Char) : Bool :=
  (afterFirst "limit=".toList parameter).isSome || parameter == "limit".toList

theorem keyOf_eq_limit_iff (parameter : List Char) :
    keyOf parameter = "limit".toList ↔ parameter = "limit".toList ∨ "limit=".toList <+: parameter := by
  constructor
  · intro named
    have whole := List.takeWhile_append_dropWhile (p := (· != '=')) (l := parameter)
    have key : parameter.takeWhile (· != '=') = "limit".toList := named
    rw [key] at whole
    cases rest : parameter.dropWhile (· != '=') with
    | nil =>
        rw [rest, List.append_nil] at whole
        exact Or.inl whole.symm
    | cons c value =>
        have first : (parameter.dropWhile (· != '=')).head? = some c := by rw [rest, List.head?_cons]
        rw [rest] at whole
        have same : c = '=' := by simpa using head?_dropWhile_stops first
        subst same
        exact Or.inr ⟨value, whole⟩
  · rintro (rfl | ⟨value, rfl⟩)
    · decide
    · have stop : (fun c : Char => c != '=') '=' = false := by decide
      exact (takeWhile_append_stop stop "limit".toList value).trans (by decide)

theorem valueOf_limit (value : List Char) : valueOf ("limit=".toList ++ value) = value := rfl

theorem digitsOf_append_separator (first rest : List Char) :
    digitsOf (first ++ '&' :: rest) = digitsOf first :=
  takeWhile_append_stop (by decide) first rest

/-- The code reads the first parameter in which it finds a limit. -/
theorem numberAfterLimit_eq (query : List Char) :
    numberAfterLimit query = ((parametersOf query).findSome? (afterFirst "limit=".toList)).bind fun rest =>
      (numberOf (digitsOf rest)).filter fun number => number < 2 ^ 64 := by
  have free : '&' ∉ "limit=".toList := by decide
  have some : "limit=".toList ≠ [] := by decide
  induction query using splitOn_induction '&' with
  | single text alone =>
      rw [parametersOf, List.splitOn_eq_singleton alone, numberAfterLimit, List.findSome?_cons]
      cases afterFirst "limit=".toList text with
      | none => rfl
      | some rest => rfl
  | parts first rest alone ih =>
      rw [numberAfterLimit] at ih
      rw [parametersOf, List.splitOn_append_cons_self_of_not_mem alone, numberAfterLimit,
        afterFirst_append_separator free some, List.findSome?_cons]
      cases afterFirst "limit=".toList first with
      | none => exact ih
      | some tail =>
          simp only [Option.map_some, Option.some_or, Option.bind_some, digitsOf_append_separator]

/-- Without a parameter that mentions a limit there is nothing to read. -/
theorem unmentioned {parameters : List (List Char)} (none : parameters.find? mentionsLimit = none) :
    parameters.findSome? (afterFirst "limit=".toList) = Option.none ∧
      parameters.find? (fun parameter => keyOf parameter == "limit".toList) = Option.none := by
  rw [List.find?_eq_none] at none
  rw [List.findSome?_eq_none_iff, List.find?_eq_none]
  refine ⟨?_, ?_⟩
  · intro parameter member
    have silent := none parameter member
    rw [mentionsLimit, Bool.or_eq_true, not_or, Option.not_isSome_iff_eq_none] at silent
    exact silent.1
  · intro parameter member named
    apply none parameter member
    rw [mentionsLimit, Bool.or_eq_true]
    rcases (keyOf_eq_limit_iff parameter).mp (eq_of_beq named) with alone | ⟨value, rfl⟩
    · exact Or.inr (beq_iff_eq.mpr alone)
    · left
      rw [afterFirst_here]
      rfl

/-- When the first parameter that mentions a limit begins with it, the code reads that one. -/
theorem findSome?_first {parameters : List (List Char)} {value : List Char}
    (found : parameters.find? mentionsLimit = some ("limit=".toList ++ value)) :
    parameters.findSome? (afterFirst "limit=".toList) = some value := by
  obtain ⟨-, before, after, rfl, silent⟩ := List.find?_eq_some_iff_append.mp found
  have quiet : before.find? mentionsLimit = none :=
    List.find?_eq_none.mpr fun parameter member => by simpa using silent parameter member
  rw [List.findSome?_append, (unmentioned quiet).1, Option.none_or, List.findSome?_cons, afterFirst_here]

/-- The first parameter that mentions a limit is the first of that name, if it has that name. -/
theorem find?_named {parameters : List (List Char)} {parameter : List Char}
    (found : parameters.find? mentionsLimit = some parameter) (named : keyOf parameter = "limit".toList) :
    parameters.find? (fun parameter => keyOf parameter == "limit".toList) = some parameter := by
  obtain ⟨-, before, after, rfl, silent⟩ := List.find?_eq_some_iff_append.mp found
  refine List.find?_eq_some_iff_append.mpr ⟨beq_iff_eq.mpr named, before, after, rfl, ?_⟩
  intro other member
  have unmentioned : mentionsLimit other = false := by simpa using silent other member
  rw [mentionsLimit, Bool.or_eq_false_iff] at unmentioned
  rw [Bool.not_eq_true', beq_eq_false_iff_ne]
  intro named'
  rcases (keyOf_eq_limit_iff other).mp named' with alone | ⟨value, rfl⟩
  · exact absurd alone (beq_eq_false_iff_ne.mp unmentioned.2)
  · rw [afterFirst_here] at unmentioned
    cases unmentioned.1

/-! ## When they agree -/

/-- Digits that leave the limit at ten: none, or the ones of ten. -/
def AreTen (digits : List Char) : Prop := digits = [] ∨ Nat.ofDigitChars 10 digits 0 = 10

/-- Digits that `std::stoul` takes for the default: those of ten, or too many. -/
def ReadTen (digits : List Char) : Prop := AreTen digits ∨ 2 ^ 64 ≤ Nat.ofDigitChars 10 digits 0

/-- The digits that are read are for the same limit as the ones that are meant: both leave it at ten, or they fit 64
bits and stand for the same number, or for two up to one, or for two from fifty on. -/
def SameLimit (read meant : List Char) : Prop :=
  ReadTen read ∧ AreTen meant ∨
    read ≠ [] ∧ meant ≠ [] ∧ Nat.ofDigitChars 10 read 0 < 2 ^ 64 ∧
      (Nat.ofDigitChars 10 read 0 = Nat.ofDigitChars 10 meant 0 ∨
        (Nat.ofDigitChars 10 read 0 ≤ 1 ∧ Nat.ofDigitChars 10 meant 0 ≤ 1) ∨
        (50 ≤ Nat.ofDigitChars 10 read 0 ∧ 50 ≤ Nat.ofDigitChars 10 meant 0))

theorem limitFor_eq_iff (read meant : List Char) :
    limitFor ((numberOf read).filter fun number => number < 2 ^ 64) = limitFor (numberOf meant) ↔
      SameLimit read meant := by
  unfold SameLimit ReadTen AreTen numberOf
  by_cases none : read = []
  · by_cases none' : meant = []
    · simp [none, none', limitFor]
    · simp only [none, none', if_true, if_false, Option.filter_none, limitFor]
      generalize Nat.ofDigitChars 10 meant 0 = number'
      simp only [true_or, ne_eq, not_true_eq_false, false_and, or_false, true_and, false_or]
      omega
  · rw [if_neg none]
    generalize Nat.ofDigitChars 10 read 0 = number
    by_cases fits : number < 2 ^ 64
    · rw [Option.filter_some, if_pos (decide_eq_true fits)]
      by_cases none' : meant = []
      · simp only [none, none', if_true, limitFor, ne_eq, not_true_eq_false, false_and, and_false, or_false, true_or,
          and_true, false_or]
        omega
      · rw [if_neg none']
        generalize Nat.ofDigitChars 10 meant 0 = number'
        simp only [none, none', limitFor, ne_eq, not_false_eq_true, true_and, false_or]
        omega
    · rw [Option.filter_some, decide_eq_false fits, if_neg Bool.false_ne_true]
      by_cases none' : meant = []
      · rw [if_pos none']
        exact iff_of_true rfl (Or.inl ⟨Or.inr (Nat.le_of_not_lt fits), Or.inl none'⟩)
      · rw [if_neg none']
        generalize Nat.ofDigitChars 10 meant 0 = number'
        simp only [none, none', limitFor, ne_eq, not_false_eq_true, true_and, false_or]
        omega

/-- The digits after the first `limit=` of a query, wherever that stands. -/
def digitsRead (query : List Char) : List Char := digitsOf ((afterFirst "limit=".toList query).getD [])

/-- The digits of the first parameter that is named `limit`. -/
def digitsMeant (query : List Char) : List Char :=
  digitsOf (valueOf (((parametersOf query).find? fun parameter => keyOf parameter == "limit".toList).getD []))

theorem numberAfterLimit_digits (query : List Char) :
    numberAfterLimit query = (numberOf (digitsRead query)).filter fun number => number < 2 ^ 64 := by
  unfold numberAfterLimit digitsRead
  cases afterFirst "limit=".toList query <;> rfl

theorem limitNumber_digits (query : List Char) : limitNumber query = numberOf (digitsMeant query) := by
  unfold limitNumber digitsMeant
  cases (parametersOf query).find? fun parameter => keyOf parameter == "limit".toList <;> rfl

/-- What `ParseLimit` needs of a query, by the first parameter that mentions a limit: there is none; or it begins with
`limit=` and has digits for less than 64 bits; or it is `limit` alone, and the first digits after a later `limit=`, if
any, leave the limit at ten; or it has other text before its `limit=`, and the digits after that are for the same
limit as those of the first parameter that is named so. -/
def LimitReadable (query : List Char) : Prop :=
  match (parametersOf query).find? mentionsLimit with
  | none => True
  | some parameter =>
      if "limit=".toList <+: parameter then Nat.ofDigitChars 10 (digitsOf (valueOf parameter)) 0 < 2 ^ 64
      else if parameter = "limit".toList then ReadTen (digitsRead query)
      else SameLimit (digitsRead query) (digitsMeant query)

/-- Digits that are read as they are meant are for one limit as far as they fit 64 bits. -/
theorem sameLimit_self (digits : List Char) : SameLimit digits digits ↔ Nat.ofDigitChars 10 digits 0 < 2 ^ 64 := by
  unfold SameLimit ReadTen AreTen
  by_cases none : digits = []
  · simp [none]
  · simp only [none, ne_eq, not_false_eq_true, false_or, true_or, true_and, and_true]
    omega

theorem sameLimit_none (read : List Char) : SameLimit read [] ↔ ReadTen read := by
  simp [SameLimit, AreTen]

/-- `ParseLimit` gives the limit that a query asks for exactly when the query is readable for it. -/
theorem parseLimit_eq_limitOf_iff (query : String) :
    parseLimit query = limitOf query ↔ LimitReadable query.toList := by
  rw [parseLimit_eq, limitOf, numberAfterLimit_digits, limitNumber_digits, limitFor_eq_iff]
  unfold LimitReadable
  cases found : (parametersOf query.toList).find? mentionsLimit with
  | none =>
      obtain ⟨silent, unnamed⟩ := unmentioned found
      have nothing : digitsMeant query.toList = [] := by
        rw [digitsMeant, unnamed]
        rfl
      have number := numberAfterLimit_eq query.toList
      rw [silent, Option.bind_none, numberAfterLimit_digits] at number
      rw [nothing, ← limitFor_eq_iff, number]
      exact iff_of_true rfl trivial
  | some parameter =>
      dsimp only
      split_ifs with begins alone
      · obtain ⟨value, rfl⟩ := begins
        have meant : digitsMeant query.toList = digitsOf value := by
          rw [digitsMeant, find?_named found ((keyOf_eq_limit_iff _).mpr (Or.inr ⟨value, rfl⟩))]
          rfl
        have number := numberAfterLimit_eq query.toList
        rw [findSome?_first found, Option.bind_some, numberAfterLimit_digits] at number
        rw [meant, ← limitFor_eq_iff, number, limitFor_eq_iff, sameLimit_self, valueOf_limit]
      · have meant : digitsMeant query.toList = [] := by
          rw [digitsMeant, find?_named found (by rw [alone]; decide), alone]
          rfl
        rw [meant, sameLimit_none]
      · exact Iff.rfl

/-- Another key that ends in the same text. -/
theorem parseLimit_offlimit : ¬∀ query : String, parseLimit query = limitOf query := by
  intro always
  have read := always "offlimit=5"
  revert read
  decide

-- a number beyond 64 bits
example : parseLimit "limit=18446744073709551616" = 10 ∧ limitOf "limit=18446744073709551616" = 50 := by
  decide

end ProfileHttpRouter

end Arena60
