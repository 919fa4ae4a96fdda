import Arena60.Misc.Json
import Mathlib.Tactic.IntervalCases

/-!
# Texts that read back as JSON

Text that is written without escapes: an object or an array reads back if its parts do, and text
between quotes reads back exactly when each character of it stands for itself.
-/

namespace Arena60.Misc

namespace Json

/-! ## Text between quotes -/

/-- A character that stands for itself between quotes. -/
def isPlain (c : Char) : Bool := c != '"' && c != '\\' && 32 ≤ c.toNat

/-- A text that may stand between quotes as it is. -/
def Plain (text : List Char) : Prop := ∀ c ∈ text, isPlain c = true

instance (text : List Char) : Decidable (Plain text) :=
  decidable_of_iff (text.all isPlain = true) List.all_eq_true

theorem isPlain_iff (c : Char) : isPlain c = true ↔ c ≠ '"' ∧ c ≠ '\\' ∧ 32 ≤ c.toNat := by
  rw [isPlain, Bool.and_eq_true, Bool.and_eq_true, bne_iff_ne, bne_iff_ne, decide_eq_true_iff, and_assoc]

theorem readString_cons {c : Char} (plain : isPlain c = true) (rest : List Char) :
    readString (c :: rest) = (readString rest).map fun read => (c :: read.1, read.2) := by
  obtain ⟨quote, backslash, printable⟩ := (isPlain_iff c).mp plain
  rw [readString.eq_def]
  dsimp only
  rw [if_neg quote, if_neg backslash, if_neg (by omega)]

theorem readString_quote (rest : List Char) : readString ('"' :: rest) = some ([], rest) := by
  rw [readString.eq_def]
  rfl

theorem readString_plain {text : List Char} (plain : Plain text) (rest : List Char) :
    readString (text ++ '"' :: rest) = some (text, rest) := by
  induction text with
  | nil => exact readString_quote rest
  | cons c text ih =>
      obtain ⟨first, others⟩ := List.forall_mem_cons.mp plain
      rw [List.cons_append, readString_cons first, ih others]
      rfl

theorem hexDigit_quote : hexDigit '"' = none := by decide

theorem codeUnit_unquoted {first second third fourth : Char} {unit : Nat}
    (read : codeUnit first second third fourth = some unit) : '"' ∉ [first, second, third, fourth] := by
  unfold codeUnit at read
  simp only [Option.bind_eq_bind, Option.bind_eq_some_iff] at read
  obtain ⟨a, first', b, second', c, third', d, fourth', -⟩ := read
  intro member
  simp only [List.mem_cons, List.not_mem_nil, or_false] at member
  rcases member with rfl | rfl | rfl | rfl
  · rw [hexDigit_quote] at first'
    cases first'
  · rw [hexDigit_quote] at second'
    cases second'
  · rw [hexDigit_quote] at third'
    cases third'
  · rw [hexDigit_quote] at fourth'
    cases fourth'

/-- An escape takes a few characters, and a quote only as a character of its own. -/
theorem readString_escape {text : List Char} {read : List Char × List Char}
    (found : readString ('\\' :: text) = some read) :
    ∃ front after c inner, text = front ++ after ∧ front ≠ [] ∧ (front = ['"'] ∨ '"' ∉ front) ∧
      readString after = some inner ∧ read = (c :: inner.1, inner.2) := by
  rw [readString.eq_def] at found
  dsimp only at found
  rw [if_neg (by decide), if_pos rfl] at found
  cases text with
  | nil => cases found
  | cons e rest =>
      dsimp only at found
      split at found
      · next c escaped =>
          obtain ⟨inner, later, rfl⟩ := Option.map_eq_some_iff.mp found
          refine ⟨[e], rest, c, inner, rfl, by simp, ?_, later, rfl⟩
          by_cases quote : e = '"'
          · exact Or.inl (by rw [quote])
          · exact Or.inr (by simpa using Ne.symm quote)
      · split_ifs at found with letter
        rw [not_not] at letter
        split at found
        · next h₁ h₂ h₃ h₄ rest =>
            split at found
            · cases found
            · next unit decoded =>
                have digits := codeUnit_unquoted decoded
                split_ifs at found with low high
                · split at found
                  · next b u l₁ l₂ l₃ l₄ rest =>
                      split_ifs at found with pair
                      split at found
                      · cases found
                      · next second decoded' =>
                          have digits' := codeUnit_unquoted decoded'
                          split_ifs at found with paired
                          obtain ⟨inner, later, rfl⟩ := Option.map_eq_some_iff.mp found
                          refine ⟨[e, h₁, h₂, h₃, h₄, b, u, l₁, l₂, l₃, l₄], rest, _, inner, rfl,
                            by simp, ?_, later, rfl⟩
                          right
                          rw [letter, pair.1, pair.2]
                          simp only [List.mem_cons, List.not_mem_nil, or_false, not_or] at digits digits' ⊢
                          exact ⟨by decide, digits.1, digits.2.1, digits.2.2.1, digits.2.2.2, by decide, by decide,
                            digits'⟩
                  · cases found
                · obtain ⟨inner, later, rfl⟩ := Option.map_eq_some_iff.mp found
                  refine ⟨[e, h₁, h₂, h₃, h₄], rest, _, inner, rfl, by simp, ?_, later, rfl⟩
                  right
                  rw [letter]
                  simp only [List.mem_cons, List.not_mem_nil, or_false, not_or] at digits ⊢
                  exact ⟨by decide, digits⟩
        · cases found

theorem split_of_unquoted {front : List Char} (unquoted : '"' ∉ front) :
    ∀ {text after more : List Char}, text ++ '"' :: more = front ++ after →
      ∃ left, text = front ++ left ∧ after = left ++ '"' :: more := by
  induction front with
  | nil =>
      intro text after more same
      exact ⟨text, rfl, same.symm⟩
  | cons c front ih =>
      intro text after more same
      rw [List.mem_cons, not_or] at unquoted
      cases text with
      | nil =>
          injection same with first _
          exact absurd first unquoted.1
      | cons d text =>
          injection same with first others
          obtain ⟨left, rfl, later⟩ := ih unquoted.2 others
          exact ⟨left, by rw [first]; rfl, later⟩

/-- What is read of a text between quotes that a comma and a quote follow: the text, or less, or something
that ends differently. -/
def Garbled (read text : List Char) : Prop :=
  Plain text ∧ read = text ∨ read.length < text.length ∨ read.getLast? = some ',' ∧ text.getLast? = some '\\'

theorem Garbled.cons {read text : List Char} (garbled : Garbled read text) {c : Char} (plain : isPlain c = true) :
    Garbled (c :: read) (c :: text) := by
  rcases garbled with ⟨others, same⟩ | less | ⟨comma, backslash⟩
  · exact Or.inl ⟨List.forall_mem_cons.mpr ⟨plain, others⟩, by rw [same]⟩
  · exact Or.inr (Or.inl (Nat.succ_lt_succ less))
  · refine Or.inr (Or.inr ⟨?_, ?_⟩)
    · rw [List.getLast?_cons, comma]
      rfl
    · rw [List.getLast?_cons, backslash]
      rfl

theorem Garbled.escape {read text : List Char} (garbled : Garbled read text) (c : Char) {front : List Char}
    (long : 2 ≤ front.length) : Garbled (c :: read) (front ++ text) := by
  have length : (front ++ text).length = front.length + text.length := List.length_append
  rcases garbled with ⟨-, same⟩ | less | ⟨comma, backslash⟩
  · refine Or.inr (Or.inl ?_)
    rw [length, same, List.length_cons]
    omega
  · refine Or.inr (Or.inl ?_)
    rw [length, List.length_cons]
    omega
  · refine Or.inr (Or.inr ⟨?_, ?_⟩)
    · rw [List.getLast?_cons, comma]
      rfl
    · rw [List.getLast?_append, backslash]
      rfl

theorem readString_garbled (more : List Char) (bound : Nat) : ∀ {text : List Char} {read : List Char × List Char},
    text.length < bound → readString (text ++ '"' :: ',' :: '"' :: more) = some read → Garbled read.1 text := by
  induction bound with
  | zero =>
      intro text read short _
      exact absurd short (Nat.not_lt_zero _)
  | succ bound ih =>
      intro text read short found
      cases text with
      | nil =>
          rw [List.nil_append, readString_quote] at found
          cases found
          exact Or.inl ⟨by simp [Plain], rfl⟩
      | cons c text =>
          have shorter : text.length < bound := Nat.lt_of_succ_lt_succ short
          rw [List.cons_append] at found
          by_cases quote : c = '"'
          · rw [quote, readString_quote] at found
            cases found
            exact Or.inr (Or.inl (Nat.succ_pos _))
          · by_cases backslash : c = '\\'
            · rw [backslash] at found ⊢
              obtain ⟨front, after, d, inner, same, some, unquoted, later, rfl⟩ := readString_escape found
              rcases unquoted with alone | unquoted
              · rw [alone] at same
                cases text with
                | nil =>
                    -- the backslash takes the closing quote, and the next quote closes
                    injection same with _ same
                    have same : ',' :: '"' :: more = after := same
                    rw [← same, readString_cons (by decide), readString_quote] at later
                    cases later
                    exact Or.inr (Or.inr ⟨rfl, rfl⟩)
                | cons e text =>
                    injection same with first same
                    have same : text ++ '"' :: ',' :: '"' :: more = after := same
                    rw [← same] at later
                    have garbled := ih (Nat.lt_of_succ_lt shorter) later
                    have long : 2 ≤ ['\\', e].length := Nat.le_refl 2
                    exact garbled.escape d long
              · obtain ⟨left, rfl, rfl⟩ := split_of_unquoted unquoted same
                have garbled := ih (by rw [List.length_append] at shorter; omega) later
                have long : 2 ≤ ('\\' :: front).length := by
                  have := List.length_pos_iff.mpr some
                  rw [List.length_cons]
                  omega
                exact garbled.escape d long
            · cases plain : isPlain c with
              | true =>
                  rw [readString_cons plain] at found
                  obtain ⟨inner, later, rfl⟩ := Option.map_eq_some_iff.mp found
                  exact (ih shorter later).cons plain
              | false =>
                  have control : c.toNat < 32 := by
                    rw [Bool.eq_false_iff, Ne, isPlain_iff] at plain
                    by_contra printable
                    exact plain ⟨quote, backslash, by omega⟩
                  rw [readString.eq_def] at found
                  dsimp only at found
                  rw [if_neg quote, if_neg backslash, if_pos control] at found
                  cases found

theorem readString_ne {text : List Char} (notPlain : ¬Plain text) (more : List Char) {read : List Char × List Char}
    (found : readString (text ++ '"' :: ',' :: '"' :: more) = some read) : read.1 ≠ text := by
  have garbled := readString_garbled more (text.length + 1) (Nat.lt_succ_self _) found
  rcases garbled with ⟨plain, -⟩ | less | ⟨comma, backslash⟩
  · exact absurd plain notPlain
  · intro same
    rw [same] at less
    exact Nat.lt_irrefl _ less
  · intro same
    rw [same, backslash] at comma
    cases comma

/-! ## Texts that read back -/

/-- What may follow a value. -/
def Delimited (rest : List Char) : Prop := ∀ c ∈ rest.head?, c = ',' ∨ c = ']' ∨ c = '\x7d'

/-- A text that is read as a value, whatever follows it. -/
structure Reads (fuel : Nat) (text : List Char) (value : Json) : Prop where
  starts : ∃ c more, text = c :: more ∧ isBlank c = false ∧ c ≠ ']'
  reads : ∀ rest, Delimited rest → readValue fuel (text ++ rest) = some (value, rest)

theorem Reads.mono {fuel fuel' : Nat} (less : fuel ≤ fuel') {text : List Char} {value : Json}
    (reads : Reads fuel text value) : Reads fuel' text value :=
  ⟨reads.starts, fun rest delimited => readValue_mono less (reads.reads rest delimited)⟩

theorem Reads.denotes {fuel : Nat} {text : String} {value : Json} (reads : Reads fuel text.toList value) :
    Denotes text value := by
  have all := reads.reads [] (by simp [Delimited])
  rw [List.append_nil] at all
  refine ⟨fuel, ?_⟩
  rw [readAll, all]
  rfl

/-- A text that denotes a value has it at its front. -/
theorem Denotes.read {text : String} {value : Json} (denotes : Denotes text value) :
    ∃ fuel rest, readValue fuel text.toList = some (value, rest) := by
  obtain ⟨fuel, all⟩ := denotes
  rw [readAll, Option.bind_eq_bind, Option.bind_eq_some_iff] at all
  obtain ⟨⟨value, rest⟩, found, whole⟩ := all
  dsimp only at whole
  split_ifs at whole
  cases whole
  exact ⟨fuel, rest, found⟩

theorem skipBlank_cons {c : Char} (solid : isBlank c = false) (rest : List Char) :
    skipBlank (c :: rest) = c :: rest := by
  rw [skipBlank, List.dropWhile_cons, solid]
  rfl

theorem Delimited.skipBlank {rest : List Char} (delimited : Delimited rest) : skipBlank rest = rest := by
  cases rest with
  | nil => rfl
  | cons c rest =>
      apply skipBlank_cons
      rcases delimited c rfl with rfl | rfl | rfl <;> decide

/-- A text between quotes. -/
def quoted (text : List Char) : List Char := '"' :: (text ++ ['"'])

theorem reads_quoted {text : List Char} (plain : Plain text) :
    Reads 1 (quoted text) (.string (String.ofList text)) := by
  refine ⟨⟨'"', text ++ ['"'], rfl, by decide, by decide⟩, ?_⟩
  intro rest _
  have string : readString ((text ++ ['"']) ++ rest) = some (text, rest) := by
    rw [List.append_assoc]
    exact readString_plain plain rest
  rw [quoted, List.cons_append, readValue, skipBlank_cons (by decide)]
  dsimp only
  rw [if_pos rfl, string]
  rfl

/-! ### Numbers -/

theorem readDigits_append {digits : List Char} (all : ∀ c ∈ digits, c.isDigit = true) (some : digits ≠ [])
    {rest : List Char} (ends : ∀ c ∈ rest.head?, c.isDigit = false) :
    readDigits (digits ++ rest) = Option.some (digits, rest) := by
  have taken : (digits ++ rest).takeWhile Char.isDigit = digits ∧
      (digits ++ rest).dropWhile Char.isDigit = rest := by
    rw [List.takeWhile_append_of_pos all, List.dropWhile_append_of_pos all]
    cases rest with
    | nil => simp
    | cons c rest =>
        have stop := ends c rfl
        rw [List.takeWhile_cons_of_neg (by simp [stop]), List.dropWhile_cons_of_neg (by simp [stop])]
        simp
  rw [readDigits, taken.1, taken.2, if_neg (by simpa using some)]

theorem Delimited.noDigit {rest : List Char} (delimited : Delimited rest) :
    ∀ c ∈ rest.head?, c.isDigit = false := by
  intro c first
  rcases delimited c first with rfl | rfl | rfl <;> decide

/-- The decimal digits of a number do not start with a zero, unless the number is zero. -/
theorem head_toDigits (n : Nat) (positive : 0 < n) : (Nat.toDigits 10 n).head? ≠ some '0' := by
  induction n using Nat.strongRecOn with
  | ind n ih =>
      by_cases small : n < 10
      · rw [Nat.toDigits_of_lt_base small]
        interval_cases n <;> decide
      · rw [Nat.toDigits_of_base_le (by omega) (by omega)]
        have quotient := ih (n / 10) (by omega) (by omega)
        rw [List.head?_append]
        cases first : (Nat.toDigits 10 (n / 10)).head? with
        | none => exact absurd (List.head?_eq_none_iff.mp first) Nat.toDigits_ne_nil
        | some c =>
            rw [first] at quotient
            exact quotient

theorem toDigits_cons (n : Nat) : ∃ d more, Nat.toDigits 10 n = d :: more ∧ d.isDigit = true := by
  obtain ⟨d, more, split⟩ := List.exists_cons_of_ne_nil (Nat.toDigits_ne_nil (n := n) (b := 10))
  refine ⟨d, more, split, ?_⟩
  apply Nat.isDigit_of_mem_toDigits (b := 10) (n := n) (by decide) (by decide)
  rw [split]
  exact List.mem_cons_self

theorem noLeadingZero (n : Nat) :
    ¬((Nat.toDigits 10 n).head? = some '0' ∧ (Nat.toDigits 10 n).length ≠ 1) := by
  rintro ⟨zero, long⟩
  rcases Nat.eq_zero_or_pos n with rfl | positive
  · exact long rfl
  · exact head_toDigits n positive zero

def signText (negative : Bool) : List Char := if negative then ['-'] else []

theorem readSign_signText (negative : Bool) {text : List Char} (digit : ∀ c ∈ text.head?, c ≠ '-') :
    readSign (signText negative ++ text) = (negative, text) := by
  cases negative with
  | true => rfl
  | false =>
      cases text with
      | nil => rfl
      | cons c text =>
          have other : ¬c = '-' := digit c rfl
          simp [signText, readSign, expect, other]

/-- The text of a fraction reads back. -/
def ReadsFraction (text : List Char) (fraction : ℚ) : Prop :=
  ∀ rest, Delimited rest → (∀ c ∈ (text ++ rest).head?, c.isDigit = false) ∧
    readFraction (text ++ rest) = some (fraction, rest)

theorem readsFraction_none : ReadsFraction [] 0 := by
  intro rest delimited
  refine ⟨delimited.noDigit, ?_⟩
  cases rest with
  | nil => rfl
  | cons c rest =>
      have other : ¬c = '.' := by
        rcases delimited c rfl with rfl | rfl | rfl <;> decide
      simp [readFraction, expect, other]

theorem readsFraction_digits {digits : List Char} (all : ∀ c ∈ digits, c.isDigit = true) (some : digits ≠ []) :
    ReadsFraction ('.' :: digits) ((Nat.ofDigitChars 10 digits 0 : ℚ) / 10 ^ digits.length) := by
  intro rest delimited
  refine ⟨?_, ?_⟩
  · intro c first
    cases first
    decide
  · rw [List.cons_append, readFraction, expect, if_pos rfl]
    dsimp only
    rw [readDigits_append all some delimited.noDigit]
    rfl

theorem readExponent_none {rest : List Char} (delimited : Delimited rest) : readExponent rest = some (0, rest) := by
  cases rest with
  | nil => rfl
  | cons c rest =>
      have other : ¬(c = 'e' ∨ c = 'E') := by
        rcases delimited c rfl with rfl | rfl | rfl <;> decide
      rw [readExponent, if_neg other]

theorem readNumber_text (negative : Bool) (n : Nat) {fractionText : List Char} {fraction : ℚ}
    (reads : ReadsFraction fractionText fraction) {rest : List Char} (delimited : Delimited rest) :
    readNumber (signText negative ++ (Nat.toDigits 10 n ++ (fractionText ++ rest))) =
      some (if negative then -(n + fraction) else n + fraction, rest) := by
  obtain ⟨ends, read⟩ := reads rest delimited
  have digits : ∀ c ∈ Nat.toDigits 10 n, c.isDigit = true := fun c member =>
    Nat.isDigit_of_mem_toDigits (by decide) (by decide) member
  have unsigned : ∀ c ∈ (Nat.toDigits 10 n ++ (fractionText ++ rest)).head?, c ≠ '-' := by
    obtain ⟨d, more, split, digit⟩ := toDigits_cons n
    rw [split]
    intro c first
    cases first
    rintro rfl
    cases digit
  rw [readNumber, readSign_signText negative unsigned]
  dsimp only
  rw [readDigits_append digits Nat.toDigits_ne_nil ends]
  simp only [Option.bind_eq_bind, Option.bind_some, if_neg (noLeadingZero n), read, readExponent_none delimited,
    Nat.ofDigitChars_ten_toDigits, zpow_zero, mul_one]
  rfl

/-- A number reads back. -/
theorem reads_number (negative : Bool) (n : Nat) {fractionText : List Char} {fraction : ℚ}
    (reads : ReadsFraction fractionText fraction) :
    Reads 1 (signText negative ++ (Nat.toDigits 10 n ++ fractionText))
      (.number (if negative then -(n + fraction) else n + fraction)) := by
  have starts : ∃ c more, signText negative ++ (Nat.toDigits 10 n ++ fractionText) = c :: more ∧
      (c = '-' ∨ c.isDigit = true) := by
    obtain ⟨d, more, split, digit⟩ := toDigits_cons n
    cases negative with
    | true => exact ⟨'-', _, rfl, Or.inl rfl⟩
    | false => exact ⟨d, more ++ fractionText, by rw [split]; rfl, Or.inr digit⟩
  obtain ⟨c, more, split, first⟩ := starts
  have other : ∀ d : Char, d.isDigit = false → d ≠ '-' → ¬c = d := by
    intro d letter sign same
    rw [same, letter] at first
    rcases first with minus | digit
    · exact sign minus
    · cases digit
  have solid : isBlank c = false := by
    simp [isBlank, other]
  refine ⟨⟨c, more, split, solid, other ']' (by decide) (by decide)⟩, ?_⟩
  intro rest delimited
  have number := readNumber_text negative n reads delimited
  rw [← List.append_assoc, ← List.append_assoc, List.append_assoc (signText negative), split] at number
  rw [split, List.cons_append, readValue, skipBlank_cons solid]
  dsimp only
  rw [if_neg (other _ (by decide) (by decide)), if_neg (other _ (by decide) (by decide)),
    if_neg (other _ (by decide) (by decide)), if_neg (other _ (by decide) (by decide)),
    if_neg (other _ (by decide) (by decide)), if_neg (other _ (by decide) (by decide))]
  rw [List.cons_append] at number
  rw [number]
  rfl

theorem reads_integer (n : Int) : Reads 1 (toString n).toList (.number n) := by
  cases n with
  | ofNat n =>
      have reads := reads_number false n readsFraction_none
      have text : signText false ++ (Nat.toDigits 10 n ++ []) = (toString (Int.ofNat n)).toList := by
        rw [List.append_nil]
        exact Nat.toList_repr.symm
      rw [text, if_neg Bool.false_ne_true, add_zero] at reads
      exact reads
  | negSucc n =>
      have reads := reads_number true (n + 1) readsFraction_none
      have text : signText true ++ (Nat.toDigits 10 (n + 1) ++ []) = (toString (Int.negSucc n)).toList := by
        show _ = ("-" ++ (n + 1).repr).toList
        rw [List.append_nil, String.toList_append, Nat.toList_repr]
        rfl
      rw [text, if_pos rfl, add_zero] at reads
      rw [Int.cast_negSucc]
      exact reads

/-! ### Arrays and objects -/

/-- Texts with commas in between. -/
def commaText : List (List Char) → List Char
  | [] => []
  | [text] => text
  | text :: next :: texts => text ++ ',' :: commaText (next :: texts)

def arrayText (elements : List (List Char)) : List Char := '[' :: (commaText elements ++ [']'])

def memberText (name value : List Char) : List Char := quoted name ++ ':' :: value

/-- The text of an object with some names and texts of values. -/
def objectText (members : List (List Char × List Char)) : List Char :=
  '\x7b' :: (commaText (members.map fun member => memberText member.1 member.2) ++ ['\x7d'])

theorem delimited_comma (rest : List Char) : Delimited (',' :: rest) := by
  intro c first
  cases first
  exact Or.inl rfl

theorem commaText_cons (text : List Char) (texts : List (List Char)) :
    ∃ more, commaText (text :: texts) = text ++ more := by
  cases texts with
  | nil => exact ⟨[], (List.append_nil text).symm⟩
  | cons next texts => exact ⟨_, rfl⟩

theorem commaText_eq (text : List Char) (texts : List (List Char)) :
    commaText (text :: texts) = text ++ texts.flatMap fun next => ',' :: next := by
  induction texts generalizing text with
  | nil => exact (List.append_nil text).symm
  | cons next texts ih =>
      rw [commaText, ih next, List.flatMap_cons]
      rfl

/-- The text of an object with several members, up to the quote of the second name. -/
theorem objectText_front (name value : List Char) (next : List Char × List Char)
    (members : List (List Char × List Char)) (rest : List Char) :
    ∃ more, objectText ((name, value) :: next :: members) ++ rest =
      '\x7b' :: (memberText name value ++ ',' :: '"' :: more) := by
  obtain ⟨others, second⟩ := commaText_cons (memberText next.1 next.2)
    (members.map fun member => memberText member.1 member.2)
  refine ⟨next.1 ++ '"' :: ':' :: (next.2 ++ (others ++ '\x7d' :: rest)), ?_⟩
  rw [objectText, List.map_cons, List.map_cons, commaText, second]
  simp [memberText, quoted]

/-- The first of the elements up to the end of an array, and the others. -/
theorem readElements_first {fuel : Nat} {text rest : List Char} {elements : List Json}
    (found : readElements fuel text = some (elements, rest)) :
    ∃ fuel' value after others, readValue fuel' text = some (value, after) ∧ elements = value :: others ∧
      ∀ more, after = ',' :: more → readElements fuel' more = some (others, rest) := by
  cases fuel with
  | zero => cases found
  | succ fuel =>
      rw [readElements, Option.bind_eq_bind, Option.bind_eq_some_iff] at found
      obtain ⟨⟨value, after⟩, first, later⟩ := found
      dsimp only at later
      cases front : skipBlank after with
      | nil =>
          rw [front] at later
          cases later
      | cons c more =>
          rw [front] at later
          dsimp only at later
          split_ifs at later with comma bracket
          · obtain ⟨⟨others, left⟩, inner, same⟩ := Option.map_eq_some_iff.mp later
            cases same
            refine ⟨fuel, value, after, others, first, rfl, ?_⟩
            rintro more' rfl
            rw [skipBlank_cons (by decide)] at front
            cases front
            exact inner
          · cases later
            refine ⟨fuel, value, after, [], first, rfl, ?_⟩
            rintro more' rfl
            rw [skipBlank_cons (by decide)] at front
            cases front
            exact absurd rfl comma

theorem readElements_commaText {fuel : Nat} (rest : List Char) (elements : List (List Char × Json)) :
    ∀ element : List Char × Json, (∀ part ∈ element :: elements, Reads fuel part.1 part.2) →
      readElements (fuel + (elements.length + 1))
          (commaText ((element :: elements).map Prod.fst) ++ ']' :: rest) =
        some ((element :: elements).map Prod.snd, rest) := by
  have delimited : Delimited (']' :: rest) := by
    intro c first
    cases first
    exact Or.inr (Or.inl rfl)
  induction elements with
  | nil =>
      intro element reads
      have first := (reads element List.mem_cons_self).reads _ delimited
      show readElements (fuel + 1) (element.1 ++ ']' :: rest) = _
      rw [readElements, first]
      rfl
  | cons next elements ih =>
      intro element reads
      obtain ⟨here, others⟩ := List.forall_mem_cons.mp reads
      have first := (here.mono (Nat.le_add_right fuel (elements.length + 1))).reads
        (',' :: (commaText ((next :: elements).map Prod.fst) ++ ']' :: rest)) (delimited_comma _)
      have later := ih next others
      show readElements (fuel + (elements.length + 1) + 1)
        ((element.1 ++ ',' :: commaText ((next :: elements).map Prod.fst)) ++ ']' :: rest) = _
      rw [List.append_assoc, List.cons_append, readElements, first]
      show (readElements (fuel + (elements.length + 1))
        (commaText ((next :: elements).map Prod.fst) ++ ']' :: rest)).map _ = _
      rw [later]
      rfl

/-- What an array that is not empty is read as. -/
theorem readValue_arrayText {fuel : Nat} {c : Char} {first : List Char} {texts : List (List Char)} {value : Json}
    {rest : List Char} (solid : isBlank c = false) (other : c ≠ ']')
    (found : readValue fuel (arrayText ((c :: first) :: texts)) = some (value, rest)) :
    ∃ fuel' elements, value = .array elements ∧
      readElements fuel' (commaText ((c :: first) :: texts) ++ [']']) = some (elements, rest) := by
  cases fuel with
  | zero => cases found
  | succ fuel =>
      obtain ⟨others, front⟩ := commaText_cons (c :: first) texts
      have nonempty : expect ']' (skipBlank (commaText ((c :: first) :: texts) ++ [']'])) = none := by
        rw [front, List.cons_append, List.cons_append, skipBlank_cons solid]
        exact if_neg other
      rw [arrayText, readValue, skipBlank_cons (by decide)] at found
      dsimp only at found
      rw [if_neg (by decide), if_pos rfl, nonempty] at found
      obtain ⟨⟨elements, after⟩, inside, same⟩ := Option.map_eq_some_iff.mp found
      cases same
      exact ⟨fuel, elements, rfl, inside⟩

/-- An array of texts that read back reads back. -/
theorem reads_array {fuel : Nat} (elements : List (List Char × Json))
    (reads : ∀ element ∈ elements, Reads fuel element.1 element.2) :
    Reads (fuel + elements.length + 1) (arrayText (elements.map Prod.fst)) (.array (elements.map Prod.snd)) := by
  refine ⟨⟨'[', _, rfl, by decide, by decide⟩, ?_⟩
  intro rest _
  rw [arrayText, List.cons_append, readValue, skipBlank_cons (by decide)]
  dsimp only
  rw [if_neg (by decide), if_pos rfl, List.append_assoc, List.singleton_append]
  cases elements with
  | nil => rfl
  | cons element elements =>
      obtain ⟨c, more, split, solid, other⟩ := (reads element List.mem_cons_self).starts
      have nonempty :
          expect ']' (skipBlank (commaText ((element :: elements).map Prod.fst) ++ ']' :: rest)) = none := by
        obtain ⟨others, first⟩ := commaText_cons element.1 (elements.map Prod.fst)
        rw [List.map_cons, first, split, List.cons_append, List.cons_append, skipBlank_cons solid]
        exact if_neg other
      rw [nonempty]
      dsimp only
      rw [List.length_cons, readElements_commaText rest elements element reads]
      rfl

theorem reads_arrayOf {α : Type*} {fuel : Nat} {texts : α → List Char} {values : α → Json} {items : List α}
    (reads : ∀ item ∈ items, Reads fuel (texts item) (values item)) :
    Reads (fuel + items.length + 1) (arrayText (items.map texts)) (.array (items.map values)) := by
  have parts := reads_array (items.map fun item => (texts item, values item)) (by
    intro part member
    obtain ⟨item, listed, rfl⟩ := List.mem_map.mp member
    exact reads item listed)
  rw [List.map_map, List.map_map, List.length_map] at parts
  exact parts

/-- A member reads back. -/
theorem readMembers_memberText {fuel : Nat} {name text rest : List Char} {value : Json} {c : Char}
    (plain : Plain name) (reads : Reads fuel text value) (delimited : Delimited (c :: rest)) :
    readMembers (fuel + 1) (memberText name text ++ c :: rest) =
      if c = ',' then (readMembers fuel rest).map fun read => ((String.ofList name, value) :: read.1, read.2)
      else if c = '\x7d' then some ([(String.ofList name, value)], rest)
      else none := by
  have string : readString ((name ++ ['"']) ++ (':' :: text ++ c :: rest)) =
      some (name, ':' :: text ++ c :: rest) := by
    rw [List.append_assoc]
    exact readString_plain plain _
  rw [memberText, quoted, List.append_assoc, List.cons_append, readMembers, skipBlank_cons (by decide), expect,
    if_pos rfl]
  simp only [Option.bind_eq_bind, Option.bind_some]
  rw [string]
  simp only [Option.bind_some]
  rw [List.cons_append, skipBlank_cons (by decide), expect, if_pos rfl, Option.bind_some, reads.reads _ delimited]
  simp only [Option.bind_some]
  rw [delimited.skipBlank]

theorem readMembers_commaText {fuel : Nat} (rest : List Char) (members : List (List Char × List Char × Json)) :
    ∀ member : List Char × List Char × Json,
      (∀ part ∈ member :: members, Plain part.1 ∧ Reads fuel part.2.1 part.2.2) →
      readMembers (fuel + (members.length + 1))
          (commaText ((member :: members).map fun part => memberText part.1 part.2.1) ++ '\x7d' :: rest) =
        some ((member :: members).map fun part => (String.ofList part.1, part.2.2), rest) := by
  have delimited : Delimited ('\x7d' :: rest) := by
    intro c first
    cases first
    exact Or.inr (Or.inr rfl)
  induction members with
  | nil =>
      intro member reads
      obtain ⟨plain, value⟩ := reads member List.mem_cons_self
      have front := readMembers_memberText plain value delimited
      show readMembers (fuel + 1) (memberText member.1 member.2.1 ++ '\x7d' :: rest) = _
      rw [front]
      rfl
  | cons next members ih =>
      intro member reads
      obtain ⟨here, others⟩ := List.forall_mem_cons.mp reads
      have value := here.2.mono (Nat.le_add_right fuel (members.length + 1))
      have front := readMembers_memberText here.1 value
        (delimited_comma (commaText ((next :: members).map fun part => memberText part.1 part.2.1) ++ '\x7d' :: rest))
      have later := ih next others
      show readMembers (fuel + (members.length + 1) + 1)
        ((memberText member.1 member.2.1 ++ ',' :: commaText ((next :: members).map fun part =>
          memberText part.1 part.2.1)) ++ '\x7d' :: rest) = _
      rw [List.append_assoc, List.cons_append, front]
      show (readMembers (fuel + (members.length + 1)) (commaText ((next :: members).map fun part =>
        memberText part.1 part.2.1) ++ '\x7d' :: rest)).map _ = _
      rw [later]
      rfl

/-- An object of texts that read back reads back. -/
theorem reads_object {fuel : Nat} (members : List (List Char × List Char × Json))
    (reads : ∀ member ∈ members, Plain member.1 ∧ Reads fuel member.2.1 member.2.2) :
    Reads (fuel + members.length + 1) (objectText (members.map fun member => (member.1, member.2.1)))
      (.object (members.map fun member => (String.ofList member.1, member.2.2))) := by
  have text : objectText (members.map fun member => (member.1, member.2.1)) =
      '\x7b' :: (commaText (members.map fun member => memberText member.1 member.2.1) ++ ['\x7d']) := by
    rw [objectText, List.map_map]
    rfl
  refine ⟨⟨'\x7b', _, rfl, by decide, by decide⟩, ?_⟩
  intro rest _
  rw [text, List.cons_append, readValue, skipBlank_cons (by decide)]
  dsimp only
  rw [if_neg (by decide), if_neg (by decide), if_pos rfl, List.append_assoc, List.singleton_append]
  cases members with
  | nil => rfl
  | cons member members =>
      have nonempty : expect '\x7d' (skipBlank (commaText ((member :: members).map fun member =>
          memberText member.1 member.2.1) ++ '\x7d' :: rest)) = none := by
        obtain ⟨others, first⟩ := commaText_cons (memberText member.1 member.2.1)
          (members.map fun member => memberText member.1 member.2.1)
        rw [List.map_cons, first, memberText, quoted, List.cons_append, List.cons_append, List.cons_append,
          skipBlank_cons (by decide)]
        rfl
      rw [nonempty]
      dsimp only
      rw [List.length_cons, readMembers_commaText rest members member reads]
      rfl

/-! ### Text that does not stand for itself -/

/-- The string that comes first in an object and was written as it is; another member follows it. -/
theorem readValue_firstMember {fuel : Nat} {name text more rest : List Char} {value : Json} (plain : Plain name)
    (found : readValue fuel ('\x7b' :: (memberText name (quoted text) ++ ',' :: '"' :: more)) = some (value, rest)) :
    ∃ read others, value = .object ((String.ofList name, .string (String.ofList read)) :: others) ∧
      (¬Plain text → read ≠ text) := by
  cases fuel with
  | zero => cases found
  | succ fuel =>
      rw [readValue, skipBlank_cons (by decide)] at found
      dsimp only at found
      rw [if_neg (by decide), if_neg (by decide), if_pos rfl] at found
      have shape : memberText name (quoted text) ++ ',' :: '"' :: more =
          '"' :: ((name ++ ['"']) ++ (':' :: '"' :: (text ++ '"' :: ',' :: '"' :: more))) := by
        simp [memberText, quoted]
      have string : readString ((name ++ ['"']) ++ (':' :: '"' :: (text ++ '"' :: ',' :: '"' :: more))) =
          some (name, ':' :: '"' :: (text ++ '"' :: ',' :: '"' :: more)) := by
        rw [List.append_assoc]
        exact readString_plain plain _
      rw [shape, skipBlank_cons (by decide), expect, if_neg (by decide)] at found
      obtain ⟨⟨members, after⟩, inside, same⟩ := Option.map_eq_some_iff.mp found
      cases fuel with
      | zero => cases inside
      | succ fuel =>
          rw [readMembers, skipBlank_cons (by decide), expect, if_pos rfl] at inside
          simp only [Option.bind_eq_bind, Option.bind_some] at inside
          rw [string] at inside
          simp only [Option.bind_some] at inside
          rw [skipBlank_cons (by decide), expect, if_pos rfl, Option.bind_some, Option.bind_eq_some_iff] at inside
          obtain ⟨⟨first, left⟩, front, later⟩ := inside
          cases fuel with
          | zero => cases front
          | succ fuel =>
              rw [readValue, skipBlank_cons (by decide)] at front
              dsimp only at front
              rw [if_pos rfl] at front
              obtain ⟨read, text', same'⟩ := Option.map_eq_some_iff.mp front
              cases same'
              cases same
              -- whatever follows the first member
              have cons : ∃ others, members = (String.ofList name, .string (String.ofList read.1)) :: others := by
                dsimp only at later
                split at later
                · cases later
                · split_ifs at later
                  · obtain ⟨inner, -, same⟩ := Option.map_eq_some_iff.mp later
                    cases same
                    exact ⟨_, rfl⟩
                  · cases later
                    exact ⟨_, rfl⟩
              obtain ⟨others, rfl⟩ := cons
              exact ⟨read.1, others, rfl, fun notPlain => readString_ne notPlain more text'⟩

end Json

end Arena60.Misc
