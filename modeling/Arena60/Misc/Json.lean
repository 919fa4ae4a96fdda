import Mathlib.Algebra.Order.Field.Rat

/-!
# JSON

What a JSON text means, by the grammar of the format: a reader that takes a value off the front of a
text. The fuel bounds how deep values nest and how many parts they have; a text denotes a value when
some fuel is enough to read it as that value, and more fuel reads no other.
-/

namespace Arena60.Misc

/-- A JSON value; the members of an object are in the order of the text. -/
inductive Json where
  | null
  | bool (value : Bool)
  | number (value : ℚ)
  | string (text : String)
  | array (elements : List Json)
  | object (members : List (String × Json))

namespace Json

/-! ## The grammar -/

/-- Insignificant whitespace. -/
def isBlank (c : Char) : Bool := c == ' ' || c == '\t' || c == '\n' || c == '\r'

def skipBlank (text : List Char) : List Char := text.dropWhile isBlank

/-- The text after a character that has to stand first. -/
def expect (c : Char) : List Char → Option (List Char)
  | [] => none
  | first :: rest => if first = c then some rest else none

def hexDigit (c : Char) : Option Nat :=
  if '0' ≤ c ∧ c ≤ '9' then some (c.toNat - '0'.toNat)
  else if 'a' ≤ c ∧ c ≤ 'f' then some (c.toNat - 'a'.toNat + 10)
  else if 'A' ≤ c ∧ c ≤ 'F' then some (c.toNat - 'A'.toNat + 10)
  else none

/-- Four hexadecimal digits. -/
def codeUnit (first second third fourth : Char) : Option Nat := do
  let first ← hexDigit first
  let second ← hexDigit second
  let third ← hexDigit third
  let fourth ← hexDigit fourth
  return ((first * 16 + second) * 16 + third) * 16 + fourth

/-- The character that a letter after a backslash stands for. -/
def shortEscape (c : Char) : Option Char :=
  if c = '"' ∨ c = '\\' ∨ c = '/' then some c
  else if c = 'b' then some (Char.ofNat 8)
  else if c = 'f' then some (Char.ofNat 12)
  else if c = 'n' then some '\n'
  else if c = 'r' then some '\r'
  else if c = 't' then some '\t'
  else none

def isHighSurrogate (unit : Nat) : Bool := 0xD800 ≤ unit && unit < 0xDC00

def isLowSurrogate (unit : Nat) : Bool := 0xDC00 ≤ unit && unit < 0xE000

/-- What is left of a string, up to its closing quote, and the text after it. -/
def readString : List Char → Option (List Char × List Char)
  | [] => none
  | c :: rest =>
      if c = '"' then some ([], rest)
      else if c = '\\' then
        match rest with
        | [] => none
        | e :: rest =>
            match shortEscape e with
            | some c => (readString rest).map fun read => (c :: read.1, read.2)
            | none =>
                if e ≠ 'u' then none
                else
                  match rest with
                  | h₁ :: h₂ :: h₃ :: h₄ :: rest =>
                      match codeUnit h₁ h₂ h₃ h₄ with
                      | none => none
                      | some unit =>
                          if isLowSurrogate unit then none
                          else if isHighSurrogate unit then
                            match rest with
                            | b :: u :: l₁ :: l₂ :: l₃ :: l₄ :: rest =>
                                if b = '\\' ∧ u = 'u' then
                                  match codeUnit l₁ l₂ l₃ l₄ with
                                  | none => none
                                  | some low =>
                                      if isLowSurrogate low then
                                        (readString rest).map fun read =>
                                          (Char.ofNat (0x10000 + (unit - 0xD800) * 0x400 + (low - 0xDC00)) :: read.1,
                                            read.2)
                                      else none
                                else none
                            | _ => none
                          else (readString rest).map fun read => (Char.ofNat unit :: read.1, read.2)
                  | _ => none
      else if c.toNat < 32 then none
      else (readString rest).map fun read => (c :: read.1, read.2)

def readDigits (text : List Char) : Option (List Char × List Char) :=
  let digits := text.takeWhile Char.isDigit
  if digits.isEmpty then none else some (digits, text.dropWhile Char.isDigit)

def readSign (text : List Char) : Bool × List Char :=
  match expect '-' text with
  | some rest => (true, rest)
  | none => (false, text)

def readFraction (text : List Char) : Option (ℚ × List Char) :=
  match expect '.' text with
  | none => some (0, text)
  | some rest => do
      let (digits, rest) ← readDigits rest
      return ((Nat.ofDigitChars 10 digits 0 : ℚ) / 10 ^ digits.length, rest)

def readExponent (text : List Char) : Option (Int × List Char) :=
  match text with
  | [] => some (0, text)
  | c :: rest =>
      if c = 'e' ∨ c = 'E' then do
        let (negative, rest) := readSign rest
        let rest := if negative then rest else (expect '+' rest).getD rest
        let (digits, rest) ← readDigits rest
        let exponent : Int := Nat.ofDigitChars 10 digits 0
        return (if negative then -exponent else exponent, rest)
      else some (0, text)

/-- A number, whose integer part has no leading zeros. -/
def readNumber (text : List Char) : Option (ℚ × List Char) := do
  let (negative, rest) := readSign text
  let (digits, rest) ← readDigits rest
  if digits.head? = some '0' ∧ digits.length ≠ 1 then none
  else
    let (fraction, rest) ← readFraction rest
    let (exponent, rest) ← readExponent rest
    let magnitude : ℚ := (Nat.ofDigitChars 10 digits 0 + fraction) * 10 ^ exponent
    return (if negative then -magnitude else magnitude, rest)

def readWord (word : List Char) (value : Json) (text : List Char) : Option (Json × List Char) :=
  if word.isPrefixOf text then some (value, text.drop word.length) else none

mutual

/-- The value at the front of a text, and the text after it. -/
def readValue : Nat → List Char → Option (Json × List Char)
  | 0, _ => none
  | fuel + 1, text =>
      match skipBlank text with
      | [] => none
      | c :: rest =>
          if c = '"' then (readString rest).map fun read => (.string (String.ofList read.1), read.2)
          else if c = '[' then
            match expect ']' (skipBlank rest) with
            | some rest => some (.array [], rest)
            | none => (readElements fuel rest).map fun read => (.array read.1, read.2)
          else if c = '\x7b' then
            match expect '\x7d' (skipBlank rest) with
            | some rest => some (.object [], rest)
            | none => (readMembers fuel rest).map fun read => (.object read.1, read.2)
          else if c = 't' then readWord ['t', 'r', 'u', 'e'] (.bool true) (c :: rest)
          else if c = 'f' then readWord ['f', 'a', 'l', 's', 'e'] (.bool false) (c :: rest)
          else if c = 'n' then readWord ['n', 'u', 'l', 'l'] .null (c :: rest)
          else (readNumber (c :: rest)).map fun read => (.number read.1, read.2)

/-- The elements up to the end of an array. -/
def readElements : Nat → List Char → Option (List Json × List Char)
  | 0, _ => none
  | fuel + 1, text => do
      let (element, rest) ← readValue fuel text
      match skipBlank rest with
      | [] => none
      | c :: rest =>
          if c = ',' then (readElements fuel rest).map fun read => (element :: read.1, read.2)
          else if c = ']' then some ([element], rest)
          else none

/-- The members up to the end of an object. -/
def readMembers : Nat → List Char → Option (List (String × Json) × List Char)
  | 0, _ => none
  | fuel + 1, text => do
      let rest ← expect '"' (skipBlank text)
      let (name, rest) ← readString rest
      let rest ← expect ':' (skipBlank rest)
      let (value, rest) ← readValue fuel rest
      match skipBlank rest with
      | [] => none
      | c :: rest =>
          if c = ',' then
            (readMembers fuel rest).map fun read => ((String.ofList name, value) :: read.1, read.2)
          else if c = '\x7d' then some ([(String.ofList name, value)], rest)
          else none

end

/-- A text that is one value and nothing else. -/
def readAll (fuel : Nat) (text : List Char) : Option Json := do
  let (value, rest) ← readValue fuel text
  if skipBlank rest = [] then some value else none

/-- A text denotes a value. -/
def Denotes (text : String) (value : Json) : Prop := ∃ fuel, readAll fuel text.toList = some value

/-- The value under a name that occurs once in an object. -/
def member (name : String) : Json → Option Json
  | .object members =>
      match members.filter fun member => member.1 == name with
      | [member] => some member.2
      | _ => none
  | _ => none

theorem member_first {name : String} {value found : Json} {others : List (String × Json)}
    (unique : (object ((name, value) :: others)).member name = some found) : found = value := by
  have first : ((name, value).1 == name) = true := beq_self_eq_true name
  rw [member, List.filter_cons, if_pos first] at unique
  cases again : others.filter fun member => member.1 == name with
  | nil =>
      rw [again] at unique
      injection unique with same
      exact same.symm
  | cons second later =>
      rw [again] at unique
      cases unique

/-! ## More fuel reads no other value -/

theorem read_succ (fuel : Nat) :
    (∀ text read, readValue fuel text = some read → readValue (fuel + 1) text = some read) ∧
    (∀ text read, readElements fuel text = some read → readElements (fuel + 1) text = some read) ∧
    (∀ text read, readMembers fuel text = some read → readMembers (fuel + 1) text = some read) := by
  induction fuel with
  | zero =>
      refine ⟨?_, ?_, ?_⟩ <;> intro text read found <;> cases found
  | succ fuel ih =>
      obtain ⟨values, elements, members⟩ := ih
      refine ⟨?_, ?_, ?_⟩
      · intro text read found
        rw [readValue] at found ⊢
        cases front : skipBlank text with
        | nil =>
            rw [front] at found
            cases found
        | cons c rest =>
            rw [front] at found
            dsimp only at found ⊢
            split_ifs at found ⊢ with quote bracket brace
            · exact found
            · cases closed : expect ']' (skipBlank rest) with
              | some rest =>
                  rw [closed] at found
                  exact found
              | none =>
                  rw [closed] at found
                  obtain ⟨inner, found', same⟩ := Option.map_eq_some_iff.mp found
                  exact Option.map_eq_some_iff.mpr ⟨inner, elements _ _ found', same⟩
            · cases closed : expect '\x7d' (skipBlank rest) with
              | some rest =>
                  rw [closed] at found
                  exact found
              | none =>
                  rw [closed] at found
                  obtain ⟨inner, found', same⟩ := Option.map_eq_some_iff.mp found
                  exact Option.map_eq_some_iff.mpr ⟨inner, members _ _ found', same⟩
            all_goals exact found
      · intro text read found
        rw [readElements, Option.bind_eq_bind, Option.bind_eq_some_iff] at found ⊢
        obtain ⟨⟨element, rest⟩, first, found⟩ := found
        refine ⟨⟨element, rest⟩, values _ _ first, ?_⟩
        dsimp only at found ⊢
        cases front : skipBlank rest with
        | nil =>
            rw [front] at found
            cases found
        | cons c rest =>
            rw [front] at found
            dsimp only at found ⊢
            split_ifs at found ⊢ with comma bracket
            · obtain ⟨inner, found', same⟩ := Option.map_eq_some_iff.mp found
              exact Option.map_eq_some_iff.mpr ⟨inner, elements _ _ found', same⟩
            · exact found
      · intro text read found
        rw [readMembers] at found ⊢
        simp only [Option.bind_eq_bind, Option.bind_eq_some_iff] at found ⊢
        obtain ⟨opened, quote, ⟨name, named⟩, string, rest, colon, ⟨value, after⟩, first, found⟩ := found
        refine ⟨opened, quote, ⟨name, named⟩, string, rest, colon, ⟨value, after⟩, values _ _ first, ?_⟩
        dsimp only at found ⊢
        cases front : skipBlank after with
        | nil =>
            rw [front] at found
            cases found
        | cons c rest =>
            rw [front] at found
            dsimp only at found ⊢
            split_ifs at found ⊢ with comma brace
            · obtain ⟨inner, found', same⟩ := Option.map_eq_some_iff.mp found
              exact Option.map_eq_some_iff.mpr ⟨inner, members _ _ found', same⟩
            · exact found

theorem readValue_mono {fuel fuel' : Nat} (less : fuel ≤ fuel') {text : List Char} {read : Json × List Char}
    (found : readValue fuel text = some read) : readValue fuel' text = some read := by
  induction less with
  | refl => exact found
  | step _ ih => exact (read_succ _).1 _ _ ih

/-- Two readings of a text agree. -/
theorem readValue_unique {fuel fuel' : Nat} {text : List Char} {read read' : Json × List Char}
    (found : readValue fuel text = some read) (found' : readValue fuel' text = some read') : read = read' := by
  have same := readValue_mono (Nat.le_max_left fuel fuel') found
  rw [readValue_mono (Nat.le_max_right fuel fuel') found'] at same
  cases same
  rfl

theorem Denotes.unique {text : String} {value value' : Json} (denotes : Denotes text value)
    (denotes' : Denotes text value') : value = value' := by
  obtain ⟨fuel, read⟩ := denotes
  obtain ⟨fuel', read'⟩ := denotes'
  rw [readAll, Option.bind_eq_bind, Option.bind_eq_some_iff] at read read'
  obtain ⟨⟨first, rest⟩, found, whole⟩ := read
  obtain ⟨⟨first', rest'⟩, found', whole'⟩ := read'
  cases readValue_unique found found'
  rw [whole, Option.some.injEq] at whole'
  exact whole'

end Json

end Arena60.Misc
