import Arena60.Misc.TextSearch
import Mathlib.Data.List.TakeWhile

/-!
# Formatted input

A formatted extraction of `std::istringstream` skips whitespace, takes the longest field of its type
from the front of the text, whatever follows, and converts it. The words of a text are what whitespace
separates; a field that ends where its word ends is that word.
-/

namespace Arena60.Misc

universe u v

/-- `std::isspace` in the classic locale. -/
def isSpace (c : Char) : Bool := c.toNat == 32 || decide (9 ≤ c.toNat ∧ c.toNat ≤ 13)

/-- Nothing, or whitespace. -/
def EndsWord (rest : List Char) : Prop := ∀ c ∈ rest.head?, isSpace c = true

/-- A kind of fields. A complete field is taken whole from the front of a text, unless the text
goes on in a way that makes it longer. -/
structure FieldKind (φ : Type) where
  text : φ → List Char
  scan : List Char → φ × List Char
  Complete : φ → Prop
  Stops : φ → List Char → Prop
  text_scan : ∀ body, text (scan body).1 ++ (scan body).2 = body
  stops_scan : ∀ body, Complete (scan body).1 → Stops (scan body).1 (scan body).2
  scan_text : ∀ field rest, Complete field → Stops field rest → scan (text field ++ rest) = (field, rest)
  solid : ∀ field, Complete field → text field ≠ [] ∧ ∀ c ∈ text field, isSpace c = false
  stops_of_endsWord : ∀ field rest, Complete field → EndsWord rest → Stops field rest

/-- A text begins, after whitespace, with a field that ends in front of a rest. -/
def FieldKind.Next {φ : Type} (kind : FieldKind φ) (text : List Char) (field : φ) (rest : List Char)
    : Prop :=
  ∃ gap, (∀ c ∈ gap, isSpace c = true) ∧ text = gap ++ (kind.text field ++ rest) ∧ kind.Complete field ∧
    kind.Stops field rest

/-! ## Streams -/

/-- `std::istringstream`: what is not yet read, `eofbit` and `failbit`. -/
structure InStream where
  text : List Char
  eof : Bool
  fail : Bool

namespace InStream

/-- The constructor. -/
def ofText (text : String) : InStream := ⟨text.toList, false, false⟩

/-- A stream after an extraction, which has seen the end of the text when nothing is left. -/
def leaving (rest : List Char) (fail : Bool) : InStream := ⟨rest, rest.isEmpty, fail⟩

/-- The sentry of a formatted extraction. -/
def sentry (s : InStream) : InStream :=
  if s.eof || s.fail then { s with fail := true }
  else
    match s.text.dropWhile isSpace with
    | [] => ⟨[], true, true⟩
    | c :: rest => ⟨c :: rest, false, false⟩

/-- A formatted extraction: what is stored, if it succeeds, and the stream. -/
def extract {φ : Type} {ν : Type u} (kind : FieldKind φ) (convert : φ → Option ν) (s : InStream)
    : Option ν × InStream :=
  let s := s.sentry
  if s.fail then (none, s)
  else
    let (field, rest) := kind.scan s.text
    match convert field with
    | none => (none, leaving rest true)
    | some value => (some value, leaving rest false)

/-- A stream that can be read, unless its text has ended. -/
def Ready (s : InStream) : Prop := s.fail = false ∧ (s.eof = true → s.text = [])

theorem ready_ofText (text : String) : (ofText text).Ready := ⟨rfl, nofun⟩

theorem ready_leaving (rest : List Char) : (leaving rest false).Ready :=
  ⟨rfl, fun eof => List.isEmpty_iff.mp eof⟩

end InStream

section fields

variable {φ : Type} {ν : Type u} {kind : FieldKind φ}

theorem dropWhile_gap {gap : List Char} (blank : ∀ c ∈ gap, isSpace c = true) (text : List Char) :
    (gap ++ text).dropWhile isSpace = text.dropWhile isSpace := List.dropWhile_append_of_pos blank

theorem dropWhile_solid {word : List Char} (some : word ≠ []) (solid : ∀ c ∈ word, isSpace c = false)
    (rest : List Char) : (word ++ rest).dropWhile isSpace = word ++ rest := by
  cases word with
  | nil => exact absurd rfl some
  | cons c word =>
      rw [List.cons_append, List.dropWhile_cons_of_neg]
      rw [solid c List.mem_cons_self]
      exact Bool.false_ne_true

/-- After whitespace there is nothing but the field and the rest. -/
theorem FieldKind.Next.dropWhile_eq {text rest : List Char} {field : φ}
    (next : kind.Next text field rest) :
    text.dropWhile isSpace = kind.text field ++ rest := by
  obtain ⟨gap, blank, rfl, complete, -⟩ := next
  obtain ⟨some, solid⟩ := kind.solid field complete
  rw [dropWhile_gap blank, dropWhile_solid some solid]

theorem FieldKind.Next.complete {text rest : List Char} {field : φ} (next : kind.Next text field rest) :
    kind.Complete field := by
  obtain ⟨_, _, _, complete, _⟩ := next
  exact complete

theorem FieldKind.Next.stops {text rest : List Char} {field : φ} (next : kind.Next text field rest) :
    kind.Stops field rest := by
  obtain ⟨_, _, _, _, stops⟩ := next
  exact stops

theorem FieldKind.Next.scan_eq {text rest : List Char} {field : φ} (next : kind.Next text field rest) :
    kind.scan (text.dropWhile isSpace) = (field, rest) := by
  rw [next.dropWhile_eq]
  exact kind.scan_text field rest next.complete next.stops

/-- What is scanned after whitespace comes next, if it is complete. -/
theorem FieldKind.next_of_scan {text rest : List Char} {field : φ}
    (scanned : kind.scan (text.dropWhile isSpace) = (field, rest)) (complete : kind.Complete field) :
    kind.Next text field rest := by
  have whole := kind.text_scan (text.dropWhile isSpace)
  have stops := kind.stops_scan (text.dropWhile isSpace)
  rw [scanned] at whole stops
  refine ⟨text.takeWhile isSpace, fun _ => List.mem_takeWhile_imp, ?_, complete, stops complete⟩
  rw [whole, List.takeWhile_append_dropWhile]

namespace InStream

theorem extract_of_fail {s : InStream} (failed : s.fail = true) (convert : φ → Option ν) :
    (s.extract kind convert).1 = none ∧ (s.extract kind convert).2.fail = true := by
  have stopped : s.sentry.fail = true := by
    rw [sentry, failed, Bool.or_true, if_pos rfl]
  rw [extract, if_pos stopped]
  exact ⟨rfl, stopped⟩

/-- A stream fails when an extraction stores nothing. -/
theorem extract_fail_iff (s : InStream) (convert : φ → Option ν) :
    (s.extract kind convert).2.fail = true ↔ (s.extract kind convert).1 = none := by
  rw [extract]
  dsimp only
  split_ifs with failed
  · simp [failed]
  · cases convert (kind.scan s.sentry.text).1 <;> simp [leaving]

/-- A sentry that lets an extraction through has skipped whitespace. -/
theorem sentry_text {s : InStream} (good : ¬s.sentry.fail = true) : s.sentry.text = s.text.dropWhile isSpace := by
  unfold sentry at good ⊢
  split_ifs at good ⊢ with bad
  · exact absurd rfl good
  · cases body : s.text.dropWhile isSpace with
    | nil => rfl
    | cons c rest => rfl

/-- The sentry of a stream in which a field comes next. -/
theorem Ready.sentry_eq {s : InStream} (ready : s.Ready) {field : φ} {rest : List Char}
    (next : kind.Next s.text field rest) : s.sentry = ⟨kind.text field ++ rest, false, false⟩ := by
  obtain ⟨present, _⟩ := kind.solid field next.complete
  have body := next.dropWhile_eq
  have good : (s.eof || s.fail) = false := by
    rw [ready.1, Bool.or_false, ← Bool.not_eq_true]
    intro ended
    rw [ready.2 ended] at body
    exact present (List.append_eq_nil_iff.mp body.symm).1
  rw [sentry, good, if_neg Bool.false_ne_true, body]
  cases text : kind.text field with
  | nil => exact absurd text present
  | cons c more => rfl

/-- An extraction succeeds when a field comes next that it can convert. -/
theorem Ready.extract_eq_some_iff {s s' : InStream} (ready : s.Ready) {convert : φ → Option ν}
    (onlyComplete : ∀ field value, convert field = some value → kind.Complete field) {value : ν} :
    s.extract kind convert = (some value, s') ↔
      ∃ field rest, kind.Next s.text field rest ∧ convert field = some value ∧
        s' = leaving rest false := by
  constructor
  · intro stored
    unfold extract at stored
    dsimp only at stored
    split_ifs at stored with failed
    · cases stored
    · rw [sentry_text failed] at stored
      cases converted : convert (kind.scan (s.text.dropWhile isSpace)).1 with
      | none =>
          rw [converted] at stored
          cases stored
      | some value' =>
          rw [converted] at stored
          cases stored
          have complete := onlyComplete _ _ converted
          exact ⟨_, _, FieldKind.next_of_scan rfl complete, converted, rfl⟩
  · rintro ⟨field, rest, next, converted, rfl⟩
    have opened := ready.sentry_eq next
    have scanned := kind.scan_text field rest next.complete next.stops
    simp only [extract, opened, scanned, converted, if_neg Bool.false_ne_true]

end InStream

/-! ## Words -/

/-- The words of a text. -/
def wordsOf (text : List Char) : List (List Char)
    := (text.splitOnP isSpace).filter fun word => word != []

theorem wordsOf_space {c : Char} (space : isSpace c = true) (text : List Char) :
    wordsOf (c :: text) = wordsOf text := by
  rw [wordsOf, List.splitOnP_cons_eq_if_modifyHead, if_pos space]
  rfl

theorem wordsOf_gap {gap : List Char} (blank : ∀ c ∈ gap, isSpace c = true) (text : List Char) :
    wordsOf (gap ++ text) = wordsOf text := by
  induction gap with
  | nil => rfl
  | cons c gap ih =>
      obtain ⟨space, rest⟩ := List.forall_mem_cons.mp blank
      rw [List.cons_append, wordsOf_space space]
      exact ih rest

theorem wordsOf_append {word rest : List Char} (some : word ≠ [])
    (solid : ∀ c ∈ word, isSpace c = false)
    (ends : EndsWord rest) : wordsOf (word ++ rest) = word :: wordsOf rest := by
  have kept : (word != []) = true := bne_iff_ne.mpr some
  cases rest with
  | nil =>
      rw [List.append_nil, wordsOf, List.splitOnP_eq_singleton solid, List.filter_cons, kept, if_pos rfl]
      rfl
  | cons c rest =>
      have space := ends c rfl
      rw [wordsOf_space space, wordsOf, List.splitOnP_append_cons_of_forall_mem solid c space,
        List.filter_cons, kept, if_pos rfl, wordsOf]

/-- The first word of a text is what stands between its first whitespace and the next. -/
theorem wordsOf_eq_cons {text word : List Char} {words : List (List Char)}
    (split : wordsOf text = word :: words) :
    ∃ rest, text.dropWhile isSpace = word ++ rest ∧ EndsWord rest ∧ wordsOf rest = words := by
  have blank : ∀ c ∈ text.takeWhile isSpace, isSpace c = true := fun _ => List.mem_takeWhile_imp
  have skipped := wordsOf_gap blank (text.dropWhile isSpace)
  rw [List.takeWhile_append_dropWhile, split] at skipped
  -- The body begins with a word, since it does not begin with whitespace.
  cases body : text.dropWhile isSpace with
  | nil =>
      rw [body] at skipped
      cases skipped
  | cons c more =>
      have solidFirst : isSpace c = false := head?_dropWhile_stops (by rw [body]; rfl)
      let first := (c :: more).takeWhile fun d => !isSpace d
      let rest := (c :: more).dropWhile fun d => !isSpace d
      have whole : first ++ rest = c :: more := List.takeWhile_append_dropWhile
      have present : first ≠ [] := by simp [first, solidFirst]
      have solid : ∀ d ∈ first, isSpace d = false := by
        intro d member
        simpa using List.mem_takeWhile_imp member
      have ends : EndsWord rest := by
        intro d here
        simpa using head?_dropWhile_stops here
      rw [body, ← whole, wordsOf_append present solid ends] at skipped
      obtain ⟨rfl, rfl⟩ := List.cons.inj skipped
      exact ⟨rest, whole.symm, ends, rfl⟩

/-- A field that ends with its word is the first word. -/
theorem FieldKind.Next.wordsOf_eq {text rest : List Char} {field : φ} (next : kind.Next text field rest)
    (ends : EndsWord rest) : wordsOf text = kind.text field :: wordsOf rest := by
  obtain ⟨gap, blank, rfl, complete, -⟩ := next
  obtain ⟨some, solid⟩ := kind.solid field complete
  rw [wordsOf_gap blank, wordsOf_append some solid ends]

/-- When the first word is a complete field, that field is the next one. -/
theorem FieldKind.Next.eq_word {text rest : List Char} {field word : φ} {words : List (List Char)}
    (next : kind.Next text field rest) (split : wordsOf text = kind.text word :: words)
    (complete : kind.Complete word) : field = word ∧ EndsWord rest ∧ wordsOf rest = words := by
  obtain ⟨rest', body, ends, tail⟩ := wordsOf_eq_cons split
  have scanned := next.scan_eq
  have stops := kind.stops_of_endsWord word rest' complete ends
  rw [body, kind.scan_text word rest' complete stops] at scanned
  cases scanned
  exact ⟨rfl, ends, tail⟩

end fields

/-- What `operator>>` for strings takes: no whitespace. -/
structure Word where
  chars : List Char
  solid : ∀ c ∈ chars, isSpace c = false

/-- The fields of `operator>>` for strings. -/
def wordKind : FieldKind Word where
  text := Word.chars
  scan body :=
    (⟨body.takeWhile fun c => !isSpace c, fun _ member => by simpa using List.mem_takeWhile_imp member⟩,
      body.dropWhile fun c => !isSpace c)
  Complete word := word.chars ≠ []
  Stops _ rest := EndsWord rest
  text_scan body := List.takeWhile_append_dropWhile
  stops_scan body _ := by
    intro c here
    simpa using head?_dropWhile_stops here
  scan_text word rest _ ends := by
    obtain ⟨chars, solid⟩ := word
    have kept : ∀ c ∈ chars, (fun c => !isSpace c) c = true := by
      intro c member
      simp [solid c member]
    have stops : ∀ c ∈ rest.head?, (fun c => !isSpace c) c = false := by
      intro c here
      simp [ends c here]
    simpa only [Prod.mk.injEq, Word.mk.injEq] using takeWhile_append_run kept stops
  solid word some := ⟨some, word.solid⟩
  stops_of_endsWord _ _ _ ends := ends

/-! ## Chains of extractions -/

/-- An extraction: it stores nothing exactly when it fails its stream, and otherwise takes a value
from the front of the text. -/
structure Extraction (ν : Type u) where
  run : InStream → Option ν × InStream
  Takes : List Char → ν → List Char → Prop
  fail_iff : ∀ s, (run s).2.fail = true ↔ (run s).1 = none
  run_fail : ∀ s, s.fail = true → (run s).2.fail = true
  run_iff : ∀ {s}, s.Ready → ∀ value s', run s = (some value, s') ↔
    ∃ rest, Takes s.text value rest ∧ s' = .leaving rest false

namespace Extraction

/-- The extraction of a field. -/
def ofKind {φ : Type} {ν : Type u} (kind : FieldKind φ) (convert : φ → Option ν)
    (onlyComplete : ∀ field value, convert field = some value → kind.Complete field)
    : Extraction ν where
  run s := s.extract kind convert
  Takes text value rest := ∃ field, kind.Next text field rest ∧ convert field = some value
  fail_iff s := s.extract_fail_iff convert
  run_fail _ failed := (InStream.extract_of_fail failed convert).2
  run_iff ready value s' := by
    rw [ready.extract_eq_some_iff onlyComplete]
    constructor
    · rintro ⟨field, rest, next, converted, left⟩
      exact ⟨rest, ⟨field, next, converted⟩, left⟩
    · rintro ⟨rest, ⟨field, next, converted⟩, left⟩
      exact ⟨field, rest, next, converted, left⟩

variable {ν : Type u} {ν' : Type v}

/-- What `stream >> first >> second` stores, and the stream. -/
def runThen (first : Extraction ν) (second : Extraction ν') (s : InStream)
    : Option (ν × ν') × InStream :=
  let (value, s) := first.run s
  let (value', s) := second.run s
  (value.bind fun value => value'.map fun value' => (value, value'), s)

theorem runThen_fail_iff (first : Extraction ν) (second : Extraction ν') (s : InStream) :
    (runThen first second s).2.fail = true ↔ (runThen first second s).1 = none := by
  have ended := first.fail_iff s
  have ended' := second.fail_iff (first.run s).2
  simp only [runThen]
  cases stored : (first.run s).1 with
  | none => simp [second.run_fail _ (ended.mpr stored)]
  | some value => simp [ended']

theorem runThen_iff (first : Extraction ν) (second : Extraction ν') {s : InStream} (ready : s.Ready)
    (values : ν × ν') (s' : InStream) : runThen first second s = (some values, s') ↔
      ∃ rest, (∃ between, first.Takes s.text values.1 between ∧ second.Takes between values.2 rest) ∧
        s' = .leaving rest false := by
  constructor
  · intro ran
    cases first' : first.run s with
    | mk stored s₁ =>
        cases second' : second.run s₁ with
        | mk stored' s₂ =>
            simp only [runThen, first', second', Prod.mk.injEq, Option.bind_eq_some_iff,
              Option.map_eq_some_iff] at ran
            obtain ⟨⟨_, rfl, _, rfl, rfl⟩, rfl⟩ := ran
            obtain ⟨between, taken, rfl⟩ := (first.run_iff ready _ _).mp first'
            obtain ⟨rest, taken', rfl⟩ := (second.run_iff (InStream.ready_leaving between) _ _).mp second'
            exact ⟨rest, ⟨between, taken, taken'⟩, rfl⟩
  · rintro ⟨rest, ⟨between, taken, taken'⟩, rfl⟩
    have first' := (first.run_iff ready _ _).mpr ⟨between, taken, rfl⟩
    have second' := (second.run_iff (InStream.ready_leaving between) _ _).mpr ⟨rest, taken', rfl⟩
    simp only [runThen, first', second', Option.bind_some, Option.map_some]

/-- One extraction after the other. -/
def andThen (first : Extraction ν) (second : Extraction ν') : Extraction (ν × ν') where
  run := runThen first second
  Takes text values rest :=
    ∃ between, first.Takes text values.1 between ∧ second.Takes between values.2 rest
  fail_iff := runThen_fail_iff first second
  run_fail s failed := second.run_fail _ (first.run_fail s failed)
  run_iff := runThen_iff first second

/-- The text of a word. -/
def nameOf (word : Word) : Option { text : String // text ≠ "" } :=
  if empty : word.chars = [] then none
  else some ⟨String.ofList word.chars, fun same => empty (by simpa using congrArg String.toList same)⟩

/-- `operator>>` for a string. -/
def string : Extraction { text : String // text ≠ "" } :=
  ofKind wordKind nameOf fun word text named => by
    unfold nameOf at named
    split_ifs at named with empty
    exact empty

end Extraction

end Arena60.Misc
