import Arena60.Misc.TextSearch

/-!
# Expositions of metrics

The text format in which a server shows its metrics: each metric is declared with its kind in a line of its
own, and the lines after it are its samples. A document reads back as the metrics it was written from.
-/

namespace Arena60.Misc

/-- A sample; a bucket of a histogram has an upper bound. -/
structure Sample where
  name : String
  bound : Option String
  value : String
  deriving DecidableEq

/-- A metric with its samples. -/
structure MetricFamily where
  name : String
  kind : String
  samples : List Sample
  deriving DecidableEq

/-! ## Writing -/

def boundText : Option String → String
  | none => ""
  | some bound => "\x7ble=\"" ++ bound ++ "\"\x7d"

def Sample.text (sample : Sample) : String := sample.name ++ boundText sample.bound ++ " " ++ sample.value ++ "\n"

def MetricFamily.text (family : MetricFamily) : String :=
  "# TYPE " ++ family.name ++ " " ++ family.kind ++ "\n" ++ String.join (family.samples.map Sample.text)

def expositionText (families : List MetricFamily) : String := String.join (families.map MetricFamily.text)

/-! ## Reading -/

/-- The lines of a text. -/
def linesOf : List Char → List (List Char)
  | [] => []
  | c :: text =>
      if c = '\n' then [] :: linesOf text
      else
        match linesOf text with
        | [] => [[c]]
        | line :: lines => (c :: line) :: lines

/-- A line that declares a metric, or one that is a sample. -/
inductive ExpositionLine where
  | declaration (name kind : String)
  | sample (sample : Sample)

/-- The value after a space. -/
def readValue : List Char → Option String
  | ' ' :: value => some (.ofList value)
  | _ => none

/-- The bound of a bucket and what follows it. -/
def readBound (text : List Char) : Option (Option String × List Char) :=
  match text with
  | '\x7b' :: 'l' :: 'e' :: '=' :: '"' :: text =>
      let bound := text.takeWhile (· != '"')
      match text.dropWhile (· != '"') with
      | '"' :: '\x7d' :: rest => some (some (.ofList bound), rest)
      | _ => none
  | text => some (none, text)

/-- The characters of names and kinds. -/
def isNameChar (c : Char) : Bool := c.isAlphanum || c == '_'

def readLine (line : List Char) : Option ExpositionLine :=
  match line with
  | '#' :: ' ' :: 'T' :: 'Y' :: 'P' :: 'E' :: ' ' :: line =>
      let name := line.takeWhile isNameChar
      (readValue (line.dropWhile isNameChar)).map (.declaration (.ofList name))
  | line => do
      let name := line.takeWhile isNameChar
      let (bound, rest) ← readBound (line.dropWhile isNameChar)
      let value ← readValue rest
      return .sample ⟨.ofList name, bound, value⟩

/-- The samples before the first declaration, and the metrics. -/
def collectFamilies : List ExpositionLine → List Sample × List MetricFamily
  | [] => ([], [])
  | .sample sample :: lines =>
      let (samples, families) := collectFamilies lines
      (sample :: samples, families)
  | .declaration name kind :: lines =>
      let (samples, families) := collectFamilies lines
      ([], ⟨name, kind, samples⟩ :: families)

/-- Read a document, in which every sample must belong to a metric that is declared. -/
def readExposition (text : String) : Option (List MetricFamily) :=
  match (linesOf text.toList).mapM readLine with
  | none => none
  | some lines =>
      match collectFamilies lines with
      | ([], families) => some families
      | _ => none

/-! ## Reading back -/

theorem linesOf_append {line : List Char} (unbroken : '\n' ∉ line) (rest : List Char) :
    linesOf (line ++ '\n' :: rest) = line :: linesOf rest := by
  induction line with
  | nil => simp [linesOf]
  | cons c line ih =>
      obtain ⟨other, unbroken'⟩ := not_or.mp fun either => unbroken (List.mem_cons.mpr either)
      rw [List.cons_append, linesOf, if_neg (Ne.symm other), ih unbroken']

theorem linesOf_flatten {lines : List (List Char)} (unbroken : ∀ line ∈ lines, '\n' ∉ line) :
    linesOf (lines.map (· ++ ['\n'])).flatten = lines := by
  induction lines with
  | nil => rfl
  | cons line lines ih =>
      rw [List.map_cons, List.flatten_cons, List.append_assoc, List.singleton_append,
        linesOf_append (unbroken line List.mem_cons_self), ih fun other member => unbroken other (List.mem_cons_of_mem _ member)]

/-- A sample that keeps to the format. -/
structure Sample.Proper (sample : Sample) : Prop where
  name : ∀ c ∈ sample.name.toList, isNameChar c = true
  bound : ∀ bound ∈ sample.bound, '"' ∉ bound.toList ∧ '\n' ∉ bound.toList
  value : '\n' ∉ sample.value.toList

/-- A metric that keeps to the format. -/
structure MetricFamily.Proper (family : MetricFamily) : Prop where
  name : ∀ c ∈ family.name.toList, isNameChar c = true
  kind : '\n' ∉ family.kind.toList
  samples : ∀ sample ∈ family.samples, sample.Proper

/-- The lines of a metric. -/
def MetricFamily.lines (family : MetricFamily) : List ExpositionLine :=
  .declaration family.name family.kind :: family.samples.map .sample

/-- The text of a line. -/
def ExpositionLine.text : ExpositionLine → List Char
  | declaration name kind => "# TYPE ".toList ++ (name.toList ++ ' ' :: kind.toList)
  | sample ⟨name, bound, value⟩ => name.toList ++ ((boundText bound).toList ++ ' ' :: value.toList)

theorem Sample.toList_text (sample : Sample) :
    sample.text.toList = (ExpositionLine.sample sample).text ++ ['\n'] := by
  have space : " ".toList = [' '] := rfl
  have newline : "\n".toList = ['\n'] := rfl
  unfold Sample.text ExpositionLine.text
  simp only [String.toList_append, space, newline, List.append_assoc, List.cons_append, List.nil_append]

theorem toList_expositionText (families : List MetricFamily) : (expositionText families).toList =
    (((families.flatMap MetricFamily.lines).map ExpositionLine.text).map (· ++ ['\n'])).flatten := by
  rw [expositionText, String.toList_join]
  induction families with
  | nil => rfl
  | cons family families ih =>
      rw [List.map_cons, List.flatMap_cons, ih, List.flatMap_cons, List.map_append, List.map_append, List.flatten_append]
      congr 1
      rw [MetricFamily.text, String.toList_append, String.toList_join, MetricFamily.lines]
      simp only [List.map_cons, List.flatten_cons, List.map_map, List.flatMap_map]
      congr 1
      · have space : " ".toList = [' '] := rfl
        have newline : "\n".toList = ['\n'] := rfl
        unfold ExpositionLine.text
        simp only [String.toList_append, space, newline, List.append_assoc, List.cons_append, List.nil_append]
      · rw [List.flatMap_def]
        congr 1
        exact List.map_congr_left fun sample _ => sample.toList_text

/-- What may follow a name. -/
theorem readLine_name {name : String} (proper : ∀ c ∈ name.toList, isNameChar c = true) {c : Char}
    (stops : isNameChar c = false) (rest : List Char) :
    (name.toList ++ c :: rest).takeWhile isNameChar = name.toList ∧
      (name.toList ++ c :: rest).dropWhile isNameChar = c :: rest :=
  takeWhile_append_run proper fun d first => by
    cases first
    exact stops

theorem readLine_declaration {name kind : String} (proper : ∀ c ∈ name.toList, isNameChar c = true) :
    readLine (ExpositionLine.declaration name kind).text = some (.declaration name kind) := by
  obtain ⟨taken, left⟩ := readLine_name proper (c := ' ') (by decide) kind.toList
  have text : (ExpositionLine.declaration name kind).text =
      '#' :: ' ' :: 'T' :: 'Y' :: 'P' :: 'E' :: ' ' :: (name.toList ++ ' ' :: kind.toList) := rfl
  rw [text, readLine, taken, left]
  simp [readValue]

theorem boundText_some (bound : String) (rest : List Char) : (boundText (some bound)).toList ++ rest =
    '\x7b' :: 'l' :: 'e' :: '=' :: '"' :: (bound.toList ++ '"' :: '\x7d' :: rest) := by
  have before : "\x7ble=\"".toList = ['\x7b', 'l', 'e', '=', '"'] := rfl
  have after : "\"\x7d".toList = ['"', '\x7d'] := rfl
  unfold boundText
  simp only [String.toList_append, before, after, List.append_assoc, List.cons_append, List.nil_append]

theorem readBound_text {bound : Option String} (proper : ∀ b ∈ bound, '"' ∉ b.toList) (value : List Char) :
    readBound ((boundText bound).toList ++ ' ' :: value) = some (bound, ' ' :: value) := by
  cases bound with
  | none =>
      have empty : (boundText none).toList = [] := rfl
      rw [empty, List.nil_append]
      rfl
  | some bound =>
      have free : ∀ c ∈ bound.toList, (c != '"') = true := by
        intro c member
        rw [bne_iff_ne]
        rintro rfl
        exact proper bound rfl member
      have stops : ∀ c ∈ ('"' :: '\x7d' :: ' ' :: value).head?, (c != '"') = false := fun c first => by
        cases first
        rfl
      obtain ⟨taken, left⟩ := takeWhile_append_run free stops
      rw [boundText_some, readBound, taken, left]
      simp

theorem readLine_sample {sample : Sample} (proper : sample.Proper) :
    readLine (ExpositionLine.sample sample).text = some (.sample sample) := by
  obtain ⟨name, bound, value⟩ := sample
  obtain ⟨c, rest, split, stops, other⟩ : ∃ c rest, (boundText bound).toList ++ ' ' :: value.toList = c :: rest ∧
      isNameChar c = false ∧ c ≠ '#' := by
    cases bound with
    | none => exact ⟨' ', value.toList, rfl, by decide, by decide⟩
    | some bound => exact ⟨'\x7b', _, boundText_some bound _, by decide, by decide⟩
  obtain ⟨taken, left⟩ := readLine_name proper.name stops rest
  have text : (ExpositionLine.sample ⟨name, bound, value⟩).text = name.toList ++ c :: rest := by
    unfold ExpositionLine.text
    dsimp only
    rw [split]
  have unmarked : ∀ line, name.toList ++ c :: rest ≠ '#' :: line := by
    intro line same
    cases named : name.toList with
    | nil =>
        rw [named] at same
        exact other (List.cons.inj same).1
    | cons d name' =>
        rw [named] at same
        obtain ⟨rfl, -⟩ := List.cons.inj same
        have letter := proper.name '#' (by rw [named]; exact List.mem_cons_self)
        cases letter
  have bounded := readBound_text (fun b member => (proper.bound b member).1) value.toList
  rw [text, readLine]
  · dsimp only
    rw [taken, left, ← split, bounded]
    simp [readValue]
  · intro line same
    exact unmarked _ same

theorem collectFamilies_lines (families : List MetricFamily) :
    collectFamilies (families.flatMap MetricFamily.lines) = ([], families) := by
  have collected : ∀ (samples : List Sample) (lines : List ExpositionLine),
      collectFamilies (samples.map .sample ++ lines) =
        (samples ++ (collectFamilies lines).1, (collectFamilies lines).2) := by
    intro samples lines
    induction samples with
    | nil => rfl
    | cons sample samples ih =>
        rw [List.map_cons, List.cons_append, collectFamilies, ih]
        rfl
  induction families with
  | nil => rfl
  | cons family families ih =>
      rw [List.flatMap_cons, MetricFamily.lines, List.cons_append, collectFamilies, collected, ih]
      dsimp only
      rw [List.append_nil]

theorem newline_free_name {name : String} (proper : ∀ c ∈ name.toList, isNameChar c = true) : '\n' ∉ name.toList := by
  intro member
  cases proper '\n' member

theorem readLine_of_proper {family : MetricFamily} (proper : family.Proper) {line : ExpositionLine}
    (listed : line ∈ family.lines) : readLine line.text = some line := by
  rcases List.mem_cons.mp listed with rfl | listed
  · exact readLine_declaration proper.name
  · obtain ⟨sample, member, rfl⟩ := List.mem_map.mp listed
    exact readLine_sample (proper.samples sample member)

theorem unbroken_of_proper {family : MetricFamily} (proper : family.Proper) {line : ExpositionLine}
    (listed : line ∈ family.lines) : '\n' ∉ line.text := by
  rcases List.mem_cons.mp listed with rfl | listed
  · have mark : '\n' ∉ "# TYPE ".toList := by decide
    have space : '\n' ≠ ' ' := by decide
    unfold ExpositionLine.text
    simp only [List.mem_append, List.mem_cons, not_or]
    exact ⟨mark, newline_free_name proper.name, space, proper.kind⟩
  · obtain ⟨⟨name, bound, value⟩, member, rfl⟩ := List.mem_map.mp listed
    have sample := proper.samples _ member
    have space : '\n' ≠ ' ' := by decide
    have bounded : '\n' ∉ (boundText bound).toList := by
      cases bound with
      | none => exact List.not_mem_nil
      | some bound =>
          have free := (sample.bound bound rfl).2
          have text := boundText_some bound []
          rw [List.append_nil] at text
          rw [text]
          simpa using free
    unfold ExpositionLine.text
    simp only [List.mem_append, List.mem_cons, not_or]
    exact ⟨newline_free_name sample.name, bounded, space, sample.value⟩

theorem mapM_readLine {lines : List ExpositionLine} (read : ∀ line ∈ lines, readLine line.text = some line) :
    lines.mapM (fun line => readLine line.text) = some lines := by
  induction lines with
  | nil => rfl
  | cons line lines ih =>
      rw [List.mapM_cons, read line List.mem_cons_self, ih fun other member => read other (List.mem_cons_of_mem _ member)]
      rfl

/-- A document reads back. -/
theorem readExposition_text {families : List MetricFamily} (proper : ∀ family ∈ families, family.Proper) :
    readExposition (expositionText families) = some families := by
  have unbroken : ∀ line ∈ (families.flatMap MetricFamily.lines).map ExpositionLine.text, '\n' ∉ line := by
    intro line member
    obtain ⟨read, listed, rfl⟩ := List.mem_map.mp member
    obtain ⟨family, member, listed⟩ := List.mem_flatMap.mp listed
    exact unbroken_of_proper (proper family member) listed
  have read : ((families.flatMap MetricFamily.lines).map ExpositionLine.text).mapM readLine =
      some (families.flatMap MetricFamily.lines) := by
    rw [List.mapM_map]
    refine mapM_readLine fun line listed => ?_
    obtain ⟨family, member, listed⟩ := List.mem_flatMap.mp listed
    exact readLine_of_proper (proper family member) listed
  rw [readExposition, toList_expositionText, linesOf_flatten unbroken, read]
  dsimp only
  rw [collectFamilies_lines]

/-! ## Well-formed documents -/

/-- A metric with one sample. -/
def MetricFamily.single (name kind value : String) : MetricFamily := ⟨name, kind, [⟨name, none, value⟩]⟩

/-- A histogram: its buckets with what was counted up to their bounds, the number and the sum of all
observations. -/
def MetricFamily.histogram (name : String) (buckets : List (String × Nat)) (count : Nat) (sum : String) :
    MetricFamily where
  name := name
  kind := "histogram"
  samples := buckets.map (fun bucket => ⟨name ++ "_bucket", some bucket.1, toString bucket.2⟩) ++
    [⟨name ++ "_bucket", some "+Inf", toString count⟩, ⟨name ++ "_sum", none, sum⟩,
      ⟨name ++ "_count", none, toString count⟩]

theorem MetricFamily.proper_single {name kind value : String} (named : (name.toList.all isNameChar) = true)
    (unbroken : '\n' ∉ kind.toList) (unbroken' : '\n' ∉ value.toList) : (single name kind value).Proper := by
  have letters : ∀ c ∈ name.toList, isNameChar c = true := List.all_eq_true.mp named
  refine ⟨letters, unbroken, ?_⟩
  intro sample member
  rw [List.mem_singleton.mp member]
  exact ⟨letters, fun bound none => (by cases none), unbroken'⟩

theorem newline_free_toString (n : Nat) : '\n' ∉ (toString n).toList := by
  have text : (toString n).toList = Nat.toDigits 10 n := Nat.toList_repr
  intro member
  rw [text] at member
  have digit := Nat.isDigit_of_mem_toDigits (by decide) (by decide) member
  cases digit

theorem MetricFamily.proper_histogram {name sum : String} (named : (name.toList.all isNameChar) = true)
    {buckets : List (String × Nat)} (bounds : ∀ bucket ∈ buckets, '"' ∉ bucket.1.toList ∧ '\n' ∉ bucket.1.toList)
    (unbroken : '\n' ∉ sum.toList) (count : Nat) : (histogram name buckets count sum).Proper := by
  have letters : ∀ c ∈ name.toList, isNameChar c = true := List.all_eq_true.mp named
  have longer : ∀ ending : String, (ending.toList.all isNameChar) = true →
      ∀ c ∈ (name ++ ending).toList, isNameChar c = true := by
    intro ending proper c member
    rw [String.toList_append, List.mem_append] at member
    rcases member with here | there
    · exact letters c here
    · exact List.all_eq_true.mp proper c there
  have bucketName := longer "_bucket" (by decide)
  refine ⟨letters, (by decide : '\n' ∉ ("histogram" : String).toList), ?_⟩
  intro sample member
  rcases List.mem_append.mp member with first | last
  · obtain ⟨bucket, listed, rfl⟩ := List.mem_map.mp first
    refine ⟨bucketName, ?_, newline_free_toString _⟩
    rintro bound same
    cases same
    exact bounds bucket listed
  · simp only [List.mem_cons, List.not_mem_nil, or_false] at last
    rcases last with rfl | rfl | rfl
    · refine ⟨bucketName, ?_, newline_free_toString _⟩
      rintro bound same
      cases same
      exact ⟨by decide, by decide⟩
    · exact ⟨longer "_sum" (by decide), fun bound none => (by cases none), unbroken⟩
    · exact ⟨longer "_count" (by decide), fun bound none => (by cases none), newline_free_toString _⟩

/-- A metric has the samples of its kind. -/
inductive MetricFamily.Shaped : MetricFamily → Prop
  | single (name kind value : String) : kind ∈ ["gauge", "counter"] → Shaped (.single name kind value)
  | histogram (name : String) (buckets : List (String × Nat)) (count : Nat) (sum : String) :
      (buckets.map Prod.snd ++ [count]).Pairwise (· ≤ ·) → Shaped (.histogram name buckets count sum)

/-- No metric is declared twice, and each has the samples of its kind. -/
structure WellFormedExposition (families : List MetricFamily) : Prop where
  distinct : (families.map MetricFamily.name).Nodup
  shaped : ∀ family ∈ families, family.Shaped

/-- The number that a value shows. -/
def readNumber (value : String) : Option Nat :=
  let digits := value.toList
  if digits ≠ [] ∧ digits.all Char.isDigit = true then some (Nat.ofDigitChars 10 digits 0) else none

theorem readNumber_toString (n : Nat) : readNumber (toString n) = some n := by
  have text : (toString n).toList = Nat.toDigits 10 n := Nat.toList_repr
  have digits : (Nat.toDigits 10 n).all Char.isDigit = true :=
    List.all_eq_true.mpr fun _ member => Nat.isDigit_of_mem_toDigits (by decide) (by decide) member
  unfold readNumber
  dsimp only
  rw [text, if_pos ⟨Nat.toDigits_ne_nil, digits⟩, Nat.ofDigitChars_ten_toDigits]

/-- The number of the first sample of a metric. -/
def valueOf (name : String) (families : List MetricFamily) : Option Nat :=
  (families.find? (·.name == name)).bind fun family => family.samples.head?.bind fun sample => readNumber sample.value

theorem valueOf_here (name kind : String) (n : Nat) (families : List MetricFamily) :
    valueOf name (.single name kind (toString n) :: families) = some n := by
  have found : (MetricFamily.single name kind (toString n) :: families).find? (·.name == name) =
      some (.single name kind (toString n)) := by
    rw [List.find?_cons_of_pos]
    exact beq_self_eq_true name
  rw [valueOf, found]
  exact readNumber_toString n

theorem valueOf_later {name other : String} (apart : other ≠ name) (kind value : String)
    (families : List MetricFamily) : valueOf name (.single other kind value :: families) = valueOf name families := by
  have passed : (MetricFamily.single other kind value :: families).find? (·.name == name) =
      families.find? (·.name == name) := by
    rw [List.find?_cons_of_neg]
    simpa [MetricFamily.single] using apart
  rw [valueOf, passed, valueOf]

theorem valueOf_histogram {name other : String} (apart : other ≠ name) (buckets : List (String × Nat)) (count : Nat)
    (sum : String) (families : List MetricFamily) :
    valueOf name (.histogram other buckets count sum :: families) = valueOf name families := by
  have passed : (MetricFamily.histogram other buckets count sum :: families).find? (·.name == name) =
      families.find? (·.name == name) := by
    rw [List.find?_cons_of_neg]
    simpa [MetricFamily.histogram] using apart
  rw [valueOf, passed, valueOf]

end Arena60.Misc
