import Arena60.Network.InputFrames

/-!
# The words of an input frame

A frame that `ParseInputFrame` accepts need not consist of the words that the protocol asks for: an
extraction may end inside a word, and leave the rest of it to the next one, and it takes a sequence
number with a sign. Where neither happens, the words are those that were read.
-/

namespace Arena60

open Misc

universe u

namespace ClientSession

variable {R : Type u}

/-! ## Well-formed frames -/

/-- The words of an input frame after the player id. -/
structure InputTokens where
  sequence : Digits
  up : IntegerField
  down : IntegerField
  left : IntegerField
  right : IntegerField
  mouseX : DecimalField
  mouseY : DecimalField
  more : List (List Char)

/-- A word is an integer that sets a flag exactly when it is not zero. -/
def Sets (word : IntegerField) (flag : Bool) : Prop := word.Complete ∧ (word.value ≠ 0 ↔ flag = true)

/-- The words of a text are those of an input frame, and give what was read. -/
structure InputTokens.Give (tokens : InputTokens) (data : String) (frame : InputFrame R) : Prop where
  words : wordsOf data.toList = "input".toList :: frame.playerId.toList :: tokens.sequence.chars ::
    tokens.up.text :: tokens.down.text :: tokens.left.text :: tokens.right.text ::
    tokens.mouseX.text :: tokens.mouseY.text :: tokens.more
  sequence_present : tokens.sequence.chars ≠ []
  sequence_fits : tokens.sequence.value < 2 ^ 64
  sequence_eq : tokens.sequence.value = frame.input.sequence
  up : Sets tokens.up frame.input.up
  down : Sets tokens.down frame.input.down
  left : Sets tokens.left frame.input.left
  right : Sets tokens.right frame.input.right
  mouseX : tokens.mouseX.Complete
  mouseY : tokens.mouseY.Complete

/-- A text is a well-formed input frame for what was read. -/
def WellFormed (data : String) (frame : InputFrame R)
    : Prop := ∃ tokens : InputTokens, tokens.Give data frame

/-! ## What extractions take -/

/-- A field, and the text after it. -/
structure Taken (φ : Type) where
  field : φ
  rest : List Char

/-- An extraction takes a field that it can convert. -/
structure Took {φ : Type} {ν : Type u} (kind : FieldKind φ) (convert : φ → Option ν)
    (text : List Char) (taken : Taken φ) :
    Prop where
  next : kind.Next text taken.field taken.rest
  converted : (convert taken.field).isSome = true

/-- What the extractions of `ParseInputFrame` take, one after the other. -/
structure InputReading where
  type : Taken Word
  playerId : Taken Word
  sequence : Taken IntegerField
  up : Taken IntegerField
  down : Taken IntegerField
  left : Taken IntegerField
  right : Taken IntegerField
  mouseX : Taken DecimalField
  mouseY : Taken DecimalField

namespace InputReading

/-- The extractions of `ParseInputFrame` succeed on a text, and take this from it. -/
structure Of (reading : InputReading) (toDouble : Bool → ℚ → Option R) (data : String) : Prop where
  type : Took wordKind Extraction.nameOf data.toList reading.type
  input : reading.type.field.chars = "input".toList
  playerId : Took wordKind Extraction.nameOf reading.type.rest reading.playerId
  sequence : Took integerKind (toUnsigned (2 ^ 64)) reading.playerId.rest reading.sequence
  up : Took integerKind (toSigned (2 ^ 31)) reading.sequence.rest reading.up
  down : Took integerKind (toSigned (2 ^ 31)) reading.up.rest reading.down
  left : Took integerKind (toSigned (2 ^ 31)) reading.down.rest reading.left
  right : Took integerKind (toSigned (2 ^ 31)) reading.left.rest reading.right
  mouseX : Took decimalKind (toFloating toDouble) reading.right.rest reading.mouseX
  mouseY : Took decimalKind (toFloating toDouble) reading.mouseX.rest reading.mouseY

/-- Every number ends where its word ends, and the sequence number has no sign. -/
structure Wordwise (reading : InputReading) : Prop where
  unsigned : reading.sequence.field.sign = .none
  sequence : EndsWord reading.sequence.rest
  up : EndsWord reading.up.rest
  down : EndsWord reading.down.rest
  left : EndsWord reading.left.rest
  right : EndsWord reading.right.rest
  mouseX : EndsWord reading.mouseX.rest
  mouseY : EndsWord reading.mouseY.rest

/-- What was taken is what was read. -/
structure Gives (reading : InputReading) (frame : InputFrame R) : Prop where
  playerId : frame.playerId.toList = reading.playerId.field.chars
  sequence : toUnsigned (2 ^ 64) reading.sequence.field = some frame.input.sequence
  up : Sets reading.up.field frame.input.up
  down : Sets reading.down.field frame.input.down
  left : Sets reading.left.field frame.input.left
  right : Sets reading.right.field frame.input.right

end InputReading

theorem chars_of_nameOf {word : Word} {text : { text : String // text ≠ "" }}
    (named : Extraction.nameOf word = some text) : text.1.toList = word.chars := by
  unfold Extraction.nameOf at named
  split_ifs at named with empty
  cases named
  exact String.toList_ofList

theorem toSigned_eq_some {size : Nat} {field : IntegerField} {value : Int}
    (converted : toSigned size field = some value) :
    Sets field (value != 0) := by
  obtain ⟨⟨complete, _⟩, same⟩ := Option.ite_none_right_eq_some.mp converted
  refine ⟨complete, ?_⟩
  rw [Option.some.inj same, bne_iff_ne]

theorem took_of_converted {φ : Type} {ν : Type u} {kind : FieldKind φ} {convert : φ → Option ν}
    {text rest : List Char}
    {field : φ} {value : ν} (next : kind.Next text field rest)
    (converted : convert field = some value) :
    Took kind convert text ⟨field, rest⟩ := ⟨next, by rw [converted]; rfl⟩

/-- What is accepted was taken by extractions. -/
theorem reading_of_parseInputFrame {toDouble : Bool → ℚ → Option R} {data : String}
    {frame : InputFrame R}
    (parsed : parseInputFrame toDouble data = some frame) :
    ∃ reading : InputReading, reading.Of toDouble data ∧ reading.Gives frame := by
  rw [parseInputFrame_eq_some_iff] at parsed
  obtain ⟨typeRest, ⟨_, _, _, _, _, _, _, _⟩, mouseYRest, ⟨type, typeNext, typed⟩, fields, rfl⟩ := parsed
  obtain ⟨playerIdRest, ⟨playerId, playerIdNext, named⟩, sequenceRest, ⟨sequence, sequenceNext, numbered⟩,
    upRest, ⟨up, upNext, up'⟩, downRest, ⟨down, downNext, down'⟩, leftRest, ⟨left, leftNext, left'⟩,
    rightRest, ⟨right, rightNext, right'⟩, mouseXRest, ⟨mouseX, mouseXNext, mouseX'⟩,
    ⟨mouseY, mouseYNext, mouseY'⟩⟩ := fields
  refine ⟨⟨⟨type, typeRest⟩, ⟨playerId, playerIdRest⟩, ⟨sequence, sequenceRest⟩, ⟨up, upRest⟩,
    ⟨down, downRest⟩, ⟨left, leftRest⟩, ⟨right, rightRest⟩, ⟨mouseX, mouseXRest⟩,
    ⟨mouseY, mouseYRest⟩⟩, ?_, ?_⟩
  · exact
      { type := took_of_converted typeNext typed
        input := (chars_of_nameOf typed).symm
        playerId := took_of_converted playerIdNext named
        sequence := took_of_converted sequenceNext numbered
        up := took_of_converted upNext up'
        down := took_of_converted downNext down'
        left := took_of_converted leftNext left'
        right := took_of_converted rightNext right'
        mouseX := took_of_converted mouseXNext mouseX'
        mouseY := took_of_converted mouseYNext mouseY' }
  · exact
      { playerId := chars_of_nameOf named
        sequence := numbered
        up := toSigned_eq_some up'
        down := toSigned_eq_some down'
        left := toSigned_eq_some left'
        right := toSigned_eq_some right' }

theorem Took.exists_value {φ : Type} {ν : Type u} {kind : FieldKind φ} {convert : φ → Option ν}
    {text : List Char}
    {taken : Taken φ} (took : Took kind convert text taken) :
    ∃ value, kind.Next text taken.field taken.rest ∧ convert taken.field = some value := by
  obtain ⟨value, converted⟩ := Option.isSome_iff_exists.mp took.converted
  exact ⟨value, took.next, converted⟩

/-- What extractions take is accepted. -/
theorem InputReading.Of.accepted {toDouble : Bool → ℚ → Option R} {data : String}
    {reading : InputReading}
    (of : reading.Of toDouble data) : ∃ frame, parseInputFrame toDouble data = some frame := by
  obtain ⟨⟨type, some⟩, typeNext, typed⟩ := of.type.exists_value
  obtain ⟨_, playerIdNext, named⟩ := of.playerId.exists_value
  obtain ⟨_, sequenceNext, numbered⟩ := of.sequence.exists_value
  obtain ⟨_, upNext, up⟩ := of.up.exists_value
  obtain ⟨_, downNext, down⟩ := of.down.exists_value
  obtain ⟨_, leftNext, left⟩ := of.left.exists_value
  obtain ⟨_, rightNext, right⟩ := of.right.exists_value
  obtain ⟨_, mouseXNext, mouseX⟩ := of.mouseX.exists_value
  obtain ⟨_, mouseYNext, mouseY⟩ := of.mouseY.exists_value
  have input : type = "input" := by
    apply String.toList_inj.mp
    rw [← of.input]
    exact chars_of_nameOf typed
  subst input
  have accepted := (parseInputFrame_eq_some_iff toDouble data _).mpr
    ⟨_, (_, _, _, _, _, _, _, _), _, ⟨_, typeNext, typed⟩,
      ⟨_, ⟨_, playerIdNext, named⟩, _, ⟨_, sequenceNext, numbered⟩, _, ⟨_, upNext, up⟩,
        _, ⟨_, downNext, down⟩, _, ⟨_, leftNext, left⟩, _, ⟨_, rightNext, right⟩,
        _, ⟨_, mouseXNext, mouseX⟩, ⟨_, mouseYNext, mouseY⟩⟩, rfl⟩
  exact ⟨_, accepted⟩

/-! ## Accepted frames -/

/-- Numbers that end where their words end are the words. -/
theorem InputReading.Wordwise.wellFormed {toDouble : Bool → ℚ → Option R} {data : String}
    {frame : InputFrame R}
    {reading : InputReading} (wordwise : reading.Wordwise) (of : reading.Of toDouble data)
    (gives : reading.Gives frame) : WellFormed data frame := by
  have type := of.type.next.wordsOf_eq of.type.next.stops
  have playerId := of.playerId.next.wordsOf_eq of.playerId.next.stops
  have sequence := of.sequence.next.wordsOf_eq wordwise.sequence
  have up := of.up.next.wordsOf_eq wordwise.up
  have down := of.down.next.wordsOf_eq wordwise.down
  have left := of.left.next.wordsOf_eq wordwise.left
  have right := of.right.next.wordsOf_eq wordwise.right
  have mouseX := of.mouseX.next.wordsOf_eq wordwise.mouseX
  have mouseY := of.mouseY.next.wordsOf_eq wordwise.mouseY
  have digits : integerKind.text reading.sequence.field = reading.sequence.field.digits.chars := by
    simp only [integerKind, IntegerField.text, wordwise.unsigned, Sign.text, List.nil_append]
  have input : wordKind.text reading.type.field = "input".toList := of.input
  have name : wordKind.text reading.playerId.field = frame.playerId.toList := gives.playerId.symm
  rw [playerId, sequence, up, down, left, right, mouseX, mouseY, input, name, digits] at type
  obtain ⟨⟨present, fits⟩, value⟩ := Option.ite_none_right_eq_some.mp gives.sequence
  rw [wordwise.unsigned, if_neg (by decide)] at value
  exact ⟨⟨reading.sequence.field.digits, _, _, _, _, _, _, wordsOf reading.mouseY.rest⟩,
    { words := type
      sequence_present := present
      sequence_fits := fits
      sequence_eq := Option.some.inj value
      up := gives.up
      down := gives.down
      left := gives.left
      right := gives.right
      mouseX := of.mouseX.next.complete
      mouseY := of.mouseY.next.complete }⟩

/-- The numbers of a well-formed frame end where their words end. -/
theorem WellFormed.wordwise {toDouble : Bool → ℚ → Option R} {data : String} {frame : InputFrame R}
    {reading : InputReading} (wellFormed : WellFormed data frame) (of : reading.Of toDouble data) :
    reading.Wordwise := by
  obtain ⟨tokens, give⟩ := wellFormed
  have words := give.words
  rw [of.type.next.wordsOf_eq of.type.next.stops] at words
  have words := (List.cons.inj words).2
  rw [of.playerId.next.wordsOf_eq of.playerId.next.stops] at words
  have words := (List.cons.inj words).2
  have unsigned : wordsOf reading.playerId.rest = integerKind.text ⟨.none, tokens.sequence⟩ :: _ := words
  obtain ⟨sequence, sequenceEnds, words⟩ := of.sequence.next.eq_word unsigned give.sequence_present
  obtain ⟨_, upEnds, words⟩ := of.up.next.eq_word words give.up.1
  obtain ⟨_, downEnds, words⟩ := of.down.next.eq_word words give.down.1
  obtain ⟨_, leftEnds, words⟩ := of.left.next.eq_word words give.left.1
  obtain ⟨_, rightEnds, words⟩ := of.right.next.eq_word words give.right.1
  obtain ⟨_, mouseXEnds, words⟩ := of.mouseX.next.eq_word words give.mouseX
  obtain ⟨_, mouseYEnds, _⟩ := of.mouseY.next.eq_word words give.mouseY
  exact
    { unsigned := by rw [sequence]
      sequence := sequenceEnds
      up := upEnds
      down := downEnds
      left := leftEnds
      right := rightEnds
      mouseX := mouseXEnds
      mouseY := mouseYEnds }

/-- What is accepted is well formed unless a number ends inside a word or the sequence number has
a sign. -/
theorem parseInputFrame_wellFormed_iff (toDouble : Bool → ℚ → Option R) (data : String) :
    (∀ frame, parseInputFrame toDouble data = some frame → WellFormed data frame) ↔
      ∀ reading : InputReading, reading.Of toDouble data → reading.Wordwise := by
  constructor
  · intro sound reading of
    obtain ⟨frame, parsed⟩ := of.accepted
    exact (sound frame parsed).wordwise of
  · intro wordwise frame parsed
    obtain ⟨reading, of, gives⟩ := reading_of_parseInputFrame parsed
    exact (wordwise reading of).wellFormed of gives

theorem parseInputFrame_negative :
    ¬∀ (data : String) (frame : InputFrame ℚ),
      parseInputFrame exactly data = some frame → WellFormed data frame := by
  intro sound
  have accepted : (parseInputFrame exactly "input p -1 0 0 0 0 1 2").isSome = true := by decide +kernel
  obtain ⟨frame, parsed⟩ := Option.isSome_iff_exists.mp accepted
  obtain ⟨tokens, give⟩ := sound _ frame parsed
  have words : (wordsOf "input p -1 0 0 0 0 1 2".toList)[2]? = some "-1".toList := by decide
  rw [give.words] at words
  have sequence : tokens.sequence.chars = "-1".toList := Option.some.inj words
  have digit := tokens.sequence.decimal '-' (by rw [sequence]; decide)
  cases digit

end ClientSession

end Arena60
