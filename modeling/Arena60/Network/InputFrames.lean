import Arena60.Misc.Numerals
import Arena60.Network.WebSocketServer

/-!
# Input frames

`ParseInputFrame` reads a frame with formatted extractions, which follow the types of the fields and
not the words of the frame. A frame is a string of bytes, text or binary, with one character for each.
-/

namespace Arena60

open Misc

universe u

namespace ClientSession

variable {R : Type u}

/-- `operator>>` for `int`. -/
def readInt : Extraction Int := .signed (2 ^ 31)

/-- What `iss >> player_id >> input.sequence >> up >> down >> left >> right >> input.mouse_x >>
input.mouse_y` stores. -/
abbrev InputFields (R : Type u) :=
  { text : String // text ≠ "" } × Nat × Int × Int × Int × Int × R × R

def readFields (toDouble : Bool → ℚ → Option R) : Extraction (InputFields R) :=
  .andThen .string <| .andThen (.unsigned (2 ^ 64)) <| .andThen readInt <| .andThen readInt <|
    .andThen readInt <| .andThen readInt <| .andThen (.floating toDouble) (.floating toDouble)

/-- The frame for what was stored. -/
def frameOf (fields : InputFields R) (fire : Int) : InputFrame R :=
  let (playerId, sequence, up, down, left, right, mouseX, mouseY) := fields
  { playerId := playerId.1
    input := ⟨sequence, up != 0, down != 0, left != 0, right != 0, mouseX, mouseY, fire != 0⟩
    named := playerId.2 }

/-- `ParseInputFrame`, over the `strtod` that gives the number for a sign and a magnitude unless it
is out of range. -/
def parseInputFrame (toDouble : Bool → ℚ → Option R) (data : String) : Option (InputFrame R) :=
  let iss := InStream.ofText data
  let (type, iss) := Extraction.string.run iss
  if type.elim "" Subtype.val ≠ "input" then none
  else
    let (fields, iss) := (readFields toDouble).run iss
    if iss.fail then none
    else
      -- What is left of the stream after a failure is cleared, and not read again.
      let (fire, _) := readInt.run iss
      let fire := fire.getD 0
      fields.map fun fields => frameOf fields fire

/-- What `fire` is after the coordinates. -/
def fireAfter (rest : List Char) : Int := (readInt.run (.leaving rest false)).1.getD 0

theorem parseInputFrame_eq_some_iff (toDouble : Bool → ℚ → Option R) (data : String)
    (frame : InputFrame R) :
    parseInputFrame toDouble data = some frame ↔
      ∃ afterType fields rest, Extraction.string.Takes data.toList ⟨"input", by decide⟩ afterType ∧
        (readFields toDouble).Takes afterType fields rest ∧ frame = frameOf fields (fireAfter rest) := by
  have ready := InStream.ready_ofText data
  constructor
  · intro parsed
    cases typed : Extraction.string.run (.ofText data) with
    | mk type iss =>
        cases stored : (readFields toDouble).run iss with
        | mk fields iss' =>
            simp only [parseInputFrame, typed, stored] at parsed
            split_ifs at parsed with other failed
            cases type with
            | none => exact absurd (by decide) other
            | some type =>
                obtain ⟨type, named⟩ := type
                have input : type = "input" := Decidable.not_not.mp other
                subst input
                obtain ⟨fields, rfl, rfl⟩ := Option.map_eq_some_iff.mp parsed
                obtain ⟨afterType, taken, rfl⟩ := (Extraction.string.run_iff ready _ _).mp typed
                obtain ⟨rest, taken', rfl⟩ :=
                  ((readFields toDouble).run_iff (InStream.ready_leaving afterType) _ _).mp stored
                exact ⟨afterType, fields, rest, taken, taken', rfl⟩
  · rintro ⟨afterType, fields, rest, taken, taken', rfl⟩
    have typed := (Extraction.string.run_iff ready _ _).mpr ⟨afterType, taken, rfl⟩
    have ready' := InStream.ready_leaving afterType
    have stored := ((readFields toDouble).run_iff ready' _ _).mpr ⟨rest, taken', rfl⟩
    have good : ¬(InStream.leaving rest false).fail = true := Bool.false_ne_true
    simp only [parseInputFrame, typed, stored, if_neg good, Option.elim_some, ne_eq,
      not_true_eq_false, if_false, Option.map_some]
    rfl

/-! ## Frames as they are written -/

/-- A key or the mouse button, pressed or released. -/
def flagField (pressed : Bool) : IntegerField := ⟨.none, .ofNat pressed.toNat⟩

/-- The fields of an input frame, the last of which may be omitted. -/
def inputWords (playerId : String) (sequence : Nat) (up down left right : Bool)
    (mouseX mouseY : DecimalField)
    (fire : Option Bool) : List (List Char) :=
  ["input".toList, playerId.toList, (toString sequence).toList, (flagField up).text,
    (flagField down).text, (flagField left).text, (flagField right).text, mouseX.text, mouseY.text] ++
    fire.toList.map fun pressed => (flagField pressed).text

/-- An input frame, with a space between any two fields. -/
def inputText (playerId : String) (sequence : Nat) (up down left right : Bool)
    (mouseX mouseY : DecimalField)
    (fire : Option Bool) : String :=
  .ofList (List.intercalate [' '] (inputWords playerId sequence up down left right mouseX mouseY fire))

theorem endsWord_space (rest : List Char) : EndsWord (' ' :: rest) := by
  intro c first
  cases first
  decide

theorem next_space {φ : Type} {kind : FieldKind φ} {field : φ} (complete : kind.Complete field)
    {rest : List Char}
    (ends : EndsWord rest) : kind.Next (' ' :: (kind.text field ++ rest)) field rest :=
  ⟨[' '], List.forall_mem_singleton.mpr (by decide), rfl, complete,
    kind.stops_of_endsWord field rest complete ends⟩

theorem toSigned_flagField (pressed : Bool) : toSigned (2 ^ 31)
    (flagField pressed) = some (pressed.toNat : Int) := by
  cases pressed <;> decide

theorem takes_flag (pressed : Bool) {rest : List Char} (ends : EndsWord rest) :
    readInt.Takes (' ' :: ((flagField pressed).text ++ rest)) pressed.toNat rest :=
  ⟨flagField pressed, next_space (Nat.toDigits_ne_nil) ends, toSigned_flagField pressed⟩

theorem takes_name {playerId : String} (named : playerId ≠ "")
    (solid : ∀ c ∈ playerId.toList, isSpace c = false)
    {rest : List Char} (ends : EndsWord rest) :
    Extraction.string.Takes (' ' :: (playerId.toList ++ rest)) ⟨playerId, named⟩ rest := by
  have complete : wordKind.Complete ⟨playerId.toList, solid⟩ := by simpa [wordKind] using named
  refine ⟨⟨playerId.toList, solid⟩, next_space complete ends, ?_⟩
  have present : playerId.toList ≠ [] := complete
  simp only [Extraction.nameOf, dif_neg present, String.ofList_toList]

theorem takes_sequence {sequence : Nat} (fits : sequence < 2 ^ 64) {rest : List Char}
    (ends : EndsWord rest) :
    (Extraction.unsigned (2 ^ 64)).Takes (' ' :: ((toString sequence).toList ++ rest)) sequence rest := by
  have value : (Digits.ofNat sequence).value = sequence := Nat.ofDigitChars_ten_toDigits
  have complete : IntegerField.Complete ⟨.none, .ofNat sequence⟩ := Nat.toDigits_ne_nil
  have text : (toString sequence).toList = integerKind.text ⟨.none, .ofNat sequence⟩ := Nat.toList_repr
  rw [text]
  refine ⟨_, next_space complete ends, ?_⟩
  rw [toUnsigned, value, if_pos ⟨complete, fits⟩]
  rfl

theorem takes_mouse {toDouble : Bool → ℚ → Option R} {field : DecimalField}
    (complete : field.Complete) {x : R}
    (converted : toDouble (field.sign == .minus) field.magnitude = some x) {rest : List Char}
    (ends : EndsWord rest) : (Extraction.floating toDouble).Takes (' ' :: (field.text ++ rest)) x rest :=
  ⟨field, next_space complete ends, by rw [toFloating, if_pos complete, converted]⟩

/-- What may stand after the coordinates. -/
def fireText (fire : Option Bool) : List Char :=
  ((fire.toList.map fun pressed => (flagField pressed).text).map (' ' :: ·)).flatten

theorem endsWord_fireText (fire : Option Bool) : EndsWord (fireText fire) := by
  cases fire with
  | none => exact nofun
  | some pressed => exact endsWord_space _

theorem fireAfter_fireText (fire : Option Bool)
    : fireAfter (fireText fire) = ((fire.getD false).toNat : Int) := by
  rcases fire with _ | _ | _ <;> decide

theorem intercalate_space (word : List Char) (words : List (List Char)) :
    List.intercalate [' '] (word :: words) = word ++ (words.map (' ' :: ·)).flatten := by
  induction words generalizing word with
  | nil => simp [List.intercalate]
  | cons next words ih =>
      have tail := ih next
      simp only [List.intercalate] at tail ⊢
      simp [tail]

theorem toNat_bne (pressed : Bool) : ((pressed.toNat : Int) != 0) = pressed := by
  cases pressed <;> rfl

theorem takes_input {text : String} {rest : List Char} (whole : text.toList = "input".toList ++ rest)
    (ends : EndsWord rest) : Extraction.string.Takes text.toList ⟨"input", by decide⟩ rest := by
  have all : ("input".toList.all fun c => isSpace c == false) = true := by decide
  have solid : ∀ c ∈ "input".toList, isSpace c = false :=
    fun c member => beq_iff_eq.mp (List.all_eq_true.mp all c member)
  have complete : wordKind.Complete ⟨"input".toList, solid⟩ := List.cons_ne_nil _ _
  exact ⟨⟨"input".toList, solid⟩, ⟨[], nofun, whole, complete, ends⟩, rfl⟩

/-- An input frame reads back as what it was written from. -/
theorem parseInputFrame_inputText (toDouble : Bool → ℚ → Option R) {playerId : String}
    (named : playerId ≠ "")
    (solid : ∀ c ∈ playerId.toList, isSpace c = false) {sequence : Nat} (fits : sequence < 2 ^ 64)
    (up down left right : Bool) {mouseX mouseY : DecimalField} (completeX : mouseX.Complete)
    (completeY : mouseY.Complete) {x y : R}
    (xConverted : toDouble (mouseX.sign == .minus) mouseX.magnitude = some x)
    (yConverted : toDouble (mouseY.sign == .minus) mouseY.magnitude = some y) (fire : Option Bool) :
    parseInputFrame toDouble (inputText playerId sequence up down left right mouseX mouseY fire) =
      some ⟨playerId, ⟨sequence, up, down, left, right, x, y, fire.getD false⟩, named⟩ := by
  rw [parseInputFrame_eq_some_iff]
  have text : (inputText playerId sequence up down left right mouseX mouseY fire).toList =
      "input".toList ++ ' ' :: (playerId.toList ++ ' ' :: ((toString sequence).toList ++
        ' ' :: ((flagField up).text ++ ' ' :: ((flagField down).text ++
          ' ' :: ((flagField left).text ++ ' ' :: ((flagField right).text ++
            ' ' :: (mouseX.text ++ ' ' :: (mouseY.text ++ fireText fire)))))))) := by
    simp [inputText, inputWords, intercalate_space, fireText]
  refine ⟨_, (⟨playerId, named⟩, sequence, up.toNat, down.toNat, left.toNat, right.toNat, x, y),
    fireText fire, takes_input text (endsWord_space _),
    ⟨_, takes_name named solid (endsWord_space _), _, takes_sequence fits (endsWord_space _),
      _, takes_flag up (endsWord_space _), _, takes_flag down (endsWord_space _),
      _, takes_flag left (endsWord_space _), _, takes_flag right (endsWord_space _),
      _, takes_mouse completeX xConverted (endsWord_space _),
      takes_mouse completeY yConverted (endsWord_fireText fire)⟩, ?_⟩
  simp only [frameOf, fireAfter_fireText, toNat_bne]

/-- The number that a decimal stands for, where a `double` is exact. -/
def exactly (negative : Bool) (magnitude : ℚ)
    : Option ℚ := some (if negative then -magnitude else magnitude)

theorem parseInputFrame_inputText_attacker :
    parseInputFrame exactly (inputText "attacker" 5 true false false true
      ⟨.none, .ofNat 150, some (.ofNat 5), none⟩ ⟨.minus, .ofNat 0, some (.ofNat 25), none⟩ (some true)) =
      some ⟨"attacker", ⟨5, true, false, false, true, 301 / 2, -1 / 4, true⟩, by decide⟩ :=
  parseInputFrame_inputText exactly _ (by simp [isSpace]) (by omega) true false false true
    (by decide) (by decide) (by decide +kernel) (by decide +kernel) (some true)

end ClientSession

end Arena60
