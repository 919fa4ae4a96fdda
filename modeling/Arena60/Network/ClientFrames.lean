import Arena60.Misc.GeneralNotation
import Arena60.Network.InputFrames

/-!
# Frames for the clients

What `DoEnqueueState` and `DoEnqueueDeath` write, and how a client reads it: the integers come back as they
are, the `double` values to six digits.
-/

namespace Arena60

open Misc ClientSession

universe u

/-! ## Writing -/

section texts

variable {R : Type u} [PrintedDouble R]

/-- `operator<<` for an integer. -/
def integerField (n : Int) : IntegerField := ⟨if n < 0 then .minus else .none, .ofNat n.natAbs⟩

/-- `ClientSession::DoEnqueueState`. -/
def stateText (state : PlayerState R) (tick : Nat) (delta : R) : List Char :=
  "state ".toList ++ state.playerId.toList ++ [' '] ++ printDouble state.x ++ [' '] ++ printDouble state.y ++ [' '] ++
    printDouble state.facingRadians ++ [' '] ++ (toString tick).toList ++ [' '] ++ printDouble delta ++ [' '] ++
    (integerField state.health).text ++ [' '] ++ (flagField state.isAlive).text ++ [' '] ++
    (integerField state.shotsFired).text ++ [' '] ++ (integerField state.hitsLanded).text ++ [' '] ++
    (integerField state.deaths).text

omit [PrintedDouble R] in
/-- `ClientSession::DoEnqueueDeath`. -/
def deathText (playerId : String) (tick : Nat) : List Char :=
  "death ".toList ++ playerId.toList ++ [' '] ++ (toString tick).toList

def ClientFrame.text : ClientFrame R → String
  | .state player tick delta => .ofList (stateText player tick delta)
  | .death playerId tick => .ofList (deathText playerId tick)

end texts

/-! ## Reading -/

/-- `ParsedState`. -/
structure ParsedState (R : Type u) where
  playerId : String
  x : R
  y : R
  facing : R
  tick : Nat
  delta : R
  health : Int
  alive : Bool
  shotsFired : Int
  hitsLanded : Int
  deaths : Int

/-- What a client takes a frame for. -/
inductive Received (R : Type u) where
  | state (parsed : ParsedState R)
  | death (target : String) (tick : Nat)

section reading

variable {R : Type u}

/-- What `iss >> out.player_id >> out.x >> out.y >> out.facing >> out.tick >> out.delta >> out.health >> alive >>
out.shots_fired >> out.hits_landed >> out.deaths` stores. -/
abbrev StateFields (R : Type u) :=
  { text : String // text ≠ "" } × R × R × R × Nat × R × Int × Int × Int × Int × Int

def readStateFields (toDouble : Bool → ℚ → Option R) : Extraction (StateFields R) :=
  .andThen .string <| .andThen (.floating toDouble) <| .andThen (.floating toDouble) <|
    .andThen (.floating toDouble) <| .andThen (.unsigned (2 ^ 64)) <| .andThen (.floating toDouble) <|
      .andThen readInt <| .andThen readInt <| .andThen readInt <| .andThen readInt readInt

/-- The state for what was stored. -/
def parsedState (fields : StateFields R) : ParsedState R :=
  let (playerId, x, y, facing, tick, delta, health, alive, shotsFired, hitsLanded, deaths) := fields
  { playerId := playerId.1, x, y, facing, tick, delta, health, alive := alive != 0, shotsFired, hitsLanded, deaths }

/-- `ParseStateFrame`. -/
def parseStateFrame (toDouble : Bool → ℚ → Option R) (payload : String) : Option (ParsedState R) :=
  let iss := InStream.ofText payload
  let (type, iss) := Extraction.string.run iss
  if type.elim "" Subtype.val ≠ "state" then none
  else
    let (fields, iss) := (readStateFields toDouble).run iss
    if iss.fail then none else fields.map parsedState

/-- What a client does with a frame: the first word tells whether it is a death or a state. -/
def readFrame (toDouble : Bool → ℚ → Option R) (payload : String) : Option (Received R) :=
  let iss := InStream.ofText payload
  let (type, iss) := Extraction.string.run iss
  let type := type.elim "" Subtype.val
  if type = "death" then
    let (fields, _) := (Extraction.andThen .string (.unsigned (2 ^ 64))).run iss
    fields.map fun (target, tick) => .death target.1 tick
  else if type = "state" then (parseStateFrame toDouble payload).map .state
  else none

/-! ## Reading back -/

theorem takes_integer {n : Int} (fits : -2 ^ 31 ≤ n ∧ n < 2 ^ 31) {rest : List Char} (ends : EndsWord rest) :
    readInt.Takes (' ' :: ((integerField n).text ++ rest)) n rest := by
  have digits : (Digits.ofNat n.natAbs).value = n.natAbs := Nat.ofDigitChars_ten_toDigits
  have complete : (integerField n).Complete := Nat.toDigits_ne_nil
  have value : (integerField n).value = n := by
    unfold integerField IntegerField.value
    dsimp only
    rw [digits]
    by_cases negative : n < 0
    · rw [if_pos negative, if_pos rfl]
      omega
    · rw [if_neg negative, if_neg (by decide)]
      omega
  refine ⟨integerField n, next_space complete ends, ?_⟩
  rw [toSigned, value, if_pos ⟨complete, by exact_mod_cast fits.1, by exact_mod_cast fits.2⟩]

variable [PrintedDouble R]

/-- A `double` whose text is one that `strtod` takes. -/
def Legible (toDouble : Bool → ℚ → Option R) (x : R) : Prop :=
  ∃ negative magnitude nonneg x', PrintedDouble.classify x = .finite negative magnitude nonneg ∧
    toDouble negative (shown magnitude) = some x'

/-- A `double` that is read where another was printed: the one for a decimal that is off by half a unit of the
sixth significant digit at most, and not at all if six digits are enough. -/
def Heard (toDouble : Bool → ℚ → Option R) (x x' : R) : Prop :=
  ∃ negative magnitude nonneg decimal, PrintedDouble.classify x = .finite negative magnitude nonneg ∧
    |decimal - magnitude| ≤ sixthUnit magnitude / 2 ∧ (SixDigits magnitude → decimal = magnitude) ∧
      toDouble negative decimal = some x'

theorem takes_double {toDouble : Bool → ℚ → Option R} {x : R} (legible : Legible toDouble x) :
    ∃ x', Heard toDouble x x' ∧ ∀ rest, EndsWord rest →
      (Extraction.floating toDouble).Takes (' ' :: (printDouble x ++ rest)) x' rest := by
  obtain ⟨negative, magnitude, nonneg, x', finite, converted⟩ := legible
  refine ⟨x', ⟨negative, magnitude, nonneg, _, finite, abs_shown_sub_le nonneg, SixDigits.shown_eq, converted⟩,
    fun rest ends => ?_⟩
  have printed : printDouble x = (generalField negative magnitude).text := by
    rw [printDouble, finite]
  have complete := complete_generalField negative magnitude
  rw [printed]
  refine ⟨generalField negative magnitude, next_space complete ends, ?_⟩
  rw [toFloating, if_pos complete, generalField_sign, magnitude_generalField, converted]

theorem takes_type {word : String} (named : word ≠ "") (solid : ∀ c ∈ word.toList, isSpace c = false)
    {rest : List Char} (ends : EndsWord rest) :
    Extraction.string.Takes (word.toList ++ rest) ⟨word, named⟩ rest := by
  have complete : wordKind.Complete ⟨word.toList, solid⟩ := by simpa [wordKind] using named
  refine ⟨⟨word.toList, solid⟩, ⟨[], fun _ member => absurd member List.not_mem_nil, rfl, complete, ends⟩, ?_⟩
  have present : word.toList ≠ [] := complete
  simp only [Extraction.nameOf, dif_neg present, String.ofList_toList]

/-! ## Frames -/

/-- An `int`. -/
def FitsInt (n : Int) : Prop := -2 ^ 31 ≤ n ∧ n < 2 ^ 31

/-- A frame of the server: the player's id is a word, the numbers are in range and the `double` values have
texts that `strtod` takes. -/
def Readable (toDouble : Bool → ℚ → Option R) : ClientFrame R → Prop
  | .state player tick delta =>
      (player.playerId ≠ "" ∧ ∀ c ∈ player.playerId.toList, isSpace c = false) ∧ tick < 2 ^ 64 ∧
        (∀ n ∈ [player.health, player.shotsFired, player.hitsLanded, player.deaths], FitsInt n) ∧
        ∀ x ∈ [player.x, player.y, player.facingRadians, delta], Legible toDouble x
  | .death playerId tick =>
      (playerId ≠ "" ∧ ∀ c ∈ playerId.toList, isSpace c = false) ∧ tick < 2 ^ 64

/-- What is read is what was written, but for the last digits of the `double` values. -/
def ReadAs (toDouble : Bool → ℚ → Option R) : ClientFrame R → Received R → Prop
  | .state player tick delta, .state parsed =>
      (parsed.playerId = player.playerId ∧ parsed.tick = tick ∧ parsed.health = player.health ∧
        parsed.alive = player.isAlive ∧ parsed.shotsFired = player.shotsFired ∧
        parsed.hitsLanded = player.hitsLanded ∧ parsed.deaths = player.deaths) ∧
      Heard toDouble player.x parsed.x ∧ Heard toDouble player.y parsed.y ∧
        Heard toDouble player.facingRadians parsed.facing ∧ Heard toDouble delta parsed.delta
  | .death playerId tick, .death target tick' => target = playerId ∧ tick' = tick
  | _, _ => False

theorem solid_of_all {word : String} (all : (word.toList.all fun c => isSpace c == false) = true) :
    ∀ c ∈ word.toList, isSpace c = false :=
  fun c member => beq_iff_eq.mp (List.all_eq_true.mp all c member)

omit [PrintedDouble R] in
theorem deathText_eq (playerId : String) (tick : Nat) : (String.ofList (deathText playerId tick)).toList =
    "death".toList ++ ' ' :: (playerId.toList ++ ' ' :: ((toString tick).toList ++ [])) := by
  have spaced : "death ".toList = "death".toList ++ [' '] := by decide
  rw [String.toList_ofList]
  unfold deathText
  rw [spaced]
  simp only [List.append_assoc, List.cons_append, List.nil_append, List.append_nil]

theorem stateText_eq (player : PlayerState R) (tick : Nat) (delta : R) :
    (ClientFrame.state player tick delta).text.toList = "state".toList ++ ' ' :: (player.playerId.toList ++
      ' ' :: (printDouble player.x ++ ' ' :: (printDouble player.y ++ ' ' :: (printDouble player.facingRadians ++
      ' ' :: ((toString tick).toList ++ ' ' :: (printDouble delta ++ ' ' :: ((integerField player.health).text ++
      ' ' :: ((flagField player.isAlive).text ++ ' ' :: ((integerField player.shotsFired).text ++
      ' ' :: ((integerField player.hitsLanded).text ++ ' ' :: ((integerField player.deaths).text ++ []))))))))))) := by
  have spaced : "state ".toList = "state".toList ++ [' '] := by decide
  unfold ClientFrame.text
  dsimp only
  rw [String.toList_ofList]
  unfold stateText
  rw [spaced]
  simp only [List.append_assoc, List.cons_append, List.nil_append, List.append_nil]

theorem solid_death : ∀ c ∈ "death".toList, isSpace c = false := by
  have all : ("death".toList.all fun c => isSpace c == false) = true := by decide
  exact solid_of_all all

theorem solid_state : ∀ c ∈ "state".toList, isSpace c = false := by
  have all : ("state".toList.all fun c => isSpace c == false) = true := by decide
  exact solid_of_all all

/-- What the first word of a frame leaves. -/
theorem run_type {word : String} (named : word ≠ "") (solid : ∀ c ∈ word.toList, isSpace c = false) {payload : String}
    {rest : List Char} (split : payload.toList = word.toList ++ rest) (ends : EndsWord rest) :
    Extraction.string.run (.ofText payload) = (some ⟨word, named⟩, .leaving rest false) := by
  refine (Extraction.string.run_iff (InStream.ready_ofText payload) _ _).mpr ⟨rest, ?_, rfl⟩
  have whole : (InStream.ofText payload).text = word.toList ++ rest := split
  rw [whole]
  exact takes_type named solid ends

omit [PrintedDouble R] in
theorem readFrame_death (toDouble : Bool → ℚ → Option R) {playerId : String} {tick : Nat} (named : playerId ≠ "")
    (solid : ∀ c ∈ playerId.toList, isSpace c = false) (fits : tick < 2 ^ 64) :
    readFrame toDouble (.ofList (deathText playerId tick)) = some (.death playerId tick) := by
  have word : "death" ≠ "" := by decide
  have type := run_type word solid_death (deathText_eq playerId tick) (endsWord_space _)
  have ends : EndsWord [] := fun _ none => by cases none
  have taken : (Extraction.andThen .string (.unsigned (2 ^ 64))).Takes
      (' ' :: (playerId.toList ++ ' ' :: ((toString tick).toList ++ []))) (⟨playerId, named⟩, tick) [] :=
    ⟨_, takes_name named solid (endsWord_space _), takes_sequence fits ends⟩
  have fields := ((Extraction.andThen .string (.unsigned (2 ^ 64))).run_iff (InStream.ready_leaving _)
    (⟨playerId, named⟩, tick) (.leaving [] false)).mpr ⟨[], taken, rfl⟩
  simp only [readFrame, type, fields, Option.elim_some, if_true, Option.map_some]

/-- Every frame reads back. -/
theorem readFrame_text (toDouble : Bool → ℚ → Option R) {frame : ClientFrame R} (readable : Readable toDouble frame) :
    ∃ received, readFrame toDouble frame.text = some received ∧ ReadAs toDouble frame received := by
  cases frame with
  | death playerId tick =>
      obtain ⟨⟨named, solid⟩, fits⟩ := readable
      exact ⟨.death playerId tick, readFrame_death toDouble named solid fits, rfl, rfl⟩
  | state player tick delta =>
      obtain ⟨⟨named, solid⟩, fits, ints, doubles⟩ := readable
      obtain ⟨x, heardX, takesX⟩ := takes_double (doubles player.x (by simp))
      obtain ⟨y, heardY, takesY⟩ := takes_double (doubles player.y (by simp))
      obtain ⟨facing, heardFacing, takesFacing⟩ := takes_double (doubles player.facingRadians (by simp))
      obtain ⟨delta', heardDelta, takesDelta⟩ := takes_double (doubles delta (by simp))
      have health := ints player.health (by simp)
      have shotsFired := ints player.shotsFired (by simp)
      have hitsLanded := ints player.hitsLanded (by simp)
      have deaths := ints player.deaths (by simp)
      have word : "state" ≠ "" := by decide
      have type := run_type word solid_state (stateText_eq player tick delta) (endsWord_space _)
      have ends : EndsWord [] := fun _ none => by cases none
      let fields : StateFields R := (⟨player.playerId, named⟩, x, y, facing, tick, delta', player.health,
        player.isAlive.toNat, player.shotsFired, player.hitsLanded, player.deaths)
      have taken : (readStateFields toDouble).Takes _ fields [] :=
        ⟨_, takes_name named solid (endsWord_space _), _, takesX _ (endsWord_space _),
          _, takesY _ (endsWord_space _), _, takesFacing _ (endsWord_space _), _, takes_sequence fits (endsWord_space _),
          _, takesDelta _ (endsWord_space _), _, takes_integer health (endsWord_space _),
          _, takes_flag player.isAlive (endsWord_space _), _, takes_integer shotsFired (endsWord_space _),
          _, takes_integer hitsLanded (endsWord_space _), takes_integer deaths ends⟩
      have stored := ((readStateFields toDouble).run_iff (InStream.ready_leaving _) fields (.leaving [] false)).mpr
        ⟨[], taken, rfl⟩
      have parsed : parseStateFrame toDouble (ClientFrame.state player tick delta).text = some (parsedState fields) := by
        have good : ¬(InStream.leaving [] false).fail = true := Bool.false_ne_true
        simp only [parseStateFrame, type, stored, Option.elim_some, if_neg good, ne_eq, not_true_eq_false, if_false,
          Option.map_some]
      refine ⟨.state (parsedState fields), ?_, ⟨rfl, rfl, rfl, toNat_bne player.isAlive, rfl, rfl, rfl⟩,
        heardX, heardY, heardFacing, heardDelta⟩
      have other : ¬"state" = "death" := by decide
      simp only [readFrame, type, parsed, Option.elim_some, if_neg other, if_true, Option.map_some]

end reading

/-- A state with a coordinate that has no end in decimal. -/
def thirdFrame : ClientFrame ℚ := .state ⟨"alice", 1 / 3, -5 / 2, 0, 4, 80, true, 2, 1, 0⟩ 7 (1 / 60)

theorem readFrame_text_third : ∃ received,
    readFrame exactly thirdFrame.text = some received ∧ ReadAs exactly thirdFrame received := by
  have all : ("alice".toList.all fun c => isSpace c == false) = true := by decide
  refine readFrame_text exactly ⟨⟨by decide, solid_of_all all⟩, by decide, ?_, ?_⟩
  · simp [FitsInt]
  · exact fun x _ => ⟨decide (x < 0), |x|, abs_nonneg x, _, rfl, rfl⟩

example : thirdFrame.text = "state alice 0.333333 -2.5 0 7 0.0166667 80 1 2 1 0" := by decide +kernel

end Arena60
