import Arena60.Game.Stretches
import Arena60.Misc.RealArith

/-!
# How fast a player moves

A player is moved by every input frame that is accepted, not by the ticks. How far it gets
in a number of ticks is bounded by one frame for each of them, and one more, exactly when
the headings of the frames accepted without a tick in between never add up to more than one
frame in either direction.
-/

namespace Arena60

open Misc Misc.DoubleArith Misc.RealArith

namespace GameSession

section frames

variable {R : Type} [DoubleArith R]

/-- The direction in which an input moves a player. -/
def heading (input : MovementInput R) : R × R :=
  let dx := ofRat 0
  let dy := ofRat 0
  let dy := if input.up then dy - ofRat 1 else dy
  let dy := if input.down then dy + ofRat 1 else dy
  let dx := if input.left then dx - ofRat 1 else dx
  let dx := if input.right then dx + ofRat 1 else dx
  let magnitude := sqrt (dx * dx + dy * dy)
  if less (ofRat 0) magnitude then (dx / magnitude, dy / magnitude) else (dx, dy)

/-- A living player moves by its heading. -/
theorem steer_heading (speed : R) (input : MovementInput R) (deltaSeconds : R) (state : PlayerState R) :
    (PlayerRuntimeState.steer speed input deltaSeconds state).x =
      state.x + (heading input).1 * (speed * deltaSeconds) ∧
    (PlayerRuntimeState.steer speed input deltaSeconds state).y =
      state.y + (heading input).2 * (speed * deltaSeconds) :=
  ⟨rfl, rfl⟩

/-- The frames a player sends. -/
def framesOf (playerId : String) (ops : List (SessionOp R)) : List (MovementInput R) :=
  ops.filterMap fun
    | .applyInput other input _ => if other = playerId then some input else none
    | _ => none

/-- The frames that are not older than the last one accepted before. -/
def accepted : Nat → List (MovementInput R) → List (MovementInput R)
  | _, [] => []
  | lastSequence, input :: inputs =>
      if input.sequence < lastSequence then accepted lastSequence inputs
      else input :: accepted input.sequence inputs

/-- Whether an operation is a tick. -/
def isTick : SessionOp R → Bool
  | .tick _ _ => true
  | _ => false

/-- An operation that passes a fixed time to `ApplyInput`. -/
def Paced (deltaSeconds : R) : SessionOp R → Prop
  | .applyInput _ _ delta => delta = deltaSeconds
  | _ => True

end frames

/-- The sums of the headings of some frames. -/
noncomputable def travel (inputs : List (MovementInput ℝ)) : ℝ × ℝ :=
  ((inputs.map fun input => (heading input).1).sum, (inputs.map fun input => (heading input).2).sum)

/-- The entry of a player after a stretch without ticks. -/
structure Travelled (distance : ℝ) (inputs : List (MovementInput ℝ))
    (runtime runtime' : PlayerRuntimeState ℝ) : Prop where
  alive : runtime'.state.isAlive = runtime.state.isAlive
  moved : runtime.state.isAlive = true →
    runtime'.state.x = runtime.state.x + (travel (accepted runtime.state.lastSequence inputs)).1 * distance ∧
    runtime'.state.y = runtime.state.y + (travel (accepted runtime.state.lastSequence inputs)).2 * distance
  rested : runtime.state.isAlive = false →
    runtime'.state.x = runtime.state.x ∧ runtime'.state.y = runtime.state.y

theorem travel_cons (input : MovementInput ℝ) (inputs : List (MovementInput ℝ)) :
    (travel (input :: inputs)).1 = (heading input).1 + (travel inputs).1 ∧
    (travel (input :: inputs)).2 = (heading input).2 + (travel inputs).2 := by
  unfold travel
  rw [List.map_cons, List.map_cons, List.sum_cons, List.sum_cons]
  exact ⟨rfl, rfl⟩

/-- A frame before a stretch. -/
theorem Travelled.frame {speed deltaSeconds : ℝ} {input : MovementInput ℝ}
    {inputs : List (MovementInput ℝ)} {runtime received runtime' : PlayerRuntimeState ℝ}
    (state : ∃ shotsFired, received.state =
      { receive speed input deltaSeconds runtime.state with shotsFired })
    (travelled : Travelled (speed * deltaSeconds) inputs received runtime') :
    Travelled (speed * deltaSeconds) (input :: inputs) runtime runtime' := by
  obtain ⟨shotsFired, state⟩ := state
  have alive : received.state.isAlive = runtime.state.isAlive := by
    rw [state]
    exact (receive_keeps speed input deltaSeconds runtime.state).2
  by_cases stale : input.sequence < runtime.state.lastSequence
  · have same : received.state = { runtime.state with shotsFired } := by
      rw [state, receive, if_pos stale]
    have ignored : accepted runtime.state.lastSequence (input :: inputs) =
        accepted received.state.lastSequence inputs := by
      rw [accepted, if_pos stale, same]
    constructor
    · exact travelled.alive.trans alive
    · intro living
      have moved := travelled.moved (alive.trans living)
      rw [ignored]
      rw [same] at moved ⊢
      exact moved
    · intro dead
      have rested := travelled.rested (alive.trans dead)
      rw [same] at rested
      exact rested
  · have sequence : received.state.lastSequence = input.sequence := by
      rw [state, receive, if_neg stale]
      dsimp only
      split <;> rfl
    have taken : accepted runtime.state.lastSequence (input :: inputs) =
        input :: accepted received.state.lastSequence inputs := by
      rw [accepted, if_neg stale, sequence]
    constructor
    · exact travelled.alive.trans alive
    · intro living
      have moved := travelled.moved (alive.trans living)
      have x : received.state.x = runtime.state.x + (heading input).1 * (speed * deltaSeconds) := by
        rw [state, receive, if_neg stale]
        dsimp only
        rw [if_pos living]
        exact (steer_heading speed input deltaSeconds _).1
      have y : received.state.y = runtime.state.y + (heading input).2 * (speed * deltaSeconds) := by
        rw [state, receive, if_neg stale]
        dsimp only
        rw [if_pos living]
        exact (steer_heading speed input deltaSeconds _).2
      rw [taken, (travel_cons _ _).1, (travel_cons _ _).2, moved.1, moved.2, x, y]
      constructor
      · ring
      · ring
    · intro dead
      have rested := travelled.rested (alive.trans dead)
      have still : received.state.x = runtime.state.x ∧ received.state.y = runtime.state.y := by
        rw [state, receive, if_neg stale]
        dsimp only
        rw [if_neg (by rw [dead]; exact Bool.false_ne_true)]
        exact ⟨rfl, rfl⟩
      exact ⟨rested.1.trans still.1, rested.2.trans still.2⟩

theorem Travelled.refl (distance : ℝ) (runtime : PlayerRuntimeState ℝ) :
    Travelled distance [] runtime runtime := by
  refine ⟨rfl, fun _ => ?_, fun _ => ⟨rfl, rfl⟩⟩
  rw [accepted, travel, List.map_nil, List.map_nil, List.sum_nil, zero_mul, add_zero, add_zero]
  exact ⟨rfl, rfl⟩

/-- A stretch without ticks moves a player by the headings of the frames it accepts. -/
theorem travelled_after {deltaSeconds : ℝ} {playerId : String} (ops : List (SessionOp ℝ)) :
    ∀ {s : GameSession ℝ} {runtime : PlayerRuntimeState ℝ},
      (∀ op ∈ ops, Paced deltaSeconds op) → (∀ op ∈ ops, ¬Disturbs playerId op) →
      (∀ op ∈ ops, isTick op = false) → s.players.find playerId = some runtime →
      ∃ runtime', (s.after ops).players.find playerId = some runtime' ∧
        Travelled (s.speedPerSecond * deltaSeconds) (framesOf playerId ops) runtime runtime' := by
  induction ops with
  | nil => exact fun _ _ _ present => ⟨_, present, .refl _ _⟩
  | cons op ops ih =>
      intro s runtime paced undisturbed tickless present
      have pace := paced op List.mem_cons_self
      have still := tickless op List.mem_cons_self
      obtain ⟨received, present', step⟩ := act_entry s (undisturbed op List.mem_cons_self) present
      obtain ⟨runtime', present'', travelled⟩ := ih
        (fun other member => paced other (List.mem_cons_of_mem op member))
        (fun other member => undisturbed other (List.mem_cons_of_mem op member))
        (fun other member => tickless other (List.mem_cons_of_mem op member)) present'
      refine ⟨runtime', present'', ?_⟩
      rw [(act_clock s op).1] at travelled
      -- an operation that is not a frame of the player leaves its entry alone
      have quiet : framesOf playerId (op :: ops) = framesOf playerId ops → received = runtime →
          Travelled (s.speedPerSecond * deltaSeconds) (framesOf playerId (op :: ops)) runtime runtime' := by
        intro frames same
        rw [frames, ← same]
        exact travelled
      cases op with
      | applyInput other input delta =>
          have pace : delta = deltaSeconds := pace
          subst pace
          unfold EntryStep at step
          dsimp only at step
          split_ifs at step with mine
          · have frames : framesOf playerId (.applyInput other input delta :: ops) =
                input :: framesOf playerId ops := by
              simp [framesOf, mine]
            rw [frames]
            exact travelled.frame step.state
          · exact quiet (by simp [framesOf, mine]) step
      | tick tick delta => cases still
      | upsertPlayer other => exact quiet rfl step
      | removePlayer other => exact quiet rfl step
      | consumeDeathEvents => exact quiet rfl step
      | reorder order => exact quiet rfl step

/-- A heading is no longer than one in either direction. -/
theorem heading_bounded (input : MovementInput ℝ) :
    |(heading input).1| ≤ 1 ∧ |(heading input).2| ≤ 1 := by
  have normalized : ∀ dx dy : ℝ,
      |(if less (0 : ℝ) (Real.sqrt (dx * dx + dy * dy)) then
        (dx / Real.sqrt (dx * dx + dy * dy), dy / Real.sqrt (dx * dx + dy * dy)) else (dx, dy)).1| ≤ 1 ∧
      |(if less (0 : ℝ) (Real.sqrt (dx * dx + dy * dy)) then
        (dx / Real.sqrt (dx * dx + dy * dy), dy / Real.sqrt (dx * dx + dy * dy)) else (dx, dy)).2| ≤ 1 := by
    intro dx dy
    have x : |dx| ≤ Real.sqrt (dx * dx + dy * dy) := Real.abs_le_sqrt (by nlinarith [mul_self_nonneg dy])
    have y : |dy| ≤ Real.sqrt (dx * dx + dy * dy) := Real.abs_le_sqrt (by nlinarith [mul_self_nonneg dx])
    split_ifs with long
    · rw [less_real] at long
      rw [abs_div, abs_div, abs_of_pos long]
      exact ⟨(div_le_one long).mpr x, (div_le_one long).mpr y⟩
    · rw [less_real, not_lt] at long
      constructor
      · linarith
      · linarith
  have zero : (ofRat 0 : ℝ) = 0 := by
    rw [ofRat_real, Rat.cast_zero]
  unfold heading
  dsimp only
  rw [zero]
  exact normalized _ _

/-! ## The limit -/

/-- In every stretch of a run in which a player is neither inserted nor removed it moves in
each direction by at most one frame for each tick, and one more. -/
def SpeedLimited (deltaSeconds : ℝ) (playerId : String) (ops : List (SessionOp ℝ)) : Prop :=
  ∀ before stretch later, ops = before ++ stretch ++ later →
    (∀ op ∈ stretch, ¬Disturbs playerId op) → ∀ runtime runtime',
      ((new : GameSession ℝ).after before).players.find playerId = some runtime →
      ((new : GameSession ℝ).after (before ++ stretch)).players.find playerId = some runtime' →
      |runtime'.state.x - runtime.state.x| ≤ 5 * deltaSeconds * (stretch.countP isTick + 1) ∧
      |runtime'.state.y - runtime.state.y| ≤ 5 * deltaSeconds * (stretch.countP isTick + 1)

/-- The frames that are accepted from a living player one after the other, without a tick in
between, never add up to more than one frame in either direction. -/
def OneFramePerTick (playerId : String) (ops : List (SessionOp ℝ)) : Prop :=
  ∀ before stretch later, ops = before ++ stretch ++ later →
    (∀ op ∈ stretch, ¬Disturbs playerId op ∧ isTick op = false) → ∀ runtime,
      ((new : GameSession ℝ).after before).players.find playerId = some runtime →
      runtime.state.isAlive = true →
      |(travel (accepted runtime.state.lastSequence (framesOf playerId stretch))).1| ≤ 1 ∧
      |(travel (accepted runtime.state.lastSequence (framesOf playerId stretch))).2| ≤ 1

theorem speed_after (ops : List (SessionOp ℝ)) :
    ((new : GameSession ℝ).after ops).speedPerSecond = 5 := by
  induction ops using List.reverseRecOn with
  | nil =>
      show ((5 : ℚ) : ℝ) = 5
      norm_num
  | append_singleton ops op ih =>
      rw [after_append]
      exact (act_clock _ op).1.trans ih

/-- A stretch without ticks under the condition. -/
theorem OneFramePerTick.tickless {deltaSeconds : ℝ} (positive : 0 < deltaSeconds) {playerId : String}
    {ops before stretch later : List (SessionOp ℝ)} (steady : OneFramePerTick playerId ops)
    (paced : ∀ op ∈ ops, Paced deltaSeconds op) (split : ops = before ++ stretch ++ later)
    (undisturbed : ∀ op ∈ stretch, ¬Disturbs playerId op) (still : ∀ op ∈ stretch, isTick op = false)
    {runtime : PlayerRuntimeState ℝ}
    (present : ((new : GameSession ℝ).after before).players.find playerId = some runtime) :
    ∃ runtime', ((new : GameSession ℝ).after (before ++ stretch)).players.find playerId = some runtime' ∧
      |runtime'.state.x - runtime.state.x| ≤ 5 * deltaSeconds ∧
      |runtime'.state.y - runtime.state.y| ≤ 5 * deltaSeconds := by
  have inRun : ∀ op ∈ stretch, op ∈ ops := by
    intro op member
    rw [split]
    exact List.mem_append_left _ (List.mem_append_right _ member)
  obtain ⟨runtime', present', travelled⟩ := travelled_after stretch
    (fun op member => paced op (inRun op member)) undisturbed still present
  rw [speed_after] at travelled
  rw [← after_append] at present'
  have frame : 0 ≤ 5 * deltaSeconds := by linarith
  refine ⟨runtime', present', ?_⟩
  cases alive : runtime.state.isAlive with
  | false =>
      have rested := travelled.rested alive
      rw [rested.1, rested.2, sub_self, sub_self, abs_zero]
      exact ⟨frame, frame⟩
  | true =>
      have moved := travelled.moved alive
      have bounded := steady before stretch later split
        (fun op member => ⟨undisturbed op member, still op member⟩) runtime present alive
      have scaled : ∀ sum : ℝ, |sum| ≤ 1 → |sum * (5 * deltaSeconds)| ≤ 5 * deltaSeconds := by
        intro sum small
        rw [abs_mul, abs_of_nonneg frame]
        exact mul_le_of_le_one_left frame small
      rw [moved.1, moved.2, add_sub_cancel_left, add_sub_cancel_left]
      exact ⟨scaled _ bounded.1, scaled _ bounded.2⟩

/-- A list without ticks, or one with a first tick. -/
theorem tickless_or_split (ops : List (SessionOp ℝ)) :
    (∀ op ∈ ops, isTick op = false) ∨
      ∃ first tick deltaSeconds rest, ops = first ++ .tick tick deltaSeconds :: rest ∧
        ∀ op ∈ first, isTick op = false := by
  induction ops with
  | nil => exact Or.inl nofun
  | cons op ops ih =>
      cases ticks : isTick op with
      | true =>
          right
          cases op with
          | tick tick deltaSeconds => exact ⟨[], tick, deltaSeconds, ops, rfl, nofun⟩
          | _ => cases ticks
      | false =>
          rcases ih with all | ⟨first, tick, deltaSeconds, rest, rfl, still⟩
          · left
            intro other member
            cases member with
            | head => exact ticks
            | tail _ member => exact all other member
          · right
            refine ⟨op :: first, tick, deltaSeconds, rest, rfl, ?_⟩
            intro other member
            cases member with
            | head => exact ticks
            | tail _ member => exact still other member

theorem OneFramePerTick.stretch {deltaSeconds : ℝ} (positive : 0 < deltaSeconds) {playerId : String}
    {ops : List (SessionOp ℝ)} (steady : OneFramePerTick playerId ops)
    (paced : ∀ op ∈ ops, Paced deltaSeconds op) (ticks : Nat) :
    ∀ (before stretch later : List (SessionOp ℝ)), stretch.countP isTick = ticks →
      ops = before ++ stretch ++ later → (∀ op ∈ stretch, ¬Disturbs playerId op) →
      ∀ runtime, ((new : GameSession ℝ).after before).players.find playerId = some runtime →
      ∃ runtime', ((new : GameSession ℝ).after (before ++ stretch)).players.find playerId = some runtime' ∧
        |runtime'.state.x - runtime.state.x| ≤ 5 * deltaSeconds * (ticks + 1) ∧
        |runtime'.state.y - runtime.state.y| ≤ 5 * deltaSeconds * (ticks + 1) := by
  induction ticks with
  | zero =>
      intro before stretch later count split undisturbed runtime present
      have still : ∀ op ∈ stretch, isTick op = false := by
        intro op member
        have other := List.countP_eq_zero.mp count op member
        rwa [Bool.not_eq_true] at other
      obtain ⟨runtime', present', x, y⟩ :=
        steady.tickless positive paced split undisturbed still present
      refine ⟨runtime', present', ?_, ?_⟩
      · rwa [Nat.cast_zero, zero_add, mul_one]
      · rwa [Nat.cast_zero, zero_add, mul_one]
  | succ ticks ih =>
      intro before stretch later count split undisturbed runtime present
      rcases tickless_or_split stretch with none | ⟨first, tick, delta, rest, rfl, still⟩
      · have zero : stretch.countP isTick = 0 := List.countP_eq_zero.mpr fun op member => by
          rw [none op member]
          exact Bool.false_ne_true
        rw [zero] at count
        cases count
      · have rest_count : rest.countP isTick = ticks := by
          have none : first.countP isTick = 0 := List.countP_eq_zero.mpr fun op member => by
            rw [still op member]
            exact Bool.false_ne_true
          rw [List.countP_append, none, List.countP_cons_of_pos rfl] at count
          omega
        have first_part : ops = before ++ first ++ (.tick tick delta :: rest ++ later) := by
          rw [split]
          simp
        have last_part : ops = (before ++ first ++ [.tick tick delta]) ++ rest ++ later := by
          rw [split]
          simp
        have whole : before ++ (first ++ .tick tick delta :: rest) =
            (before ++ first ++ [.tick tick delta]) ++ rest := by simp
        obtain ⟨middle, reached, x, y⟩ := steady.tickless positive paced first_part
          (fun op member => undisturbed op (List.mem_append_left _ member)) still present
        have unrelated : ¬Disturbs playerId (.tick tick delta : SessionOp ℝ) := id
        obtain ⟨ticked, reached', fought⟩ := act_entry _ unrelated reached
        have fought : Fought middle ticked := fought
        have reached' : ((new : GameSession ℝ).after (before ++ first ++ [.tick tick delta])).players.find
            playerId = some ticked := by
          rw [after_append]
          exact reached'
        obtain ⟨runtime', present', x', y'⟩ := ih _ rest later rest_count last_part
          (fun op member => undisturbed op
            (List.mem_append_right _ (List.mem_cons_of_mem _ member))) ticked reached'
        rw [whole]
        refine ⟨runtime', present', ?_, ?_⟩
        · rw [fought.x] at x'
          have triangle := abs_sub_le runtime'.state.x middle.state.x runtime.state.x
          push_cast
          linarith
        · rw [fought.y] at y'
          have triangle := abs_sub_le runtime'.state.y middle.state.y runtime.state.y
          push_cast
          linarith

/-- A player keeps to the limit in every stretch of a run if and only if the frames accepted
between two ticks never add up to more than one. -/
theorem speedLimited_iff {deltaSeconds : ℝ} (positive : 0 < deltaSeconds) (playerId : String)
    (ops : List (SessionOp ℝ)) (paced : ∀ op ∈ ops, Paced deltaSeconds op) :
    SpeedLimited deltaSeconds playerId ops ↔ OneFramePerTick playerId ops := by
  constructor
  · intro limited before stretch later split quiet runtime present alive
    have inRun : ∀ op ∈ stretch, op ∈ ops := by
      intro op member
      rw [split]
      exact List.mem_append_left _ (List.mem_append_right _ member)
    obtain ⟨runtime', present', travelled⟩ := travelled_after stretch
      (fun op member => paced op (inRun op member)) (fun op member => (quiet op member).1)
      (fun op member => (quiet op member).2) present
    rw [speed_after] at travelled
    rw [← after_append] at present'
    have moved := travelled.moved alive
    have bounded := limited before stretch later split (fun op member => (quiet op member).1) runtime
      runtime' present present'
    have none : stretch.countP isTick = 0 := List.countP_eq_zero.mpr fun op member => by
      rw [(quiet op member).2]
      exact Bool.false_ne_true
    have frame : 0 < 5 * deltaSeconds := by linarith
    have scaled : ∀ sum : ℝ, |sum * (5 * deltaSeconds)| ≤ 5 * deltaSeconds → |sum| ≤ 1 := by
      intro sum small
      rw [abs_mul, abs_of_pos frame] at small
      exact (mul_le_iff_le_one_left frame).mp small
    rw [moved.1, moved.2, add_sub_cancel_left, add_sub_cancel_left, none, Nat.cast_zero, zero_add,
      mul_one] at bounded
    exact ⟨scaled _ bounded.1, scaled _ bounded.2⟩
  · intro steady before stretch later split undisturbed runtime runtime' present present'
    obtain ⟨reached, found, bounded⟩ := steady.stretch positive paced _ before stretch later rfl split
      undisturbed runtime present
    rw [present'] at found
    cases found
    exact bounded

/-- The limit is kept when at most one frame arrives between two ticks. -/
theorem OneFramePerTick.of_single {playerId : String} {ops : List (SessionOp ℝ)}
    (single : ∀ before stretch later, ops = before ++ stretch ++ later →
      (∀ op ∈ stretch, isTick op = false) → (framesOf playerId stretch).length ≤ 1) :
    OneFramePerTick playerId ops := by
  intro before stretch later split quiet runtime _ _
  have few := single before stretch later split fun op member => (quiet op member).2
  generalize framesOf playerId stretch = inputs at few
  cases inputs with
  | nil => simp [accepted, travel]
  | cons input inputs =>
      have alone : inputs = [] := List.eq_nil_of_length_eq_zero (by rw [List.length_cons] at few; omega)
      subst alone
      rw [accepted]
      split
      · simp [accepted, travel]
      · rw [accepted, (travel_cons _ _).1, (travel_cons _ _).2]
        simpa [travel] using heading_bounded input

/-- One frame to the right. -/
def frameRight (sequence : Nat) : MovementInput ℝ := ⟨sequence, false, false, false, true, 0, 0, false⟩

theorem heading_frameRight (sequence : Nat) : (heading (frameRight sequence)).1 = 1 := by
  have length : Real.sqrt ((0 + 1) * (0 + 1) + 0 * 0) = 1 := by norm_num
  have zero : (ofRat 0 : ℝ) = 0 := by
    rw [ofRat_real, Rat.cast_zero]
  have one : (ofRat 1 : ℝ) = 1 := by
    rw [ofRat_real, Rat.cast_one]
  have long : less (0 : ℝ) 1 = true := by
    rw [less_real]
    exact one_pos
  unfold heading frameRight
  dsimp only
  rw [zero, one, if_neg Bool.false_ne_true, if_pos rfl]
  show (if less (0 : ℝ) (Real.sqrt ((0 + 1) * (0 + 1) + 0 * 0)) = true then
    (((0 + 1) / Real.sqrt ((0 + 1) * (0 + 1) + 0 * 0), 0 / Real.sqrt ((0 + 1) * (0 + 1) + 0 * 0)) : ℝ × ℝ)
      else (0 + 1, 0)).1 = 1
  rw [length, if_pos long]
  norm_num

theorem speedLimited_iff_oneFrame :
    SpeedLimited (1 / 60) "A" [.upsertPlayer "A", .applyInput "A" (frameRight 1) (1 / 60), .tick 1 (1 / 60)] := by
  apply (speedLimited_iff (by norm_num) "A" _ ?_).mpr
  · apply OneFramePerTick.of_single
    intro before stretch later split _
    have part : stretch <:+: _ := ⟨before, later, split.symm⟩
    exact (part.sublist.filterMap _).length_le
  · intro op member
    simp only [List.mem_cons, List.not_mem_nil, or_false] at member
    rcases member with rfl | rfl | rfl <;> trivial

/-- Two frames without a tick in between. -/
theorem twoFrames_tooFast :
    ¬SpeedLimited (1 / 60) "A"
      [.upsertPlayer "A", .applyInput "A" (frameRight 1) (1 / 60), .applyInput "A" (frameRight 2) (1 / 60)] := by
  intro limited
  let stretch : List (SessionOp ℝ) :=
    [.applyInput "A" (frameRight 1) (1 / 60), .applyInput "A" (frameRight 2) (1 / 60)]
  have named : ¬"A" = "" := by decide
  have present : ((new : GameSession ℝ).after [.upsertPlayer "A"]).players.find "A" =
      some (.enter "A" .default) := by
    show ((new : GameSession ℝ).act (.upsertPlayer "A")).players.find "A" = _
    rw [act, perform, if_neg named]
    rfl
  have undisturbed : ∀ op ∈ stretch, ¬Disturbs "A" op := by
    intro op member
    simp only [stretch, List.mem_cons, List.not_mem_nil, or_false] at member
    rcases member with rfl | rfl <;> exact id
  have paced : ∀ op ∈ stretch, Paced (1 / 60) op := by
    intro op member
    simp only [stretch, List.mem_cons, List.not_mem_nil, or_false] at member
    rcases member with rfl | rfl <;> rfl
  have still : ∀ op ∈ stretch, isTick op = false := by
    intro op member
    simp only [stretch, List.mem_cons, List.not_mem_nil, or_false] at member
    rcases member with rfl | rfl <;> rfl
  obtain ⟨runtime', present', travelled⟩ := travelled_after stretch paced undisturbed still present
  rw [← after_append] at present'
  have moved := (travelled.moved rfl).1
  have sum : (travel (accepted 0 (framesOf "A" stretch))).1 = 2 := by
    show (travel [frameRight 1, frameRight 2]).1 = 2
    rw [(travel_cons _ _).1, (travel_cons _ _).1, heading_frameRight, heading_frameRight]
    norm_num [travel]
  have pace : ((new : GameSession ℝ).after [.upsertPlayer "A"]).speedPerSecond = 5 := speed_after _
  have bounded := (limited [.upsertPlayer "A"] stretch [] rfl undisturbed _ runtime' present present').1
  have tickless : stretch.countP isTick = 0 := rfl
  have far : runtime'.state.x - (PlayerRuntimeState.enter "A" .default : PlayerRuntimeState ℝ).state.x =
      2 * (5 * (1 / 60)) := by
    rw [moved, pace]
    rw [show (PlayerRuntimeState.enter "A" .default : PlayerRuntimeState ℝ).state.lastSequence = 0 from rfl, sum]
    ring
  rw [far, tickless] at bounded
  norm_num [abs_le] at bounded

end GameSession

end Arena60
