import Arena60.Game.Stretches
import Arena60.Misc.ExactArith

/-!
# Inputs that are older than the last

`ApplyInput` drops an input whose sequence number is smaller than the last one it took. Over any
stretch that keeps a player in the session, dropping these inputs in advance makes no difference.
-/

namespace Arena60

open Misc

universe u

namespace GameSession

variable {R : Type u} [DoubleArith R]

/-- The sequence numbers of the inputs delivered to a player. -/
def delivered (playerId : String) (ops : List (SessionOp R)) : List Nat :=
  ops.filterMap fun
    | .applyInput other input _ => if other = playerId then some input.sequence else none
    | _ => none

/-- Operations without the inputs of a player that are older than the newest before them, which is
given for the first of them. -/
def withoutStale (playerId : String) : Nat → List (SessionOp R) → List (SessionOp R)
  | _, [] => []
  | newest, op :: rest =>
      let later := withoutStale playerId ((delivered playerId [op]).foldl max newest) rest
      if (delivered playerId [op]).any (· < newest) then later else op :: later

omit [DoubleArith R] in
/-- The sequence number of the last input a player took, if it is there. -/
def lastSequence? (s : GameSession R) (playerId : String) : Option Nat :=
  (s.players.find playerId).map fun runtime => runtime.state.lastSequence

omit [DoubleArith R] in
theorem delivered_cons (playerId : String) (op : SessionOp R) (ops : List (SessionOp R)) :
    delivered playerId (op :: ops) = delivered playerId [op] ++ delivered playerId ops := by
  unfold delivered
  rw [← List.filterMap_append, List.singleton_append]

omit [DoubleArith R] in
theorem delivered_mine (playerId : String) (input : MovementInput R) (deltaSeconds : R) :
    delivered playerId [.applyInput playerId input deltaSeconds] = [input.sequence] := by
  simp [delivered]

omit [DoubleArith R] in
/-- What an operation delivers to a player that is not its own input is nothing. -/
theorem delivered_other {playerId other : String} (differ : other ≠ playerId)
    (input : MovementInput R) (deltaSeconds : R) : delivered playerId [.applyInput other input deltaSeconds] = [] := by
  simp [delivered, differ]

/-! ## One operation -/

/-- A player that is not there is not brought in by others. -/
theorem act_absent (s : GameSession R) {playerId : String} {op : SessionOp R}
    (undisturbed : ¬Disturbs playerId op) (absent : s.players.find playerId = none) :
    (s.act op).players.find playerId = none := by
  cases op with
  | applyInput other input deltaSeconds =>
      obtain ⟨effect, -, applied⟩ := s.exists_applyInput_effect other input deltaSeconds
      have reached : s.act (.applyInput other input deltaSeconds) = effect.apply other s := applied
      rw [reached, InputEffect.apply]
      dsimp only
      rw [UnorderedMap.find_adjust, absent]
      split_ifs <;> rfl
  | tick tick deltaSeconds =>
      obtain ⟨-, -, keys⟩ := sweep_frame tick (s.moveProjectiles deltaSeconds).projectiles
        (s.moveProjectiles deltaSeconds)
      rw [UnorderedMap.find_eq_none_iff] at absent ⊢
      show playerId ∉ (sweep tick _ (s.moveProjectiles deltaSeconds)).1.players.keys
      rw [keys]
      exact absent
  | _ => exact (act_find_quiet s undisturbed (by simp) (by simp)).trans absent

/-- `ApplyInput` keeps the larger sequence number. -/
theorem receive_lastSequence (speed : R) (input : MovementInput R) (deltaSeconds : R)
    (state : PlayerState R) :
    (receive speed input deltaSeconds state).lastSequence = max state.lastSequence input.sequence := by
  unfold receive
  split
  · omega
  · dsimp only
    split
    · show input.sequence = _
      omega
    · show input.sequence = _
      omega

/-- An operation raises the last sequence number of a player to what it delivers to it. -/
theorem act_lastSequence (s : GameSession R) {playerId : String} {op : SessionOp R}
    (undisturbed : ¬Disturbs playerId op) :
    (s.act op).lastSequence? playerId =
      (s.lastSequence? playerId).map fun last => (delivered playerId [op]).foldl max last := by
  unfold lastSequence?
  cases found : s.players.find playerId with
  | none =>
      rw [act_absent s undisturbed found]
      rfl
  | some runtime =>
      obtain ⟨runtime', found', step⟩ := act_entry s undisturbed found
      rw [found']
      refine congrArg some ?_
      cases op with
      | applyInput other input deltaSeconds =>
          unfold EntryStep at step
          dsimp only at step
          by_cases mine : other = playerId
          · subst mine
            rw [if_pos rfl] at step
            obtain ⟨shotsFired, state⟩ := step.state
            rw [delivered_mine]
            show runtime'.state.lastSequence = max runtime.state.lastSequence input.sequence
            rw [state]
            exact receive_lastSequence s.speedPerSecond input deltaSeconds runtime.state
          · rw [if_neg mine] at step
            rw [delivered_other mine, step]
            rfl
      | tick tick deltaSeconds => exact step.lastSequence
      | _ =>
          cases step
          rfl

/-- An input that is older than the last one taken, and one for a player that is not there, does
nothing. -/
theorem act_stale (s : GameSession R) {playerId : String} {newest : Nat}
    (known : ∀ last, s.lastSequence? playerId = some last → newest = last) {op : SessionOp R}
    (stale : (delivered playerId [op]).any (· < newest) = true) : s.act op = s := by
  cases op with
  | applyInput other input deltaSeconds =>
      by_cases mine : other = playerId
      · subst mine
        show (s.applyInput other input deltaSeconds).1 = s
        unfold applyInput
        cases found : s.players.find other with
        | none => rfl
        | some runtime =>
            have last : newest = runtime.state.lastSequence := by
              apply known
              rw [lastSequence?, found]
              rfl
            have older : input.sequence < runtime.state.lastSequence := by
              rw [delivered_mine, last] at stale
              simpa using stale
            dsimp only
            rw [if_pos older]
      · rw [delivered_other mine] at stale
        cases stale
  | _ => cases stale

/-! ## A stretch -/

/-- After a stretch the last sequence number is the largest that was delivered, or the one before. -/
theorem after_lastSequence (playerId : String) (ops : List (SessionOp R)) :
    ∀ s : GameSession R, (∀ op ∈ ops, ¬Disturbs playerId op) →
      (s.after ops).lastSequence? playerId =
        (s.lastSequence? playerId).map fun last => (delivered playerId ops).foldl max last := by
  induction ops with
  | nil => exact fun s _ => Option.map_id'.symm
  | cons op ops ih =>
      intro s undisturbed
      have first := act_lastSequence s (undisturbed op List.mem_cons_self)
      have later := ih (s.act op) fun other member => undisturbed other (List.mem_cons_of_mem _ member)
      show ((s.act op).after ops).lastSequence? playerId = _
      rw [later, first, Option.map_map, delivered_cons playerId op ops]
      congr 1
      funext last
      exact List.foldl_append.symm

/-- Dropping stale inputs in advance changes nothing. -/
theorem after_withoutStale (playerId : String) (ops : List (SessionOp R)) :
    ∀ (s : GameSession R) (newest : Nat), (∀ op ∈ ops, ¬Disturbs playerId op) →
      (∀ last, s.lastSequence? playerId = some last → newest = last) →
      s.after (withoutStale playerId newest ops) = s.after ops := by
  induction ops with
  | nil => exact fun s newest _ _ => rfl
  | cons op ops ih =>
      intro s newest undisturbed known
      have first := act_lastSequence s (undisturbed op List.mem_cons_self)
      have knownLater : ∀ last, (s.act op).lastSequence? playerId = some last →
          (delivered playerId [op]).foldl max newest = last := by
        intro last reached
        rw [first] at reached
        obtain ⟨before, there, rfl⟩ := Option.map_eq_some_iff.mp reached
        rw [known before there]
      have later := ih (s.act op) ((delivered playerId [op]).foldl max newest)
        (fun other member => undisturbed other (List.mem_cons_of_mem _ member)) knownLater
      rw [withoutStale]
      split_ifs with stale
      · have nothing := act_stale s known stale
        rw [nothing] at later
        show _ = (s.act op).after ops
        rw [nothing, later]
      · exact later

/-- Stale inputs have no effect: a stretch that neither inserts nor removes a player leaves the session
as it does without the player's inputs that are older than the last one taken or than one delivered
before, and the last sequence number of the player is then the largest of the one before and of all
delivered. -/
theorem stale_inputs_have_no_effect (s : GameSession R) (playerId : String) (ops : List (SessionOp R))
    (undisturbed : ∀ op ∈ ops, ¬Disturbs playerId op) :
    s.after ops = s.after (withoutStale playerId ((s.lastSequence? playerId).getD 0) ops) ∧
      (s.after ops).lastSequence? playerId =
        (s.lastSequence? playerId).map fun last => (delivered playerId ops).foldl max last := by
  refine ⟨(after_withoutStale playerId ops s _ undisturbed ?_).symm,
    after_lastSequence playerId ops s undisturbed⟩
  intro last reached
  rw [reached]
  rfl

/-- A and B are in a session; B shoots A, and A's inputs arrive out of order. -/
def lateInputs : List (SessionOp ℚ) :=
  let walk (sequence : Nat) : MovementInput ℚ := ⟨sequence, false, false, false, true, 0, 0, false⟩
  let shoot : MovementInput ℚ := ⟨4, false, false, false, false, 1, 0, true⟩
  [.applyInput "A" (walk 2) (1 / 60), .applyInput "A" (walk 1) (1 / 60), .applyInput "B" shoot (1 / 60),
    .tick 1 (1 / 60), .applyInput "A" (walk 5) (1 / 60), .applyInput "A" (walk 3) (1 / 60)]

theorem stale_inputs_have_no_effect_lateInputs :
    let s := ((GameSession.new : GameSession ℚ).upsertPlayer "A").upsertPlayer "B"
    s.after lateInputs = s.after (withoutStale "A" 0 lateInputs) ∧
      (withoutStale "A" 0 lateInputs).length = 4 ∧ (s.after lateInputs).lastSequence? "A" = some 5 := by
  intro s
  have undisturbed : ∀ op ∈ lateInputs, ¬Disturbs "A" op := by
    simp [lateInputs, Disturbs]
  obtain ⟨same, last⟩ := stale_inputs_have_no_effect s "A" lateInputs undisturbed
  have present : s.lastSequence? "A" = some 0 := by decide +kernel
  rw [present] at same last
  exact ⟨same, by decide +kernel, last⟩

end GameSession

end Arena60
