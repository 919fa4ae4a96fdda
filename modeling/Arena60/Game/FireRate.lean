import Arena60.Game.Stretches
import Arena60.Misc.RealArith
import Mathlib.Algebra.Order.Floor.Ring

/-!
# The rate of fire

Between two shots of a player the clock of the session advances by the cooldown, whatever
inputs arrive, because a shot is refused until the clock is that far past the time of the
last one and that time is never taken back while the player stays.
-/

namespace Arena60

open Misc Misc.DoubleArith Misc.RealArith

/-- Numbers that are apart by a gap and lie in an interval are few. -/
theorem length_le_of_spaced {gap : ℝ} (positive : 0 < gap) (times : List ℝ) :
    ∀ {first last : ℝ}, first ≤ last → times.Pairwise (fun earlier later => earlier + gap ≤ later) →
      (∀ time ∈ times, first ≤ time ∧ time ≤ last) → times.length * gap ≤ last - first + gap := by
  induction times with
  | nil =>
      intro first last ordered _ _
      rw [List.length_nil, Nat.cast_zero, zero_mul]
      linarith
  | cons time times ih =>
      intro first last ordered spaced within
      obtain ⟨next, rest⟩ := List.pairwise_cons.mp spaced
      have here := within time List.mem_cons_self
      rw [List.length_cons, Nat.cast_succ]
      cases times with
      | nil =>
          rw [List.length_nil, Nat.cast_zero]
          linarith
      | cons second times =>
          have room : time + gap ≤ last :=
            le_trans (next second List.mem_cons_self)
              (within second (List.mem_cons_of_mem _ List.mem_cons_self)).2
          have later := ih room rest fun other member =>
            ⟨next other member, (within other (List.mem_cons_of_mem _ member)).2⟩
          linarith

theorem length_le_floor_of_spaced {gap : ℝ} (positive : 0 < gap) (times : List ℝ) {first last length : ℝ}
    (ordered : first ≤ last) (spaced : times.Pairwise fun earlier later => earlier + gap ≤ later)
    (within : ∀ time ∈ times, first ≤ time ∧ time ≤ last) (bound : last - first ≤ length) :
    (times.length : Int) ≤ ⌊length / gap⌋ + 1 := by
  have few := length_le_of_spaced positive times ordered spaced within
  rw [← sub_le_iff_le_add, Int.le_floor, le_div_iff₀ positive]
  push_cast
  linarith

namespace GameSession

section shots

variable {R : Type} [DoubleArith R]

/-- The projectiles an operation makes. -/
def madeBy (s : GameSession R) : SessionOp R → List (Projectile R)
  | .applyInput playerId input deltaSeconds =>
      (s.applyInput playerId input deltaSeconds).1.projectiles.drop s.projectiles.length
  | _ => []

/-- The projectiles of a player that some operations make, oldest first. -/
def shotsOf (s : GameSession R) (playerId : String) : List (SessionOp R) → List (Projectile R)
  | [] => []
  | op :: ops =>
      (s.madeBy op).filter (fun projectile => projectile.ownerId = playerId) ++
        (s.act op).shotsOf playerId ops

/-- A tick that does not turn the clock back, or another operation. -/
def Forward : SessionOp R → Prop
  | .tick _ deltaSeconds => lessEq (ofRat 0) deltaSeconds = true
  | _ => True

theorem shotsOf_concat (playerId : String) (ops : List (SessionOp R)) (op : SessionOp R) :
    ∀ s : GameSession R, s.shotsOf playerId (ops ++ [op]) = s.shotsOf playerId ops ++
      ((s.after ops).madeBy op).filter fun projectile => projectile.ownerId = playerId := by
  induction ops with
  | nil =>
      intro s
      rw [List.nil_append, shotsOf, shotsOf, shotsOf, List.append_nil]
      rfl
  | cons first ops ih =>
      intro s
      rw [List.cons_append, shotsOf, ih, shotsOf, List.append_assoc]
      rfl

/-- A projectile is made by an input of its owner, who is alive and whose gun has cooled down,
and at the time of the session. -/
theorem madeBy_fired {s : GameSession R} (filed : s.Filed) (playerId : String) (op : SessionOp R)
    {shots : List (Projectile R)}
    (made : (s.madeBy op).filter (fun projectile => projectile.ownerId = playerId) = shots) :
    shots = [] ∨ ∃ projectile runtime runtime', shots = [projectile] ∧
      s.players.find playerId = some runtime ∧ (s.act op).players.find playerId = some runtime' ∧
      runtime.state.isAlive = true ∧
      less (s.elapsedTime - runtime.lastFireTime) kFireCooldown = false ∧
      projectile.spawnTime = s.elapsedTime ∧ runtime'.lastFireTime = s.elapsedTime := by
  cases op with
  | applyInput other input deltaSeconds =>
      obtain ⟨effect, proper, applied⟩ := s.exists_applyInput_effect other input deltaSeconds
      have reached : s.act (.applyInput other input deltaSeconds) = effect.apply other s := applied
      have stored : s.madeBy (.applyInput other input deltaSeconds) =
          effect.made.map (Projectile.numbered s.projectileCounter) := by
        rw [madeBy, applied, InputEffect.apply, List.drop_left]
      rw [stored] at made
      cases all : effect.made with
      | nil =>
          left
          rw [← made, all]
          rfl
      | cons projectile others =>
          have alone : others = [] := by
            have single := proper.single
            rw [all, List.length_cons] at single
            exact List.eq_nil_of_length_eq_zero (by omega)
          obtain ⟨runtime, present, fired⟩ := proper.fired projectile (all ▸ List.mem_cons_self)
          have owner : projectile.ownerId = other :=
            fired.owner.trans ((receive_keeps _ _ _ _).1.trans (filed other runtime present))
          rw [all, alone, List.map_singleton, List.filter_singleton] at made
          by_cases mine : other = playerId
          · right
            subst mine
            refine ⟨projectile.numbered s.projectileCounter, runtime, effect.update runtime, ?_, present,
              ?_, (receive_keeps _ _ _ _).2.symm.trans fired.alive, fired.cooled, fired.spawnTime,
              fired.lastFireTime⟩
            · rw [← made, Projectile.numbered_ownerId, owner]
              simp
            · rw [reached]
              exact (UnorderedMap.find_adjust _ _ _ _).trans ((if_pos rfl).trans (by rw [present]; rfl))
          · left
            rw [← made, Projectile.numbered_ownerId, owner]
            simp [mine]
  | upsertPlayer other => exact Or.inl made.symm
  | removePlayer other => exact Or.inl made.symm
  | tick tick deltaSeconds => exact Or.inl made.symm
  | consumeDeathEvents => exact Or.inl made.symm
  | reorder order => exact Or.inl made.symm

end shots

/-- The shots of a player since a state it was not disturbed after. -/
structure Cooling (s : GameSession ℝ) (playerId : String) (shots : List (Projectile ℝ))
    (s' : GameSession ℝ) : Prop where
  clock : s.elapsedTime ≤ s'.elapsedTime
  spaced : shots.Pairwise fun earlier later => earlier.spawnTime + 1 / 10 ≤ later.spawnTime
  within : ∀ shot ∈ shots, s.elapsedTime ≤ shot.spawnTime ∧ shot.spawnTime ≤ s'.elapsedTime
  last : ∀ shot ∈ shots, ∃ runtime, s'.players.find playerId = some runtime ∧
    shot.spawnTime ≤ runtime.lastFireTime

theorem cooled_real {elapsed lastFireTime : ℝ}
    (cooled : less (elapsed - lastFireTime) (kFireCooldown : ℝ) = false) :
    lastFireTime + 1 / 10 ≤ elapsed := by
  have late : ¬elapsed - lastFireTime < ((1 / 10 : ℚ) : ℝ) := by
    rw [← less_real, Bool.not_eq_true]
    exact cooled
  push_cast at late
  linarith

theorem Forward.clock {s : GameSession ℝ} {op : SessionOp ℝ} (forward : Forward op) :
    s.elapsedTime ≤ (s.act op).elapsedTime := by
  rw [(act_clock s op).2]
  cases op with
  | tick tick deltaSeconds =>
      have nonneg : ((0 : ℚ) : ℝ) ≤ deltaSeconds := of_decide_eq_true forward
      push_cast at nonneg
      exact le_add_of_nonneg_right nonneg
  | upsertPlayer other => exact le_refl _
  | removePlayer other => exact le_refl _
  | applyInput other input deltaSeconds => exact le_refl _
  | consumeDeathEvents => exact le_refl _
  | reorder order => exact le_refl _

/-- The fire time of a player is not taken back. -/
theorem EntryStep.lastFireTime {s : GameSession ℝ} {playerId : String}
    {runtime runtime' : PlayerRuntimeState ℝ} {op : SessionOp ℝ}
    (step : EntryStep s playerId runtime runtime' op) :
    runtime'.lastFireTime = runtime.lastFireTime ∨ runtime'.lastFireTime = s.elapsedTime := by
  cases op with
  | applyInput other input deltaSeconds =>
      unfold EntryStep at step
      dsimp only at step
      split_ifs at step
      · exact step.lastFireTime
      · rw [step]
        exact Or.inl rfl
  | tick tick deltaSeconds => exact Or.inl (Fought.lastFireTime step)
  | upsertPlayer other => exact Or.inl (congrArg _ step)
  | removePlayer other => exact Or.inl (congrArg _ step)
  | consumeDeathEvents => exact Or.inl (congrArg _ step)
  | reorder order => exact Or.inl (congrArg _ step)

theorem Cooling.step {s s' : GameSession ℝ} {playerId : String} {shots : List (Projectile ℝ)}
    (cooling : Cooling s playerId shots s') (filed : s'.Filed) {op : SessionOp ℝ}
    (forward : Forward op) (undisturbed : ¬Disturbs playerId op) :
    Cooling s playerId
      (shots ++ (s'.madeBy op).filter fun projectile => projectile.ownerId = playerId) (s'.act op) := by
  have clock : s'.elapsedTime ≤ (s'.act op).elapsedTime := forward.clock
  have old : ∀ shot ∈ shots, s.elapsedTime ≤ shot.spawnTime ∧
      shot.spawnTime ≤ (s'.act op).elapsedTime := fun shot member =>
    ⟨(cooling.within shot member).1, le_trans (cooling.within shot member).2 clock⟩
  have kept : ∀ shot ∈ shots, ∃ runtime, (s'.act op).players.find playerId = some runtime ∧
      shot.spawnTime ≤ runtime.lastFireTime := by
    intro shot member
    obtain ⟨runtime, present, earlier⟩ := cooling.last shot member
    obtain ⟨runtime', present', step⟩ := act_entry s' undisturbed present
    refine ⟨runtime', present', ?_⟩
    cases step.lastFireTime with
    | inl same => rw [same]; exact earlier
    | inr now => rw [now]; exact (cooling.within shot member).2
  rcases madeBy_fired filed playerId op rfl with none | made
  · rw [none, List.append_nil]
    exact ⟨le_trans cooling.clock clock, cooling.spaced, old, kept⟩
  · obtain ⟨projectile, runtime, runtime', single, present, present', _, cooled, spawned, last⟩ := made
    rw [single]
    -- the gun had cooled down since every earlier shot
    have apart : ∀ shot ∈ shots, shot.spawnTime + 1 / 10 ≤ projectile.spawnTime := by
      intro shot member
      obtain ⟨stored, found, earlier⟩ := cooling.last shot member
      rw [present] at found
      cases found
      have late := cooled_real cooled
      rw [spawned]
      linarith
    have newest : ∀ shot ∈ shots ++ [projectile], shot ∈ shots ∨ shot = projectile := by
      intro shot member
      rw [List.mem_append, List.mem_singleton] at member
      exact member
    refine ⟨le_trans cooling.clock clock, ?_, ?_, ?_⟩
    · rw [List.pairwise_append]
      refine ⟨cooling.spaced, List.pairwise_singleton _ _, ?_⟩
      intro shot member later new
      rw [List.mem_singleton.mp new]
      exact apart shot member
    · intro shot member
      cases newest shot member with
      | inl before => exact old shot before
      | inr new =>
          rw [new, spawned]
          exact ⟨cooling.clock, clock⟩
    · intro shot member
      cases newest shot member with
      | inl before => exact kept shot before
      | inr new =>
          refine ⟨runtime', present', ?_⟩
          rw [new, spawned, last]

theorem cooling_after (before ops : List (SessionOp ℝ)) {playerId : String}
    (forward : ∀ op ∈ ops, Forward op) (undisturbed : ∀ op ∈ ops, ¬Disturbs playerId op) :
    Cooling ((new : GameSession ℝ).after before) playerId
      (((new : GameSession ℝ).after before).shotsOf playerId ops)
      (((new : GameSession ℝ).after before).after ops) := by
  induction ops using List.reverseRecOn with
  | nil => exact ⟨le_refl _, List.Pairwise.nil, nofun, nofun⟩
  | append_singleton ops op ih =>
      have here : op ∈ ops ++ [op] := List.mem_append_right ops List.mem_cons_self
      have cooling := ih (fun other member => forward other (List.mem_append_left [op] member))
        (fun other member => undisturbed other (List.mem_append_left [op] member))
      have filed : (((new : GameSession ℝ).after before).after ops).Filed := by
        rw [← after_append]
        obtain ⟨trace, run⟩ := runs_after (R := ℝ) (before ++ ops)
        exact Runs.filed run
      rw [shotsOf_concat, after_append]
      exact cooling.step filed (forward op here) (undisturbed op here)

/-- However inputs and ticks are mixed, the shots of a player that is neither inserted nor
removed in between are at least a cooldown apart, so that there are few of them in any
length of session time; a dead player makes none. -/
theorem fireRate_limited (before ops : List (SessionOp ℝ)) (playerId : String)
    (forward : ∀ op ∈ ops, Forward op) (undisturbed : ∀ op ∈ ops, ¬Disturbs playerId op) :
    let s := (new : GameSession ℝ).after before
    let shots := s.shotsOf playerId ops
    (shots.Pairwise fun earlier later => earlier.spawnTime + 1 / 10 ≤ later.spawnTime) ∧
    (∀ length : ℝ, (s.after ops).elapsedTime - s.elapsedTime ≤ length →
      (shots.length : Int) ≤ ⌊length / (1 / 10)⌋ + 1) ∧
    ∀ runtime, s.players.find playerId = some runtime → runtime.state.isAlive = false →
      ∀ op, s.shotsOf playerId [op] = [] := by
  intro s shots
  have cooling : Cooling s playerId shots (s.after ops) := cooling_after before ops forward undisturbed
  refine ⟨cooling.spaced, ?_, ?_⟩
  · intro length bound
    have cooldown : (0 : ℝ) < 1 / 10 := by norm_num
    have within : ∀ time ∈ shots.map Projectile.spawnTime,
        s.elapsedTime ≤ time ∧ time ≤ (s.after ops).elapsedTime := by
      intro time member
      obtain ⟨shot, listed, rfl⟩ := List.mem_map.mp member
      exact cooling.within shot listed
    have few := length_le_floor_of_spaced cooldown (shots.map Projectile.spawnTime) cooling.clock
      (List.pairwise_map.mpr cooling.spaced) within bound
    rwa [List.length_map] at few
  · intro runtime present dead op
    obtain ⟨trace, run⟩ := runs_after (R := ℝ) before
    rw [shotsOf, shotsOf, List.append_nil]
    rcases madeBy_fired (Runs.filed run) playerId op rfl with none | made
    · exact none
    · obtain ⟨_, stored, _, _, found, _, alive, _⟩ := made
      rw [present] at found
      cases found
      rw [dead] at alive
      cases alive

theorem fireRate_limited_twoInputs :
    let fire : MovementInput ℝ := ⟨1, false, false, false, false, 1, 0, true⟩
    let shots := ((new : GameSession ℝ).after [.upsertPlayer "A"]).shotsOf "A"
      [.applyInput "A" fire (1 / 60), .tick 1 (1 / 10), .applyInput "A" fire (1 / 60)]
    (shots.Pairwise fun earlier later => earlier.spawnTime + 1 / 10 ≤ later.spawnTime) ∧
      shots.length ≤ 2 := by
  intro fire shots
  let ops : List (SessionOp ℝ) :=
    [.applyInput "A" fire (1 / 60), .tick 1 (1 / 10), .applyInput "A" fire (1 / 60)]
  have tick : lessEq (ofRat 0 : ℝ) (1 / 10) = true := by
    refine decide_eq_true ?_
    rw [ofRat_real]
    norm_num
  have forward : ∀ op ∈ ops, Forward op := by
    intro op member
    simp only [ops, List.mem_cons, List.not_mem_nil, or_false] at member
    rcases member with rfl | rfl | rfl
    · trivial
    · exact tick
    · trivial
  have undisturbed : ∀ op ∈ ops, ¬Disturbs "A" op := by
    intro op member
    simp only [ops, List.mem_cons, List.not_mem_nil, or_false] at member
    rcases member with rfl | rfl | rfl <;> exact id
  obtain ⟨spaced, few, _⟩ := fireRate_limited [.upsertPlayer "A"] ops "A" forward undisturbed
  refine ⟨spaced, ?_⟩
  have clock : ∀ s : GameSession ℝ, (s.after ops).elapsedTime - s.elapsedTime ≤ 1 / 10 := by
    intro s
    show (((s.act (.applyInput "A" fire (1 / 60))).act (.tick 1 (1 / 10))).act
      (.applyInput "A" fire (1 / 60))).elapsedTime - _ ≤ _
    rw [(act_clock _ _).2, (act_clock _ _).2, (act_clock _ _).2]
    show s.elapsedTime + 1 / 10 - s.elapsedTime ≤ 1 / 10
    rw [add_sub_cancel_left]
  have bound := few (1 / 10) (clock _)
  norm_num at bound
  exact bound

end GameSession

end Arena60
