import Arena60.Game.FireRate
import Arena60.Game.Flights
import Arena60.Game.SpeedLimit

/-!
# A straight shot at a standing target

A projectile is tested against the players at the places where the ticks leave it. In exact
arithmetic a shot along the x axis at a target within range hits it once, unless its first step
carries it past the target or the target has died of other projectiles when it arrives.
-/

namespace Arena60

open Misc Misc.DoubleArith Misc.RealArith

/-- The steps of time in which a distance is flown. -/
noncomputable def flightTo (distance : ℝ) : List ℝ → List ℝ
  | [] => []
  | deltaSeconds :: later =>
      if distance ≤ 30 * deltaSeconds then [deltaSeconds]
      else deltaSeconds :: flightTo (distance - 30 * deltaSeconds) later

namespace GameSession

theorem kSpeed_real : (kSpeed : ℝ) = 30 := by
  rw [kSpeed, ofRat_real]
  norm_num

theorem kLifetime_real : (kLifetime : ℝ) = 3 / 2 := by
  rw [kLifetime, ofRat_real]
  norm_num

theorem radiusSum_real : (kRadius + kPlayerRadius : ℝ) = 7 / 10 := by
  rw [kRadius, kPlayerRadius, ofRat_real, ofRat_real]
  norm_num

theorem kSpawnOffset_real : (kSpawnOffset : ℝ) = 3 / 10 := by
  rw [kSpawnOffset, ofRat_real]
  norm_num

/-- A projectile that flies along the x axis, a gap before a target and some time after it was made. -/
structure Straight (target : PlayerState ℝ) (elapsedTime gap age : ℝ) (projectile : Projectile ℝ) : Prop where
  active : projectile.active = true
  x : projectile.x = target.x - gap
  y : projectile.y = target.y
  dirX : projectile.dirX = 1
  dirY : projectile.dirY = 0
  spawnTime : projectile.spawnTime = elapsedTime - age

theorem Straight.advance {target : PlayerState ℝ} {elapsedTime gap age : ℝ} {projectile : Projectile ℝ}
    (straight : Straight target elapsedTime gap age projectile) (deltaSeconds : ℝ) :
    projectile.advance deltaSeconds =
      { projectile with
        x := projectile.x + projectile.dirX * kSpeed * deltaSeconds
        y := projectile.y + projectile.dirY * kSpeed * deltaSeconds } := by
  rw [Projectile.advance, straight.active]
  rfl

theorem Straight.isExpired_iff {target : PlayerState ℝ} {elapsedTime gap age : ℝ} {projectile : Projectile ℝ}
    (straight : Straight target elapsedTime gap age projectile) (deltaSeconds : ℝ) :
    (projectile.advance deltaSeconds).isExpired (elapsedTime + deltaSeconds) = true ↔
      3 / 2 ≤ age + deltaSeconds := by
  rw [straight.advance, Projectile.isExpired, straight.active]
  show decide (kLifetime ≤ elapsedTime + deltaSeconds - projectile.spawnTime) = true ↔ _
  rw [decide_eq_true_iff, kLifetime_real, straight.spawnTime]
  constructor <;> intro old <;> linarith

/-- One step of a straight flight. -/
theorem Straight.step {target : PlayerState ℝ} {elapsedTime gap age : ℝ} {projectile : Projectile ℝ}
    (straight : Straight target elapsedTime gap age projectile) {deltaSeconds : ℝ}
    (young : age + deltaSeconds < 3 / 2) :
    Straight target (elapsedTime + deltaSeconds) (gap - 30 * deltaSeconds) (age + deltaSeconds)
      (moveProjectile (elapsedTime + deltaSeconds) deltaSeconds projectile) := by
  have fresh : ¬(projectile.advance deltaSeconds).isExpired (elapsedTime + deltaSeconds) = true := by
    rw [straight.isExpired_iff]
    exact not_le.mpr young
  rw [moveProjectile, if_neg fresh, straight.advance]
  constructor
  · exact straight.active
  · show projectile.x + projectile.dirX * kSpeed * deltaSeconds = _
    rw [straight.x, straight.dirX, kSpeed_real]
    ring
  · show projectile.y + projectile.dirY * kSpeed * deltaSeconds = _
    rw [straight.y, straight.dirY]
    ring
  · exact straight.dirX
  · exact straight.dirY
  · show projectile.spawnTime = _
    rw [straight.spawnTime]
    ring

/-- A flight ends with the life of the projectile. -/
theorem Straight.expired {target : PlayerState ℝ} {elapsedTime gap age : ℝ} {projectile : Projectile ℝ}
    (straight : Straight target elapsedTime gap age projectile) {deltaSeconds : ℝ}
    (old : 3 / 2 ≤ age + deltaSeconds) :
    (moveProjectile (elapsedTime + deltaSeconds) deltaSeconds projectile).active = false := by
  rw [moveProjectile, if_pos ((straight.isExpired_iff deltaSeconds).mpr old)]
  rfl

/-- A straight flight touches the target when the gap is within the radii. -/
theorem Straight.touches_iff {target : PlayerState ℝ} {elapsedTime gap age : ℝ} {projectile : Projectile ℝ}
    (straight : Straight target elapsedTime gap age projectile) :
    touches projectile target = true ↔ |gap| ≤ 7 / 10 := by
  have dx : projectile.x - target.x = -gap := by
    rw [straight.x]
    ring
  have dy : projectile.y - target.y = 0 := by
    rw [straight.y, sub_self]
  unfold touches
  dsimp only
  rw [dx, dy, radiusSum_real]
  have outside : (less (7 / 10 : ℝ) (DoubleArith.abs (-gap)) || less (7 / 10 : ℝ) (DoubleArith.abs 0)) = true ↔
      7 / 10 < |gap| := by
    rw [Bool.or_eq_true, less_real, less_real]
    show 7 / 10 < |-gap| ∨ 7 / 10 < |(0 : ℝ)| ↔ _
    rw [abs_neg, abs_zero]
    norm_num
  by_cases far : 7 / 10 < |gap|
  · rw [if_pos (outside.mpr far)]
    simp [far]
  · rw [if_neg (mt outside.mp far)]
    show decide (-gap * -gap + 0 * 0 ≤ 7 / 10 * (7 / 10)) = true ↔ _
    rw [decide_eq_true_iff]
    have near := not_lt.mp far
    have square : gap * gap = |gap| * |gap| := (abs_mul_abs_self gap).symm
    have small : |gap| * |gap| ≤ 7 / 10 * (7 / 10) := mul_le_mul near near (abs_nonneg gap) (by norm_num)
    constructor
    · intro _
      exact near
    · intro _
      linarith

/-- A projectile that is past the target touches it no more. -/
theorem approach_past {target : PlayerState ℝ} (deltas : List ℝ) :
    ∀ {elapsedTime gap age : ℝ} {projectile : Projectile ℝ},
      Straight target elapsedTime gap age projectile → gap < -(7 / 10) →
      (∀ deltaSeconds ∈ deltas, 0 < deltaSeconds) →
      approach target elapsedTime deltas projectile = none := by
  induction deltas with
  | nil =>
      intro elapsedTime gap age projectile _ _ _
      rfl
  | cons deltaSeconds later ih =>
      intro elapsedTime gap age projectile straight past positive
      obtain ⟨forward, others⟩ := List.forall_mem_cons.mp positive
      rw [approach]
      by_cases young : age + deltaSeconds < 3 / 2
      · have next := straight.step young
        have missed :
            touches (moveProjectile (elapsedTime + deltaSeconds) deltaSeconds projectile) target = false := by
          rw [Bool.eq_false_iff]
          intro touched
          have near := abs_le.mp (next.touches_iff.mp touched)
          linarith [near.1]
        rw [missed, Bool.and_false, if_neg Bool.false_ne_true, ih next (by linarith) others]
        rfl
      · have spent := straight.expired (not_lt.mp young)
        rw [spent, Bool.false_and, if_neg Bool.false_ne_true, approach_inactive target later _ spent]
        rfl

/-- A projectile that its first step carries past the target never touches it. -/
theorem approach_passes {target : PlayerState ℝ} (deltas : List ℝ) {elapsedTime gap : ℝ}
    {projectile : Projectile ℝ} (straight : Straight target elapsedTime gap 0 projectile)
    (paced : ∀ deltaSeconds ∈ deltas, 0 < deltaSeconds ∧ deltaSeconds ≤ 1 / 30)
    (far : ¬∀ first ∈ deltas.head?, -(7 / 10) ≤ gap - 30 * first) :
    approach target elapsedTime deltas projectile = none := by
  cases deltas with
  | nil => rfl
  | cons deltaSeconds later =>
      obtain ⟨pace, others⟩ := List.forall_mem_cons.mp paced
      have passed : gap - 30 * deltaSeconds < -(7 / 10) := by
        rw [← not_le]
        intro within
        apply far
        intro first head
        cases head
        exact within
      have young : 0 + deltaSeconds < 3 / 2 := by linarith
      have next := straight.step young
      have missed :
          touches (moveProjectile (elapsedTime + deltaSeconds) deltaSeconds projectile) target = false := by
        rw [Bool.eq_false_iff]
        intro touched
        linarith [(abs_le.mp (next.touches_iff.mp touched)).1]
      rw [approach, missed, Bool.and_false, if_neg Bool.false_ne_true,
        approach_past later next passed fun other member => (others other member).1]
      rfl

/-- A projectile that is not carried past the target arrives. -/
theorem approach_arrives {target : PlayerState ℝ} (deltas : List ℝ) :
    ∀ {elapsedTime gap age : ℝ} {projectile : Projectile ℝ},
      Straight target elapsedTime gap age projectile → gap + 30 * age ≤ 437 / 10 →
      (∀ deltaSeconds ∈ deltas, 0 < deltaSeconds ∧ deltaSeconds ≤ 1 / 30) →
      (∀ first ∈ deltas.head?, -(7 / 10) ≤ gap - 30 * first) → deltas ≠ [] →
      gap - 7 / 10 ≤ 30 * deltas.sum →
      approach target elapsedTime deltas projectile = some (flightTo (gap - 7 / 10) deltas) := by
  induction deltas with
  | nil =>
      intro elapsedTime gap age projectile _ _ _ _ some _
      exact absurd rfl some
  | cons deltaSeconds later ih =>
      intro elapsedTime gap age projectile straight inRange paced short _ long
      obtain ⟨pace, others⟩ := List.forall_mem_cons.mp paced
      have first := short deltaSeconds rfl
      -- a projectile that has not yet passed the target has not yet expired
      have young : age + deltaSeconds < 3 / 2 := by linarith
      have next := straight.step young
      rw [approach, next.active, Bool.true_and, flightTo]
      by_cases arrived : gap - 7 / 10 ≤ 30 * deltaSeconds
      · have touched :
            touches (moveProjectile (elapsedTime + deltaSeconds) deltaSeconds projectile) target = true := by
          rw [next.touches_iff, abs_le]
          constructor <;> linarith
        rw [touched, if_pos rfl, if_pos arrived]
      · have missed :
            touches (moveProjectile (elapsedTime + deltaSeconds) deltaSeconds projectile) target = false := by
          rw [Bool.eq_false_iff]
          intro touched
          have near := abs_le.mp (next.touches_iff.mp touched)
          exact arrived (by linarith [near.2])
        rw [missed, if_neg Bool.false_ne_true, if_neg arrived]
        have left : gap - 30 * deltaSeconds - 7 / 10 ≤ 30 * later.sum := by
          rw [List.sum_cons] at long
          linarith
        have more : later ≠ [] := by
          intro none
          rw [none, List.sum_nil] at left
          exact arrived (by linarith)
        have within : ∀ first ∈ later.head?, -(7 / 10) ≤ gap - 30 * deltaSeconds - 30 * first := by
          intro second head
          have pace' := (others second (List.mem_of_mem_head? head)).2
          linarith [not_le.mp arrived]
        rw [ih next (by linarith) others within more left]
        rw [sub_right_comm]
        rfl

/-! ## The shot -/

/-- A projectile as `TrySpawnProjectile` makes it for a player. -/
structure Built (s : GameSession ℝ) (state : PlayerState ℝ) (input : MovementInput ℝ)
    (projectile : Projectile ℝ) : Prop where
  built : ∃ id, Projectile.new id state.playerId
    (state.x + input.mouseX / sqrt (input.mouseX * input.mouseX + input.mouseY * input.mouseY) * kSpawnOffset)
    (state.y + input.mouseY / sqrt (input.mouseX * input.mouseX + input.mouseY * input.mouseY) * kSpawnOffset)
    (input.mouseX / sqrt (input.mouseX * input.mouseX + input.mouseY * input.mouseY))
    (input.mouseY / sqrt (input.mouseX * input.mouseX + input.mouseY * input.mouseY)) s.elapsedTime = .ok projectile

theorem trySpawnProjectile_built {s : GameSession ℝ} {runtime : PlayerRuntimeState ℝ} {input : MovementInput ℝ}
    {projectile : Projectile ℝ}
    (made : (s.trySpawnProjectile runtime input).1.projectiles = s.projectiles ++ [projectile]) :
    Built s runtime.state input projectile := by
  have nothing : s.projectiles ≠ s.projectiles ++ [projectile] := by
    simp
  unfold trySpawnProjectile at made
  split at made
  · exact absurd made nothing
  · dsimp only at made
    split at made
    · exact absurd made nothing
    · split at made
      · exact absurd made nothing
      · split at made
        · exact absurd made nothing
        · next other built =>
            have same : other = projectile := by
              simpa using made
            rw [same] at built
            exact ⟨_, built⟩

theorem applyInput_built {s : GameSession ℝ} {playerId : String} {input : MovementInput ℝ} {deltaSeconds : ℝ}
    {projectile : Projectile ℝ}
    (made : (s.applyInput playerId input deltaSeconds).1.projectiles = s.projectiles ++ [projectile])
    {runtime : PlayerRuntimeState ℝ} (present : s.players.find playerId = some runtime) :
    Built s (receive s.speedPerSecond input deltaSeconds runtime.state) input projectile := by
  have nothing : s.projectiles ≠ s.projectiles ++ [projectile] := by
    simp
  rw [applyInput, present] at made
  dsimp only at made
  rw [receive]
  split at made
  · exact absurd made nothing
  · next fresh =>
      rw [if_neg fresh]
      exact trySpawnProjectile_built made

/-- A shot along the x axis. -/
theorem Built.straight {s : GameSession ℝ} {state : PlayerState ℝ} {input : MovementInput ℝ}
    {projectile : Projectile ℝ} (built : Built s state input projectile) (aimX : 0 < input.mouseX)
    (aimY : input.mouseY = 0)
    {target : PlayerState ℝ} {distance : ℝ} (x : target.x = state.x + distance) (y : target.y = state.y) :
    Straight target s.elapsedTime (distance - 3 / 10) 0 projectile := by
  obtain ⟨id, built⟩ := built
  have magnitude : (sqrt (input.mouseX * input.mouseX + input.mouseY * input.mouseY) : ℝ) = input.mouseX := by
    rw [aimY, mul_zero, add_zero]
    exact Real.sqrt_mul_self aimX.le
  have unit : (sqrt (1 * 1 + 0 * 0) : ℝ) = 1 := by
    show Real.sqrt _ = 1
    norm_num
  rw [magnitude, aimY, div_self aimX.ne', zero_div, kSpawnOffset_real, Projectile.new, unit] at built
  split at built
  · cases built
  · cases built
    constructor
    · rfl
    · show state.x + 1 * (3 / 10) = _
      rw [x]
      ring
    · show state.y + 0 * (3 / 10) = _
      rw [y]
      ring
    · exact div_one 1
    · exact zero_div 1
    · exact (sub_zero _).symm

/-- A session in which a shot along the x axis has just been made. -/
structure JustFired (shooter target : String) (earlier s : GameSession ℝ) (distance : ℝ)
    (theirs : PlayerState ℝ) (projectile : Projectile ℝ) : Prop where
  standoff : Standoff shooter target s
  stored : s.projectiles = earlier.projectiles ++ [projectile]
  owner : projectile.ownerId = shooter
  straight : Straight theirs s.elapsedTime (distance - 3 / 10) 0 projectile

section shot

variable {before : List (SessionOp ℝ)} {shooter target : String} {input : MovementInput ℝ} {deltaSeconds : ℝ}
  {projectile : Projectile ℝ} {mine theirs : PlayerRuntimeState ℝ} {distance : ℝ}

theorem justFired (differ : shooter ≠ target)
    (two : ∀ playerId, ((new : GameSession ℝ).after before).players.contains playerId = true ↔
      playerId = shooter ∨ playerId = target)
    (made : ((new : GameSession ℝ).after before).madeBy (.applyInput shooter input deltaSeconds) = [projectile])
    (aimX : 0 < input.mouseX) (aimY : input.mouseY = 0)
    (stands : (((new : GameSession ℝ).after before).act
      (.applyInput shooter input deltaSeconds)).players.find shooter = some mine)
    (x : theirs.state.x = mine.state.x + distance) (y : theirs.state.y = mine.state.y) :
    JustFired shooter target ((new : GameSession ℝ).after before)
      (((new : GameSession ℝ).after before).act (.applyInput shooter input deltaSeconds)) distance theirs.state
      projectile := by
  obtain ⟨trace, run⟩ := runs_after (R := ℝ) before
  obtain ⟨trace', run'⟩ := runs_after (R := ℝ) (before ++ [.applyInput shooter input deltaSeconds])
  rw [after_append] at run'
  generalize (new : GameSession ℝ).after before = earlier at *
  obtain ⟨effect, proper, applied⟩ := earlier.exists_applyInput_effect shooter input deltaSeconds
  have after : earlier.act (.applyInput shooter input deltaSeconds) = effect.apply shooter earlier := applied
  have stored : (earlier.act (.applyInput shooter input deltaSeconds)).projectiles =
      earlier.projectiles ++ [projectile] := by
    rw [← made, madeBy, applied, after, InputEffect.apply, List.drop_left]
  -- the shooter's entry before and after the input
  obtain ⟨runtime, present⟩ : ∃ runtime, earlier.players.find shooter = some runtime := by
    rw [← Option.isSome_iff_exists]
    exact (two shooter).mpr (Or.inl rfl)
  have updated : effect.update runtime = mine := by
    have found : (effect.apply shooter earlier).players.find shooter = some (effect.update runtime) :=
      (UnorderedMap.find_adjust _ _ _ _).trans ((if_pos rfl).trans (by rw [present]; rfl))
    rw [← after, stands] at found
    cases found
    rfl
  obtain ⟨shotsFired, state⟩ := (proper.update runtime present).state
  rw [updated] at state
  rw [state] at x y
  have built : Built earlier (receive earlier.speedPerSecond input deltaSeconds runtime.state) input projectile :=
    applyInput_built stored present
  constructor
  · refine Runs.standoff run' differ ?_
    intro playerId
    rw [← two]
    exact Bool.eq_iff_iff.mp
      (UnorderedMap.contains_congr (applyInput_keys earlier shooter input deltaSeconds) playerId)
  · exact stored
  · obtain ⟨id, built⟩ := built.built
    rw [(Projectile.new_spec built).2.1, (receive_keeps _ _ _ _).1]
    exact Runs.filed run shooter runtime present
  · rw [after]
    exact built.straight aimX aimY x y

/-- What a shot comes to. -/
theorem JustFired.hits {earlier s : GameSession ℝ} {theirs : PlayerRuntimeState ℝ}
    (fired : JustFired shooter target earlier s distance theirs.state projectile)
    (stands : s.players.find target = some theirs) (inRange : distance ≤ 44)
    {ticks : List (Nat × ℝ)} (paced : ∀ step ∈ ticks, 0 < step.2 ∧ step.2 ≤ 1 / 30)
    (long : 3 / 2 ≤ (ticks.map Prod.snd).sum) :
    (tickAll ticks s).2.countP (isHitWith shooter target projectile.id) = 1 ↔
      (∀ first ∈ (ticks.map Prod.snd).head?, 30 * first ≤ distance + 2 / 5) ∧
        isAliveAfter (reachCount s.elapsedTime (flightTo (distance - 1) (ticks.map Prod.snd)) theirs
          earlier.projectiles) theirs = true := by
  have steps : ∀ delta ∈ ticks.map Prod.snd, 0 < delta ∧ delta ≤ 1 / 30 := by
    intro delta member
    obtain ⟨step, listed, rfl⟩ := List.mem_map.mp member
    exact paced step listed
  rw [fired.standoff.hits_eq ticks fired.stored fired.owner stands]
  generalize ticks.map Prod.snd = deltas at *
  by_cases short : ∀ first ∈ deltas.head?, 30 * first ≤ distance + 2 / 5
  · have more : deltas ≠ [] := by
      intro none
      rw [none, List.sum_nil] at long
      norm_num at long
    have arrives := approach_arrives deltas fired.straight (by linarith) steps
      (fun first head => by linarith [short first head]) more (by linarith)
    rw [sub_sub, show (3 / 10 + 7 / 10 : ℝ) = 1 by norm_num] at arrives
    rw [arrives, Option.any_some, Bool.toNat_eq_one]
    constructor
    · intro alive
      exact ⟨short, alive⟩
    · intro both
      exact both.2
  · have passes : approach theirs.state s.elapsedTime deltas projectile = none :=
      approach_passes deltas fired.straight steps fun within => short fun first head => by
        linarith [within first head]
    rw [passes]
    constructor
    · intro hit
      cases hit
    · intro both
      exact absurd both.1 short

/-- The target is alive when it is shot at, so that the hits it survives are counted by its health. -/
theorem isAliveAfter_iff {s : GameSession ℝ} {trace : List SessionItem} (run : Runs trace s)
    (stands : s.players.find target = some theirs) (alive : theirs.state.isAlive = true) (hits : Nat) :
    isAliveAfter hits theirs = true ↔ kDamagePerHit * hits < theirs.health.current := by
  have account := MoveRuns.accounts (Runs.byMoves run).1 target theirs stands
  have few := account.alive
  rw [alive, eq_comm, decide_eq_true_iff] at few
  rw [isAliveAfter, alive, Bool.true_and, Bool.or_eq_true, beq_iff_eq, decide_eq_true_iff, account.health]
  unfold kDamagePerHit
  omega

/-- A shot along the x axis at the other of two players, who stands within range, hits once unless the first
tick carries it past the target or the projectiles that were in flight before kill the target by the time
the shot has flown to it. -/
theorem straightShot_hits_iff (before : List (SessionOp ℝ)) (differ : shooter ≠ target)
    (two : ∀ playerId, ((new : GameSession ℝ).after before).players.contains playerId = true ↔
      playerId = shooter ∨ playerId = target)
    (made : ((new : GameSession ℝ).after before).madeBy (.applyInput shooter input deltaSeconds) = [projectile])
    (aimX : 0 < input.mouseX) (aimY : input.mouseY = 0)
    (stands : (((new : GameSession ℝ).after before).act
      (.applyInput shooter input deltaSeconds)).players.find shooter = some mine)
    (stands' : (((new : GameSession ℝ).after before).act
      (.applyInput shooter input deltaSeconds)).players.find target = some theirs)
    (alive : theirs.state.isAlive = true)
    (x : theirs.state.x = mine.state.x + distance) (y : theirs.state.y = mine.state.y) (inRange : distance ≤ 44)
    {ticks : List (Nat × ℝ)} (paced : ∀ step ∈ ticks, 0 < step.2 ∧ step.2 ≤ 1 / 30)
    (long : 3 / 2 ≤ (ticks.map Prod.snd).sum) :
    let s := ((new : GameSession ℝ).after before).act (.applyInput shooter input deltaSeconds)
    (tickAll ticks s).2.countP (isHitWith shooter target projectile.id) = 1 ↔
      (∀ first ∈ (ticks.map Prod.snd).head?, 30 * first ≤ distance + 2 / 5) ∧
        kDamagePerHit * reachCount s.elapsedTime (flightTo (distance - 1) (ticks.map Prod.snd)) theirs
          ((new : GameSession ℝ).after before).projectiles < theirs.health.current := by
  intro s
  have fired := justFired differ two made aimX aimY stands x y
  obtain ⟨trace, run⟩ := runs_after (R := ℝ) (before ++ [.applyInput shooter input deltaSeconds])
  rw [after_append] at run
  rw [fired.hits stands' inRange paced long, isAliveAfter_iff run stands' alive]

end shot

/-! ## A shot at a player that has walked away -/

/-- One shot along the x axis. -/
def shotRight : MovementInput ℝ := ⟨1, false, false, false, false, 1, 0, true⟩

/-- Two players enter and one of them walks along the x axis. -/
def walkAway (deltaSeconds : ℝ) : List (SessionOp ℝ) :=
  [.upsertPlayer "A", .upsertPlayer "B", .applyInput "B" (frameRight 1) deltaSeconds]

/-- The entry of a player that has just entered. -/
theorem entered_at (playerId : String) :
    (PlayerRuntimeState.enter playerId .default : PlayerRuntimeState ℝ).state.x = 0 ∧
    (PlayerRuntimeState.enter playerId .default : PlayerRuntimeState ℝ).state.y = 0 := by
  have zero : (ofRat 0 : ℝ) = 0 := by
    rw [ofRat_real, Rat.cast_zero]
  exact ⟨zero, zero⟩

theorem trySpawnProjectile_shotRight (s : GameSession ℝ) (runtime : PlayerRuntimeState ℝ)
    (alive : runtime.state.isAlive = true)
    (cooled : less (s.elapsedTime - runtime.lastFireTime) kFireCooldown = false) :
    ∃ projectile, (s.trySpawnProjectile runtime shotRight).1.projectiles = s.projectiles ++ [projectile] ∧
      (s.trySpawnProjectile runtime shotRight).2.2 = .ok true := by
  have unit : (sqrt (1 * 1 + 0 * 0) : ℝ) = 1 := by
    show Real.sqrt _ = 1
    norm_num
  have long : ∀ bound : ℚ, bound ≤ 1 → less (1 : ℝ) (ofRat bound) = false := by
    intro bound small
    rw [Bool.eq_false_iff]
    intro short
    rw [less_real, ofRat_real] at short
    have small : (bound : ℝ) ≤ 1 := by exact_mod_cast small
    linarith
  have made : ∀ id ownerId (x y time : ℝ), ∃ projectile, Projectile.new id ownerId x y (1 / 1) (0 / 1) time =
      .ok projectile := by
    intro id ownerId x y time
    have nonzero : less (1 : ℝ) kEpsilon = false := long _ (by norm_num)
    rw [div_one, zero_div, Projectile.new, unit, nonzero]
    exact ⟨_, rfl⟩
  unfold trySpawnProjectile
  rw [alive]
  dsimp only [shotRight]
  rw [unit, kMinAim, long _ (by norm_num), cooled]
  obtain ⟨projectile, built⟩ := made ("projectile-" ++ toString (s.projectileCounter + 1)) runtime.state.playerId
    (runtime.state.x + 1 / 1 * kSpawnOffset) (runtime.state.y + 0 / 1 * kSpawnOffset) s.elapsedTime
  simp only [Bool.not_true, Bool.or_self, Bool.false_eq_true, if_false, built]
  exact ⟨projectile, rfl, trivial⟩

/-- Whoever may shoot has one projectile more, and the call returns. -/
theorem applyInput_shotRight {s : GameSession ℝ} {playerId : String} {runtime : PlayerRuntimeState ℝ}
    (present : s.players.find playerId = some runtime) (alive : runtime.state.isAlive = true)
    (fresh : ¬shotRight.sequence < runtime.state.lastSequence)
    (cooled : less (s.elapsedTime - runtime.lastFireTime) kFireCooldown = false) (deltaSeconds : ℝ) :
    ∃ projectile, (s.applyInput playerId shotRight deltaSeconds).1.projectiles = s.projectiles ++ [projectile] ∧
      (s.applyInput playerId shotRight deltaSeconds).2 = .ok () := by
  let state := receive s.speedPerSecond shotRight deltaSeconds runtime.state
  have alive' : state.isAlive = true := (receive_keeps _ _ _ _).2.trans alive
  obtain ⟨projectile, made, returned⟩ := trySpawnProjectile_shotRight s { runtime with state } alive' cooled
  have call : s.applyInput playerId shotRight deltaSeconds =
      let (s, runtime, result) := s.trySpawnProjectile { runtime with state } shotRight
      ({ s with players := s.players.adjust playerId fun _ => runtime }, result.map fun _ => ()) := by
    rw [applyInput, present]
    dsimp only [state]
    rw [receive, if_neg fresh, if_neg fresh]
  refine ⟨projectile, ?_, ?_⟩
  · rw [call, ← made]
  · rw [call]
    dsimp only
    rw [returned]
    rfl

theorem madeBy_shotRight {s : GameSession ℝ} {playerId : String} {runtime : PlayerRuntimeState ℝ}
    (present : s.players.find playerId = some runtime) (alive : runtime.state.isAlive = true)
    (fresh : ¬shotRight.sequence < runtime.state.lastSequence)
    (cooled : less (s.elapsedTime - runtime.lastFireTime) kFireCooldown = false) (deltaSeconds : ℝ) :
    ∃ projectile, s.madeBy (.applyInput playerId shotRight deltaSeconds) = [projectile] := by
  obtain ⟨projectile, fired, -⟩ := applyInput_shotRight present alive fresh cooled deltaSeconds
  refine ⟨projectile, ?_⟩
  rw [madeBy, fired, List.drop_left]

/-- The gun of a player that has just entered is cold. -/
theorem cooled_lowest {elapsed : ℝ} (start : elapsed = 0) :
    less (elapsed - lowest) (kFireCooldown : ℝ) = false := by
  rw [Bool.eq_false_iff]
  intro hot
  rw [less_real, start, kFireCooldown, ofRat_real] at hot
  have low : (lowest : ℝ) ≤ -1 := by
    have large : (1 : ℚ) ≤ (2 ^ 53 - 1) * 2 ^ 971 :=
      one_le_mul_of_one_le_of_one_le (by norm_num) (one_le_pow₀ (by norm_num))
    have bound : (-((2 ^ 53 - 1) * 2 ^ 971) : ℚ) ≤ -1 := neg_le_neg large
    have cast : ((-((2 ^ 53 - 1) * 2 ^ 971) : ℚ) : ℝ) ≤ ((-1 : ℚ) : ℝ) := Rat.cast_le.mpr bound
    exact cast.trans (by norm_num)
  norm_num at hot
  linarith

theorem heading_frameRight_y (sequence : Nat) : (heading (frameRight sequence)).2 = 0 := by
  have zero : (ofRat 0 : ℝ) = 0 := by
    rw [ofRat_real, Rat.cast_zero]
  unfold heading frameRight
  dsimp only
  simp only [zero, if_true, Bool.false_eq_true, if_false]
  split
  · exact zero_div (sqrt _ : ℝ)
  · rfl

theorem heading_shotRight : heading shotRight = (0, 0) := by
  have zero : (ofRat 0 : ℝ) = 0 := by
    rw [ofRat_real, Rat.cast_zero]
  have still : ¬less (0 : ℝ) (sqrt (0 * 0 + 0 * 0)) = true := by
    rw [less_real]
    show ¬0 < Real.sqrt _
    norm_num
  unfold heading shotRight
  dsimp only
  simp only [zero, Bool.false_eq_true, if_false]
  exact if_neg still

theorem entry_of_frame {s : GameSession ℝ} {playerId : String} {runtime : PlayerRuntimeState ℝ}
    (present : s.players.find playerId = some runtime) (alive : runtime.state.isAlive = true)
    (input : MovementInput ℝ) (fresh : ¬input.sequence < runtime.state.lastSequence) (deltaSeconds : ℝ) :
    ∃ runtime', (s.act (.applyInput playerId input deltaSeconds)).players.find playerId = some runtime' ∧
      runtime'.state.isAlive = true ∧
      runtime'.state.x = runtime.state.x + (heading input).1 * (s.speedPerSecond * deltaSeconds) ∧
      runtime'.state.y = runtime.state.y + (heading input).2 * (s.speedPerSecond * deltaSeconds) := by
  have undisturbed : ¬Disturbs playerId (.applyInput playerId input deltaSeconds : SessionOp ℝ) := id
  obtain ⟨runtime', present', step⟩ := act_entry s undisturbed present
  rw [EntryStep, if_pos rfl] at step
  obtain ⟨shotsFired, state⟩ := step.state
  have received : receive s.speedPerSecond input deltaSeconds runtime.state =
      PlayerRuntimeState.steer s.speedPerSecond input deltaSeconds
        { runtime.state with
          lastSequence := input.sequence
          facingRadians := atan2 input.mouseY input.mouseX } := by
    rw [receive, if_neg fresh]
    exact if_pos alive
  rw [received] at state
  refine ⟨runtime', present', ?_, ?_, ?_⟩
  · rw [state]
    exact alive
  · rw [state]
    exact (steer_heading _ _ _ _).1
  · rw [state]
    exact (steer_heading _ _ _ _).2

theorem entry_of_other {s : GameSession ℝ} {playerId other : String} {runtime : PlayerRuntimeState ℝ}
    (present : s.players.find playerId = some runtime) (differ : other ≠ playerId) (input : MovementInput ℝ)
    (deltaSeconds : ℝ) :
    (s.act (.applyInput other input deltaSeconds)).players.find playerId = some runtime := by
  have undisturbed : ¬Disturbs playerId (.applyInput other input deltaSeconds : SessionOp ℝ) := id
  obtain ⟨runtime', present', step⟩ := act_entry s undisturbed present
  rw [EntryStep, if_neg differ] at step
  rw [present', step]

/-- One player has walked away from the other, who shoots. -/
structure WalkedAway (deltaSeconds : ℝ) (s : GameSession ℝ) (projectile : Projectile ℝ)
    (mine theirs : PlayerRuntimeState ℝ) : Prop where
  two : ∀ playerId, s.players.contains playerId = true ↔ playerId = "A" ∨ playerId = "B"
  none : s.projectiles = []
  made : s.madeBy (.applyInput "A" shotRight (1 / 60)) = [projectile]
  stands : (s.act (.applyInput "A" shotRight (1 / 60))).players.find "A" = some mine
  stands' : (s.act (.applyInput "A" shotRight (1 / 60))).players.find "B" = some theirs
  alive : theirs.state.isAlive = true
  x : theirs.state.x = mine.state.x + 5 * deltaSeconds
  y : theirs.state.y = mine.state.y

theorem walkedAway (deltaSeconds : ℝ) :
    ∃ projectile mine theirs,
      WalkedAway deltaSeconds (new.after (walkAway deltaSeconds)) projectile mine theirs := by
  have named : ¬"A" = "" := by decide
  have named' : ¬"B" = "" := by decide
  let entered : GameSession ℝ := ((new : GameSession ℝ).upsertPlayer "A").upsertPlayer "B"
  have start : (new : GameSession ℝ).after [.upsertPlayer "A", .upsertPlayer "B"] = entered := by
    show (((new : GameSession ℝ).act (.upsertPlayer "A")).act (.upsertPlayer "B")) = entered
    rw [act, act, perform, perform, if_neg named, if_neg named']
  have walked : (new : GameSession ℝ).after (walkAway deltaSeconds) =
      entered.act (.applyInput "B" (frameRight 1) deltaSeconds) := by
    rw [← start]
    rfl
  have presentA : entered.players.find "A" = some (.enter "A" .default) := rfl
  have presentB : entered.players.find "B" = some (.enter "B" .default) := rfl
  have pace : entered.speedPerSecond = 5 := by
    rw [← start]
    exact speed_after _
  have differ : "B" ≠ "A" := by decide
  have first : ∀ playerId, ¬1 < (.enter playerId .default : PlayerRuntimeState ℝ).state.lastSequence :=
    fun _ => Nat.not_lt_zero 1
  obtain ⟨far, presentB', alive, x, y⟩ := entry_of_frame presentB rfl (frameRight 1) (first "B") deltaSeconds
  have presentA' := entry_of_other presentA differ (frameRight 1) deltaSeconds
  rw [← walked] at presentA' presentB'
  have clock : ((new : GameSession ℝ).after (walkAway deltaSeconds)).elapsedTime = 0 := by
    rw [walked, (act_clock _ _).2]
    show (ofRat 0 : ℝ) = 0
    rw [ofRat_real, Rat.cast_zero]
  have none : ((new : GameSession ℝ).after (walkAway deltaSeconds)).projectiles = [] := by
    rw [walked]
    show (entered.applyInput "B" (frameRight 1) deltaSeconds).1.projectiles = []
    rw [applyInput, presentB]
    rfl
  have two : ∀ playerId,
      ((new : GameSession ℝ).after (walkAway deltaSeconds)).players.contains playerId = true ↔
        playerId = "A" ∨ playerId = "B" := by
    intro playerId
    rw [UnorderedMap.contains_iff, walked]
    show playerId ∈ (entered.applyInput "B" (frameRight 1) deltaSeconds).1.players.keys ↔ _
    rw [applyInput_keys]
    show playerId ∈ ["A", "B"] ↔ _
    simp
  obtain ⟨mine, presentA'', -, x', y'⟩ := entry_of_frame presentA' rfl shotRight (first "A") (1 / 60)
  have presentB'' := entry_of_other presentB' differ.symm shotRight (1 / 60)
  obtain ⟨projectile, made⟩ : ∃ projectile,
      ((new : GameSession ℝ).after (walkAway deltaSeconds)).madeBy (.applyInput "A" shotRight (1 / 60)) =
        [projectile] :=
    madeBy_shotRight presentA' rfl (first "A") (cooled_lowest clock) (1 / 60)
  refine ⟨projectile, mine, far, two, none, made, presentA'', presentB'', alive, ?_, ?_⟩
  · rw [x, x', heading_frameRight, heading_shotRight, pace, (entered_at "A").1, (entered_at "B").1]
    ring
  · rw [y, y', heading_frameRight_y, heading_shotRight, (entered_at "A").2, (entered_at "B").2]
    ring

/-- One and a half seconds of even ticks. -/
noncomputable def evenTicks : List (Nat × ℝ) := (List.range 45).map fun tick => (tick, 1 / 30)

theorem map_snd_evenTicks : evenTicks.map Prod.snd = List.replicate 45 (1 / 30) := by
  rw [evenTicks, List.map_map]
  show (List.range 45).map (fun _ => (1 / 30 : ℝ)) = _
  rw [List.map_const', List.length_range]

theorem evenTicks_paced : ∀ step ∈ evenTicks, 0 < step.2 ∧ step.2 ≤ 1 / 30 := by
  intro step member
  obtain ⟨tick, -, rfl⟩ := List.mem_map.mp member
  norm_num

theorem evenTicks_long : 3 / 2 ≤ (evenTicks.map Prod.snd).sum := by
  rw [map_snd_evenTicks, List.sum_replicate]
  norm_num

theorem straightShot_hits_iff_atOneMeter :
    ∃ projectile, (new.after (walkAway (1 / 5))).madeBy (.applyInput "A" shotRight (1 / 60)) = [projectile] ∧
      (tickAll evenTicks ((new.after (walkAway (1 / 5))).act (.applyInput "A" shotRight (1 / 60)))).2.countP
        (isHitWith "A" "B" projectile.id) = 1 := by
  obtain ⟨projectile, mine, theirs, walked⟩ := walkedAway (1 / 5)
  have differ : "A" ≠ "B" := by decide
  refine ⟨projectile, walked.made, ?_⟩
  refine (straightShot_hits_iff _ differ walked.two walked.made one_pos rfl walked.stands walked.stands' walked.alive
    walked.x walked.y (by norm_num) evenTicks_paced evenTicks_long).mpr ⟨?_, ?_⟩
  · rw [map_snd_evenTicks]
    intro first head
    cases head
    norm_num
  · obtain ⟨trace, run⟩ := runs_after (R := ℝ) (walkAway (1 / 5) ++ [.applyInput "A" shotRight (1 / 60)])
    rw [after_append] at run
    rw [walked.none]
    have unhurt : isAliveAfter 0 theirs = true := by
      rw [isAliveAfter, walked.alive]
      rfl
    exact (isAliveAfter_iff run walked.stands' walked.alive 0).mp unhurt

/-- A shot from half a meter that the first tick carries past the target. -/
theorem straightShot_passes :
    ∃ projectile mine theirs, WalkedAway (1 / 10) (new.after (walkAway (1 / 10))) projectile mine theirs ∧
      (tickAll evenTicks ((new.after (walkAway (1 / 10))).act (.applyInput "A" shotRight (1 / 60)))).2.countP
        (isHitWith "A" "B" projectile.id) ≠ 1 := by
  obtain ⟨projectile, mine, theirs, walked⟩ := walkedAway (1 / 10)
  have differ : "A" ≠ "B" := by decide
  refine ⟨projectile, mine, theirs, walked, ?_⟩
  have fired := justFired differ walked.two walked.made one_pos rfl walked.stands walked.x walked.y
  rw [Ne, fired.hits walked.stands' (by norm_num) evenTicks_paced evenTicks_long, map_snd_evenTicks]
  intro both
  have short := both.1 (1 / 30) rfl
  norm_num at short

end GameSession

end Arena60
