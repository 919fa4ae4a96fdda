import Arena60.Game.GameSession
import Arena60.Misc.OverflowArith

/-!
# Aims whose length overflows

`TrySpawnProjectile` bounds the length of the aim vector from below only. When the length
is infinite both quotients are zero, and the constructor of the projectile throws; for
every other aim that passes the guard the direction has length one.
-/

namespace Arena60

open Misc Misc.OverflowDouble

/-- The length of an aim within the range of the doubles. -/
theorem aimMagnitude_eq {mouseX mouseY : ℝ} (inRangeX : |mouseX| ≤ maxDouble)
    (inRangeY : |mouseY| ≤ maxDouble) (inRange : mouseX * mouseX + mouseY * mouseY ≤ maxDouble) :
    DoubleArith.sqrt (ofReal mouseX * ofReal mouseX + ofReal mouseY * ofReal mouseY) =
      ofReal (Real.sqrt (mouseX * mouseX + mouseY * mouseY)) := by
  have nonnegative := add_nonneg (mul_self_nonneg mouseX) (mul_self_nonneg mouseY)
  rw [sum_of_squares inRangeX inRangeY, ofReal_sqrt _ nonnegative]
  rw [abs_of_nonneg nonnegative]
  exact inRange

/-- The length of an aim beyond the range. -/
theorem aimMagnitude_infinite {mouseX mouseY : ℝ} (inRangeX : |mouseX| ≤ maxDouble)
    (inRangeY : |mouseY| ≤ maxDouble) (above : maxDouble < mouseX * mouseX + mouseY * mouseY) :
    DoubleArith.sqrt (ofReal mouseX * ofReal mouseX + ofReal mouseY * ofReal mouseY) =
      infinity false := by
  rw [sum_of_squares inRangeX inRangeY, ofReal_of_above above]
  rfl

theorem small_inRange {x : ℝ} (small : |x| ≤ 1) : |x| ≤ maxDouble :=
  le_trans small one_le_maxDouble

/-- The constructor throws on a direction without length. -/
theorem Projectile.new_zero (id ownerId : String) (x y spawnTime : OverflowDouble) :
    Projectile.new id ownerId x y (ofReal 0) (ofReal 0) spawnTime =
      .error (.invalidArgument "Projectile direction must be non-zero") := by
  have zero : |(0 : ℝ)| ≤ maxDouble := small_inRange (by norm_num)
  have epsilon : |((1 / 10 ^ 9 : ℚ) : ℝ)| ≤ maxDouble := small_inRange (by norm_num)
  have magnitude := aimMagnitude_eq zero zero (by norm_num; exact zero_le_one.trans one_le_maxDouble)
  have none : Real.sqrt (0 * 0 + 0 * 0) = 0 := by norm_num
  rw [none] at magnitude
  have short : DoubleArith.less (ofReal 0) (kEpsilon : OverflowDouble) = true :=
    (less_ofReal zero epsilon).mpr (by norm_num)
  rw [Projectile.new, magnitude, if_pos short]

/-- The constructor accepts a direction of length one. -/
theorem Projectile.new_unit {dirX dirY : ℝ} (unit : dirX * dirX + dirY * dirY = 1)
    (id ownerId : String) (x y spawnTime : OverflowDouble) :
    ∃ projectile, Projectile.new id ownerId x y (ofReal dirX) (ofReal dirY) spawnTime =
      .ok projectile := by
  have one : |(1 : ℝ)| ≤ maxDouble := small_inRange (by norm_num)
  have inRangeX : |dirX| ≤ maxDouble := small_inRange (abs_le_one_iff_mul_self_le_one.mpr (by
    have := mul_self_nonneg dirY
    linarith))
  have inRangeY : |dirY| ≤ maxDouble := small_inRange (abs_le_one_iff_mul_self_le_one.mpr (by
    have := mul_self_nonneg dirX
    linarith))
  have epsilon : |((1 / 10 ^ 9 : ℚ) : ℝ)| ≤ maxDouble := small_inRange (by norm_num)
  have magnitude := aimMagnitude_eq inRangeX inRangeY (by rw [unit]; exact one_le_maxDouble)
  rw [unit, Real.sqrt_one] at magnitude
  have long : ¬ DoubleArith.less (ofReal 1) (kEpsilon : OverflowDouble) = true := by
    intro short
    have below := (less_ofReal one epsilon).mp short
    norm_num at below
  rw [Projectile.new, magnitude, if_neg long]
  exact ⟨_, rfl⟩

/-- The direction of an aim that passes the guard. -/
theorem direction_unit {mouseX mouseY magnitude : ℝ} (positive : 0 < magnitude)
    (square : magnitude * magnitude = mouseX * mouseX + mouseY * mouseY) :
    mouseX / magnitude * (mouseX / magnitude) + mouseY / magnitude * (mouseY / magnitude) = 1 := by
  rw [div_mul_div_comm, div_mul_div_comm, ← add_div, ← square]
  exact div_self (mul_self_pos.mpr positive.ne').ne'

/-- Whether the player may fire now: the checks of `TrySpawnProjectile` that are not about
the aim. -/
def MayFire (s : GameSession OverflowDouble) (runtime : PlayerRuntimeState OverflowDouble)
    (input : MovementInput OverflowDouble) : Prop :=
  input.fire = true ∧ runtime.state.isAlive = true ∧
    DoubleArith.less (s.elapsedTime - runtime.lastFireTime) kFireCooldown = false

section spawn

variable {s : GameSession OverflowDouble} {runtime : PlayerRuntimeState OverflowDouble}
  {input : MovementInput OverflowDouble} {mouseX mouseY : ℝ}

/-- An aim whose length overflows makes the constructor throw, after the fire time and the
projectile counter were changed. -/
theorem trySpawnProjectile_infinite (aimX : input.mouseX = ofReal mouseX)
    (aimY : input.mouseY = ofReal mouseY) (inRangeX : |mouseX| ≤ maxDouble)
    (inRangeY : |mouseY| ≤ maxDouble) (mayFire : MayFire s runtime input)
    (above : maxDouble < mouseX * mouseX + mouseY * mouseY) :
    s.trySpawnProjectile runtime input =
      ({ s with projectileCounter := s.projectileCounter + 1 },
        { runtime with lastFireTime := s.elapsedTime },
        .error (.invalidArgument "Projectile direction must be non-zero")) := by
  obtain ⟨fire, alive, cooled⟩ := mayFire
  have magnitude := aimMagnitude_infinite inRangeX inRangeY above
  have guard : DoubleArith.less (infinity false) (kMinAim : OverflowDouble) = false := by
    have inRange : |((1 / 10 ^ 6 : ℚ) : ℝ)| ≤ maxDouble := small_inRange (by norm_num)
    have minimum : (kMinAim : OverflowDouble) = finite _ inRange := ofReal_of_inRange inRange
    rw [minimum]
    rfl
  rw [GameSession.trySpawnProjectile, aimX, aimY, magnitude]
  simp only [fire, alive, cooled, guard, Bool.not_true, Bool.or_self, Bool.false_eq_true, if_false,
    ofReal_div_infinity inRangeX, ofReal_div_infinity inRangeY, Projectile.new_zero]

/-- Every other aim is refused or makes a projectile. -/
theorem trySpawnProjectile_returns (aimX : input.mouseX = ofReal mouseX)
    (aimY : input.mouseY = ofReal mouseY) (inRangeX : |mouseX| ≤ maxDouble)
    (inRangeY : |mouseY| ≤ maxDouble)
    (harmless : MayFire s runtime input → mouseX * mouseX + mouseY * mouseY ≤ maxDouble) :
    ∃ made, (s.trySpawnProjectile runtime input).2.2 = .ok made := by
  unfold GameSession.trySpawnProjectile
  by_cases idle : (!input.fire || !runtime.state.isAlive) = true
  · rw [if_pos idle]
    exact ⟨false, rfl⟩
  · rw [if_neg idle]
    dsimp only
    split
    · exact ⟨false, rfl⟩
    · next passed =>
        split
        · exact ⟨false, rfl⟩
        · next cooled =>
            simp only [Bool.or_eq_true, Bool.not_eq_true', not_or, Bool.not_eq_false] at idle
            have inRange := harmless ⟨idle.1, idle.2, Bool.eq_false_iff.mpr cooled⟩
            have nonnegative := add_nonneg (mul_self_nonneg mouseX) (mul_self_nonneg mouseY)
            have squareInRange : |mouseX * mouseX + mouseY * mouseY| ≤ maxDouble := by
              rw [abs_of_nonneg nonnegative]
              exact inRange
            have lengthInRange := abs_sqrt_le squareInRange
            have magnitude := aimMagnitude_eq inRangeX inRangeY inRange
            rw [aimX, aimY, magnitude] at passed ⊢
            have minimum : |((1 / 10 ^ 6 : ℚ) : ℝ)| ≤ maxDouble := small_inRange (by norm_num)
            have long : ((1 / 10 ^ 6 : ℚ) : ℝ) ≤ Real.sqrt (mouseX * mouseX + mouseY * mouseY) :=
              not_lt.mp fun short => passed ((less_ofReal lengthInRange minimum).mpr short)
            have positive : 0 < Real.sqrt (mouseX * mouseX + mouseY * mouseY) :=
              lt_of_lt_of_le (by norm_num) long
            rw [ofReal_div inRangeX lengthInRange positive.ne',
              ofReal_div inRangeY lengthInRange positive.ne']
            have unit := direction_unit positive (Real.mul_self_sqrt nonnegative)
            obtain ⟨projectile, made⟩ := Projectile.new_unit unit
              ("projectile-" ++ toString (s.projectileCounter + 1)) runtime.state.playerId
              (runtime.state.x + ofReal (mouseX / Real.sqrt (mouseX * mouseX + mouseY * mouseY)) *
                kSpawnOffset)
              (runtime.state.y + ofReal (mouseY / Real.sqrt (mouseX * mouseX + mouseY * mouseY)) *
                kSpawnOffset) s.elapsedTime
            rw [made]
            exact ⟨true, rfl⟩

end spawn

/-- The steering changes nothing that the checks read. -/
theorem mayFire_steered {s : GameSession OverflowDouble} {runtime : PlayerRuntimeState OverflowDouble}
    {input : MovementInput OverflowDouble} {state : PlayerState OverflowDouble}
    (alive : state.isAlive = runtime.state.isAlive) :
    MayFire s { runtime with state } input ↔ MayFire s runtime input := by
  simp only [MayFire, alive]

/-- What an input does that makes the constructor throw. -/
theorem applyInput_throws {s : GameSession OverflowDouble} {playerId : String}
    {input : MovementInput OverflowDouble} {runtime : PlayerRuntimeState OverflowDouble}
    {mouseX mouseY : ℝ} (deltaSeconds : OverflowDouble) (aimX : input.mouseX = ofReal mouseX)
    (aimY : input.mouseY = ofReal mouseY) (inRangeX : |mouseX| ≤ maxDouble)
    (inRangeY : |mouseY| ≤ maxDouble) (present : s.players.find playerId = some runtime)
    (current : ¬ input.sequence < runtime.state.lastSequence) (mayFire : MayFire s runtime input)
    (above : maxDouble < mouseX * mouseX + mouseY * mouseY) :
    ∃ state, s.applyInput playerId input deltaSeconds =
      ({ s with
          projectileCounter := s.projectileCounter + 1
          players := s.players.adjust playerId fun _ =>
            { runtime with state, lastFireTime := s.elapsedTime } },
        .error (.invalidArgument "Projectile direction must be non-zero")) := by
  unfold GameSession.applyInput
  rw [present]
  dsimp only
  rw [if_neg current]
  generalize moved : (if runtime.state.isAlive = true then _ else _ :
    PlayerState OverflowDouble) = state
  have alive : state.isAlive = runtime.state.isAlive := by
    rw [← moved]
    split <;> rfl
  rw [trySpawnProjectile_infinite aimX aimY inRangeX inRangeY ((mayFire_steered alive).mpr mayFire)
    above]
  exact ⟨state, rfl⟩

/-- `ApplyInput` returns normally exactly when the input is ignored, or does not fire, or
the square of the length of its aim is in the range of the doubles. -/
theorem applyInput_returns_iff (s : GameSession OverflowDouble) (playerId : String)
    (input : MovementInput OverflowDouble) (deltaSeconds : OverflowDouble) {mouseX mouseY : ℝ}
    (aimX : input.mouseX = ofReal mouseX) (aimY : input.mouseY = ofReal mouseY)
    (inRangeX : |mouseX| ≤ maxDouble) (inRangeY : |mouseY| ≤ maxDouble) :
    (s.applyInput playerId input deltaSeconds).2 = .ok () ↔
      ∀ runtime, s.players.find playerId = some runtime →
        input.sequence < runtime.state.lastSequence ∨ ¬ MayFire s runtime input ∨
          mouseX * mouseX + mouseY * mouseY ≤ maxDouble := by
  constructor
  · intro returned runtime present
    by_contra thrown
    simp only [not_or, not_not, not_le] at thrown
    obtain ⟨current, mayFire, above⟩ := thrown
    obtain ⟨state, outcome⟩ := applyInput_throws deltaSeconds aimX aimY inRangeX inRangeY present
      current mayFire above
    rw [outcome] at returned
    cases returned
  · intro harmless
    unfold GameSession.applyInput
    cases present : s.players.find playerId with
    | none => rfl
    | some runtime =>
        dsimp only
        by_cases stale : input.sequence < runtime.state.lastSequence
        · rw [if_pos stale]
        · rw [if_neg stale]
          generalize moved : (if runtime.state.isAlive = true then _ else _ :
            PlayerState OverflowDouble) = state
          have alive : state.isAlive = runtime.state.isAlive := by
            rw [← moved]
            split <;> rfl
          have inRange : MayFire s { runtime with state } input →
              mouseX * mouseX + mouseY * mouseY ≤ maxDouble := by
            intro mayFire
            rcases harmless runtime present with older | refused | inRange
            · exact absurd older stale
            · exact absurd ((mayFire_steered alive).mp mayFire) refused
            · exact inRange
          obtain ⟨made, returned⟩ := trySpawnProjectile_returns aimX aimY inRangeX inRangeY inRange
          rw [returned]
          rfl

/-- A session with one player that has just entered. -/
noncomputable def loneSession : GameSession OverflowDouble := GameSession.new.upsertPlayer "A"

/-- An input that fires along the x axis. -/
noncomputable def aimAlongX (mouseX : ℝ) : MovementInput OverflowDouble where
  sequence := 1
  up := false
  down := false
  left := false
  right := false
  mouseX := ofReal mouseX
  mouseY := ofReal 0
  fire := true

theorem applyInput_returns_iff_nearAim :
    (loneSession.applyInput "A" (aimAlongX 1) (ofReal 0)).2 = .ok () := by
  refine (applyInput_returns_iff loneSession "A" (aimAlongX 1) (ofReal 0) rfl rfl
    (small_inRange (by norm_num)) (small_inRange (by norm_num))).mpr ?_
  intro runtime present
  refine Or.inr (Or.inr ?_)
  norm_num
  exact one_le_maxDouble

/-- A player that has just entered a fresh session may fire. -/
theorem mayFire_lone {runtime : PlayerRuntimeState OverflowDouble}
    (present : loneSession.players.find "A" = some runtime) (mouseX : ℝ) :
    runtime.state.lastSequence = 0 ∧ MayFire loneSession runtime (aimAlongX mouseX) := by
  rw [loneSession, GameSession.upsertPlayer, UnorderedMap.find_upsert, if_pos rfl] at present
  cases present
  refine ⟨rfl, rfl, rfl, ?_⟩
  have large := one_le_maxDouble
  have zero : |((0 : ℚ) : ℝ)| ≤ maxDouble := small_inRange (by norm_num)
  have cooldown : |((1 / 10 : ℚ) : ℝ)| ≤ maxDouble := small_inRange (by norm_num)
  have lowest : |(-maxDouble)| ≤ maxDouble := by
    rw [abs_neg, abs_of_nonneg (zero_le_one.trans large)]
  have highest : |((0 : ℚ) : ℝ) - -maxDouble| ≤ maxDouble := by
    rw [Rat.cast_zero, zero_sub, neg_neg, abs_of_nonneg (zero_le_one.trans large)]
  show DoubleArith.less (ofReal ((0 : ℚ) : ℝ) - ofReal (-maxDouble)) (ofReal ((1 / 10 : ℚ) : ℝ)) = false
  rw [ofReal_sub zero lowest, Bool.eq_false_iff]
  intro hot
  have below := (less_ofReal highest cooldown).mp hot
  norm_num at below
  linarith

theorem pow_inRange : |(2 : ℝ) ^ 600| ≤ maxDouble := by
  rw [abs_of_nonneg (pow_nonneg zero_le_two 600)]
  calc
    (2 : ℝ) ^ 600 ≤ 2 ^ 971 := pow_le_pow_right₀ one_le_two (by norm_num)
    _ = 1 * 2 ^ 971 := (one_mul _).symm
    _ ≤ maxDouble := mul_le_mul_of_nonneg_right (by norm_num) (pow_nonneg zero_le_two 971)

theorem square_above : maxDouble < (2 : ℝ) ^ 600 * 2 ^ 600 + 0 * 0 := by
  calc
    maxDouble ≤ 2 ^ 53 * 2 ^ 971 :=
      mul_le_mul_of_nonneg_right (by norm_num) (pow_nonneg zero_le_two 971)
    _ = 2 ^ 1024 := (pow_add 2 53 971).symm
    _ < 2 ^ 1200 := pow_lt_pow_right₀ one_lt_two (by norm_num)
    _ = 2 ^ 600 * 2 ^ 600 := pow_add 2 600 600
    _ = 2 ^ 600 * 2 ^ 600 + 0 * 0 := by rw [mul_zero, add_zero]

/-- A player that aims `2 ^ 600` far makes the server throw, with its fire time and the
projectile counter already changed. -/
theorem applyInput_throws_farAim :
    (loneSession.applyInput "A" (aimAlongX (2 ^ 600)) (ofReal 0)).2 =
        .error (.invalidArgument "Projectile direction must be non-zero") ∧
      (loneSession.applyInput "A" (aimAlongX (2 ^ 600)) (ofReal 0)).1.projectileCounter = 1 := by
  obtain ⟨runtime, present⟩ : ∃ runtime, loneSession.players.find "A" = some runtime := by
    rw [loneSession, GameSession.upsertPlayer, UnorderedMap.find_upsert, if_pos rfl]
    exact ⟨_, rfl⟩
  obtain ⟨fresh, mayFire⟩ := mayFire_lone present (2 ^ 600)
  have current : ¬ (aimAlongX (2 ^ 600)).sequence < runtime.state.lastSequence := by
    rw [fresh]
    exact Nat.not_lt_zero _
  obtain ⟨state, outcome⟩ := applyInput_throws (ofReal 0) rfl rfl
    pow_inRange (small_inRange (by norm_num)) present current mayFire square_above
  rw [outcome]
  exact ⟨rfl, rfl⟩

end Arena60
