import Arena60.Game.SessionRun

/-!
# What the operations of a session read

An input reads the clock and the player's entry, and what it does to the session is the
same whatever the rest of the session is. A contact reads the players only: neither the
stored projectiles nor what was logged before matter to it, nor do projectile ids.
-/

namespace Arena60

open Misc Misc.DoubleArith

universe u

variable {R : Type u}

/-- A projectile without its id. -/
def Projectile.anonymous (projectile : Projectile R) : Projectile R := { projectile with id := "" }

/-- A projectile with the id that is next in a session. -/
def Projectile.numbered (counter : Nat) (projectile : Projectile R) : Projectile R :=
  { projectile with id := "projectile-" ++ toString (counter + 1) }

@[simp] theorem Projectile.numbered_ownerId (counter : Nat) (projectile : Projectile R) :
    (projectile.numbered counter).ownerId = projectile.ownerId := rfl

theorem Projectile.new_numbered [DoubleArith R] (counter : Nat) (ownerId : String)
    (x y dirX dirY spawnTime : R) :
    Projectile.new ("projectile-" ++ toString (counter + 1)) ownerId x y dirX dirY spawnTime =
      (Projectile.new "" ownerId x y dirX dirY spawnTime).map (Projectile.numbered counter) := by
  unfold Projectile.new
  dsimp only
  split <;> rfl

namespace GameSession

/-! ## Inputs -/

/-- What an input does: it updates the player's entry and may number and make projectiles. -/
structure InputEffect (R : Type u) where
  update : PlayerRuntimeState R → PlayerRuntimeState R
  numbers : Nat
  made : List (Projectile R)

/-- Carry out an effect. -/
def InputEffect.apply (effect : InputEffect R) (playerId : String) (s : GameSession R) : GameSession R :=
  { s with
    projectileCounter := s.projectileCounter + effect.numbers
    projectiles := s.projectiles ++ effect.made.map (Projectile.numbered s.projectileCounter)
    projectilesSpawnedTotal := s.projectilesSpawnedTotal + effect.made.length
    players := s.players.adjust playerId effect.update }

/-- The part of `ApplyInput` before the attempt to shoot. -/
def receive [DoubleArith R] (speed : R) (input : MovementInput R) (deltaSeconds : R)
    (state : PlayerState R) : PlayerState R :=
  if input.sequence < state.lastSequence then state
  else
    let state :=
      { state with
        lastSequence := input.sequence
        facingRadians := atan2 input.mouseY input.mouseX }
    if state.isAlive then PlayerRuntimeState.steer speed input deltaSeconds state else state

variable [DoubleArith R]

/-- The entry of a player after an attempt to shoot at a time. -/
structure Attempted (elapsed : R) (runtime runtime' : PlayerRuntimeState R) : Prop where
  state : ∃ shotsFired, runtime'.state = { runtime.state with shotsFired }
  lastFireTime : runtime'.lastFireTime = runtime.lastFireTime ∨ runtime'.lastFireTime = elapsed

/-- A projectile that an attempt to shoot makes. -/
structure Fired (elapsed : R) (runtime runtime' : PlayerRuntimeState R) (projectile : Projectile R) :
    Prop where
  owner : projectile.ownerId = runtime.state.playerId
  alive : runtime.state.isAlive = true
  cooled : less (elapsed - runtime.lastFireTime) kFireCooldown = false
  spawnTime : projectile.spawnTime = elapsed
  lastFireTime : runtime'.lastFireTime = elapsed

/-- An input of a player whose entry is `found`. -/
structure InputEffect.Proper (effect : InputEffect R) (elapsed speed : R) (input : MovementInput R)
    (deltaSeconds : R) (found : Option (PlayerRuntimeState R)) : Prop where
  update : ∀ runtime, found = some runtime →
    Attempted elapsed { runtime with state := receive speed input deltaSeconds runtime.state }
      (effect.update runtime)
  single : effect.made.length ≤ 1
  fired : ∀ projectile ∈ effect.made, ∃ runtime, found = some runtime ∧
    Fired elapsed { runtime with state := receive speed input deltaSeconds runtime.state }
      (effect.update runtime) projectile

theorem receive_keeps (speed : R) (input : MovementInput R) (deltaSeconds : R) (state : PlayerState R) :
    (receive speed input deltaSeconds state).playerId = state.playerId ∧
    (receive speed input deltaSeconds state).isAlive = state.isAlive := by
  unfold receive
  split
  · exact ⟨rfl, rfl⟩
  · dsimp only
    split <;> exact ⟨rfl, rfl⟩

theorem InputEffect.Proper.named {effect : InputEffect R} {elapsed speed : R} {input : MovementInput R}
    {deltaSeconds : R} {found : Option (PlayerRuntimeState R)}
    (proper : effect.Proper elapsed speed input deltaSeconds found) (runtime : PlayerRuntimeState R)
    (present : found = some runtime) :
    (effect.update runtime).state.playerId = runtime.state.playerId := by
  obtain ⟨shotsFired, same⟩ := (proper.update runtime present).state
  rw [same]
  exact (receive_keeps speed input deltaSeconds runtime.state).1

omit [DoubleArith R] in
theorem InputEffect.apply_nothing (playerId : String) (s : GameSession R) :
    (InputEffect.mk id 0 []).apply playerId s = s := by
  unfold InputEffect.apply
  dsimp only
  rw [UnorderedMap.adjust_id]
  simp

omit [DoubleArith R] in
theorem Attempted.refl [DoubleArith R] (elapsed : R) (runtime : PlayerRuntimeState R) :
    Attempted elapsed runtime runtime :=
  ⟨⟨runtime.state.shotsFired, rfl⟩, Or.inl rfl⟩

/-- The attempt to shoot depends on the clock and the entry only. -/
theorem trySpawnProjectile_effect (elapsed : R) (runtime : PlayerRuntimeState R)
    (input : MovementInput R) :
    ∃ (runtime' : PlayerRuntimeState R) (numbers : Nat) (made : List (Projectile R)),
      Attempted elapsed runtime runtime' ∧ made.length ≤ 1 ∧
      (∀ projectile ∈ made, Fired elapsed runtime runtime' projectile) ∧
      ∀ s : GameSession R, s.elapsedTime = elapsed → ∃ outcome,
        s.trySpawnProjectile runtime input =
          ({ s with
              projectileCounter := s.projectileCounter + numbers
              projectiles := s.projectiles ++ made.map (Projectile.numbered s.projectileCounter)
              projectilesSpawnedTotal := s.projectilesSpawnedTotal + made.length },
            runtime', outcome) := by
  unfold trySpawnProjectile
  by_cases idle : (!input.fire || !runtime.state.isAlive) = true
  · refine ⟨runtime, 0, [], .refl elapsed runtime, Nat.zero_le 1, nofun, fun s clock => ⟨.ok false, ?_⟩⟩
    simp [idle]
  · let aimMagnitude : R := sqrt (input.mouseX * input.mouseX + input.mouseY * input.mouseY)
    have alive : runtime.state.isAlive = true := by
      rw [Bool.not_eq_true, Bool.or_eq_false_iff, Bool.not_eq_false', Bool.not_eq_false'] at idle
      exact idle.2
    by_cases short : less aimMagnitude kMinAim = true
    · refine ⟨runtime, 0, [], .refl elapsed runtime, Nat.zero_le 1, nofun, fun s clock => ⟨.ok false, ?_⟩⟩
      simp [idle, aimMagnitude, short]
    · by_cases early : less (elapsed - runtime.lastFireTime) kFireCooldown = true
      · refine ⟨runtime, 0, [], .refl elapsed runtime, Nat.zero_le 1, nofun, fun s clock => ⟨.ok false, ?_⟩⟩
        subst clock
        simp [idle, aimMagnitude, short, early]
      · let dirX := input.mouseX / aimMagnitude
        let dirY := input.mouseY / aimMagnitude
        cases built : Projectile.new "" runtime.state.playerId (runtime.state.x + dirX * kSpawnOffset)
            (runtime.state.y + dirY * kSpawnOffset) dirX dirY elapsed with
        | error thrown =>
            refine ⟨{ runtime with lastFireTime := elapsed }, 1, [],
              ⟨⟨runtime.state.shotsFired, rfl⟩, Or.inr rfl⟩, Nat.zero_le 1, nofun,
              fun s clock => ⟨.error thrown, ?_⟩⟩
            subst clock
            rw [if_neg idle, if_neg short, if_neg early]
            dsimp only [dirX, dirY, aimMagnitude] at built ⊢
            rw [Projectile.new_numbered, built]
            simp [Except.map]
        | ok projectile =>
            refine ⟨{ runtime with
                lastFireTime := elapsed
                shotsFired := runtime.shotsFired + 1
                state := { runtime.state with shotsFired := runtime.shotsFired + 1 } },
              1, [projectile], ⟨⟨runtime.shotsFired + 1, rfl⟩, Or.inr rfl⟩, Nat.le_refl 1, ?_,
              fun s clock => ⟨.ok true, ?_⟩⟩
            · intro other member
              rw [List.mem_singleton.mp member]
              exact ⟨(Projectile.new_spec built).2.1, alive, Bool.eq_false_of_not_eq_true early,
                Projectile.new_spawnTime built, rfl⟩
            · subst clock
              rw [if_neg idle, if_neg short, if_neg early]
              dsimp only [dirX, dirY, aimMagnitude] at built ⊢
              rw [Projectile.new_numbered, built]
              rfl

/-- What an input does depends on the clock, the speed and the player's entry only. -/
theorem applyInput_effect (elapsed speed : R) (found : Option (PlayerRuntimeState R))
    (playerId : String) (input : MovementInput R) (deltaSeconds : R) :
    ∃ effect : InputEffect R, effect.Proper elapsed speed input deltaSeconds found ∧
      ∀ s : GameSession R, s.elapsedTime = elapsed → s.speedPerSecond = speed →
        s.players.find playerId = found →
          (s.applyInput playerId input deltaSeconds).1 = effect.apply playerId s := by
  cases found with
  | none =>
      refine ⟨⟨id, 0, []⟩, ⟨nofun, Nat.zero_le 1, nofun⟩, fun s clock pace absent => ?_⟩
      rw [InputEffect.apply_nothing, applyInput, absent]
  | some runtime =>
      by_cases stale : input.sequence < runtime.state.lastSequence
      · refine ⟨⟨id, 0, []⟩, ⟨?_, Nat.zero_le 1, nofun⟩, fun s clock pace present => ?_⟩
        · intro other same
          cases same
          rw [receive, if_pos stale]
          exact Attempted.refl elapsed runtime
        · rw [InputEffect.apply_nothing, applyInput, present]
          dsimp only
          rw [if_pos stale]
      · obtain ⟨runtime', numbers, made, attempted, single, fired, tried⟩ :=
          trySpawnProjectile_effect elapsed
            { runtime with state := receive speed input deltaSeconds runtime.state } input
        refine ⟨⟨fun _ => runtime', numbers, made⟩, ⟨?_, single, ?_⟩, fun s clock pace present => ?_⟩
        · intro other same
          cases same
          exact attempted
        · intro projectile member
          exact ⟨runtime, rfl, fired projectile member⟩
        · obtain ⟨outcome, attempt⟩ := tried s clock
          subst pace
          rw [applyInput, present]
          dsimp only
          rw [if_neg stale]
          rw [receive, if_neg stale] at attempt
          dsimp only at attempt
          rw [attempt]
          rfl

theorem exists_applyInput_effect (s : GameSession R) (playerId : String) (input : MovementInput R)
    (deltaSeconds : R) : ∃ effect : InputEffect R,
      effect.Proper s.elapsedTime s.speedPerSecond input deltaSeconds (s.players.find playerId) ∧
        (s.applyInput playerId input deltaSeconds).1 = effect.apply playerId s := by
  obtain ⟨effect, proper, applied⟩ := applyInput_effect s.elapsedTime s.speedPerSecond
    (s.players.find playerId) playerId input deltaSeconds
  exact ⟨effect, proper, applied s rfl rfl rfl⟩

/-! ## Contacts -/

theorem collide_inactive (s : GameSession R) (tick : Nat) {projectile : Projectile R}
    (inactive : projectile.active = false) : s.collide tick projectile = (s, projectile, 0, []) := by
  rw [collide, inactive]
  rfl

theorem collide_missed {s : GameSession R} (tick : Nat) {projectile : Projectile R}
    (active : projectile.active = true)
    (missed : (firstContact projectile s.players.entries).1 = none) :
    s.collide tick projectile =
      (s, projectile, (firstContact projectile s.players.entries).2, []) := by
  rw [collide, active]
  dsimp only
  rw [missed]
  rfl

theorem collide_hit {s : GameSession R} (tick : Nat) {projectile : Projectile R} {key : String}
    {runtime : PlayerRuntimeState R} (active : projectile.active = true)
    (found : (firstContact projectile s.players.entries).1 = some key)
    (present : s.players.find key = some runtime) :
    s.collide tick projectile =
      ((s.registerHit tick projectile key runtime).1, projectile.deactivate,
        (firstContact projectile s.players.entries).2,
        (s.registerHit tick projectile key runtime).2) := by
  rw [collide, active]
  dsimp only
  rw [found, Option.bind_some, present]
  rfl

omit [DoubleArith R] in
/-- A session without its stored projectiles and without what it logged. -/
def core (s : GameSession R) : GameSession R :=
  { s with projectiles := [], combatLog := .new 0, pendingDeaths := [] }

omit [DoubleArith R] in
theorem core_eq {s s' : GameSession R} (same : s.core = s'.core) :
    s' = { s with
      projectiles := s'.projectiles, combatLog := s'.combatLog, pendingDeaths := s'.pendingDeaths } := by
  have fields := GameSession.mk.inj same
  obtain ⟨_, _, _, _, _, _, _, _, _, _, _⟩ := fields
  cases s
  cases s'
  simp_all

theorem firstContact_anonymous (projectile : Projectile R)
    (entries : List (String × PlayerRuntimeState R)) :
    firstContact projectile.anonymous entries = firstContact projectile entries := by
  induction entries with
  | nil => rfl
  | cons entry entries ih =>
      obtain ⟨key, runtime⟩ := entry
      rw [firstContact, firstContact, ih]
      rfl

theorem collide_core (s : GameSession R) (tick : Nat) (projectile : Projectile R) :
    (s.collide tick projectile).1.core = (s.core.collide tick projectile.anonymous).1.core ∧
    (s.collide tick projectile).2.1.anonymous =
      (s.core.collide tick projectile.anonymous).2.1.anonymous ∧
    (s.collide tick projectile).2.2.1 = (s.core.collide tick projectile.anonymous).2.2.1 := by
  unfold collide
  rw [firstContact_anonymous]
  by_cases active : (!projectile.active) = true
  · have active' : (!projectile.anonymous.active) = true := active
    rw [if_pos active, if_pos active']
    exact ⟨rfl, rfl, rfl⟩
  · have active' : ¬(!projectile.anonymous.active) = true := active
    rw [if_neg active, if_neg active']
    dsimp only [core]
    cases (firstContact projectile s.players.entries).1.bind fun key =>
        (s.players.find key).map (key, ·) with
    | none => exact ⟨rfl, rfl, rfl⟩
    | some hit =>
        obtain ⟨key, runtime⟩ := hit
        dsimp only
        unfold registerHit
        dsimp only
        split <;> exact ⟨rfl, rfl, rfl⟩

omit [DoubleArith R] in
/-- A contact keeps the order of the players. -/
theorem registerHit_keys (s : GameSession R) (tick : Nat) (projectile : Projectile R) (key : String)
    (runtime : PlayerRuntimeState R) :
    (s.registerHit tick projectile key runtime).1.players.keys = s.players.keys := by
  have struck : ((s.players.adjust key .takeHit).adjust projectile.ownerId .creditHit).keys =
      s.players.keys := by
    rw [UnorderedMap.keys_adjust, UnorderedMap.keys_adjust]
  unfold registerHit
  dsimp only
  split
  · exact (UnorderedMap.keys_adjust _ _ _).trans struck
  · exact struck

theorem collide_keys (s : GameSession R) (tick : Nat) (projectile : Projectile R) :
    (s.collide tick projectile).1.players.keys = s.players.keys := by
  unfold GameSession.collide
  split
  · rfl
  · dsimp only
    split
    · rfl
    · exact registerHit_keys _ _ _ _ _

theorem sweep_keys (tick : Nat) : ∀ (projectiles : List (Projectile R)) (s : GameSession R),
    (sweep tick projectiles s).1.players.keys = s.players.keys
  | [], _ => rfl
  | projectile :: rest, s => by
      rw [sweep]
      exact (sweep_keys tick rest _).trans (s.collide_keys tick projectile)

/-- A tick keeps the order of the players. -/
theorem tick_keys (s : GameSession R) (tick : Nat) (deltaSeconds : R) :
    (s.tick tick deltaSeconds).1.players.keys = s.players.keys :=
  sweep_keys tick _ (s.moveProjectiles deltaSeconds)

/-- An input keeps the order of the players. -/
theorem applyInput_keys (s : GameSession R) (playerId : String) (input : MovementInput R)
    (deltaSeconds : R) : (s.applyInput playerId input deltaSeconds).1.players.keys = s.players.keys := by
  obtain ⟨effect, -, same⟩ := s.exists_applyInput_effect playerId input deltaSeconds
  rw [same]
  exact s.players.keys_adjust playerId effect.update

end GameSession

end Arena60
