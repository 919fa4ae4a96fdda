import Arena60.Game.GameSession
import Arena60.Misc.Runs

/-!
# Runs of a game session

The operations of a session as actions, what is observed of them, and their
decomposition into moves: a move changes one thing, so that an invariant is shown by
one short case for each. The order in which an unordered map enumerates its entries is
not specified and may change whenever an element is inserted; a run may change it at
any time.
-/

namespace Arena60

open Misc Misc.DoubleArith

universe u

/-- What is observed of a run. -/
inductive SessionItem where
  | upserted (playerId : String) (fresh : Bool)
  | removed (playerId : String)
  | input (playerId : String)
  | spawned (projectileId ownerId : String)
  | expired (projectileId : String)
  | dropped (projectileId : String)
  | ticked (tick : Nat)
  | combat (event : CombatEvent)
  | consumed (deaths : List CombatEvent)
  deriving DecidableEq

/-- The operations, and a change of the enumeration order of the players. -/
inductive SessionOp (R : Type u) where
  | upsertPlayer (playerId : String)
  | removePlayer (playerId : String)
  | applyInput (playerId : String) (input : MovementInput R) (deltaSeconds : R)
  | tick (tick : Nat) (deltaSeconds : R)
  | consumeDeathEvents
  | reorder (order : List String)

namespace GameSession

section observations

variable {R : Type u} (s : GameSession R)

/-- The projectiles of a player that `RemovePlayer` drops. -/
def droppedItems (playerId : String) : List SessionItem :=
  (s.projectiles.filter fun projectile => projectile.ownerId = playerId).map fun projectile =>
    .dropped projectile.id

/-- The projectiles that a session has and an earlier one had not. -/
def spawnedItems (s' : GameSession R) : List SessionItem :=
  (s'.projectiles.drop s.projectiles.length).map fun projectile =>
    .spawned projectile.id projectile.ownerId

/-- The projectiles that are still stored but not active. -/
def expiredItems : List SessionItem :=
  (s.projectiles.filter fun projectile => !projectile.active).map fun projectile =>
    .expired projectile.id

end observations

variable {R : Type u} [DoubleArith R]

/-- Execute an operation. The player id of an upsert is not empty. -/
def perform : SessionOp R → GameSession R → Option (List SessionItem × GameSession R)
  | .upsertPlayer playerId, s =>
      if playerId = "" then none
      else some ([.upserted playerId (!s.players.contains playerId)], s.upsertPlayer playerId)
  | .removePlayer playerId, s =>
      some (.removed playerId :: s.droppedItems playerId, s.removePlayer playerId)
  | .applyInput playerId input deltaSeconds, s =>
      let s' := (s.applyInput playerId input deltaSeconds).1
      some (.input playerId :: s.spawnedItems s', s')
  | .tick tick deltaSeconds, s =>
      let (s', events) := s.tick tick deltaSeconds
      some (.ticked tick :: ((s.moveProjectiles deltaSeconds).expiredItems ++ events.map .combat), s')
  | .consumeDeathEvents, s =>
      let (deaths, s') := s.consumeDeathEvents
      some ([.consumed deaths], s')
  | .reorder order, s => some ([], { s with players := s.players.reorder order })

/-- The session is fresh. -/
def Initial (s : GameSession R) : Prop := s = .new

/-- The runs of a fresh session. -/
abbrev Runs (trace : List SessionItem) (s : GameSession R) : Prop :=
  Run Initial (StepOf perform) trace s

/-! ## Moves -/

/-- An entry that differs at most in position, facing, sequence number and fire time. -/
def Steered (runtime runtime' : PlayerRuntimeState R) : Prop :=
  ∃ x y facingRadians lastSequence lastFireTime, runtime' =
    { runtime with
      state := { runtime.state with x, y, facingRadians, lastSequence }
      lastFireTime }

/-- The projectiles that are stored and active. -/
def live {R : Type u} (s : GameSession R) : List (Projectile R) :=
  s.projectiles.filter fun projectile => projectile.active

/-- One elementary change of a session. -/
inductive Move : GameSession R → List SessionItem → GameSession R → Prop
  | upsert (s : GameSession R) {playerId : String} (named : playerId ≠ "") :
      Move s [.upserted playerId (!s.players.contains playerId)] (s.upsertPlayer playerId)
  | remove (s : GameSession R) (playerId : String)
      (settled : ∀ projectile ∈ s.projectiles, projectile.active = true) :
      Move s (.removed playerId :: s.droppedItems playerId) (s.removePlayer playerId)
  | receive (s : GameSession R) (playerId : String) : Move s [.input playerId] s
  | steer (s : GameSession R) {playerId : String} {runtime runtime' : PlayerRuntimeState R}
      (present : s.players.find playerId = some runtime) (steered : Steered runtime runtime') :
      Move s [] { s with players := s.players.adjust playerId fun _ => runtime' }
  | number (s : GameSession R) :
      Move s [] { s with projectileCounter := s.projectileCounter + 1 }
  | spawn (s : GameSession R) {playerId : String} {runtime : PlayerRuntimeState R}
      {projectile : Projectile R} (present : s.players.find playerId = some runtime)
      (alive : runtime.state.isAlive = true)
      (id : projectile.id = "projectile-" ++ toString (s.projectileCounter + 1))
      (owner : projectile.ownerId = runtime.state.playerId) (active : projectile.active = true) :
      Move s [.spawned projectile.id projectile.ownerId]
        { s with
          projectileCounter := s.projectileCounter + 1
          projectiles := s.projectiles ++ [projectile]
          projectilesSpawnedTotal := s.projectilesSpawnedTotal + 1
          players := s.players.adjust playerId fun runtime =>
            { runtime with
              shotsFired := runtime.shotsFired + 1
              state := { runtime.state with shotsFired := runtime.shotsFired + 1 } } }
  | moveProjectiles (s : GameSession R) (tick : Nat) (deltaSeconds : R)
      (settled : ∀ projectile ∈ s.projectiles, projectile.active = true) :
      Move s (.ticked tick :: (s.moveProjectiles deltaSeconds).expiredItems)
        (s.moveProjectiles deltaSeconds)
  | hit (s : GameSession R) (tick : Nat) {before after : List (Projectile R)}
      {projectile : Projectile R} {key : String} {runtime : PlayerRuntimeState R}
      (stored : s.projectiles = before ++ projectile :: after) (active : projectile.active = true)
      (present : s.players.find key = some runtime) (alive : runtime.state.isAlive = true)
      (other : runtime.state.playerId ≠ projectile.ownerId) :
      Move s ((s.registerHit tick projectile key runtime).2.map .combat)
        { (s.registerHit tick projectile key runtime).1 with
          projectiles := before ++ projectile.deactivate :: after }
  | settle (s : GameSession R) (checked : Nat) :
      Move s [] { s with
        collisionsCheckedTotal := s.collisionsCheckedTotal + checked, projectiles := s.live }
  | consume (s : GameSession R) : Move s [.consumed s.pendingDeaths] s.consumeDeathEvents.2
  | reorder (s : GameSession R) (order : List String) :
      Move s [] { s with players := s.players.reorder order }

/-- Moves one after the other. -/
inductive Moves : GameSession R → List SessionItem → GameSession R → Prop
  | nil (s : GameSession R) : Moves s [] s
  | cons {s s' s'' : GameSession R} {items items' : List SessionItem} :
      Move s items s' → Moves s' items' s'' → Moves s (items ++ items') s''

theorem Move.single {s s' : GameSession R} {items : List SessionItem} (move : Move s items s') :
    Moves s items s' := by
  have moves := Moves.cons move (.nil s')
  rwa [List.append_nil] at moves

theorem Moves.append {s s' s'' : GameSession R} {items items' : List SessionItem}
    (moves : Moves s items s') (moves' : Moves s' items' s'') : Moves s (items ++ items') s'' := by
  induction moves with
  | nil => exact moves'
  | cons move _ ih =>
      rw [List.append_assoc]
      exact .cons move (ih moves')

/-- The runs by moves. -/
abbrev MoveRuns (trace : List SessionItem) (s : GameSession R) : Prop :=
  Run Initial Move trace s

theorem MoveRuns.moves {trace items : List SessionItem} {s s' : GameSession R}
    (run : MoveRuns trace s) (moves : Moves s items s') : MoveRuns (items.reverse ++ trace) s' := by
  induction moves generalizing trace with
  | nil => exact run
  | cons move _ ih =>
      rw [List.reverse_append, List.append_assoc]
      exact ih (.next run move)

/-! ## The operations are made of moves -/

theorem firstContact_spec {projectile : Projectile R} {key : String} :
    ∀ {entries : List (String × PlayerRuntimeState R)},
      (firstContact projectile entries).1 = some key →
      ∃ runtime, (key, runtime) ∈ entries ∧ runtime.state.isAlive = true ∧
        runtime.state.playerId ≠ projectile.ownerId
  | (key', runtime) :: rest, found => by
      rw [firstContact] at found
      by_cases skipped : (!runtime.state.isAlive ||
          runtime.state.playerId == projectile.ownerId) = true
      · rw [if_pos skipped] at found
        obtain ⟨runtime', member, spec⟩ := firstContact_spec found
        exact ⟨runtime', List.mem_cons_of_mem _ member, spec⟩
      · rw [if_neg skipped] at found
        by_cases touching : touches projectile runtime.state = true
        · rw [if_pos touching] at found
          cases found
          simp only [Bool.or_eq_true, Bool.not_eq_true', beq_iff_eq, not_or,
            Bool.not_eq_false] at skipped
          exact ⟨runtime, List.mem_cons_self, skipped⟩
        · rw [if_neg touching] at found
          obtain ⟨runtime', member, spec⟩ := firstContact_spec found
          exact ⟨runtime', List.mem_cons_of_mem _ member, spec⟩

omit [DoubleArith R] in
/-- A hit neither reads nor changes the stored projectiles. -/
theorem registerHit_projectiles (s : GameSession R) (tick : Nat) (projectile : Projectile R)
    (key : String) (runtime : PlayerRuntimeState R) (projectiles : List (Projectile R)) :
    ({ s with projectiles }.registerHit tick projectile key runtime).1 =
      { (s.registerHit tick projectile key runtime).1 with projectiles } ∧
    ({ s with projectiles }.registerHit tick projectile key runtime).2 =
      (s.registerHit tick projectile key runtime).2 := by
  unfold registerHit
  dsimp only
  split <;> exact ⟨rfl, rfl⟩

/-- Whether a contact is announced as a death. -/
def announces (runtime : PlayerRuntimeState R) : Bool :=
  (runtime.health.applyDamage kDamagePerHit).1 && !runtime.deathAnnounced

omit [DoubleArith R] in
theorem registerHit_events (s : GameSession R) (tick : Nat) (projectile : Projectile R)
    (key : String) (runtime : PlayerRuntimeState R) :
    (s.registerHit tick projectile key runtime).2 =
      hitEvent tick projectile runtime ::
        if announces runtime then [deathEvent tick projectile runtime] else [] := by
  unfold registerHit announces
  dsimp only
  split <;> rfl

omit [DoubleArith R] in
theorem registerHit_log (s : GameSession R) (tick : Nat) (projectile : Projectile R)
    (key : String) (runtime : PlayerRuntimeState R) :
    (s.registerHit tick projectile key runtime).1.combatLog =
      (s.registerHit tick projectile key runtime).2.foldl CombatLog.add s.combatLog := by
  unfold registerHit
  dsimp only
  split <;> rfl

omit [DoubleArith R] in
theorem registerHit_totals (s : GameSession R) (tick : Nat) (projectile : Projectile R)
    (key : String) (runtime : PlayerRuntimeState R) :
    (s.registerHit tick projectile key runtime).1.projectilesHitsTotal = s.projectilesHitsTotal + 1 ∧
    (s.registerHit tick projectile key runtime).1.playersDeadTotal =
      s.playersDeadTotal + (announces runtime).toNat ∧
    (s.registerHit tick projectile key runtime).1.pendingDeaths =
      s.pendingDeaths ++ (if announces runtime then [deathEvent tick projectile runtime] else []) ∧
    (s.registerHit tick projectile key runtime).1.projectilesSpawnedTotal =
      s.projectilesSpawnedTotal ∧
    (s.registerHit tick projectile key runtime).1.projectileCounter = s.projectileCounter := by
  unfold registerHit announces
  dsimp only
  split
  · next died => simp [died, appendCombatEvent]
  · next survived => simp [survived, appendCombatEvent]

omit [DoubleArith R] in
/-- The entries after a hit of a player by another one. -/
theorem registerHit_find (s : GameSession R) (tick : Nat) (projectile : Projectile R) (key : String)
    (runtime : PlayerRuntimeState R) (other : projectile.ownerId ≠ key) (playerId : String) :
    (s.registerHit tick projectile key runtime).1.players.find playerId =
      if playerId = key then
        (s.players.find playerId).map fun runtime' =>
          if announces runtime then runtime'.takeHit.announceDeath else runtime'.takeHit
      else if playerId = projectile.ownerId then
        (s.players.find playerId).map .creditHit
      else s.players.find playerId := by
  unfold registerHit announces
  dsimp only
  split
  · by_cases target : playerId = key
    · subst target
      simp [Ne.symm other, appendCombatEvent, Function.comp_def]
    · by_cases shooter : playerId = projectile.ownerId
      · subst shooter
        simp [target, appendCombatEvent]
      · simp [target, shooter, appendCombatEvent]
  · by_cases target : playerId = key
    · subst target
      simp [Ne.symm other, appendCombatEvent]
    · by_cases shooter : playerId = projectile.ownerId
      · subst shooter
        simp [target, appendCombatEvent]
      · simp [target, shooter, appendCombatEvent]

theorem collide_moves (s : GameSession R) (tick : Nat) (projectile : Projectile R)
    (before after : List (Projectile R)) :
    Moves { s with projectiles := before ++ projectile :: after }
      ((s.collide tick projectile).2.2.2.map .combat)
      { (s.collide tick projectile).1 with
        projectiles := before ++ (s.collide tick projectile).2.1 :: after } := by
  unfold collide
  by_cases active : projectile.active = true
  · simp only [active, Bool.not_true, Bool.false_eq_true, if_false]
    cases found : (firstContact projectile s.players.entries).1 with
    | none => exact .nil _
    | some key =>
        obtain ⟨runtime, member, alive, other⟩ := firstContact_spec found
        have present := (s.players.find_eq_some_iff key runtime).mpr member
        simp only [Option.bind_some, present, Option.map_some]
        have hit := Move.hit { s with projectiles := before ++ projectile :: after } tick rfl active
          present alive other
        rw [(registerHit_projectiles ..).1, (registerHit_projectiles ..).2] at hit
        exact hit.single
  · simp only [active, Bool.not_false, if_true]
    exact .nil _

theorem sweep_moves (tick : Nat) :
    ∀ (rest before : List (Projectile R)) (s : GameSession R),
      Moves { s with projectiles := before ++ rest } ((sweep tick rest s).2.2.2.map .combat)
        { (sweep tick rest s).1 with projectiles := before ++ (sweep tick rest s).2.1 }
  | [], before, s => .nil _
  | projectile :: rest, before, s => by
      have first := collide_moves s tick projectile before rest
      have later := sweep_moves tick rest (before ++ [(s.collide tick projectile).2.1])
        (s.collide tick projectile).1
      rw [List.append_assoc, List.singleton_append, List.append_assoc,
        List.singleton_append] at later
      have both := first.append later
      rw [← List.map_append] at both
      exact both

theorem tick_moves (s : GameSession R) (tick : Nat) (deltaSeconds : R)
    (settled : ∀ projectile ∈ s.projectiles, projectile.active = true) :
    Moves s
      (.ticked tick :: ((s.moveProjectiles deltaSeconds).expiredItems ++
        (s.tick tick deltaSeconds).2.map .combat))
      (s.tick tick deltaSeconds).1 := by
  let moved := s.moveProjectiles deltaSeconds
  let swept := sweep tick moved.projectiles moved
  have first := (Move.moveProjectiles s tick deltaSeconds settled).single
  have second : Moves moved (swept.2.2.2.map .combat) { swept.1 with projectiles := swept.2.1 } :=
    sweep_moves tick moved.projectiles [] moved
  have third := (Move.settle { swept.1 with projectiles := swept.2.1 } swept.2.2.1).single
  have all := (first.append second).append third
  rw [List.append_nil, List.cons_append] at all
  exact all

/-- An input makes no projectile, or the constructor throws, or one is made. -/
theorem trySpawnProjectile_cases (s : GameSession R) (runtime : PlayerRuntimeState R)
    (input : MovementInput R) :
    s.trySpawnProjectile runtime input = (s, runtime, .ok false) ∨
    (∃ thrown, s.trySpawnProjectile runtime input =
      ({ s with projectileCounter := s.projectileCounter + 1 },
        { runtime with lastFireTime := s.elapsedTime }, .error thrown)) ∨
    ∃ projectile : Projectile R, runtime.state.isAlive = true ∧
      projectile.id = "projectile-" ++ toString (s.projectileCounter + 1) ∧
      projectile.ownerId = runtime.state.playerId ∧ projectile.active = true ∧
      s.trySpawnProjectile runtime input =
        ({ s with
            projectileCounter := s.projectileCounter + 1
            projectiles := s.projectiles ++ [projectile]
            projectilesSpawnedTotal := s.projectilesSpawnedTotal + 1 },
          { runtime with
            lastFireTime := s.elapsedTime
            shotsFired := runtime.shotsFired + 1
            state := { runtime.state with shotsFired := runtime.shotsFired + 1 } },
          .ok true) := by
  unfold trySpawnProjectile
  by_cases idle : (!input.fire || !runtime.state.isAlive) = true
  · rw [if_pos idle]
    exact Or.inl rfl
  · rw [if_neg idle]
    dsimp only
    have alive : runtime.state.isAlive = true := by
      simp only [Bool.or_eq_true, Bool.not_eq_true', not_or, Bool.not_eq_false] at idle
      exact idle.2
    split
    · exact Or.inl rfl
    · split
      · exact Or.inl rfl
      · right
        split
        · next thrown _ => exact Or.inl ⟨thrown, rfl⟩
        · next projectile made =>
            obtain ⟨id, owner, active⟩ := Projectile.new_spec made
            exact Or.inr ⟨projectile, alive, id, owner, active, rfl⟩

omit [DoubleArith R] in
theorem spawnedItems_of_append (made : List (Projectile R)) (s s' : GameSession R)
    (stored : s'.projectiles = s.projectiles ++ made) :
    s.spawnedItems s' = made.map fun projectile => .spawned projectile.id projectile.ownerId := by
  rw [spawnedItems, stored, List.drop_left]

omit [DoubleArith R] in
theorem spawnedItems_of_same (s s' : GameSession R) (stored : s'.projectiles = s.projectiles) :
    s.spawnedItems s' = [] := by
  rw [spawnedItems, stored, List.drop_length, List.map_nil]

theorem applyInput_moves (s : GameSession R) (playerId : String) (input : MovementInput R)
    (deltaSeconds : R) :
    Moves s (.input playerId :: s.spawnedItems (s.applyInput playerId input deltaSeconds).1)
      (s.applyInput playerId input deltaSeconds).1 := by
  have received := Move.receive s playerId
  have unchanged : s.spawnedItems s = [] := spawnedItems_of_same s s rfl
  unfold applyInput
  cases present : s.players.find playerId with
  | none =>
      dsimp only
      rw [unchanged]
      exact received.single
  | some runtime =>
      dsimp only
      by_cases stale : input.sequence < runtime.state.lastSequence
      · rw [if_pos stale, unchanged]
        exact received.single
      · rw [if_neg stale]
        generalize moved : (if runtime.state.isAlive = true then _ else _ : PlayerState R) = state
        have steered : ∀ lastFireTime, Steered runtime { runtime with state, lastFireTime } := by
          intro lastFireTime
          rw [← moved]
          split
          · exact ⟨_, _, _, _, _, rfl⟩
          · exact ⟨_, _, _, _, _, rfl⟩
        rcases s.trySpawnProjectile_cases { runtime with state } input with
          tried | ⟨thrown, tried⟩ | ⟨projectile, alive, id, owner, active, tried⟩
        · rw [tried]
          dsimp only
          rw [spawnedItems_of_same]
          · exact received.single.append (Move.steer s present (steered runtime.lastFireTime)).single
          · rfl
        · rw [tried]
          dsimp only
          rw [spawnedItems_of_same]
          · have numbered := (Move.number s).single
            have steer := Move.steer { s with projectileCounter := s.projectileCounter + 1 } present
              (steered s.elapsedTime)
            exact received.single.append (numbered.append steer.single)
          · rfl
        · rw [tried]
          dsimp only
          rw [spawnedItems_of_append [projectile] s]
          swap
          · rfl
          have steer := Move.steer s present (steered s.elapsedTime)
          -- the projectile is made for the entry as it is after the steering
          have found : (s.players.adjust playerId fun _ =>
              { runtime with state, lastFireTime := s.elapsedTime }).find playerId =
                some { runtime with state, lastFireTime := s.elapsedTime } := by
            rw [UnorderedMap.find_adjust, if_pos rfl, present, Option.map_some]
          have spawn := Move.spawn { s with players := s.players.adjust playerId fun _ =>
              { runtime with state, lastFireTime := s.elapsedTime } } found alive id owner active
          have both := received.single.append (steer.single.append spawn.single)
          rw [UnorderedMap.adjust_adjust] at both
          exact both

theorem perform_upsertPlayer {playerId : String} {s s' : GameSession R} {items : List SessionItem}
    (performed : perform (.upsertPlayer playerId) s = some (items, s')) : playerId ≠ "" ∧
      items = [.upserted playerId (!s.players.contains playerId)] ∧ s' = s.upsertPlayer playerId := by
  by_cases unnamed : playerId = ""
  · simp [perform, unnamed] at performed
  · simp only [perform, if_neg unnamed] at performed
    cases performed
    exact ⟨unnamed, rfl, rfl⟩

theorem perform_moves {op : SessionOp R} {s s' : GameSession R} {items : List SessionItem}
    (settled : ∀ projectile ∈ s.projectiles, projectile.active = true)
    (performed : perform op s = some (items, s')) : Moves s items s' := by
  cases op with
  | upsertPlayer playerId =>
      obtain ⟨named, rfl, rfl⟩ := perform_upsertPlayer performed
      exact (Move.upsert s named).single
  | removePlayer playerId =>
      cases performed
      exact (Move.remove s playerId settled).single
  | applyInput playerId input deltaSeconds =>
      cases performed
      exact s.applyInput_moves playerId input deltaSeconds
  | tick tick deltaSeconds =>
      cases performed
      exact s.tick_moves tick deltaSeconds settled
  | consumeDeathEvents =>
      cases performed
      exact (Move.consume s).single
  | reorder order =>
      cases performed
      exact (Move.reorder s order).single

/-- An operation leaves only active projectiles behind. -/
theorem perform_settled {op : SessionOp R} {s s' : GameSession R} {items : List SessionItem}
    (settled : ∀ projectile ∈ s.projectiles, projectile.active = true)
    (performed : perform op s = some (items, s')) :
    ∀ projectile ∈ s'.projectiles, projectile.active = true := by
  cases op with
  | upsertPlayer playerId =>
      obtain ⟨-, -, rfl⟩ := perform_upsertPlayer performed
      exact settled
  | removePlayer playerId =>
      cases performed
      intro projectile member
      exact settled projectile (List.mem_filter.mp member).1
  | applyInput playerId input deltaSeconds =>
      cases performed
      unfold applyInput
      cases s.players.find playerId with
      | none => exact settled
      | some runtime =>
          dsimp only
          split
          · exact settled
          · rcases s.trySpawnProjectile_cases _ input with
              tried | ⟨thrown, tried⟩ | ⟨projectile, alive, id, owner, active, tried⟩
            · rw [tried]
              exact settled
            · rw [tried]
              exact settled
            · rw [tried]
              intro other member
              rcases List.mem_append.mp member with old | new
              · exact settled other old
              · rw [List.mem_singleton.mp new]
                exact active
  | tick tick deltaSeconds =>
      cases performed
      intro projectile member
      exact (List.mem_filter.mp member).2
  | consumeDeathEvents =>
      cases performed
      exact settled
  | reorder order =>
      cases performed
      exact settled

/-- Every run is a run by moves that ends with active projectiles only. -/
theorem Runs.byMoves {trace : List SessionItem} {s : GameSession R} (run : Runs trace s) :
    MoveRuns trace s ∧ ∀ projectile ∈ s.projectiles, projectile.active = true := by
  refine Run.invariant (P := fun trace s =>
    MoveRuns trace s ∧ ∀ projectile ∈ s.projectiles, projectile.active = true) ?_ ?_ run
  · rintro s rfl
    refine ⟨.start rfl, ?_⟩
    intro projectile member
    cases member
  · rintro trace s items s' - ⟨moves, settled⟩ ⟨op, performed⟩
    exact ⟨moves.moves (perform_moves settled performed), perform_settled settled performed⟩

end GameSession

end Arena60
