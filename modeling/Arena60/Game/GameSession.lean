import Arena60.Game.Combat
import Arena60.Game.Projectile
import Arena60.Misc.UnorderedMap

/-!
# The game session

`game_session.{h,cpp}`, `movement.h` and `player_state.h`. Each public operation holds
the mutex of the session, so it is one function of the session; an operation that throws
still returns the session with what it had changed by then. `tick` also returns the
combat events it appended, which the bounded log may have dropped again.
-/

namespace Arena60

open Misc Misc.DoubleArith

universe u

/-- `MovementInput`. -/
structure MovementInput (R : Type u) where
  sequence : Nat
  up : Bool
  down : Bool
  left : Bool
  right : Bool
  mouseX : R
  mouseY : R
  fire : Bool

/-- `PlayerState`. -/
structure PlayerState (R : Type u) where
  playerId : String
  x : R
  y : R
  facingRadians : R
  lastSequence : Nat
  health : Int
  isAlive : Bool
  shotsFired : Nat
  hitsLanded : Nat
  deaths : Nat

/-- `GameSession::PlayerRuntimeState`. -/
structure PlayerRuntimeState (R : Type u) where
  state : PlayerState R
  health : HealthComponent
  lastFireTime : R
  deathAnnounced : Bool
  shotsFired : Nat
  hitsLanded : Nat
  deaths : Nat

/-- `GameSession`. -/
structure GameSession (R : Type u) where
  speedPerSecond : R
  elapsedTime : R
  projectileCounter : Nat
  combatLog : CombatLog
  projectiles : List (Projectile R)
  pendingDeaths : List CombatEvent
  projectilesSpawnedTotal : Nat
  projectilesHitsTotal : Nat
  playersDeadTotal : Nat
  collisionsCheckedTotal : Nat
  players : UnorderedMap String (PlayerRuntimeState R)

section constants

variable {R : Type u} [DoubleArith R]

/-- `kPlayerSpeed`, meters per second. -/
def kPlayerSpeed : R := ofRat 5

/-- `kPlayerRadius`, meters. -/
def kPlayerRadius : R := ofRat (1 / 2)

/-- `kFireCooldown`, seconds. -/
def kFireCooldown : R := ofRat (1 / 10)

/-- `kSpawnOffset`, meters. -/
def kSpawnOffset : R := ofRat (3 / 10)

/-- The least length of an aim vector that is accepted. -/
def kMinAim : R := ofRat (1 / 10 ^ 6)

end constants

/-- `kDamagePerHit`. -/
def kDamagePerHit : Int := 20

namespace PlayerRuntimeState

variable {R : Type u} [DoubleArith R]

/-- A default-initialized entry of `players_`. -/
def default : PlayerRuntimeState R where
  state :=
    { playerId := "", x := ofRat 0, y := ofRat 0, facingRadians := ofRat 0, lastSequence := 0
      health := 100, isAlive := true, shotsFired := 0, hitsLanded := 0, deaths := 0 }
  health := .new
  lastFireTime := lowest
  deathAnnounced := false
  shotsFired := 0
  hitsLanded := 0
  deaths := 0

/-- What `UpsertPlayer` does to the entry of the player. -/
def enter (playerId : String) (runtime : PlayerRuntimeState R) : PlayerRuntimeState R :=
  let runtime :=
    if runtime.state.playerId == "" then
      { runtime with
        state :=
          { runtime.state with
            playerId, x := ofRat 0, y := ofRat 0, facingRadians := ofRat 0, lastSequence := 0
            shotsFired := 0, hitsLanded := 0, deaths := 0 }
        shotsFired := 0
        hitsLanded := 0
        deaths := 0 }
    else runtime
  let health := runtime.health.reset
  { runtime with
    health
    state := { runtime.state with health := health.current, isAlive := health.isAlive }
    deathAnnounced := false
    lastFireTime := lowest }

/-- The part of `ApplyInput` that moves a living player. -/
def steer (speedPerSecond : R) (input : MovementInput R) (deltaSeconds : R)
    (state : PlayerState R) : PlayerState R :=
  let dx := ofRat 0
  let dy := ofRat 0
  let dy := if input.up then dy - ofRat 1 else dy
  let dy := if input.down then dy + ofRat 1 else dy
  let dx := if input.left then dx - ofRat 1 else dx
  let dx := if input.right then dx + ofRat 1 else dx
  let magnitude := sqrt (dx * dx + dy * dy)
  let (dx, dy) := if less (ofRat 0) magnitude then (dx / magnitude, dy / magnitude) else (dx, dy)
  let distance := speedPerSecond * deltaSeconds
  { state with x := state.x + dx * distance, y := state.y + dy * distance }

omit [DoubleArith R] in
/-- The shooter's part of a hit. -/
def creditHit (runtime : PlayerRuntimeState R) : PlayerRuntimeState R :=
  { runtime with
    hitsLanded := runtime.hitsLanded + 1
    state := { runtime.state with hitsLanded := runtime.hitsLanded + 1 } }

omit [DoubleArith R] in
/-- The target's part of a hit. -/
def takeHit (runtime : PlayerRuntimeState R) : PlayerRuntimeState R :=
  let health := (runtime.health.applyDamage kDamagePerHit).2
  { runtime with
    health
    state := { runtime.state with health := health.current, isAlive := health.isAlive } }

omit [DoubleArith R] in
/-- The target's part of the announcement of its death. -/
def announceDeath (runtime : PlayerRuntimeState R) : PlayerRuntimeState R :=
  { runtime with
    deathAnnounced := true
    deaths := runtime.deaths + 1
    state := { runtime.state with deaths := runtime.deaths + 1 } }

end PlayerRuntimeState

/-- The distance test of a projectile and a player: first the bounding box, then the
circle. -/
def touches {R : Type u} [DoubleArith R] (projectile : Projectile R) (state : PlayerState R) :
    Bool :=
  let dx := projectile.x - state.x
  let dy := projectile.y - state.y
  let radiusSum : R := kRadius + kPlayerRadius
  if less radiusSum (DoubleArith.abs dx) || less radiusSum (DoubleArith.abs dy) then false
  else
    let distanceSq := dx * dx + dy * dy
    lessEq distanceSq (radiusSum * radiusSum)

/-- The inner loop of `UpdateProjectilesLocked`: the key of the player hit, if any, and
the number of pairs checked. -/
def firstContact {R : Type u} [DoubleArith R] (projectile : Projectile R) :
    List (String × PlayerRuntimeState R) → Option String × Nat
  | [] => (none, 0)
  | (key, runtime) :: rest =>
      if !runtime.state.isAlive || runtime.state.playerId == projectile.ownerId then
        firstContact projectile rest
      else if touches projectile runtime.state then (some key, 1)
      else
        let (found, checked) := firstContact projectile rest
        (found, checked + 1)

namespace GameSession

variable {R : Type u} [DoubleArith R]

/-- The constructor. -/
def new : GameSession R where
  speedPerSecond := kPlayerSpeed
  elapsedTime := ofRat 0
  projectileCounter := 0
  combatLog := .new 32
  projectiles := []
  pendingDeaths := []
  projectilesSpawnedTotal := 0
  projectilesHitsTotal := 0
  playersDeadTotal := 0
  collisionsCheckedTotal := 0
  players := .empty

/-- `GameSession::UpsertPlayer`. -/
def upsertPlayer (s : GameSession R) (playerId : String) : GameSession R :=
  { s with players := s.players.upsert playerId .default (.enter playerId) }

omit [DoubleArith R] in
/-- `GameSession::RemovePlayer`. -/
def removePlayer (s : GameSession R) (playerId : String) : GameSession R :=
  { s with
    players := s.players.erase playerId
    projectiles := s.projectiles.filter fun projectile => projectile.ownerId ≠ playerId }

/-- `GameSession::TrySpawnProjectile`: the session and the player's entry afterwards, and
whether a projectile was made or the constructor threw. -/
def trySpawnProjectile (s : GameSession R) (runtime : PlayerRuntimeState R)
    (input : MovementInput R) : GameSession R × PlayerRuntimeState R × Except GameError Bool :=
  if !input.fire || !runtime.state.isAlive then (s, runtime, .ok false)
  else
    let aimMagnitude := sqrt (input.mouseX * input.mouseX + input.mouseY * input.mouseY)
    if less aimMagnitude kMinAim then (s, runtime, .ok false)
    else if less (s.elapsedTime - runtime.lastFireTime) kFireCooldown then (s, runtime, .ok false)
    else
      let runtime := { runtime with lastFireTime := s.elapsedTime }
      let dirX := input.mouseX / aimMagnitude
      let dirY := input.mouseY / aimMagnitude
      let spawnX := runtime.state.x + dirX * kSpawnOffset
      let spawnY := runtime.state.y + dirY * kSpawnOffset
      let s := { s with projectileCounter := s.projectileCounter + 1 }
      match Projectile.new ("projectile-" ++ toString s.projectileCounter) runtime.state.playerId
          spawnX spawnY dirX dirY s.elapsedTime with
      | .error thrown => (s, runtime, .error thrown)
      | .ok projectile =>
          ({ s with
              projectiles := s.projectiles ++ [projectile]
              projectilesSpawnedTotal := s.projectilesSpawnedTotal + 1 },
            { runtime with
              shotsFired := runtime.shotsFired + 1
              state := { runtime.state with shotsFired := runtime.shotsFired + 1 } },
            .ok true)

/-- `GameSession::ApplyInput`. -/
def applyInput (s : GameSession R) (playerId : String) (input : MovementInput R)
    (deltaSeconds : R) : GameSession R × Except GameError Unit :=
  match s.players.find playerId with
  | none => (s, .ok ())
  | some runtime =>
      if input.sequence < runtime.state.lastSequence then (s, .ok ())
      else
        let state :=
          { runtime.state with
            lastSequence := input.sequence
            facingRadians := atan2 input.mouseY input.mouseX }
        let state :=
          if state.isAlive then
            PlayerRuntimeState.steer s.speedPerSecond input deltaSeconds state
          else state
        let (s, runtime, outcome) := s.trySpawnProjectile { runtime with state } input
        ({ s with players := s.players.adjust playerId fun _ => runtime }, outcome.map fun _ => ())

omit [DoubleArith R] in
/-- `GameSession::AppendCombatEvent`. -/
def appendCombatEvent (s : GameSession R) (event : CombatEvent) : GameSession R :=
  { s with combatLog := s.combatLog.add event }

/-- The hit event of a contact. -/
def hitEvent (tick : Nat) (projectile : Projectile R) (runtime : PlayerRuntimeState R) :
    CombatEvent where
  type := .hit
  shooterId := projectile.ownerId
  targetId := runtime.state.playerId
  projectileId := projectile.id
  damage := kDamagePerHit
  tick := tick

/-- The death event of a contact. -/
def deathEvent (tick : Nat) (projectile : Projectile R) (runtime : PlayerRuntimeState R) :
    CombatEvent where
  type := .death
  shooterId := projectile.ownerId
  targetId := runtime.state.playerId
  projectileId := projectile.id
  tick := tick

omit [DoubleArith R] in
/-- What a contact with the player stored under `key` does to the session, and the events
it appends. -/
def registerHit (s : GameSession R) (tick : Nat) (projectile : Projectile R) (key : String)
    (runtime : PlayerRuntimeState R) : GameSession R × List CombatEvent :=
  let hit := hitEvent tick projectile runtime
  let s := s.appendCombatEvent hit
  let s := { s with projectilesHitsTotal := s.projectilesHitsTotal + 1 }
  let died := (runtime.health.applyDamage kDamagePerHit).1
  let s := { s with players := s.players.adjust key .takeHit }
  let s := { s with players := s.players.adjust projectile.ownerId .creditHit }
  if died && !runtime.deathAnnounced then
    let death := deathEvent tick projectile runtime
    let s := { s with pendingDeaths := s.pendingDeaths ++ [death] }
    let s := s.appendCombatEvent death
    ({ s with
        playersDeadTotal := s.playersDeadTotal + 1
        players := s.players.adjust key .announceDeath },
      [hit, death])
  else (s, [hit])

/-- One round of the outer loop of `UpdateProjectilesLocked`: the session, the projectile,
the pairs checked and the events appended. -/
def collide (s : GameSession R) (tick : Nat) (projectile : Projectile R) :
    GameSession R × Projectile R × Nat × List CombatEvent :=
  if !projectile.active then (s, projectile, 0, [])
  else
    let (found, checked) := firstContact projectile s.players.entries
    match found.bind fun key => (s.players.find key).map (key, ·) with
    | none => (s, projectile, checked, [])
    | some (key, runtime) =>
        let (s, events) := s.registerHit tick projectile key runtime
        (s, projectile.deactivate, checked, events)

/-- The outer loop of `UpdateProjectilesLocked`. -/
def sweep (tick : Nat) :
    List (Projectile R) → GameSession R → GameSession R × List (Projectile R) × Nat × List CombatEvent
  | [], s => (s, [], 0, [])
  | projectile :: rest, s =>
      let (s, projectile, checked, events) := s.collide tick projectile
      let (s, rest, checked', events') := sweep tick rest s
      (s, projectile :: rest, checked + checked', events ++ events')

/-- The first loop of `UpdateProjectilesLocked`. -/
def moveProjectile (elapsedTime deltaSeconds : R) (projectile : Projectile R) : Projectile R :=
  let projectile := projectile.advance deltaSeconds
  if projectile.isExpired elapsedTime then projectile.deactivate else projectile

/-- The session after the first loop of `UpdateProjectilesLocked`. -/
def moveProjectiles (s : GameSession R) (deltaSeconds : R) : GameSession R :=
  let elapsedTime := s.elapsedTime + deltaSeconds
  { s with elapsedTime, projectiles := s.projectiles.map (moveProjectile elapsedTime deltaSeconds) }

/-- `GameSession::UpdateProjectilesLocked`, with the events it appends. -/
def updateProjectilesLocked (s : GameSession R) (tick : Nat) (deltaSeconds : R) :
    GameSession R × List CombatEvent :=
  let s := s.moveProjectiles deltaSeconds
  let (s, projectiles, pairsChecked, events) := sweep tick s.projectiles s
  ({ s with
      collisionsCheckedTotal := s.collisionsCheckedTotal + pairsChecked
      projectiles := projectiles.filter fun projectile => projectile.active },
    events)

/-- `GameSession::Tick`, with the events it appends. -/
def tick (s : GameSession R) (tick : Nat) (deltaSeconds : R) : GameSession R × List CombatEvent :=
  s.updateProjectilesLocked tick deltaSeconds

omit [DoubleArith R] in
/-- `GameSession::GetPlayer`. -/
def getPlayer (s : GameSession R) (playerId : String) : Except GameError (PlayerState R) :=
  match s.players.find playerId with
  | none => .error (.runtimeError "player not found")
  | some runtime => .ok runtime.state

omit [DoubleArith R] in
/-- `GameSession::Snapshot`. -/
def snapshot (s : GameSession R) : List (PlayerState R) :=
  s.players.entries.map fun entry => entry.2.state

omit [DoubleArith R] in
/-- `GameSession::ConsumeDeathEvents`. -/
def consumeDeathEvents (s : GameSession R) : List CombatEvent × GameSession R :=
  (s.pendingDeaths, { s with pendingDeaths := [] })

omit [DoubleArith R] in
/-- `GameSession::CombatLogSnapshot`. -/
def combatLogSnapshot (s : GameSession R) : List CombatEvent := s.combatLog.snapshot

end GameSession

end Arena60
