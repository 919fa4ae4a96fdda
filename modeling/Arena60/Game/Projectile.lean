import Arena60.Misc.DoubleArith

/-!
# Projectiles

`projectile.{h,cpp}`. The constructor rejects a direction without length.
-/

namespace Arena60

open Misc Misc.DoubleArith

universe u

/-- The exceptions of the game code. -/
inductive GameError where
  | invalidArgument (what : String)
  | runtimeError (what : String)
  deriving DecidableEq, Repr

/-- `Projectile`. -/
structure Projectile (R : Type u) where
  id : String
  ownerId : String
  x : R
  y : R
  dirX : R
  dirY : R
  spawnTime : R
  active : Bool := true

section constants

variable {R : Type u} [DoubleArith R]

/-- `kEpsilon`. -/
def kEpsilon : R := ofRat (1 / 10 ^ 9)

/-- `Projectile::kSpeed_`, meters per second. -/
def kSpeed : R := ofRat 30

/-- `Projectile::kLifetime_`, seconds. -/
def kLifetime : R := ofRat (3 / 2)

/-- `Projectile::kRadius_`, meters. -/
def kRadius : R := ofRat (1 / 5)

end constants

namespace Projectile

variable {R : Type u} [DoubleArith R]

/-- The constructor. -/
def new (id ownerId : String) (x y dirX dirY spawnTime : R) : Except GameError (Projectile R) :=
  let magnitude := sqrt (dirX * dirX + dirY * dirY)
  if less magnitude kEpsilon then
    .error (.invalidArgument "Projectile direction must be non-zero")
  else
    .ok { id, ownerId, x, y, dirX := dirX / magnitude, dirY := dirY / magnitude, spawnTime }

/-- `Projectile::Advance`. -/
def advance (projectile : Projectile R) (deltaSeconds : R) : Projectile R :=
  if !projectile.active then projectile
  else
    { projectile with
      x := projectile.x + projectile.dirX * kSpeed * deltaSeconds
      y := projectile.y + projectile.dirY * kSpeed * deltaSeconds }

/-- `Projectile::IsExpired`. -/
def isExpired (projectile : Projectile R) (nowSeconds : R) : Bool :=
  if !projectile.active then true else lessEq kLifetime (nowSeconds - projectile.spawnTime)

omit [DoubleArith R] in
/-- `Projectile::Deactivate`. -/
def deactivate (projectile : Projectile R) : Projectile R := { projectile with active := false }

@[simp] theorem advance_id (projectile : Projectile R) (delta : R) :
    (projectile.advance delta).id = projectile.id := by
  unfold advance
  split <;> rfl

@[simp] theorem advance_ownerId (projectile : Projectile R) (delta : R) :
    (projectile.advance delta).ownerId = projectile.ownerId := by
  unfold advance
  split <;> rfl

/-- A projectile that is made carries the id and owner it is given and is active. -/
theorem new_spec {id ownerId : String} {x y dirX dirY spawnTime : R} {projectile : Projectile R}
    (made : new id ownerId x y dirX dirY spawnTime = .ok projectile) :
    projectile.id = id ∧ projectile.ownerId = ownerId ∧ projectile.active = true := by
  unfold new at made
  dsimp only at made
  split at made
  · cases made
  · cases made
    exact ⟨rfl, rfl, rfl⟩

/-- A projectile that is made carries the time it is given. -/
theorem new_spawnTime {id ownerId : String} {x y dirX dirY spawnTime : R} {projectile : Projectile R}
    (made : new id ownerId x y dirX dirY spawnTime = .ok projectile) :
    projectile.spawnTime = spawnTime := by
  unfold new at made
  dsimp only at made
  split at made
  · cases made
  · cases made
    rfl

end Projectile

end Arena60
