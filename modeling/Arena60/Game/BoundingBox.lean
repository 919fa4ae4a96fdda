import Arena60.Game.HashOrder
import Arena60.Game.StraightShot

/-!
# The bounding box

`UpdateProjectilesLocked` skips a pair when one coordinate alone is out of reach, before it looks at
the distance. In exact arithmetic the update without that test is the same, and it hits by distance.
-/

namespace Arena60

open Misc Misc.DoubleArith Misc.RealArith

universe u

section withoutBoundingBox

variable {R : Type u} [DoubleArith R]

/-- The distance test without the bounding box. -/
def inCircle (projectile : Projectile R) (state : PlayerState R) : Bool :=
  let dx := projectile.x - state.x
  let dy := projectile.y - state.y
  let radiusSum : R := kRadius + kPlayerRadius
  let distanceSq := dx * dx + dy * dy
  lessEq distanceSq (radiusSum * radiusSum)

/-- The inner loop of `UpdateProjectilesLocked` without the bounding box. -/
def firstInCircle (projectile : Projectile R) :
    List (String × PlayerRuntimeState R) → Option String × Nat
  | [] => (none, 0)
  | (key, runtime) :: rest =>
      if !runtime.state.isAlive || runtime.state.playerId == projectile.ownerId then
        firstInCircle projectile rest
      else if inCircle projectile runtime.state then (some key, 1)
      else
        let (found, checked) := firstInCircle projectile rest
        (found, checked + 1)

namespace GameSession

/-- One round of the outer loop without the bounding box. -/
def collideInCircle (s : GameSession R) (tick : Nat) (projectile : Projectile R) :
    GameSession R × Projectile R × Nat × List CombatEvent :=
  if !projectile.active then (s, projectile, 0, [])
  else
    let (found, checked) := firstInCircle projectile s.players.entries
    match found.bind fun key => (s.players.find key).map (key, ·) with
    | none => (s, projectile, checked, [])
    | some (key, runtime) =>
        let (s, events) := s.registerHit tick projectile key runtime
        (s, projectile.deactivate, checked, events)

/-- The outer loop without the bounding box. -/
def sweepInCircle (tick : Nat) :
    List (Projectile R) → GameSession R → GameSession R × List (Projectile R) × Nat × List CombatEvent
  | [], s => (s, [], 0, [])
  | projectile :: rest, s =>
      let (s, projectile, checked, events) := s.collideInCircle tick projectile
      let (s, rest, checked', events') := sweepInCircle tick rest s
      (s, projectile :: rest, checked + checked', events ++ events')

/-- `GameSession::UpdateProjectilesLocked` without the bounding box. -/
def updateProjectilesInCircle (s : GameSession R) (tick : Nat) (deltaSeconds : R) :
    GameSession R × List CombatEvent :=
  let s := s.moveProjectiles deltaSeconds
  let (s, projectiles, pairsChecked, events) := sweepInCircle tick s.projectiles s
  ({ s with
      collisionsCheckedTotal := s.collisionsCheckedTotal + pairsChecked
      projectiles := projectiles.filter fun projectile => projectile.active },
    events)

end GameSession

/-! ## The same update -/

variable (same : ∀ (projectile : Projectile R) (state : PlayerState R),
  touches projectile state = inCircle projectile state)

include same

theorem firstInCircle_eq (projectile : Projectile R)
    (entries : List (String × PlayerRuntimeState R)) :
    firstInCircle projectile entries = firstContact projectile entries := by
  induction entries with
  | nil => rfl
  | cons entry entries ih =>
      obtain ⟨key, runtime⟩ := entry
      rw [firstInCircle, firstContact, ih, same]

namespace GameSession

theorem sweepInCircle_eq (tick : Nat) (projectiles : List (Projectile R)) :
    ∀ s : GameSession R, sweepInCircle tick projectiles s = sweep tick projectiles s := by
  induction projectiles with
  | nil => exact fun s => rfl
  | cons projectile projectiles ih =>
      intro s
      have round : s.collideInCircle tick projectile = s.collide tick projectile := by
        rw [collideInCircle, firstInCircle_eq same]
        rfl
      rw [sweepInCircle, sweep, round]
      simp only [ih]

/-- Where both tests agree the bounding box changes nothing. -/
theorem updateProjectilesInCircle_eq (s : GameSession R) (tick : Nat) (deltaSeconds : R) :
    s.updateProjectilesInCircle tick deltaSeconds = s.updateProjectilesLocked tick deltaSeconds := by
  rw [updateProjectilesInCircle, updateProjectilesLocked, sweepInCircle_eq same]

end GameSession

end withoutBoundingBox

/-! ## Exact arithmetic -/

open GameSession

/-- The center of the player is within 0.7 meters of the projectile. -/
def WithinReach (projectile : Projectile ℝ) (state : PlayerState ℝ) : Prop :=
  √((projectile.x - state.x) ^ 2 + (projectile.y - state.y) ^ 2) ≤ 7 / 10

theorem inCircle_iff (projectile : Projectile ℝ) (state : PlayerState ℝ) :
    inCircle projectile state = true ↔ WithinReach projectile state := by
  have radius : (0 : ℝ) ≤ 7 / 10 := by norm_num
  unfold inCircle WithinReach
  dsimp only
  rw [radiusSum_real, Real.sqrt_le_iff, and_iff_right radius, sq, sq, sq]
  exact decide_eq_true_iff

/-- A coordinate that is out of reach alone puts the center out of reach. -/
theorem outside_of_coordinate {dx dy r : ℝ} (nonneg : 0 ≤ r) (far : r < |dx|) :
    r * r < dx * dx + dy * dy := by
  have square : r * r < |dx| * |dx| := mul_self_lt_mul_self nonneg far
  rw [abs_mul_abs_self] at square
  have rest : 0 ≤ dy * dy := mul_self_nonneg dy
  linarith

theorem touches_eq_inCircle (projectile : Projectile ℝ) (state : PlayerState ℝ) :
    touches projectile state = inCircle projectile state := by
  have radius : (0 : ℝ) ≤ 7 / 10 := by norm_num
  unfold touches inCircle
  dsimp only
  rw [radiusSum_real]
  split_ifs with outside
  · rw [Bool.or_eq_true, less_real, less_real] at outside
    refine (decide_eq_false (not_le.mpr ?_)).symm
    rcases outside with far | far
    · exact outside_of_coordinate radius far
    · rw [add_comm]
      exact outside_of_coordinate radius far
  · rfl

namespace GameSession

open Classical in
/-- The first living player other than the owner within reach of a projectile, in the order of
iteration. -/
noncomputable def firstWithinReach (projectile : Projectile ℝ)
    (players : UnorderedMap String (PlayerRuntimeState ℝ)) :
    Option (String × PlayerRuntimeState ℝ) :=
  players.entries.find? fun entry =>
    entry.2.state.isAlive && entry.2.state.playerId != projectile.ownerId &&
      decide (WithinReach projectile entry.2.state)

open Classical in
theorem firstContact_withinReach (projectile : Projectile ℝ)
    (players : UnorderedMap String (PlayerRuntimeState ℝ)) :
    (firstContact projectile players.entries).1 =
      (firstWithinReach projectile players).map Prod.fst := by
  have candidate : ∀ runtime : PlayerRuntimeState ℝ, isCandidate projectile runtime =
      (runtime.state.isAlive && runtime.state.playerId != projectile.ownerId &&
        decide (WithinReach projectile runtime.state)) := by
    intro runtime
    rw [isCandidate, touches_eq_inCircle]
    congr 1
    rw [Bool.eq_iff_iff, decide_eq_true_iff]
    exact inCircle_iff projectile runtime.state
  rw [firstContact_find, firstWithinReach]
  simp only [candidate]

/-- A hit: the projectile, and the player with the entry it had. -/
structure Contact where
  projectile : Projectile ℝ
  key : String
  runtime : PlayerRuntimeState ℝ

/-- The session after a contact. -/
def registerContact (tick : Nat) (s : GameSession ℝ) (contact : Contact) : GameSession ℝ :=
  (s.registerHit tick contact.projectile contact.key contact.runtime).1

/-- The player a projectile hits at its turn. -/
noncomputable def contactOf (projectile : Projectile ℝ) (s : GameSession ℝ) : Option Contact :=
  if projectile.active then
    (firstWithinReach projectile s.players).map fun entry => ⟨projectile, entry.1, entry.2⟩
  else none

/-- The hits of some projectiles, one after the other: each active one hits the first living player
other than its owner within reach, in the session the hits before it left. -/
noncomputable def contactsInOrder (tick : Nat) : List (Projectile ℝ) → GameSession ℝ → List Contact
  | [], _ => []
  | projectile :: rest, s =>
      match contactOf projectile s with
      | none => contactsInOrder tick rest s
      | some contact => contact :: contactsInOrder tick rest (registerContact tick s contact)

theorem collide_contactOf (s : GameSession ℝ) (tick : Nat) (projectile : Projectile ℝ) :
    (s.collide tick projectile).1 = (contactOf projectile s).elim s (registerContact tick s) ∧
      (s.collide tick projectile).2.2.2.filter (fun event => event.type == .hit) =
        (contactOf projectile s).toList.map fun contact =>
          hitEvent tick contact.projectile contact.runtime := by
  cases active : projectile.active with
  | false =>
      rw [collide_inactive s tick active, contactOf, active]
      exact ⟨rfl, rfl⟩
  | true =>
      have found := firstContact_withinReach projectile s.players
      rw [contactOf, if_pos active]
      cases first : firstWithinReach projectile s.players with
      | none =>
          rw [first] at found
          rw [collide_missed tick active found]
          exact ⟨rfl, rfl⟩
      | some entry =>
          rw [first] at found
          have present := (s.players.find_eq_some_iff entry.1 entry.2).mpr
            (List.mem_of_find?_eq_some first)
          rw [collide_hit tick active found present, registerHit_events]
          refine ⟨rfl, ?_⟩
          cases announces entry.2 <;> rfl

/-- The second loop makes the hits in order. -/
theorem sweep_contactsInOrder (tick : Nat) (projectiles : List (Projectile ℝ)) :
    ∀ s : GameSession ℝ,
      (sweep tick projectiles s).1 =
          (contactsInOrder tick projectiles s).foldl (registerContact tick) s ∧
        (sweep tick projectiles s).2.2.2.filter (fun event => event.type == .hit) =
          (contactsInOrder tick projectiles s).map fun contact =>
            hitEvent tick contact.projectile contact.runtime := by
  induction projectiles with
  | nil => exact fun s => ⟨rfl, rfl⟩
  | cons projectile projectiles ih =>
      intro s
      obtain ⟨session, events⟩ := collide_contactOf s tick projectile
      obtain ⟨session', events'⟩ := ih (s.collide tick projectile).1
      rw [sweep, contactsInOrder]
      dsimp only
      rw [List.filter_append, session', events', events, session]
      cases contactOf projectile s with
      | none => exact ⟨rfl, rfl⟩
      | some contact => exact ⟨rfl, rfl⟩

/-- The hits of `UpdateProjectilesLocked`. -/
noncomputable def contactsOfUpdate (s : GameSession ℝ) (tick : Nat) (deltaSeconds : ℝ) : List Contact :=
  contactsInOrder tick (s.moveProjectiles deltaSeconds).projectiles (s.moveProjectiles deltaSeconds)

/-- The bounding box cannot be seen: without it a session is updated to the same session, with the same
events and the same count of checked pairs, and the active projectiles, in their order, hit the first
living player other than the owner whose center is within 0.7 meters. -/
theorem bounding_box_is_invisible (s : GameSession ℝ) (tick : Nat) (deltaSeconds : ℝ) :
    s.updateProjectilesInCircle tick deltaSeconds = s.updateProjectilesLocked tick deltaSeconds ∧
      (s.updateProjectilesLocked tick deltaSeconds).2.filter (fun event => event.type == .hit) =
        (s.contactsOfUpdate tick deltaSeconds).map (fun contact =>
          hitEvent tick contact.projectile contact.runtime) ∧
      (s.updateProjectilesLocked tick deltaSeconds).1.players =
        ((s.contactsOfUpdate tick deltaSeconds).foldl (registerContact tick)
          (s.moveProjectiles deltaSeconds)).players := by
  obtain ⟨session, events⟩ := sweep_contactsInOrder tick (s.moveProjectiles deltaSeconds).projectiles
    (s.moveProjectiles deltaSeconds)
  refine ⟨updateProjectilesInCircle_eq touches_eq_inCircle s tick deltaSeconds, events, ?_⟩
  show (sweep tick _ _).1.players = _
  rw [session, contactsOfUpdate]

end GameSession

end Arena60
