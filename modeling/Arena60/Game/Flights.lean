import Arena60.Game.ArrivalOrder
import Arena60.Game.HashOrder
import Arena60.Game.ProjectileLedger
import Arena60.Game.Stretches

/-!
# Projectiles in flight

What becomes of one projectile of a duel over several ticks: it hits at the first tick at which it
touches the rival, if the rival has not died of earlier projectiles by then.
-/

namespace Arena60

open Misc Misc.DoubleArith

universe u

namespace GameSession

variable {R : Type u} [DoubleArith R]

/-! ## One contact -/

/-- The events that a contact with a rival appends. -/
def contactEvents (tick : Nat) (projectile : Projectile R) (runtime : PlayerRuntimeState R) : List CombatEvent :=
  if strikes projectile runtime then
    hitEvent tick projectile runtime :: if announces runtime then [deathEvent tick projectile runtime] else []
  else []

theorem collide_rival {shooter target : String} (differ : shooter ≠ target) {s : GameSession R}
    (two : OnlyTwo shooter target s.players) (tick : Nat) {projectile : Projectile R}
    (owner : projectile.ownerId = shooter) {runtime : PlayerRuntimeState R}
    (rival : s.players.find target = some runtime) :
    (s.collide tick projectile).2.1 = (if strikes projectile runtime then projectile.deactivate else projectile) ∧
      (s.collide tick projectile).2.2.2 = contactEvents tick projectile runtime := by
  have result := (collide_duel differ two tick owner).result
  rw [rival, isStruck, Option.any_some] at result
  refine ⟨result, ?_⟩
  have contact := two.contact differ owner
  rw [rival] at contact
  unfold contactEvents strikes
  cases active : projectile.active with
  | false =>
      rw [collide_inactive s tick active]
      rfl
  | true =>
      cases alive : runtime.state.isAlive with
      | false =>
          have missed : (firstContact projectile s.players.entries).1 = none := by
            rw [contact, rivalContact, alive]
            rfl
          rw [collide_missed tick active missed]
          rfl
      | true =>
          cases touched : touches projectile runtime.state with
          | false =>
              have missed : (firstContact projectile s.players.entries).1 = none := by
                rw [contact, rivalContact, alive, touched]
                rfl
              rw [collide_missed tick active missed]
              rfl
          | true =>
              have found : (firstContact projectile s.players.entries).1 = some target := by
                rw [contact, rivalContact, alive, touched]
                rfl
              rw [collide_hit tick active found rival, registerHit_events]
              rfl

/-- The hits of a player by a shooter's projectile with an id. -/
def isHitWith (shooter target id : String) (event : CombatEvent) : Bool :=
  event.type == .hit && event.shooterId == shooter && event.targetId == target && event.projectileId == id

/-- The events about other projectiles are no hits of this one. -/
theorem countP_isHitWith_foreign (shooter target : String) {id : String} {ids : List String}
    {events : List CombatEvent} (about : ∀ event ∈ events, event.projectileId ∈ ids) (foreign : id ∉ ids) :
    events.countP (isHitWith shooter target id) = 0 := by
  rw [List.countP_eq_zero]
  intro event member hit
  have listed := about event member
  simp only [isHitWith, Bool.and_eq_true, beq_iff_eq] at hit
  rw [hit.2] at listed
  exact foreign listed

/-- A contact appends at most one hit. -/
theorem countP_contactEvents {shooter target : String} (tick : Nat) {projectile : Projectile R}
    (owner : projectile.ownerId = shooter) {runtime : PlayerRuntimeState R}
    (named : runtime.state.playerId = target) :
    (contactEvents tick projectile runtime).countP (isHitWith shooter target projectile.id) =
      (strikes projectile runtime).toNat := by
  have hit : isHitWith shooter target projectile.id (hitEvent tick projectile runtime) = true := by
    simp [isHitWith, hitEvent, owner, named]
  have death : isHitWith shooter target projectile.id (deathEvent tick projectile runtime) = false := by
    simp [isHitWith, deathEvent]
  unfold contactEvents
  cases strikes projectile runtime with
  | false => rfl
  | true =>
      cases announces runtime with
      | false => simp [hit]
      | true => simp [hit, death]

/-- The events of a contact are about its projectile. -/
theorem collide_projectileId (s : GameSession R) (tick : Nat) (projectile : Projectile R) :
    ∀ event ∈ (s.collide tick projectile).2.2.2, event.projectileId = projectile.id := by
  intro event member
  unfold collide at member
  split at member
  · cases member
  · dsimp only at member
    split at member
    · cases member
    · rw [registerHit_events] at member
      rcases List.mem_cons.mp member with rfl | announced
      · rfl
      · split at announced
        · rw [List.mem_singleton.mp announced]
          rfl
        · cases announced

theorem collide_id (s : GameSession R) (tick : Nat) (projectile : Projectile R) :
    (s.collide tick projectile).2.1.id = projectile.id := by
  unfold collide
  split
  · rfl
  · dsimp only
    split <;> rfl

/-! ## One sweep -/

theorem sweep_concat (tick : Nat) (rest : List (Projectile R)) (projectile : Projectile R) (s : GameSession R) :
    (sweep tick (rest ++ [projectile]) s).1 = ((sweep tick rest s).1.collide tick projectile).1 ∧
    (sweep tick (rest ++ [projectile]) s).2.1 =
      (sweep tick rest s).2.1 ++ [((sweep tick rest s).1.collide tick projectile).2.1] ∧
    (sweep tick (rest ++ [projectile]) s).2.2.2 =
      (sweep tick rest s).2.2.2 ++ ((sweep tick rest s).1.collide tick projectile).2.2.2 := by
  induction rest generalizing s with
  | nil => simp [sweep]
  | cons first rest ih =>
      obtain ⟨session, projectiles, events⟩ := ih (s.collide tick first).1
      simp only [List.cons_append, sweep, session, projectiles, events, List.append_assoc, and_self]

theorem sweep_projectileId (tick : Nat) (rest : List (Projectile R)) (s : GameSession R) :
    ∀ event ∈ (sweep tick rest s).2.2.2, event.projectileId ∈ rest.map Projectile.id := by
  induction rest generalizing s with
  | nil =>
      intro event member
      cases member
  | cons projectile rest ih =>
      intro event member
      rcases List.mem_append.mp member with first | later
      · rw [collide_projectileId s tick projectile event first]
        exact List.mem_cons_self
      · exact List.mem_cons_of_mem _ (ih _ event later)

/-- A sweep keeps ids and owners. -/
theorem sweep_stored (tick : Nat) (rest : List (Projectile R)) (s : GameSession R) :
    (sweep tick rest s).2.1.map Projectile.id = rest.map Projectile.id ∧
      (sweep tick rest s).2.1.map Projectile.ownerId = rest.map Projectile.ownerId := by
  induction rest generalizing s with
  | nil => exact ⟨rfl, rfl⟩
  | cons projectile rest ih =>
      obtain ⟨ids, owners⟩ := ih (s.collide tick projectile).1
      simp only [sweep, List.map_cons, ids, owners, collide_id, collide_ownerId, and_self]

/-- In a duel a projectile can hit its owner's rival only. -/
theorem OnlyTwo.uncontested {shooter target : String}
    {players : UnorderedMap String (PlayerRuntimeState R)} (two : OnlyTwo shooter target players)
    {projectile : Projectile R} (owner : projectile.ownerId = shooter ∨ projectile.ownerId = target) :
    Uncontested projectile players := by
  intro key runtime key' runtime' present present' hit hit'
  have rival : ∀ {key runtime}, players.find key = some runtime → isCandidate projectile runtime = true →
      key ≠ projectile.ownerId ∧ (key = shooter ∨ key = target) := by
    intro key runtime present hit
    rw [isCandidate, Bool.and_eq_true, Bool.and_eq_true, bne_iff_ne, two.named key runtime present] at hit
    refine ⟨hit.1.2, two.either key ?_⟩
    rw [UnorderedMap.contains, present]
    rfl
  obtain ⟨other, either⟩ := rival present hit
  obtain ⟨other', either'⟩ := rival present' hit'
  grind

omit [DoubleArith R] in
/-- More hits do not bring a player back to life. -/
theorem isAliveAfter_of_le {hits hits' : Nat} {start : PlayerRuntimeState R} (fewer : hits ≤ hits')
    (alive : isAliveAfter hits' start = true) : isAliveAfter hits start = true := by
  induction fewer with
  | refl => exact alive
  | step _ ih =>
      apply ih
      cases before : isAliveAfter _ start with
      | true => rfl
      | false =>
          rw [isAliveAfter_succ before] at alive
          cases alive

omit [DoubleArith R] in
theorem isDeadAfter_of_le {hits hits' : Nat} {start : PlayerRuntimeState R} (fewer : hits ≤ hits')
    (dead : isAliveAfter hits start = false) : isAliveAfter hits' start = false := by
  rw [Bool.eq_false_iff]
  intro alive
  rw [isAliveAfter_of_le fewer alive] at dead
  cases dead

/-- A duel, whose projectiles all have ids of their own. -/
structure Standoff (shooter target : String) (s : GameSession R) : Prop where
  differ : shooter ≠ target
  two : OnlyTwo shooter target s.players
  owned : ∀ ownerId ∈ s.projectiles.map Projectile.ownerId, ownerId = shooter ∨ ownerId = target
  distinct : (s.projectiles.map Projectile.id).Nodup

theorem Runs.standoff {trace : List SessionItem} {s : GameSession R} (run : Runs trace s) {shooter target : String}
    (differ : shooter ≠ target) (two : ∀ playerId, s.players.contains playerId = true ↔
      playerId = shooter ∨ playerId = target) : Standoff shooter target s := by
  obtain ⟨moves, settled⟩ := run.byMoves
  have ledger := MoveRuns.projectileLedger moves
  have live : s.live = s.projectiles := live_of_settled settled
  constructor
  · exact differ
  · exact ⟨fun key there => (two key).mp there, run.filed⟩
  · intro ownerId member
    obtain ⟨projectile, listed, rfl⟩ := List.mem_map.mp member
    rw [← two]
    exact ledger.owners projectile (by rwa [live])
  · rw [List.nodup_iff_count_le_one]
    intro id
    have once := List.nodup_iff_count_le_one.mp ledger.distinct id
    have balance := ledger.balance id
    rw [live] at balance
    omega

/-- The players in the middle of a sweep of a duel. -/
structure DuelSwept (shooter target : String) (earlier : List (Projectile R))
    (start : UnorderedMap String (PlayerRuntimeState R)) (s : GameSession R) : Prop where
  two : OnlyTwo shooter target s.players
  swept : Swept earlier start s.players

theorem DuelSwept.sweep {shooter target : String} (tick : Nat) {start : UnorderedMap String (PlayerRuntimeState R)}
    (rest : List (Projectile R)) {earlier : List (Projectile R)} {s : GameSession R}
    (owned : ∀ projectile ∈ rest, projectile.ownerId = shooter ∨ projectile.ownerId = target)
    (swept : DuelSwept shooter target earlier start s) :
    DuelSwept shooter target (earlier ++ rest) start (GameSession.sweep tick rest s).1 := by
  induction rest generalizing earlier s with
  | nil =>
      rw [List.append_nil]
      exact swept
  | cons projectile rest ih =>
      obtain ⟨owner, others⟩ := List.forall_mem_cons.mp owned
      have single := swept.two.uncontested owner
      have next : DuelSwept shooter target (earlier ++ [projectile]) start (s.collide tick projectile).1 :=
        ⟨swept.two.collide tick projectile, swept.swept.collide tick fun _ => single⟩
      have last := ih others next
      rw [List.append_assoc] at last
      exact last

/-- Whether a projectile is in flight and not the player's own. -/
def threatens (runtime : PlayerRuntimeState R) (projectile : Projectile R) : Bool :=
  projectile.active && runtime.state.playerId != projectile.ownerId

/-- The target's entry in the middle of a sweep. -/
theorem DuelSwept.target {shooter target : String} {earlier : List (Projectile R)}
    {start : UnorderedMap String (PlayerRuntimeState R)} {s : GameSession R}
    (swept : DuelSwept shooter target earlier start s) {runtime : PlayerRuntimeState R}
    (rival : start.find target = some runtime) :
    ∃ runtime', s.players.find target = some runtime' ∧
      Damaged (touchCount earlier runtime) runtime runtime' := by
  obtain ⟨runtime', found⟩ := swept.swept.present target runtime rival
  obtain ⟨before, stored, damaged⟩ := swept.swept.damaged target runtime' found
  rw [rival] at stored
  cases stored
  exact ⟨runtime', found, damaged⟩

/-- Whether a projectile hits a player after some others. -/
theorem strikes_eq {earlier : List (Projectile R)} {runtime runtime' : PlayerRuntimeState R}
    (damaged : Damaged (touchCount earlier runtime) runtime runtime') (projectile : Projectile R) :
    strikes projectile runtime' =
      (projectile.active && isAliveAfter (touchCount earlier runtime) runtime &&
        touches projectile runtime.state) := by
  have position : touches projectile runtime'.state = touches projectile runtime.state := by
    unfold touches
    rw [damaged.x, damaged.y]
  rw [strikes, damaged.alive, position]

theorem touchCount_le (earlier rest : List (Projectile R)) (runtime : PlayerRuntimeState R) :
    touchCount earlier runtime ≤ touchCount (earlier ++ rest) runtime := by
  rw [touchCount, touchCount, List.countP_append]
  exact Nat.le_add_right _ _

/-- The threats that are left after a sweep which the target survives. -/
theorem DuelSwept.threats {shooter target : String} (differ : shooter ≠ target) (tick : Nat)
    {start : UnorderedMap String (PlayerRuntimeState R)} {runtime : PlayerRuntimeState R}
    (rival : start.find target = some runtime) (named : runtime.state.playerId = target)
    (rest : List (Projectile R)) {earlier : List (Projectile R)} {s : GameSession R}
    (owned : ∀ projectile ∈ rest, projectile.ownerId = shooter ∨ projectile.ownerId = target)
    (swept : DuelSwept shooter target earlier start s)
    (survives : isAliveAfter (touchCount (earlier ++ rest) runtime) runtime = true) :
    (GameSession.sweep tick rest s).2.1.filter (threatens runtime) =
      rest.filter fun projectile => threatens runtime projectile && !touches projectile runtime.state := by
  induction rest generalizing earlier s with
  | nil => rfl
  | cons projectile rest ih =>
      obtain ⟨owner, others⟩ := List.forall_mem_cons.mp owned
      have single := swept.two.uncontested owner
      have next : DuelSwept shooter target (earlier ++ [projectile]) start (s.collide tick projectile).1 :=
        ⟨swept.two.collide tick projectile, swept.swept.collide tick fun _ => single⟩
      have later := ih others next (by rwa [List.append_assoc])
      have alive := isAliveAfter_of_le (touchCount_le earlier (projectile :: rest) runtime) survives
      rw [GameSession.sweep]
      dsimp only
      rw [List.filter_cons, List.filter_cons, later]
      -- a projectile of the target is no threat, before and after its turn
      rcases owner with mine | own
      · obtain ⟨runtime', found, damaged⟩ := swept.target rival
        have result := (collide_rival differ swept.two tick mine found).1
        rw [strikes_eq damaged, alive, Bool.and_true] at result
        rw [result]
        cases active : projectile.active <;> cases touched : touches projectile runtime.state <;>
          simp [threatens, active, Projectile.deactivate]
      · have harmless : ∀ other : Projectile R, other.ownerId = target → threatens runtime other = false := by
          intro other owner
          rw [threatens, named, owner, bne_self_eq_false, Bool.and_false]
        have after : (s.collide tick projectile).2.1.ownerId = target := (collide_ownerId s tick projectile).trans own
        rw [harmless _ after, harmless projectile own]
        rfl

/-! ## One tick -/

/-- The projectile after a tick, before its turn to hit. -/
def moved (s : GameSession R) (deltaSeconds : R) (projectile : Projectile R) : Projectile R :=
  moveProjectile (s.elapsedTime + deltaSeconds) deltaSeconds projectile

/-- Whether a projectile hits the target in a tick, when its turn comes after some others. -/
def hitsNow (s : GameSession R) (deltaSeconds : R) (earlier : List (Projectile R)) (projectile : Projectile R)
    (runtime : PlayerRuntimeState R) : Bool :=
  (s.moved deltaSeconds projectile).active &&
    isAliveAfter (touchCount (earlier.map (s.moved deltaSeconds)) runtime) runtime &&
    touches (s.moved deltaSeconds projectile) runtime.state

/-- What a tick does to the last projectile, the ones before it, and the target. -/
structure TickOutcome (shooter target : String) (s s' : GameSession R) (events : List CombatEvent) (deltaSeconds : R)
    (earlier : List (Projectile R)) (projectile : Projectile R) (runtime : PlayerRuntimeState R) : Prop where
  hits : events.countP (isHitWith shooter target projectile.id) =
    (s.hitsNow deltaSeconds earlier projectile runtime).toNat
  entry : ∃ runtime', s'.players.find target = some runtime' ∧
    Damaged (touchCount ((earlier ++ [projectile]).map (s.moved deltaSeconds)) runtime) runtime runtime'
  stored : ∃ earlier', projectile.id ∉ earlier'.map Projectile.id ∧
    s'.projectiles = earlier' ++
      (if s.hitsNow deltaSeconds earlier projectile runtime || !(s.moved deltaSeconds projectile).active then []
        else [s.moved deltaSeconds projectile]) ∧
    (isAliveAfter (touchCount (earlier.map (s.moved deltaSeconds)) runtime) runtime = true →
      earlier'.filter (threatens runtime) = (earlier.map (s.moved deltaSeconds)).filter fun other =>
        threatens runtime other && !touches other runtime.state)
  standoff : Standoff shooter target s'
  clock : s'.elapsedTime = s.elapsedTime + deltaSeconds

theorem swept_start (shooter target : String) {s : GameSession R} (two : OnlyTwo shooter target s.players)
    (deltaSeconds : R) : DuelSwept shooter target [] s.players (s.moveProjectiles deltaSeconds) where
  two := two
  swept :=
    { damaged := fun _ runtime found => ⟨runtime, found, Damaged.start runtime⟩
      present := fun _ before stored => ⟨before, stored⟩ }

theorem Standoff.tick {shooter target : String} {s : GameSession R} (standoff : Standoff shooter target s)
    (tick : Nat) (deltaSeconds : R) : Standoff shooter target (s.tick tick deltaSeconds).1 := by
  have kept : (s.projectiles.map (s.moved deltaSeconds)).map Projectile.id = s.projectiles.map Projectile.id ∧
      (s.projectiles.map (s.moved deltaSeconds)).map Projectile.ownerId = s.projectiles.map Projectile.ownerId := by
    simp [moved]
  obtain ⟨ids, owners⟩ :=
    sweep_stored tick (s.projectiles.map (s.moved deltaSeconds)) (s.moveProjectiles deltaSeconds)
  rw [kept.1] at ids
  rw [kept.2] at owners
  have owned : ∀ projectile ∈ s.projectiles.map (s.moved deltaSeconds),
      projectile.ownerId = shooter ∨ projectile.ownerId = target := by
    intro projectile member
    apply standoff.owned
    rw [← kept.2]
    exact List.mem_map_of_mem member
  have swept := (swept_start shooter target standoff.two deltaSeconds).sweep tick _ owned
  constructor
  · exact standoff.differ
  · exact swept.two
  · intro ownerId member
    apply standoff.owned
    rw [← owners]
    exact (List.filter_sublist.map Projectile.ownerId).mem member
  · have distinct := standoff.distinct
    rw [← ids] at distinct
    exact distinct.sublist (List.filter_sublist.map Projectile.id)

theorem Standoff.tick_last {shooter target : String} {s : GameSession R} (standoff : Standoff shooter target s)
    (tick : Nat) (deltaSeconds : R) {earlier : List (Projectile R)} {projectile : Projectile R}
    (stored : s.projectiles = earlier ++ [projectile]) (mine : projectile.ownerId = shooter)
    {runtime : PlayerRuntimeState R} (rival : s.players.find target = some runtime) :
    TickOutcome shooter target s (s.tick tick deltaSeconds).1 (s.tick tick deltaSeconds).2 deltaSeconds earlier
      projectile runtime := by
  have named := standoff.two.named target runtime rival
  let start := s.moveProjectiles deltaSeconds
  let before := earlier.map (s.moved deltaSeconds)
  have started := swept_start shooter target standoff.two deltaSeconds
  have all : start.projectiles = before ++ [s.moved deltaSeconds projectile] := by
    show s.projectiles.map (s.moved deltaSeconds) = _
    rw [stored, List.map_append, List.map_singleton]
  have owned : ∀ other ∈ start.projectiles, other.ownerId = shooter ∨ other.ownerId = target := by
    intro other member
    obtain ⟨origin, listed, rfl⟩ := List.mem_map.mp member
    rw [moveProjectile_ownerId]
    exact standoff.owned _ (List.mem_map_of_mem listed)
  have ownedBefore : ∀ other ∈ before, other.ownerId = shooter ∨ other.ownerId = target := by
    intro other member
    apply owned
    rw [all]
    exact List.mem_append_left _ member
  have swept := started.sweep tick before ownedBefore
  obtain ⟨runtime', found, damaged⟩ := swept.target rival
  have mine' : (s.moved deltaSeconds projectile).ownerId = shooter := (moveProjectile_ownerId _ _ _).trans mine
  have id' : (s.moved deltaSeconds projectile).id = projectile.id := moveProjectile_id _ _ _
  obtain ⟨result, contact⟩ := collide_rival standoff.differ swept.two tick mine' found
  have strike : strikes (s.moved deltaSeconds projectile) runtime' =
      s.hitsNow deltaSeconds earlier projectile runtime := strikes_eq damaged _
  obtain ⟨session, projectiles, events⟩ := sweep_concat tick before (s.moved deltaSeconds projectile) start
  rw [← all] at session projectiles events
  have ids : before.map Projectile.id = earlier.map Projectile.id := by
    simp [before, moved]
  have fresh : projectile.id ∉ earlier.map Projectile.id := by
    have distinct := standoff.distinct
    rw [stored, List.map_append, List.nodup_append] at distinct
    intro member
    exact distinct.2.2 _ member _ (List.mem_singleton.mpr rfl) rfl
  constructor
  · rw [← ids] at fresh
    have others := countP_isHitWith_foreign shooter target (sweep_projectileId tick before start) fresh
    show (sweep tick start.projectiles start).2.2.2.countP _ = _
    have one := countP_contactEvents tick mine' (damaged.name.trans named)
    rw [id', strike] at one
    rw [events, List.countP_append, others, contact, one, Nat.zero_add]
  · have last := started.sweep tick start.projectiles owned
    have entry := last.target rival
    have moves : start.projectiles = (earlier ++ [projectile]).map (s.moved deltaSeconds) := by
      rw [all, List.map_append, List.map_singleton]
    rw [List.nil_append] at entry
    rw [← moves]
    exact entry
  · refine ⟨(sweep tick before start).2.1.filter fun other => other.active, ?_, ?_, ?_⟩
    · intro member
      apply fresh
      rw [← ids, ← (sweep_stored tick before start).1]
      exact (List.filter_sublist.map Projectile.id).mem member
    · show (sweep tick start.projectiles start).2.1.filter (fun other => other.active) = _
      rw [projectiles, List.filter_append, result, strike]
      congr 1
      cases hit : s.hitsNow deltaSeconds earlier projectile runtime <;>
        cases active : (s.moved deltaSeconds projectile).active <;>
        simp [active, Projectile.deactivate]
    · intro survives
      have threats := started.threats standoff.differ tick rival named before ownedBefore survives
      rw [← threats, List.filter_filter]
      congr 1
      funext other
      cases active : other.active <;> simp [threatens, active]
  · exact standoff.tick tick deltaSeconds
  · exact (sweep_frame tick start.projectiles start).1

/-! ## Several ticks -/

/-- Several ticks, with the events they append. -/
def tickAll : List (Nat × R) → GameSession R → GameSession R × List CombatEvent
  | [], s => (s, [])
  | (tick, deltaSeconds) :: ticks, s =>
      let (s, events) := s.tick tick deltaSeconds
      let (s, events') := tickAll ticks s
      (s, events ++ events')

/-- The steps of time up to the first after which a projectile touches a player, if nothing stops it before. -/
def approach (target : PlayerState R) : R → List R → Projectile R → Option (List R)
  | _, [], _ => none
  | elapsedTime, deltaSeconds :: later, projectile =>
      let projectile := moveProjectile (elapsedTime + deltaSeconds) deltaSeconds projectile
      if projectile.active && touches projectile target then some [deltaSeconds]
      else (approach target (elapsedTime + deltaSeconds) later projectile).map (deltaSeconds :: ·)

theorem moveProjectile_inactive (elapsedTime deltaSeconds : R) {projectile : Projectile R}
    (spent : projectile.active = false) :
    (moveProjectile elapsedTime deltaSeconds projectile).active = false := by
  unfold moveProjectile
  simp [Projectile.advance, Projectile.isExpired, Projectile.deactivate, spent]

theorem approach_inactive (target : PlayerState R) (deltas : List R) (elapsedTime : R) {projectile : Projectile R}
    (spent : projectile.active = false) : approach target elapsedTime deltas projectile = none := by
  induction deltas generalizing elapsedTime projectile with
  | nil => rfl
  | cons deltaSeconds later ih =>
      have still := moveProjectile_inactive (elapsedTime + deltaSeconds) deltaSeconds spent
      rw [approach, still, ih (elapsedTime + deltaSeconds) still]
      rfl

theorem approach_congr {target target' : PlayerState R} (x : target'.x = target.x) (y : target'.y = target.y) :
    approach target' = approach target := by
  funext elapsedTime deltas projectile
  induction deltas generalizing elapsedTime projectile with
  | nil => rfl
  | cons deltaSeconds later ih =>
      simp only [approach, touches, x, y, ih]

/-- How many of some projectiles touch a player who is not their owner within some steps of time. -/
def reachCount (elapsedTime : R) (deltas : List R) (runtime : PlayerRuntimeState R)
    (projectiles : List (Projectile R)) : Nat :=
  projectiles.countP fun projectile =>
    threatens runtime projectile && (approach runtime.state elapsedTime deltas projectile).isSome

theorem reachCount_cons (s : GameSession R) (deltaSeconds : R) (later : List R)
    (runtime : PlayerRuntimeState R) (projectiles : List (Projectile R)) :
    reachCount s.elapsedTime (deltaSeconds :: later) runtime projectiles =
      touchCount (projectiles.map (s.moved deltaSeconds)) runtime +
        reachCount (s.elapsedTime + deltaSeconds) later runtime
          ((projectiles.map (s.moved deltaSeconds)).filter fun projectile =>
            threatens runtime projectile && !touches projectile runtime.state) := by
  induction projectiles with
  | nil => rfl
  | cons projectile projectiles ih =>
      have owner : (s.moved deltaSeconds projectile).ownerId = projectile.ownerId := moveProjectile_ownerId _ _ _
      rw [reachCount, touchCount, reachCount] at ih ⊢
      rw [List.countP_cons, ih, List.map_cons, List.countP_cons, List.filter_cons, approach]
      change _ + (if (_ && (if (s.moved deltaSeconds projectile).active &&
        touches (s.moved deltaSeconds projectile) runtime.state then _ else _ : Option (List R)).isSome) = true
          then 1 else 0) = _
      cases active : (s.moved deltaSeconds projectile).active with
      | false =>
          -- a spent projectile touches nobody any more
          have never := approach_inactive runtime.state later (s.elapsedTime + deltaSeconds) active
          change approach _ _ _ (moveProjectile _ _ _) = none at never
          simp [threatens, active, never]
      | true =>
          have started : projectile.active = true := by
            cases before : projectile.active with
            | true => rfl
            | false =>
                rw [moved, moveProjectile_inactive _ _ before] at active
                cases active
          cases touched : touches (s.moved deltaSeconds projectile) runtime.state with
          | true =>
              simp [threatens, active, started, owner]
              omega
          | false =>
              cases other : runtime.state.playerId != projectile.ownerId with
              | false => simp [threatens, active, started, owner, other]
              | true =>
                  simp [threatens, active, started, owner, other, List.countP_cons]
                  rw [Nat.add_assoc]
                  rfl

omit [DoubleArith R] in
theorem Damaged.isAliveAfter_eq {hits : Nat} {start runtime : PlayerRuntimeState R}
    (damaged : Damaged hits start runtime) (more : Nat) :
    isAliveAfter more runtime = isAliveAfter (hits + more) start := by
  cases alive : runtime.state.isAlive with
  | false =>
      have dead := damaged.alive
      rw [alive, eq_comm] at dead
      rw [isDeadAfter_of_le (Nat.le_add_right hits more) dead, isAliveAfter, alive, Bool.false_and]
  | true =>
      have health := damaged.health alive
      have before := damaged.alive
      rw [alive, eq_comm, isAliveAfter, Bool.and_eq_true] at before
      rw [isAliveAfter, isAliveAfter, alive, before.1, health, Bool.true_and, Bool.true_and, Bool.eq_iff_iff]
      have enough := before.2
      rw [Bool.or_eq_true, beq_iff_eq, decide_eq_true_iff] at enough
      rw [Bool.or_eq_true, beq_iff_eq, decide_eq_true_iff, Bool.or_eq_true, beq_iff_eq, decide_eq_true_iff]
      unfold kDamagePerHit at *
      omega

theorem reachCount_congr {runtime runtime' : PlayerRuntimeState R} {hits : Nat}
    (damaged : Damaged hits runtime runtime') (elapsedTime : R) (deltas : List R)
    (projectiles : List (Projectile R)) :
    reachCount elapsedTime deltas runtime' projectiles = reachCount elapsedTime deltas runtime projectiles := by
  unfold reachCount threatens
  rw [approach_congr damaged.x damaged.y, damaged.name]

theorem reachCount_filter (elapsedTime : R) (deltas : List R) (runtime : PlayerRuntimeState R)
    (projectiles : List (Projectile R)) :
    reachCount elapsedTime deltas runtime (projectiles.filter (threatens runtime)) =
      reachCount elapsedTime deltas runtime projectiles := by
  rw [reachCount, List.countP_filter, reachCount]
  congr 1
  funext projectile
  cases threatens runtime projectile <;> simp

/-- What a tick leaves of the projectiles counts on for whether the target survives. -/
theorem isAliveAfter_reachCount {s : GameSession R} {deltaSeconds : R} {earlier earlier' : List (Projectile R)}
    {runtime runtime' : PlayerRuntimeState R}
    (damaged : Damaged (touchCount (earlier.map (s.moved deltaSeconds)) runtime) runtime runtime')
    (left : isAliveAfter (touchCount (earlier.map (s.moved deltaSeconds)) runtime) runtime = true →
      earlier'.filter (threatens runtime) = (earlier.map (s.moved deltaSeconds)).filter fun other =>
        threatens runtime other && !touches other runtime.state) (deltas : List R) :
    isAliveAfter (reachCount (s.elapsedTime + deltaSeconds) deltas runtime' earlier') runtime' =
      isAliveAfter (reachCount s.elapsedTime (deltaSeconds :: deltas) runtime earlier) runtime := by
  rw [damaged.isAliveAfter_eq, reachCount_cons, reachCount_congr damaged, ← reachCount_filter]
  cases survives : isAliveAfter (touchCount (earlier.map (s.moved deltaSeconds)) runtime) runtime with
  | true => rw [left survives]
  | false =>
      rw [isDeadAfter_of_le (Nat.le_add_right _ _) survives, isDeadAfter_of_le (Nat.le_add_right _ _) survives]

theorem tick_projectileId (s : GameSession R) (tick : Nat) (deltaSeconds : R) :
    (∀ event ∈ (s.tick tick deltaSeconds).2, event.projectileId ∈ s.projectiles.map Projectile.id) ∧
      ((s.tick tick deltaSeconds).1.projectiles.map Projectile.id).Sublist (s.projectiles.map Projectile.id) := by
  have kept : (s.moveProjectiles deltaSeconds).projectiles.map Projectile.id = s.projectiles.map Projectile.id := by
    simp [moveProjectiles]
  have ids := (sweep_stored tick (s.moveProjectiles deltaSeconds).projectiles (s.moveProjectiles deltaSeconds)).1
  rw [kept] at ids
  refine ⟨?_, ?_⟩
  · intro event member
    rw [← kept]
    exact sweep_projectileId tick _ _ event member
  · rw [← ids]
    exact List.filter_sublist.map Projectile.id

/-- A projectile that is not stored hits nobody. -/
theorem hits_of_gone (shooter target : String) {id : String} (ticks : List (Nat × R)) {s : GameSession R}
    (gone : id ∉ s.projectiles.map Projectile.id) :
    (tickAll ticks s).2.countP (isHitWith shooter target id) = 0 := by
  induction ticks generalizing s with
  | nil => rfl
  | cons step ticks ih =>
      obtain ⟨tick, deltaSeconds⟩ := step
      obtain ⟨about, fewer⟩ := tick_projectileId s tick deltaSeconds
      have now := countP_isHitWith_foreign shooter target about gone
      have later := ih fun member => gone (fewer.mem member)
      rw [tickAll, List.countP_append, now, later]

/-- A projectile in flight does not hit the dead. -/
theorem Standoff.hits_of_dead {shooter target : String} (ticks : List (Nat × R)) {s : GameSession R}
    (standoff : Standoff shooter target s) {earlier : List (Projectile R)} {projectile : Projectile R}
    (stored : s.projectiles = earlier ++ [projectile]) (mine : projectile.ownerId = shooter)
    {runtime : PlayerRuntimeState R} (rival : s.players.find target = some runtime)
    (dead : runtime.state.isAlive = false) :
    (tickAll ticks s).2.countP (isHitWith shooter target projectile.id) = 0 := by
  induction ticks generalizing s earlier projectile runtime with
  | nil => rfl
  | cons step ticks ih =>
      obtain ⟨tick, deltaSeconds⟩ := step
      have outcome := standoff.tick_last tick deltaSeconds stored mine rival
      have missed : s.hitsNow deltaSeconds earlier projectile runtime = false := by
        simp [hitsNow, isAliveAfter, dead]
      obtain ⟨earlier', others, stored', -⟩ := outcome.stored
      obtain ⟨runtime', rival', damaged⟩ := outcome.entry
      have dead' : runtime'.state.isAlive = false := by
        rw [damaged.alive, isAliveAfter, dead, Bool.false_and]
      rw [tickAll, List.countP_append, outcome.hits, missed]
      rw [missed, Bool.false_or] at stored'
      cases active : (s.moved deltaSeconds projectile).active with
      | false =>
          rw [active, Bool.not_false, if_pos rfl, List.append_nil] at stored'
          have gone : projectile.id ∉ (s.tick tick deltaSeconds).1.projectiles.map Projectile.id := by
            rwa [stored']
          rw [hits_of_gone shooter target ticks gone]
          rfl
      | true =>
          rw [active, Bool.not_true, if_neg Bool.false_ne_true] at stored'
          have later := ih outcome.standoff stored' ((moveProjectile_ownerId _ _ _).trans mine) rival' dead'
          have id' : (s.moved deltaSeconds projectile).id = projectile.id := moveProjectile_id _ _ _
          rw [id'] at later
          rw [later]
          rfl

/-- A projectile hits when it first touches the rival, unless the projectiles before it kill the rival by then. -/
theorem Standoff.hits_eq {shooter target : String} (ticks : List (Nat × R)) {s : GameSession R}
    (standoff : Standoff shooter target s) {earlier : List (Projectile R)} {projectile : Projectile R}
    (stored : s.projectiles = earlier ++ [projectile]) (mine : projectile.ownerId = shooter)
    {runtime : PlayerRuntimeState R} (rival : s.players.find target = some runtime) :
    (tickAll ticks s).2.countP (isHitWith shooter target projectile.id) =
      ((approach runtime.state s.elapsedTime (ticks.map Prod.snd) projectile).any fun deltas =>
        isAliveAfter (reachCount s.elapsedTime deltas runtime earlier) runtime).toNat := by
  induction ticks generalizing s earlier projectile runtime with
  | nil => rfl
  | cons step ticks ih =>
      obtain ⟨tick, deltaSeconds⟩ := step
      have outcome := standoff.tick_last tick deltaSeconds stored mine rival
      obtain ⟨earlier', others, stored', left⟩ := outcome.stored
      obtain ⟨runtime', rival', damaged⟩ := outcome.entry
      have mine' : (s.moved deltaSeconds projectile).ownerId = shooter := (moveProjectile_ownerId _ _ _).trans mine
      have id' : (s.moved deltaSeconds projectile).id = projectile.id := moveProjectile_id _ _ _
      have gone : projectile.id ∉ (s.tick tick deltaSeconds).1.projectiles.map Projectile.id →
          (tickAll ticks (s.tick tick deltaSeconds).1).2.countP (isHitWith shooter target projectile.id) = 0 :=
        hits_of_gone shooter target ticks
      rw [tickAll, List.countP_append, outcome.hits, List.map_cons, approach]
      change _ = ((if (s.moved deltaSeconds projectile).active &&
        touches (s.moved deltaSeconds projectile) runtime.state then _ else _ : Option (List R)).any _).toNat
      cases active : (s.moved deltaSeconds projectile).active with
      | false =>
          have missed : s.hitsNow deltaSeconds earlier projectile runtime = false := by
            rw [hitsNow, active, Bool.false_and, Bool.false_and]
          rw [missed, active, Bool.not_false, Bool.or_true, if_pos rfl, List.append_nil] at stored'
          have never := approach_inactive runtime.state (ticks.map Prod.snd) (s.elapsedTime + deltaSeconds) active
          change approach _ _ _ (moveProjectile _ _ _) = none at never
          rw [gone (by rwa [stored']), missed, never]
          rfl
      | true =>
          rw [active, Bool.not_true, Bool.or_false] at stored'
          cases touched : touches (s.moved deltaSeconds projectile) runtime.state with
          | true =>
              have count : reachCount s.elapsedTime [deltaSeconds] runtime earlier =
                  touchCount (earlier.map (s.moved deltaSeconds)) runtime := by
                rw [reachCount_cons]
                simp [reachCount, approach]
              have hit : s.hitsNow deltaSeconds earlier projectile runtime =
                  isAliveAfter (reachCount s.elapsedTime [deltaSeconds] runtime earlier) runtime := by
                rw [hitsNow, active, touched, count, Bool.true_and, Bool.and_true]
              rw [Bool.true_and, if_pos rfl, Option.any_some, hit]
              rw [hit] at stored'
              cases survives : isAliveAfter (reachCount s.elapsedTime [deltaSeconds] runtime earlier) runtime with
              | true =>
                  rw [survives, if_pos rfl, List.append_nil] at stored'
                  rw [gone (by rwa [stored']), Nat.add_zero]
              | false =>
                  rw [survives, if_neg Bool.false_ne_true] at stored'
                  have dead : runtime'.state.isAlive = false := by
                    rw [count] at survives
                    rw [damaged.alive, List.map_append]
                    exact isDeadAfter_of_le (touchCount_le _ _ runtime) survives
                  have later := outcome.standoff.hits_of_dead ticks stored' mine' rival' dead
                  rw [id'] at later
                  rw [later, Nat.add_zero]
          | false =>
              have missed : s.hitsNow deltaSeconds earlier projectile runtime = false := by
                rw [hitsNow, touched, Bool.and_false]
              rw [missed, if_neg Bool.false_ne_true] at stored'
              have damaged' := damaged
              rw [List.map_append, List.map_singleton, touchCount_concat, touched, Bool.and_false,
                Bool.toNat_false, Nat.add_zero] at damaged'
              have alike : approach runtime'.state = approach runtime.state := approach_congr damaged.x damaged.y
              have later := ih outcome.standoff stored' mine' rival'
              rw [id', outcome.clock, alike] at later
              rw [missed, later, Bool.and_false, if_neg Bool.false_ne_true]
              change _ = ((Option.map _ (approach _ _ _ (s.moved deltaSeconds projectile))).any _).toNat
              cases arrival : approach runtime.state (s.elapsedTime + deltaSeconds) (ticks.map Prod.snd)
                  (s.moved deltaSeconds projectile) with
              | none => rfl
              | some deltas =>
                  have same := isAliveAfter_reachCount damaged' left deltas
                  rw [Option.map_some, Option.any_some, Option.any_some, same, Bool.toNat_false, Nat.zero_add]

end GameSession

end Arena60
