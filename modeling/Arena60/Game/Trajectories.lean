import Arena60.Game.StraightShot
import Arena60.Misc.NumberedNames
import Mathlib.Tactic.Linarith

/-!
# Trajectories

Every projectile that a session stores is on the line it was shot along, as far from its start as
its age says, and younger than its lifetime.
-/

namespace Arena60

open Misc Misc.DoubleArith Misc.RealArith

namespace GameSession

/-! ## What an operation does to the projectiles -/

section steps

variable {R : Type} [DoubleArith R]

/-- A stored projectile before and after an operation. -/
def Carried (s : GameSession R) (before after : Projectile R) : SessionOp R → Prop
  | .tick _ deltaSeconds => after = s.moved deltaSeconds before ∧ after.active = true
  | _ => after = before

/-- The event is one that a projectile causes when it is its turn. -/
def Causes (tick : Nat) (projectile : Projectile R) (event : CombatEvent) : Prop :=
  ∃ s : GameSession R, event ∈ (s.collide tick projectile).2.2.2

theorem collide_projectile (s : GameSession R) (tick : Nat) (projectile : Projectile R) :
    (s.collide tick projectile).2.1 = projectile ∨ (s.collide tick projectile).2.1.active = false := by
  unfold collide
  split
  · exact Or.inl rfl
  · dsimp only
    split
    · exact Or.inl rfl
    · exact Or.inr rfl

/-- What a sweep leaves active it has not touched. -/
theorem mem_sweep (tick : Nat) (rest : List (Projectile R)) (s : GameSession R) {projectile : Projectile R}
    (stored : projectile ∈ (sweep tick rest s).2.1) (active : projectile.active = true) :
    projectile ∈ rest := by
  induction rest generalizing s with
  | nil => cases stored
  | cons first rest ih =>
      have turns : (sweep tick (first :: rest) s).2.1 =
          (s.collide tick first).2.1 :: (sweep tick rest (s.collide tick first).1).2.1 := rfl
      rw [turns] at stored
      rcases List.mem_cons.mp stored with here | later
      · rcases s.collide_projectile tick first with same | spent
        · rw [here, same]
          exact List.mem_cons_self
        · rw [here, spent] at active
          cases active
      · exact List.mem_cons_of_mem _ (ih _ later)

/-- Every event of a sweep is caused by an active projectile. -/
theorem sweep_causes (tick : Nat) (rest : List (Projectile R)) (s : GameSession R) {event : CombatEvent}
    (member : event ∈ (sweep tick rest s).2.2.2) :
    ∃ projectile ∈ rest, projectile.active = true ∧ Causes tick projectile event := by
  induction rest generalizing s with
  | nil => cases member
  | cons first rest ih =>
      have turns : (sweep tick (first :: rest) s).2.2.2 =
          (s.collide tick first).2.2.2 ++ (sweep tick rest (s.collide tick first).1).2.2.2 := rfl
      rw [turns] at member
      rcases List.mem_append.mp member with here | later
      · refine ⟨first, List.mem_cons_self, ?_, s, here⟩
        by_contra spent
        rw [Bool.not_eq_true] at spent
        rw [collide_inactive s tick spent] at here
        cases here
      · obtain ⟨projectile, listed, active, causes⟩ := ih _ later
        exact ⟨projectile, List.mem_cons_of_mem _ listed, active, causes⟩

/-- A projectile that an input makes is the next one, and the only one of its input. -/
theorem madeBy_cases {s : GameSession R} {op : SessionOp R} {shot : Projectile R}
    (made : shot ∈ s.madeBy op) :
    ∃ playerId input deltaSeconds runtime, op = .applyInput playerId input deltaSeconds ∧
      s.players.find playerId = some runtime ∧
      (s.applyInput playerId input deltaSeconds).1.projectiles = s.projectiles ++ [shot] ∧
      shot.id = "projectile-" ++ toString (s.projectileCounter + 1) ∧
      (s.act op).projectileCounter = s.projectileCounter + 1 := by
  cases op with
  | applyInput playerId input deltaSeconds =>
      have nothing : (s.projectiles.drop s.projectiles.length) = [] := List.drop_length
      cases present : s.players.find playerId with
      | none =>
          rw [madeBy, applyInput, present, nothing] at made
          cases made
      | some runtime =>
          have reached : s.act (.applyInput playerId input deltaSeconds) =
              (s.applyInput playerId input deltaSeconds).1 := rfl
          refine ⟨playerId, input, deltaSeconds, runtime, rfl, present, ?_⟩
          rw [reached]
          rw [madeBy] at made
          rw [applyInput, present] at made ⊢
          dsimp only at made ⊢
          split at made
          · rw [nothing] at made
            cases made
          · next fresh =>
              rw [if_neg fresh]
              rcases s.trySpawnProjectile_cases _ input with
                tried | ⟨thrown, tried⟩ | ⟨projectile, _, id, _, _, tried⟩
              · rw [tried] at made
                rw [nothing] at made
                cases made
              · rw [tried] at made
                rw [nothing] at made
                cases made
              · rw [tried] at made ⊢
                rw [List.drop_left, List.mem_singleton] at made
                rw [made]
                exact ⟨rfl, id, rfl⟩
  | upsertPlayer other => cases made
  | removePlayer other => cases made
  | tick tick deltaSeconds => cases made
  | consumeDeathEvents => cases made
  | reorder order => cases made

/-- A projectile that is stored after an operation was made by it or was stored before. -/
theorem act_projectiles {s : GameSession R} {op : SessionOp R} {projectile : Projectile R}
    (stored : projectile ∈ (s.act op).projectiles) :
    projectile ∈ s.madeBy op ∨ ∃ before ∈ s.projectiles, Carried s before projectile op := by
  cases op with
  | upsertPlayer playerId =>
      refine Or.inr ⟨projectile, ?_, rfl⟩
      rw [act_upsertPlayer] at stored
      split_ifs at stored <;> exact stored
  | removePlayer playerId => exact Or.inr ⟨projectile, (List.mem_filter.mp stored).1, rfl⟩
  | applyInput playerId input deltaSeconds =>
      obtain ⟨effect, -, applied⟩ := s.exists_applyInput_effect playerId input deltaSeconds
      have reached : s.act (.applyInput playerId input deltaSeconds) = effect.apply playerId s := applied
      rw [reached] at stored
      rw [madeBy, applied]
      rcases List.mem_append.mp stored with old | new
      · exact Or.inr ⟨projectile, old, rfl⟩
      · left
        rw [InputEffect.apply, List.drop_left]
        exact new
  | tick tick deltaSeconds =>
      obtain ⟨swept, active⟩ := List.mem_filter.mp stored
      have moving := mem_sweep tick _ _ swept active
      obtain ⟨before, listed, moved⟩ := List.mem_map.mp moving
      exact Or.inr ⟨before, listed, moved.symm, active⟩
  | consumeDeathEvents => exact Or.inr ⟨projectile, stored, rfl⟩
  | reorder order => exact Or.inr ⟨projectile, stored, rfl⟩

/-- A tick moves what it carries, and nothing else touches what is stored. -/
theorem Carried.cases {s : GameSession R} {before after : Projectile R} {op : SessionOp R}
    (carried : Carried s before after op) :
    (∃ tick deltaSeconds, op = .tick tick deltaSeconds ∧ after = s.moved deltaSeconds before ∧
      after.active = true) ∨ after = before ∧ (s.act op).elapsedTime = s.elapsedTime := by
  have clock := (act_clock s op).2
  cases op with
  | tick tick deltaSeconds => exact Or.inl ⟨tick, deltaSeconds, rfl, carried⟩
  | upsertPlayer playerId => exact Or.inr ⟨carried, clock⟩
  | removePlayer playerId => exact Or.inr ⟨carried, clock⟩
  | applyInput playerId input deltaSeconds => exact Or.inr ⟨carried, clock⟩
  | consumeDeathEvents => exact Or.inr ⟨carried, clock⟩
  | reorder order => exact Or.inr ⟨carried, clock⟩

theorem Carried.id {s : GameSession R} {before after : Projectile R} {op : SessionOp R}
    (carried : Carried s before after op) : before.id = after.id := by
  rcases carried.cases with ⟨tick, deltaSeconds, _, moved, _⟩ | ⟨same, _⟩
  · rw [moved]
    exact (moveProjectile_id _ _ before).symm
  · rw [same]

theorem collide_projectileCounter (s : GameSession R) (tick : Nat) (projectile : Projectile R) :
    (s.collide tick projectile).1.projectileCounter = s.projectileCounter := by
  unfold collide
  split
  · rfl
  · dsimp only
    split
    · rfl
    · exact (registerHit_totals s tick projectile _ _).2.2.2.2

theorem sweep_projectileCounter (tick : Nat) (rest : List (Projectile R)) (s : GameSession R) :
    (sweep tick rest s).1.projectileCounter = s.projectileCounter := by
  induction rest generalizing s with
  | nil => rfl
  | cons first rest ih => exact (ih _).trans (s.collide_projectileCounter tick first)

theorem act_projectileCounter (s : GameSession R) (op : SessionOp R) :
    s.projectileCounter ≤ (s.act op).projectileCounter := by
  cases op with
  | upsertPlayer playerId =>
      rw [act_upsertPlayer]
      split_ifs <;> exact Nat.le_refl _
  | applyInput playerId input deltaSeconds =>
      obtain ⟨effect, -, applied⟩ := s.exists_applyInput_effect playerId input deltaSeconds
      have reached : s.act (.applyInput playerId input deltaSeconds) = effect.apply playerId s := applied
      rw [reached]
      exact Nat.le_add_right _ _
  | tick tick deltaSeconds => exact (sweep_projectileCounter tick _ (s.moveProjectiles deltaSeconds)).ge
  | removePlayer playerId => exact Nat.le_refl _
  | consumeDeathEvents => exact Nat.le_refl _
  | reorder order => exact Nat.le_refl _

end steps

/-! ## Flights -/

/-- A projectile in its flight from where it was made. -/
structure InFlight (shot : Projectile ℝ) (now : ℝ) (projectile : Projectile ℝ) : Prop where
  id : projectile.id = shot.id
  ownerId : projectile.ownerId = shot.ownerId
  spawnTime : projectile.spawnTime = shot.spawnTime
  dirX : projectile.dirX = shot.dirX
  dirY : projectile.dirY = shot.dirY
  x : projectile.x = shot.x + 30 * (now - shot.spawnTime) * shot.dirX
  y : projectile.y = shot.y + 30 * (now - shot.spawnTime) * shot.dirY
  unit : shot.dirX ^ 2 + shot.dirY ^ 2 = 1
  born : 0 ≤ now - shot.spawnTime
  young : now - shot.spawnTime < 3 / 2

/-- A projectile in flight is closer to where it was made than a lifetime at full speed. -/
theorem InFlight.near {shot projectile : Projectile ℝ} {now : ℝ} (flight : InFlight shot now projectile) :
    (projectile.x - shot.x) ^ 2 + (projectile.y - shot.y) ^ 2 < 45 ^ 2 := by
  have distance : (projectile.x - shot.x) ^ 2 + (projectile.y - shot.y) ^ 2 =
      (30 * (now - shot.spawnTime)) ^ 2 := by
    calc (projectile.x - shot.x) ^ 2 + (projectile.y - shot.y) ^ 2
        = (30 * (now - shot.spawnTime)) ^ 2 * (shot.dirX ^ 2 + shot.dirY ^ 2) := by
          rw [flight.x, flight.y]
          ring
      _ = (30 * (now - shot.spawnTime)) ^ 2 := by rw [flight.unit, mul_one]
  rw [distance]
  have born := flight.born
  have young := flight.young
  apply pow_lt_pow_left₀
  · linarith
  · linarith
  · exact two_ne_zero

/-- A tick that leaves a projectile active moves it along. -/
theorem InFlight.moved {shot projectile : Projectile ℝ} {s : GameSession ℝ}
    (flight : InFlight shot s.elapsedTime projectile) {deltaSeconds : ℝ} (nonneg : 0 ≤ deltaSeconds)
    (active : (s.moved deltaSeconds projectile).active = true) :
    InFlight shot (s.elapsedTime + deltaSeconds) (s.moved deltaSeconds projectile) := by
  rw [GameSession.moved, moveProjectile] at active ⊢
  split at active
  · cases active
  · next fresh =>
      rw [if_neg fresh]
      have flying : projectile.active = true := by
        by_contra spent
        rw [Bool.not_eq_true] at spent
        rw [Projectile.advance, spent] at active
        exact Bool.false_ne_true (spent.symm.trans active)
      have stepped : projectile.advance deltaSeconds =
          { projectile with
            x := projectile.x + projectile.dirX * kSpeed * deltaSeconds
            y := projectile.y + projectile.dirY * kSpeed * deltaSeconds } := by
        rw [Projectile.advance, flying]
        rfl
      rw [Projectile.isExpired, active] at fresh
      have unexpired : ¬kLifetime ≤ s.elapsedTime + deltaSeconds - (projectile.advance deltaSeconds).spawnTime := by
        intro old
        exact fresh (decide_eq_true old)
      rw [stepped] at unexpired ⊢
      dsimp only at unexpired
      rw [kLifetime_real, flight.spawnTime] at unexpired
      refine ⟨flight.id, flight.ownerId, flight.spawnTime, flight.dirX, flight.dirY, ?_, ?_, flight.unit, ?_,
        lt_of_not_ge unexpired⟩
      · dsimp only
        rw [flight.x, flight.dirX, kSpeed_real]
        ring
      · dsimp only
        rw [flight.y, flight.dirY, kSpeed_real]
        ring
      · have born := flight.born
        linarith

/-- The constructor makes directions of length one. -/
theorem new_unit {id ownerId : String} {x y dirX dirY spawnTime : ℝ} {shot : Projectile ℝ}
    (made : Projectile.new id ownerId x y dirX dirY spawnTime = .ok shot) :
    shot.dirX ^ 2 + shot.dirY ^ 2 = 1 := by
  unfold Projectile.new at made
  dsimp only at made
  split at made
  · cases made
  · next long =>
      cases made
      let magnitude : ℝ := Real.sqrt (dirX * dirX + dirY * dirY)
      have epsilon : (0 : ℝ) < kEpsilon := by
        rw [kEpsilon, ofRat_real]
        norm_num
      have positive : 0 < magnitude := by
        rw [less_real, not_lt] at long
        exact lt_of_lt_of_le epsilon long
      have square : magnitude ^ 2 = dirX * dirX + dirY * dirY := by
        apply Real.sq_sqrt
        exact add_nonneg (mul_self_nonneg dirX) (mul_self_nonneg dirY)
      show (dirX / magnitude) ^ 2 + (dirY / magnitude) ^ 2 = 1
      rw [div_pow, div_pow, ← add_div, square, div_eq_one_iff_eq]
      · ring
      · rw [← square]
        exact pow_ne_zero 2 positive.ne'

/-- A projectile starts its flight where and when it is made. -/
theorem inFlight_of_made {s : GameSession ℝ} {op : SessionOp ℝ} {shot : Projectile ℝ}
    (made : shot ∈ s.madeBy op) :
    shot.spawnTime = s.elapsedTime ∧ InFlight shot (s.act op).elapsedTime shot := by
  obtain ⟨playerId, input, deltaSeconds, runtime, rfl, present, stored, _, _⟩ := madeBy_cases made
  obtain ⟨id, built⟩ := (applyInput_built stored present).built
  have now := Projectile.new_spawnTime built
  have clock : (s.act (.applyInput playerId input deltaSeconds)).elapsedTime = s.elapsedTime := (act_clock s _).2
  rw [clock]
  refine ⟨now, ⟨rfl, rfl, rfl, rfl, rfl, ?_, ?_, new_unit built, ?_, ?_⟩⟩
  · rw [now]
    ring
  · rw [now]
    ring
  · rw [now, sub_self]
  · rw [now, sub_self]
    norm_num

/-! ## Runs -/

theorem Forward.nonneg {tick : Nat} {deltaSeconds : ℝ} (forward : Forward (.tick tick deltaSeconds)) :
    0 ≤ deltaSeconds := by
  have nonneg : ((0 : ℚ) : ℝ) ≤ deltaSeconds := of_decide_eq_true forward
  exact_mod_cast nonneg

/-- An operation keeps what stays stored in flight. -/
theorem InFlight.carried {shot before after : Projectile ℝ} {s : GameSession ℝ} {op : SessionOp ℝ}
    (flight : InFlight shot s.elapsedTime before) (forward : Forward op) (carried : Carried s before after op) :
    InFlight shot (s.act op).elapsedTime after := by
  rcases carried.cases with ⟨tick, deltaSeconds, rfl, rfl, active⟩ | ⟨rfl, clock⟩
  · rw [(act_clock s _).2]
    exact flight.moved forward.nonneg active
  · rw [clock]
    exact flight

/-- A shot of a run, with the operations before it, the one that made it and those after it. -/
structure ShotIn (ops before : List (SessionOp ℝ)) (op : SessionOp ℝ) (later : List (SessionOp ℝ))
    (shot : Projectile ℝ) : Prop where
  split : ops = before ++ op :: later
  made : shot ∈ ((new : GameSession ℝ).after before).madeBy op

theorem ShotIn.concat {ops before : List (SessionOp ℝ)} {op : SessionOp ℝ} {later : List (SessionOp ℝ)}
    {shot : Projectile ℝ} (fired : ShotIn ops before op later shot) (last : SessionOp ℝ) :
    ShotIn (ops ++ [last]) before op (later ++ [last]) shot := by
  refine ⟨?_, fired.made⟩
  rw [fired.split, List.append_assoc, List.cons_append]

theorem after_concat (s : GameSession ℝ) (ops : List (SessionOp ℝ)) (op : SessionOp ℝ) :
    s.after (ops ++ [op]) = (s.after ops).act op := by
  rw [after_append]
  rfl

/-- Every stored projectile is a shot of the run, in flight. -/
theorem stored_inFlight (ops : List (SessionOp ℝ)) (forward : ∀ op ∈ ops, Forward op) :
    ∀ projectile ∈ ((new : GameSession ℝ).after ops).projectiles, ∃ before op later shot,
      ShotIn ops before op later shot ∧
        InFlight shot ((new : GameSession ℝ).after ops).elapsedTime projectile := by
  induction ops using List.reverseRecOn with
  | nil =>
      intro projectile stored
      cases stored
  | append_singleton ops last ih =>
      intro projectile stored
      have here : last ∈ ops ++ [last] := List.mem_append_right ops List.mem_cons_self
      rw [after_concat] at stored ⊢
      rcases act_projectiles stored with made | ⟨before, old, carried⟩
      · exact ⟨ops, last, [], projectile, ⟨rfl, made⟩, (inFlight_of_made made).2⟩
      · have earlier := ih fun op member => forward op (List.mem_append_left [last] member)
        obtain ⟨first, op, later, shot, fired, flight⟩ := earlier before old
        exact ⟨first, op, later ++ [last], shot, fired.concat last, flight.carried (forward last here) carried⟩

/-- The time an operation takes. -/
def duration : SessionOp ℝ → ℝ
  | .tick _ deltaSeconds => deltaSeconds
  | _ => 0

theorem after_elapsedTime (s : GameSession ℝ) (ops : List (SessionOp ℝ)) :
    (s.after ops).elapsedTime = s.elapsedTime + (ops.map duration).sum := by
  induction ops generalizing s with
  | nil => exact (add_zero _).symm
  | cons op ops ih =>
      have clock : (s.act op).elapsedTime = s.elapsedTime + duration op := by
        rw [(act_clock s op).2]
        cases op <;> simp [duration]
      have rest : s.after (op :: ops) = (s.act op).after ops := rfl
      rw [rest, ih, clock, List.map_cons, List.sum_cons, add_assoc]

/-- The ids of what is stored were given out before. -/
theorem stored_numbered (ops : List (SessionOp ℝ)) :
    ∀ projectile ∈ ((new : GameSession ℝ).after ops).projectiles,
      ∃ number ≤ ((new : GameSession ℝ).after ops).projectileCounter,
        projectile.id = "projectile-" ++ toString number := by
  intro projectile stored
  obtain ⟨trace, run⟩ := runs_after (R := ℝ) ops
  obtain ⟨moves, settled⟩ := Runs.byMoves run
  have ledger := MoveRuns.projectileLedger moves
  have alive : projectile.id ∈ ((new : GameSession ℝ).after ops).live.map Projectile.id := by
    rw [live_of_settled settled]
    exact List.mem_map_of_mem stored
  have spawned : 0 < (spawnedIds trace).count projectile.id := by
    have counted := List.count_pos_iff.mpr alive
    have balance := ledger.balance projectile.id
    omega
  exact ledger.numbered _ (List.count_pos_iff.mp spawned)

/-- After a shot was made, no other projectile gets its id. -/
structure Tracks (shot : Projectile ℝ) (s : GameSession ℝ) : Prop where
  number : ∃ number ≤ s.projectileCounter, shot.id = "projectile-" ++ toString number
  flight : ∀ projectile ∈ s.projectiles, projectile.id = shot.id → InFlight shot s.elapsedTime projectile

theorem Tracks.act {shot : Projectile ℝ} {s : GameSession ℝ} (tracks : Tracks shot s) {op : SessionOp ℝ}
    (forward : Forward op) : Tracks shot (s.act op) := by
  obtain ⟨number, below, named⟩ := tracks.number
  refine ⟨⟨number, below.trans (act_projectileCounter s op), named⟩, ?_⟩
  intro projectile stored same
  rcases act_projectiles stored with made | ⟨before, old, carried⟩
  · obtain ⟨_, _, _, _, _, _, _, fresh, _⟩ := madeBy_cases made
    have numbers := numberedName_inj (fresh.symm.trans (same.trans named))
    omega
  · exact (tracks.flight before old (carried.id.trans same)).carried forward carried

theorem Tracks.after {shot : Projectile ℝ} (ops : List (SessionOp ℝ)) {s : GameSession ℝ}
    (tracks : Tracks shot s) (forward : ∀ op ∈ ops, Forward op) : Tracks shot (s.after ops) := by
  induction ops generalizing s with
  | nil => exact tracks
  | cons op ops ih =>
      obtain ⟨first, rest⟩ := List.forall_mem_cons.mp forward
      exact ih (tracks.act first) rest

theorem tracks_of_made (before : List (SessionOp ℝ)) {op : SessionOp ℝ} {shot : Projectile ℝ}
    (made : shot ∈ ((new : GameSession ℝ).after before).madeBy op) :
    Tracks shot (((new : GameSession ℝ).after before).act op) := by
  have flight := (inFlight_of_made made).2
  obtain ⟨playerId, input, deltaSeconds, runtime, rfl, _, applied, named, counted⟩ := madeBy_cases made
  refine ⟨⟨_, counted.ge, named⟩, ?_⟩
  intro projectile stored same
  have reached : (((new : GameSession ℝ).after before).act (.applyInput playerId input deltaSeconds)).projectiles =
      ((new : GameSession ℝ).after before).projectiles ++ [shot] := applied
  rw [reached] at stored
  rcases List.mem_append.mp stored with old | new
  · -- an older projectile has another number
    obtain ⟨number, below, numbered⟩ := stored_numbered before projectile old
    have numbers := numberedName_inj (numbered.symm.trans (same.trans named))
    omega
  · rw [List.mem_singleton.mp new]
    exact flight

/-- Every stored projectile of a run is on its line and younger than its lifetime; every event of the next
tick is caused by such a projectile, near to where it was made; and nothing of a shot is left when its
lifetime has passed. -/
theorem projectiles_fly (ops : List (SessionOp ℝ)) (forward : ∀ op ∈ ops, Forward op) :
    let s := (new : GameSession ℝ).after ops
    (∀ projectile ∈ s.projectiles, ∃ before op later shot, ShotIn ops before op later shot ∧
      InFlight shot s.elapsedTime projectile) ∧
    (∀ tick deltaSeconds, 0 ≤ deltaSeconds → ∀ event ∈ (s.tick tick deltaSeconds).2,
      ∃ before op later shot projectile, ShotIn ops before op later shot ∧
        projectile ∈ (s.moveProjectiles deltaSeconds).projectiles ∧ Causes tick projectile event ∧
        InFlight shot (s.elapsedTime + deltaSeconds) projectile ∧
        (projectile.x - shot.x) ^ 2 + (projectile.y - shot.y) ^ 2 < 45 ^ 2) ∧
    ∀ before op later shot, ShotIn ops before op later shot → 3 / 2 ≤ (later.map duration).sum →
      ∀ projectile ∈ s.projectiles, projectile.id ≠ shot.id := by
  intro s
  refine ⟨stored_inFlight ops forward, ?_, ?_⟩
  · intro tick deltaSeconds nonneg event caused
    obtain ⟨projectile, listed, active, causes⟩ := sweep_causes tick _ _ caused
    obtain ⟨earlier, stored, rfl⟩ := List.mem_map.mp listed
    obtain ⟨before, op, later, shot, fired, flight⟩ := stored_inFlight ops forward earlier stored
    have moved := flight.moved nonneg active
    exact ⟨before, op, later, shot, _, fired, listed, causes, moved, moved.near⟩
  · rintro before op later shot ⟨rfl, made⟩ long projectile stored same
    have later_forward : ∀ other ∈ later, Forward other := fun other member =>
      forward other (List.mem_append_right before (List.mem_cons_of_mem op member))
    have flight := (inFlight_of_made made).2
    have reached : s = (((new : GameSession ℝ).after before).act op).after later := by
      show (new : GameSession ℝ).after (before ++ op :: later) = _
      rw [after_append]
      rfl
    rw [reached] at stored
    have young := (((tracks_of_made before made).after later later_forward).flight projectile stored same).young
    rw [after_elapsedTime] at young
    have born := flight.born
    linarith

/-- One shot and two seconds after it. -/
theorem projectiles_fly_oneShot :
    let shoot : SessionOp ℝ := .applyInput "A" shotRight (1 / 60)
    let ops := walkAway (1 / 5) ++ shoot :: [.tick 1 2]
    ∃ shot, ShotIn ops (walkAway (1 / 5)) shoot [.tick 1 2] shot ∧
      ∀ projectile ∈ ((new : GameSession ℝ).after ops).projectiles, projectile.id ≠ shot.id := by
  intro shoot ops
  obtain ⟨shot, _, _, walked⟩ := walkedAway (1 / 5)
  have fired : ShotIn ops (walkAway (1 / 5)) shoot [.tick 1 2] shot := by
    refine ⟨rfl, ?_⟩
    rw [walked.made]
    exact List.mem_cons_self
  have tick : lessEq (ofRat 0 : ℝ) 2 = true := by
    refine decide_eq_true ?_
    rw [ofRat_real]
    norm_num
  have forward : ∀ op ∈ ops, Forward op := by
    intro op member
    simp only [ops, shoot, walkAway, List.cons_append, List.nil_append, List.mem_cons, List.not_mem_nil,
      or_false] at member
    rcases member with rfl | rfl | rfl | rfl | rfl
    · trivial
    · trivial
    · trivial
    · trivial
    · exact tick
  have long : 3 / 2 ≤ (([.tick 1 2] : List (SessionOp ℝ)).map duration).sum := by
    rw [List.map_singleton, List.sum_singleton, duration]
    norm_num
  exact ⟨shot, fired, (projectiles_fly ops forward).2.2 _ _ _ _ fired long⟩

end GameSession

end Arena60
