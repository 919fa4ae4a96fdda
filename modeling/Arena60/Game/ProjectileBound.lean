import Arena60.Game.Trajectories
import Arena60.Misc.Sums

/-!
# How many projectiles there are

A projectile flies for a second and a half, and a gun is fired every tenth of a second at most. So
no player has more than fifteen projectiles in the air while everybody who is inserted was absent
before, and the pairs that a tick checks are few.
-/

namespace Arena60

open Misc Misc.DoubleArith Misc.RealArith

namespace GameSession

/-! ## What a tick keeps and checks -/

section sweep

variable {R : Type} [DoubleArith R]

/-- A sweep leaves some of the projectiles active, in their order. -/
theorem filter_sweep_sublist (tick : Nat) (rest : List (Projectile R)) :
    ∀ s : GameSession R, ((sweep tick rest s).2.1.filter fun projectile => projectile.active).Sublist rest := by
  induction rest with
  | nil => exact fun _ => List.Sublist.slnil
  | cons first rest ih =>
      intro s
      have turns : (sweep tick (first :: rest) s).2.1 =
          (s.collide tick first).2.1 :: (sweep tick rest (s.collide tick first).1).2.1 := rfl
      rw [turns, List.filter_cons]
      split
      · next active =>
          rcases s.collide_projectile tick first with same | spent
          · rw [same]
            exact (ih _).cons_cons first
          · rw [spent] at active
            cases active
      · exact (ih _).cons first

/-- The keys of the entries, with the names of their players. -/
def names (s : GameSession R) : List (String × String) :=
  s.players.entries.map fun entry => (entry.1, entry.2.state.playerId)

omit [DoubleArith R] in
theorem adjust_names (players : UnorderedMap String (PlayerRuntimeState R)) (key : String)
    {f : PlayerRuntimeState R → PlayerRuntimeState R}
    (named : ∀ runtime, (f runtime).state.playerId = runtime.state.playerId) :
    (players.adjust key f).entries.map (fun entry => (entry.1, entry.2.state.playerId)) =
      players.entries.map fun entry => (entry.1, entry.2.state.playerId) := by
  rw [UnorderedMap.adjust, List.map_map]
  apply List.map_congr_left
  intro entry _
  rw [Function.comp_apply]
  split
  · rw [named]
  · rfl

theorem collide_names (s : GameSession R) (tick : Nat) (projectile : Projectile R) :
    (s.collide tick projectile).1.names = s.names := by
  unfold collide
  split
  · rfl
  · dsimp only
    split
    · rfl
    · next key runtime _ =>
        let struck := s.players.adjust key .takeHit
        have hit : (struck.adjust projectile.ownerId .creditHit).entries.map
            (fun entry => (entry.1, entry.2.state.playerId)) = s.names :=
          (adjust_names struck _ (f := .creditHit) fun _ => rfl).trans
            (adjust_names s.players key (f := .takeHit) fun _ => rfl)
        unfold registerHit
        dsimp only
        split
        · exact (adjust_names _ key (f := .announceDeath) fun _ => rfl).trans hit
        · exact hit

/-- The pairs checked for a projectile are with players other than its owner. -/
theorem firstContact_checked (projectile : Projectile R) (entries : List (String × PlayerRuntimeState R)) :
    (firstContact projectile entries).2 ≤
      (entries.map fun entry => (entry.1, entry.2.state.playerId)).countP
        fun name => decide (name.2 ≠ projectile.ownerId) := by
  induction entries with
  | nil => exact Nat.le_refl 0
  | cons entry entries ih =>
      obtain ⟨key, runtime⟩ := entry
      rw [firstContact, List.map_cons, List.countP_cons]
      split
      · exact Nat.le_add_right_of_le ih
      · next other =>
          have foreign : runtime.state.playerId ≠ projectile.ownerId := by
            intro same
            simp [same] at other
          rw [if_pos (decide_eq_true foreign)]
          split
          · exact Nat.le_add_left 1 _
          · exact Nat.succ_le_succ ih

theorem collide_checked (s : GameSession R) (tick : Nat) (projectile : Projectile R) :
    (s.collide tick projectile).1.collisionsCheckedTotal = s.collisionsCheckedTotal := by
  unfold collide
  split
  · rfl
  · dsimp only
    split
    · rfl
    · unfold registerHit
      dsimp only
      split <;> rfl

theorem sweep_collisionsCheckedTotal (tick : Nat) (rest : List (Projectile R)) (s : GameSession R) :
    (sweep tick rest s).1.collisionsCheckedTotal = s.collisionsCheckedTotal := by
  induction rest generalizing s with
  | nil => rfl
  | cons first rest ih => exact (ih _).trans (s.collide_checked tick first)

/-- The pairs checked in a sweep, when each owner of a projectile is one of `count + 1` players. -/
theorem sweep_checked (tick : Nat) (count : Nat) (rest : List (Projectile R)) :
    ∀ s : GameSession R, (∀ projectile ∈ rest,
        s.names.countP (fun name => decide (name.2 ≠ projectile.ownerId)) ≤ count) →
      (sweep tick rest s).2.2.1 ≤ rest.length * count := by
  induction rest with
  | nil => exact fun _ _ => Nat.zero_le _
  | cons first rest ih =>
      intro s few
      have turns : (sweep tick (first :: rest) s).2.2.1 =
          (s.collide tick first).2.2.1 + (sweep tick rest (s.collide tick first).1).2.2.1 := rfl
      have here : (s.collide tick first).2.2.1 ≤ count := by
        unfold collide
        split
        · exact Nat.zero_le _
        · have checked := (firstContact_checked first s.players.entries).trans (few first List.mem_cons_self)
          dsimp only
          split <;> exact checked
      have later := ih (s.collide tick first).1 fun projectile member => by
        rw [collide_names]
        exact few projectile (List.mem_cons_of_mem _ member)
      rw [turns, List.length_cons, Nat.succ_mul, Nat.add_comm]
      exact Nat.add_le_add later here

omit [DoubleArith R] in
/-- A player is one of those that are present. -/
theorem countP_names_ne {s : GameSession R} (filed : s.Filed) {playerId : String}
    (present : s.players.contains playerId = true) :
    s.names.countP (fun name => decide (name.2 ≠ playerId)) = s.players.size - 1 := by
  have named : s.names.countP (fun name => decide (name.2 ≠ playerId)) =
      s.players.keys.countP fun key => decide (key ≠ playerId) := by
    rw [names, UnorderedMap.keys, List.countP_map, List.countP_map]
    refine List.countP_congr ?_
    intro entry member
    have same := filed entry.1 entry.2 ((s.players.find_eq_some_iff _ _).mpr member)
    rw [Function.comp_apply, Function.comp_apply, same]
  have listed := (s.players.contains_iff playerId).mp present
  have once : s.players.keys.count playerId = 1 := List.count_eq_one_of_mem s.players.distinct listed
  have total := s.players.keys.length_eq_countP_add_countP (p := (· == playerId))
  have size : s.players.size = s.players.keys.length := (List.length_map ..).symm
  rw [List.count] at once
  have others : s.players.keys.countP (fun key => decide (key ≠ playerId)) =
      s.players.keys.countP fun key => decide ¬(key == playerId) = true :=
    List.countP_congr fun key _ => by simp
  rw [named, others]
  omega

/-- Who shot a projectile, and when. -/
def stamp (projectile : Projectile R) : String × R := (projectile.ownerId, projectile.spawnTime)

theorem moveProjectile_stamp (elapsedTime deltaSeconds : R) (projectile : Projectile R) :
    stamp (moveProjectile elapsedTime deltaSeconds projectile) = stamp projectile := by
  have advanced : stamp (projectile.advance deltaSeconds) = stamp projectile := by
    unfold Projectile.advance
    split <;> rfl
  unfold moveProjectile
  dsimp only
  split
  · exact advanced
  · exact advanced

/-- An operation keeps some of the projectiles, in their order, and puts behind them what it makes. -/
theorem act_kept (s : GameSession R) (op : SessionOp R) :
    ∃ kept, (s.act op).projectiles = kept ++ s.madeBy op ∧
      (kept.map stamp).Sublist (s.projectiles.map stamp) := by
  cases op with
  | upsertPlayer playerId =>
      refine ⟨s.projectiles, ?_, List.Sublist.refl _⟩
      have none : s.madeBy (.upsertPlayer playerId) = [] := rfl
      rw [act_upsertPlayer, none, List.append_nil]
      split_ifs <;> rfl
  | removePlayer playerId =>
      exact ⟨_, (List.append_nil _).symm, List.filter_sublist.map stamp⟩
  | applyInput playerId input deltaSeconds =>
      obtain ⟨effect, -, applied⟩ := s.exists_applyInput_effect playerId input deltaSeconds
      have reached : s.act (.applyInput playerId input deltaSeconds) = effect.apply playerId s := applied
      refine ⟨s.projectiles, ?_, List.Sublist.refl _⟩
      rw [madeBy, applied, reached, InputEffect.apply, List.drop_left]
  | tick tick deltaSeconds =>
      refine ⟨(s.act (.tick tick deltaSeconds)).projectiles, (List.append_nil _).symm, ?_⟩
      have swept := (filter_sweep_sublist tick (s.moveProjectiles deltaSeconds).projectiles
        (s.moveProjectiles deltaSeconds)).map stamp
      have moved : (s.moveProjectiles deltaSeconds).projectiles.map stamp = s.projectiles.map stamp := by
        rw [moveProjectiles, List.map_map]
        exact List.map_congr_left fun projectile _ => moveProjectile_stamp _ _ projectile
      rw [moved] at swept
      exact swept
  | consumeDeathEvents => exact ⟨s.projectiles, (List.append_nil _).symm, List.Sublist.refl _⟩
  | reorder order => exact ⟨s.projectiles, (List.append_nil _).symm, List.Sublist.refl _⟩

theorem Carried.stamp {s : GameSession R} {before after : Projectile R} {op : SessionOp R}
    (carried : Carried s before after op) : after.ownerId = before.ownerId ∧ after.spawnTime = before.spawnTime := by
  rcases carried.cases with ⟨tick, deltaSeconds, _, moved, _⟩ | ⟨same, _⟩
  · have same := moveProjectile_stamp (s.elapsedTime + deltaSeconds) deltaSeconds before
    rw [moved]
    exact Prod.mk.inj same
  · rw [same]
    exact ⟨rfl, rfl⟩

end sweep

/-! ## The projectiles in the air -/

/-- An operation that does not turn the clock back and inserts nobody who is present. -/
structure Admitted (s : GameSession ℝ) (op : SessionOp ℝ) : Prop where
  forward : Forward op
  absent : ∀ playerId, op = .upsertPlayer playerId → s.players.contains playerId = false

/-- The projectiles of a session whose players were absent when they were inserted. -/
structure Armed (s : GameSession ℝ) : Prop where
  owned : ∀ projectile ∈ s.projectiles, ∃ runtime, s.players.find projectile.ownerId = some runtime ∧
    projectile.spawnTime ≤ runtime.lastFireTime
  spaced : (s.projectiles.map stamp).Pairwise fun older newer => older.1 = newer.1 → older.2 + 1 / 10 ≤ newer.2
  young : ∀ projectile ∈ s.projectiles,
    projectile.spawnTime ≤ s.elapsedTime ∧ s.elapsedTime < projectile.spawnTime + 3 / 2

/-- What a tick leaves active is younger than its lifetime. -/
theorem moved_young {s : GameSession ℝ} {deltaSeconds : ℝ} {projectile : Projectile ℝ}
    (active : (s.moved deltaSeconds projectile).active = true) :
    s.elapsedTime + deltaSeconds < (s.moved deltaSeconds projectile).spawnTime + 3 / 2 := by
  rw [moved, moveProjectile] at active ⊢
  split at active
  · cases active
  · next fresh =>
      rw [if_neg fresh]
      rw [Projectile.isExpired, active] at fresh
      by_contra old
      refine fresh (decide_eq_true ?_)
      rw [kLifetime_real]
      linarith

/-- The owner of a projectile that stays is not disturbed. -/
theorem Admitted.undisturbed {s : GameSession ℝ} {op : SessionOp ℝ} (admitted : Admitted s op)
    {before after : Projectile ℝ} {runtime : PlayerRuntimeState ℝ}
    (present : s.players.find before.ownerId = some runtime) (stored : after ∈ (s.act op).projectiles)
    (same : after.ownerId = before.ownerId) : ¬Disturbs before.ownerId op := by
  intro disturbs
  cases op with
  | upsertPlayer other =>
      have absent := admitted.absent other rfl
      obtain rfl : other = before.ownerId := disturbs
      rw [UnorderedMap.contains, present] at absent
      cases absent
  | removePlayer other =>
      obtain rfl : other = before.ownerId := disturbs
      have kept := (List.mem_filter.mp stored).2
      simp [same] at kept
  | _ => exact disturbs

theorem Armed.act {s : GameSession ℝ} (armed : Armed s) (filed : s.Filed) {op : SessionOp ℝ}
    (admitted : Admitted s op) : Armed (s.act op) := by
  have clock := admitted.forward.clock (s := s)
  have fired : ∀ shot ∈ s.madeBy op, s.madeBy op = [shot] ∧ ∃ runtime runtime',
      s.players.find shot.ownerId = some runtime ∧ (s.act op).players.find shot.ownerId = some runtime' ∧
        runtime.lastFireTime + 1 / 10 ≤ s.elapsedTime ∧ shot.spawnTime = s.elapsedTime ∧
        runtime'.lastFireTime = s.elapsedTime := by
    intro shot made
    have alone : s.madeBy op = [shot] := by
      obtain ⟨playerId, input, deltaSeconds, -, rfl, -, stored, -⟩ := madeBy_cases made
      rw [madeBy, stored, List.drop_left]
    refine ⟨alone, ?_⟩
    rcases madeBy_fired filed shot.ownerId op rfl with none | some
    · rw [alone, List.filter_singleton] at none
      simp at none
    · obtain ⟨projectile, runtime, runtime', single, present, present', -, cooled, spawned, last⟩ := some
      rw [alone, List.filter_singleton, decide_eq_true rfl, cond_true] at single
      obtain rfl := (List.cons.inj single).1
      exact ⟨runtime, runtime', present, present', cooled_real cooled, spawned, last⟩
  constructor
  · intro projectile stored
    rcases act_projectiles stored with made | ⟨before, old, carried⟩
    · obtain ⟨-, runtime, runtime', present, present', -, spawned, last⟩ := fired projectile made
      exact ⟨runtime', present', by rw [spawned, last]⟩
    · obtain ⟨runtime, present, earlier⟩ := armed.owned before old
      obtain ⟨owner, spawned⟩ := carried.stamp
      obtain ⟨runtime', present', step⟩ := act_entry s (admitted.undisturbed present stored owner) present
      refine ⟨runtime', by rw [owner, present'], ?_⟩
      rw [spawned]
      rcases step.lastFireTime with same | now
      · rw [same]
        exact earlier
      · rw [now]
        exact (armed.young before old).1
  · obtain ⟨kept, whole, sub⟩ := act_kept s op
    rw [whole, List.map_append, List.pairwise_append]
    refine ⟨armed.spaced.sublist sub, ?_, ?_⟩
    · cases shots : s.madeBy op with
      | nil => exact List.Pairwise.nil
      | cons shot others =>
          obtain ⟨alone, -⟩ := fired shot (shots ▸ List.mem_cons_self)
          rw [← shots, alone]
          exact List.pairwise_singleton _ _
    · intro older member newer member' same
      obtain ⟨projectile, stored, rfl⟩ := List.mem_map.mp (sub.subset member)
      obtain ⟨shot, made, rfl⟩ := List.mem_map.mp member'
      obtain ⟨-, runtime, -, present, -, cooled, spawned, -⟩ := fired shot made
      obtain ⟨stored', present', earlier⟩ := armed.owned projectile stored
      -- the gun had cooled down since every projectile that is still in the air
      have owner : projectile.ownerId = shot.ownerId := same
      rw [owner, present] at present'
      cases present'
      change projectile.spawnTime + 1 / 10 ≤ shot.spawnTime
      linarith
  · intro projectile stored
    rcases act_projectiles stored with made | ⟨before, old, carried⟩
    · obtain ⟨-, runtime, runtime', present, present', -, spawned, last⟩ := fired projectile made
      have flight := (inFlight_of_made made).2
      have born := flight.born
      have young := flight.young
      constructor <;> linarith
    · obtain ⟨owner, spawned⟩ := carried.stamp
      have young := armed.young before old
      rcases carried.cases with ⟨tick, deltaSeconds, rfl, same, active⟩ | ⟨same, still⟩
      · rw [(act_clock s _).2]
        have later : s.elapsedTime + deltaSeconds < projectile.spawnTime + 3 / 2 := by
          rw [same] at active ⊢
          exact moved_young active
        have nonneg := admitted.forward.nonneg
        refine ⟨?_, later⟩
        rw [spawned]
        linarith
      · rw [still, same]
        exact young

/-! ## Their number -/

/-- The projectiles of a player. -/
def projectilesOf {R : Type} (s : GameSession R) (playerId : String) : List (Projectile R) :=
  s.projectiles.filter fun projectile => projectile.ownerId = playerId

/-- Fifteen cooldowns are as long as a flight. -/
theorem Armed.projectilesOf_le {s : GameSession ℝ} (armed : Armed s) (playerId : String) :
    (s.projectilesOf playerId).length ≤ 15 := by
  have spaced : ((s.projectilesOf playerId).map Projectile.spawnTime).Pairwise
      fun earlier later => earlier + 1 / 10 ≤ later := by
    rw [List.pairwise_map]
    refine (List.pairwise_map.mp armed.spaced).filter _ |>.imp_of_mem ?_
    intro older newer member member' apart
    have owner := of_decide_eq_true (List.mem_filter.mp member).2
    have owner' := of_decide_eq_true (List.mem_filter.mp member').2
    exact apart (owner.trans owner'.symm)
  cases mine : s.projectilesOf playerId with
  | nil => exact Nat.zero_le _
  | cons oldest rest =>
      have young : ∀ projectile ∈ oldest :: rest,
          projectile.spawnTime ≤ s.elapsedTime ∧ s.elapsedTime < projectile.spawnTime + 3 / 2 := by
        intro projectile member
        rw [← mine] at member
        exact armed.young projectile (List.mem_filter.mp member).1
      rw [mine] at spaced
      have first := (List.pairwise_cons.mp spaced).1
      have few := length_le_of_spaced (by norm_num) _ (young oldest List.mem_cons_self).1 spaced ?_
      · have old := (young oldest List.mem_cons_self).2
        rw [List.length_map] at few
        have bound : ((oldest :: rest).length : ℝ) < 16 := by linarith
        have bound' : (oldest :: rest).length < 16 := by exact_mod_cast bound
        omega
      · intro time member
        obtain ⟨projectile, listed, rfl⟩ := List.mem_map.mp member
        refine ⟨?_, (young projectile listed).1⟩
        rcases List.mem_cons.mp listed with rfl | later
        · exact le_refl _
        · have next := first projectile.spawnTime (List.mem_map_of_mem later)
          linarith

/-- All projectiles belong to players that are present. -/
theorem Armed.projectiles_le {s : GameSession ℝ} (armed : Armed s) :
    s.projectiles.length ≤ 15 * s.players.size := by
  have booked : ∀ projectile ∈ s.projectiles, projectile.ownerId ∈ s.players.keys := by
    intro projectile stored
    obtain ⟨runtime, present, -⟩ := armed.owned projectile stored
    refine (s.players.contains_iff _).mp ?_
    rw [UnorderedMap.contains, present]
    rfl
  have total := sum_map_sum_booked s.players.distinct Projectile.ownerId (fun _ => 1) booked
  have each : ∀ amount ∈ s.players.keys.map fun key =>
      (s.projectiles.map fun projectile => if key = projectile.ownerId then 1 else 0).sum, amount ≤ 15 := by
    intro amount member
    obtain ⟨key, -, rfl⟩ := List.mem_map.mp member
    have count : (s.projectiles.map fun projectile => if key = projectile.ownerId then 1 else 0).sum =
        (s.projectilesOf key).length := by
      rw [projectilesOf, ← List.countP_eq_length_filter, countP_eq_sum]
      refine congrArg List.sum (List.map_congr_left fun projectile _ => ?_)
      by_cases mine : key = projectile.ownerId <;> simp [mine, eq_comm]
    rw [count]
    exact armed.projectilesOf_le key
  have bounded := List.sum_le_card_nsmul _ 15 each
  have size : s.players.keys.length = s.players.size := List.length_map ..
  have length : (s.projectiles.map fun _ => 1).sum = s.projectiles.length := by simp
  rw [length] at total
  rw [← total]
  rw [List.length_map, size, smul_eq_mul, Nat.mul_comm] at bounded
  exact bounded

/-- The pairs that a tick checks. -/
theorem Armed.checked_le {s : GameSession ℝ} (armed : Armed s) (filed : s.Filed) (tick : Nat)
    (deltaSeconds : ℝ) : (s.tick tick deltaSeconds).1.collisionsCheckedTotal ≤
      s.collisionsCheckedTotal + 15 * s.players.size * (s.players.size - 1) := by
  let moving := s.moveProjectiles deltaSeconds
  have total : (s.tick tick deltaSeconds).1.collisionsCheckedTotal =
      s.collisionsCheckedTotal + (sweep tick moving.projectiles moving).2.2.1 :=
    congrArg (· + (sweep tick moving.projectiles moving).2.2.1)
      (sweep_collisionsCheckedTotal tick moving.projectiles moving)
  have names : moving.names = s.names := rfl
  have checked := sweep_checked tick (s.players.size - 1) moving.projectiles moving fun projectile member => by
    obtain ⟨before, stored, moved⟩ := List.mem_map.mp member
    obtain ⟨runtime, present, -⟩ := armed.owned before stored
    have owner : projectile.ownerId = before.ownerId := by
      rw [← moved]
      exact moveProjectile_ownerId _ _ before
    have known : s.players.contains before.ownerId = true := by
      rw [UnorderedMap.contains, present]
      rfl
    rw [names, owner, countP_names_ne filed known]
  have length : moving.projectiles.length = s.projectiles.length := List.length_map ..
  rw [length] at checked
  rw [total]
  exact Nat.add_le_add_left (checked.trans (Nat.mul_le_mul_right _ armed.projectiles_le)) _

end GameSession

end Arena60
