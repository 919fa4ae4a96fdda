import Arena60.Game.DeathLedger
import Arena60.Misc.NumberedNames

/-!
# Where projectiles go

Every projectile made is stored, or it hit, expired or was dropped with its owner; and a
player's shots and hits are counted since it was inserted, the stored projectiles being
shots that may still hit.
-/

namespace Arena60

open Misc GameSession

universe u

/-- Whose projectile it is. -/
def ownedBy {R : Type u} (playerId : String) (projectile : Projectile R) : Bool :=
  projectile.ownerId == playerId

/-- The shot counters of a player against the trace and the projectiles in flight. -/
structure ShotAccount {R : Type u} (playerId : String) (runtime : PlayerRuntimeState R)
    (trace : List SessionItem) (inFlight : List (Projectile R)) : Prop where
  shots : runtime.shotsFired = spawnedBy playerId (stay playerId trace)
  hits : runtime.hitsLanded = hitsBy playerId (stay playerId trace)
  shownShots : runtime.state.shotsFired = runtime.shotsFired
  shownHits : runtime.state.hitsLanded = runtime.hitsLanded
  accuracy : runtime.hitsLanded + inFlight.countP (ownedBy playerId) ≤ runtime.shotsFired

/-- Two entries with the same shot counters. -/
structure SameShots {R : Type u} (runtime runtime' : PlayerRuntimeState R) : Prop where
  shots : runtime'.shotsFired = runtime.shotsFired
  hits : runtime'.hitsLanded = runtime.hitsLanded
  shownShots : runtime'.state.shotsFired = runtime.state.shotsFired
  shownHits : runtime'.state.hitsLanded = runtime.state.hitsLanded

/-- Items that are about none of a player's shots. -/
def ShotNeutral (playerId : String) (items : List SessionItem) : Prop :=
  ∀ item ∈ items, item.isInsertOf playerId = false ∧ item.isHitBy playerId = false ∧
    item.isSpawnBy playerId = false

section account

variable {R : Type u} {playerId : String} {items trace : List SessionItem}
  {runtime runtime' : PlayerRuntimeState R} {inFlight inFlight' : List (Projectile R)}

theorem SameShots.refl (runtime : PlayerRuntimeState R) : SameShots runtime runtime :=
  ⟨rfl, rfl, rfl, rfl⟩

theorem ShotNeutral.stay_eq (neutral : ShotNeutral playerId items) :
    stay playerId (items.reverse ++ trace) = items.reverse ++ stay playerId trace :=
  since_append _ _ _ fun item member => (neutral item (List.mem_reverse.mp member)).1

theorem ShotNeutral.hitsBy_eq (neutral : ShotNeutral playerId items) :
    hitsBy playerId (items.reverse ++ trace) = hitsBy playerId trace := by
  have none : items.reverse.countP (SessionItem.isHitBy playerId) = 0 := by
    rw [List.countP_eq_zero]
    intro item member
    rw [(neutral item (List.mem_reverse.mp member)).2.1]
    exact Bool.false_ne_true
  rw [hitsBy, List.countP_append, none, Nat.zero_add, hitsBy]

theorem ShotNeutral.spawnedBy_eq (neutral : ShotNeutral playerId items) :
    spawnedBy playerId (items.reverse ++ trace) = spawnedBy playerId trace := by
  have none : items.reverse.countP (SessionItem.isSpawnBy playerId) = 0 := by
    rw [List.countP_eq_zero]
    intro item member
    rw [(neutral item (List.mem_reverse.mp member)).2.2]
    exact Bool.false_ne_true
  rw [spawnedBy, List.countP_append, none, Nat.zero_add, spawnedBy]

/-- A shot account survives what is not about the player's shots, as long as it gets no
more projectiles. -/
theorem ShotAccount.neutral (account : ShotAccount playerId runtime trace inFlight)
    (same : SameShots runtime runtime') (neutral : ShotNeutral playerId items)
    (fewer : inFlight'.countP (ownedBy playerId) ≤ inFlight.countP (ownedBy playerId)) :
    ShotAccount playerId runtime' (items.reverse ++ trace) inFlight' := by
  constructor
  · rw [neutral.stay_eq, neutral.spawnedBy_eq, same.shots]
    exact account.shots
  · rw [neutral.stay_eq, neutral.hitsBy_eq, same.hits]
    exact account.hits
  · rw [same.shownShots, same.shots]
    exact account.shownShots
  · rw [same.shownHits, same.hits]
    exact account.shownHits
  · rw [same.hits, same.shots]
    have := account.accuracy
    omega

end account

/-- The projectiles of a session against its trace. -/
structure ProjectileLedger {R : Type u} (trace : List SessionItem) (s : GameSession R) : Prop where
  numbered : ∀ id ∈ spawnedIds trace, ∃ number ≤ s.projectileCounter,
    id = "projectile-" ++ toString number
  distinct : (spawnedIds trace).Nodup
  spawned : s.projectilesSpawnedTotal = (spawnedIds trace).length
  balance : ∀ id, (spawnedIds trace).count id = (hitIds trace).count id +
    (s.live.map Projectile.id).count id + (expiredIds trace).count id + (droppedIds trace).count id
  owners : ∀ projectile ∈ s.live, s.players.contains projectile.ownerId = true
  foreign : ∀ hit ∈ hitEvents trace, hit.shooterId ≠ hit.targetId
  shots : ∀ playerId runtime, s.players.find playerId = some runtime →
    ShotAccount playerId runtime trace s.live

/-- What happens to a projectile while it is stored. -/
def IsFate (item : SessionItem) : Prop :=
  item.spawnedId? ≠ none ∨ item.combat? ≠ none ∨ item.expiredId? ≠ none ∨ item.droppedId? ≠ none

section ledger

variable {R : Type u} {trace items : List SessionItem} {s s' : GameSession R}

theorem spawnedIds_append (items trace : List SessionItem) :
    spawnedIds (items.reverse ++ trace) =
      (items.filterMap SessionItem.spawnedId?).reverse ++ spawnedIds trace := by
  rw [spawnedIds, List.filterMap_append, List.filterMap_reverse, spawnedIds]

theorem count_expiredIds (items trace : List SessionItem) (id : String) :
    (expiredIds (items.reverse ++ trace)).count id =
      (items.filterMap SessionItem.expiredId?).count id + (expiredIds trace).count id := by
  rw [expiredIds, List.filterMap_append, List.filterMap_reverse, expiredIds, List.count_append,
    List.count_reverse]

theorem count_droppedIds (items trace : List SessionItem) (id : String) :
    (droppedIds (items.reverse ++ trace)).count id =
      (items.filterMap SessionItem.droppedId?).count id + (droppedIds trace).count id := by
  rw [droppedIds, List.filterMap_append, List.filterMap_reverse, droppedIds, List.count_append,
    List.count_reverse]

/-- A ledger survives items without combat that make no projectile, as long as a
projectile that is gone expired or was dropped. -/
theorem ProjectileLedger.peaceful (ledger : ProjectileLedger trace s)
    (noSpawn : items.filterMap SessionItem.spawnedId? = []) (peaceful : Peaceful items)
    (counter : s.projectileCounter ≤ s'.projectileCounter)
    (spawned : s'.projectilesSpawnedTotal = s.projectilesSpawnedTotal)
    (fates : ∀ id, (s.live.map Projectile.id).count id = (s'.live.map Projectile.id).count id +
      (items.filterMap SessionItem.expiredId?).count id +
      (items.filterMap SessionItem.droppedId?).count id)
    (owners : ∀ projectile ∈ s'.live, s'.players.contains projectile.ownerId = true)
    (shots : ∀ playerId runtime, s'.players.find playerId = some runtime →
      ShotAccount playerId runtime (items.reverse ++ trace) s'.live) :
    ProjectileLedger (items.reverse ++ trace) s' := by
  have ids : spawnedIds (items.reverse ++ trace) = spawnedIds trace := by
    rw [spawnedIds_append, noSpawn]
    rfl
  have hits : hitEvents (items.reverse ++ trace) = hitEvents trace := by
    rw [hitEvents, peaceful.combatEvents_eq, hitEvents]
  constructor
  · intro id member
    rw [ids] at member
    obtain ⟨number, below, same⟩ := ledger.numbered id member
    exact ⟨number, Nat.le_trans below counter, same⟩
  · rw [ids]
    exact ledger.distinct
  · rw [spawned, ids]
    exact ledger.spawned
  · intro id
    have before := ledger.balance id
    have moved := fates id
    rw [ids, hitIds, hits, count_expiredIds, count_droppedIds]
    rw [hitIds] at before
    omega
  · exact owners
  · rw [hits]
    exact ledger.foreign
  · exact shots

/-- A ledger survives items without a projectile's fate, as long as the projectiles and
their owners stay. -/
theorem ProjectileLedger.quiet (ledger : ProjectileLedger trace s)
    (quiet : ∀ item ∈ items, ¬ IsFate item)
    (counter : s.projectileCounter ≤ s'.projectileCounter)
    (spawned : s'.projectilesSpawnedTotal = s.projectilesSpawnedTotal) (live : s'.live = s.live)
    (present : ∀ playerId, s.players.contains playerId = true → s'.players.contains playerId = true)
    (shots : ∀ playerId runtime, s'.players.find playerId = some runtime →
      ShotAccount playerId runtime (items.reverse ++ trace) s'.live) :
    ProjectileLedger (items.reverse ++ trace) s' := by
  have silent : ∀ part : SessionItem → Option String,
      (∀ item, part item ≠ none → IsFate item) → items.filterMap part = [] := by
    intro part fate
    rw [List.filterMap_eq_nil_iff]
    intro item member
    by_contra some
    exact quiet item member (fate item some)
  have peaceful : Peaceful items := by
    intro item member
    by_contra some
    exact quiet item member (Or.inr (Or.inl some))
  have noSpawn := silent SessionItem.spawnedId? fun _ => Or.inl
  have noExpiry := silent SessionItem.expiredId? fun _ h => Or.inr (Or.inr (Or.inl h))
  have noDrop := silent SessionItem.droppedId? fun _ h => Or.inr (Or.inr (Or.inr h))
  refine ledger.peaceful noSpawn peaceful counter spawned ?_ ?_ shots
  · intro id
    rw [live, noExpiry, noDrop]
    rfl
  · rw [live]
    exact fun projectile member => present _ (ledger.owners projectile member)

theorem notFate_single {item : SessionItem}
    (spawned : item.spawnedId? = none) (combat : item.combat? = none)
    (expired : item.expiredId? = none) (dropped : item.droppedId? = none) :
    ∀ other ∈ [item], ¬ IsFate other := by
  intro other member
  rw [List.mem_singleton.mp member]
  simp [IsFate, spawned, combat, expired, dropped]

theorem shotNeutral_nil (playerId : String) : ShotNeutral playerId [] :=
  fun _ member => nomatch member

theorem shotNeutral_single {item : SessionItem} {playerId : String}
    (neutral : item.isInsertOf playerId = false ∧ item.isHitBy playerId = false ∧
      item.isSpawnBy playerId = false) : ShotNeutral playerId [item] := by
  intro other member
  rw [List.mem_singleton.mp member]
  exact neutral

/-- Every player keeps its shot account when every entry has the counters of an earlier
one. -/
theorem ProjectileLedger.kept (ledger : ProjectileLedger trace s)
    (neutral : ∀ playerId, ShotNeutral playerId items)
    (kept : ∀ playerId runtime', s'.players.find playerId = some runtime' →
      ∃ runtime, s.players.find playerId = some runtime ∧ SameShots runtime runtime')
    (fewer : ∀ playerId, s'.live.countP (ownedBy playerId) ≤ s.live.countP (ownedBy playerId)) :
    ∀ playerId runtime, s'.players.find playerId = some runtime →
      ShotAccount playerId runtime (items.reverse ++ trace) s'.live := by
  intro playerId runtime' present
  obtain ⟨runtime, before, same⟩ := kept playerId runtime' present
  exact (ledger.shots playerId runtime before).neutral same (neutral playerId) (fewer playerId)

theorem keptShots_of_same (same : s'.players = s.players) :
    ∀ playerId runtime', s'.players.find playerId = some runtime' →
      ∃ runtime, s.players.find playerId = some runtime ∧ SameShots runtime runtime' := by
  intro playerId runtime' present
  rw [same] at present
  exact ⟨runtime', present, .refl runtime'⟩

/-- Without projectiles of its own a player has none in flight. -/
theorem ProjectileLedger.noneOwned (ledger : ProjectileLedger trace s) {playerId : String}
    (absent : s.players.find playerId = none) : s.live.countP (ownedBy playerId) = 0 := by
  rw [List.countP_eq_zero]
  intro projectile member owned
  have present := ledger.owners projectile member
  rw [eq_of_beq owned, UnorderedMap.contains, absent] at present
  cases present

theorem mem_live {projectile : Projectile R} :
    projectile ∈ s.live ↔ projectile ∈ s.projectiles ∧ projectile.active = true :=
  List.mem_filter

theorem live_of_settled (settled : ∀ projectile ∈ s.projectiles, projectile.active = true) :
    s.live = s.projectiles :=
  List.filter_eq_self.mpr settled

/-- What a filter lets through and what it stops is all there was. -/
theorem count_filter_add_count_filter_not (projectiles : List (Projectile R))
    (keep : Projectile R → Bool) (id : String) :
    (projectiles.map Projectile.id).count id =
      ((projectiles.filter keep).map Projectile.id).count id +
      ((projectiles.filter fun projectile => !keep projectile).map Projectile.id).count id := by
  have parts := (List.filter_append_perm keep projectiles).map Projectile.id
  rw [← parts.count_eq id, List.map_append, List.count_append]

theorem expiredIds_expiredItems (s : GameSession R) :
    s.expiredItems.filterMap SessionItem.expiredId? =
      (s.projectiles.filter fun projectile => !projectile.active).map Projectile.id := by
  rw [expiredItems, List.filterMap_map]
  exact congrFun (List.filterMap_eq_map (f := Projectile.id)) _

theorem droppedIds_droppedItems (s : GameSession R) (removed : String) :
    (s.droppedItems removed).filterMap SessionItem.droppedId? =
      (s.projectiles.filter fun projectile => projectile.ownerId = removed).map Projectile.id := by
  rw [droppedItems, List.filterMap_map]
  exact congrFun (List.filterMap_eq_map (f := Projectile.id)) _

theorem droppedItems_none (part : SessionItem → Option String) (s : GameSession R)
    (removed : String) (head : part (.removed removed) = none)
    (silent : ∀ id, part (.dropped id) = none) :
    (.removed removed :: s.droppedItems removed).filterMap part = [] := by
  rw [List.filterMap_eq_nil_iff]
  intro item member
  rcases List.mem_cons.mp member with rfl | dropped
  · exact head
  · obtain ⟨projectile, -, rfl⟩ := List.mem_map.mp dropped
    exact silent projectile.id

theorem expiredItems_none (part : SessionItem → Option String) (s : GameSession R) (tick : Nat)
    (head : part (.ticked tick) = none) (silent : ∀ id, part (.expired id) = none) :
    (.ticked tick :: s.expiredItems).filterMap part = [] := by
  rw [List.filterMap_eq_nil_iff]
  intro item member
  rcases List.mem_cons.mp member with rfl | expired
  · exact head
  · obtain ⟨projectile, -, rfl⟩ := List.mem_map.mp expired
    exact silent projectile.id

/-- With its owner go its projectiles, and no others. -/
theorem ProjectileLedger.remove (ledger : ProjectileLedger trace s) (removed : String)
    (settled : ∀ projectile ∈ s.projectiles, projectile.active = true) :
    ProjectileLedger ((.removed removed :: s.droppedItems removed).reverse ++ trace)
      (s.removePlayer removed) := by
  have live := live_of_settled settled
  have kept : (s.removePlayer removed).live =
      s.projectiles.filter fun projectile => projectile.ownerId ≠ removed :=
    List.filter_eq_self.mpr fun projectile member => settled projectile (List.mem_filter.mp member).1
  refine ledger.peaceful ?_ ?_ (Nat.le_refl _) rfl ?_ ?_ ?_
  · exact droppedItems_none _ s removed rfl fun _ => rfl
  · exact fun item member => (droppedItems_quiet s removed item member).1
  · intro id
    have parts := count_filter_add_count_filter_not s.projectiles
      (fun projectile => decide (projectile.ownerId = removed)) id
    have stays : (s.projectiles.filter fun projectile => projectile.ownerId ≠ removed) =
        s.projectiles.filter fun projectile => !decide (projectile.ownerId = removed) := by
      simp only [ne_eq, decide_not]
    rw [droppedItems_none _ s removed rfl fun _ => rfl, List.filterMap_cons_none rfl,
      droppedIds_droppedItems, kept, live, stays, parts]
    simp only [List.count_nil]
    omega
  · intro projectile member
    rw [kept] at member
    obtain ⟨stored, other⟩ := List.mem_filter.mp member
    have present := ledger.owners projectile (live ▸ stored)
    rw [UnorderedMap.contains] at present ⊢
    simp only [removePlayer, UnorderedMap.find_erase, if_neg (of_decide_eq_true other)]
    exact present
  · refine ledger.kept ?_ ?_ ?_
    · intro playerId item member
      rcases List.mem_cons.mp member with rfl | dropped
      · exact ⟨rfl, rfl, rfl⟩
      · obtain ⟨projectile, -, rfl⟩ := List.mem_map.mp dropped
        exact ⟨rfl, rfl, rfl⟩
    · intro playerId runtime' present
      simp only [removePlayer, UnorderedMap.find_erase] at present
      split at present
      · cases present
      · exact ⟨runtime', present, .refl runtime'⟩
    · intro playerId
      rw [kept, live]
      exact List.filter_sublist.countP_le

variable [DoubleArith R]

@[simp] theorem moveProjectile_id (elapsedTime deltaSeconds : R) (projectile : Projectile R) :
    (moveProjectile elapsedTime deltaSeconds projectile).id = projectile.id := by
  unfold moveProjectile
  dsimp only
  split
  · exact projectile.advance_id deltaSeconds
  · exact projectile.advance_id deltaSeconds

@[simp] theorem moveProjectile_ownerId (elapsedTime deltaSeconds : R) (projectile : Projectile R) :
    (moveProjectile elapsedTime deltaSeconds projectile).ownerId = projectile.ownerId := by
  unfold moveProjectile
  dsimp only
  split
  · exact projectile.advance_ownerId deltaSeconds
  · exact projectile.advance_ownerId deltaSeconds

/-- A projectile that moves goes on or expires. -/
theorem ProjectileLedger.moveProjectiles (ledger : ProjectileLedger trace s) (tick : Nat)
    (deltaSeconds : R) (settled : ∀ projectile ∈ s.projectiles, projectile.active = true) :
    ProjectileLedger
      ((.ticked tick :: (s.moveProjectiles deltaSeconds).expiredItems).reverse ++ trace)
      (s.moveProjectiles deltaSeconds) := by
  have live := live_of_settled settled
  let move := moveProjectile (s.elapsedTime + deltaSeconds) deltaSeconds
  refine ledger.peaceful ?_ ?_ (Nat.le_refl _) rfl ?_ ?_ ?_
  · exact expiredItems_none _ _ tick rfl fun _ => rfl
  · exact fun item member => (expiredItems_quiet _ tick item member).1
  · intro id
    have parts := count_filter_add_count_filter_not (s.projectiles.map move)
      (fun projectile => projectile.active) id
    have sameIds : (s.projectiles.map move).map Projectile.id = s.projectiles.map Projectile.id := by
      rw [List.map_map]
      exact List.map_congr_left fun projectile _ => moveProjectile_id _ _ projectile
    have noDrops := expiredItems_none SessionItem.droppedId?
      (s.moveProjectiles deltaSeconds) tick rfl fun _ => rfl
    rw [noDrops, List.filterMap_cons_none rfl, expiredIds_expiredItems, live, ← sameIds, parts]
    rfl
  · intro projectile member
    obtain ⟨moved, -⟩ := mem_live.mp member
    obtain ⟨before, stored, rfl⟩ := List.mem_map.mp moved
    rw [moveProjectile_ownerId]
    exact ledger.owners before (live ▸ stored)
  · refine ledger.kept ?_ (keptShots_of_same rfl) ?_
    · intro playerId item member
      rcases List.mem_cons.mp member with rfl | expired
      · exact ⟨rfl, rfl, rfl⟩
      · obtain ⟨projectile, -, rfl⟩ := List.mem_map.mp expired
        exact ⟨rfl, rfl, rfl⟩
    · intro playerId
      have owned : (s.projectiles.map move).countP (ownedBy playerId) =
          s.projectiles.countP (ownedBy playerId) := by
        rw [List.countP_map]
        apply List.countP_congr
        intro projectile _
        simp [ownedBy, move]
      rw [live, ← owned]
      exact List.filter_sublist.countP_le

/-- A player that enters keeps its shots, or has none yet. -/
theorem ProjectileLedger.upsert (ledger : ProjectileLedger trace s) (accounts : Accounts trace s)
    {entered : String} (named : entered ≠ "") :
    ProjectileLedger ([.upserted entered (!s.players.contains entered)].reverse ++ trace)
      (s.upsertPlayer entered) := by
  refine ledger.quiet (notFate_single rfl rfl rfl rfl) (Nat.le_refl _) rfl rfl ?_ ?_
  · intro playerId present
    rw [upsertPlayer, UnorderedMap.contains_upsert, present, Bool.or_true]
  · intro playerId runtime' present
    simp only [upsertPlayer, UnorderedMap.find_upsert] at present
    by_cases asked : playerId = entered
    · subst asked
      rw [if_pos rfl] at present
      cases found : s.players.find playerId with
      | none =>
          rw [found] at present
          cases present
          have none := ledger.noneOwned found
          have begins : stay playerId (.upserted playerId true :: trace) = [] := by
            simp [stay, since_cons, SessionItem.isInsertOf]
          simp only [UnorderedMap.contains, found, Option.isSome_none, Bool.not_false,
            List.reverse_singleton, List.singleton_append]
          constructor
          · rw [begins]
            rfl
          · rw [begins]
            rfl
          · rfl
          · rfl
          · show 0 + s.live.countP _ ≤ 0
            omega
      | some runtime =>
          rw [found] at present
          cases present
          have notEmpty : runtime.state.playerId ≠ "" := by
            rw [(accounts playerId runtime found).named]
            exact named
          have entered := enter_of_named playerId notEmpty
          simp only [UnorderedMap.contains, found, Option.isSome_some, Bool.not_true]
          rw [Option.getD_some, entered]
          refine (ledger.shots playerId runtime found).neutral ⟨rfl, rfl, rfl, rfl⟩ ?_ (Nat.le_refl _)
          exact shotNeutral_single ⟨Bool.and_false _, rfl, rfl⟩
    · rw [if_neg asked] at present
      have other : (entered == playerId) = false := beq_false_of_ne (Ne.symm asked)
      refine (ledger.shots playerId runtime' present).neutral (.refl runtime') ?_ (Nat.le_refl _)
      refine shotNeutral_single ⟨?_, rfl, rfl⟩
      simp only [SessionItem.isInsertOf, other, Bool.false_and]

omit [DoubleArith R] in
theorem spawnedBy_spawned {playerId id ownerId : String} (trace : List SessionItem) :
    spawnedBy playerId (stay playerId (.spawned id ownerId :: trace)) =
      spawnedBy playerId (stay playerId trace) + (ownerId == playerId).toNat := by
  have kept : stay playerId (.spawned id ownerId :: trace) =
      .spawned id ownerId :: stay playerId trace := by
    simp [stay, since_cons, SessionItem.isInsertOf]
  rw [kept, spawnedBy, List.countP_cons, spawnedBy]
  cases owned : ownerId == playerId <;> simp [SessionItem.isSpawnBy, owned]

omit [DoubleArith R] in
theorem hitsBy_spawned {playerId id ownerId : String} (trace : List SessionItem) :
    hitsBy playerId (stay playerId (.spawned id ownerId :: trace)) =
      hitsBy playerId (stay playerId trace) := by
  simp [stay, since_cons, SessionItem.isInsertOf, hitsBy, SessionItem.isHitBy]

/-- The session after a projectile was made. -/
def withSpawned (s : GameSession R) (playerId : String) (projectile : Projectile R) :
    GameSession R :=
  { s with
    projectileCounter := s.projectileCounter + 1
    projectiles := s.projectiles ++ [projectile]
    projectilesSpawnedTotal := s.projectilesSpawnedTotal + 1
    players := s.players.adjust playerId fun runtime =>
      { runtime with
        shotsFired := runtime.shotsFired + 1
        state := { runtime.state with shotsFired := runtime.shotsFired + 1 } } }

omit [DoubleArith R] in
theorem live_withSpawned {playerId : String} {projectile : Projectile R}
    (active : projectile.active = true) :
    (withSpawned s playerId projectile).live = s.live ++ [projectile] := by
  simp [withSpawned, GameSession.live, active]

omit [DoubleArith R] in
/-- The shots of all players after one of them made a projectile. -/
theorem ProjectileLedger.spawnShots (ledger : ProjectileLedger trace s) {playerId : String}
    {runtime : PlayerRuntimeState R} {projectile : Projectile R}
    (present : s.players.find playerId = some runtime) (owner : projectile.ownerId = playerId)
    (active : projectile.active = true) (other : String) (runtime' : PlayerRuntimeState R)
    (present' : (withSpawned s playerId projectile).players.find other = some runtime') :
    ShotAccount other runtime' (.spawned projectile.id projectile.ownerId :: trace)
      (withSpawned s playerId projectile).live := by
  have found : (withSpawned s playerId projectile).players.find other =
      if other = playerId then (s.players.find other).map fun runtime =>
        { runtime with
          shotsFired := runtime.shotsFired + 1
          state := { runtime.state with shotsFired := runtime.shotsFired + 1 } }
      else s.players.find other := s.players.find_adjust playerId other _
  have counts : (withSpawned s playerId projectile).live.countP (ownedBy other) =
      s.live.countP (ownedBy other) + (projectile.ownerId == other).toNat := by
    rw [live_withSpawned active, List.countP_append, List.countP_singleton]
    cases owned : projectile.ownerId == other <;> simp [ownedBy, owned]
  rw [found] at present'
  by_cases asked : other = playerId
  · subst asked
    rw [if_pos rfl, present, Option.map_some] at present'
    cases present'
    have account := ledger.shots other runtime present
    have mine : (projectile.ownerId == other).toNat = 1 := by
      rw [owner, beq_self_eq_true]
      rfl
    constructor
    · rw [spawnedBy_spawned, ← account.shots, mine]
    · rw [hitsBy_spawned]
      exact account.hits
    · rfl
    · exact account.shownHits
    · have := account.accuracy
      rw [counts, mine]
      dsimp only
      omega
  · rw [if_neg asked] at present'
    have account := ledger.shots other runtime' present'
    have notMine : (projectile.ownerId == other) = false :=
      beq_false_of_ne fun same => asked (same.symm.trans owner)
    have neutral : ShotNeutral other [.spawned projectile.id projectile.ownerId] :=
      shotNeutral_single ⟨rfl, rfl, notMine⟩
    refine account.neutral (.refl runtime') neutral ?_
    rw [counts, notMine]
    exact Nat.le_refl _

omit [DoubleArith R] in
/-- A new projectile has a new id and counts as a shot of its owner. -/
theorem ProjectileLedger.spawn (ledger : ProjectileLedger trace s) (accounts : Accounts trace s)
    {playerId : String} {runtime : PlayerRuntimeState R} {projectile : Projectile R}
    (present : s.players.find playerId = some runtime)
    (id : projectile.id = "projectile-" ++ toString (s.projectileCounter + 1))
    (owner : projectile.ownerId = runtime.state.playerId) (active : projectile.active = true) :
    ProjectileLedger (.spawned projectile.id projectile.ownerId :: trace)
      (withSpawned s playerId projectile) := by
  have owner : projectile.ownerId = playerId := owner.trans (accounts playerId runtime present).named
  have live := (live_withSpawned active : (withSpawned s playerId projectile).live = s.live ++ [projectile])
  have ids : spawnedIds (.spawned projectile.id projectile.ownerId :: trace) =
      projectile.id :: spawnedIds trace := rfl
  have fresh : projectile.id ∉ spawnedIds trace := by
    intro member
    obtain ⟨number, below, same⟩ := ledger.numbered projectile.id member
    have := numberedName_inj (id.symm.trans same)
    omega
  constructor
  · intro other member
    rw [ids] at member
    rcases List.mem_cons.mp member with rfl | old
    · exact ⟨s.projectileCounter + 1, Nat.le_refl _, id⟩
    · obtain ⟨number, below, same⟩ := ledger.numbered other old
      exact ⟨number, Nat.le_succ_of_le below, same⟩
  · rw [ids]
    exact List.nodup_cons.mpr ⟨fresh, ledger.distinct⟩
  · rw [ids, List.length_cons, ← ledger.spawned]
    rfl
  · intro other
    have before := ledger.balance other
    rw [ids, live, List.map_append, List.count_append, List.map_singleton, List.count_cons,
      List.count_singleton]
    show _ = (hitIds trace).count other + _ + (expiredIds trace).count other +
      (droppedIds trace).count other
    omega
  · intro other member
    rw [live] at member
    have there : s.players.contains other.ownerId = true := by
      rcases List.mem_append.mp member with old | new
      · exact ledger.owners other old
      · rw [List.mem_singleton.mp new, owner, UnorderedMap.contains, present]
        rfl
    exact (s.players.contains_adjust playerId other.ownerId _).trans there
  · exact ledger.foreign
  · exact ledger.spawnShots present owner active

/-- The session after a stored projectile hit. -/
def afterHit (s : GameSession R) (tick : Nat) (before after : List (Projectile R))
    (projectile : Projectile R) (key : String) (runtime : PlayerRuntimeState R) : GameSession R :=
  { (s.registerHit tick projectile key runtime).1 with
    projectiles := before ++ projectile.deactivate :: after }

omit [DoubleArith R] in
theorem live_afterHit (tick : Nat) {before after : List (Projectile R)} {projectile : Projectile R}
    (key : String) (runtime : PlayerRuntimeState R) (stored : s.projectiles = before ++ projectile :: after)
    (active : projectile.active = true) :
    s.live.Perm (projectile :: (afterHit s tick before after projectile key runtime).live) := by
  have inactive : projectile.deactivate.active = false := rfl
  rw [GameSession.live, GameSession.live, afterHit, stored, List.filter_append, List.filter_append,
    List.filter_cons, List.filter_cons, active, inactive]
  exact List.perm_middle

omit [DoubleArith R] in
/-- The combat events of a hit are about the projectile, its owner and the player hit. -/
theorem registerHit_about {tick : Nat} {projectile : Projectile R} {key : String}
    {runtime : PlayerRuntimeState R} :
    ∀ event ∈ (s.registerHit tick projectile key runtime).2,
      event.shooterId = projectile.ownerId ∧ event.targetId = runtime.state.playerId := by
  intro event member
  rw [registerHit_events] at member
  rcases List.mem_cons.mp member with rfl | announced
  · exact ⟨rfl, rfl⟩
  · split at announced
    · rw [List.mem_singleton.mp announced]
      exact ⟨rfl, rfl⟩
    · cases announced

omit [DoubleArith R] in
theorem hitEvents_registerHit (s : GameSession R) (tick : Nat) (projectile : Projectile R)
    (key : String) (runtime : PlayerRuntimeState R) (trace : List SessionItem) :
    hitEvents (((s.registerHit tick projectile key runtime).2.map .combat).reverse ++ trace) =
      hitEvents trace ++ [hitEvent tick projectile runtime] := by
  rw [hitEvents_append, combat?_map_combat, registerHit_events]
  cases announces runtime <;> rfl

omit [DoubleArith R] in
theorem hitsBy_registerHit (s : GameSession R) (tick : Nat) (projectile : Projectile R)
    (key : String) (runtime : PlayerRuntimeState R) (trace : List SessionItem) :
    hitsBy projectile.ownerId
        (((s.registerHit tick projectile key runtime).2.map .combat).reverse ++ trace) =
      hitsBy projectile.ownerId trace + 1 := by
  rw [hitsBy, List.countP_append, List.countP_reverse, registerHit_events, hitsBy]
  have death : ∀ event : CombatEvent, event.type = .death →
      (SessionItem.combat event).isHitBy projectile.ownerId = false := by
    intro event type
    simp [SessionItem.isHitBy, type]
  have hit : (SessionItem.combat (hitEvent tick projectile runtime)).isHitBy projectile.ownerId =
      true := by
    simp [SessionItem.isHitBy, hitEvent]
  have deathOfHit := death (deathEvent tick projectile runtime) rfl
  cases announces runtime <;> simp [hit, deathOfHit] <;> omega

omit [DoubleArith R] in
theorem SameShots.takeHit (runtime : PlayerRuntimeState R) (died : Bool) :
    SameShots runtime (if died then runtime.takeHit.announceDeath else runtime.takeHit) := by
  cases died <;> exact ⟨rfl, rfl, rfl, rfl⟩

section hit

variable {tick : Nat} {before after : List (Projectile R)} {projectile : Projectile R} {key : String}
  {runtime : PlayerRuntimeState R}

omit [DoubleArith R] in
theorem mem_hitItems {item : SessionItem}
    (member : item ∈ (s.registerHit tick projectile key runtime).2.map SessionItem.combat) :
    ∃ event, item = .combat event ∧ event.shooterId = projectile.ownerId := by
  obtain ⟨event, listed, rfl⟩ := List.mem_map.mp member
  exact ⟨event, rfl, (registerHit_about event listed).1⟩

omit [DoubleArith R] in
theorem hitItems_none (s : GameSession R) (tick : Nat) (projectile : Projectile R) (key : String)
    (runtime : PlayerRuntimeState R) (part : SessionItem → Option String)
    (none : ∀ event, part (.combat event) = none) :
    ((s.registerHit tick projectile key runtime).2.map SessionItem.combat).filterMap part = [] := by
  rw [List.filterMap_eq_nil_iff]
  intro item member
  obtain ⟨event, rfl, -⟩ := mem_hitItems member
  exact none event

omit [DoubleArith R] in
/-- A hit is about the shots of its shooter only. -/
theorem hitItems_neutral {playerId : String} (notShooter : playerId ≠ projectile.ownerId) :
    ShotNeutral playerId ((s.registerHit tick projectile key runtime).2.map .combat) := by
  intro item member
  obtain ⟨event, rfl, shooter⟩ := mem_hitItems member
  have foreign : (event.shooterId == playerId) = false :=
    beq_false_of_ne fun same => notShooter (same.symm.trans shooter)
  exact ⟨rfl, by simp only [SessionItem.isHitBy, foreign, Bool.and_false], rfl⟩

omit [DoubleArith R] in
/-- The shooter has hit once more, with a projectile it no longer has in flight. -/
theorem ShotAccount.credit (account : ShotAccount projectile.ownerId runtime trace s.live)
    {target : PlayerRuntimeState R} {inFlight : List (Projectile R)}
    (live : s.live.Perm (projectile :: inFlight)) :
    ShotAccount projectile.ownerId runtime.creditHit
      (((s.registerHit tick projectile key target).2.map .combat).reverse ++ trace) inFlight := by
  have stays : stay projectile.ownerId
      (((s.registerHit tick projectile key target).2.map .combat).reverse ++ trace) =
        ((s.registerHit tick projectile key target).2.map .combat).reverse ++
          stay projectile.ownerId trace := by
    refine since_append _ _ _ fun item member => ?_
    obtain ⟨event, rfl, -⟩ := mem_hitItems (List.mem_reverse.mp member)
    rfl
  have noShots : ((s.registerHit tick projectile key target).2.map
      SessionItem.combat).reverse.countP (SessionItem.isSpawnBy projectile.ownerId) = 0 := by
    rw [List.countP_eq_zero]
    intro item member
    obtain ⟨event, rfl, -⟩ := mem_hitItems (List.mem_reverse.mp member)
    exact Bool.false_ne_true
  have mine : ownedBy projectile.ownerId projectile = true := beq_self_eq_true _
  have counts := live.countP_eq (ownedBy projectile.ownerId)
  rw [List.countP_cons, if_pos mine] at counts
  constructor
  · rw [stays, spawnedBy, List.countP_append, noShots, Nat.zero_add]
    exact account.shots
  · rw [stays, hitsBy_registerHit, ← account.hits]
    rfl
  · exact account.shownShots
  · rfl
  · have bound := account.accuracy
    show runtime.hitsLanded + 1 + inFlight.countP (ownedBy projectile.ownerId) ≤ runtime.shotsFired
    omega

omit [DoubleArith R] in
/-- After a hit all players still have their shot accounts. -/
theorem ProjectileLedger.hitShots (ledger : ProjectileLedger trace s)
    (stored : s.projectiles = before ++ projectile :: after) (active : projectile.active = true)
    (present : s.players.find key = some runtime) (notOwner : projectile.ownerId ≠ key)
    (playerId : String) (runtime' : PlayerRuntimeState R)
    (found : (afterHit s tick before after projectile key runtime).players.find playerId =
      some runtime') :
    ShotAccount playerId runtime'
      (((s.registerHit tick projectile key runtime).2.map .combat).reverse ++ trace)
      (afterHit s tick before after projectile key runtime).live := by
  have live := live_afterHit tick key runtime stored active
  have fewer : (afterHit s tick before after projectile key runtime).live.countP (ownedBy playerId) ≤
      s.live.countP (ownedBy playerId) := by
    rw [live.countP_eq, List.countP_cons]
    exact Nat.le_add_right _ _
  have found := (registerHit_find s tick projectile key runtime notOwner playerId).symm.trans found
  by_cases target : playerId = key
  · subst target
    rw [if_pos rfl, present, Option.map_some] at found
    cases found
    exact (ledger.shots playerId runtime present).neutral (.takeHit runtime _)
      (hitItems_neutral (Ne.symm notOwner)) fewer
  · rw [if_neg target] at found
    by_cases shooter : playerId = projectile.ownerId
    · subst shooter
      rw [if_pos rfl] at found
      obtain ⟨earlier, old, rfl⟩ := Option.map_eq_some_iff.mp found
      exact (ledger.shots projectile.ownerId earlier old).credit live
    · rw [if_neg shooter] at found
      exact (ledger.shots playerId runtime' found).neutral (.refl runtime')
        (hitItems_neutral shooter) fewer

omit [DoubleArith R] in
/-- A projectile that hits is gone, and its owner is credited. -/
theorem ProjectileLedger.hit (ledger : ProjectileLedger trace s) (accounts : Accounts trace s)
    (stored : s.projectiles = before ++ projectile :: after) (active : projectile.active = true)
    (present : s.players.find key = some runtime)
    (other : runtime.state.playerId ≠ projectile.ownerId) :
    ProjectileLedger (((s.registerHit tick projectile key runtime).2.map .combat).reverse ++ trace)
      (afterHit s tick before after projectile key runtime) := by
  have named := (accounts key runtime present).named
  have notOwner : projectile.ownerId ≠ key := fun same => other (named.trans same.symm)
  have live := live_afterHit tick key runtime stored active
  have hits := hitEvents_registerHit s tick projectile key runtime trace
  obtain ⟨-, -, -, spawnedTotal, counter⟩ := registerHit_totals s tick projectile key runtime
  have ids := spawnedIds_append
    ((s.registerHit tick projectile key runtime).2.map SessionItem.combat) trace
  rw [hitItems_none _ _ _ _ _ SessionItem.spawnedId? fun _ => rfl, List.reverse_nil, List.nil_append] at ids
  constructor
  · intro id member
    rw [ids] at member
    rw [afterHit, counter]
    exact ledger.numbered id member
  · rw [ids]
    exact ledger.distinct
  · rw [ids, ← ledger.spawned]
    exact spawnedTotal
  · intro id
    have earlier := ledger.balance id
    rw [(live.map Projectile.id).count_eq id, List.map_cons, List.count_cons] at earlier
    have noExpiry := hitItems_none s tick projectile key runtime SessionItem.expiredId? fun _ => rfl
    have noDrop := hitItems_none s tick projectile key runtime SessionItem.droppedId? fun _ => rfl
    have hitId : (hitEvent tick projectile runtime).projectileId = projectile.id := rfl
    rw [ids, hitIds, hits, List.map_append, List.count_append, List.map_singleton,
      List.count_singleton, count_expiredIds, count_droppedIds, noExpiry, noDrop, earlier, hitId,
      hitIds]
    simp only [List.count_nil]
    omega
  · intro remaining member
    have there := ledger.owners remaining (live.mem_iff.mpr (List.mem_cons_of_mem _ member))
    rw [UnorderedMap.contains] at there ⊢
    rw [afterHit, registerHit_find s tick projectile key runtime notOwner]
    split_ifs <;> simpa using there
  · intro event member
    rw [hits] at member
    rcases List.mem_append.mp member with old | new
    · exact ledger.foreign event old
    · rw [List.mem_singleton.mp new]
      exact fun same => other same.symm
  · exact ledger.hitShots stored active present notOwner

end hit

theorem ProjectileLedger.move (ledger : ProjectileLedger trace s) (accounts : Accounts trace s)
    (move : Move s items s') : ProjectileLedger (items.reverse ++ trace) s' := by
  have silent : ∀ item ∈ ([] : List SessionItem), ¬ IsFate item := fun item member => nomatch member
  have same : ∀ playerId, s.live.countP (ownedBy playerId) ≤ s.live.countP (ownedBy playerId) :=
    fun _ => Nat.le_refl _
  cases move with
  | upsert named => exact ledger.upsert accounts named
  | remove removed settled => exact ledger.remove removed settled
  | receive playerId =>
      refine ledger.quiet (notFate_single rfl rfl rfl rfl) (Nat.le_refl _) rfl rfl (fun _ => id) ?_
      exact ledger.kept (fun _ => shotNeutral_single ⟨rfl, rfl, rfl⟩) (keptShots_of_same rfl) same
  | @steer playerId runtime runtime' present steered =>
      obtain ⟨x, y, facing, sequence, fire, rfl⟩ := steered
      refine ledger.quiet silent (Nat.le_refl _) rfl rfl ?_ ?_
      · exact fun other there => (s.players.contains_adjust _ other _).trans there
      · exact ledger.kept (fun _ => shotNeutral_nil _)
          (UnorderedMap.related_of_find_adjust SameShots.refl present ⟨rfl, rfl, rfl, rfl⟩) same
  | number =>
      refine ledger.quiet silent (Nat.le_succ _) rfl rfl (fun _ => id) ?_
      exact ledger.kept (fun _ => shotNeutral_nil _) (keptShots_of_same rfl) same
  | spawn present alive id owner active => exact ledger.spawn accounts present id owner active
  | moveProjectiles tick deltaSeconds settled => exact ledger.moveProjectiles tick deltaSeconds settled
  | hit tick stored active present alive other => exact ledger.hit accounts stored active present other
  | settle checked =>
      have live : s.live.filter (fun projectile => projectile.active) = s.live :=
        List.filter_eq_self.mpr fun projectile member => (mem_live.mp member).2
      refine ledger.quiet silent (Nat.le_refl _) rfl live (fun _ => id) ?_
      refine ledger.kept (fun _ => shotNeutral_nil _) (keptShots_of_same rfl) fun playerId => ?_
      rw [GameSession.live, live]
  | consume =>
      refine ledger.quiet (notFate_single rfl rfl rfl rfl) (Nat.le_refl _) rfl rfl (fun _ => id) ?_
      exact ledger.kept (fun _ => shotNeutral_single ⟨rfl, rfl, rfl⟩) (keptShots_of_same rfl) same
  | reorder order =>
      refine ledger.quiet silent (Nat.le_refl _) rfl rfl ?_ ?_
      · exact fun other there => (s.players.contains_reorder order other).trans there
      · refine ledger.kept (fun _ => shotNeutral_nil _) ?_ same
        intro playerId runtime' present
        rw [UnorderedMap.find_reorder] at present
        exact ⟨runtime', present, .refl runtime'⟩

theorem GameSession.MoveRuns.projectileLedger (run : MoveRuns trace s) :
    ProjectileLedger trace s := by
  refine Run.invariant (P := ProjectileLedger) ?_ ?_ run
  · rintro s rfl
    constructor
    · intro id member
      cases member
    · exact List.nodup_nil
    · rfl
    · intro id
      rfl
    · intro projectile member
      cases member
    · intro event member
      cases member
    · intro playerId runtime present
      cases present
  · intro trace s items s' run ledger move
    exact ledger.move (GameSession.MoveRuns.accounts run) move

/-- Nobody dies of a projectile of its own. -/
theorem GameSession.Runs.death_foreign (run : GameSession.Runs trace s) {death : CombatEvent}
    (member : death ∈ deathEvents trace) : death.shooterId ≠ death.targetId := by
  have moves := (Runs.byMoves run).1
  obtain ⟨combat, type⟩ := List.mem_filter.mp member
  obtain ⟨newer, older, split⟩ := List.append_of_mem (mem_combatEvents.mp combat)
  obtain ⟨hit, older', rfl, hitType, shooter, target, -⟩ :=
    (MoveRuns.combatLedger moves).announced death older ⟨newer, split.symm⟩ (eq_of_beq type)
  have listed : SessionItem.combat hit ∈ trace := by
    rw [split]
    simp
  rw [← shooter, ← target]
  exact (MoveRuns.projectileLedger moves).foreign hit
    (List.mem_filter.mpr ⟨mem_combatEvents.mpr listed, beq_iff_eq.mpr hitType⟩)

end ledger

end Arena60
