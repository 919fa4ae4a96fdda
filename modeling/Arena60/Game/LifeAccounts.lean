import Arena60.Game.SessionTrace

/-!
# Lives, hits and deaths

A player lives from one `UpsertPlayer` to the next; its entry is an account of the hits
it took in that life, and a death is announced with the fifth of them. The invariant is
shown for each move; a move that is not a hit of the player only has to leave the
entry's account alone.
-/

namespace Arena60

open Misc

universe u

/-- The entry of a player agrees with what the trace says happened to it. -/
structure LifeAccount {R : Type u} (playerId : String) (runtime : PlayerRuntimeState R)
    (trace : List SessionItem) : Prop where
  named : runtime.state.playerId = playerId
  bounded : hitsOn playerId (life playerId trace) ≤ 5
  maximum : runtime.health.max = 100
  health : runtime.health.current = 100 - 20 * (hitsOn playerId (life playerId trace) : Int)
  shownHealth : runtime.state.health = runtime.health.current
  alive : runtime.state.isAlive = decide (hitsOn playerId (life playerId trace) < 5)
  announced : runtime.deathAnnounced = decide (hitsOn playerId (life playerId trace) = 5)
  deathsInLife : deathsOf playerId (life playerId trace) =
    if hitsOn playerId (life playerId trace) = 5 then 1 else 0
  deaths : runtime.deaths = deathsOf playerId (stay playerId trace)
  shownDeaths : runtime.state.deaths = runtime.deaths

/-- Two entries that have the same account. -/
structure SameLife {R : Type u} (runtime runtime' : PlayerRuntimeState R) : Prop where
  playerId : runtime'.state.playerId = runtime.state.playerId
  health : runtime'.health = runtime.health
  shownHealth : runtime'.state.health = runtime.state.health
  alive : runtime'.state.isAlive = runtime.state.isAlive
  announced : runtime'.deathAnnounced = runtime.deathAnnounced
  deaths : runtime'.deaths = runtime.deaths
  shownDeaths : runtime'.state.deaths = runtime.state.deaths

/-- Items that do not touch the account of a player. -/
def Neutral (playerId : String) (items : List SessionItem) : Prop :=
  ∀ item ∈ items, item.isUpsertOf playerId = false ∧ item.isHitOn playerId = false ∧
    item.isDeathOf playerId = false

section account

variable {R : Type u} {playerId : String} {items trace : List SessionItem}

theorem isInsertOf_of_isUpsertOf {item : SessionItem} (other : item.isUpsertOf playerId = false) :
    item.isInsertOf playerId = false := by
  cases item <;> simp_all [SessionItem.isUpsertOf, SessionItem.isInsertOf]

theorem Neutral.life_eq (neutral : Neutral playerId items) :
    life playerId (items.reverse ++ trace) = items.reverse ++ life playerId trace :=
  since_append _ _ _ fun item member => (neutral item (List.mem_reverse.mp member)).1

theorem Neutral.stay_eq (neutral : Neutral playerId items) :
    stay playerId (items.reverse ++ trace) = items.reverse ++ stay playerId trace :=
  since_append _ _ _ fun item member =>
    isInsertOf_of_isUpsertOf (neutral item (List.mem_reverse.mp member)).1

theorem Neutral.hitsOn_eq (neutral : Neutral playerId items) :
    hitsOn playerId (items.reverse ++ trace) = hitsOn playerId trace := by
  have none : items.reverse.countP (SessionItem.isHitOn playerId) = 0 := by
    rw [List.countP_eq_zero]
    intro item member
    rw [(neutral item (List.mem_reverse.mp member)).2.1]
    exact Bool.false_ne_true
  rw [hitsOn, List.countP_append, none, Nat.zero_add, hitsOn]

theorem Neutral.deathsOf_eq (neutral : Neutral playerId items) :
    deathsOf playerId (items.reverse ++ trace) = deathsOf playerId trace := by
  have none : items.reverse.countP (SessionItem.isDeathOf playerId) = 0 := by
    rw [List.countP_eq_zero]
    intro item member
    rw [(neutral item (List.mem_reverse.mp member)).2.2]
    exact Bool.false_ne_true
  rw [deathsOf, List.countP_append, none, Nat.zero_add, deathsOf]

/-- An account survives items that do not touch it. -/
theorem LifeAccount.neutral {runtime runtime' : PlayerRuntimeState R}
    (account : LifeAccount playerId runtime trace) (same : SameLife runtime runtime')
    (neutral : Neutral playerId items) : LifeAccount playerId runtime' (items.reverse ++ trace) := by
  have hits : hitsOn playerId (life playerId (items.reverse ++ trace)) =
      hitsOn playerId (life playerId trace) := by
    rw [neutral.life_eq, neutral.hitsOn_eq]
  constructor
  · rw [same.playerId]
    exact account.named
  · rw [hits]
    exact account.bounded
  · rw [same.health]
    exact account.maximum
  · rw [hits, same.health]
    exact account.health
  · rw [same.shownHealth, same.health]
    exact account.shownHealth
  · rw [hits, same.alive]
    exact account.alive
  · rw [hits, same.announced]
    exact account.announced
  · rw [hits, neutral.life_eq, neutral.deathsOf_eq]
    exact account.deathsInLife
  · rw [neutral.stay_eq, neutral.deathsOf_eq, same.deaths]
    exact account.deaths
  · rw [same.shownDeaths, same.deaths]
    exact account.shownDeaths

theorem SameLife.refl (runtime : PlayerRuntimeState R) : SameLife runtime runtime :=
  ⟨rfl, rfl, rfl, rfl, rfl, rfl, rfl⟩

theorem neutral_nil : Neutral playerId [] := fun _ member => nomatch member

/-! ## Entering and being hit -/

variable [Misc.DoubleArith R]

theorem hitsOn_upserted (playerId : String) (trace : List SessionItem) (fresh : Bool) :
    hitsOn playerId (life playerId (.upserted playerId fresh :: trace)) = 0 := by
  simp [life, since_cons, SessionItem.isUpsertOf, hitsOn]

theorem enter_of_named (playerId : String) {runtime : PlayerRuntimeState R} (named : runtime.state.playerId ≠ "") :
    runtime.enter playerId =
      { runtime with
        health := runtime.health.reset
        state :=
          { runtime.state with
            health := runtime.health.reset.current, isAlive := runtime.health.reset.isAlive }
        deathAnnounced := false
        lastFireTime := Misc.DoubleArith.lowest } := by
  have nonempty : (runtime.state.playerId == "") = false := beq_false_of_ne named
  simp only [PlayerRuntimeState.enter, nonempty]
  rfl

/-- An upsert begins a life; a player that was present keeps its death counter. -/
theorem LifeAccount.enter {runtime : PlayerRuntimeState R} (account : LifeAccount playerId runtime trace)
    (named : playerId ≠ "") :
    LifeAccount playerId (runtime.enter playerId) (.upserted playerId false :: trace) := by
  have entered := enter_of_named playerId (by rw [account.named]; exact named)
  have stays : stay playerId (.upserted playerId false :: trace) =
      .upserted playerId false :: stay playerId trace := by
    simp [stay, since_cons, SessionItem.isInsertOf]
  have deaths : deathsOf playerId (.upserted playerId false :: stay playerId trace) =
      deathsOf playerId (stay playerId trace) := by
    simp [deathsOf, SessionItem.isDeathOf]
  have noHits := hitsOn_upserted playerId trace false
  rw [entered]
  constructor
  · exact account.named
  · rw [noHits]
    exact Nat.zero_le 5
  · exact account.maximum
  · rw [noHits]
    simp [HealthComponent.reset, account.maximum]
  · rfl
  · rw [noHits]
    simp [HealthComponent.reset, HealthComponent.isAlive, account.maximum]
  · rw [noHits]
    rfl
  · rw [noHits]
    simp [life, since_cons, SessionItem.isUpsertOf, deathsOf]
  · rw [stays, deaths]
    exact account.deaths
  · exact account.shownDeaths

/-- A player that was absent begins with a clean account. -/
theorem lifeAccount_insert :
    LifeAccount playerId ((PlayerRuntimeState.default : PlayerRuntimeState R).enter playerId)
      (.upserted playerId true :: trace) := by
  have noHits := hitsOn_upserted playerId trace true
  constructor
  · simp [PlayerRuntimeState.enter, PlayerRuntimeState.default]
  · rw [noHits]
    exact Nat.zero_le 5
  · simp [PlayerRuntimeState.enter, PlayerRuntimeState.default, HealthComponent.reset,
      HealthComponent.new]
  · rw [noHits]
    simp [PlayerRuntimeState.enter, PlayerRuntimeState.default, HealthComponent.reset,
      HealthComponent.new]
  · simp [PlayerRuntimeState.enter]
  · rw [noHits]
    simp [PlayerRuntimeState.enter, PlayerRuntimeState.default, HealthComponent.reset,
      HealthComponent.new, HealthComponent.isAlive]
  · rw [noHits]
    simp [PlayerRuntimeState.enter]
  · rw [noHits]
    simp [life, since_cons, SessionItem.isUpsertOf, deathsOf]
  · simp [stay, since_cons, SessionItem.isInsertOf, deathsOf,
      PlayerRuntimeState.enter, PlayerRuntimeState.default]
  · simp [PlayerRuntimeState.enter, PlayerRuntimeState.default]

omit [Misc.DoubleArith R] in
theorem LifeAccount.hits_lt {runtime : PlayerRuntimeState R}
    (account : LifeAccount playerId runtime trace) (alive : runtime.state.isAlive = true) :
    hitsOn playerId (life playerId trace) < 5 := by
  rw [account.alive] at alive
  exact of_decide_eq_true alive

omit [Misc.DoubleArith R] in
/-- The damage of a hit on a living player: it dies of the fifth. -/
theorem LifeAccount.applyDamage {runtime : PlayerRuntimeState R}
    (account : LifeAccount playerId runtime trace) (alive : runtime.state.isAlive = true) :
    runtime.health.applyDamage kDamagePerHit =
      (decide (hitsOn playerId (life playerId trace) + 1 = 5),
        { runtime.health with current :=
            100 - 20 * ((hitsOn playerId (life playerId trace) + 1 : Nat) : Int) }) := by
  have fewer := account.hits_lt alive
  have health := account.health
  generalize hitsOn playerId (life playerId trace) = hits at fewer health ⊢
  have living : runtime.health.isAlive = true := by
    simp only [HealthComponent.isAlive, health, decide_eq_true_eq]
    omega
  have remaining : max 0 (runtime.health.current - 20) = 100 - 20 * ((hits + 1 : Nat) : Int) := by
    rw [health]
    omega
  have dies : (100 - 20 * ((hits + 1 : Nat) : Int) == 0) = decide (hits + 1 = 5) := by
    rw [Bool.eq_iff_iff, beq_iff_eq, decide_eq_true_eq]
    omega
  simp only [HealthComponent.applyDamage, kDamagePerHit, living, remaining, dies]
  rfl

omit [Misc.DoubleArith R] in
theorem takeHit_eq {runtime : PlayerRuntimeState R}
    (account : LifeAccount playerId runtime trace) (alive : runtime.state.isAlive = true) :
    runtime.takeHit.health.max = 100 ∧
      runtime.takeHit.health.current =
        100 - 20 * ((hitsOn playerId (life playerId trace) + 1 : Nat) : Int) ∧
      runtime.takeHit.state.isAlive =
        decide (hitsOn playerId (life playerId trace) + 1 < 5) := by
  simp only [PlayerRuntimeState.takeHit, account.applyDamage alive, HealthComponent.isAlive]
  refine ⟨account.maximum, trivial, ?_⟩
  rw [Bool.eq_iff_iff, decide_eq_true_eq, decide_eq_true_eq]
  omega

section hit

variable {event : CombatEvent}

theorem hitsOn_hit (hit : event.type = .hit) (target : event.targetId = playerId)
    (trace : List SessionItem) :
    hitsOn playerId (life playerId (.combat event :: trace)) =
      hitsOn playerId (life playerId trace) + 1 := by
  simp [life, since_cons, SessionItem.isUpsertOf, hitsOn, SessionItem.isHitOn, hit,
    target]

theorem deathsOf_hit (playerId : String) (hit : event.type = .hit) (mark : SessionItem → Bool)
    (unmarked : mark (.combat event) = false) (trace : List SessionItem) :
    deathsOf playerId (since mark (.combat event :: trace)) =
      deathsOf playerId (since mark trace) := by
  simp [since_cons, unmarked, deathsOf, SessionItem.isDeathOf, hit]

theorem hitsOn_death (death : event.type = .death) (trace : List SessionItem) :
    hitsOn playerId (life playerId (.combat event :: trace)) =
      hitsOn playerId (life playerId trace) := by
  simp [life, since_cons, SessionItem.isUpsertOf, hitsOn, SessionItem.isHitOn, death]

theorem deathsOf_death (death : event.type = .death) (target : event.targetId = playerId)
    (mark : SessionItem → Bool) (unmarked : mark (.combat event) = false)
    (trace : List SessionItem) :
    deathsOf playerId (since mark (.combat event :: trace)) =
      deathsOf playerId (since mark trace) + 1 := by
  simp [since_cons, unmarked, deathsOf, SessionItem.isDeathOf, death, target]

end hit

omit [Misc.DoubleArith R] in
/-- A hit that is not the fifth. -/
theorem LifeAccount.hurt {runtime : PlayerRuntimeState R}
    (account : LifeAccount playerId runtime trace) (alive : runtime.state.isAlive = true)
    {event : CombatEvent} (hit : event.type = .hit) (target : event.targetId = playerId)
    (survives : hitsOn playerId (life playerId trace) + 1 ≠ 5) :
    LifeAccount playerId runtime.takeHit (.combat event :: trace) := by
  have fewer := account.hits_lt alive
  have hits := hitsOn_hit hit target trace
  obtain ⟨maximum, current, stillAlive⟩ := takeHit_eq account alive
  have inLife := deathsOf_hit playerId hit (SessionItem.isUpsertOf playerId) rfl trace
  have inStay := deathsOf_hit playerId hit (SessionItem.isInsertOf playerId) rfl trace
  have none := account.deathsInLife
  rw [if_neg (by omega)] at none
  constructor
  · exact account.named
  · rw [hits]
    omega
  · exact maximum
  · rw [hits]
    exact current
  · rfl
  · rw [hits]
    exact stillAlive
  · rw [hits, decide_eq_false survives]
    exact account.announced.trans (decide_eq_false (by omega))
  · rw [hits, if_neg survives]
    exact inLife.trans none
  · exact account.deaths.trans inStay.symm
  · exact account.shownDeaths

omit [Misc.DoubleArith R] in
/-- The fifth hit, with the death that follows it. -/
theorem LifeAccount.killed {runtime : PlayerRuntimeState R}
    (account : LifeAccount playerId runtime trace) (alive : runtime.state.isAlive = true)
    {event announcement : CombatEvent} (hit : event.type = .hit) (target : event.targetId = playerId)
    (death : announcement.type = .death) (target' : announcement.targetId = playerId)
    (fifth : hitsOn playerId (life playerId trace) + 1 = 5) :
    LifeAccount playerId runtime.takeHit.announceDeath
      (.combat announcement :: .combat event :: trace) := by
  have hits : hitsOn playerId
      (life playerId (.combat announcement :: .combat event :: trace)) = 5 := by
    rw [hitsOn_death death, hitsOn_hit hit target, fifth]
  obtain ⟨maximum, current, stillAlive⟩ := takeHit_eq account alive
  have none := account.deathsInLife
  rw [if_neg (by omega)] at none
  have inLife : deathsOf playerId
      (life playerId (.combat announcement :: .combat event :: trace)) = 1 := by
    rw [life, deathsOf_death death target' _ rfl, deathsOf_hit playerId hit _ rfl]
    exact congrArg (· + 1) none
  have inStay : deathsOf playerId
      (stay playerId (.combat announcement :: .combat event :: trace)) =
        deathsOf playerId (stay playerId trace) + 1 := by
    rw [stay, deathsOf_death death target' _ rfl, deathsOf_hit playerId hit _ rfl, stay]
  rw [fifth] at current stillAlive
  constructor
  · exact account.named
  · rw [hits]
  · exact maximum
  · rw [hits]
    exact current
  · rfl
  · rw [hits]
    exact stillAlive
  · rw [hits]
    rfl
  · rw [hits, if_pos rfl]
    exact inLife
  · rw [inStay, ← account.deaths]
    rfl
  · rfl

end account

namespace GameSession

variable {R : Type u} [Misc.DoubleArith R] {trace : List SessionItem}

/-! ## All players of a session -/

/-- Every present player's entry is an account of its life. -/
def Accounts (trace : List SessionItem) (s : GameSession R) : Prop :=
  ∀ playerId runtime, s.players.find playerId = some runtime → LifeAccount playerId runtime trace

omit [Misc.DoubleArith R] in
/-- Accounts survive a step that adds items neutral to all players and gives every entry
the life of an earlier one. -/
theorem Accounts.neutral {s s' : GameSession R} {items : List SessionItem}
    (accounts : Accounts trace s) (neutral : ∀ playerId, Neutral playerId items)
    (kept : ∀ playerId runtime', s'.players.find playerId = some runtime' →
      ∃ runtime, s.players.find playerId = some runtime ∧ SameLife runtime runtime') :
    Accounts (items.reverse ++ trace) s' := by
  intro playerId runtime' present
  obtain ⟨runtime, before, same⟩ := kept playerId runtime' present
  exact (accounts playerId runtime before).neutral same (neutral playerId)

omit [Misc.DoubleArith R] in
theorem kept_of_same {s s' : GameSession R} (same : s'.players = s.players) :
    ∀ playerId runtime', s'.players.find playerId = some runtime' →
      ∃ runtime, s.players.find playerId = some runtime ∧ SameLife runtime runtime' := by
  intro playerId runtime' present
  rw [same] at present
  exact ⟨runtime', present, .refl runtime'⟩

omit [Misc.DoubleArith R] in
theorem droppedItems_neutral (s : GameSession R) (removed playerId : String) :
    Neutral playerId (.removed removed :: s.droppedItems removed) := by
  intro item member
  rcases List.mem_cons.mp member with rfl | dropped
  · exact ⟨rfl, rfl, rfl⟩
  · obtain ⟨projectile, -, rfl⟩ := List.mem_map.mp dropped
    exact ⟨rfl, rfl, rfl⟩

omit [Misc.DoubleArith R] in
theorem expiredItems_neutral (s : GameSession R) (tick : Nat) (playerId : String) :
    Neutral playerId (.ticked tick :: s.expiredItems) := by
  intro item member
  rcases List.mem_cons.mp member with rfl | expired
  · exact ⟨rfl, rfl, rfl⟩
  · obtain ⟨projectile, -, rfl⟩ := List.mem_map.mp expired
    exact ⟨rfl, rfl, rfl⟩

theorem neutral_single {item : SessionItem} {playerId : String}
    (neutral : item.isUpsertOf playerId = false ∧ item.isHitOn playerId = false ∧
      item.isDeathOf playerId = false) : Neutral playerId [item] := by
  intro other member
  rw [List.mem_singleton.mp member]
  exact neutral

theorem Accounts.upsert {s : GameSession R} (accounts : Accounts trace s) {entered : String}
    (named : entered ≠ "") :
    Accounts (.upserted entered (!s.players.contains entered) :: trace) (s.upsertPlayer entered) := by
  intro playerId runtime' present
  simp only [upsertPlayer, UnorderedMap.find_upsert] at present
  by_cases asked : playerId = entered
  · subst asked
    rw [if_pos rfl] at present
    cases found : s.players.find playerId with
    | none =>
        rw [found] at present
        cases present
        simp only [UnorderedMap.contains, found, Option.isSome_none, Bool.not_false]
        exact lifeAccount_insert
    | some runtime =>
        rw [found] at present
        cases present
        simp only [UnorderedMap.contains, found, Option.isSome_some, Bool.not_true]
        exact (accounts playerId runtime found).enter named
  · rw [if_neg asked] at present
    have other : (entered == playerId) = false := beq_false_of_ne (Ne.symm asked)
    have neutral : Neutral playerId [.upserted entered (!s.players.contains entered)] :=
      neutral_single ⟨other, rfl, rfl⟩
    exact (accounts playerId runtime' present).neutral (.refl runtime') neutral

omit [Misc.DoubleArith R] in
theorem Accounts.hit {s : GameSession R} (accounts : Accounts trace s) (tick : Nat)
    {projectile : Projectile R} {key : String} {runtime : PlayerRuntimeState R}
    (present : s.players.find key = some runtime) (alive : runtime.state.isAlive = true)
    (other : runtime.state.playerId ≠ projectile.ownerId) :
    Accounts (((s.registerHit tick projectile key runtime).2.map .combat).reverse ++ trace)
      (s.registerHit tick projectile key runtime).1 := by
  have account := accounts key runtime present
  have notOwner : projectile.ownerId ≠ key := fun same => other (account.named.trans same.symm)
  have alreadyAnnounced : runtime.deathAnnounced = false := by
    have fewer := account.hits_lt alive
    rw [account.announced]
    exact decide_eq_false (by omega)
  have died : announces runtime = decide (hitsOn key (life key trace) + 1 = 5) := by
    rw [announces, account.applyDamage alive, alreadyAnnounced, Bool.not_false, Bool.and_true]
  intro playerId runtime' found
  rw [registerHit_find s tick projectile key runtime notOwner] at found
  rw [registerHit_events]
  by_cases target : playerId = key
  · subst target
    rw [if_pos rfl, present, Option.map_some, died] at found
    rw [died]
    cases found
    by_cases fifth : hitsOn playerId (life playerId trace) + 1 = 5
    · simp only [fifth, decide_true, if_true]
      exact account.killed alive rfl account.named rfl account.named fifth
    · simp only [fifth, decide_false, Bool.false_eq_true, if_false]
      exact account.hurt alive rfl account.named fifth
  · rw [if_neg target] at found
    have foreign : (runtime.state.playerId == playerId) = false := by
      rw [account.named]
      exact beq_false_of_ne (Ne.symm target)
    have neutral : Neutral playerId ((hitEvent tick projectile runtime ::
        if announces runtime = true then [deathEvent tick projectile runtime] else []).map .combat) := by
      intro item member
      obtain ⟨event, listed, rfl⟩ := List.mem_map.mp member
      have about : event.targetId = runtime.state.playerId := by
        rcases List.mem_cons.mp listed with rfl | announced
        · rfl
        · split at announced
          · rw [List.mem_singleton.mp announced]
            rfl
          · cases announced
      simp [SessionItem.isUpsertOf, SessionItem.isHitOn, SessionItem.isDeathOf, about, foreign]
    by_cases shooter : playerId = projectile.ownerId
    · rw [if_pos shooter] at found
      obtain ⟨before, old, rfl⟩ := Option.map_eq_some_iff.mp found
      exact (accounts playerId before old).neutral ⟨rfl, rfl, rfl, rfl, rfl, rfl, rfl⟩ neutral
    · rw [if_neg shooter] at found
      exact (accounts playerId runtime' found).neutral (.refl runtime') neutral

theorem Accounts.move {s s' : GameSession R} {items : List SessionItem} (accounts : Accounts trace s)
    (move : Move s items s') : Accounts (items.reverse ++ trace) s' := by
  cases move with
  | upsert named => exact accounts.upsert named
  | remove removed settled =>
      refine accounts.neutral (s.droppedItems_neutral removed) ?_
      intro playerId runtime' present
      simp only [removePlayer, UnorderedMap.find_erase] at present
      split at present
      · cases present
      · exact ⟨runtime', present, .refl runtime'⟩
  | receive playerId =>
      exact accounts.neutral (fun _ => neutral_single ⟨rfl, rfl, rfl⟩) (kept_of_same rfl)
  | steer present steered =>
      obtain ⟨x, y, facing, sequence, fire, rfl⟩ := steered
      exact accounts.neutral (fun _ => neutral_nil)
        (UnorderedMap.related_of_find_adjust SameLife.refl present ⟨rfl, rfl, rfl, rfl, rfl, rfl, rfl⟩)
  | number => exact accounts.neutral (fun _ => neutral_nil) (kept_of_same rfl)
  | spawn present alive id owner active =>
      exact accounts.neutral (fun _ => neutral_single ⟨rfl, rfl, rfl⟩)
        (UnorderedMap.related_of_find_adjust SameLife.refl present ⟨rfl, rfl, rfl, rfl, rfl, rfl, rfl⟩)
  | moveProjectiles tick deltaSeconds settled =>
      exact accounts.neutral (expiredItems_neutral _ tick) (kept_of_same rfl)
  | hit tick stored active present alive other => exact accounts.hit tick present alive other
  | settle checked => exact accounts.neutral (fun _ => neutral_nil) (kept_of_same rfl)
  | consume => exact accounts.neutral (fun _ => neutral_single ⟨rfl, rfl, rfl⟩) (kept_of_same rfl)
  | reorder order =>
      refine accounts.neutral (fun _ => neutral_nil) ?_
      intro playerId runtime' present
      rw [UnorderedMap.find_reorder] at present
      exact ⟨runtime', present, .refl runtime'⟩

theorem MoveRuns.accounts {s : GameSession R} (run : MoveRuns trace s) : Accounts trace s := by
  refine Run.invariant (P := Accounts) ?_ ?_ run
  · rintro s rfl
    intro playerId runtime present
    cases present
  · intro trace s items s' _ accounts move
    exact accounts.move move

/-- The players are stored under their own ids. -/
def Filed {R : Type u} (s : GameSession R) : Prop :=
  ∀ playerId runtime, s.players.find playerId = some runtime → runtime.state.playerId = playerId

theorem Runs.filed {s : GameSession R} (run : Runs trace s) : s.Filed :=
  fun playerId runtime found => (MoveRuns.accounts (Runs.byMoves run).1 playerId runtime found).named

end GameSession

end Arena60
