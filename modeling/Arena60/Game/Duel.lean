import Arena60.Game.Presence

/-!
# Duels

Two players that enter once and stay, and nobody else: all that the counters of the
session say about them they say about the whole run, every hit on one of them is a hit by
the other, and the combat log has room for everything that can happen.
-/

namespace Arena60

open Misc GameSession SessionItem

universe u

/-- The id of an `UpsertPlayer`. -/
def SessionItem.enteredId? : SessionItem → Option String
  | upserted playerId _ => some playerId
  | _ => none

/-- The number of a tick. -/
def SessionItem.tick? : SessionItem → Option Nat
  | ticked tick => some tick
  | _ => none

/-- The ids of the `UpsertPlayer` operations of a trace. -/
def enteredIds (trace : List SessionItem) : List String := trace.filterMap SessionItem.enteredId?

/-- The numbers of the ticks of a trace, newest first. -/
def ticks (trace : List SessionItem) : List Nat := trace.filterMap SessionItem.tick?

/-- A run of two players that enter once each and are never removed, with increasing tick
numbers. -/
structure Duel (a b : String) (trace : List SessionItem) : Prop where
  different : a ≠ b
  entered : (enteredIds trace).Perm [a, b]
  stayed : .removed a ∉ trace ∧ .removed b ∉ trace
  ticking : (ticks trace).Pairwise (· > ·)

instance (a b : String) (trace : List SessionItem) : Decidable (Duel a b trace) :=
  decidable_of_iff (a ≠ b ∧ (enteredIds trace).Perm [a, b] ∧
      (.removed a ∉ trace ∧ .removed b ∉ trace) ∧ (ticks trace).Pairwise (· > ·))
    ⟨fun ⟨different, entered, stayed, ticking⟩ => ⟨different, entered, stayed, ticking⟩,
      fun duel => ⟨duel.different, duel.entered, duel.stayed, duel.ticking⟩⟩

/-! ## What the events of a tick carry -/

section stamps

variable {R : Type u}

theorem registerHit_stamped {s : GameSession R} {tick : Nat} {projectile : Projectile R}
    {key : String} {runtime : PlayerRuntimeState R} :
    ∀ event ∈ (s.registerHit tick projectile key runtime).2,
      event.tick = tick ∧ (event.type = .hit → event.damage = kDamagePerHit) := by
  intro event member
  rw [registerHit_events] at member
  rcases List.mem_cons.mp member with rfl | announced
  · exact ⟨rfl, fun _ => rfl⟩
  · split at announced
    · rw [List.mem_singleton.mp announced]
      exact ⟨rfl, fun hit => nomatch hit⟩
    · cases announced

variable [DoubleArith R]

theorem collide_stamped {s : GameSession R} {tick : Nat} {projectile : Projectile R} :
    ∀ event ∈ (s.collide tick projectile).2.2.2,
      event.tick = tick ∧ (event.type = .hit → event.damage = kDamagePerHit) := by
  intro event member
  unfold collide at member
  split at member
  · cases member
  · dsimp only at member
    split at member
    · cases member
    · exact registerHit_stamped event member

theorem sweep_stamped {tick : Nat} :
    ∀ {projectiles : List (Projectile R)} {s : GameSession R},
      ∀ event ∈ (sweep tick projectiles s).2.2.2,
        event.tick = tick ∧ (event.type = .hit → event.damage = kDamagePerHit)
  | [], _ => fun event member => nomatch member
  | projectile :: rest, s => by
      intro event member
      rcases List.mem_append.mp member with first | later
      · exact collide_stamped event first
      · exact sweep_stamped event later

/-- The combat events of an operation are those of its tick. -/
theorem perform_combat {op : SessionOp R} {s s' : GameSession R} {items : List SessionItem}
    (performed : GameSession.perform op s = some (items, s')) {event : CombatEvent}
    (listed : .combat event ∈ items) :
    ∃ tick deltaSeconds, op = .tick tick deltaSeconds ∧ event ∈ (s.tick tick deltaSeconds).2 := by
  have quiet : (∀ tick deltaSeconds, op ≠ .tick tick deltaSeconds) →
      op ≠ .consumeDeathEvents → False := fun noTick noDelivery =>
    nomatch (perform_quiet noTick noDelivery performed _ listed).1
  cases op with
  | tick tick deltaSeconds =>
      cases performed
      refine ⟨tick, deltaSeconds, rfl, ?_⟩
      rcases List.mem_cons.mp listed with first | rest
      · cases first
      · rcases List.mem_append.mp rest with expired | new
        · obtain ⟨projectile, -, same⟩ := List.mem_map.mp expired
          cases same
        · obtain ⟨event', member, same⟩ := List.mem_map.mp new
          cases same
          exact member
  | consumeDeathEvents =>
      cases performed
      cases List.mem_singleton.mp listed
  | upsertPlayer playerId => exact (quiet (fun _ _ same => nomatch same) (fun same => nomatch same)).elim
  | removePlayer playerId => exact (quiet (fun _ _ same => nomatch same) (fun same => nomatch same)).elim
  | applyInput playerId input delta =>
      exact (quiet (fun _ _ same => nomatch same) (fun same => nomatch same)).elim
  | reorder order => exact (quiet (fun _ _ same => nomatch same) (fun same => nomatch same)).elim

/-- A tick adds its number. -/
theorem ticks_perform {tick : Nat} {deltaSeconds : R} {items : List SessionItem}
    {s' : GameSession R}
    (ticked : GameSession.perform (.tick tick deltaSeconds) s = some (items, s')) :
    ticks (items.reverse ++ trace) = tick :: ticks trace := by
  have quiet : ∀ (moved : GameSession R) (events : List CombatEvent),
      (moved.expiredItems ++ events.map SessionItem.combat).filterMap SessionItem.tick? = [] := by
    intro moved events
    rw [List.filterMap_eq_nil_iff]
    intro item member
    rcases List.mem_append.mp member with expired | new
    · obtain ⟨projectile, -, rfl⟩ := List.mem_map.mp expired
      rfl
    · obtain ⟨event, -, rfl⟩ := List.mem_map.mp new
      rfl
  cases ticked
  rw [ticks, List.filterMap_append, List.filterMap_reverse, List.filterMap_cons, quiet]
  rfl

/-- Every combat event carries the number of a tick, and every hit the same damage. -/
theorem GameSession.Runs.stamped {trace : List SessionItem} {s : GameSession R}
    (run : GameSession.Runs trace s) : ∀ event ∈ combatEvents trace,
      event.tick ∈ ticks trace ∧ (event.type = .hit → event.damage = kDamagePerHit) := by
  refine Run.invariant (P := fun trace _ => ∀ event ∈ combatEvents trace,
    event.tick ∈ ticks trace ∧ (event.type = .hit → event.damage = kDamagePerHit)) ?_ ?_ run
  · intro s _ event member
    cases member
  · rintro trace s items s' - stamped ⟨op, performed⟩ event member
    rw [mem_combatEvents, List.mem_append, List.mem_reverse] at member
    rw [ticks, List.filterMap_append]
    rcases member with new | old
    · obtain ⟨tick, deltaSeconds, rfl, made⟩ := perform_combat performed new
      obtain ⟨sameTick, damage⟩ := sweep_stamped event made
      cases performed
      refine ⟨List.mem_append_left _ (List.mem_filterMap.mpr ⟨.ticked tick, ?_, ?_⟩), damage⟩
      · exact List.mem_reverse.mpr List.mem_cons_self
      · rw [sameTick]
        rfl
    · obtain ⟨ticked, damage⟩ := stamped event (mem_combatEvents.mpr old)
      exact ⟨List.mem_append_right _ ticked, damage⟩

end stamps

/-! ## Whom an item is about -/

namespace SessionItem

variable {playerId : String}

theorem enteredId?_of_isUpsertOf (item : SessionItem) (marked : item.isUpsertOf playerId = true) :
    item.enteredId? = some playerId := by
  cases item with
  | upserted id fresh => exact congrArg some (eq_of_beq marked)
  | _ => cases marked

theorem enteredId?_of_isInsertOf (item : SessionItem) (marked : item.isInsertOf playerId = true) :
    item.enteredId? = some playerId := by
  cases item with
  | upserted id fresh => exact congrArg some (eq_of_beq (Bool.and_eq_true_iff.mp marked).1)
  | _ => cases marked

theorem mem_players_of_isHitOn (item : SessionItem) (counted : item.isHitOn playerId = true) :
    playerId ∈ item.players := by
  cases item with
  | combat event =>
      rw [← eq_of_beq (Bool.and_eq_true_iff.mp counted).2]
      exact List.mem_cons_of_mem _ List.mem_cons_self
  | _ => cases counted

theorem mem_players_of_isDeathOf (item : SessionItem) (counted : item.isDeathOf playerId = true) :
    playerId ∈ item.players := by
  cases item with
  | combat event =>
      rw [← eq_of_beq (Bool.and_eq_true_iff.mp counted).2]
      exact List.mem_cons_of_mem _ List.mem_cons_self
  | _ => cases counted

theorem mem_players_of_isHitBy (item : SessionItem) (counted : item.isHitBy playerId = true) :
    playerId ∈ item.players := by
  cases item with
  | combat event =>
      rw [← eq_of_beq (Bool.and_eq_true_iff.mp counted).2]
      exact List.mem_cons_self
  | _ => cases counted

theorem mem_players_of_isSpawnBy (item : SessionItem) (counted : item.isSpawnBy playerId = true) :
    playerId ∈ item.players := by
  cases item with
  | spawned id ownerId =>
      rw [← eq_of_beq counted]
      exact List.mem_cons_self
  | _ => cases counted

end SessionItem

/-! ## Counting since a player entered -/

section presence

variable {R : Type u} {trace : List SessionItem} {s : GameSession R} {playerId : String}

theorem entered_of_isPresent (present : isPresent playerId trace = true) :
    playerId ∈ enteredIds trace := by
  cases found : trace.findSome? (SessionItem.presence? playerId) with
  | none =>
      rw [isPresent, found] at present
      cases present
  | some flag =>
      rw [isPresent, found, Option.getD_some] at present
      subst present
      obtain ⟨item, member, said⟩ := List.exists_of_findSome?_eq_some found
      cases item with
      | upserted other fresh =>
          rw [SessionItem.presence?] at said
          split at said
          · next same => exact List.mem_filterMap.mpr ⟨_, member, congrArg some same⟩
          · cases said
      | removed other =>
          rw [SessionItem.presence?] at said
          split at said
          · cases said
          · cases said
      | _ => cases said

theorem isPresent_of_entered (entered : playerId ∈ enteredIds trace)
    (stayed : .removed playerId ∉ trace) : isPresent playerId trace = true := by
  obtain ⟨item, member, same⟩ := List.mem_filterMap.mp entered
  have mentioned : ∃ flag, trace.findSome? (SessionItem.presence? playerId) = some flag := by
    rw [← Option.isSome_iff_exists, List.findSome?_isSome_iff]
    refine ⟨item, member, ?_⟩
    cases item with
    | upserted other fresh =>
        cases same
        rw [SessionItem.presence?, if_pos rfl]
        rfl
    | _ => cases same
  obtain ⟨flag, found⟩ := mentioned
  rw [isPresent, found, Option.getD_some]
  obtain ⟨said, listed, flagged⟩ := List.exists_of_findSome?_eq_some found
  cases said with
  | upserted other fresh =>
      rw [SessionItem.presence?] at flagged
      split at flagged
      · exact (Option.some.inj flagged).symm
      · cases flagged
  | removed other =>
      rw [SessionItem.presence?] at flagged
      split at flagged
      · next same => exact absurd (same ▸ listed) stayed
      · cases flagged
  | _ => cases flagged

/-- Whoever an item is about entered before it. -/
theorem PresenceLedger.entered (ledger : PresenceLedger trace s) {item : SessionItem}
    {newer older : List SessionItem} (split : trace = newer ++ item :: older)
    (about : playerId ∈ item.players) : playerId ∈ enteredIds older :=
  entered_of_isPresent (ledger.found item older ⟨newer, split.symm⟩ playerId about)

/-- Of a player that entered at most once everything happened since then. -/
theorem PresenceLedger.countP_since (ledger : PresenceLedger trace s)
    (once : (enteredIds trace).count playerId ≤ 1) {mark counted : SessionItem → Bool}
    (enters : ∀ item, mark item = true → item.enteredId? = some playerId)
    (acts : ∀ item, counted item = true → playerId ∈ item.players) :
    (since mark trace).countP counted = trace.countP counted := by
  by_cases marked : ∃ item ∈ trace, mark item = true
  · obtain ⟨item, older, split, itemMarked⟩ := since_split marked
    have enteredId := enters item itemMarked
    have notCounted : counted item = false := by
      rw [Bool.eq_false_iff]
      intro itemCounted
      have about := acts item itemCounted
      cases item with
      | upserted other fresh => cases about
      | _ => cases enteredId
    have noneOlder : older.countP counted = 0 := by
      rw [List.countP_eq_zero]
      intro acted member itemCounted
      obtain ⟨newer, oldest, splitOlder⟩ := List.append_of_mem member
      have whole : trace = (since mark trace ++ item :: newer) ++ acted :: oldest := by
        rw [List.append_assoc, List.cons_append, ← splitOlder]
        exact split
      have earlier := ledger.entered whole (acts acted itemCounted)
      have listed : playerId ∈ enteredIds older := by
        rw [splitOlder, enteredIds, List.filterMap_append, List.filterMap_cons]
        refine List.mem_append_right _ ?_
        split
        · exact earlier
        · exact List.mem_cons_of_mem _ earlier
      have counts := congrArg (List.count playerId ∘ enteredIds) split
      simp only [Function.comp_apply, enteredIds, List.filterMap_append, List.filterMap_cons,
        enteredId, List.count_append, List.count_cons_self] at counts
      have positive := List.count_pos_iff.mpr listed
      rw [enteredIds] at positive once
      omega
    have total := congrArg (List.countP counted) split
    rw [List.countP_append, List.countP_cons, noneOlder, notCounted] at total
    simpa using total.symm
  · have unmarked : ∀ item ∈ trace, mark item = false := by
      intro item member
      rw [Bool.eq_false_iff]
      exact fun itemMarked => marked ⟨item, member, itemMarked⟩
    rw [since_eq_self mark trace unmarked]

end presence

/-! ## The two players -/

/-- One of the two players and the other one. -/
def Opponents (a b playerId other : String) : Prop :=
  playerId = a ∧ other = b ∨ playerId = b ∧ other = a

theorem Opponents.symm {a b playerId other : String} (opponents : Opponents a b playerId other) :
    Opponents a b other playerId := by
  rcases opponents with ⟨rfl, rfl⟩ | ⟨rfl, rfl⟩
  · exact Or.inr ⟨rfl, rfl⟩
  · exact Or.inl ⟨rfl, rfl⟩

/-- The entry of a duellist against the whole trace. -/
structure Duellist {R : Type u} (playerId : String) (runtime : PlayerRuntimeState R)
    (trace : List SessionItem) : Prop where
  hits : hitsOn playerId trace ≤ 5
  health : runtime.state.health = 100 - 20 * (hitsOn playerId trace : Int)
  alive : runtime.state.isAlive = decide (hitsOn playerId trace < 5)
  died : deathsOf playerId trace = if hitsOn playerId trace = 5 then 1 else 0
  deaths : runtime.state.deaths = deathsOf playerId trace
  shots : runtime.state.shotsFired = spawnedBy playerId trace
  landed : runtime.state.hitsLanded = hitsBy playerId trace

/-- A duellist is dead when it died, once. -/
theorem Duellist.deathsOf_eq {R : Type u} {trace : List SessionItem}
    {playerId : String} {runtime : PlayerRuntimeState R}
    (duellist : Duellist playerId runtime trace) :
    deathsOf playerId trace = (!runtime.state.isAlive).toNat := by
  have bound := duellist.hits
  rw [duellist.died, duellist.alive]
  by_cases fifth : hitsOn playerId trace = 5
  · rw [if_pos fifth, fifth]
    rfl
  · rw [if_neg fifth, decide_eq_true (by omega)]
    rfl

section duel

variable {R : Type u} [DoubleArith R] {trace : List SessionItem} {s : GameSession R}
  {a b playerId other : String}

omit [DoubleArith R] in
theorem Duel.mem_enteredIds (duel : Duel a b trace) :
    playerId ∈ enteredIds trace ↔ playerId = a ∨ playerId = b := by
  rw [duel.entered.mem_iff, List.mem_cons, List.mem_singleton]

omit [DoubleArith R] in
theorem Duel.count_le (duel : Duel a b trace) (playerId : String) :
    (enteredIds trace).count playerId ≤ 1 := by
  have distinct : [a, b].Nodup := by simpa using duel.different
  rw [duel.entered.count_eq]
  exact List.nodup_iff_count_le_one.mp distinct playerId

/-- The two players, and nobody else, are present. -/
theorem Duel.present (duel : Duel a b trace) (run : GameSession.Runs trace s) :
    s.players.contains playerId = true ↔ playerId = a ∨ playerId = b := by
  rw [(MoveRuns.presenceLedger (Runs.byMoves run).1).present, ← duel.mem_enteredIds]
  refine ⟨entered_of_isPresent, fun entered => isPresent_of_entered entered ?_⟩
  rcases duel.mem_enteredIds.mp entered with rfl | rfl
  · exact duel.stayed.1
  · exact duel.stayed.2

/-- Every combat event is about one of the two and the other. -/
theorem Duel.opponents (duel : Duel a b trace) (run : GameSession.Runs trace s) {event : CombatEvent}
    (member : event ∈ combatEvents trace) : Opponents a b event.shooterId event.targetId := by
  have moves := (Runs.byMoves run).1
  obtain ⟨newer, older, split⟩ := List.append_of_mem (mem_combatEvents.mp member)
  have entered : ∀ playerId ∈ (SessionItem.combat event).players, playerId = a ∨ playerId = b := by
    intro playerId about
    rw [← duel.mem_enteredIds, split, enteredIds, List.filterMap_append]
    have earlier := (MoveRuns.presenceLedger moves).entered split about
    exact List.mem_append_right _ earlier
  have foreign : event.shooterId ≠ event.targetId := by
    cases type : event.type with
    | hit =>
        exact (MoveRuns.projectileLedger moves).foreign event
          (List.mem_filter.mpr ⟨member, beq_iff_eq.mpr type⟩)
    | death => exact Runs.death_foreign run (List.mem_filter.mpr ⟨member, beq_iff_eq.mpr type⟩)
  have shooter := entered event.shooterId List.mem_cons_self
  have target := entered event.targetId (List.mem_cons_of_mem _ List.mem_cons_self)
  rcases shooter with shooter | shooter <;> rcases target with target | target
  · exact absurd (shooter.trans target.symm) foreign
  · exact Or.inl ⟨shooter, target⟩
  · exact Or.inr ⟨shooter, target⟩
  · exact absurd (shooter.trans target.symm) foreign

/-- What one of the two does is done to the other. -/
theorem Duel.shooter_iff (duel : Duel a b trace) (run : GameSession.Runs trace s)
    (opponents : Opponents a b playerId other) {event : CombatEvent}
    (member : event ∈ combatEvents trace) :
    event.shooterId = playerId ↔ event.targetId = other := by
  have different := duel.different
  rcases opponents with ⟨rfl, rfl⟩ | ⟨rfl, rfl⟩ <;>
    rcases duel.opponents run member with ⟨shooter, target⟩ | ⟨shooter, target⟩ <;>
    rw [shooter, target]
  · exact iff_of_true rfl rfl
  · exact iff_of_false different.symm different
  · exact iff_of_false different different.symm
  · exact iff_of_true rfl rfl

theorem Duel.hitsBy_eq_hitsOn (duel : Duel a b trace) (run : GameSession.Runs trace s)
    (opponents : Opponents a b playerId other) : hitsBy playerId trace = hitsOn other trace := by
  rw [hitsBy_eq, hitsOn_eq]
  apply List.countP_congr
  intro event member
  simp only [Bool.and_eq_true, beq_iff_eq, duel.shooter_iff run opponents member]

theorem Duel.duellist (duel : Duel a b trace) (run : GameSession.Runs trace s)
    {runtime : PlayerRuntimeState R} (present : s.players.find playerId = some runtime) :
    Duellist playerId runtime trace := by
  have moves := (Runs.byMoves run).1
  have presence := MoveRuns.presenceLedger moves
  have life := MoveRuns.accounts moves playerId runtime present
  have shots := (MoveRuns.projectileLedger moves).shots playerId runtime present
  have once := duel.count_le playerId
  have hitsInLife : hitsOn playerId (Arena60.life playerId trace) = hitsOn playerId trace :=
    presence.countP_since once enteredId?_of_isUpsertOf mem_players_of_isHitOn
  have deathsInLife : deathsOf playerId (Arena60.life playerId trace) = deathsOf playerId trace :=
    presence.countP_since once enteredId?_of_isUpsertOf mem_players_of_isDeathOf
  have deathsInStay : deathsOf playerId (stay playerId trace) = deathsOf playerId trace :=
    presence.countP_since once enteredId?_of_isInsertOf mem_players_of_isDeathOf
  have hitsInStay : hitsBy playerId (stay playerId trace) = hitsBy playerId trace :=
    presence.countP_since once enteredId?_of_isInsertOf mem_players_of_isHitBy
  have shotsInStay : spawnedBy playerId (stay playerId trace) = spawnedBy playerId trace :=
    presence.countP_since once enteredId?_of_isInsertOf mem_players_of_isSpawnBy
  constructor
  · exact hitsInLife ▸ life.bounded
  · rw [life.shownHealth, life.health, hitsInLife]
  · rw [life.alive, hitsInLife]
  · rw [← deathsInLife, life.deathsInLife, hitsInLife]
  · rw [life.shownDeaths, life.deaths, deathsInStay]
  · rw [shots.shownShots, shots.shots, shotsInStay]
  · rw [shots.shownHits, shots.hits, hitsInStay]

omit [DoubleArith R] in
/-- Every event is a hit on one of two players or the death of one. -/
theorem length_le_hits_and_deaths {events : List CombatEvent}
    (targets : ∀ event ∈ events, event.targetId = a ∨ event.targetId = b) :
    events.length ≤ (events.countP fun event => event.type == .hit && event.targetId == a) +
      (events.countP fun event => event.type == .hit && event.targetId == b) +
      (events.countP fun event => event.type == .death && event.targetId == a) +
      (events.countP fun event => event.type == .death && event.targetId == b) := by
  induction events with
  | nil => exact Nat.le_refl 0
  | cons event events ih =>
      have later := ih fun other member => targets other (List.mem_cons_of_mem _ member)
      simp only [List.countP_cons, List.length_cons]
      rcases targets event List.mem_cons_self with target | target <;>
        cases type : event.type <;> simp only [target, beq_self_eq_true, Bool.and_true] <;>
        simp <;> omega

/-- A death of the last tick is not older than any tick. -/
theorem Duel.newest {tick : Nat} {deltaSeconds : R} {items : List SessionItem} {s' : GameSession R}
    (duel : Duel a b (items.reverse ++ trace))
    (ticked : GameSession.perform (.tick tick deltaSeconds) s = some (items, s'))
    {death : CombatEvent} (produced : .combat death ∈ items) :
    ∀ number ∈ ticks (items.reverse ++ trace), number ≤ death.tick := by
  obtain ⟨_, _, same, made⟩ := perform_combat ticked produced
  cases same
  have stamped := (sweep_stamped death made).1
  have ticking := duel.ticking
  rw [ticks_perform ticked] at ticking ⊢
  intro number member
  rw [stamped]
  rcases List.mem_cons.mp member with rfl | older
  · exact Nat.le_refl _
  · exact Nat.le_of_lt ((List.pairwise_cons.mp ticking).1 number older)

/-- Nothing that can happen in a duel overflows the combat log. -/
theorem Duel.events_length (duel : Duel a b trace) (run : GameSession.Runs trace s) :
    (combatEvents trace).length ≤ 12 := by
  have bound : ∀ playerId, playerId = a ∨ playerId = b →
      hitsOn playerId trace ≤ 5 ∧ deathsOf playerId trace ≤ 1 := by
    intro playerId either
    have present := (duel.present run).mpr either
    obtain ⟨runtime, found⟩ := Option.isSome_iff_exists.mp present
    have duellist := duel.duellist run found
    refine ⟨duellist.hits, ?_⟩
    rw [duellist.died]
    split
    · exact Nat.le_refl 1
    · exact Nat.zero_le 1
  have targets : ∀ event ∈ combatEvents trace, event.targetId = a ∨ event.targetId = b := by
    intro event member
    rcases duel.opponents run member with ⟨-, target⟩ | ⟨-, target⟩
    · exact Or.inr target
    · exact Or.inl target
  have total := length_le_hits_and_deaths targets
  rw [← hitsOn_eq, ← hitsOn_eq, ← deathsOf_eq, ← deathsOf_eq] at total
  have first := bound a (Or.inl rfl)
  have second := bound b (Or.inr rfl)
  omega

/-- The combat log of a duel holds everything that happened. -/
theorem Duel.log (duel : Duel a b trace) (run : GameSession.Runs trace s) :
    s.combatLogSnapshot = combatEvents trace := by
  have ledger := MoveRuns.combatLedger (Runs.byMoves run).1
  have room := duel.events_length run
  apply ledger.log.eq_history
  rw [ledger.capacity]
  omega

end duel

end Arena60
