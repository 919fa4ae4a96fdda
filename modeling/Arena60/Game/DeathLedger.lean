import Arena60.Game.LifeAccounts
import Arena60.Misc.ExactArith

/-!
# What a session records of its combat

The pending deaths, the totals and the combat log against the combat events of the
trace, and the shape of the trace itself: a death follows the fifth hit of a life at
once.
-/

namespace Arena60

open Misc

universe u

/-- A death that is announced by the hit in front of it, the fifth of the life. -/
def AnnouncedByFifthHit (death : CombatEvent) (older : List SessionItem) : Prop :=
  ∃ hit older', older = .combat hit :: older' ∧ hit.type = .hit ∧
    hit.shooterId = death.shooterId ∧ hit.targetId = death.targetId ∧
    hit.projectileId = death.projectileId ∧ hit.tick = death.tick ∧
    hitsOn death.targetId (life death.targetId older) = 5

/-- The records of a session agree with its trace. -/
structure CombatLedger {R : Type u} (trace : List SessionItem) (s : GameSession R) : Prop where
  consumed : consumedDeaths trace ++ s.pendingDeaths = deathEvents trace
  dead : s.playersDeadTotal = (deathEvents trace).length
  hits : s.projectilesHitsTotal = (hitEvents trace).length
  capacity : s.combatLog.capacity = 32
  log : s.combatLog.Holds (combatEvents trace)
  announced : ∀ death older, .combat death :: older <:+ trace → death.type = .death →
    AnnouncedByFifthHit death older

/-- What happened before some peaceful items happened before they were added. -/
theorem Peaceful.suffix {items trace : List SessionItem} (peaceful : Peaceful items)
    {event : CombatEvent} {older : List SessionItem}
    (suffix : .combat event :: older <:+ items ++ trace) : .combat event :: older <:+ trace := by
  rcases suffix_cons_append suffix with old | ⟨rest, new, -⟩
  · exact old
  · have none := peaceful _ (new.subset List.mem_cons_self)
    cases none

section ledger

open GameSession

variable {R : Type u} {trace items : List SessionItem} {s s' : GameSession R}

/-- A ledger survives items without combat that leave the records alone. -/
theorem CombatLedger.peaceful (ledger : CombatLedger trace s) (peaceful : Peaceful items)
    (consumed : consumedDeaths (items.reverse ++ trace) ++ s'.pendingDeaths =
      consumedDeaths trace ++ s.pendingDeaths)
    (dead : s'.playersDeadTotal = s.playersDeadTotal)
    (hits : s'.projectilesHitsTotal = s.projectilesHitsTotal) (log : s'.combatLog = s.combatLog) :
    CombatLedger (items.reverse ++ trace) s' := by
  have events := peaceful.combatEvents_eq trace
  constructor
  · rw [consumed, deathEvents, events]
    exact ledger.consumed
  · rw [dead, deathEvents, events]
    exact ledger.dead
  · rw [hits, hitEvents, events]
    exact ledger.hits
  · rw [log]
    exact ledger.capacity
  · rw [log, events]
    exact ledger.log
  · intro death older suffix
    exact ledger.announced death older (peaceful.reverse.suffix suffix)

theorem consumedDeaths_quiet (quiet : ∀ item ∈ items, item.consumedDeaths = []) :
    consumedDeaths (items.reverse ++ trace) = consumedDeaths trace := by
  have none : items.flatMap SessionItem.consumedDeaths = [] := List.flatMap_eq_nil_iff.mpr quiet
  rw [consumedDeaths_append, none, List.append_nil]

/-- The same for items that report no consumed deaths either. -/
theorem CombatLedger.quiet (ledger : CombatLedger trace s)
    (quiet : ∀ item ∈ items, item.combat? = none ∧ item.consumedDeaths = [])
    (pending : s'.pendingDeaths = s.pendingDeaths)
    (dead : s'.playersDeadTotal = s.playersDeadTotal)
    (hits : s'.projectilesHitsTotal = s.projectilesHitsTotal) (log : s'.combatLog = s.combatLog) :
    CombatLedger (items.reverse ++ trace) s' := by
  refine ledger.peaceful (fun item member => (quiet item member).1) ?_ dead hits log
  rw [consumedDeaths_quiet fun item member => (quiet item member).2, pending]

theorem droppedItems_quiet (s : GameSession R) (removed : String) :
    ∀ item ∈ (.removed removed :: s.droppedItems removed),
      item.combat? = none ∧ item.consumedDeaths = [] := by
  intro item member
  rcases List.mem_cons.mp member with rfl | dropped
  · exact ⟨rfl, rfl⟩
  · obtain ⟨projectile, -, rfl⟩ := List.mem_map.mp dropped
    exact ⟨rfl, rfl⟩

theorem expiredItems_quiet (s : GameSession R) (tick : Nat) :
    ∀ item ∈ (.ticked tick :: s.expiredItems), item.combat? = none ∧ item.consumedDeaths = [] := by
  intro item member
  rcases List.mem_cons.mp member with rfl | expired
  · exact ⟨rfl, rfl⟩
  · obtain ⟨projectile, -, rfl⟩ := List.mem_map.mp expired
    exact ⟨rfl, rfl⟩

theorem quiet_single {item : SessionItem} (peaceful : item.combat? = none)
    (quiet : item.consumedDeaths = []) :
    ∀ other ∈ [item], other.combat? = none ∧ other.consumedDeaths = [] := by
  intro other member
  rw [List.mem_singleton.mp member]
  exact ⟨peaceful, quiet⟩

theorem combat?_map_combat (events : List CombatEvent) :
    (events.map SessionItem.combat).filterMap SessionItem.combat? = events := by
  rw [List.filterMap_map]
  exact List.filterMap_some

/-- A hit adds the same to the records and to the trace. -/
theorem CombatLedger.hit (ledger : CombatLedger trace s) (accounts : Accounts trace s) (tick : Nat)
    (projectile : Projectile R) {key : String} {runtime : PlayerRuntimeState R}
    (present : s.players.find key = some runtime) (alive : runtime.state.isAlive = true) :
    CombatLedger (((s.registerHit tick projectile key runtime).2.map .combat).reverse ++ trace)
      (s.registerHit tick projectile key runtime).1 := by
  have account := accounts key runtime present
  obtain ⟨hitsTotal, deadTotal, pending, -, -⟩ := registerHit_totals s tick projectile key runtime
  have log := registerHit_log s tick projectile key runtime
  obtain ⟨holds, capacity⟩ := ledger.log.foldl (s.registerHit tick projectile key runtime).2
  have fewer := account.hits_lt alive
  have died : announces runtime = decide (hitsOn key (life key trace) + 1 = 5) := by
    have alreadyAnnounced : runtime.deathAnnounced = false := by
      rw [account.announced]
      exact decide_eq_false (by omega)
    rw [announces, account.applyDamage alive, alreadyAnnounced, Bool.not_false, Bool.and_true]
  have quiet : consumedDeaths (((s.registerHit tick projectile key runtime).2.map
      SessionItem.combat).reverse ++ trace) = consumedDeaths trace := by
    refine consumedDeaths_quiet fun item member => ?_
    obtain ⟨event, -, rfl⟩ := List.mem_map.mp member
    rfl
  constructor
  · rw [quiet, pending, deathEvents_append, combat?_map_combat, registerHit_events,
      ← List.append_assoc, ledger.consumed]
    split <;> rfl
  · rw [deadTotal, deathEvents_append, combat?_map_combat, registerHit_events, List.length_append,
      ledger.dead]
    cases announces runtime <;> rfl
  · rw [hitsTotal, hitEvents_append, combat?_map_combat, registerHit_events, List.length_append,
      ledger.hits]
    cases announces runtime <;> rfl
  · rw [log, capacity]
    exact ledger.capacity
  · rw [log, combatEvents_append, combat?_map_combat]
    exact holds
  · intro death older suffix type
    rw [registerHit_events, died] at suffix
    by_cases fifth : hitsOn key (life key trace) + 1 = 5
    · simp only [fifth, decide_true, if_true, List.map_cons, List.map_nil, List.reverse_cons,
        List.reverse_nil, List.nil_append, List.cons_append, List.suffix_cons_iff] at suffix
      rcases suffix with same | same | old
      · obtain ⟨first, rfl⟩ := List.cons.inj same
        cases first
        refine ⟨_, _, rfl, rfl, rfl, rfl, rfl, rfl, ?_⟩
        show hitsOn runtime.state.playerId (life runtime.state.playerId _) = 5
        rw [account.named, hitsOn_hit rfl account.named, fifth]
      · obtain ⟨first, -⟩ := List.cons.inj same
        cases first
        cases type
      · exact ledger.announced death older old type
    · simp only [fifth, decide_false, Bool.false_eq_true, if_false, List.map_cons, List.map_nil,
        List.reverse_singleton, List.singleton_append, List.suffix_cons_iff] at suffix
      rcases suffix with same | old
      · obtain ⟨first, -⟩ := List.cons.inj same
        cases first
        cases type
      · exact ledger.announced death older old type

variable [Misc.DoubleArith R]

theorem CombatLedger.move (ledger : CombatLedger trace s) (accounts : Accounts trace s)
    (move : Move s items s') : CombatLedger (items.reverse ++ trace) s' := by
  have silent : ∀ item ∈ ([] : List SessionItem), item.combat? = none ∧ item.consumedDeaths = [] :=
    fun item member => nomatch member
  cases move with
  | upsert named => exact ledger.quiet (quiet_single rfl rfl) rfl rfl rfl rfl
  | remove removed settled => exact ledger.quiet (droppedItems_quiet s removed) rfl rfl rfl rfl
  | receive playerId => exact ledger.quiet (quiet_single rfl rfl) rfl rfl rfl rfl
  | steer present steered => exact ledger.quiet silent rfl rfl rfl rfl
  | number => exact ledger.quiet silent rfl rfl rfl rfl
  | spawn present alive id owner active =>
      exact ledger.quiet (quiet_single rfl rfl) rfl rfl rfl rfl
  | moveProjectiles tick deltaSeconds settled =>
      exact ledger.quiet (expiredItems_quiet _ tick) rfl rfl rfl rfl
  | @hit tick _ _ projectile key runtime stored active present alive other =>
      have after := ledger.hit accounts tick projectile present alive
      exact ⟨after.consumed, after.dead, after.hits, after.capacity, after.log, after.announced⟩
  | settle checked => exact ledger.quiet silent rfl rfl rfl rfl
  | consume =>
      refine ledger.peaceful ?_ ?_ rfl rfl rfl
      · intro item member
        rw [List.mem_singleton.mp member]
        rfl
      · simp [consumedDeaths, SessionItem.consumedDeaths, consumeDeathEvents]
  | reorder order => exact ledger.quiet silent rfl rfl rfl rfl

theorem perform_quiet {op : SessionOp R} {session session' : GameSession R}
    {made : List SessionItem} (peaceful : ∀ tick deltaSeconds, op ≠ .tick tick deltaSeconds)
    (noDelivery : op ≠ .consumeDeathEvents)
    (performed : GameSession.perform op session = some (made, session')) :
    ∀ item ∈ made, item.combat? = none ∧ item.consumedDeaths = [] := by
  cases op with
  | upsertPlayer playerId =>
      obtain ⟨-, rfl, -⟩ := GameSession.perform_upsertPlayer performed
      exact quiet_single rfl rfl
  | removePlayer playerId =>
      cases performed
      exact droppedItems_quiet session playerId
  | applyInput playerId input deltaSeconds =>
      cases performed
      intro item member
      rcases List.mem_cons.mp member with rfl | spawned
      · exact ⟨rfl, rfl⟩
      · obtain ⟨projectile, -, rfl⟩ := List.mem_map.mp spawned
        exact ⟨rfl, rfl⟩
  | tick tick deltaSeconds => exact absurd rfl (peaceful tick deltaSeconds)
  | consumeDeathEvents => exact absurd rfl noDelivery
  | reorder order =>
      cases performed
      intro item member
      cases member

theorem GameSession.MoveRuns.combatLedger (run : MoveRuns trace s) : CombatLedger trace s := by
  refine Run.invariant (P := CombatLedger) ?_ ?_ run
  · rintro s rfl
    refine ⟨rfl, rfl, rfl, rfl, CombatLog.holds_new 32, ?_⟩
    intro death older suffix
    cases List.eq_nil_of_suffix_nil suffix
  · intro trace s items s' run ledger move
    exact ledger.move (GameSession.MoveRuns.accounts run) move

/-- The deaths that are pending have happened. -/
theorem GameSession.Runs.mem_deathEvents (run : GameSession.Runs trace s) {death : CombatEvent}
    (pending : death ∈ s.pendingDeaths) : death ∈ deathEvents trace := by
  rw [← (MoveRuns.combatLedger (Runs.byMoves run).1).consumed]
  exact List.mem_append_right _ pending

theorem consumedDeaths_tick {tick : Nat} {deltaSeconds : R}
    (ticked : GameSession.perform (.tick tick deltaSeconds) s = some (items, s')) :
    ∀ item ∈ items, item.consumedDeaths = [] := by
  cases ticked
  intro item member
  rcases List.mem_cons.mp member with rfl | rest
  · rfl
  · rcases List.mem_append.mp rest with old | new
    · exact (expiredItems_quiet _ tick item (List.mem_cons_of_mem _ old)).2
    · obtain ⟨event, -, rfl⟩ := List.mem_map.mp new
      rfl

/-- When all deaths were consumed before a tick, those pending after it are the new ones. -/
theorem GameSession.Runs.deathEvents_tick (run : GameSession.Runs trace s)
    (delivered : s.pendingDeaths = []) {tick : Nat} {deltaSeconds : R}
    (ticked : GameSession.perform (.tick tick deltaSeconds) s = some (items, s')) :
    deathEvents (items.reverse ++ trace) = deathEvents trace ++ s'.pendingDeaths := by
  have run' : GameSession.Runs (items.reverse ++ trace) s' := .next run ⟨_, ticked⟩
  have before := (MoveRuns.combatLedger (Runs.byMoves run).1).consumed
  have after := (MoveRuns.combatLedger (Runs.byMoves run').1).consumed
  rw [delivered, List.append_nil] at before
  rw [consumedDeaths_quiet (consumedDeaths_tick ticked), before] at after
  exact after.symm

end ledger

open GameSession in
/-- Lives, hits and deaths are accounted for in every run. -/
theorem life_accounting {R : Type u} [DoubleArith R] {trace : List SessionItem} {s : GameSession R}
    (run : GameSession.Runs trace s) :
    (∀ playerId runtime, s.players.find playerId = some runtime →
      LifeAccount playerId runtime trace) ∧ CombatLedger trace s :=
  ⟨MoveRuns.accounts (Runs.byMoves run).1, MoveRuns.combatLedger (Runs.byMoves run).1⟩

/-- A joins, B joins and walks four meters, and A shoots B five times. -/
def fiveHits : List (SessionOp ℚ) :=
  let walk : MovementInput ℚ := ⟨1, false, false, false, true, 0, 0, false⟩
  let fire : MovementInput ℚ := ⟨1, false, false, false, false, 1, 0, true⟩
  [.upsertPlayer "A", .upsertPlayer "B", .applyInput "B" walk (4 / 5)] ++
    (List.range 5).flatMap (fun round => [.applyInput "A" fire 0, .tick round (1 / 8)]) ++
    [.consumeDeathEvents]

theorem life_accounting_fiveHits :
    ∃ trace, ∃ s : GameSession ℚ,
      ((∀ playerId runtime, s.players.find playerId = some runtime →
        LifeAccount playerId runtime trace) ∧ CombatLedger trace s) ∧
      hitsOn "B" (life "B" trace) = 5 ∧
      deathEvents trace = [⟨.death, "A", "B", "projectile-5", 0, 4⟩] := by
  have fresh : (GameSession.new : GameSession ℚ).Initial := rfl
  obtain ⟨trace, s, run, passed⟩ := exists_run_of_replay fiveHits
    (fun trace _ => decide (hitsOn "B" (life "B" trace) = 5) &&
      decide (deathEvents trace = [⟨.death, "A", "B", "projectile-5", 0, 4⟩])) fresh
    (show (replay GameSession.perform _ _).any _ = true by decide +kernel)
  simp only [Bool.and_eq_true, decide_eq_true_eq] at passed
  exact ⟨trace, s, life_accounting run, passed⟩

/-- A combat event of a trace stands in front of the older ones. -/
theorem exists_suffix_of_combatEvents {trace : List SessionItem} {before after : List CombatEvent}
    {event : CombatEvent} (split : combatEvents trace = before ++ event :: after) :
    ∃ older, .combat event :: older <:+ trace ∧ combatEvents older = before := by
  have newestFirst : trace.filterMap SessionItem.combat? = after.reverse ++ event :: before.reverse := by
    rw [← List.reverse_reverse (trace.filterMap SessionItem.combat?)]
    show (combatEvents trace).reverse = _
    simp [split]
  obtain ⟨newer, rest, rfl, -, here⟩ := List.filterMap_eq_append_iff.mp newestFirst
  obtain ⟨quiet, item, older, rfl, -, combat, earlier⟩ := List.filterMap_eq_cons_iff.mp here
  cases item with
  | combat other =>
      cases combat
      refine ⟨older, ?_, ?_⟩
      · rw [← List.append_assoc]
        exact List.suffix_append _ _
      · rw [combatEvents, earlier, List.reverse_reverse]
  | _ => cases combat

/-- In a history every death is announced by the event in front of it. -/
def DeathsFollowHits (history : List CombatEvent) : Prop :=
  ∀ before death after, history = before ++ death :: after → death.type = .death →
    ∃ earlier hit, before = earlier ++ [hit] ∧ hit.type = .hit ∧ hit.shooterId = death.shooterId ∧
      hit.targetId = death.targetId ∧ hit.projectileId = death.projectileId ∧ hit.tick = death.tick

theorem CombatLedger.deathsFollowHits {R : Type u} {trace : List SessionItem} {s : GameSession R}
    (ledger : CombatLedger trace s) : DeathsFollowHits (combatEvents trace) := by
  intro before death after split type
  obtain ⟨older, suffix, rfl⟩ := exists_suffix_of_combatEvents split
  obtain ⟨hit, older', rfl, hitType, shooter, target, projectile, tick, -⟩ :=
    ledger.announced death older suffix type
  have earlier := combatEvents_append [.combat hit] older'
  exact ⟨combatEvents older', hit, earlier, hitType, shooter, target, projectile, tick⟩

/-- What `CombatLogSnapshot` shows is the end of the history of combat events. -/
theorem CombatLedger.snapshot {R : Type u} {trace : List SessionItem} {s : GameSession R}
    (ledger : CombatLedger trace s) : s.combatLogSnapshot = (combatEvents trace).rtake 32 := by
  rw [← ledger.capacity]
  exact ledger.log

open GameSession in
/-- In every run the combat log shows the last 32 combat events, all of them while there are fewer,
and every death of the history follows the hit that caused it at once. -/
theorem combat_log_is_tail_of_history {R : Type u} [DoubleArith R] {trace : List SessionItem}
    {s : GameSession R} (run : GameSession.Runs trace s) :
    (s.combatLogSnapshot <:+ combatEvents trace ∧
      s.combatLogSnapshot.length = min 32 (combatEvents trace).length) ∧
      DeathsFollowHits (combatEvents trace) := by
  have ledger := MoveRuns.combatLedger (Runs.byMoves run).1
  refine ⟨?_, ledger.deathsFollowHits⟩
  rw [ledger.snapshot, List.rtake]
  refine ⟨List.drop_suffix _ _, ?_⟩
  rw [List.length_drop]
  omega

/-- B walks four meters, and A shoots it dead six times; B joins again after each death. -/
def sixLives : List (SessionOp ℚ) :=
  let walk : MovementInput ℚ := ⟨1, false, false, false, true, 0, 0, false⟩
  let fire : MovementInput ℚ := ⟨1, false, false, false, false, 1, 0, true⟩
  [.upsertPlayer "A", .upsertPlayer "B", .applyInput "B" walk (4 / 5)] ++
    (List.range 6).flatMap fun life =>
      (List.range 5).flatMap (fun round => [.applyInput "A" fire 0, .tick (5 * life + round) (1 / 8)]) ++
        [.upsertPlayer "B"]

theorem combat_log_is_tail_of_history_sixLives :
    ∃ trace, ∃ s : GameSession ℚ,
      ((s.combatLogSnapshot <:+ combatEvents trace ∧
        s.combatLogSnapshot.length = min 32 (combatEvents trace).length) ∧
        DeathsFollowHits (combatEvents trace)) ∧ (combatEvents trace).length = 36 := by
  have fresh : (GameSession.new : GameSession ℚ).Initial := rfl
  obtain ⟨trace, s, run, passed⟩ := exists_run_of_replay sixLives
    (fun trace _ => decide ((combatEvents trace).length = 36)) fresh
    (show (replay GameSession.perform _ _).any _ = true by decide +kernel)
  exact ⟨trace, s, combat_log_is_tail_of_history run, of_decide_eq_true passed⟩

end Arena60
