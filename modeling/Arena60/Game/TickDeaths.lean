import Arena60.Game.Duel
import Arena60.Game.Frames

/-!
# The deaths of a tick

The death events a tick appends are about the players whose health reached 0 in it, once each.
-/

namespace Arena60

open Misc

universe u

namespace GameSession

variable {R : Type u}

/-- The health of a player reached 0 between two states. -/
def Dies (playerId : String) (s s' : GameSession R) : Prop :=
  ∃ before after, s.getPlayer playerId = .ok before ∧ s'.getPlayer playerId = .ok after ∧
    0 < before.health ∧ after.health = 0

theorem getPlayer_eq_ok {s : GameSession R} {playerId : String} {state : PlayerState R} :
    s.getPlayer playerId = .ok state ↔
      ∃ runtime, s.players.find playerId = some runtime ∧ runtime.state = state := by
  unfold getPlayer
  cases s.players.find playerId <;> simp

variable [DoubleArith R]

/-- The deaths that a tick appends to the log. -/
def tickDeaths (s : GameSession R) (tick : Nat) (deltaSeconds : R) : List CombatEvent :=
  (s.tick tick deltaSeconds).2.filter fun event => event.type == .death

section tick

variable {trace items : List SessionItem} {s s' : GameSession R} {tick : Nat} {deltaSeconds : R}

theorem filterMap_combat_tick
    (ticked : GameSession.perform (.tick tick deltaSeconds) s = some (items, s')) :
    items.filterMap SessionItem.combat? = (s.tick tick deltaSeconds).2 := by
  cases ticked
  have quiet := expiredItems_quiet (s.moveProjectiles deltaSeconds) tick
  have none : (SessionItem.ticked tick :: (s.moveProjectiles deltaSeconds).expiredItems).filterMap
      SessionItem.combat? = [] :=
    List.filterMap_eq_nil_iff.mpr fun item member => (quiet item member).1
  rw [← List.cons_append, List.filterMap_append, none, combat?_map_combat]
  rfl

/-- Nobody enters or leaves in a tick. -/
theorem tick_present (ticked : GameSession.perform (.tick tick deltaSeconds) s = some (items, s')) :
    ∀ item ∈ items, ∀ playerId, item.presence? playerId = none ∧ item.isUpsertOf playerId = false := by
  cases ticked
  intro item member playerId
  rcases List.mem_cons.mp member with rfl | rest
  · exact ⟨rfl, rfl⟩
  · rcases List.mem_append.mp rest with expired | event
    · obtain ⟨projectile, -, rfl⟩ := List.mem_map.mp expired
      exact ⟨rfl, rfl⟩
    · obtain ⟨event, -, rfl⟩ := List.mem_map.mp event
      exact ⟨rfl, rfl⟩

/-- A tick adds its deaths to those of a player. -/
theorem deathsOf_tick (ticked : GameSession.perform (.tick tick deltaSeconds) s = some (items, s'))
    (playerId : String) (older : List SessionItem) : deathsOf playerId (items.reverse ++ older) =
      deathsOf playerId older + ((s.tickDeaths tick deltaSeconds).map CombatEvent.targetId).count playerId := by
  rw [deathsOf_eq, combatEvents_append, filterMap_combat_tick ticked, List.countP_append, ← deathsOf_eq,
    tickDeaths, List.count, List.countP_map, List.countP_filter]
  simp only [Function.comp_apply, Bool.and_comm]

/-- The player of a death was in the session. -/
theorem Runs.contains_tickDeaths (run : Runs trace s) {event : CombatEvent}
    (death : event ∈ s.tickDeaths tick deltaSeconds) : s.players.contains event.targetId = true := by
  have ticked : GameSession.perform (.tick tick deltaSeconds) s = some (_, (s.tick tick deltaSeconds).1) := rfl
  have run' := Runs.byMoves (.next run ⟨_, ticked⟩)
  have listed := (List.mem_filter.mp death).1
  rw [← filterMap_combat_tick ticked] at listed
  obtain ⟨item, member, same⟩ := List.mem_filterMap.mp listed
  obtain ⟨newer, older, split⟩ := List.append_of_mem (List.mem_reverse.mpr member)
  have still : ∀ other ∈ older.reverse, other.presence? event.targetId = none := by
    intro other inside
    have inside' : other ∈ newer ++ item :: older := by simp_all
    rw [← split] at inside'
    exact (tick_present ticked other (List.mem_reverse.mp inside') event.targetId).1
  have found := (MoveRuns.presenceLedger run'.1).found item (older ++ trace)
    (by rw [split, List.append_assoc]; exact List.suffix_append _ _) event.targetId (by
      cases item with
      | combat other =>
          cases same
          simp [SessionItem.players]
      | _ => cases same)
  rw [← older.reverse_reverse, isPresent_append still] at found
  rw [(MoveRuns.presenceLedger (Runs.byMoves run).1).present]
  exact found

/-- A tick announces each player that dies in it once. -/
theorem Runs.count_tickDeaths (run : Runs trace s) (tick : Nat) (deltaSeconds : R) (playerId : String) :
    ((s.tickDeaths tick deltaSeconds).map CombatEvent.targetId).count playerId ≤ 1 ∧
      (0 < ((s.tickDeaths tick deltaSeconds).map CombatEvent.targetId).count playerId ↔
        Dies playerId s (s.tick tick deltaSeconds).1) := by
  have ticked : GameSession.perform (.tick tick deltaSeconds) s = some (_, (s.tick tick deltaSeconds).1) := rfl
  have keys := UnorderedMap.contains_congr (s.tick_keys tick deltaSeconds) playerId
  cases found : s.players.find playerId with
  | none =>
      have absent : playerId ∉ (s.tickDeaths tick deltaSeconds).map CombatEvent.targetId := by
        intro listed
        obtain ⟨event, death, rfl⟩ := List.mem_map.mp listed
        have present := run.contains_tickDeaths death
        rw [UnorderedMap.contains, found] at present
        cases present
      rw [List.count_eq_zero_of_not_mem absent]
      refine ⟨by omega, iff_of_false (by omega) ?_⟩
      intro dies
      obtain ⟨before, -, known, -⟩ := dies
      obtain ⟨runtime, present, -⟩ := getPlayer_eq_ok.mp known
      rw [found] at present
      cases present
  | some runtime =>
      rw [UnorderedMap.contains, UnorderedMap.contains, found] at keys
      obtain ⟨runtime', found'⟩ := Option.isSome_iff_exists.mp keys
      have account := MoveRuns.accounts (Runs.byMoves run).1 playerId runtime found
      have account' := MoveRuns.accounts (Runs.byMoves (.next run ⟨_, ticked⟩)).1 playerId runtime' found'
      have sameLife := since_append (SessionItem.isUpsertOf playerId) _ trace
        fun item member => (tick_present ticked item (List.mem_reverse.mp member) playerId).2
      have deaths := deathsOf_tick ticked playerId (life playerId trace)
      rw [life, ← sameLife, ← life, ← life, account'.deathsInLife, account.deathsInLife] at deaths
      have dies : Dies playerId s (s.tick tick deltaSeconds).1 ↔
          0 < runtime.state.health ∧ runtime'.state.health = 0 := by
        simp [Dies, getPlayer_eq_ok, found, found']
      have health := account.health
      have health' := account'.health
      have bounded := account.bounded
      rw [dies, account.shownHealth, account'.shownHealth, health, health']
      split at deaths <;> split at deaths <;> omega

/-- The deaths of a tick, in their order, are those of the players that died in it. -/
theorem Runs.tickDeaths_spec (run : Runs trace s) (tick : Nat) (deltaSeconds : R) :
    ((s.tickDeaths tick deltaSeconds).map CombatEvent.targetId).Nodup ∧
      ∀ playerId, playerId ∈ (s.tickDeaths tick deltaSeconds).map CombatEvent.targetId ↔
        Dies playerId s (s.tick tick deltaSeconds).1 := by
  constructor
  · rw [List.nodup_iff_count_le_one]
    exact fun playerId => (run.count_tickDeaths tick deltaSeconds playerId).1
  · intro playerId
    rw [← List.count_pos_iff]
    exact (run.count_tickDeaths tick deltaSeconds playerId).2

/-- If all deaths have been consumed, the pending ones after a tick are its own. -/
theorem Runs.pendingDeaths_tick (run : Runs trace s) (delivered : s.pendingDeaths = []) (tick : Nat)
    (deltaSeconds : R) :
    (s.tick tick deltaSeconds).1.pendingDeaths = s.tickDeaths tick deltaSeconds := by
  have ticked : GameSession.perform (.tick tick deltaSeconds) s = some (_, (s.tick tick deltaSeconds).1) := rfl
  have pending := run.deathEvents_tick delivered ticked
  rw [deathEvents_append, filterMap_combat_tick ticked] at pending
  exact (List.append_cancel_left pending).symm

theorem tickDeaths_stamped (s : GameSession R) {event : CombatEvent}
    (death : event ∈ s.tickDeaths tick deltaSeconds) : event.type = .death ∧ event.tick = tick := by
  obtain ⟨listed, type⟩ := List.mem_filter.mp death
  exact ⟨eq_of_beq type, (sweep_stamped event listed).1⟩

end tick

end GameSession

end Arena60
