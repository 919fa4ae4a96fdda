import Arena60.Misc.Sums
import Arena60.Stats.DuelStats

/-!
# The shape of a match result

Whatever happened in a session, the result of a death has one entry for each player that takes
part, in the order of their ids, and what the entries say was dealt is what they say was taken.
-/

namespace Arena60

open Misc

universe u

namespace MatchStatsCollector

variable {R : Type u} {death : CombatEvent} {s : GameSession R}

/-! ## Who takes part -/

theorem named_eq_true_iff (playerId : String) (events : List CombatEvent) :
    named playerId events = true ↔
      ∃ event ∈ events, event.shooterId = playerId ∨ event.targetId = playerId := by
  simp only [named, List.any_eq_true, Bool.or_eq_true, beq_iff_eq, eq_comm (b := playerId), or_comm]

theorem mem_logged {event : CombatEvent} :
    event ∈ logged death s ↔ event ∈ s.combatLogSnapshot ∧ event.tick ≤ death.tick := by
  simp [logged]

theorem takesPart_iff (playerId : String) :
    takesPart death s playerId = true ↔
      (∃ state ∈ s.snapshot, state.playerId = playerId) ∨
      (∃ event ∈ s.combatLogSnapshot, event.tick ≤ death.tick ∧
        (event.shooterId = playerId ∨ event.targetId = playerId)) ∨
      playerId = death.shooterId ∨ playerId = death.targetId := by
  simp only [takesPart, inSnapshot, Bool.or_eq_true, beq_iff_eq, List.any_eq_true, named_eq_true_iff,
    mem_logged, and_assoc]
  constructor
  · rintro ((name | event) | state)
    · exact Or.inr (Or.inr name)
    · exact Or.inr (Or.inl event)
    · exact Or.inl state
  · rintro (state | event | name)
    · exact Or.inr state
    · exact Or.inl (Or.inr event)
    · exact Or.inl (Or.inl name)

theorem toStats_mem {completedAt : Int} {playerId : String} (part : takesPart death s playerId = true) :
    (totalsFor death s playerId).toStats (matchIdOf death) ∈ (collect death s completedAt).playerStats :=
  (mem_playerStats death s).mpr ⟨part, rfl⟩

theorem mem_playerIds (completedAt : Int) (playerId : String) :
    playerId ∈ (collect death s completedAt).playerStats.map PlayerMatchStats.playerId ↔
      takesPart death s playerId = true := by
  rw [List.mem_map]
  constructor
  · rintro ⟨stats, listed, rfl⟩
    exact ((mem_playerStats death s).mp listed).1
  · intro part
    exact ⟨_, toStats_mem part, rfl⟩

theorem playerStats_ascending (completedAt : Int) :
    ((collect death s completedAt).playerStats.map PlayerMatchStats.playerId).Pairwise (· < ·) := by
  let notAfter : PlayerMatchStats → PlayerMatchStats → Prop := fun lhs rhs => lhs.playerId ≤ rhs.playerId
  have total : Std.Total notAfter := ⟨fun lhs rhs => le_total lhs.playerId rhs.playerId⟩
  have trans : IsTrans PlayerMatchStats notAfter := ⟨fun _ _ _ => le_trans⟩
  have sorted : (collect death s completedAt).playerStats.Pairwise notAfter :=
    List.pairwise_insertionSort notAfter _
  have distinct := playerStats_distinct death s completedAt
  rw [List.Nodup, List.pairwise_map] at distinct
  apply List.pairwise_map.mpr
  exact (sorted.and distinct).imp fun both => lt_of_le_of_ne both.1 both.2

/-! ## What was dealt and what was taken -/

/-- The hits of the combat log that are not newer than a death. -/
def loggedHits (death : CombatEvent) (s : GameSession R) : List CombatEvent :=
  s.combatLogSnapshot.filter fun event => event.type == .hit && decide (event.tick ≤ death.tick)

theorem sum_logged_hits :
    ((logged death s).map fun event => if event.type = .hit then damageOf event else 0).sum =
      ((loggedHits death s).map damageOf).sum := by
  rw [logged, loggedHits]
  induction s.combatLogSnapshot with
  | nil => rfl
  | cons event events ih =>
      by_cases newer : event.tick > death.tick
      · have skipped : ¬event.tick ≤ death.tick := Nat.not_le.mpr newer
        simpa [newer, skipped] using ih
      · have older : event.tick ≤ death.tick := Nat.not_lt.mp newer
        cases type : event.type with
        | hit => simpa [newer, older, type] using ih
        | death =>
            have other : (CombatEventType.death == CombatEventType.hit) = false := rfl
            simpa [newer, older, type, other] using ih

/-- The damage booked to the players of a result is that of the logged hits, whoever is booked. -/
theorem sum_booked (completedAt : Int) (who : CombatEvent → String)
    (covered : ∀ event, who event = event.shooterId ∨ who event = event.targetId) :
    (((collect death s completedAt).playerStats.map PlayerMatchStats.playerId).map fun playerId =>
      ((logged death s).map fun event =>
        if event.type = .hit ∧ playerId = who event then damageOf event else 0).sum).sum =
      ((loggedHits death s).map damageOf).sum := by
  have booked : ∀ event ∈ logged death s,
      who event ∈ (collect death s completedAt).playerStats.map PlayerMatchStats.playerId := by
    intro event member
    rw [mem_playerIds, takesPart_iff]
    obtain ⟨listed, older⟩ := mem_logged.mp member
    have about := (covered event).imp Eq.symm Eq.symm
    exact Or.inr (Or.inl ⟨event, listed, older, about⟩)
  rw [← sum_logged_hits, ← sum_map_sum_booked (playerStats_distinct death s completedAt) who _ booked]
  simp only [and_comm, ite_and]

theorem stats_eq {completedAt : Int} {stats : PlayerMatchStats}
    (listed : stats ∈ (collect death s completedAt).playerStats) :
    stats.damageDealt = damageBy stats.playerId (logged death s) ∧
      stats.damageTaken = damageOn stats.playerId (logged death s) := by
  have same := ((mem_playerStats death s).mp listed).2
  rw [same]
  exact ⟨rfl, rfl⟩

theorem sum_damageDealt (completedAt : Int) :
    ((collect death s completedAt).playerStats.map PlayerMatchStats.damageDealt).sum =
      ((loggedHits death s).map damageOf).sum := by
  rw [← sum_booked completedAt CombatEvent.shooterId fun _ => Or.inl rfl, List.map_map]
  exact congrArg List.sum (List.map_congr_left fun stats listed => (stats_eq listed).1)

theorem sum_damageTaken (completedAt : Int) :
    ((collect death s completedAt).playerStats.map PlayerMatchStats.damageTaken).sum =
      ((loggedHits death s).map damageOf).sum := by
  rw [← sum_booked completedAt CombatEvent.targetId fun _ => Or.inr rfl, List.map_map]
  exact congrArg List.sum (List.map_congr_left fun stats listed => (stats_eq listed).2)

/-- In a session that was run, the damage of a logged hit is no negative number. -/
theorem sum_damageOf [DoubleArith R] {trace : List SessionItem} (run : GameSession.Runs trace s)
    (death : CombatEvent) : (((loggedHits death s).map damageOf).sum : Int) =
      ((loggedHits death s).map CombatEvent.damage).sum := by
  have uniform : ∀ event ∈ loggedHits death s, (damageOf event : Int) = event.damage := by
    intro event member
    obtain ⟨logged, counted⟩ := List.mem_filter.mp member
    obtain ⟨hit, -⟩ := (Bool.and_eq_true _ _).mp counted
    have held : s.combatLogSnapshot = (combatEvents trace).rtake s.combatLog.capacity :=
      (GameSession.MoveRuns.combatLedger (GameSession.Runs.byMoves run).1).log
    rw [held] at logged
    have happened : event ∈ combatEvents trace := List.mem_of_mem_drop logged
    rw [damageOf, (run.stamped event happened).2 (eq_of_beq hit)]
    rfl
  rw [Nat.cast_list_sum, List.map_map]
  exact congrArg List.sum (List.map_congr_left uniform)

/-! ## The whole result -/

/-- A result of a death: one entry for each player that takes part, by id, with what was logged of
it. -/
structure BalancedResult [DoubleArith R] (death : CombatEvent) (s : GameSession R)
    (result : MatchResult) : Prop where
  ascending : (result.playerStats.map PlayerMatchStats.playerId).Pairwise (· < ·)
  players : ∀ playerId, playerId ∈ result.playerStats.map PlayerMatchStats.playerId ↔
    (∃ state ∈ s.snapshot, state.playerId = playerId) ∨
    (∃ event ∈ s.combatLogSnapshot, event.tick ≤ death.tick ∧
      (event.shooterId = playerId ∨ event.targetId = playerId)) ∨
    playerId = death.shooterId ∨ playerId = death.targetId
  balance : (result.playerStats.map PlayerMatchStats.damageDealt).sum =
    (result.playerStats.map PlayerMatchStats.damageTaken).sum
  dealt : (result.playerStats.map PlayerMatchStats.damageDealt).sum =
    ((loggedHits death s).map damageOf).sum
  dealtInRun : ∀ trace, GameSession.Runs trace s →
    ((result.playerStats.map PlayerMatchStats.damageDealt).sum : Int) =
      ((loggedHits death s).map CombatEvent.damage).sum
  winner : ∃ stats ∈ result.playerStats, stats.playerId = death.shooterId ∧ 1 ≤ stats.kills
  loser : ∃ stats ∈ result.playerStats, stats.playerId = death.targetId ∧ 1 ≤ stats.deaths

/-- Every result that `Collect` makes has this shape. -/
theorem collect_balanced [DoubleArith R] (death : CombatEvent) (s : GameSession R) (completedAt : Int) :
    BalancedResult death s (collect death s completedAt) := by
  refine ⟨playerStats_ascending completedAt, ?_, ?_, sum_damageDealt completedAt, ?_, ?_, ?_⟩
  · intro playerId
    rw [mem_playerIds, takesPart_iff]
  · rw [sum_damageDealt, sum_damageTaken]
  · intro trace run
    rw [sum_damageDealt, sum_damageOf run]
  · have part : takesPart death s death.shooterId = true := by simp [takesPart]
    refine ⟨_, toStats_mem part, rfl, ?_⟩
    simp [RunningTotals.toStats, totalsFor]
  · have part : takesPart death s death.targetId = true := by simp [takesPart]
    refine ⟨_, toStats_mem part, rfl, ?_⟩
    simp only [RunningTotals.toStats, totalsFor, beq_self_eq_true, Bool.or_true, Bool.toNat_true]
    split_ifs <;> omega

end MatchStatsCollector

end Arena60
