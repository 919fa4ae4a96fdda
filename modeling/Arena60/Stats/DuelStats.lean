import Arena60.Game.Duel
import Arena60.Stats.MatchTotals

/-!
# The result of a duel

In a duel the log holds everything that happened, so that what `Collect` replays from it
and what it reads from the live counters are counts over one and the same run.
-/

namespace Arena60

open Misc GameSession MatchStatsCollector

universe u

/-- The entry of a player and that of the other one, whose runtime is given, after a run. -/
structure DuelStats {R : Type u} (trace : List SessionItem) (stats others : PlayerMatchStats)
    (runtime : PlayerRuntimeState R) : Prop where
  shots : stats.shotsFired = spawnedBy stats.playerId trace
  hits : stats.hitsLanded = hitsBy stats.playerId trace
  dealt : stats.damageDealt = 20 * stats.hitsLanded
  taken : others.damageTaken = stats.damageDealt
  health : (stats.damageDealt : Int) = 100 - runtime.state.health
  kills : stats.kills = (!runtime.state.isAlive).toNat
  deaths : others.deaths = stats.kills

/-- What the result of a duel says about a run and the session it reached. -/
structure DuelResult {R : Type u} (a b : String) (trace : List SessionItem) (s : GameSession R)
    (death : CombatEvent) (result : MatchResult) : Prop where
  winner : result.winnerId = death.shooterId
  loser : result.loserId = death.targetId
  stats : ∃ statsA statsB runtimeA runtimeB,
    s.players.find a = some runtimeA ∧ s.players.find b = some runtimeB ∧
    result.playerStats.Perm [statsA, statsB] ∧ statsA.playerId = a ∧ statsB.playerId = b ∧
    DuelStats trace statsA statsB runtimeB ∧ DuelStats trace statsB statsA runtimeA
  winnerKills : ∀ stats ∈ result.playerStats, stats.playerId = death.shooterId → stats.kills = 1
  loserDamage : ∀ stats ∈ result.playerStats, stats.playerId = death.targetId →
    stats.damageTaken = 100

/-! ## What is replayed from the log -/

section log

variable {R : Type u} {events : List CombatEvent} {playerId : String}

/-- The damage of hits is twenty times their number. -/
theorem sum_damage (who : CombatEvent → String)
    (uniform : ∀ event ∈ events, event.type = .hit → event.damage = kDamagePerHit) :
    (events.map fun event =>
        if event.type = .hit ∧ playerId = who event then damageOf event else 0).sum =
      20 * events.countP fun event => event.type == .hit && who event == playerId := by
  induction events with
  | nil => rfl
  | cons event events ih =>
      have rest := ih fun other member => uniform other (List.mem_cons_of_mem _ member)
      rw [List.map_cons, List.sum_cons, rest, List.countP_cons]
      by_cases counted : event.type = .hit ∧ playerId = who event
      · obtain ⟨hit, about⟩ := counted
        have damage : damageOf event = 20 := by
          rw [damageOf, uniform event List.mem_cons_self hit]
          rfl
        have accepted : (event.type == .hit && who event == playerId) = true := by
          rw [hit, about, beq_self_eq_true, beq_self_eq_true, Bool.and_true]
        rw [if_pos ⟨hit, about⟩, if_pos accepted, damage]
        omega
      · have rejected : ¬ (event.type == .hit && who event == playerId) = true := by
          rw [Bool.and_eq_true, beq_iff_eq, beq_iff_eq]
          exact fun accepted => counted ⟨accepted.1, accepted.2.symm⟩
        rw [if_neg counted, if_neg rejected]
        omega

theorem killed_combatEvents (playerId : String) (trace : List SessionItem) :
    killed playerId (combatEvents trace) = decide (0 < deathsOf playerId trace) := by
  rw [deathsOf_eq, Bool.eq_iff_iff, decide_eq_true_iff, List.countP_pos_iff, killed, List.any_eq_true]
  simp only [Bool.and_eq_true, beq_iff_eq, eq_comm (a := playerId)]

end log

/-! ## The two entries -/

section duel

variable {R : Type u} [DoubleArith R] {trace : List SessionItem} {s : GameSession R}
  {a b playerId other : String} {death : CombatEvent}

theorem Duel.logged (duel : Duel a b trace) (run : GameSession.Runs trace s)
    (newest : ∀ tick ∈ ticks trace, tick ≤ death.tick) :
    MatchStatsCollector.logged death s = combatEvents trace := by
  rw [MatchStatsCollector.logged, duel.log run, List.filter_eq_self]
  intro event member
  have earlier := newest event.tick (Runs.stamped run event member).1
  rw [decide_eq_false (Nat.not_lt.mpr earlier), Bool.not_false]

/-- What one of the two kills are the deaths of the other. -/
theorem Duel.killsBy_eq (duel : Duel a b trace) (run : GameSession.Runs trace s)
    (opponents : Opponents a b playerId other) :
    killsBy playerId (combatEvents trace) = deathsOf other trace := by
  rw [deathsOf_eq, killsBy]
  apply List.countP_congr
  intro event member
  rw [Bool.and_eq_true, Bool.and_eq_true, beq_iff_eq, beq_iff_eq, beq_iff_eq,
    ← duel.shooter_iff run opponents member]
  exact and_congr_right fun _ => eq_comm

theorem Duel.exists_runtime (duel : Duel a b trace) (run : GameSession.Runs trace s)
    (opponents : Opponents a b playerId other) :
    ∃ runtime, s.players.find playerId = some runtime := by
  refine Option.isSome_iff_exists.mp ((duel.present run).mpr ?_)
  rcases opponents with ⟨one, -⟩ | ⟨one, -⟩
  · exact Or.inl one
  · exact Or.inr one

/-- Who dies in a duel was hit five times and dies once. -/
theorem Duel.died (duel : Duel a b trace) (run : GameSession.Runs trace s)
    (died : death ∈ deathEvents trace) :
    hitsOn death.targetId trace = 5 ∧ deathsOf death.targetId trace = 1 := by
  obtain ⟨listed, isDeath⟩ := List.mem_filter.mp died
  obtain ⟨runtime, present⟩ := duel.exists_runtime run (duel.opponents run listed).symm
  have once := (duel.duellist run present).died
  have counted : 0 < deathsOf death.targetId trace := by
    rw [deathsOf_eq, List.countP_pos_iff]
    exact ⟨death, listed, by rw [isDeath, beq_self_eq_true, Bool.and_true]⟩
  by_cases fifth : hitsOn death.targetId trace = 5
  · rw [if_pos fifth] at once
    exact ⟨fifth, once⟩
  · rw [if_neg fifth] at once
    omega

/-- The entry of one of the two in the result of a death, as counts over the run. -/
theorem Duel.totalsFor (duel : Duel a b trace) (run : GameSession.Runs trace s)
    (newest : ∀ tick ∈ ticks trace, tick ≤ death.tick) (died : death ∈ deathEvents trace)
    (opponents : Opponents a b playerId other) {runtime : PlayerRuntimeState R}
    (present : s.players.find playerId = some runtime) :
    MatchStatsCollector.totalsFor death s playerId =
      { playerId := playerId
        shotsFired := spawnedBy playerId trace
        hitsLanded := hitsBy playerId trace
        kills := deathsOf other trace
        deaths := deathsOf playerId trace
        damageDealt := 20 * hitsBy playerId trace
        damageTaken := 20 * hitsOn playerId trace } := by
  have duellist := duel.duellist run present
  have named := fun key runtime present =>
    (MoveRuns.accounts (Runs.byMoves run).1 key runtime present).named
  have first := (firstEntry_of_named s named playerId).1
  rw [present, Option.map_some, Option.getD_some] at first
  have uniform := fun event member => (Runs.stamped run event member).2
  have dealt : damageBy playerId (combatEvents trace) = 20 * hitsBy playerId trace := by
    rw [hitsBy_eq]
    exact sum_damage CombatEvent.shooterId uniform
  have taken : damageOn playerId (combatEvents trace) = 20 * hitsOn playerId trace := by
    rw [hitsOn_eq]
    exact sum_damage CombatEvent.targetId uniform
  have counted := (duel.died run died).2
  have kills : (if playerId = death.shooterId then max 1 (deathsOf other trace)
      else deathsOf other trace) = deathsOf other trace := by
    split
    · next won =>
        have listed := (List.mem_filter.mp died).1
        have lost := (duel.shooter_iff run opponents listed).mp won.symm
        rw [← lost, counted]
        rfl
    · rfl
  have deaths : (if runtime.state.deaths = 0 then
      (decide (0 < deathsOf playerId trace) || playerId == death.targetId).toNat
      else runtime.state.deaths) = deathsOf playerId trace := by
    rw [duellist.deaths]
    split
    · next none =>
        have notLost : (playerId == death.targetId) = false := by
          apply beq_false_of_ne
          rintro rfl
          omega
        rw [none, notLost]
        rfl
    · rfl
  rw [MatchStatsCollector.totalsFor, duel.logged run newest, first, duel.killsBy_eq run opponents,
    killed_combatEvents, dealt, taken]
  simp only [snapshotEntry, kills, deaths, duellist.shots, duellist.landed]

/-- Nobody but the two takes part. -/
theorem Duel.takesPart (duel : Duel a b trace) (run : GameSession.Runs trace s)
    (newest : ∀ tick ∈ ticks trace, tick ≤ death.tick) (died : death ∈ deathEvents trace) :
    MatchStatsCollector.takesPart death s playerId = true ↔ playerId = a ∨ playerId = b := by
  have named := fun key runtime present =>
    (MoveRuns.accounts (Runs.byMoves run).1 key runtime present).named
  have snapshot := (firstEntry_of_named s named playerId).2
  have either : ∀ event ∈ combatEvents trace, playerId = event.targetId ∨ playerId = event.shooterId →
      playerId = a ∨ playerId = b := by
    intro event member about
    rcases duel.opponents run member with ⟨shooter, target⟩ | ⟨shooter, target⟩ <;>
      rw [shooter, target] at about
    · exact about.symm
    · exact about
  rw [MatchStatsCollector.takesPart, duel.logged run newest, snapshot]
  constructor
  · intro part
    simp only [Bool.or_eq_true, beq_iff_eq] at part
    have listed := (List.mem_filter.mp died).1
    rcases part with ((won | lost) | mentioned) | present
    · exact either death listed (Or.inr won)
    · exact either death listed (Or.inl lost)
    · obtain ⟨event, member, about⟩ := List.any_eq_true.mp mentioned
      rw [Bool.or_eq_true, beq_iff_eq, beq_iff_eq] at about
      exact either event member about
    · exact (duel.present run).mp present
  · intro one
    rw [(duel.present run).mpr one, Bool.or_true]

/-- The entries of two opponents agree with each other and with the session. -/
theorem Duel.stats (duel : Duel a b trace) (run : GameSession.Runs trace s)
    (newest : ∀ tick ∈ ticks trace, tick ≤ death.tick) (died : death ∈ deathEvents trace)
    (opponents : Opponents a b playerId other) {runtime runtime' : PlayerRuntimeState R}
    (present : s.players.find playerId = some runtime)
    (otherPresent : s.players.find other = some runtime') (matchId : String) :
    DuelStats trace ((MatchStatsCollector.totalsFor death s playerId).toStats matchId)
      ((MatchStatsCollector.totalsFor death s other).toStats matchId) runtime' := by
  have duellist := duel.duellist run otherPresent
  have sameHits := duel.hitsBy_eq_hitsOn run opponents
  rw [duel.totalsFor run newest died opponents present,
    duel.totalsFor run newest died opponents.symm otherPresent]
  constructor
  · rfl
  · rfl
  · rfl
  · show 20 * hitsOn other trace = 20 * hitsBy playerId trace
    rw [sameHits]
  · show ((20 * hitsBy playerId trace : Nat) : Int) = 100 - runtime'.state.health
    rw [duellist.health, sameHits]
    omega
  · exact duellist.deathsOf_eq
  · rfl

/-- Everything that a result says in a duel. -/
theorem Duel.result (duel : Duel a b trace) (run : GameSession.Runs trace s)
    (newest : ∀ tick ∈ ticks trace, tick ≤ death.tick) (died : death ∈ deathEvents trace)
    (completedAt : Int) : DuelResult a b trace s death (collect death s completedAt) := by
  have opponents : Opponents a b a b := Or.inl ⟨rfl, rfl⟩
  obtain ⟨runtimeA, presentA⟩ := duel.exists_runtime run opponents
  obtain ⟨runtimeB, presentB⟩ := duel.exists_runtime run opponents.symm
  let entry (playerId : String) : PlayerMatchStats :=
    (MatchStatsCollector.totalsFor death s playerId).toStats (matchIdOf death)
  have listed : ∀ stats, stats ∈ (collect death s completedAt).playerStats ↔
      stats = entry a ∨ stats = entry b := by
    intro stats
    rw [mem_playerStats, duel.takesPart run newest died]
    constructor
    · rintro ⟨one, same⟩
      rcases one with one | one <;> rw [one] at same
      · exact Or.inl same
      · exact Or.inr same
    · intro one
      rcases one with rfl | rfl
      · exact ⟨Or.inl rfl, rfl⟩
      · exact ⟨Or.inr rfl, rfl⟩
  have perm : (collect death s completedAt).playerStats.Perm [entry a, entry b] := by
    have distinct : [entry a, entry b].Nodup := by
      rw [List.nodup_cons, List.mem_singleton]
      refine ⟨fun same => duel.different ?_, List.nodup_singleton _⟩
      exact congrArg PlayerMatchStats.playerId same
    rw [List.perm_ext_iff_of_nodup (playerStats_distinct death s completedAt).of_map distinct]
    intro stats
    rw [listed, List.mem_cons, List.mem_singleton]
  obtain ⟨fifth, dead⟩ := duel.died run died
  have fought := duel.opponents run (List.mem_filter.mp died).1
  obtain ⟨winner, winnerPresent⟩ := duel.exists_runtime run fought
  obtain ⟨loser, loserPresent⟩ := duel.exists_runtime run fought.symm
  constructor
  · rfl
  · rfl
  · exact ⟨entry a, entry b, runtimeA, runtimeB, presentA, presentB, perm, rfl, rfl,
      duel.stats run newest died opponents presentA presentB _,
      duel.stats run newest died opponents.symm presentB presentA _⟩
  · intro stats member won
    rw [((mem_playerStats death s).mp member).2, won,
      duel.totalsFor run newest died fought winnerPresent]
    exact dead
  · intro stats member lost
    rw [((mem_playerStats death s).mp member).2, lost,
      duel.totalsFor run newest died fought.symm loserPresent]
    show 20 * hitsOn death.targetId trace = 100
    rw [fifth]

/-- Every death of a duel that is consumed after the tick that made it has an exact result. -/
theorem duel_statistics {tick : Nat} {deltaSeconds : R} {items : List SessionItem}
    {deaths : List CombatEvent} {s' s'' : GameSession R} (run : GameSession.Runs trace s)
    (ticked : GameSession.perform (.tick tick deltaSeconds) s = some (items, s'))
    (consumed : GameSession.perform .consumeDeathEvents s' = some ([.consumed deaths], s''))
    (duel : Duel a b (items.reverse ++ trace)) (produced : .combat death ∈ items)
    (delivered : death ∈ deaths) (completedAt : Int) :
    DuelResult a b (items.reverse ++ trace) s'' death (collect death s'' completedAt) := by
  have run' : GameSession.Runs (items.reverse ++ trace) s' := .next run ⟨_, ticked⟩
  have newest := duel.newest ticked produced
  cases consumed
  have died := Runs.mem_deathEvents run' delivered
  -- consuming the deaths changes neither the players nor the log
  have result := duel.result run' newest died completedAt
  exact ⟨result.winner, result.loser, result.stats, result.winnerKills, result.loserDamage⟩

theorem duel_statistics_fiveHits :
    ∃ trace, ∃ s : GameSession ℚ, ∃ death,
      DuelResult "A" "B" trace s death (collect death s 0) ∧
      death = ⟨.death, "A", "B", "projectile-5", 0, 4⟩ ∧
      (collect death s 0).playerStats =
        [⟨"match-4-A-vs-B", "A", 5, 5, 1, 0, 100, 0⟩, ⟨"match-4-A-vs-B", "B", 0, 0, 0, 1, 0, 100⟩] := by
  have fresh : (GameSession.new : GameSession ℚ).Initial := rfl
  let death : CombatEvent := ⟨.death, "A", "B", "projectile-5", 0, 4⟩
  let last (s : GameSession ℚ) : List SessionItem :=
    .ticked 4 :: ((s.moveProjectiles (1 / 8)).expiredItems ++ (s.tick 4 (1 / 8)).2.map .combat)
  obtain ⟨trace, s, run, passed⟩ := exists_run_of_replay (fiveHits.take 12)
    (fun trace (s : GameSession ℚ) => decide (Duel "A" "B" ((last s).reverse ++ trace)) &&
      decide (.combat death ∈ last s) && decide (death ∈ (s.tick 4 (1 / 8)).1.pendingDeaths) &&
      decide ((collect death (s.tick 4 (1 / 8)).1.consumeDeathEvents.2 0).playerStats =
        [⟨"match-4-A-vs-B", "A", 5, 5, 1, 0, 100, 0⟩,
          ⟨"match-4-A-vs-B", "B", 0, 0, 0, 1, 0, 100⟩])) fresh
    (show (replay GameSession.perform _ _).any _ = true by decide +kernel)
  simp only [Bool.and_eq_true, decide_eq_true_eq] at passed
  obtain ⟨⟨⟨duel, produced⟩, delivered⟩, stats⟩ := passed
  exact ⟨_, _, death, duel_statistics run rfl rfl duel produced delivered 0, rfl, stats⟩

end duel

end Arena60
