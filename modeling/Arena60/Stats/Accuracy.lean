import Arena60.Game.Presence
import Arena60.Stats.MatchTotals
import Arena60.Stats.ProfileTotals
import Mathlib.Algebra.Order.Field.Basic
import Mathlib.Algebra.Order.Ring.Rat

/-!
# No accuracy above one

A session makes no projectile hit twice and loses none, so that nobody has more hits than
shots; neither has anybody in a match result or in a profile.
-/

namespace Arena60

open Misc GameSession MatchStatsCollector PlayerProfileService

universe u

/-- Where the projectiles of a session are and whom they count for. -/
structure ProjectilesConserved {R : Type u} (trace : List SessionItem) (s : GameSession R) :
    Prop where
  active : ∀ projectile ∈ s.projectiles, projectile.active = true
  distinct : (s.projectiles.map Projectile.id).Nodup
  owners : ∀ projectile ∈ s.projectiles, s.players.contains projectile.ownerId = true
  shooterFound : ∀ hit older, .combat hit :: older <:+ trace → isPresent hit.shooterId older = true
  hitsOnce : (hitIds trace).Nodup
  foreign : ∀ hit ∈ hitEvents trace, hit.shooterId ≠ hit.targetId
  conserved : s.projectilesSpawnedTotal = s.projectilesHitsTotal + s.projectiles.length +
    (expiredIds trace).length + (droppedIds trace).length
  shots : ∀ playerId runtime, s.players.find playerId = some runtime →
    ShotAccount playerId runtime trace s.projectiles

section ledger

variable {R : Type u} {trace : List SessionItem} {s : GameSession R}

/-- Every projectile made is in exactly one place. -/
theorem ProjectileLedger.perm (ledger : ProjectileLedger trace s) :
    (spawnedIds trace).Perm
      (hitIds trace ++ s.live.map Projectile.id ++ expiredIds trace ++ droppedIds trace) := by
  rw [List.perm_iff_count]
  intro id
  rw [List.count_append, List.count_append, List.count_append]
  exact ledger.balance id

theorem ProjectileLedger.conserved (ledger : ProjectileLedger trace s)
    (combat : CombatLedger trace s) (presence : PresenceLedger trace s)
    (settled : ∀ projectile ∈ s.projectiles, projectile.active = true) :
    ProjectilesConserved trace s := by
  have live := live_of_settled settled
  have places := ledger.perm
  have distinct := places.nodup_iff.mp ledger.distinct
  rw [live] at places distinct
  have earlier := (List.nodup_append.mp (List.nodup_append.mp distinct).1).1
  constructor
  · exact settled
  · exact (List.nodup_append.mp earlier).2.1
  · exact live ▸ ledger.owners
  · exact fun hit older suffix =>
      presence.found _ older suffix hit.shooterId List.mem_cons_self
  · exact (List.nodup_append.mp earlier).1
  · exact ledger.foreign
  · have total := places.length_eq
    rw [List.length_append, List.length_append, List.length_append, List.length_map] at total
    rw [ledger.spawned, combat.hits, total, hitIds, List.length_map]
  · exact live ▸ ledger.shots

end ledger

/-! ## Results and profiles -/

section bound

variable {R : Type u} [DoubleArith R] {trace : List SessionItem} {s : GameSession R}

omit [DoubleArith R] in
/-- The entry that `Collect` begins with is that of a player of the session. -/
theorem firstEntry_cases (s : GameSession R) (playerId : String) :
    firstEntry s playerId = { playerId } ∨
      ∃ key runtime, s.players.find key = some runtime ∧
        firstEntry s playerId = snapshotEntry runtime.state := by
  unfold firstEntry
  cases found : s.snapshot.find? fun state => state.playerId == playerId with
  | none => exact Or.inl rfl
  | some state =>
      obtain ⟨⟨key, runtime⟩, member, rfl⟩ := List.mem_map.mp (List.mem_of_find?_eq_some found)
      exact Or.inr ⟨key, runtime, (s.players.find_eq_some_iff key runtime).mpr member, rfl⟩

/-- Nobody has more hits than shots in a result. -/
theorem playerStats_bound (run : GameSession.Runs trace s) (death : CombatEvent) (completedAt : Int)
    {stats : PlayerMatchStats} (listed : stats ∈ (collect death s completedAt).playerStats) :
    stats.hitsLanded ≤ stats.shotsFired := by
  obtain ⟨-, same⟩ := (mem_playerStats death s).mp listed
  rw [same]
  show (firstEntry s stats.playerId).hitsLanded ≤ (firstEntry s stats.playerId).shotsFired
  rcases firstEntry_cases s stats.playerId with none | ⟨key, runtime, present, entry⟩
  · rw [none]
  · have account := (MoveRuns.projectileLedger (Runs.byMoves run).1).shots key runtime present
    have bound := account.accuracy
    rw [entry]
    show runtime.state.hitsLanded ≤ runtime.state.shotsFired
    rw [account.shownHits, account.shownShots]
    omega

/-- A result that was collected from a session some run reaches. -/
def Collected (R : Type u) [DoubleArith R] (result : MatchResult) : Prop :=
  ∃ trace, ∃ s : GameSession R, GameSession.Runs trace s ∧
    ∃ death completedAt, result = collect death s completedAt

end bound

theorem sumFor_le_sumFor {playerId : String} {field field' : PlayerMatchStats → Nat}
    {stats : List PlayerMatchStats} (below : ∀ entry ∈ stats, field entry ≤ field' entry) :
    sumFor playerId field stats ≤ sumFor playerId field' stats := by
  apply List.sum_le_sum
  intro entry member
  split
  · exact below entry member
  · exact Nat.le_refl 0

theorem totalFor_le_totalFor {playerId : String} {field field' : PlayerMatchStats → Nat}
    {results : List MatchResult}
    (below : ∀ result ∈ results, ∀ entry ∈ result.playerStats, field entry ≤ field' entry) :
    totalFor playerId field results ≤ totalFor playerId field' results :=
  List.sum_le_sum fun result member => sumFor_le_sumFor (below result member)

/-- In exact arithmetic an accuracy is at most one when the hits are among the shots. -/
theorem accuracyOf_le_one {hitsLanded shotsFired : Nat} (bound : hitsLanded ≤ shotsFired) :
    accuracyOf ℚ hitsLanded shotsFired ≤ 1 := by
  unfold accuracyOf
  split
  · exact zero_le_one
  · exact div_le_one_of_le₀ (Nat.cast_le.mpr bound) (Nat.cast_nonneg _)

section profiles

variable {R : Type u} [DoubleConversions R]

/-- Nobody has more hits than shots in a profile made from collected results. -/
theorem profile_bound {results : List MatchResult} (collected : ∀ result ∈ results, Collected R result)
    {leaderboard : Option InMemoryLeaderboardStore} {playerId : String} {profile : PlayerProfile}
    (found : (results.foldl (recordMatch R) (.new leaderboard)).getProfile playerId = some profile) :
    profile.hitsLanded ≤ profile.shotsFired := by
  obtain ⟨rating, shown⟩ := getProfile_foldl R leaderboard results playerId
  rw [shown] at found
  split at found
  · cases found
    show 0 + totalFor playerId _ results ≤ 0 + totalFor playerId _ results
    rw [Nat.zero_add, Nat.zero_add]
    refine totalFor_le_totalFor fun result member entry listed => ?_
    obtain ⟨trace, s, run, death, completedAt, rfl⟩ := collected result member
    exact playerStats_bound run death completedAt listed
  · cases found

/-- Projectiles are conserved in every run, and no accuracy exceeds one. -/
theorem projectile_conservation {trace : List SessionItem} {s : GameSession R}
    (run : GameSession.Runs trace s) :
    ProjectilesConserved trace s ∧
    (∀ death completedAt, ∀ stats ∈ (collect death s completedAt).playerStats,
      stats.hitsLanded ≤ stats.shotsFired ∧ stats.accuracy ℚ ≤ 1) ∧
    (∀ results : List MatchResult, (∀ result ∈ results, Collected R result) →
      ∀ leaderboard playerId profile,
        (results.foldl (recordMatch R) (.new leaderboard)).getProfile playerId = some profile →
        profile.hitsLanded ≤ profile.shotsFired ∧ profile.accuracy ℚ ≤ 1) := by
  obtain ⟨moves, settled⟩ := Runs.byMoves run
  refine ⟨?_, ?_, ?_⟩
  · exact (MoveRuns.projectileLedger moves).conserved (MoveRuns.combatLedger moves)
      (MoveRuns.presenceLedger moves) settled
  · intro death completedAt stats listed
    have bound := playerStats_bound run death completedAt listed
    exact ⟨bound, accuracyOf_le_one bound⟩
  · intro results collected leaderboard playerId profile found
    have bound := profile_bound collected found
    exact ⟨bound, accuracyOf_le_one bound⟩

theorem projectile_conservation_fiveHits :
    ∃ trace, ∃ s : GameSession ℚ,
      (ProjectilesConserved trace s ∧
      (∀ death completedAt, ∀ stats ∈ (collect death s completedAt).playerStats,
        stats.hitsLanded ≤ stats.shotsFired ∧ stats.accuracy ℚ ≤ 1) ∧
      (∀ results : List MatchResult, (∀ result ∈ results, Collected ℚ result) →
        ∀ leaderboard playerId profile,
          (results.foldl (recordMatch ℚ) (.new leaderboard)).getProfile playerId = some profile →
          profile.hitsLanded ≤ profile.shotsFired ∧ profile.accuracy ℚ ≤ 1)) ∧
      s.projectilesSpawnedTotal = 5 ∧ hitIds trace = ["projectile-1", "projectile-2",
        "projectile-3", "projectile-4", "projectile-5"] := by
  have fresh : (GameSession.new : GameSession ℚ).Initial := rfl
  obtain ⟨trace, s, run, passed⟩ := exists_run_of_replay fiveHits
    (fun trace (s : GameSession ℚ) => decide (s.projectilesSpawnedTotal = 5) && decide (hitIds trace =
      ["projectile-1", "projectile-2", "projectile-3", "projectile-4", "projectile-5"])) fresh
    (show (replay GameSession.perform _ _).any _ = true by decide +kernel)
  simp only [Bool.and_eq_true, decide_eq_true_eq] at passed
  exact ⟨trace, s, projectile_conservation run, passed⟩

end profiles

end Arena60
