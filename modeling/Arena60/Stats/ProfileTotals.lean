import Arena60.Misc.Sums
import Arena60.Stats.PlayerProfileService

/-!
# What the profiles add up to

After any sequence of recorded results the counters of a player are the sums over its
entries in them, whatever the ratings are.
-/

namespace Arena60

open Misc

universe u

namespace PlayerProfileService

/-- The sum of a number over a player's entries. -/
def sumFor (playerId : String) (field : PlayerMatchStats → Nat) (stats : List PlayerMatchStats) : Nat :=
  (stats.map fun entry => if entry.playerId = playerId then field entry else 0).sum

theorem sumFor_of_absent {playerId : String} {stats : List PlayerMatchStats}
    (absent : ∀ entry ∈ stats, entry.playerId ≠ playerId) (field : PlayerMatchStats → Nat) :
    sumFor playerId field stats = 0 := by
  apply List.sum_eq_zero
  intro summand member
  obtain ⟨entry, listed, rfl⟩ := List.mem_map.mp member
  exact if_neg (absent entry listed)

/-- A player with one entry. -/
theorem sumFor_of_mem {entry : PlayerMatchStats} {stats : List PlayerMatchStats}
    (distinct : (stats.map PlayerMatchStats.playerId).Nodup) (listed : entry ∈ stats)
    (field : PlayerMatchStats → Nat) : sumFor entry.playerId field stats = field entry := by
  induction stats with
  | nil => cases listed
  | cons first stats ih =>
      obtain ⟨fresh, rest⟩ := List.nodup_cons.mp distinct
      rw [sumFor, List.map_cons, List.sum_cons, ← sumFor]
      rcases List.mem_cons.mp listed with rfl | later
      · have absent : ∀ other ∈ stats, other.playerId ≠ entry.playerId := fun other member same =>
          fresh (List.mem_map.mpr ⟨other, member, same⟩)
        rw [if_pos rfl, sumFor_of_absent absent, Nat.add_zero]
      · have other : first.playerId ≠ entry.playerId := fun same =>
          fresh (List.mem_map.mpr ⟨entry, later, same.symm⟩)
        rw [if_neg other, ih rest later, Nat.zero_add]

/-- An aggregate after `stats` were added to it. -/
def addAll (playerId : String) (aggregate : AggregateStats) (stats : List PlayerMatchStats) :
    AggregateStats :=
  { aggregate with
    matchesPlayed := aggregate.matchesPlayed + sumFor playerId (fun _ => 1) stats
    shotsFired := aggregate.shotsFired + sumFor playerId PlayerMatchStats.shotsFired stats
    hitsLanded := aggregate.hitsLanded + sumFor playerId PlayerMatchStats.hitsLanded stats
    damageDealt := aggregate.damageDealt + sumFor playerId PlayerMatchStats.damageDealt stats
    damageTaken := aggregate.damageTaken + sumFor playerId PlayerMatchStats.damageTaken stats
    kills := aggregate.kills + sumFor playerId PlayerMatchStats.kills stats
    deaths := aggregate.deaths + sumFor playerId PlayerMatchStats.deaths stats }

/-- Two aggregates that differ at most in the rating. -/
def SameCounters (aggregate aggregate' : AggregateStats) : Prop :=
  aggregate' = { aggregate with rating := aggregate'.rating }

section aggregates

variable {aggregates : UnorderedMap String AggregateStats} {playerId : String}

theorem aggregateOf_upsert (changed : String) (f : AggregateStats → AggregateStats) :
    aggregateOf (aggregates.upsert changed {} f) playerId =
      if playerId = changed then f (aggregateOf aggregates playerId)
      else aggregateOf aggregates playerId := by
  exact aggregates.getD_find_upsert changed playerId (fun _ => {}) f

theorem sameCounters_adjust (changed : String) (rating : Int) :
    SameCounters (aggregateOf aggregates playerId)
      (aggregateOf (aggregates.adjust changed fun aggregate => { aggregate with rating }) playerId) := by
  unfold SameCounters aggregateOf
  rw [UnorderedMap.find_adjust]
  split_ifs
  · cases aggregates.find playerId <;> rfl
  · rfl

theorem SameCounters.trans {first second third : AggregateStats} (same : SameCounters first second)
    (same' : SameCounters second third) : SameCounters first third := by
  unfold SameCounters at same same' ⊢
  rw [same', same]

theorem foldl_addStats (playerId : String) (stats : List PlayerMatchStats) :
    ∀ aggregates : UnorderedMap String AggregateStats,
      aggregateOf (stats.foldl addStats aggregates) playerId =
        addAll playerId (aggregateOf aggregates playerId) stats ∧
      (stats.foldl addStats aggregates).contains playerId =
        ((stats.any fun entry => entry.playerId == playerId) || aggregates.contains playerId) := by
  induction stats with
  | nil => exact fun aggregates => ⟨rfl, rfl⟩
  | cons entry stats ih =>
      intro aggregates
      obtain ⟨sums, present⟩ := ih (addStats aggregates entry)
      rw [List.foldl_cons, sums, present, addStats, aggregateOf_upsert,
        UnorderedMap.contains_upsert]
      by_cases asked : playerId = entry.playerId
      · subst asked
        simp [addAll, sumFor, Nat.add_assoc]
      · have other : (entry.playerId == playerId) = false := beq_false_of_ne (Ne.symm asked)
        have other' : (playerId == entry.playerId) = false := beq_false_of_ne asked
        simp [addAll, sumFor, asked, Ne.symm asked, other, other']

end aggregates

/-- The counters of a player after a result was recorded. -/
def recorded (playerId : String) (aggregate : AggregateStats) (result : MatchResult) :
    AggregateStats :=
  { addAll playerId aggregate result.playerStats with
    wins := aggregate.wins + (playerId == result.winnerId).toNat
    losses := aggregate.losses + (playerId == result.loserId).toNat }

/-- Whether a result is about a player. -/
def concerns (playerId : String) (result : MatchResult) : Bool :=
  (result.playerStats.any fun entry => entry.playerId == playerId) ||
    playerId == result.winnerId || playerId == result.loserId

variable (R : Type u) [DoubleConversions R]

theorem recordMatch_counters (service : PlayerProfileService) (result : MatchResult)
    (playerId : String) :
    SameCounters (recorded playerId (aggregateOf service.aggregates playerId) result)
      (aggregateOf (service.recordMatch R result).aggregates playerId) := by
  refine SameCounters.trans ?_
    ((sameCounters_adjust result.winnerId _).trans (sameCounters_adjust result.loserId _))
  rw [aggregateOf_upsert, aggregateOf_upsert, (foldl_addStats playerId _ _).1]
  simp only [SameCounters, recorded, addAll, toNat_beq]
  split_ifs <;> rfl

theorem recordMatch_known (service : PlayerProfileService) (result : MatchResult)
    (playerId : String) :
    (service.recordMatch R result).aggregates.contains playerId =
      (concerns playerId result || service.aggregates.contains playerId) := by
  unfold recordMatch concerns
  simp only [UnorderedMap.contains_adjust, UnorderedMap.contains_upsert, (foldl_addStats playerId _ _).2]
  cases playerId == result.winnerId <;> cases playerId == result.loserId <;> simp

/-! ## Sequences of results -/

/-- The sum of a number over a player's entries in all results. -/
def totalFor (playerId : String) (field : PlayerMatchStats → Nat) (results : List MatchResult) : Nat :=
  (results.map fun result => sumFor playerId field result.playerStats).sum

/-- The counters of a player after results were recorded. -/
def recordedAll (playerId : String) (aggregate : AggregateStats) (results : List MatchResult) :
    AggregateStats :=
  { aggregate with
    matchesPlayed := aggregate.matchesPlayed + totalFor playerId (fun _ => 1) results
    wins := aggregate.wins + results.countP fun result => playerId == result.winnerId
    losses := aggregate.losses + results.countP fun result => playerId == result.loserId
    kills := aggregate.kills + totalFor playerId PlayerMatchStats.kills results
    deaths := aggregate.deaths + totalFor playerId PlayerMatchStats.deaths results
    shotsFired := aggregate.shotsFired + totalFor playerId PlayerMatchStats.shotsFired results
    hitsLanded := aggregate.hitsLanded + totalFor playerId PlayerMatchStats.hitsLanded results
    damageDealt := aggregate.damageDealt + totalFor playerId PlayerMatchStats.damageDealt results
    damageTaken := aggregate.damageTaken + totalFor playerId PlayerMatchStats.damageTaken results }

theorem recordedAll_cons (playerId : String) (aggregate : AggregateStats) (result : MatchResult)
    (results : List MatchResult) :
    recordedAll playerId aggregate (result :: results) =
      recordedAll playerId (recorded playerId aggregate result) results := by
  simp only [recordedAll, recorded, addAll, totalFor, List.map_cons, List.sum_cons, List.countP_cons,
    Nat.add_assoc, toNat_beq, beq_iff_eq, Nat.add_comm (List.countP _ _)]

theorem SameCounters.recordedAll {aggregate aggregate' : AggregateStats} (playerId : String)
    (same : SameCounters aggregate aggregate') (results : List MatchResult) :
    SameCounters (recordedAll playerId aggregate results) (recordedAll playerId aggregate' results) := by
  unfold SameCounters at same ⊢
  rw [same]
  rfl

theorem foldl_recordMatch (playerId : String) (results : List MatchResult) :
    ∀ service : PlayerProfileService,
      SameCounters (recordedAll playerId (aggregateOf service.aggregates playerId) results)
        (aggregateOf (results.foldl (recordMatch R) service).aggregates playerId) ∧
      (results.foldl (recordMatch R) service).aggregates.contains playerId =
        (results.any (concerns playerId) || service.aggregates.contains playerId) := by
  induction results with
  | nil => exact fun service => ⟨rfl, rfl⟩
  | cons result results ih =>
      intro service
      obtain ⟨sums, present⟩ := ih (service.recordMatch R result)
      rw [List.foldl_cons]
      constructor
      · rw [recordedAll_cons]
        exact ((recordMatch_counters R service result playerId).recordedAll playerId results).trans sums
      · rw [present, recordMatch_known, List.any_cons]
        cases concerns playerId result <;> simp

/-- The profile of a player after results were recorded by a fresh service: there is one for
exactly those the results are about, and its counters are the sums over the results. -/
theorem getProfile_foldl (leaderboard : Option InMemoryLeaderboardStore) (results : List MatchResult)
    (playerId : String) :
    ∃ rating, (results.foldl (recordMatch R) (new leaderboard)).getProfile playerId =
      if results.any (concerns playerId) then
        some (buildProfileUnsafe playerId { recordedAll playerId {} results with rating })
      else none := by
  obtain ⟨sums, present⟩ := foldl_recordMatch R playerId results (new leaderboard)
  have fresh : (new leaderboard).aggregates.contains playerId = false := rfl
  rw [fresh, Bool.or_false] at present
  refine ⟨(aggregateOf (results.foldl (recordMatch R) (new leaderboard)).aggregates playerId).rating, ?_⟩
  rw [← present, getProfile]
  unfold SameCounters aggregateOf at sums
  unfold UnorderedMap.contains aggregateOf
  cases found : (results.foldl (recordMatch R) (new leaderboard)).aggregates.find playerId with
  | none => rfl
  | some aggregate =>
      rw [found] at sums
      exact congrArg (fun counters => some (buildProfileUnsafe playerId counters)) sums

end PlayerProfileService

end Arena60
