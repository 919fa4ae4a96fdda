import Arena60.Stats.ProfileTotals

/-!
# Totals of recorded results

What a fresh service knows after any list of results: its profiles are the sums over the entries of
the results, a result concerns nobody it does not mention, and only the ratings depend on the order.
-/

namespace Arena60

open Misc

universe u

/-- A result mentions its winner, its loser and everybody with an entry. -/
def MatchResult.Mentions (playerId : String) (result : MatchResult) : Prop :=
  playerId = result.winnerId ∨ playerId = result.loserId ∨
    ∃ entry ∈ result.playerStats, entry.playerId = playerId

/-- The entries of a player in some results. -/
def entriesOf (playerId : String) (results : List MatchResult) : List PlayerMatchStats :=
  (results.flatMap MatchResult.playerStats).filter fun entry => entry.playerId == playerId

/-- A profile without its rating. -/
def PlayerProfile.withoutRating (profile : PlayerProfile) : PlayerProfile :=
  { profile with rating := 0 }

namespace PlayerProfileService

/-- The lines of `MetricsSnapshot`. -/
def metricsLines (profiles entries matchesRecorded ratingUpdates : Nat) : String :=
  "# TYPE player_profiles_total gauge\n" ++
  "player_profiles_total " ++ toString profiles ++ "\n" ++
  "# TYPE leaderboard_entries_total gauge\n" ++
  "leaderboard_entries_total " ++ toString entries ++ "\n" ++
  "# TYPE matches_recorded_total counter\n" ++
  "matches_recorded_total " ++ toString matchesRecorded ++ "\n" ++
  "# TYPE rating_updates_total counter\n" ++
  "rating_updates_total " ++ toString ratingUpdates ++ "\n"

/-- `PlayerProfileService::MetricsSnapshot`. -/
def metricsSnapshot (service : PlayerProfileService) : String :=
  metricsLines service.aggregates.size service.leaderboardEntriesTotal service.matchesRecordedTotal
    service.ratingUpdatesTotal

theorem concerns_iff {playerId : String} {result : MatchResult} :
    concerns playerId result = true ↔ result.Mentions playerId := by
  simp only [concerns, MatchResult.Mentions, Bool.or_eq_true, List.any_eq_true, beq_iff_eq]
  constructor
  · rintro ((entry | winner) | loser)
    · exact Or.inr (Or.inr entry)
    · exact Or.inl winner
    · exact Or.inr (Or.inl loser)
  · rintro (winner | loser | entry)
    · exact Or.inl (Or.inr winner)
    · exact Or.inr loser
    · exact Or.inl (Or.inl entry)

/-! ## Sums over the entries -/

theorem sumFor_eq (playerId : String) (field : PlayerMatchStats → Nat) (stats : List PlayerMatchStats) :
    sumFor playerId field stats =
      ((stats.filter fun entry => entry.playerId == playerId).map field).sum := by
  rw [sumFor]
  induction stats with
  | nil => rfl
  | cons entry stats ih =>
      rw [List.map_cons, List.sum_cons, ih, List.filter_cons]
      by_cases asked : entry.playerId = playerId
      · simp [asked]
      · simp [asked]

theorem totalFor_eq (playerId : String) (field : PlayerMatchStats → Nat) (results : List MatchResult) :
    totalFor playerId field results = ((entriesOf playerId results).map field).sum := by
  rw [totalFor, entriesOf]
  induction results with
  | nil => rfl
  | cons result results ih =>
      rw [List.map_cons, List.sum_cons, ih, sumFor_eq, List.flatMap_cons, List.filter_append,
        List.map_append, List.sum_append]

theorem totalFor_one (playerId : String) (results : List MatchResult) :
    totalFor playerId (fun _ => 1) results = (entriesOf playerId results).length := by
  rw [totalFor_eq]
  induction entriesOf playerId results with
  | nil => rfl
  | cons entry entries ih =>
      rw [List.map_cons, List.sum_cons, ih, List.length_cons, Nat.add_comm]

/-! ## One result -/

section step

variable (R : Type u) [DoubleConversions R]

theorem addStats_find {playerId : String} {stats : List PlayerMatchStats}
    (absent : ∀ entry ∈ stats, entry.playerId ≠ playerId) (aggregates : UnorderedMap String AggregateStats) :
    (stats.foldl addStats aggregates).find playerId = aggregates.find playerId := by
  induction stats generalizing aggregates with
  | nil => rfl
  | cons entry stats ih =>
      obtain ⟨other, rest⟩ := List.forall_mem_cons.mp absent
      rw [List.foldl_cons, ih rest, addStats, UnorderedMap.find_upsert, if_neg (Ne.symm other)]

/-- A result leaves the element of everybody else as it is. -/
theorem recordMatch_find (service : PlayerProfileService) {result : MatchResult} {playerId : String}
    (unmentioned : ¬result.Mentions playerId) :
    (service.recordMatch R result).aggregates.find playerId = service.aggregates.find playerId := by
  simp only [MatchResult.Mentions, not_or, not_exists, not_and] at unmentioned
  obtain ⟨notWinner, notLoser, noEntry⟩ := unmentioned
  simp only [recordMatch, UnorderedMap.find_adjust, UnorderedMap.find_upsert, if_neg notWinner,
    if_neg notLoser]
  exact addStats_find noEntry service.aggregates

theorem recordMatch_getProfile (service : PlayerProfileService) {result : MatchResult} {playerId : String}
    (unmentioned : ¬result.Mentions playerId) :
    (service.recordMatch R result).getProfile playerId = service.getProfile playerId := by
  rw [getProfile, recordMatch_find R service unmentioned, getProfile]

theorem foldl_recordMatch_counts (results : List MatchResult) (service : PlayerProfileService) :
    (results.foldl (recordMatch R) service).matchesRecordedTotal =
        service.matchesRecordedTotal + results.length ∧
      (results.foldl (recordMatch R) service).ratingUpdatesTotal =
        service.ratingUpdatesTotal + 2 * results.length := by
  induction results generalizing service with
  | nil => exact ⟨rfl, rfl⟩
  | cons result results ih =>
      obtain ⟨recorded, updates⟩ := ih (service.recordMatch R result)
      rw [List.foldl_cons, recorded, updates, List.length_cons]
      simp only [recordMatch]
      omega

end step

/-! ## Lists of results -/

/-- The profile of a player is the sum over its entries in some results. -/
structure SumsUp (playerId : String) (results : List MatchResult) (profile : PlayerProfile) : Prop where
  name : profile.playerId = playerId
  matchesPlayed : profile.matchesPlayed = (entriesOf playerId results).length
  wins : profile.wins = results.countP fun result => result.winnerId == playerId
  losses : profile.losses = results.countP fun result => result.loserId == playerId
  kills : profile.kills = ((entriesOf playerId results).map PlayerMatchStats.kills).sum
  deaths : profile.deaths = ((entriesOf playerId results).map PlayerMatchStats.deaths).sum
  shotsFired : profile.shotsFired = ((entriesOf playerId results).map PlayerMatchStats.shotsFired).sum
  hitsLanded : profile.hitsLanded = ((entriesOf playerId results).map PlayerMatchStats.hitsLanded).sum
  damageDealt : profile.damageDealt = ((entriesOf playerId results).map PlayerMatchStats.damageDealt).sum
  damageTaken : profile.damageTaken = ((entriesOf playerId results).map PlayerMatchStats.damageTaken).sum

/-- Apart from the rating, a sum of results is one profile. -/
theorem SumsUp.withoutRating_eq {playerId : String} {results : List MatchResult}
    {profile profile' : PlayerProfile} (sums : SumsUp playerId results profile)
    (sums' : SumsUp playerId results profile') : profile.withoutRating = profile'.withoutRating := by
  simp only [PlayerProfile.withoutRating, sums.name, sums.matchesPlayed, sums.wins, sums.losses, sums.kills,
    sums.deaths, sums.shotsFired, sums.hitsLanded, sums.damageDealt, sums.damageTaken, sums'.name,
    sums'.matchesPlayed, sums'.wins, sums'.losses, sums'.kills, sums'.deaths, sums'.shotsFired, sums'.hitsLanded,
    sums'.damageDealt, sums'.damageTaken]

theorem SumsUp.perm {playerId : String} {results results' : List MatchResult} {profile : PlayerProfile}
    (sums : SumsUp playerId results profile) (perm : results.Perm results') :
    SumsUp playerId results' profile := by
  have entries : (entriesOf playerId results).Perm (entriesOf playerId results') :=
    (perm.flatMap_right _).filter _
  have total : ∀ field : PlayerMatchStats → Nat, ((entriesOf playerId results).map field).sum =
      ((entriesOf playerId results').map field).sum := fun field => (entries.map field).sum_eq
  exact ⟨sums.name, sums.matchesPlayed.trans entries.length_eq, sums.wins.trans (perm.countP_eq _),
    sums.losses.trans (perm.countP_eq _), sums.kills.trans (total _), sums.deaths.trans (total _),
    sums.shotsFired.trans (total _), sums.hitsLanded.trans (total _), sums.damageDealt.trans (total _),
    sums.damageTaken.trans (total _)⟩

section recorded

variable (R : Type u) [DoubleConversions R] (leaderboard : Option InMemoryLeaderboardStore)

/-- A fresh service after some results were recorded. -/
def after (results : List MatchResult) : PlayerProfileService :=
  results.foldl (recordMatch R) (new leaderboard)

theorem getProfile_isSome_iff (results : List MatchResult) (playerId : String) :
    ((after R leaderboard results).getProfile playerId).isSome = true ↔
      ∃ result ∈ results, result.Mentions playerId := by
  obtain ⟨rating, profile⟩ := getProfile_foldl R leaderboard results playerId
  have mentioned : results.any (concerns playerId) = true ↔ ∃ result ∈ results, result.Mentions playerId := by
    simp only [List.any_eq_true, concerns_iff]
  rw [after, profile, ← mentioned]
  split_ifs with known
  · simp [known]
  · simp [known]

theorem sumsUp_getProfile (results : List MatchResult) {playerId : String} {profile : PlayerProfile}
    (found : (after R leaderboard results).getProfile playerId = some profile) :
    SumsUp playerId results profile := by
  obtain ⟨rating, recorded⟩ := getProfile_foldl R leaderboard results playerId
  rw [after, recorded] at found
  split_ifs at found
  cases found
  constructor <;>
    simp only [buildProfileUnsafe, recordedAll, Nat.zero_add, ← totalFor_one, ← totalFor_eq,
      Bool.beq_comm (a := playerId)]

/-- What a service knows after it recorded a list of results. -/
structure RecordedTotals (results : List MatchResult) (service : PlayerProfileService) : Prop where
  known : ∀ playerId, (service.getProfile playerId).isSome = true ↔
    ∃ result ∈ results, result.Mentions playerId
  sums : ∀ playerId profile, service.getProfile playerId = some profile → SumsUp playerId results profile
  matchesRecorded : service.matchesRecordedTotal = results.length
  ratingUpdates : service.ratingUpdatesTotal = 2 * results.length
  metrics : service.metricsSnapshot = metricsLines service.aggregates.size
    service.leaderboardEntriesTotal results.length (2 * results.length)

theorem recordedTotals_after (results : List MatchResult) :
    RecordedTotals results (after R leaderboard results) := by
  obtain ⟨recorded, updates⟩ := foldl_recordMatch_counts R results (new leaderboard)
  have recorded' : (after R leaderboard results).matchesRecordedTotal = results.length :=
    recorded.trans (Nat.zero_add _)
  have updates' : (after R leaderboard results).ratingUpdatesTotal = 2 * results.length :=
    updates.trans (Nat.zero_add _)
  refine ⟨getProfile_isSome_iff R leaderboard results, ?_, recorded', updates', ?_⟩
  · intro playerId profile found
    exact sumsUp_getProfile R leaderboard results found
  · rw [metricsSnapshot, recorded', updates']

/-- The order of the results shows in the ratings only. -/
theorem getProfile_perm {results results' : List MatchResult} (perm : results.Perm results')
    (playerId : String) :
    ((after R leaderboard results).getProfile playerId).map PlayerProfile.withoutRating =
      ((after R leaderboard results').getProfile playerId).map PlayerProfile.withoutRating := by
  have known : ((after R leaderboard results).getProfile playerId).isSome = true ↔
      ((after R leaderboard results').getProfile playerId).isSome = true := by
    simp only [getProfile_isSome_iff, perm.mem_iff]
  cases found : (after R leaderboard results).getProfile playerId with
  | none =>
      cases found' : (after R leaderboard results').getProfile playerId with
      | none => rfl
      | some profile' => simp [found, found'] at known
  | some profile =>
      cases found' : (after R leaderboard results').getProfile playerId with
      | none => simp [found, found'] at known
      | some profile' =>
          have sums := (sumsUp_getProfile R leaderboard results found).perm perm
          have sums' := sumsUp_getProfile R leaderboard results' found'
          exact congrArg some (sums.withoutRating_eq sums')

/-- The totals of a fresh service are the sums over the results it recorded, in any order; a result
changes nothing of a player that it does not mention. -/
theorem recordMatch_totals (results : List MatchResult) :
    RecordedTotals results (after R leaderboard results) ∧
    (∀ (service : PlayerProfileService) result playerId, ¬result.Mentions playerId →
      (service.recordMatch R result).getProfile playerId = service.getProfile playerId) ∧
    ∀ results', results.Perm results' → ∀ playerId,
      ((after R leaderboard results).getProfile playerId).map PlayerProfile.withoutRating =
        ((after R leaderboard results').getProfile playerId).map PlayerProfile.withoutRating := by
  refine ⟨recordedTotals_after R leaderboard results, ?_, ?_⟩
  · intro service result playerId unmentioned
    exact recordMatch_getProfile R service unmentioned
  · intro results' perm playerId
    exact getProfile_perm R leaderboard perm playerId

end recorded

end PlayerProfileService

end Arena60
