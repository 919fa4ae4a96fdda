import Arena60.Misc.ExactArith
import Arena60.Stats.Leaderboard
import Arena60.Stats.ProfileTotals
import Mathlib.Data.Prod.Lex

/-!
# Who is on top

A service with a leaderboard answers from an index that only the winner and the loser of a
result are written to; one without sorts everybody it has counters for.
-/

namespace Arena60

open Misc

universe u

namespace PlayerProfileService

/-- Whether a player has won or lost one of the results. -/
def rated (results : List MatchResult) (playerId : String) : Bool :=
  results.any fun result => playerId == result.winnerId || playerId == result.loserId

/-- The order of the profiles. -/
def Outranks (lhs rhs : PlayerProfile) : Prop :=
  RanksBefore (lhs.playerId, lhs.rating) (rhs.playerId, rhs.rating)

/-- The leaderboard holds the current ratings of the players that are `rated`, and no others. -/
def Published (service : PlayerProfileService) (rated : String → Bool) : Prop :=
  ∃ store, service.leaderboard = some store ∧ store.Coherent ∧ ∀ playerId,
    (rated playerId = true → service.aggregates.contains playerId = true) ∧
    store.get playerId =
      if rated playerId = true then some (aggregateOf service.aggregates playerId).rating else none

section recording

variable (R : Type u) [DoubleConversions R]

theorem recordMatch_rating (service : PlayerProfileService) (result : MatchResult)
    (playerId : String) (notWinner : playerId ≠ result.winnerId)
    (notLoser : playerId ≠ result.loserId) :
    (aggregateOf (service.recordMatch R result).aggregates playerId).rating =
      (aggregateOf service.aggregates playerId).rating := by
  have untouched : ∀ (aggregates : UnorderedMap String AggregateStats) changed f,
      playerId ≠ changed →
        aggregateOf (aggregates.adjust changed f) playerId = aggregateOf aggregates playerId := by
    intro aggregates changed f other
    rw [aggregateOf, UnorderedMap.find_adjust, if_neg other, aggregateOf]
  unfold recordMatch
  dsimp only
  rw [untouched _ _ _ notLoser, untouched _ _ _ notWinner, aggregateOf_upsert, if_neg notLoser,
    aggregateOf_upsert, if_neg notWinner, (foldl_addStats playerId _ _).1]
  rfl

theorem recordMatch_leaderboard (service : PlayerProfileService) (result : MatchResult) :
    (service.recordMatch R result).leaderboard = service.leaderboard.map fun store =>
      (store.upsert result.winnerId
        (aggregateOf (service.recordMatch R result).aggregates result.winnerId).rating).upsert
          result.loserId
          (aggregateOf (service.recordMatch R result).aggregates result.loserId).rating :=
  rfl

theorem Published.recordMatch {service : PlayerProfileService} {results : List MatchResult}
    (published : service.Published (rated results)) (result : MatchResult) :
    (service.recordMatch R result).Published (rated (results ++ [result])) := by
  obtain ⟨store, present, coherent, stored⟩ := published
  refine ⟨_, (recordMatch_leaderboard R service result).trans (congrArg _ present),
    (coherent.upsert _ _).upsert _ _, ?_⟩
  intro playerId
  obtain ⟨known, score⟩ := stored playerId
  have rated_concat : rated (results ++ [result]) playerId =
      (rated results playerId || (playerId == result.winnerId || playerId == result.loserId)) := by
    simp [rated]
  rw [recordMatch_known, rated_concat, InMemoryLeaderboardStore.get_upsert,
    InMemoryLeaderboardStore.get_upsert, score]
  constructor
  · intro either
    rw [Bool.or_eq_true] at either ⊢
    cases either with
    | inl before => exact Or.inr (known before)
    | inr now =>
        left
        rw [concerns, Bool.or_assoc, now, Bool.or_true]
  · by_cases loser : playerId = result.loserId
    · subst loser
      simp
    · by_cases winner : playerId = result.winnerId
      · subst winner
        simp [loser]
      · rw [if_neg loser, if_neg winner, recordMatch_rating R service result playerId winner loser]
        simp [loser, winner]

theorem published_foldl (results : List MatchResult) :
    (results.foldl (recordMatch R) (new (some .new))).Published (rated results) := by
  induction results using List.reverseRecOn with
  | nil =>
      refine ⟨.new, rfl, InMemoryLeaderboardStore.coherent_new, fun playerId => ⟨nofun, rfl⟩⟩
  | append_singleton results result ih =>
      rw [List.foldl_concat]
      exact ih.recordMatch R result

/-- The leaderboard does not influence the counters and the ratings. -/
theorem foldl_recordMatch_aggregates (results : List MatchResult)
    (leaderboard leaderboard' : Option InMemoryLeaderboardStore) :
    (results.foldl (recordMatch R) (new leaderboard)).aggregates =
      (results.foldl (recordMatch R) (new leaderboard')).aggregates := by
  induction results using List.reverseRecOn with
  | nil => rfl
  | append_singleton results result ih =>
      rw [List.foldl_concat, List.foldl_concat, recordMatch, recordMatch, ih]

theorem foldl_recordMatch_noLeaderboard (results : List MatchResult) :
    (results.foldl (recordMatch R) (new none)).leaderboard = none := by
  induction results using List.reverseRecOn with
  | nil => rfl
  | append_singleton results result ih => rw [List.foldl_concat, recordMatch_leaderboard, ih, Option.map_none]

end recording

/-! ## The order of the answers -/

theorem ranksBefore_iff (lhs rhs : PlayerProfile) : ranksBefore lhs rhs = true ↔ Outranks lhs rhs := by
  unfold ranksBefore Outranks RanksBefore
  dsimp only
  split_ifs with differ
  · have unequal : ¬lhs.rating = rhs.rating := differ
    simp [unequal]
  · rw [not_not] at differ
    simp [differ]

/-- The order of the profiles as one of keys. -/
def rank (profile : PlayerProfile) : Lex (Intᵒᵈ × String) :=
  toLex (OrderDual.toDual profile.rating, profile.playerId)

theorem outranks_iff (lhs rhs : PlayerProfile) : Outranks lhs rhs ↔ rank lhs < rank rhs := by
  unfold Outranks RanksBefore rank
  rw [Prod.Lex.toLex_lt_toLex]
  rfl

theorem outranks_irrefl (profile : PlayerProfile) : ¬Outranks profile profile := by
  rw [outranks_iff]
  exact lt_irrefl _

theorem outranks_asymm {lhs rhs : PlayerProfile} (outranks : Outranks lhs rhs) :
    ¬Outranks rhs lhs := by
  rw [outranks_iff] at outranks ⊢
  exact lt_asymm outranks

instance : Std.Irrefl Outranks := ⟨outranks_irrefl⟩

instance : Std.Antisymm Outranks := 
  ⟨fun _ _ outranks outranks' => absurd outranks' (outranks_asymm outranks)⟩

/-- Profiles that are exactly those of the players in question, best first. -/
structure Ranks (service : PlayerProfileService) (asked : String → Bool)
    (profiles : List PlayerProfile) : Prop where
  ordered : profiles.Pairwise Outranks
  exact : ∀ profile, profile ∈ profiles ↔
    asked profile.playerId = true ∧ service.getProfile profile.playerId = some profile

/-- There is one such list. -/
theorem Ranks.unique {service service' : PlayerProfileService} {asked asked' : String → Bool}
    {profiles profiles' : List PlayerProfile} (ranks : service.Ranks asked profiles)
    (ranks' : service'.Ranks asked' profiles') (same : ∀ playerId profile,
      asked playerId = true ∧ service.getProfile playerId = some profile ↔
        asked' playerId = true ∧ service'.getProfile playerId = some profile) :
    profiles = profiles' := by
  apply ranks.ordered.eq_of_mem_iff ranks'.ordered
  intro profile
  rw [ranks.exact, ranks'.exact]
  exact same profile.playerId profile

theorem getProfile_of_contains {service : PlayerProfileService} {playerId : String}
    (known : service.aggregates.contains playerId = true) :
    service.getProfile playerId =
      some (buildProfileUnsafe playerId (aggregateOf service.aggregates playerId)) := by
  unfold getProfile aggregateOf
  obtain ⟨aggregate, found⟩ := Option.isSome_iff_exists.mp known
  rw [found]
  rfl

theorem getProfile_eq_some {service : PlayerProfileService} {playerId : String}
    {profile : PlayerProfile} (found : service.getProfile playerId = some profile) :
    service.aggregates.contains playerId = true ∧ profile.playerId = playerId := by
  obtain ⟨aggregate, stored, rfl⟩ := Option.map_eq_some_iff.mp found
  exact ⟨Option.isSome_iff_exists.mpr ⟨aggregate, stored⟩, rfl⟩

/-- A service with a leaderboard answers with the profiles on it. -/
theorem Published.topProfiles {service : PlayerProfileService} {rated : String → Bool}
    (published : service.Published rated) :
    ∃ profiles, service.Ranks rated profiles ∧
      ∀ limit, service.topProfiles limit = profiles.take limit := by
  obtain ⟨store, present, coherent, stored⟩ := published
  let build : String × Int → PlayerProfile := fun entry =>
    buildProfileUnsafe entry.1 (aggregateOf service.aggregates entry.1)
  have on_board : ∀ entry ∈ store.ranking, rated entry.1 = true ∧
      entry.2 = (aggregateOf service.aggregates entry.1).rating := by
    intro entry member
    have score := (coherent.mem_ranking entry.1 entry.2).mp member
    rw [(stored entry.1).2] at score
    split_ifs at score with isRated
    exact ⟨isRated, (Option.some.inj score).symm⟩
  have profile_of : ∀ entry ∈ store.ranking, service.getProfile entry.1 = some (build entry) :=
    fun entry member => getProfile_of_contains ((stored entry.1).1 (on_board entry member).1)
  refine ⟨store.ranking.map build, ⟨?_, ?_⟩, ?_⟩
  · apply List.pairwise_map.mpr
    refine store.ranking_ordered.imp_of_mem ?_
    intro first second member member' before
    have score := (on_board first member).2
    have score' := (on_board second member').2
    unfold Outranks
    show RanksBefore (first.1, (aggregateOf service.aggregates first.1).rating)
      (second.1, (aggregateOf service.aggregates second.1).rating)
    rw [← score, ← score']
    exact before
  · intro profile
    rw [List.mem_map]
    constructor
    · intro listed
      obtain ⟨entry, member, rfl⟩ := listed
      exact ⟨(on_board entry member).1, profile_of entry member⟩
    · intro asked
      have known := (stored profile.playerId).1 asked.1
      have score := (stored profile.playerId).2
      rw [if_pos asked.1] at score
      refine ⟨_, (coherent.mem_ranking _ _).mpr score, ?_⟩
      exact Option.some.inj ((getProfile_of_contains known).symm.trans asked.2)
  · intro limit
    rw [PlayerProfileService.topProfiles, present]
    dsimp only
    rw [InMemoryLeaderboardStore.topN_eq_take, ← List.map_take, ← List.filterMap_eq_map]
    apply List.filterMap_congr
    intro entry member
    exact profile_of entry (List.mem_of_mem_take member)

/-- A service without a leaderboard answers with the profiles of everybody it knows. -/
theorem topProfiles_noLeaderboard {service : PlayerProfileService}
    (absent : service.leaderboard = none) :
    ∃ profiles, service.Ranks (fun _ => true) profiles ∧
      ∀ limit, service.topProfiles limit = profiles.take limit := by
  let all := service.aggregates.entries.map fun kv => buildProfileUnsafe kv.1 kv.2
  let notAfter : PlayerProfile → PlayerProfile → Prop := fun lhs rhs => (!ranksBefore rhs lhs) = true
  have notAfter_iff : ∀ lhs rhs, notAfter lhs rhs ↔ rank lhs ≤ rank rhs := by
    intro lhs rhs
    rw [← not_lt, ← outranks_iff, ← ranksBefore_iff]
    simp [notAfter]
  have total : Std.Total notAfter := by
    refine ⟨fun lhs rhs => ?_⟩
    rw [notAfter_iff, notAfter_iff]
    exact le_total _ _
  have trans : IsTrans PlayerProfile notAfter := by
    refine ⟨fun first second third => ?_⟩
    rw [notAfter_iff, notAfter_iff, notAfter_iff]
    exact le_trans
  have perm : (all.insertionSort notAfter).Perm all := List.perm_insertionSort notAfter all
  have distinct : (all.insertionSort notAfter).Pairwise fun lhs rhs => lhs.playerId ≠ rhs.playerId := by
    have names : all.map PlayerProfile.playerId = service.aggregates.entries.map Prod.fst := by
      rw [List.map_map]
      rfl
    apply List.pairwise_map.mp
    rw [← List.Nodup, (perm.map PlayerProfile.playerId).nodup_iff, names]
    exact service.aggregates.distinct
  refine ⟨all.insertionSort notAfter, ⟨?_, ?_⟩, ?_⟩
  · have sorted : (all.insertionSort notAfter).Pairwise notAfter := List.pairwise_insertionSort notAfter all
    refine (sorted.and distinct).imp ?_
    intro lhs rhs both
    rw [outranks_iff]
    refine lt_of_le_of_ne ((notAfter_iff lhs rhs).mp both.1) ?_
    intro same
    exact both.2 (Prod.mk.inj same).2
  · intro profile
    rw [perm.mem_iff, List.mem_map]
    constructor
    · intro listed
      obtain ⟨⟨playerId, aggregate⟩, stored, rfl⟩ := listed
      refine ⟨rfl, ?_⟩
      have found := (service.aggregates.find_eq_some_iff playerId aggregate).mpr stored
      exact congrArg (Option.map _) found
    · intro asked
      obtain ⟨aggregate, found, same⟩ := Option.map_eq_some_iff.mp asked.2
      exact ⟨(profile.playerId, aggregate), (service.aggregates.find_eq_some_iff _ _).mp found, same⟩
  · intro limit
    rw [topProfiles, absent]

/-! ## The two paths -/

section paths

variable (R : Type u) [DoubleConversions R]

/-- The leaderboard answers with the players that won or lost a match, each with its current
totals: by rating, highest first, and by id among equal ratings. -/
theorem topProfiles_rated (results : List MatchResult) :
    let service := results.foldl (recordMatch R) (new (some .new))
    (∃ store, service.leaderboard = some store ∧ ∀ playerId,
      (rated results playerId = true → ∃ profile, service.getProfile playerId = some profile ∧
        store.get playerId = some profile.rating) ∧
      (rated results playerId = false → store.get playerId = none)) ∧
    ∃ profiles, service.Ranks (rated results) profiles ∧
      ∀ limit, service.topProfiles limit = profiles.take limit := by
  intro service
  have published : service.Published (rated results) := published_foldl R results
  refine ⟨?_, published.topProfiles⟩
  obtain ⟨store, present, _, stored⟩ := published
  refine ⟨store, present, fun playerId => ?_⟩
  obtain ⟨known, score⟩ := stored playerId
  constructor
  · intro isRated
    rw [if_pos isRated] at score
    exact ⟨_, getProfile_of_contains (known isRated), score⟩
  · intro unrated
    rw [score, unrated]
    rfl

/-- Everybody with an entry in one of the results has won or lost one of them. -/
def OnlyDuelists (results : List MatchResult) : Prop :=
  ∀ result ∈ results, ∀ entry ∈ result.playerStats, rated results entry.playerId = true

/-- Everybody with counters has won or lost a match, or has an entry in a result. -/
theorem concerns_iff_rated (results : List MatchResult) :
    OnlyDuelists results ↔ ∀ playerId,
      results.any (concerns playerId) = true → rated results playerId = true := by
  constructor
  · intro only playerId concerned
    obtain ⟨result, listed, about⟩ := List.any_eq_true.mp concerned
    rw [concerns, Bool.or_assoc, Bool.or_eq_true] at about
    cases about with
    | inl entered =>
        obtain ⟨entry, member, same⟩ := List.any_eq_true.mp entered
        exact eq_of_beq same ▸ only result listed entry member
    | inr decided => exact List.any_eq_true.mpr ⟨result, listed, decided⟩
  · intro all result listed entry member
    apply all
    refine List.any_eq_true.mpr ⟨result, listed, ?_⟩
    have entered : (result.playerStats.any fun other => other.playerId == entry.playerId) = true :=
      List.any_eq_true.mpr ⟨entry, member, beq_self_eq_true _⟩
    rw [concerns, entered, Bool.true_or, Bool.true_or]

theorem rated_concerns {results : List MatchResult} {playerId : String}
    (isRated : rated results playerId = true) : results.any (concerns playerId) = true := by
  obtain ⟨result, listed, decided⟩ := List.any_eq_true.mp isRated
  refine List.any_eq_true.mpr ⟨result, listed, ?_⟩
  rw [concerns, Bool.or_assoc, decided, Bool.or_true]

/-- Both paths give the same answers for exactly the histories in which nobody has an entry
who never won or lost. -/
theorem topProfiles_paths_agree_iff (results : List MatchResult) :
    let indexed := results.foldl (recordMatch R) (new (some .new))
    let sorted := results.foldl (recordMatch R) (new none)
    ((∀ limit, indexed.topProfiles limit = sorted.topProfiles limit) ∧
      indexed.leaderboardEntriesTotal = sorted.leaderboardEntriesTotal) ↔ OnlyDuelists results := by
  intro indexed sorted
  have published : indexed.Published (rated results) := published_foldl R results
  have absent : sorted.leaderboard = none := foldl_recordMatch_noLeaderboard R results
  have same : indexed.aggregates = sorted.aggregates := foldl_recordMatch_aggregates R results _ _
  have known : ∀ playerId, sorted.aggregates.contains playerId = results.any (concerns playerId) := by
    intro playerId
    rw [(foldl_recordMatch R playerId results (new none)).2]
    exact Bool.or_false _
  have profile_iff : ∀ playerId profile, indexed.getProfile playerId = some profile ↔
      sorted.getProfile playerId = some profile := by
    intro playerId profile
    rw [getProfile, getProfile, same]
  obtain ⟨top, ranks, top_take⟩ := published.topProfiles
  obtain ⟨everybody, ranks', everybody_take⟩ := topProfiles_noLeaderboard absent
  rw [concerns_iff_rated]
  constructor
  · intro agree playerId concerned
    -- at a limit above both lengths the two lists are shown whole
    have whole := agree.1 (max top.length everybody.length)
    rw [top_take, everybody_take, List.take_of_length_le (le_max_left _ _),
      List.take_of_length_le (le_max_right _ _)] at whole
    rw [← known] at concerned
    have listed := (ranks'.exact (buildProfileUnsafe playerId _)).mpr
      ⟨rfl, getProfile_of_contains concerned⟩
    rw [← whole] at listed
    exact ((ranks.exact _).mp listed).1
  · intro only
    have known_rated : ∀ playerId, sorted.aggregates.contains playerId = rated results playerId := by
      intro playerId
      rw [known, Bool.eq_iff_iff]
      exact ⟨only playerId, rated_concerns⟩
    constructor
    · have lists : top = everybody := by
        refine ranks.unique ranks' fun playerId profile => ?_
        rw [profile_iff]
        refine ⟨fun both => ⟨rfl, both.2⟩, fun both => ⟨?_, both.2⟩⟩
        rw [← known_rated]
        exact (getProfile_eq_some both.2).1
      intro limit
      rw [top_take, everybody_take, lists]
    · obtain ⟨store, present, _, stored⟩ := published
      rw [leaderboardEntriesTotal, leaderboardEntriesTotal, present, absent]
      have keys : store.scores.keys.Perm sorted.aggregates.keys := by
        rw [List.perm_ext_iff_of_nodup store.scores.keys_nodup sorted.aggregates.keys_nodup]
        intro playerId
        rw [← UnorderedMap.contains_iff, ← UnorderedMap.contains_iff, known_rated]
        have score : store.scores.find playerId = _ := (stored playerId).2
        rw [UnorderedMap.contains, score]
        cases rated results playerId <;> simp
      have lengths := keys.length_eq
      rw [UnorderedMap.keys, UnorderedMap.keys, List.length_map, List.length_map] at lengths
      exact lengths

/-- A duel with a bystander. -/
def watchedDuel : MatchResult where
  matchId := "match-5-A-vs-B"
  winnerId := "A"
  loserId := "B"
  completedAt := 0
  playerStats :=
    [⟨"match-5-A-vs-B", "A", 5, 5, 1, 0, 100, 0⟩, ⟨"match-5-A-vs-B", "B", 0, 0, 0, 1, 0, 100⟩,
      ⟨"match-5-A-vs-B", "C", 0, 0, 0, 0, 0, 0⟩]

/-- With the rating it starts from the bystander is second on one path and missing on the other. -/
theorem watchedDuel_splits_paths :
    let indexed := [watchedDuel].foldl (recordMatch ℚ) (new (some .new))
    let sorted := [watchedDuel].foldl (recordMatch ℚ) (new none)
    ¬((∀ limit, indexed.topProfiles limit = sorted.topProfiles limit) ∧
      indexed.leaderboardEntriesTotal = sorted.leaderboardEntriesTotal) := by
  intro indexed sorted agree
  have second := agree.1 2
  revert second
  decide +kernel

end paths

end PlayerProfileService

end Arena60
