import Arena60.Misc.RealPowers
import Arena60.Misc.Sums
import Arena60.Stats.PlayerProfileService
import Mathlib.Analysis.SpecialFunctions.Pow.Real

/-!
# Ratings in exact arithmetic

What an update of two ratings can do, and how far the ratings of all profiles can drift from
what every player starts with.
-/

namespace Arena60

open Misc Misc.DoubleArith Misc.DoubleConversions

/-- A function of the difference of two ratings in place of `pow(10, d / 400)`. -/
structure PowerOfTen (pow : ℝ → ℝ → ℝ) (g : ℤ → ℝ) : Prop where
  replaces : ∀ d : ℤ, pow 10 (d / 400) = g d
  positive : ∀ d : ℤ, 0 < g d
  inverse : ∀ d : ℤ, g (-d) = 1 / g d

section update

variable {pow : ℝ → ℝ → ℝ} {g : ℤ → ℝ}

/-- What the winner gains before rounding. -/
noncomputable def gain (g : ℤ → ℝ) (winnerRating loserRating : ℤ) : ℝ :=
  25 * (1 - 1 / (1 + g (loserRating - winnerRating)))

theorem PowerOfTen.update_winnerNew (power : PowerOfTen pow g) (winnerRating loserRating : ℤ) :
    (EloRatingCalculator.update (RealWith pow) winnerRating loserRating).winnerNew =
      roundAway (winnerRating + gain g winnerRating loserRating) := by
  rw [gain, ← power.replaces]
  show roundAway (((winnerRating : ℚ) : ℝ) + ((25 : ℚ) : ℝ) *
    (((1 : ℚ) : ℝ) - ((1 : ℚ) : ℝ) / (((1 : ℚ) : ℝ) +
      pow ((10 : ℚ) : ℝ) ((((loserRating - winnerRating : ℤ) : ℚ) : ℝ) / ((400 : ℚ) : ℝ))))) = _
  norm_num

theorem PowerOfTen.update_loserNew (power : PowerOfTen pow g) (winnerRating loserRating : ℤ) :
    (EloRatingCalculator.update (RealWith pow) winnerRating loserRating).loserNew =
      roundAway (loserRating - gain g winnerRating loserRating) := by
  have positive := power.positive (loserRating - winnerRating)
  have inverse := power.inverse (loserRating - winnerRating)
  -- the two expectations add up to one
  have expected : (0 : ℝ) - 1 / (1 + g (winnerRating - loserRating)) =
      -(1 - 1 / (1 + g (loserRating - winnerRating))) := by
    rw [← neg_sub loserRating, inverse]
    field_simp
    ring
  have computed : (EloRatingCalculator.update (RealWith pow) winnerRating loserRating).loserNew =
      roundAway (loserRating + 25 * (0 - 1 / (1 + g (winnerRating - loserRating)))) := by
    rw [← power.replaces]
    show roundAway (((loserRating : ℚ) : ℝ) + ((25 : ℚ) : ℝ) *
      (((0 : ℚ) : ℝ) - ((1 : ℚ) : ℝ) / (((1 : ℚ) : ℝ) +
        pow ((10 : ℚ) : ℝ) ((((winnerRating - loserRating : ℤ) : ℚ) : ℝ) / ((400 : ℚ) : ℝ))))) = _
    norm_num
  rw [computed, expected, gain, mul_neg, ← sub_eq_add_neg]

theorem PowerOfTen.gain_bounds (power : PowerOfTen pow g) (winnerRating loserRating : ℤ) :
    0 ≤ gain g winnerRating loserRating ∧ gain g winnerRating loserRating ≤ 25 := by
  have positive := power.positive (loserRating - winnerRating)
  have share : 1 / (1 + g (loserRating - winnerRating)) ≤ 1 := by
    rw [div_le_one (by linarith)]
    linarith
  have nonneg : 0 ≤ 1 / (1 + g (loserRating - winnerRating)) := by positivity
  unfold gain
  exact ⟨by linarith, by linarith⟩

end update

/-- An update raises the winner by at most the factor, lowers the loser by at most the factor, and
all but one point of what one gains the other loses. -/
structure EloRatingUpdate.Fair (update : EloRatingUpdate) (winnerRating loserRating : ℤ) : Prop where
  winner_least : winnerRating ≤ update.winnerNew
  winner_greatest : update.winnerNew ≤ winnerRating + 25
  loser_least : loserRating - 25 ≤ update.loserNew
  loser_greatest : update.loserNew ≤ loserRating
  zero_sum : |update.winnerNew + update.loserNew - winnerRating - loserRating| ≤ 1

theorem PowerOfTen.update_fair {pow : ℝ → ℝ → ℝ} {g : ℤ → ℝ} (power : PowerOfTen pow g)
    (winnerRating loserRating : ℤ) :
    (EloRatingCalculator.update (RealWith pow) winnerRating loserRating).Fair winnerRating loserRating := by
  obtain ⟨nonneg, small⟩ := power.gain_bounds winnerRating loserRating
  have winner := power.update_winnerNew winnerRating loserRating
  have loser := power.update_loserNew winnerRating loserRating
  generalize gain g winnerRating loserRating = gained at nonneg small winner loser
  have total : (winnerRating + gained) + (loserRating - gained) = (winnerRating + loserRating : ℤ) := by
    push_cast
    ring
  have nearly := abs_roundAway_add_sub_le total
  rw [← winner, ← loser] at nearly
  refine ⟨?_, ?_, ?_, ?_, by rwa [← sub_sub] at nearly⟩
  · rw [winner]
    exact le_roundAway (by linarith)
  · rw [winner]
    exact roundAway_le (by push_cast; linarith)
  · rw [loser]
    exact le_roundAway (by push_cast; linarith)
  · rw [loser]
    exact roundAway_le (by linarith)

/-! ## The ratings of all profiles -/

namespace PlayerProfileService

/-- The sum of what the ratings of all profiles are above the first rating. -/
def ratingDrift (service : PlayerProfileService) : Int :=
  ((service.aggregates.entries.map fun kv => buildProfileUnsafe kv.1 kv.2).map
    fun profile => profile.rating - 1200).sum

/-- What a rating is above the first one. -/
def aboveFirst (aggregate : AggregateStats) : Int := aggregate.rating - 1200

theorem ratingDrift_eq (service : PlayerProfileService) :
    service.ratingDrift = service.aggregates.sumOf aboveFirst := by
  rw [ratingDrift, List.map_map]
  rfl

theorem sumOf_foldl_addStats (stats : List PlayerMatchStats) (aggregates : UnorderedMap String AggregateStats) :
    (stats.foldl addStats aggregates).sumOf aboveFirst = aggregates.sumOf aboveFirst := by
  induction stats generalizing aggregates with
  | nil => rfl
  | cons entry stats ih =>
      rw [List.foldl_cons, ih, addStats]
      exact aggregates.sumOf_upsert_of_fixed entry.playerId rfl fun _ => rfl

theorem aggregateOf_eq {aggregates : UnorderedMap String AggregateStats} {playerId : String}
    {aggregate : AggregateStats} (found : aggregates.find playerId = some aggregate) :
    aggregateOf aggregates playerId = aggregate := by
  rw [aggregateOf, found, Option.getD_some]

/-- A result moves the drift by what the update moves the two ratings. -/
theorem ratingDrift_recordMatch (R : Type) [DoubleConversions R] (service : PlayerProfileService)
    {result : MatchResult} (differ : result.winnerId ≠ result.loserId) :
    ∃ winnerRating loserRating : Int,
      (service.recordMatch R result).ratingDrift = service.ratingDrift +
        ((EloRatingCalculator.update R winnerRating loserRating).winnerNew +
          (EloRatingCalculator.update R winnerRating loserRating).loserNew - winnerRating - loserRating) := by
  let added := result.playerStats.foldl addStats service.aggregates
  let won := added.upsert result.winnerId {} fun winner => { winner with wins := winner.wins + 1 }
  let lost := won.upsert result.loserId {} fun loser => { loser with losses := loser.losses + 1 }
  have kept : lost.sumOf aboveFirst = service.aggregates.sumOf aboveFirst := by
    calc lost.sumOf aboveFirst
        = won.sumOf aboveFirst := won.sumOf_upsert_of_fixed result.loserId rfl fun _ => rfl
      _ = added.sumOf aboveFirst := added.sumOf_upsert_of_fixed result.winnerId rfl fun _ => rfl
      _ = service.aggregates.sumOf aboveFirst := sumOf_foldl_addStats _ _
  obtain ⟨loser, loserFound⟩ : ∃ loser, lost.find result.loserId = some loser :=
    ⟨_, (UnorderedMap.find_upsert _ _ _ _ _).trans (if_pos rfl)⟩
  obtain ⟨winner, winnerFound⟩ : ∃ winner, lost.find result.winnerId = some winner :=
    ⟨_, ((UnorderedMap.find_upsert _ _ _ _ _).trans (if_neg differ)).trans
      ((UnorderedMap.find_upsert _ _ _ _ _).trans (if_pos rfl))⟩
  let update := EloRatingCalculator.update R winner.rating loser.rating
  let raised := lost.adjust result.winnerId fun winner => { winner with rating := update.winnerNew }
  have loserFound' : raised.find result.loserId = some loser := by
    rw [UnorderedMap.find_adjust, if_neg (Ne.symm differ), loserFound]
  have aggregates : (service.recordMatch R result).aggregates =
      raised.adjust result.loserId fun loser => { loser with rating := update.loserNew } := by
    have winnerRating := congrArg AggregateStats.rating (aggregateOf_eq winnerFound)
    have loserRating := congrArg AggregateStats.rating (aggregateOf_eq loserFound)
    unfold recordMatch
    dsimp only
    rw [winnerRating, loserRating]
  refine ⟨winner.rating, loser.rating, ?_⟩
  rw [ratingDrift_eq, ratingDrift_eq, aggregates, raised.sumOf_adjust loserFound',
    lost.sumOf_adjust winnerFound, kept]
  simp only [aboveFirst, update]
  omega

/-- Each result with two players moves the drift by at most one. -/
theorem abs_ratingDrift_foldl_le {pow : ℝ → ℝ → ℝ} {g : ℤ → ℝ} (power : PowerOfTen pow g)
    (results : List MatchResult) (differ : ∀ result ∈ results, result.winnerId ≠ result.loserId)
    (service : PlayerProfileService) :
    |(results.foldl (recordMatch (RealWith pow)) service).ratingDrift - service.ratingDrift| ≤ results.length := by
  induction results generalizing service with
  | nil => simp
  | cons result results ih =>
      obtain ⟨first, rest⟩ := List.forall_mem_cons.mp differ
      have later := ih rest (service.recordMatch (RealWith pow) result)
      obtain ⟨winnerRating, loserRating, moved⟩ := ratingDrift_recordMatch (RealWith pow) service first
      have fair := (power.update_fair winnerRating loserRating).zero_sum
      rw [List.foldl_cons, List.length_cons]
      rw [abs_le] at later fair ⊢
      omega

end PlayerProfileService

/-- Updates of ratings are fair, and after any results with two players each the ratings of all
profiles together are off by at most one point for each result. -/
theorem ratings_nearly_conserved {pow : ℝ → ℝ → ℝ} {g : ℤ → ℝ} (power : PowerOfTen pow g) :
    (∀ winnerRating loserRating : ℤ,
      (EloRatingCalculator.update (RealWith pow) winnerRating loserRating).Fair winnerRating loserRating) ∧
    ∀ (leaderboard : Option InMemoryLeaderboardStore) (results : List MatchResult),
      (∀ result ∈ results, result.winnerId ≠ result.loserId) →
      |(results.foldl (PlayerProfileService.recordMatch (RealWith pow)) (.new leaderboard)).ratingDrift| ≤
        results.length := by
  refine ⟨power.update_fair, ?_⟩
  intro leaderboard results differ
  have moved := PlayerProfileService.abs_ratingDrift_foldl_le power results differ (.new leaderboard)
  have fresh : (PlayerProfileService.new leaderboard).ratingDrift = 0 := rfl
  rwa [fresh, sub_zero] at moved

/-- The powers of ten themselves. -/
theorem powerOfTen_rpow : PowerOfTen Real.rpow fun d : ℤ => (10 : ℝ) ^ ((d : ℝ) / 400) := by
  refine ⟨fun d => rfl, fun d => Real.rpow_pos_of_pos (by norm_num) _, ?_⟩
  intro d
  rw [one_div, ← Real.rpow_neg (by norm_num)]
  push_cast
  rw [neg_div]

/-- Two results of the same two players; the entry of the second is of a bystander. -/
def twoResults : List MatchResult :=
  [⟨"m1", "alice", "bob", 0, []⟩, ⟨"m2", "bob", "alice", 1, [⟨"m2", "carol", 3, 1, 0, 0, 20, 0⟩]⟩]

theorem ratings_nearly_conserved_two :
    (EloRatingCalculator.update (RealWith Real.rpow) 1200 1200).Fair 1200 1200 ∧
      |(twoResults.foldl (PlayerProfileService.recordMatch (RealWith Real.rpow)) (.new none)).ratingDrift| ≤ 2 := by
  obtain ⟨fair, conserved⟩ := ratings_nearly_conserved powerOfTen_rpow
  have differ : ∀ result ∈ twoResults, result.winnerId ≠ result.loserId := by decide
  exact ⟨fair 1200 1200, conserved none twoResults differ⟩

end Arena60
