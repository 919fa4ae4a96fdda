import Arena60.Stats.LeaderboardStore
import Arena60.Stats.MatchStats
import Mathlib.Data.List.Sort

/-!
# Player profiles

`player_profile_service.{h,cpp}`. The arithmetic of the ratings is that of a type `R` of
`double` values.
-/

namespace Arena60

open Misc Misc.DoubleArith Misc.DoubleConversions

universe u

/-- `EloRatingUpdate`. -/
structure EloRatingUpdate where
  winnerNew : Int
  loserNew : Int

/-- `EloRatingCalculator::Update`. -/
def EloRatingCalculator.update (R : Type u) [DoubleConversions R] (winnerRating loserRating : Int) :
    EloRatingUpdate :=
  let expectedWinner : R :=
    ofRat 1 / (ofRat 1 + pow (ofRat 10) (ofRat (loserRating - winnerRating : Int) / ofRat 400))
  let expectedLoser : R :=
    ofRat 1 / (ofRat 1 + pow (ofRat 10) (ofRat (winnerRating - loserRating : Int) / ofRat 400))
  let kFactor : R := ofRat 25
  { winnerNew := lround (ofRat winnerRating + kFactor * (ofRat 1 - expectedWinner))
    loserNew := lround (ofRat loserRating + kFactor * (ofRat 0 - expectedLoser)) }

/-- `PlayerProfileService::AggregateStats`. -/
structure AggregateStats where
  matchesPlayed : Nat := 0
  wins : Nat := 0
  losses : Nat := 0
  kills : Nat := 0
  deaths : Nat := 0
  shotsFired : Nat := 0
  hitsLanded : Nat := 0
  damageDealt : Nat := 0
  damageTaken : Nat := 0
  rating : Int := 1200
  deriving DecidableEq

/-- `PlayerProfile`; the characters of the id are its bytes. -/
structure PlayerProfile where
  playerId : String
  rating : Int
  matchesPlayed : Nat
  wins : Nat
  losses : Nat
  kills : Nat
  deaths : Nat
  shotsFired : Nat
  hitsLanded : Nat
  damageDealt : Nat
  damageTaken : Nat
  deriving DecidableEq

/-- `PlayerProfile::Accuracy`. -/
def PlayerProfile.accuracy (R : Type u) [DoubleArith R] (profile : PlayerProfile) : R :=
  accuracyOf R profile.hitsLanded profile.shotsFired

/-- `PlayerProfileService`; a leaderboard that is present is an in-memory one. -/
structure PlayerProfileService where
  leaderboard : Option InMemoryLeaderboardStore
  aggregates : UnorderedMap String AggregateStats
  matchesRecordedTotal : Nat
  ratingUpdatesTotal : Nat

namespace PlayerProfileService

/-- The constructor. -/
def new (leaderboard : Option InMemoryLeaderboardStore) : PlayerProfileService where
  leaderboard := leaderboard
  aggregates := .empty
  matchesRecordedTotal := 0
  ratingUpdatesTotal := 0

/-- The element `aggregates_[player_id]`. -/
def aggregateOf (aggregates : UnorderedMap String AggregateStats) (playerId : String) :
    AggregateStats :=
  (aggregates.find playerId).getD {}

/-- The loop body of `RecordMatch`. -/
def addStats (aggregates : UnorderedMap String AggregateStats) (stats : PlayerMatchStats) :
    UnorderedMap String AggregateStats :=
  aggregates.upsert stats.playerId {} fun aggregate =>
    { aggregate with
      matchesPlayed := aggregate.matchesPlayed + 1
      shotsFired := aggregate.shotsFired + stats.shotsFired
      hitsLanded := aggregate.hitsLanded + stats.hitsLanded
      damageDealt := aggregate.damageDealt + stats.damageDealt
      damageTaken := aggregate.damageTaken + stats.damageTaken
      kills := aggregate.kills + stats.kills
      deaths := aggregate.deaths + stats.deaths }

/-- `PlayerProfileService::RecordMatch`. -/
def recordMatch (R : Type u) [DoubleConversions R] (service : PlayerProfileService)
    (result : MatchResult) : PlayerProfileService :=
  let aggregates := result.playerStats.foldl addStats service.aggregates
  let aggregates := aggregates.upsert result.winnerId {} fun winner =>
    { winner with wins := winner.wins + 1 }
  let aggregates := aggregates.upsert result.loserId {} fun loser =>
    { loser with losses := loser.losses + 1 }
  let update := EloRatingCalculator.update R (aggregateOf aggregates result.winnerId).rating
    (aggregateOf aggregates result.loserId).rating
  let aggregates := aggregates.adjust result.winnerId fun winner =>
    { winner with rating := update.winnerNew }
  let aggregates := aggregates.adjust result.loserId fun loser =>
    { loser with rating := update.loserNew }
  let leaderboard := service.leaderboard.map fun store =>
    (store.upsert result.winnerId (aggregateOf aggregates result.winnerId).rating).upsert
      result.loserId (aggregateOf aggregates result.loserId).rating
  { leaderboard
    aggregates
    matchesRecordedTotal := service.matchesRecordedTotal + 1
    ratingUpdatesTotal := service.ratingUpdatesTotal + 2 }

/-- `PlayerProfileService::BuildProfileUnsafe`. -/
def buildProfileUnsafe (playerId : String) (stats : AggregateStats) : PlayerProfile where
  playerId := playerId
  rating := stats.rating
  matchesPlayed := stats.matchesPlayed
  wins := stats.wins
  losses := stats.losses
  kills := stats.kills
  deaths := stats.deaths
  shotsFired := stats.shotsFired
  hitsLanded := stats.hitsLanded
  damageDealt := stats.damageDealt
  damageTaken := stats.damageTaken

/-- `PlayerProfileService::GetProfile`. -/
def getProfile (service : PlayerProfileService) (playerId : String) : Option PlayerProfile :=
  (service.aggregates.find playerId).map (buildProfileUnsafe playerId)

/-- The comparison `TopProfiles` sorts by. -/
def ranksBefore (lhs rhs : PlayerProfile) : Bool :=
  if lhs.rating ≠ rhs.rating then decide (lhs.rating > rhs.rating)
  else decide (lhs.playerId < rhs.playerId)

/-- `PlayerProfileService::TopProfiles`. -/
def topProfiles (service : PlayerProfileService) (limit : Nat) : List PlayerProfile :=
  match service.leaderboard with
  | none =>
      let profiles := service.aggregates.entries.map fun kv => buildProfileUnsafe kv.1 kv.2
      (profiles.insertionSort fun lhs rhs => !ranksBefore rhs lhs).take limit
  | some store =>
      (store.topN limit).filterMap fun entry =>
        (service.aggregates.find entry.1).map (buildProfileUnsafe entry.1)

/-- The number `MetricsSnapshot` reports as `leaderboard_entries_total`. -/
def leaderboardEntriesTotal (service : PlayerProfileService) : Nat :=
  match service.leaderboard with
  | none => service.aggregates.size
  | some store => store.size

end PlayerProfileService

end Arena60
