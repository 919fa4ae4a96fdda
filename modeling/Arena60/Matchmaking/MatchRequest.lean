import Arena60.Misc.DoubleArith
import Mathlib.Algebra.Order.Group.Unbundled.Int

/-!
# Match requests and matches

`match_request.{h,cpp}` and `match.{h,cpp}`. A time point of the steady clock is
its number of nanoseconds, an integer; waiting times are `double` seconds, in
whatever arithmetic the program is run. Ratings and tolerances are exact
integers.
-/

namespace Arena60

open Misc Misc.DoubleArith

universe u

/-- `MatchRequest`. -/
structure MatchRequest where
  playerId : String
  elo : Int
  enqueuedAt : Int
  preferredRegion : String := "global"
  deriving DecidableEq, Repr

/-- `kBaseTolerance`. -/
def kBaseTolerance : Int := 100

/-- `kToleranceStep`. -/
def kToleranceStep : Int := 25

/-- `kStepSeconds`. -/
def kStepSeconds {R : Type u} [DoubleArith R] : R := ofRat 5

namespace MatchRequest

variable (R : Type u) [DoubleConversions R]

/-- `MatchRequest::WaitSeconds`: a difference of nanoseconds converted to
`duration<double>`. -/
def waitSeconds (request : MatchRequest) (now : Int) : R :=
  ofRat ((now - request.enqueuedAt : Int) : ℚ) / ofRat 1000000000

/-- `MatchRequest::CurrentTolerance`. -/
def currentTolerance (request : MatchRequest) (now : Int) : Int :=
  let waited : R := DoubleArith.max (ofRat 0) (request.waitSeconds R now)
  let increments := DoubleConversions.toInt (waited / kStepSeconds)
  kBaseTolerance + increments * kToleranceStep

end MatchRequest

/-- The comparison behind `RegionsCompatible`: equal regions, or one of them is `any`. -/
def regionsMatch (lhs rhs : String) : Bool :=
  if lhs == "any" || rhs == "any" then true else lhs == rhs

/-- `RegionsCompatible`. -/
def regionsCompatible (lhs rhs : MatchRequest) : Bool :=
  regionsMatch lhs.preferredRegion rhs.preferredRegion

/-- `Match`. -/
structure Match where
  matchId : String
  players : List String
  averageElo : Int
  createdAt : Int
  region : String
  deriving DecidableEq, Repr

theorem regionsMatch_iff (lhs rhs : String) :
    regionsMatch lhs rhs = true ↔ lhs = "any" ∨ rhs = "any" ∨ lhs = rhs := by
  by_cases left : lhs = "any" <;> by_cases right : rhs = "any" <;> simp [regionsMatch, left, right]

theorem regionsMatch_comm (lhs rhs : String) : regionsMatch lhs rhs = regionsMatch rhs lhs := by
  rw [Bool.eq_iff_iff, regionsMatch_iff, regionsMatch_iff]
  constructor <;> rintro (h | h | h) <;> simp [h]

/-- Two requests may be paired at `now`: the rating difference is within both
tolerances and the regions are compatible. -/
def compatible (R : Type u) [DoubleConversions R] (now : Int) (lhs rhs : MatchRequest) : Bool :=
  regionsCompatible lhs rhs &&
    (decide (|lhs.elo - rhs.elo| ≤ lhs.currentTolerance R now) &&
      decide (|lhs.elo - rhs.elo| ≤ rhs.currentTolerance R now))

end Arena60
