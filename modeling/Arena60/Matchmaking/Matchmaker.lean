import Arena60.Matchmaking.QueueRefinement
import Arena60.Misc.FirstFit

/-!
# The matchmaker

`matchmaker.{h,cpp}` and `match_notification_channel.{h,cpp}`. The functions here
are the sections that hold a mutex: `enqueue`, `cancel`, `runMatchingLocked` and
`publish`. `runMatching` is a whole call when no other thread interferes.

The pairing loop removes the two players of a match from the queue while it goes
through the list it fetched before; `pairLoop_eq` says that this is the first-fit
pairing of that list, its matches being created one after the other.
-/

namespace Arena60

open Misc Misc.DoubleArith

universe u

/-- A registered `std::function`, by its identity. -/
abbrev CallbackId := Nat

/-- `Matchmaker`; `notifications` is the queue of its `MatchNotificationChannel`. -/
structure Matchmaker (R : Type u) where
  queue : InMemoryMatchQueue
  callback : Option CallbackId
  notifications : List Match
  orderCounter : Nat
  matchCounter : Nat
  matchesCreated : Nat
  lastQueueSize : Nat
  waitBucketCounts : List Nat
  waitOverflowCount : Nat
  waitSum : R
  waitCount : Nat

/-- `kWaitBuckets`. -/
def kWaitBuckets (R : Type u) [DoubleArith R] : List R :=
  [ofRat 0, ofRat 5, ofRat 10, ofRat 20, ofRat 40, ofRat 80]

/-- The loop of `ObserveWaitLocked`: count in the first bucket whose bound is not
exceeded; `none` when there is none. -/
def countInBucket {R : Type u} [DoubleArith R] (seconds : R) : List R → List Nat → Option (List Nat)
  | bound :: bounds, count :: counts =>
      if lessEq seconds bound then some ((count + 1) :: counts)
      else (countInBucket seconds bounds counts).map (count :: ·)
  | _, _ => none

/-- `Matchmaker::ResolveRegion`. -/
def resolveRegion (lhs rhs : MatchRequest) : String :=
  if lhs.preferredRegion == rhs.preferredRegion then lhs.preferredRegion
  else if lhs.preferredRegion == "any" then rhs.preferredRegion
  else if rhs.preferredRegion == "any" then lhs.preferredRegion
  else lhs.preferredRegion

/-- The scan for a partner of `request` over the players listed behind it. -/
def findPartner (R : Type u) [DoubleConversions R] (now : Int) (used : List String)
    (request : MatchRequest) : List QueuedPlayer → Option QueuedPlayer
  | [] => none
  | other :: rest =>
      if other.request.playerId ∈ used then findPartner R now used request rest
      else if !regionsCompatible request other.request then findPartner R now used request rest
      else if |request.elo - other.request.elo| ≤ request.currentTolerance R now ∧
          |request.elo - other.request.elo| ≤ other.request.currentTolerance R now then some other
      else if other.request.elo - request.elo > request.currentTolerance R now then none
      else findPartner R now used request rest

namespace Matchmaker

variable {R : Type u} [DoubleConversions R]

/-- A fresh matchmaker on a fresh queue. -/
def new : Matchmaker R where
  queue := .new
  callback := none
  notifications := []
  orderCounter := 0
  matchCounter := 0
  matchesCreated := 0
  lastQueueSize := 0
  waitBucketCounts := (kWaitBuckets R).map fun _ => 0
  waitOverflowCount := 0
  waitSum := ofRat 0
  waitCount := 0

/-- `Matchmaker::SetMatchCreatedCallback`. -/
def setMatchCreatedCallback (m : Matchmaker R) (callback : Option CallbackId) : Matchmaker R :=
  { m with callback }

/-- `Matchmaker::Enqueue`. -/
def enqueue (m : Matchmaker R) (request : MatchRequest) : Matchmaker R :=
  let orderCounter := m.orderCounter + 1
  let queue := m.queue.upsert request orderCounter
  { m with queue, orderCounter, lastQueueSize := queue.size }

/-- `Matchmaker::Cancel`. -/
def cancel (m : Matchmaker R) (playerId : String) : Bool × Matchmaker R :=
  let (removed, queue) := m.queue.remove playerId
  (removed, { m with queue, lastQueueSize := queue.size })

/-- `Matchmaker::ObserveWaitLocked`. -/
def observeWaitLocked (m : Matchmaker R) (seconds : R) : Matchmaker R :=
  let m := { m with waitSum := m.waitSum + seconds, waitCount := m.waitCount + 1 }
  match countInBucket seconds (kWaitBuckets R) m.waitBucketCounts with
  | some waitBucketCounts => { m with waitBucketCounts }
  | none => { m with waitOverflowCount := m.waitOverflowCount + 1 }

/-- What the pairing loop does once it has found a partner. -/
def createMatch (m : Matchmaker R) (now : Int) (request partner : MatchRequest) :
    Matchmaker R × Match :=
  let queue := (m.queue.remove request.playerId).2
  let queue := (queue.remove partner.playerId).2
  let matchCounter := m.matchCounter + 1
  let created : Match :=
    { matchId := "match-" ++ toString matchCounter
      players := [request.playerId, partner.playerId]
      averageElo := (request.elo + partner.elo).tdiv 2
      createdAt := now
      region := resolveRegion request partner }
  let m := { m with queue, matchCounter, matchesCreated := m.matchesCreated + 1 }
  let m := m.observeWaitLocked (request.waitSeconds R now)
  (m.observeWaitLocked (partner.waitSeconds R now), created)

/-- The outer loop of `RunMatching` over the fetched list. -/
def pairLoop (now : Int) : List QueuedPlayer → List String → Matchmaker R → Matchmaker R × List Match
  | [], _, m => (m, [])
  | candidate :: later, used, m =>
      if candidate.request.playerId ∈ used then pairLoop now later used m
      else
        match findPartner R now used candidate.request later with
        | none => pairLoop now later used m
        | some partner =>
            let (m, created) := m.createMatch now candidate.request partner.request
            let (m, made) := pairLoop now later
              (partner.request.playerId :: candidate.request.playerId :: used) m
            (m, created :: made)

/-- The locked section of `RunMatching`: the matches to deliver and the callback
copied for their delivery. -/
def runMatchingLocked (m : Matchmaker R) (now : Int) :
    Matchmaker R × List Match × Option CallbackId :=
  let (m, made) := pairLoop now m.queue.fetchOrdered [] m
  ({ m with lastQueueSize := m.queue.size }, made, m.callback)

/-- `MatchNotificationChannel::Publish`. -/
def publish (m : Matchmaker R) (created : Match) : Matchmaker R :=
  { m with notifications := m.notifications ++ [created] }

/-- `MatchNotificationChannel::Poll`. -/
def poll (m : Matchmaker R) : Option Match × Matchmaker R :=
  match m.notifications with
  | [] => (none, m)
  | next :: rest => (some next, { m with notifications := rest })

/-- `MatchNotificationChannel::Drain`. -/
def drain (m : Matchmaker R) : List Match × Matchmaker R :=
  (m.notifications, { m with notifications := [] })

/-- `Matchmaker::RunMatching`, undisturbed. -/
def runMatching (m : Matchmaker R) (now : Int) : Matchmaker R × List Match :=
  let (m, made, _) := m.runMatchingLocked now
  (made.foldl publish m, made)

/-- Creating the matches of a list of pairs in turn. -/
def createMatches (now : Int) :
    List (QueuedPlayer × QueuedPlayer) → Matchmaker R → Matchmaker R × List Match
  | [], m => (m, [])
  | (a, b) :: pairs, m =>
      let (m, created) := m.createMatch now a.request b.request
      let (m, made) := createMatches now pairs m
      (m, created :: made)

end Matchmaker

/-! ## The loop is a first-fit pairing -/

section pairing

variable (R : Type u) [DoubleConversions R]

/-- Two queued players may be paired at `now`. -/
def fitsAt (now : Int) (a b : QueuedPlayer) : Bool := compatible R now a.request b.request

theorem compatible_comm (now : Int) (lhs rhs : MatchRequest) :
    compatible R now lhs rhs = compatible R now rhs lhs := by
  unfold compatible regionsCompatible
  rw [regionsMatch_comm, abs_sub_comm, Bool.and_comm (decide (_ ≤ lhs.currentTolerance R now))]

/-- The scan is the search for the first player that may be paired, cut short at
a player whose rating is out of reach. -/
theorem findPartner_eq_findUntil (now : Int) (used : List String) (a : QueuedPlayer)
    (later : List QueuedPlayer) :
    findPartner R now used a.request later =
      findUntil (mayPair QueuedPlayer.playerId (fitsAt R now) used a)
        (fun other => decide (other.request.playerId ∉ used) &&
          (regionsCompatible a.request other.request &&
            decide (a.request.currentTolerance R now < other.request.elo - a.request.elo))) later := by
  induction later with
  | nil => rfl
  | cons other rest ih =>
      rw [findPartner, findUntil, ih]
      simp only [mayPair, fitsAt, compatible, QueuedPlayer.playerId]
      by_cases taken : other.request.playerId ∈ used
      · simp [taken]
      · by_cases regions : regionsCompatible a.request other.request = true
        · by_cases near : |a.request.elo - other.request.elo| ≤ a.request.currentTolerance R now ∧
              |a.request.elo - other.request.elo| ≤ other.request.currentTolerance R now
          · simp [taken, regions, near]
          · by_cases far : a.request.currentTolerance R now < other.request.elo - a.request.elo
            · simp [taken, regions, near, far]
            · simp [taken, regions, near, far]
        · simp [taken, regions]

/-- In a list that ascends by rating nobody behind a player out of reach is in reach. -/
theorem findPartner_eq_find? (now : Int) (used : List String) (a : QueuedPlayer)
    (later : List QueuedPlayer) (ascending : later.Pairwise QueuedPlayer.Before) :
    findPartner R now used a.request later =
      later.find? (mayPair QueuedPlayer.playerId (fitsAt R now) used a) := by
  rw [findPartner_eq_findUntil, findUntil_eq_find?]
  refine ascending.imp ?_
  intro b c before stopping
  simp only [Bool.and_eq_true, decide_eq_true_eq] at stopping
  have outOfReach := stopping.2.2
  have further : b.request.elo ≤ c.request.elo := by
    rcases before with below | ⟨same, -⟩
    · exact le_of_lt below
    · exact le_of_eq same
  have beyond : ¬ |a.request.elo - c.request.elo| ≤ a.request.currentTolerance R now := by
    intro within
    have := neg_abs_le (a.request.elo - c.request.elo)
    omega
  simp [mayPair, fitsAt, compatible, beyond]

/-- The pairs one pass over a fetched list makes. -/
def passPairs (now : Int) (ordered : List QueuedPlayer) : List (QueuedPlayer × QueuedPlayer) :=
  firstFit QueuedPlayer.playerId (fitsAt R now) [] ordered

variable {R}

theorem pairLoop_eq (now : Int) (ordered : List QueuedPlayer)
    (ascending : ordered.Pairwise QueuedPlayer.Before) (used : List String) (m : Matchmaker R) :
    Matchmaker.pairLoop now ordered used m =
      Matchmaker.createMatches now
        (firstFit QueuedPlayer.playerId (fitsAt R now) used ordered) m := by
  induction ordered generalizing used m with
  | nil => rfl
  | cons candidate later ih =>
      obtain ⟨-, laterAscending⟩ := List.pairwise_cons.mp ascending
      rw [Matchmaker.pairLoop, firstFit, findPartner_eq_find? R now used candidate later laterAscending]
      by_cases taken : candidate.request.playerId ∈ used
      · have taken' : candidate.playerId ∈ used := taken
        rw [if_pos taken, if_pos taken', ih laterAscending]
      · have free : candidate.playerId ∉ used := taken
        rw [if_neg taken, if_neg free]
        cases later.find? (mayPair QueuedPlayer.playerId (fitsAt R now) used candidate) with
        | none => exact ih laterAscending used m
        | some partner =>
            simp only [Matchmaker.createMatches]
            rw [ih laterAscending]
            rfl

end pairing

end Arena60
