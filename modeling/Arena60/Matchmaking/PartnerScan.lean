import Arena60.Matchmaking.PassGuarantees

/-!
# The break in the partner scan

`RunMatching` gives up its scan for a partner at a rating that is out of reach. The same call with a
scan that goes on to the end of the list makes the same matches and leaves the same queue.
-/

namespace Arena60

open Misc

universe u

section scan

variable (R : Type u) [DoubleConversions R]

/-- The scan for a partner, without its `break` at a rating out of reach. -/
def findPartnerToEnd (now : Int) (used : List String) (request : MatchRequest) :
    List QueuedPlayer → Option QueuedPlayer
  | [] => none
  | other :: rest =>
      if other.request.playerId ∈ used then findPartnerToEnd now used request rest
      else if !regionsCompatible request other.request then findPartnerToEnd now used request rest
      else if |request.elo - other.request.elo| ≤ request.currentTolerance R now ∧
          |request.elo - other.request.elo| ≤ other.request.currentTolerance R now then some other
      else findPartnerToEnd now used request rest

/-- The scan to the end is the search for the first player that may be paired, in any list. -/
theorem findPartnerToEnd_eq_find? (now : Int) (used : List String) (a : QueuedPlayer)
    (later : List QueuedPlayer) :
    findPartnerToEnd R now used a.request later =
      later.find? (mayPair QueuedPlayer.playerId (fitsAt R now) used a) := by
  induction later with
  | nil => rfl
  | cons other rest ih =>
      rw [findPartnerToEnd, List.find?_cons, ih]
      simp only [mayPair, fitsAt, compatible, QueuedPlayer.playerId]
      by_cases taken : other.request.playerId ∈ used
      · simp [taken]
      · by_cases regions : regionsCompatible a.request other.request = true
        · by_cases near : |a.request.elo - other.request.elo| ≤ a.request.currentTolerance R now ∧
              |a.request.elo - other.request.elo| ≤ other.request.currentTolerance R now
          · simp [taken, regions, near]
          · rw [not_and_or] at near
            rcases near with far | far <;> simp [taken, regions, far]
        · simp [taken, regions]

end scan

namespace Matchmaker

variable {R : Type u} [DoubleConversions R]

/-- The outer loop of `RunMatching` with scans to the end. -/
def pairLoopToEnd (now : Int) :
    List QueuedPlayer → List String → Matchmaker R → Matchmaker R × List Match
  | [], _, m => (m, [])
  | candidate :: later, used, m =>
      if candidate.request.playerId ∈ used then pairLoopToEnd now later used m
      else
        match findPartnerToEnd R now used candidate.request later with
        | none => pairLoopToEnd now later used m
        | some partner =>
            let (m, created) := m.createMatch now candidate.request partner.request
            let (m, made) := pairLoopToEnd now later
              (partner.request.playerId :: candidate.request.playerId :: used) m
            (m, created :: made)

/-- `Matchmaker::RunMatching` with scans to the end. -/
def runMatchingToEnd (m : Matchmaker R) (now : Int) : Matchmaker R × List Match :=
  let (m, made) := pairLoopToEnd now m.queue.fetchOrdered [] m
  let m := { m with lastQueueSize := m.queue.size }
  (made.foldl publish m, made)

/-- The two loops agree on a list that ascends by rating. -/
theorem pairLoopToEnd_eq (now : Int) (ordered : List QueuedPlayer)
    (ascending : ordered.Pairwise QueuedPlayer.Before) (used : List String) (m : Matchmaker R) :
    pairLoopToEnd now ordered used m = pairLoop now ordered used m := by
  induction ordered generalizing used m with
  | nil => rfl
  | cons candidate later ih =>
      obtain ⟨-, laterAscending⟩ := List.pairwise_cons.mp ascending
      have scan := findPartnerToEnd_eq_find? R now used candidate later
      rw [← findPartner_eq_find? R now used candidate later laterAscending] at scan
      rw [pairLoopToEnd, pairLoop, scan, ih laterAscending]
      split_ifs
      · rfl
      · cases findPartner R now used candidate.request later with
        | none => rfl
        | some partner =>
            dsimp only
            rw [ih laterAscending]

/-- The `break` loses nothing: without it a call from any reachable state returns the same matches
and leaves the same queue, and in fact the same matchmaker. -/
theorem runMatchingToEnd_eq {m : Matchmaker R} (reachable : m.Reachable) (now : Int) :
    (m.runMatchingToEnd now).2 = (m.runMatching now).2 ∧
    (m.runMatchingToEnd now).1.queue = (m.runMatching now).1.queue ∧
    (m.runMatchingToEnd now).1 = (m.runMatching now).1 := by
  have same : m.runMatchingToEnd now = m.runMatching now := by
    unfold runMatchingToEnd runMatching runMatchingLocked
    rw [pairLoopToEnd_eq now _ reachable.wellFormed.coherent.fetchOrdered_ascending]
  rw [same]
  exact ⟨rfl, rfl, rfl⟩

end Matchmaker

/-- The first scan stops at `"bob"`, who is out of reach of `"alice"`, and never sees `"carol"`. -/
noncomputable def lowAndTwoHigh : Matchmaker ℚ :=
  ((Matchmaker.new.enqueue ⟨"alice", 1000, 0, "eu"⟩).enqueue ⟨"bob", 1300, 0, "eu"⟩).enqueue ⟨"carol", 1350, 0, "eu"⟩

theorem lowAndTwoHigh_reachable : lowAndTwoHigh.Reachable := .enqueue _ (.enqueue _ (.enqueue _ .new))

theorem runMatchingToEnd_eq_lowAndTwoHigh :
    ((lowAndTwoHigh.runMatchingToEnd 0).2 = (lowAndTwoHigh.runMatching 0).2 ∧
      (lowAndTwoHigh.runMatchingToEnd 0).1.queue = (lowAndTwoHigh.runMatching 0).1.queue ∧
      (lowAndTwoHigh.runMatchingToEnd 0).1 = (lowAndTwoHigh.runMatching 0).1) ∧
      (lowAndTwoHigh.runMatching 0).2.map Match.players = [["bob", "carol"]] :=
  ⟨Matchmaker.runMatchingToEnd_eq lowAndTwoHigh_reachable 0, by decide +kernel⟩

end Arena60
