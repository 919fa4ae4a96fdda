import Arena60.Matchmaking.PassGuarantees
import Arena60.Misc.Runs
import Mathlib.Logic.Function.Basic

/-!
# Threads on one matchmaker

Any number of threads call into one matchmaker. A section that holds a mutex is one
action; a call of `RunMatching` is its locked section, then for each match it made a
publication and, when a callback was set, the call of that callback, then the return,
each an action of its own. What is observed of a run is a list of events.
-/

namespace Arena60

open Misc

universe u v

/-- Where a thread stands in `RunMatching`: outside, about to publish the first of
`pending`, or about to pass `current` to the callback. -/
inductive Thread where
  | idle
  | delivering (callback : Option CallbackId) (pending made : List Match)
  | calling (callback : CallbackId) (current : Match) (pending made : List Match)
  deriving DecidableEq

namespace Thread

/-- The matches made by the call the thread is in. -/
def made : Thread → List Match
  | idle => []
  | delivering _ _ made => made
  | calling _ _ _ made => made

/-- The callback the call copied. -/
def callback : Thread → Option CallbackId
  | idle => none
  | delivering callback _ _ => callback
  | calling callback _ _ _ => some callback

/-- The matches still to be published. -/
def unpublished : Thread → List Match
  | idle => []
  | delivering _ pending _ => pending
  | calling _ _ pending _ => pending

/-- The matches the loop has not finished with. -/
def unfinished : Thread → List Match
  | idle => []
  | delivering _ pending _ => pending
  | calling _ current pending _ => current :: pending

/-- Where a call is after a publication. -/
def afterPublish (callback : Option CallbackId) (next : Match) (pending made : List Match) : Thread :=
  match callback with
  | none => delivering none pending made
  | some callback => calling callback next pending made

end Thread

/-- What is observed of a run. -/
inductive Event (T : Type v) where
  | enqueued (playerId : String) (waiting : Bool)
  | cancelled (playerId : String) (removed : Bool)
  | created (thread : T) (callback : Option CallbackId) (made : List Match)
  | published (thread : T) (delivered : Match)
  | calledBack (thread : T) (callback : CallbackId) (delivered : Match)
  | returned (thread : T) (callback : Option CallbackId) (made : List Match)
  deriving DecidableEq

/-- What can happen next. -/
inductive Action (T : Type v) where
  | setMatchCreatedCallback (callback : Option CallbackId)
  | enqueue (request : MatchRequest)
  | cancel (playerId : String)
  | runMatching (thread : T) (now : Int)
  | deliver (thread : T)
  | poll
  | drain

/-- One matchmaker and the threads that use it. -/
structure Threads (R : Type u) (T : Type v) where
  matchmaker : Matchmaker R
  threads : T → Thread

namespace Threads

variable {R : Type u} [DoubleConversions R] {T : Type v} [DecidableEq T]

/-- A thread comes to another point. -/
def moveTo (s : Threads R T) (thread : T) (point : Thread) : Threads R T :=
  { s with threads := Function.update s.threads thread point }

/-- The matchmaker is fresh and no thread is in a call. -/
def Initial (s : Threads R T) : Prop := s.matchmaker = .new ∧ s.threads = fun _ => .idle

/-- Execute an action; `none` when the thread is not at that point. -/
def perform : Action T → Threads R T → Option (List (Event T) × Threads R T)
  | .setMatchCreatedCallback callback, s =>
      some ([], { s with matchmaker := s.matchmaker.setMatchCreatedCallback callback })
  | .enqueue request, s =>
      some ([.enqueued request.playerId (s.matchmaker.queue.holds request.playerId)],
        { s with matchmaker := s.matchmaker.enqueue request })
  | .cancel playerId, s =>
      some ([.cancelled playerId (s.matchmaker.cancel playerId).1],
        { s with matchmaker := (s.matchmaker.cancel playerId).2 })
  | .runMatching thread now, s =>
      match s.threads thread with
      | .idle =>
          let (matchmaker, made, callback) := s.matchmaker.runMatchingLocked now
          some ([.created thread callback made],
            { s with matchmaker }.moveTo thread (.delivering callback made made))
      | _ => none
  | .deliver thread, s =>
      match s.threads thread with
      | .idle => none
      | .delivering callback [] made =>
          some ([.returned thread callback made], s.moveTo thread .idle)
      | .delivering callback (next :: pending) made =>
          some ([.published thread next],
            { s with matchmaker := s.matchmaker.publish next }.moveTo thread
              (.afterPublish callback next pending made))
      | .calling callback current pending made =>
          some ([.calledBack thread callback current],
            s.moveTo thread (.delivering (some callback) pending made))
  | .poll, s => some ([], { s with matchmaker := s.matchmaker.poll.2 })
  | .drain, s => some ([], { s with matchmaker := s.matchmaker.drain.2 })

/-- What a step can be. -/
inductive Taken : Threads R T → List (Event T) → Threads R T → Prop
  | setMatchCreatedCallback (s : Threads R T) (callback : Option CallbackId) :
      Taken s [] { s with matchmaker := s.matchmaker.setMatchCreatedCallback callback }
  | enqueue (s : Threads R T) (request : MatchRequest) :
      Taken s [.enqueued request.playerId (s.matchmaker.queue.holds request.playerId)]
        { s with matchmaker := s.matchmaker.enqueue request }
  | cancel (s : Threads R T) (playerId : String) :
      Taken s [.cancelled playerId (s.matchmaker.cancel playerId).1]
        { s with matchmaker := (s.matchmaker.cancel playerId).2 }
  | runMatching (s : Threads R T) (thread : T) (now : Int) (point : s.threads thread = .idle) :
      Taken s [.created thread (s.matchmaker.runMatchingLocked now).2.2
          (s.matchmaker.runMatchingLocked now).2.1]
        ({ s with matchmaker := (s.matchmaker.runMatchingLocked now).1 }.moveTo thread
          (.delivering (s.matchmaker.runMatchingLocked now).2.2
            (s.matchmaker.runMatchingLocked now).2.1 (s.matchmaker.runMatchingLocked now).2.1))
  | publish (s : Threads R T) (thread : T) {callback : Option CallbackId} {next : Match}
      {pending made : List Match}
      (point : s.threads thread = .delivering callback (next :: pending) made) :
      Taken s [.published thread next]
        ({ s with matchmaker := s.matchmaker.publish next }.moveTo thread
          (.afterPublish callback next pending made))
  | callBack (s : Threads R T) (thread : T) {callback : CallbackId} {current : Match}
      {pending made : List Match} (point : s.threads thread = .calling callback current pending made) :
      Taken s [.calledBack thread callback current]
        (s.moveTo thread (.delivering (some callback) pending made))
  | finish (s : Threads R T) (thread : T) {callback : Option CallbackId} {made : List Match}
      (point : s.threads thread = .delivering callback [] made) :
      Taken s [.returned thread callback made] (s.moveTo thread .idle)
  | poll (s : Threads R T) : Taken s [] { s with matchmaker := s.matchmaker.poll.2 }
  | drain (s : Threads R T) : Taken s [] { s with matchmaker := s.matchmaker.drain.2 }

theorem perform_taken {action : Action T} {s s' : Threads R T} {items : List (Event T)}
    (performed : perform action s = some (items, s')) : Taken s items s' := by
  cases action with
  | setMatchCreatedCallback callback =>
      cases performed
      exact .setMatchCreatedCallback s callback
  | enqueue request =>
      cases performed
      exact .enqueue s request
  | cancel playerId =>
      cases performed
      exact .cancel s playerId
  | runMatching thread now =>
      cases point : s.threads thread with
      | idle =>
          simp only [perform, point] at performed
          cases performed
          exact .runMatching s thread now point
      | delivering _ _ _ => simp [perform, point] at performed
      | calling _ _ _ _ => simp [perform, point] at performed
  | deliver thread =>
      cases point : s.threads thread with
      | idle => simp [perform, point] at performed
      | delivering callback pending made =>
          cases pending with
          | nil =>
              simp only [perform, point] at performed
              cases performed
              exact .finish s thread point
          | cons next pending =>
              simp only [perform, point] at performed
              cases performed
              exact .publish s thread point
      | calling callback current pending made =>
          simp only [perform, point] at performed
          cases performed
          exact .callBack s thread point
  | poll =>
      cases performed
      exact .poll s
  | drain =>
      cases performed
      exact .drain s

/-- The runs of the system. -/
abbrev Runs (trace : List (Event T)) (s : Threads R T) : Prop := Run Initial (StepOf perform) trace s

/-- What holds at the start and is kept by every step from a reached state holds of
every run. -/
theorem Runs.invariant {P : List (Event T) → Threads R T → Prop}
    (atStart : ∀ s, Initial s → P [] s)
    (atStep : ∀ trace s items s', Runs trace s → P trace s → Taken s items s' →
      P (items.reverse ++ trace) s')
    {trace : List (Event T)} {s : Threads R T} (run : Runs trace s) : P trace s := by
  refine Run.invariant atStart ?_ run
  rintro trace s items s' run ih ⟨action, performed⟩
  exact atStep trace s items s' run ih (perform_taken performed)

/-- The matchmaker of a run is in a state the sections take it to. -/
theorem Runs.reachable {trace : List (Event T)} {s : Threads R T} (run : Runs trace s) :
    s.matchmaker.Reachable := by
  refine run.invariant (P := fun _ s => s.matchmaker.Reachable) ?_ ?_
  · intro s initial
    rw [initial.1]
    exact .new
  · intro trace s items s' _ ih taken
    cases taken with
    | setMatchCreatedCallback callback => exact .setMatchCreatedCallback callback ih
    | enqueue request => exact .enqueue request ih
    | cancel playerId => exact .cancel playerId ih
    | runMatching thread now point => exact .runMatchingLocked now ih
    | publish thread point => exact .publish _ ih
    | callBack thread point => exact ih
    | finish thread point => exact ih
    | poll => exact .poll ih
    | drain => exact .drain ih

end Threads

end Arena60
