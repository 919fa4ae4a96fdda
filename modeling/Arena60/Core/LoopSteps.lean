import Arena60.Core.Lifecycle

/-!
# What a step of the game loop can do

The sections of `Run` and the steps of the calls, each with its guard.
-/

namespace Arena60

universe u v

variable {Time : Type u} {Callback : Type v} [AddCommGroup Time] [LinearOrder Time]

namespace GameLoop

variable {now : Time} {loop loop' : GameLoop Time Callback} {point point' : RunPoint Time}
  {items : List (LoopItem Time Callback)}

/-- The sections of `Run`. -/
inductive Ran (now : Time) (loop : GameLoop Time Callback) :
    RunPoint Time → List (LoopItem Time Callback) → RunPoint Time → GameLoop Time Callback → Prop
  | enter : Ran now loop .entry [] (.stopCheck now (now + loop.targetDelta)) loop
  | leave {previous nextFrame : Time} (requested : loop.stopRequested = true) :
      Ran now loop (.stopCheck previous nextFrame) [] .left { loop with running := false }
  | stay {previous nextFrame : Time} (free : loop.stopRequested = false) :
      Ran now loop (.stopCheck previous nextFrame) [] (.frame previous nextFrame) loop
  | frame {previous nextFrame : Time} :
      Ran now loop (.frame previous nextFrame) [.framed ⟨loop.tickCounter, now - previous, now⟩]
        (.callback ⟨loop.tickCounter, now - previous, now⟩ nextFrame) loop
  | callback {info : TickInfo Time} {nextFrame : Time} :
      Ran now loop (.callback info nextFrame)
        (loop.callback.map fun callback => .invoked callback info).toList (.metrics info nextFrame) loop
  | metrics {info : TickInfo Time} {nextFrame : Time} :
      Ran now loop (.metrics info nextFrame) [] (.pace info.frameStart (nextFrame + loop.targetDelta))
        (loop.recordDuration info.deltaSeconds)
  | early {previous nextFrame : Time} :
      Ran now loop (.pace previous nextFrame) [] (.wait previous nextFrame (nextFrame - now)) loop
  | late {previous nextFrame : Time} : Ran now loop (.pace previous nextFrame) [] (.reset previous) loop
  | stopped {previous nextFrame sleepDuration : Time} :
      Ran now loop (.wait previous nextFrame sleepDuration) [] (.stopCheck previous nextFrame) loop
  | sleep {previous nextFrame sleepDuration : Time} (free : loop.stopRequested = false) :
      Ran now loop (.wait previous nextFrame sleepDuration) []
        (.asleep previous nextFrame (now + sleepDuration)) loop
  | wake {previous nextFrame deadline : Time} :
      Ran now loop (.asleep previous nextFrame deadline) [] (.stopCheck previous nextFrame) loop
  | reset {previous : Time} : Ran now loop (.reset previous) [] (.stopCheck previous now) loop

theorem runStep_ran (taken : loop.runStep now point = some (items, point', loop')) :
    Ran now loop point items point' loop' := by
  cases point with
  | left => cases taken
  | entry =>
      cases taken
      exact .enter
  | stopCheck previous nextFrame =>
      rw [runStep] at taken
      split at taken
      · cases taken
        exact .leave ‹_›
      · cases taken
        exact .stay (Bool.eq_false_of_not_eq_true ‹_›)
  | frame previous nextFrame =>
      cases taken
      exact .frame
  | callback info nextFrame =>
      cases taken
      exact .callback
  | metrics info nextFrame =>
      cases taken
      exact .metrics
  | pace previous nextFrame =>
      rw [runStep] at taken
      split at taken
      · cases taken
        exact .early
      · cases taken
        exact .late
  | wait previous nextFrame sleepDuration =>
      rw [runStep] at taken
      split at taken
      · cases taken
        exact .stopped
      · cases taken
        exact .sleep (Bool.eq_false_of_not_eq_true ‹_›)
  | asleep previous nextFrame deadline =>
      rw [runStep] at taken
      split at taken
      · cases taken
        exact .wake
      · cases taken
  | reset previous =>
      cases taken
      exact .reset

end GameLoop

namespace LoopThreads

variable {s s' : LoopThreads Time Callback} {items : List (LoopItem Time Callback)}
  {action : LoopAction Time Callback}

/-- The steps of the threads. -/
inductive Acted (s : LoopThreads Time Callback) :
    LoopAction Time Callback → List (LoopItem Time Callback) → LoopThreads Time Callback → Prop
  | startRefused (idle : s.control = .idle) (running : s.loop.running = true) :
      Acted s (.call .start) [.called .start, .returned .start] s
  | start (idle : s.control = .idle) (stopped : s.loop.running = false) :
      Acted s (.call .start) [.called .start] { s with loop.running := true, control := .startMetrics }
  | stop (idle : s.control = .idle) (running : s.loop.running = true) :
      Acted s (.call .stop) [.called .stop] { s with control := .stopFlag }
  | stopRefused (idle : s.control = .idle) (stopped : s.loop.running = false) :
      Acted s (.call .stop) [.called .stop, .returned .stop] s
  | joinNothing (idle : s.control = .idle) (unjoinable : s.loop.thread = none) :
      Acted s (.call .join) [.called .join, .returned .join] s
  | join (idle : s.control = .idle) {i : Nat} (joinable : s.loop.thread = some i)
      (left : s.runs[i]? = some .left) :
      Acted s (.call .join) [.called .join, .returned .join] { s with loop.thread := none }
  | setUpdateCallback (idle : s.control = .idle) (callback : Option Callback) :
      Acted s (.call (.setUpdateCallback callback))
        [.called (.setUpdateCallback callback), .returned (.setUpdateCallback callback)]
        { s with loop.callback := callback }
  | clear (point : s.control = .startMetrics) :
      Acted s .proceed [] { s with loop := s.loop.clearMetrics, control := .startFlag }
  | unflag (point : s.control = .startFlag) :
      Acted s .proceed [] { s with loop.stopRequested := false, control := .startThread }
  | create (point : s.control = .startThread) (unjoinable : s.loop.thread = none) :
      Acted s .proceed [.returned .start]
        { s with loop.thread := some s.runs.length, runs := s.runs ++ [.entry], control := .idle }
  | terminate (point : s.control = .startThread) (joinable : s.loop.thread.isSome = true) :
      Acted s .proceed [.terminated] { s with runs := s.runs ++ [.entry], control := .terminated }
  | flag (point : s.control = .stopFlag) :
      Acted s .proceed [] { s with loop.stopRequested := true, control := .stopNotify }
  | notify (point : s.control = .stopNotify) : Acted s .proceed [.returned .stop] { s with control := .idle }
  | run (going : s.control ≠ .terminated) {i : Nat} {now : Time} (later : s.clock ≤ now)
      {point point' : RunPoint Time} {items : List (LoopItem Time Callback)} {loop' : GameLoop Time Callback}
      (found : s.runs[i]? = some point) (ran : s.loop.Ran now point items point' loop') :
      Acted s (.run i now) items { s with loop := loop', runs := s.runs.set i point', clock := now }

theorem call_acted (idle : s.control = .idle) {call : LoopCall Callback}
    (taken : s.call call = some (items, s')) : Acted s (.call call) items s' := by
  cases call with
  | start =>
      rw [LoopThreads.call] at taken
      split at taken <;> cases taken
      · exact .startRefused idle ‹_›
      · exact .start idle (Bool.eq_false_of_not_eq_true ‹_›)
  | stop =>
      rw [LoopThreads.call] at taken
      split at taken <;> cases taken
      · exact .stop idle ‹_›
      · exact .stopRefused idle (Bool.eq_false_of_not_eq_true ‹_›)
  | join =>
      rw [LoopThreads.call] at taken
      split at taken
      · cases taken
        exact .joinNothing idle ‹_›
      · split at taken <;> cases taken
        exact .join idle ‹_› ‹_›
  | setUpdateCallback callback =>
      cases taken
      exact .setUpdateCallback idle callback

theorem proceed_acted (taken : s.proceed = some (items, s')) : Acted s .proceed items s' := by
  unfold LoopThreads.proceed at taken
  split at taken
  · cases taken
  · cases taken
    exact .clear ‹_›
  · cases taken
    exact .unflag ‹_›
  · split at taken <;> cases taken
    · exact .terminate ‹_› ‹_›
    · next point unjoinable => exact .create point (Option.not_isSome_iff_eq_none.mp unjoinable)
  · cases taken
    exact .flag ‹_›
  · cases taken
    exact .notify ‹_›
  · cases taken

theorem perform_acted (performed : perform action s = some (items, s')) : Acted s action items s' := by
  cases action with
  | call call =>
      rw [perform] at performed
      split at performed
      · exact call_acted ‹_› performed
      · cases performed
  | proceed => exact proceed_acted performed
  | run i now =>
      rw [perform] at performed
      split at performed
      · next allowed =>
          obtain ⟨point, point', loop', found, stepped, rfl⟩ := run_eq_some performed
          exact .run allowed.1 allowed.2 found (GameLoop.runStep_ran stepped)
      · cases performed

/-- A terminated program takes no step. -/
theorem Acted.going (acted : Acted s action items s') : s.control ≠ .terminated := by
  intro ended
  cases acted <;> simp_all

end LoopThreads

end Arena60
