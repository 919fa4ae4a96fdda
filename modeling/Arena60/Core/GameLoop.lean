import Arena60.Misc.Runs
import Mathlib.Algebra.Order.Group.Defs

/-!
# The game loop and its threads

`game_loop.{h,cpp}`. One thread calls `Start`, `Stop`, `Join` and `SetUpdateCallback`; each `Start` that is
not refused creates a thread that executes `Run`. A section under a mutex is one step, and so is
every access to a flag or the clock outside of one; the steps of the threads interleave in any order.
-/

namespace Arena60

open Misc

universe u v

/-- `TickInfo`. -/
structure TickInfo (Time : Type u) where
  tick : Nat
  deltaSeconds : Time
  frameStart : Time
  deriving DecidableEq

/-- `GameLoop`; `thread` is the number of the thread that `thread_` is joinable with. -/
structure GameLoop (Time : Type u) (Callback : Type v) where
  targetDelta : Time
  callback : Option Callback
  running : Bool
  thread : Option Nat
  stopRequested : Bool
  lastDurations : List Time
  tickCounter : Nat

/-- Where a thread is in `Run`: the section it executes next, with its local variables. -/
inductive RunPoint (Time : Type u) where
  | entry
  | stopCheck (previous nextFrame : Time)
  | frame (previous nextFrame : Time)
  | callback (info : TickInfo Time) (nextFrame : Time)
  | metrics (info : TickInfo Time) (nextFrame : Time)
  | pace (previous nextFrame : Time)
  | wait (previous nextFrame sleepDuration : Time)
  | asleep (previous nextFrame deadline : Time)
  | reset (previous : Time)
  | left
  deriving DecidableEq

/-- The calls of the controlling thread. -/
inductive LoopCall (Callback : Type v) where
  | start
  | stop
  | join
  | setUpdateCallback (callback : Option Callback)
  deriving DecidableEq

/-- Where the controlling thread is; `terminated` is the state after `std::terminate`. -/
inductive ControlPoint where
  | idle
  | startMetrics
  | startFlag
  | startThread
  | stopFlag
  | stopNotify
  | terminated
  deriving DecidableEq

/-- What an observer sees. -/
inductive LoopItem (Time : Type u) (Callback : Type v) where
  | called (call : LoopCall Callback)
  | returned (call : LoopCall Callback)
  | framed (info : TickInfo Time)
  | invoked (callback : Callback) (info : TickInfo Time)
  | terminated
  deriving DecidableEq

namespace GameLoop

variable {Time : Type u} {Callback : Type v}

/-- The constructor. -/
def new (targetDelta : Time) : GameLoop Time Callback where
  targetDelta := targetDelta
  callback := none
  running := false
  thread := none
  stopRequested := false
  lastDurations := []
  tickCounter := 0

/-- The locked section of `Start`. -/
def clearMetrics (loop : GameLoop Time Callback) : GameLoop Time Callback :=
  { loop with lastDurations := [], tickCounter := 0 }

/-- The section of `Run` under `metrics_mutex_`. -/
def recordDuration (loop : GameLoop Time Callback) (deltaSeconds : Time) : GameLoop Time Callback :=
  let lastDurations := loop.lastDurations ++ [deltaSeconds]
  { loop with
    lastDurations := if lastDurations.length > 240 then lastDurations.tail else lastDurations
    tickCounter := loop.tickCounter + 1 }

variable [AddCommGroup Time] [LinearOrder Time]

/-- The next section of `Run` when the clock shows `now`. -/
def runStep (now : Time) (loop : GameLoop Time Callback) :
    RunPoint Time → Option (List (LoopItem Time Callback) × RunPoint Time × GameLoop Time Callback)
  | .entry => some ([], .stopCheck now (now + loop.targetDelta), loop)
  | .stopCheck previous nextFrame =>
      if loop.stopRequested then some ([], .left, { loop with running := false })
      else some ([], .frame previous nextFrame, loop)
  | .frame previous nextFrame =>
      let info : TickInfo Time := ⟨loop.tickCounter, now - previous, now⟩
      some ([.framed info], .callback info nextFrame, loop)
  | .callback info nextFrame =>
      some ((loop.callback.map fun callback => .invoked callback info).toList, .metrics info nextFrame, loop)
  | .metrics info nextFrame =>
      some ([], .pace info.frameStart (nextFrame + loop.targetDelta), loop.recordDuration info.deltaSeconds)
  | .pace previous nextFrame =>
      if nextFrame - now > 0 then some ([], .wait previous nextFrame (nextFrame - now), loop)
      else some ([], .reset previous, loop)
  | .wait previous nextFrame sleepDuration =>
      if loop.stopRequested then some ([], .stopCheck previous nextFrame, loop)
      else some ([], .asleep previous nextFrame (now + sleepDuration), loop)
  | .asleep previous nextFrame deadline =>
      -- a wake-up that is neither a stop nor the timeout goes back to sleep
      if loop.stopRequested ∨ deadline ≤ now then some ([], .stopCheck previous nextFrame, loop) else none
  | .reset previous => some ([], .stopCheck previous now, loop)
  | .left => none

end GameLoop

/-- The loop, its controlling thread, the `Run` threads in the order of their creation, and the clock. -/
structure LoopThreads (Time : Type u) (Callback : Type v) where
  loop : GameLoop Time Callback
  control : ControlPoint
  runs : List (RunPoint Time)
  clock : Time

/-- A step of one of the threads. -/
inductive LoopAction (Time : Type u) (Callback : Type v) where
  | call (call : LoopCall Callback)
  | proceed
  | run (i : Nat) (now : Time)

namespace LoopThreads

variable {Time : Type u} {Callback : Type v}

/-- The first step of a call; `Join` blocks until the thread has left `Run`. -/
def call [DecidableEq Time] (s : LoopThreads Time Callback) :
    LoopCall Callback → Option (List (LoopItem Time Callback) × LoopThreads Time Callback)
  | .start =>
      if s.loop.running then some ([.called .start, .returned .start], s)
      else some ([.called .start], { s with loop.running := true, control := .startMetrics })
  | .stop =>
      if s.loop.running then some ([.called .stop], { s with control := .stopFlag })
      else some ([.called .stop, .returned .stop], s)
  | .join =>
      match s.loop.thread with
      | none => some ([.called .join, .returned .join], s)
      | some i =>
          if s.runs[i]? = some .left then
            some ([.called .join, .returned .join], { s with loop.thread := none })
          else none
  | .setUpdateCallback callback =>
      some ([.called (.setUpdateCallback callback), .returned (.setUpdateCallback callback)],
        { s with loop.callback := callback })

/-- The next step of the call that the controlling thread is in. -/
def proceed (s : LoopThreads Time Callback) :
    Option (List (LoopItem Time Callback) × LoopThreads Time Callback) :=
  match s.control with
  | .idle => none
  | .startMetrics => some ([], { s with loop := s.loop.clearMetrics, control := .startFlag })
  | .startFlag => some ([], { s with loop.stopRequested := false, control := .startThread })
  | .startThread =>
      if s.loop.thread.isSome then
        some ([.terminated], { s with runs := s.runs ++ [.entry], control := .terminated })
      else
        some ([.returned .start],
          { s with loop.thread := some s.runs.length, runs := s.runs ++ [.entry], control := .idle })
  | .stopFlag => some ([], { s with loop.stopRequested := true, control := .stopNotify })
  | .stopNotify => some ([.returned .stop], { s with control := .idle })
  | .terminated => none

variable [AddCommGroup Time] [LinearOrder Time]

/-- A step of a `Run` thread. -/
def run (s : LoopThreads Time Callback) (i : Nat) (now : Time) :
    Option (List (LoopItem Time Callback) × LoopThreads Time Callback) :=
  s.runs[i]?.bind fun point =>
    (s.loop.runStep now point).map fun result =>
      (result.1, { s with loop := result.2.2, runs := s.runs.set i result.2.1, clock := now })

/-- Execute an action. -/
def perform : LoopAction Time Callback → LoopThreads Time Callback →
    Option (List (LoopItem Time Callback) × LoopThreads Time Callback)
  | .call call, s => if s.control = .idle then s.call call else none
  | .proceed, s => s.proceed
  | .run i now, s => if s.control ≠ .terminated ∧ s.clock ≤ now then s.run i now else none

/-- A loop that was never started. -/
def Initial (s : LoopThreads Time Callback) : Prop :=
  ∃ targetDelta clock, s = ⟨.new targetDelta, .idle, [], clock⟩

/-- The runs of a loop and its threads. -/
abbrev Runs (trace : List (LoopItem Time Callback)) (s : LoopThreads Time Callback) : Prop :=
  Run Initial (StepOf perform) trace s

end LoopThreads

end Arena60
