import Arena60.Core.Lifecycle
import Mathlib.Algebra.Order.Group.Basic

/-!
# The schedule of the ticks

The distances between the starts of the ticks when only the callbacks take time and every sleep ends at
its deadline.
-/

namespace Arena60

open Misc

universe u v

/-- The frame that an item reports. -/
def LoopItem.framed? {Time : Type u} {Callback : Type v} : LoopItem Time Callback → Option (TickInfo Time)
  | .framed info => some info
  | _ => none

/-- The starts of the ticks of a trace, oldest first. -/
def frameStarts {Time : Type u} {Callback : Type v} (trace : List (LoopItem Time Callback)) : List Time :=
  (trace.reverse.filterMap LoopItem.framed?).map TickInfo.frameStart

theorem frameStarts_append {Time : Type u} {Callback : Type v} (items trace : List (LoopItem Time Callback)) :
    frameStarts (items.reverse ++ trace) =
      frameStarts trace ++ (items.filterMap LoopItem.framed?).map TickInfo.frameStart := by
  simp [frameStarts]

variable {Time : Type u} {Callback : Type v} [AddCommGroup Time] [LinearOrder Time]

/-! ## The closed form -/

/-- How long after the start of a tick its deadline is: the first deadline is one period late. -/
def lead (period : Time) (k : Nat) : Time := if k = 0 then period + period else period

/-- The start of a tick, when the callback of tick `k` takes `c k`. -/
def startOf (period : Time) (c : Nat → Time) (first : Time) : Nat → Time
  | 0 => first
  | k + 1 => startOf period c first k + max (lead period k) (c k)

section closedForm

variable {period : Time} {c : Nat → Time} {first : Time} {k : Nat}

theorem startOf_succ_of_early (early : c k < lead period k) :
    startOf period c first (k + 1) = startOf period c first k + lead period k := by
  rw [startOf, max_eq_left early.le]

theorem startOf_succ_of_overrun (overrun : lead period k ≤ c k) :
    startOf period c first (k + 1) = startOf period c first k + c k := by
  rw [startOf, max_eq_right overrun]

end closedForm

/-! ## Runs under the ideal clock -/

/-- What the ideal clock shows when a thread executes its next section: the callback has taken its
time, and a sleep has ended at its deadline. -/
def RunPoint.idealNow (c : Nat → Time) (clock : Time) : RunPoint Time → Time
  | .metrics info _ => clock + c info.tick
  | .asleep _ _ deadline => deadline
  | _ => clock

/-- The ticks that have started but are not counted yet. -/
def RunPoint.uncounted : RunPoint Time → Nat
  | .callback .. | .metrics .. => 1
  | _ => 0

namespace LoopThreads

/-- Steps under the ideal clock, without a call of `Stop`. -/
def Ideal (c : Nat → Time) : LoopAction Time Callback → LoopThreads Time Callback → Prop
  | .call .stop, _ => False
  | .run i now, s => ∀ point, s.runs[i]? = some point → now = point.idealNow c s.clock
  | _, _ => True

/-- The runs of a loop with a target period under the ideal clock. -/
abbrev IdealRuns (period : Time) (c : Nat → Time) (trace : List (LoopItem Time Callback))
    (s : LoopThreads Time Callback) : Prop :=
  Run (fun s => ∃ clock, s = ⟨.new period, .idle, [], clock⟩) (StepWhen (Ideal c) perform) trace s

variable {period first : Time} {c : Nat → Time} {s s' : LoopThreads Time Callback}
  {items trace : List (LoopItem Time Callback)}

theorem IdealRuns.runs (run : IdealRuns period c trace s) : Runs trace s := by
  induction run with
  | start initial =>
      obtain ⟨clock, rfl⟩ := initial
      exact .start ⟨period, clock, rfl⟩
  | next _ taken ih => exact .next ih taken.step

/-- Where a thread is on schedule; `k` is the tick counter. -/
def OnTime (period : Time) (c : Nat → Time) (first clock : Time) (k : Nat) : RunPoint Time → Prop
  | .entry => k = 0 ∧ clock = first
  | .stopCheck _ nextFrame | .frame _ nextFrame =>
      clock = startOf period c first k ∧ nextFrame + period = startOf period c first k + lead period k
  | .callback info nextFrame | .metrics info nextFrame =>
      clock = startOf period c first k ∧ nextFrame + period = startOf period c first k + lead period k ∧
        info.tick = k ∧ info.frameStart = startOf period c first k
  | .pace _ nextFrame => ∃ j, k = j + 1 ∧ clock = startOf period c first j + c j ∧
      nextFrame = startOf period c first j + lead period j
  | .wait _ nextFrame sleepDuration => k ≠ 0 ∧ nextFrame = startOf period c first k ∧
      clock + sleepDuration = startOf period c first k
  | .asleep _ nextFrame deadline => k ≠ 0 ∧ nextFrame = startOf period c first k ∧
      deadline = startOf period c first k
  | .reset _ => k ≠ 0 ∧ clock = startOf period c first k
  | .left => False

/-- The state of a loop on schedule. -/
structure OnSchedule (period : Time) (c : Nat → Time) (first : Time) (trace : List (LoopItem Time Callback))
    (s : LoopThreads Time Callback) : Prop where
  going : s.control ≠ .terminated ∧ s.control ≠ .stopFlag
  target : s.loop.targetDelta = period
  free : s.loop.stopRequested = false
  idle : s.runs = [] →
    s.loop.thread = none ∧ s.loop.tickCounter = 0 ∧ s.clock = first ∧ frameStarts trace = []
  single : s.runs = [] ∨ ∃ point, s.runs = [point]
  onTime : ∀ point, s.runs = [point] → OnTime period c first s.clock s.loop.tickCounter point ∧
    frameStarts trace =
      (List.range (s.loop.tickCounter + point.uncounted)).map (startOf period c first)

/-- The thread is in its loop. -/
theorem OnSchedule.inside (schedule : OnSchedule period c first trace s) {point : RunPoint Time}
    (only : s.runs = [point]) : point ≠ .left := by
  rintro rfl
  exact (schedule.onTime .left only).1

/-- While `Start` has more to do, there is no thread. -/
theorem OnSchedule.none_of_starting (schedule : OnSchedule period c first trace s) (sound : Sound s)
    (starting : s.control.starting = true) : s.runs = [] := by
  rcases schedule.single with none | ⟨point, only⟩
  · exact none
  · have found : s.runs[0]? = some point := by simp [only]
    exact absurd ((sound.starting starting).2 0 point found) (schedule.inside only)

/-- A section of `Run` keeps the schedule. -/
theorem OnTime.runStep [IsOrderedAddMonoid Time] {clock : Time} {loop loop' : GameLoop Time Callback}
    {point point' : RunPoint Time} (onTime : OnTime period c first clock loop.tickCounter point)
    (target : loop.targetDelta = period) (free : loop.stopRequested = false)
    (stepped : loop.runStep (point.idealNow c clock) point = some (items, point', loop')) :
    OnTime period c first (point.idealNow c clock) loop'.tickCounter point' ∧
      (List.range (loop'.tickCounter + point'.uncounted)).map (startOf period c first) =
        (List.range (loop.tickCounter + point.uncounted)).map (startOf period c first) ++
          (items.filterMap LoopItem.framed?).map TickInfo.frameStart := by
  cases point with
  | entry =>
      cases stepped
      obtain ⟨none, rfl⟩ := onTime
      refine ⟨⟨by rw [none]; rfl, ?_⟩, (List.append_nil _).symm⟩
      rw [none, target]
      exact add_assoc _ _ _
  | stopCheck previous nextFrame =>
      rw [GameLoop.runStep, free] at stepped
      cases stepped
      exact ⟨onTime, (List.append_nil _).symm⟩
  | frame previous nextFrame =>
      cases stepped
      obtain ⟨now, deadline⟩ := onTime
      refine ⟨⟨now, deadline, rfl, now⟩, ?_⟩
      have next : (List.range (loop.tickCounter + 1)).map (startOf period c first) =
          (List.range loop.tickCounter).map (startOf period c first) ++
            [startOf period c first loop.tickCounter] := by
        rw [List.range_succ, List.map_append]
        rfl
      rw [← now] at next
      exact next
  | callback info nextFrame =>
      have silent : (items.filterMap LoopItem.framed?).map TickInfo.frameStart = [] := by
        cases stepped
        cases loop.callback <;> rfl
      rw [silent, List.append_nil]
      cases stepped
      exact ⟨onTime, rfl⟩
  | metrics info nextFrame =>
      cases stepped
      obtain ⟨now, deadline, tick, start⟩ := onTime
      refine ⟨⟨loop.tickCounter, rfl, ?_, ?_⟩, (List.append_nil _).symm⟩
      · show clock + c info.tick = _
        rw [now, tick]
      · rw [target]
        exact deadline
  | pace previous nextFrame =>
      obtain ⟨j, counted, now, deadline⟩ := onTime
      rw [GameLoop.runStep] at stepped
      have now' : (RunPoint.pace previous nextFrame).idealNow c clock = startOf period c first j + c j := now
      split at stepped
      · next early =>
          cases stepped
          have early' : c j < lead period j := by
            rw [now', deadline] at early
            simpa using early
          have start : startOf period c first (j + 1) = startOf period c first j + lead period j :=
            startOf_succ_of_early early'
          refine ⟨⟨by omega, ?_, ?_⟩, (List.append_nil _).symm⟩
          · rw [counted, start, deadline]
          · rw [counted, start, deadline, add_sub_cancel]
      · next late =>
          cases stepped
          have overrun : lead period j ≤ c j := by
            rw [now', deadline] at late
            simpa using late
          refine ⟨⟨by omega, ?_⟩, (List.append_nil _).symm⟩
          rw [counted, now', startOf_succ_of_overrun overrun]
  | wait previous nextFrame sleepDuration =>
      rw [GameLoop.runStep, free] at stepped
      cases stepped
      exact ⟨onTime, (List.append_nil _).symm⟩
  | asleep previous nextFrame deadline =>
      obtain ⟨counted, next, wakes⟩ := onTime
      have awake : loop.stopRequested = true ∨
          deadline ≤ (RunPoint.asleep previous nextFrame deadline).idealNow c clock :=
        Or.inr le_rfl
      rw [GameLoop.runStep, if_pos awake] at stepped
      cases stepped
      refine ⟨⟨wakes, ?_⟩, (List.append_nil _).symm⟩
      rw [next, lead, if_neg counted]
  | reset previous =>
      obtain ⟨counted, now⟩ := onTime
      cases stepped
      refine ⟨⟨now, ?_⟩, (List.append_nil _).symm⟩
      rw [lead, if_neg counted]
      exact congrArg (· + period) now
  | left => cases stepped

theorem OnSchedule.call (schedule : OnSchedule period c first trace s) (sound : Sound s)
    {call : LoopCall Callback} (ideal : Ideal c (.call call) s) (taken : s.call call = some (items, s')) :
    OnSchedule period c first (items.reverse ++ trace) s' := by
  obtain ⟨going, target, free, idle, single, onTime⟩ := schedule
  have frames : items.filterMap LoopItem.framed? = [] →
      frameStarts (items.reverse ++ trace) = frameStarts trace := by
    intro none
    rw [frameStarts_append, none, List.map_nil, List.append_nil]
  cases call with
  | start =>
      rw [LoopThreads.call] at taken
      split at taken
      · cases taken
        have same := frames rfl
        exact ⟨going, target, free, by rwa [same], single, by rwa [same]⟩
      · next stopped =>
          cases taken
          have none : s.runs = [] := by
            rcases single with none | ⟨point, only⟩
            · exact none
            · have found : s.runs[0]? = some point := by simp [only]
              have left := sound.left_of_stopped (by simpa using stopped) 0 point found
              rw [left] at only
              exact absurd (onTime .left only).1 id
          have same := frames rfl
          refine ⟨by simp, target, free, by rwa [same], single, ?_⟩
          intro point only
          cases none.symm.trans only
  | stop => exact absurd ideal id
  | join =>
      rw [LoopThreads.call] at taken
      split at taken
      · cases taken
        have same := frames rfl
        exact ⟨going, target, free, by rwa [same], single, by rwa [same]⟩
      · next i joinable =>
          split at taken
          · next finished =>
              rcases single with none | ⟨point, only⟩
              · cases joinable.symm.trans (idle none).1
              · rw [only, List.getElem?_singleton] at finished
                split at finished
                · cases finished
                  exact absurd (onTime .left only).1 id
                · cases finished
          · cases taken
  | setUpdateCallback callback =>
      cases taken
      have same := frames rfl
      exact ⟨going, target, free, by rwa [same], single, by rwa [same]⟩

theorem OnSchedule.proceed (schedule : OnSchedule period c first trace s) (sound : Sound s)
    (taken : s.proceed = some (items, s')) : OnSchedule period c first (items.reverse ++ trace) s' := by
  have starting := schedule.none_of_starting sound
  obtain ⟨going, target, free, idle, single, onTime⟩ := schedule
  unfold LoopThreads.proceed at taken
  cases point : s.control with
  | idle | terminated =>
      rw [point] at taken
      cases taken
  | stopFlag => exact absurd point going.2
  | startMetrics =>
      rw [point] at taken starting
      cases taken
      have none := starting rfl
      refine ⟨by simp, target, free, ?_, single, ?_⟩
      · intro _
        obtain ⟨loose, -, rest⟩ := idle none
        exact ⟨loose, rfl, rest⟩
      · intro point only
        cases none.symm.trans only
  | startFlag =>
      rw [point] at taken starting
      cases taken
      have none := starting rfl
      refine ⟨by simp, target, rfl, idle, single, ?_⟩
      intro point only
      cases none.symm.trans only
  | startThread =>
      rw [point] at taken starting
      have none := starting rfl
      obtain ⟨loose, counted, clock, frames⟩ := idle none
      rw [loose, none] at taken
      cases taken
      refine ⟨by simp, target, free, fun created => (by cases created), Or.inr ⟨_, rfl⟩, ?_⟩
      intro point only
      cases only
      refine ⟨⟨counted, clock⟩, ?_⟩
      have silent : frameStarts (.returned .start :: trace) = [] := by
        simpa [frameStarts, LoopItem.framed?] using frames
      rw [counted]
      exact silent
  | stopNotify =>
      have requested := sound.flagged point
      rw [free] at requested
      cases requested

theorem OnSchedule.run [IsOrderedAddMonoid Time] (schedule : OnSchedule period c first trace s) {i : Nat} {now : Time}
    (ideal : Ideal c (.run i now) s) (taken : s.run i now = some (items, s')) :
    OnSchedule period c first (items.reverse ++ trace) s' := by
  obtain ⟨point, point', loop', found, stepped, rfl⟩ := run_eq_some taken
  obtain ⟨going, target, free, idle, single, onTime⟩ := schedule
  have effect := GameLoop.runStep_effect stepped
  rcases single with none | ⟨only, single⟩
  · rw [none] at found
    cases found
  · have here : i = 0 ∧ only = point := by
      rw [single, List.getElem?_singleton] at found
      split at found
      · next first => exact ⟨first, Option.some.inj found⟩
      · cases found
    obtain ⟨rfl, rfl⟩ := here
    obtain ⟨clock, frames⟩ := onTime only single
    rw [ideal only found] at stepped
    obtain ⟨clock', frames'⟩ := clock.runStep target free stepped
    have runs : s.runs.set 0 point' = [point'] := by
      rw [single]
      rfl
    refine ⟨going, effect.targetDelta.trans target, effect.stopRequested.trans free, ?_,
      Or.inr ⟨point', runs⟩, ?_⟩
    · intro none
      cases runs.symm.trans none
    · intro point same
      obtain rfl : point' = point := List.singleton_inj.mp (runs.symm.trans same)
      rw [frameStarts_append, frames, frames', ideal only found]
      exact ⟨clock', rfl⟩

/-- Every run under the ideal clock is on schedule. -/
theorem IdealRuns.onSchedule [IsOrderedAddMonoid Time] (run : IdealRuns period c trace s) :
    ∃ first, OnSchedule period c first trace s := by
  induction run with
  | start initial =>
      obtain ⟨clock, rfl⟩ := initial
      refine ⟨clock, ⟨by simp, by simp⟩, rfl, rfl, fun _ => ⟨rfl, rfl, rfl, rfl⟩, Or.inl rfl, ?_⟩
      intro point only
      cases only
  | next earlier step ih =>
      obtain ⟨first, schedule⟩ := ih
      obtain ⟨action, ideal, performed⟩ := step
      have sound := (IdealRuns.runs earlier).sound schedule.going.1
      refine ⟨first, ?_⟩
      cases action with
      | call call =>
          rw [perform] at performed
          split at performed
          · exact schedule.call sound ideal performed
          · cases performed
      | proceed => exact schedule.proceed sound performed
      | run i now =>
          rw [perform] at performed
          split at performed
          · exact schedule.run ideal performed
          · cases performed

/-- The starts of the ticks of a run under the ideal clock. -/
theorem IdealRuns.frameStarts_eq [IsOrderedAddMonoid Time] (run : IdealRuns period c trace s) :
    ∃ first n, frameStarts trace = (List.range n).map (startOf period c first) := by
  obtain ⟨first, schedule⟩ := run.onSchedule
  rcases schedule.single with none | ⟨point, only⟩
  · exact ⟨first, 0, (schedule.idle none).2.2.2⟩
  · exact ⟨first, _, (schedule.onTime point only).2⟩

/-! ## Runs with any number of ticks -/

/-- The next section of the only thread, under the ideal clock. -/
theorem IdealRuns.advance [IsOrderedAddMonoid Time] (run : IdealRuns period c trace s) {point point' : RunPoint Time}
    {loop' : GameLoop Time Callback} {now : Time} (only : s.runs = [point]) (ideal : now = point.idealNow c s.clock)
    (later : s.clock ≤ now) (stepped : s.loop.runStep now point = some (items, point', loop')) :
    IdealRuns period c (items.reverse ++ trace) { s with loop := loop', runs := [point'], clock := now } := by
  obtain ⟨first, schedule⟩ := run.onSchedule
  have found : s.runs[0]? = some point := by simp [only]
  have ran := run_of_runStep found stepped
  have runs : s.runs.set 0 point' = [point'] := by
    rw [only]
    rfl
  rw [runs] at ran
  refine run.next ⟨.run 0 now, ?_, ?_⟩
  · intro other found'
    rw [found] at found'
    cases found'
    exact ideal
  · rw [perform, if_pos ⟨schedule.going.1, later⟩]
    exact ran

/-- A run can come to the check for a stop after any number of ticks. -/
theorem exists_idealRun [IsOrderedAddMonoid Time] (Callback : Type v) (period : Time) {c : Nat → Time}
    (nonneg : ∀ k, 0 ≤ c k) (n : Nat) :
    ∃ (trace : List (LoopItem Time Callback)) (s : LoopThreads Time Callback) (previous nextFrame : Time),
      IdealRuns period c trace s ∧ s.runs = [.stopCheck previous nextFrame] ∧ s.loop.tickCounter = n := by
  induction n with
  | zero =>
      have fresh : IdealRuns period c [] (⟨.new period, .idle, [], 0⟩ : LoopThreads Time Callback) :=
        .start ⟨0, rfl⟩
      have called := fresh.next ⟨.call .start, trivial, rfl⟩
      have cleared := called.next ⟨.proceed, trivial, rfl⟩
      have unflagged := cleared.next ⟨.proceed, trivial, rfl⟩
      have created := unflagged.next ⟨.proceed, trivial, rfl⟩
      exact ⟨_, _, _, _, IdealRuns.advance created rfl rfl le_rfl rfl, rfl, rfl⟩
  | succ n ih =>
      obtain ⟨trace, s, previous, nextFrame, run, only, counted⟩ := ih
      obtain ⟨first, schedule⟩ := run.onSchedule
      have free := schedule.free
      have check : s.loop.runStep s.clock (.stopCheck previous nextFrame) =
          some ([], .frame previous nextFrame, s.loop) := by simp [GameLoop.runStep, free]
      have checked := run.advance only rfl le_rfl check
      have framed := IdealRuns.advance checked rfl rfl le_rfl rfl
      have called := IdealRuns.advance framed rfl rfl le_rfl rfl
      have recorded := IdealRuns.advance called rfl rfl (le_add_of_nonneg_right (nonneg _)) rfl
      let now := s.clock + c s.loop.tickCounter
      let deadline := nextFrame + s.loop.targetDelta
      let loop := s.loop.recordDuration (s.clock - previous)
      have counted' : loop.tickCounter = n + 1 := congrArg (· + 1) counted
      -- the thread sleeps or resets its deadline
      by_cases early : deadline - now > 0
      · have pace : loop.runStep now (.pace s.clock deadline) =
            some ([], .wait s.clock deadline (deadline - now), loop) := by simp [GameLoop.runStep, early]
        have wait : loop.runStep now (.wait s.clock deadline (deadline - now)) =
            some ([], .asleep s.clock deadline (now + (deadline - now)), loop) := by
          simp [GameLoop.runStep, GameLoop.recordDuration, loop, free]
        have wake : loop.runStep (now + (deadline - now)) (.asleep s.clock deadline (now + (deadline - now))) =
            some ([], .stopCheck s.clock deadline, loop) := by simp [GameLoop.runStep]
        have paced := IdealRuns.advance recorded rfl rfl le_rfl pace
        have waits := IdealRuns.advance paced rfl rfl le_rfl wait
        have wakes := IdealRuns.advance waits rfl rfl (le_add_of_nonneg_right early.le) wake
        exact ⟨_, _, _, _, wakes, rfl, counted'⟩
      · have pace : loop.runStep now (.pace s.clock deadline) = some ([], .reset s.clock, loop) := by
          simp [GameLoop.runStep, early]
        have paced := IdealRuns.advance recorded rfl rfl le_rfl pace
        have resets := IdealRuns.advance paced rfl rfl le_rfl rfl
        exact ⟨_, _, _, _, resets, rfl, counted'⟩

/-- The start of tick `k + 1` is a time `d` after the start of tick `k`, in every run, and there are runs
with these ticks. -/
structure Interval (Callback : Type v) (period : Time) (c : Nat → Time) (k : Nat) (d : Time) : Prop where
  reached : ∃ (trace : List (LoopItem Time Callback)) (s : LoopThreads Time Callback),
    IdealRuns period c trace s ∧ k + 1 < (frameStarts trace).length
  apart : ∀ (trace : List (LoopItem Time Callback)) (s : LoopThreads Time Callback), IdealRuns period c trace s →
    ∀ a b, (frameStarts trace)[k]? = some a → (frameStarts trace)[k + 1]? = some b → b - a = d

theorem interval_lead [IsOrderedAddMonoid Time] (Callback : Type v) (period : Time) {c : Nat → Time}
    (nonneg : ∀ k, 0 ≤ c k) (k : Nat) : Interval Callback period c k (max (lead period k) (c k)) := by
  constructor
  · obtain ⟨trace, s, previous, nextFrame, run, only, counted⟩ := exists_idealRun Callback period nonneg (k + 2)
    obtain ⟨first, schedule⟩ := run.onSchedule
    refine ⟨trace, s, run, ?_⟩
    rw [(schedule.onTime _ only).2, List.length_map, List.length_range, counted]
    omega
  · intro trace s run a b start next
    obtain ⟨first, n, starts⟩ := run.frameStarts_eq
    have startAt : ∀ j x, (frameStarts trace)[j]? = some x → x = startOf period c first j := by
      intro j x found
      rw [starts, List.getElem?_map, Option.map_eq_some_iff] at found
      obtain ⟨i, found, rfl⟩ := found
      obtain ⟨_, rfl⟩ := List.getElem?_eq_some_iff.mp found
      rw [List.getElem_range]
    rw [startAt k a start, startAt (k + 1) b next, startOf, add_sub_cancel_left]

theorem Interval.unique {k : Nat} {d d' : Time} (interval : Interval Callback period c k d)
    (interval' : Interval Callback period c k d') : d = d' := by
  obtain ⟨trace, s, run, long⟩ := interval.reached
  have start := List.getElem?_eq_getElem (Nat.lt_of_succ_lt long)
  have next := List.getElem?_eq_getElem long
  exact (interval.apart trace s run _ _ start next).symm.trans (interval'.apart trace s run _ _ start next)

/-- A tick starts the longer of a period and the callback after the one before it, but for the second
tick: it does so exactly when the first callback takes two periods. -/
theorem interval_eq_max_iff [IsOrderedAddMonoid Time] (Callback : Type v) {period : Time} (positive : 0 < period)
    {c : Nat → Time} (nonneg : ∀ k, 0 ≤ c k) :
    ((∀ k, Interval Callback period c k (max period (c k))) ↔ period + period ≤ c 0) ∧
      ∀ k, Interval Callback period c (k + 1) (max period (c (k + 1))) := by
  have later : ∀ k, Interval Callback period c (k + 1) (max period (c (k + 1))) := fun k =>
    interval_lead Callback period nonneg (k + 1)
  have first := interval_lead Callback period nonneg 0
  have longer : period < period + period := lt_add_of_pos_left period positive
  refine ⟨⟨?_, ?_⟩, later⟩
  · intro all
    have same := (all 0).unique first
    rw [lead, if_pos rfl] at same
    by_contra short
    rw [max_eq_left (not_le.mp short).le] at same
    exact (max_lt longer (not_le.mp short)).ne same
  · intro long k
    cases k with
    | zero =>
        have same : max (lead period 0) (c 0) = max period (c 0) := by
          rw [lead, if_pos rfl, max_eq_right long, max_eq_right (longer.le.trans long)]
        rwa [same] at first
    | succ k => exact later k

end LoopThreads

/-- A period of 16 and callbacks that take 5, 20, and then 5 each. -/
theorem interval_eq_max_iff_overrun :
    (¬∀ k, LoopThreads.Interval String (16 : Int) (fun k => if k = 1 then 20 else 5) k
      (max 16 (if k = 1 then 20 else 5))) ∧
    LoopThreads.Interval String (16 : Int) (fun k => if k = 1 then 20 else 5) 1 20 := by
  have nonneg : ∀ k : Nat, 0 ≤ (if k = 1 then 20 else 5 : Int) := by
    intro k
    split <;> decide
  obtain ⟨first, later⟩ := LoopThreads.interval_eq_max_iff String (show (0 : Int) < 16 by decide) nonneg
  exact ⟨fun all => absurd (first.mp all) (by decide), later 0⟩

/-- The first interval of a loop whose callbacks take no time is two periods long. -/
theorem first_interval_doubled : ¬∀ (period : Int) (c : Nat → Int), 0 < period → (∀ k, 0 ≤ c k) →
    ∀ k, LoopThreads.Interval String period c k (max period (c k)) := by
  intro claim
  have first := claim 16 (fun _ => 0) (by decide) (fun _ => le_rfl) 0
  have doubled := LoopThreads.interval_lead String (16 : Int) (c := fun _ => 0) (fun _ => le_rfl) 0
  exact absurd (first.unique doubled) (by decide)

end Arena60
