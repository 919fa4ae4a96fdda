import Arena60.Core.GameLoop
import Mathlib.Algebra.Order.Group.Int

/-!
# The lifecycle of the game loop

When `Start` may be called, and what it has brought about when it returns.
-/

namespace Arena60

open Misc

universe u v

variable {Time : Type u} {Callback : Type v} [AddCommGroup Time] [LinearOrder Time]

/-! ## What a step of `Run` can do -/

/-- Between a check that found no stop and the section that calls the callback. -/
def RunPoint.committed : RunPoint Time → Bool
  | .frame .. | .callback .. => true
  | _ => false

namespace GameLoop

/-- What a section of `Run` leaves alone, and when it does more than go on. -/
structure RunEffect (loop : GameLoop Time Callback) (point : RunPoint Time) (items : List (LoopItem Time Callback))
    (point' : RunPoint Time) (loop' : GameLoop Time Callback) : Prop where
  inside : point ≠ .left
  targetDelta : loop'.targetDelta = loop.targetDelta
  thread : loop'.thread = loop.thread
  stopRequested : loop'.stopRequested = loop.stopRequested
  leaves : point' = .left → loop.stopRequested = true ∧ loop'.running = false
  remains : point' ≠ .left → loop'.running = loop.running
  commits : point'.committed = true → point.committed = true ∨ loop.stopRequested = false
  invokes : ∀ callback info, .invoked callback info ∈ items → point.committed = true
  calls : ∀ call, .called call ∉ items ∧ .returned call ∉ items
  ends : .terminated ∉ items

theorem runStep_effect {now : Time} {loop loop' : GameLoop Time Callback} {point point' : RunPoint Time}
    {items : List (LoopItem Time Callback)} (taken : loop.runStep now point = some (items, point', loop')) :
    RunEffect loop point items point' loop' := by
  cases point with
  | left => cases taken
  | stopCheck previous nextFrame =>
      rw [runStep] at taken
      split at taken
      · next requested =>
          cases taken
          constructor <;> simp [RunPoint.committed, requested]
      · next free =>
          cases taken
          constructor <;> simp [RunPoint.committed, free]
  | callback info nextFrame =>
      cases taken
      cases found : loop.callback <;> constructor <;> simp [RunPoint.committed]
  | pace previous nextFrame =>
      rw [runStep] at taken
      split at taken <;> cases taken <;> constructor <;> simp [RunPoint.committed]
  | wait previous nextFrame sleepDuration =>
      rw [runStep] at taken
      split at taken <;> cases taken <;> constructor <;> simp [RunPoint.committed]
  | asleep previous nextFrame deadline =>
      rw [runStep] at taken
      split at taken <;> cases taken
      constructor <;> simp [RunPoint.committed]
  | _ =>
      cases taken
      constructor <;> simp [RunPoint.committed, recordDuration]

end GameLoop

/-! ## The flags and the threads -/

/-- Inside of a `Start` that was not refused. -/
def ControlPoint.starting : ControlPoint → Bool
  | .startMetrics | .startFlag | .startThread => true
  | _ => false

namespace LoopThreads

variable {s s' : LoopThreads Time Callback} {items trace : List (LoopItem Time Callback)}
  {action : LoopAction Time Callback}

/-- How the flags tell of the threads, as long as the program is not terminated. -/
structure Sound (s : LoopThreads Time Callback) : Prop where
  alive : ∀ (i : Nat) (point : RunPoint Time), s.runs[i]? = some point → point ≠ .left →
    s.loop.running = true ∧ s.loop.thread = some i
  starting : s.control.starting = true → s.loop.running = true ∧
    ∀ (i : Nat) (point : RunPoint Time), s.runs[i]? = some point → point = .left
  flagged : s.control = .stopNotify → s.loop.stopRequested = true

omit [AddCommGroup Time] in
/-- No thread is in its loop while `running_` is not set. -/
theorem Sound.left_of_stopped (sound : Sound s) (stopped : s.loop.running = false) :
    ∀ (i : Nat) (point : RunPoint Time), s.runs[i]? = some point → point = .left := by
  intro i point found
  by_contra inside
  have running := (sound.alive i point found inside).1
  rw [stopped] at running
  cases running

/-- What a step of a `Run` thread does. -/
theorem run_eq_some {i : Nat} {now : Time} (taken : s.run i now = some (items, s')) :
    ∃ point point' loop', s.runs[i]? = some point ∧ s.loop.runStep now point = some (items, point', loop') ∧
      s' = { s with loop := loop', runs := s.runs.set i point', clock := now } := by
  obtain ⟨point, found, stepped⟩ := Option.bind_eq_some_iff.mp taken
  obtain ⟨result, ran, made⟩ := Option.map_eq_some_iff.mp stepped
  obtain ⟨rfl, rfl⟩ := Prod.mk.inj made
  exact ⟨point, result.2.1, result.2.2, found, ran, rfl⟩

theorem run_of_runStep {i : Nat} {now : Time} {point point' : RunPoint Time} {loop' : GameLoop Time Callback}
    (found : s.runs[i]? = some point) (stepped : s.loop.runStep now point = some (items, point', loop')) :
    s.run i now = some (items, { s with loop := loop', runs := s.runs.set i point', clock := now }) := by
  rw [LoopThreads.run, found, Option.bind_some, stepped, Option.map_some]

/-- A `Run` thread neither calls nor returns from anything that is called on the loop. -/
theorem run_silent {i : Nat} {now : Time} (taken : s.run i now = some (items, s')) (call call' : LoopCall Callback) :
    ∀ item ∈ items, ¬item = .returned call ∧ ¬item = .called call' := by
  obtain ⟨point, point', loop', _, stepped, _⟩ := run_eq_some taken
  have effect := GameLoop.runStep_effect stepped
  intro item member
  refine ⟨?_, ?_⟩
  · rintro rfl
    exact (effect.calls call).2 member
  · rintro rfl
    exact (effect.calls call').1 member

omit [AddCommGroup Time] in
theorem Sound.call (sound : Sound s) {call : LoopCall Callback}
    (taken : s.call call = some (items, s')) : Sound s' := by
  cases call with
  | start =>
      rw [LoopThreads.call] at taken
      split at taken
      · cases taken
        exact sound
      · next stopped =>
          cases taken
          have left := sound.left_of_stopped (by simpa using stopped)
          refine ⟨?_, fun _ => ⟨rfl, left⟩, fun notify => by cases notify⟩
          intro i point found inside
          exact absurd (left i point found) inside
  | stop =>
      rw [LoopThreads.call] at taken
      split at taken
      · cases taken
        exact ⟨sound.alive, fun starting => (by cases starting), fun notify => by cases notify⟩
      · cases taken
        exact sound
  | join =>
      rw [LoopThreads.call] at taken
      split at taken
      · cases taken
        exact sound
      · next i joined =>
          split at taken
          · next finished =>
              cases taken
              refine ⟨?_, sound.starting, sound.flagged⟩
              intro j point found inside
              have thread := (sound.alive j point found inside).2
              rw [joined] at thread
              cases thread
              rw [finished] at found
              cases found
              exact absurd rfl inside
          · cases taken
  | setUpdateCallback callback =>
      cases taken
      exact ⟨sound.alive, sound.starting, sound.flagged⟩

omit [AddCommGroup Time] [LinearOrder Time] in
theorem Sound.proceed (sound : Sound s) (going : s'.control ≠ .terminated)
    (taken : s.proceed = some (items, s')) : Sound s' := by
  have alive := sound.alive
  have starting := sound.starting
  unfold LoopThreads.proceed at taken
  cases point : s.control with
  | idle | terminated =>
      rw [point] at taken
      cases taken
  | startMetrics =>
      rw [point] at taken starting
      cases taken
      exact ⟨alive, fun _ => starting rfl, fun notify => by cases notify⟩
  | startFlag =>
      rw [point] at taken starting
      cases taken
      exact ⟨alive, fun _ => starting rfl, fun notify => by cases notify⟩
  | startThread =>
      rw [point] at taken starting
      obtain ⟨running, left⟩ := starting rfl
      dsimp only at taken
      split at taken
      · cases taken
        exact absurd rfl going
      · cases taken
        refine ⟨?_, fun starting => (by cases starting), fun notify => by cases notify⟩
        intro i created found inside
        refine ⟨running, ?_⟩
        by_cases earlier : i < s.runs.length
        · rw [List.getElem?_append_left earlier] at found
          exact absurd (left i created found) inside
        · have length := (List.getElem?_eq_some_iff.mp found).1
          simp only [List.length_append, List.length_cons, List.length_nil] at length
          exact congrArg some (by omega)
  | stopFlag =>
      rw [point] at taken
      cases taken
      exact ⟨alive, fun starting => (by cases starting), fun _ => rfl⟩
  | stopNotify =>
      rw [point] at taken
      cases taken
      exact ⟨alive, fun starting => (by cases starting), fun notify => by cases notify⟩

theorem Sound.run (sound : Sound s) {i : Nat} {now : Time} (taken : s.run i now = some (items, s')) :
    Sound s' := by
  obtain ⟨point, point', loop', found, stepped, rfl⟩ := run_eq_some taken
  have effect := GameLoop.runStep_effect stepped
  obtain ⟨running, thread⟩ := sound.alive i point found effect.inside
  refine ⟨?_, ?_, ?_⟩
  · intro j other found' inside
    rw [List.getElem?_set] at found'
    split at found'
    · next same =>
        subst same
        split at found'
        · cases found'
          exact ⟨(effect.remains inside).trans running, effect.thread.trans thread⟩
        · cases found'
    · next differ =>
        -- the only thread in its loop is the one that stepped
        have thread' := (sound.alive j other found' inside).2
        rw [thread] at thread'
        cases thread'
        exact absurd rfl differ
  · intro starting
    exact absurd ((sound.starting starting).2 i point found) effect.inside
  · intro notify
    exact effect.stopRequested.trans (sound.flagged notify)

theorem Sound.step (sound : Sound s) (going : s'.control ≠ .terminated)
    (performed : perform action s = some (items, s')) : Sound s' := by
  cases action with
  | call call =>
      rw [perform] at performed
      split at performed
      · exact sound.call performed
      · cases performed
  | proceed => exact sound.proceed going performed
  | run i now =>
      rw [perform] at performed
      split at performed
      · exact sound.run performed
      · cases performed

/-- A terminated program takes no step. -/
theorem perform_terminated (ended : s.control = .terminated) : perform action s = none := by
  cases action with
  | call call => simp [perform, ended]
  | proceed => simp [perform, proceed, ended]
  | run i now => simp [perform, ended]

theorem Runs.sound (run : Runs trace s) (going : s.control ≠ .terminated) : Sound s := by
  induction run with
  | start initial =>
      obtain ⟨targetDelta, clock, rfl⟩ := initial
      exact ⟨fun i point found => (by cases found), fun starting => (by cases starting),
        fun notify => by cases notify⟩
  | @next _ _ s s' _ step ih =>
      obtain ⟨action, performed⟩ := step
      by_cases ended : s.control = .terminated
      · rw [perform_terminated ended] at performed
        cases performed
      · exact (ih ended).step going performed

/-! ## When `Start` may be called -/

/-- `Start` is called when `thread_` is not joinable, or when the loop runs and no stop is requested. -/
def MayStart : LoopAction Time Callback → LoopThreads Time Callback → Prop
  | .call .start, s => s.loop.thread = none ∨ s.loop.running = true ∧ s.loop.stopRequested = false
  | _, _ => True

instance (action : LoopAction Time Callback) (s : LoopThreads Time Callback) : Decidable (MayStart action s) := by
  unfold MayStart
  split <;> infer_instance

/-- Some thread has not left its loop. -/
def InLoop (s : LoopThreads Time Callback) : Prop :=
  ∃ (i : Nat) (point : RunPoint Time), s.runs[i]? = some point ∧ point ≠ .left

/-- A `Start` has returned, and `Stop` was not called since. -/
def Started (trace : List (LoopItem Time Callback)) : Prop :=
  Standing (· = .returned .start) (· = .called .stop) trace

instance [DecidableEq Time] [DecidableEq Callback] (trace : List (LoopItem Time Callback)) :
    Decidable (Started trace) := decidableStanding _ _ trace

/-- The program was not terminated, and a `Start` that no `Stop` followed stands. -/
structure Restartable (trace : List (LoopItem Time Callback)) (s : LoopThreads Time Callback) : Prop where
  lives : .terminated ∉ trace
  stands : Started trace → s.loop.stopRequested = false ∧ s.InLoop

/-- The state of a loop whose `Start` is called with care. -/
structure Managed (trace : List (LoopItem Time Callback)) (s : LoopThreads Time Callback) : Prop where
  sound : Sound s
  going : s.control ≠ .terminated
  lives : .terminated ∉ trace
  fresh : s.control.starting = true → s.loop.thread = none
  unflagged : s.control = .startThread → s.loop.stopRequested = false
  serving : s.loop.running = true → s.control.starting = true ∨ s.InLoop
  stands : Started trace → s.loop.running = true ∧ s.loop.stopRequested = false ∧ s.control = .idle

omit [AddCommGroup Time] [LinearOrder Time] in
theorem started_cons (item : LoopItem Time Callback) (trace : List (LoopItem Time Callback)) :
    Started (item :: trace) ↔ item = .returned .start ∨ item ≠ .called .stop ∧ Started trace :=
  standing_cons _ _ _ _

omit [AddCommGroup Time] in
theorem Managed.call (managed : Managed trace s) (idle : s.control = .idle) {call : LoopCall Callback}
    (allowed : MayStart (.call call) s) (taken : s.call call = some (items, s')) :
    Managed (items.reverse ++ trace) s' := by
  obtain ⟨sound, going, lives, fresh, unflagged, serving, stands⟩ := managed
  have sound' := sound.call taken
  cases call with
  | start =>
      rw [LoopThreads.call] at taken
      split at taken
      · next running =>
          cases taken
          refine ⟨sound', going, by simpa using lives, fresh, unflagged, serving, ?_⟩
          intro _
          rcases allowed with loose | ⟨-, free⟩
          · rcases serving running with starting | ⟨i, point, found, inside⟩
            · rw [idle] at starting
              cases starting
            · have thread := (sound.alive i point found inside).2
              rw [loose] at thread
              cases thread
          · exact ⟨running, free, idle⟩
      · next stopped =>
          cases taken
          have loose : s.loop.thread = none := allowed.resolve_right fun both => stopped both.1
          refine ⟨sound', by simp, by simpa using lives, fun _ => loose, fun thread => (by cases thread),
            fun _ => Or.inl rfl, ?_⟩
          intro started
          rw [List.reverse_singleton, List.singleton_append, started_cons] at started
          obtain ⟨-, started⟩ := started.resolve_left (by simp)
          exact absurd (stands started).1 stopped
  | stop =>
      rw [LoopThreads.call] at taken
      split at taken
      · cases taken
        refine ⟨sound', by simp, by simpa using lives, fun starting => (by cases starting),
          fun thread => (by cases thread), ?_, ?_⟩
        · intro running
          rcases serving running with starting | inside
          · rw [idle] at starting
            cases starting
          · exact Or.inr inside
        · intro started
          simp [started_cons] at started
      · cases taken
        refine ⟨sound', going, by simpa using lives, fresh, unflagged, serving, ?_⟩
        intro started
        simp [started_cons] at started
  | join =>
      have quiet : ∀ items : List (LoopItem Time Callback), items = [.called .join, .returned .join] →
          (Started (items.reverse ++ trace) ↔ Started trace) ∧ (.terminated ∉ items.reverse ++ trace) := by
        rintro items rfl
        simp [started_cons, lives]
      rw [LoopThreads.call] at taken
      split at taken
      · cases taken
        obtain ⟨same, lives'⟩ := quiet _ rfl
        exact ⟨sound', going, lives', fresh, unflagged, serving, fun started => stands (same.mp started)⟩
      · split at taken
        · cases taken
          obtain ⟨same, lives'⟩ := quiet _ rfl
          exact ⟨sound', going, lives', fun _ => rfl, unflagged, serving, fun started => stands (same.mp started)⟩
        · cases taken
  | setUpdateCallback callback =>
      cases taken
      refine ⟨sound', going, by simpa using lives, fresh, unflagged, serving, ?_⟩
      intro started
      simp only [List.reverse_cons, List.reverse_nil, List.nil_append, List.cons_append, started_cons] at started
      simp at started
      exact stands started

omit [AddCommGroup Time] [LinearOrder Time] in
theorem Managed.proceed (managed : Managed trace s) (taken : s.proceed = some (items, s')) :
    Managed (items.reverse ++ trace) s' := by
  obtain ⟨sound, going, lives, fresh, unflagged, serving, stands⟩ := managed
  -- no `Start` stands in the middle of a call
  have inCall : s.control ≠ .idle → ¬Started trace := fun busy started => busy (stands started).2.2
  have taken' := taken
  unfold LoopThreads.proceed at taken
  cases point : s.control with
  | idle | terminated =>
      rw [point] at taken
      cases taken
  | startMetrics =>
      rw [point] at taken fresh inCall
      cases taken
      have sound' := sound.proceed (by simp) taken'
      exact ⟨sound', by simp, lives, fun _ => fresh rfl, fun thread => (by cases thread), fun _ => Or.inl rfl,
        fun started => absurd started (inCall (by simp))⟩
  | startFlag =>
      rw [point] at taken fresh inCall
      cases taken
      have sound' := sound.proceed (by simp) taken'
      exact ⟨sound', by simp, lives, fun _ => fresh rfl, fun _ => rfl, fun _ => Or.inl rfl,
        fun started => absurd started (inCall (by simp))⟩
  | startThread =>
      have loose := fresh (by rw [point]; rfl)
      have free := unflagged point
      have running := (sound.starting (by rw [point]; rfl)).1
      rw [point] at taken
      rw [loose] at taken
      cases taken
      have sound' := sound.proceed (by simp) taken'
      refine ⟨sound', by simp, by simpa using lives, fun starting => (by cases starting),
        fun thread => (by cases thread), ?_, fun _ => ⟨running, free, rfl⟩⟩
      intro _
      exact Or.inr ⟨s.runs.length, .entry, by simp, by simp⟩
  | stopFlag =>
      rw [point] at taken inCall serving
      cases taken
      have sound' := sound.proceed (by simp) taken'
      refine ⟨sound', by simp, lives, fun starting => (by cases starting), fun thread => (by cases thread), ?_,
        fun started => absurd started (inCall (by simp))⟩
      intro running
      exact Or.inr ((serving running).resolve_left (by simp [ControlPoint.starting]))
  | stopNotify =>
      rw [point] at taken inCall serving
      cases taken
      have sound' := sound.proceed (by simp) taken'
      refine ⟨sound', by simp, by simpa using lives, fun starting => (by cases starting),
        fun thread => (by cases thread), ?_, ?_⟩
      · intro running
        exact Or.inr ((serving running).resolve_left (by simp [ControlPoint.starting]))
      · intro started
        simp [started_cons, inCall] at started

theorem Managed.run (managed : Managed trace s) {i : Nat} {now : Time} (taken : s.run i now = some (items, s')) :
    Managed (items.reverse ++ trace) s' := by
  obtain ⟨sound, going, lives, fresh, unflagged, serving, stands⟩ := managed
  have sound' := sound.run taken
  have same : Started (items.reverse ++ trace) ↔ Started trace :=
    standing_append trace fun item member => run_silent taken .start .stop item (List.mem_reverse.mp member)
  obtain ⟨point, point', loop', found, stepped, rfl⟩ := run_eq_some taken
  have effect := GameLoop.runStep_effect stepped
  have here := (List.getElem?_eq_some_iff.mp found).1
  have idles : s.control.starting = false := by
    cases starting : s.control.starting with
    | false => rfl
    | true => exact absurd ((sound.starting starting).2 i point found) effect.inside
  refine ⟨sound', going, ?_, ?_, ?_, ?_, ?_⟩
  · have silent := effect.ends
    simp [lives, silent]
  · intro starting
    exact effect.thread.trans (fresh starting)
  · intro thread
    exact effect.stopRequested.trans (unflagged thread)
  · intro running
    have inside : point' ≠ .left := by
      intro exits
      have stopped := (effect.leaves exits).2
      rw [stopped] at running
      cases running
    exact Or.inr ⟨i, point', by simp [here], inside⟩
  · intro started
    obtain ⟨running, free, idle⟩ := stands (same.mp started)
    have inside : point' ≠ .left := by
      intro exits
      have requested := (effect.leaves exits).1
      rw [free] at requested
      cases requested
    exact ⟨(effect.remains inside).trans running, effect.stopRequested.trans free, idle⟩

/-- The runs in which every call of `Start` may be made. -/
abbrev CarefulRuns (trace : List (LoopItem Time Callback)) (s : LoopThreads Time Callback) : Prop :=
  Run Initial (StepWhen MayStart perform) trace s

theorem CarefulRuns.managed (run : CarefulRuns trace s) : Managed trace s := by
  refine Run.invariant ?_ ?_ run
  · intro s initial
    obtain ⟨targetDelta, clock, rfl⟩ := initial
    refine ⟨⟨fun i point found => (by cases found), fun starting => (by cases starting),
      fun notify => by cases notify⟩, by simp, by simp, fun _ => rfl,
      fun thread => (by cases thread), fun running => (by cases running), ?_⟩
    intro started
    exact absurd started (standing_nil _ _)
  · intro trace s items s' _ managed step
    obtain ⟨action, allowed, performed⟩ := step
    cases action with
    | call call =>
        rw [perform] at performed
        split at performed
        · next idle => exact managed.call idle allowed performed
        · cases performed
    | proceed => exact managed.proceed performed
    | run i now =>
        rw [perform] at performed
        split at performed
        · exact managed.run performed
        · cases performed

/-- In every run whose calls of `Start` may be made the loop is restartable. -/
theorem restartable_of_mayStart (run : CarefulRuns trace s) : Restartable trace s := by
  have managed := run.managed
  refine ⟨managed.lives, ?_⟩
  intro started
  obtain ⟨running, free, idle⟩ := managed.stands started
  have inside := (managed.serving running).resolve_left (by simp [idle, ControlPoint.starting])
  exact ⟨free, inside⟩

/-- Every other call of `Start` terminates the program or is lost. -/
theorem Runs.start_breaks (run : Runs trace s) (idle : s.control = .idle) (barred : ¬MayStart (.call .start) s) :
    ∃ trace' s', Runs trace' s' ∧ trace <:+ trace' ∧ ¬Restartable trace' s' := by
  obtain ⟨joinable, unfree⟩ := not_or.mp barred
  cases running : s.loop.running with
  | true =>
      have requested : s.loop.stopRequested ≠ false := fun free => unfree ⟨running, free⟩
      have lost : replay perform [.call .start] (trace, s) =
          some ([.returned .start, .called .start] ++ trace, s) := by
        simp [replay, perform, call, idle, running]
      refine ⟨_, s, run.replay lost, List.suffix_append _ _, ?_⟩
      intro restartable
      have started : Started ([.returned .start, .called .start] ++ trace) := by simp [started_cons]
      exact requested (restartable.stands started).1
  | false =>
      obtain ⟨i, thread⟩ := Option.ne_none_iff_exists'.mp joinable
      -- the call goes all the way to the assignment of the new thread
      have replayed : ∃ s', replay perform [.call .start, .proceed, .proceed, .proceed] (trace, s) =
          some ([.terminated, .called .start] ++ trace, s') := by
        simp [replay, perform, call, proceed, idle, running, GameLoop.clearMetrics, thread]
      obtain ⟨s', reached⟩ := replayed
      refine ⟨_, s', run.replay reached, List.suffix_append _ _, ?_⟩
      intro restartable
      exact restartable.lives (by simp)

end LoopThreads

/-- The loop is started, stopped, joined and started again; its second thread calls the callback. -/
def startTwice : List (LoopAction Int String) :=
  [.call (.setUpdateCallback (some "tick")), .call .start, .proceed, .proceed, .proceed, .run 0 0, .run 0 0, .run 0 0,
    .call .stop, .proceed, .run 0 1, .proceed, .run 0 2, .run 0 3, .run 0 4, .run 0 5, .call .join,
    .call .start, .proceed, .proceed, .proceed, .run 1 6, .run 1 7, .run 1 8, .run 1 8]

theorem restartable_of_mayStart_twice : ∃ (trace : List (LoopItem Int String)) (s : LoopThreads Int String),
    LoopThreads.Restartable trace s ∧ LoopThreads.Started trace ∧ s.runs.length = 2 := by
  have fresh : LoopThreads.Initial (⟨.new 16, .idle, [], 0⟩ : LoopThreads Int String) := ⟨16, 0, rfl⟩
  obtain ⟨trace, s, run, passed⟩ := exists_run_of_replay_when startTwice
    (fun trace s => decide (LoopThreads.Started trace) && s.runs.length == 2)
    fresh (show (replay (fun action s => if LoopThreads.MayStart action s then
      LoopThreads.perform action s else none) _ _).any _ = true by decide +kernel)
  rw [Bool.and_eq_true, decide_eq_true_iff, beq_iff_eq] at passed
  exact ⟨trace, s, LoopThreads.restartable_of_mayStart run, passed⟩

/-- The loop is started and stopped, and started again when its thread has left. -/
def startUnjoined : List (LoopAction Int String) :=
  [.call .start, .proceed, .proceed, .proceed, .run 0 0, .call .stop, .proceed, .proceed, .run 0 0,
    .call .start, .proceed, .proceed, .proceed]

/-- The second start terminates the program. -/
theorem start_unjoined_terminates : ¬∀ (trace : List (LoopItem Int String)) (s : LoopThreads Int String),
    LoopThreads.Runs trace s → LoopThreads.Restartable trace s := by
  intro claim
  have fresh : LoopThreads.Initial (⟨.new 16, .idle, [], 0⟩ : LoopThreads Int String) := ⟨16, 0, rfl⟩
  obtain ⟨trace, s, run, passed⟩ := exists_run_of_replay startUnjoined (fun trace _ => trace.contains .terminated)
    fresh (show (replay LoopThreads.perform _ _).any _ = true by decide +kernel)
  rw [List.contains_iff_mem] at passed
  exact (claim trace s run).lives passed

end Arena60
