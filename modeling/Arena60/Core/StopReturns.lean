import Arena60.Core.Lifecycle

/-!
# What a return of `Stop` promises

Whether the callback can still be called after `Stop` has returned.
-/

namespace Arena60

open Misc

universe u v

namespace LoopThreads

variable {Time : Type u} {Callback : Type v} [AddCommGroup Time] [LinearOrder Time]
  {s s' : LoopThreads Time Callback} {items trace : List (LoopItem Time Callback)}

/-- `Stop` returns while no thread is between its check for a stop and the section that calls the
callback. -/
def StopReturnsClear : LoopAction Time Callback → LoopThreads Time Callback → Prop
  | .proceed, s => s.control = .stopNotify → ∀ point ∈ s.runs, point.committed = false
  | _, _ => True

instance (action : LoopAction Time Callback) (s : LoopThreads Time Callback) :
    Decidable (StopReturnsClear action s) :=
  match action with
  | .proceed =>
      inferInstanceAs (Decidable (s.control = .stopNotify → ∀ point ∈ s.runs, point.committed = false))
  | .call _ | .run _ _ => isTrue trivial

/-- A `Stop` has returned, and `Start` was not called since. -/
def Stopped (trace : List (LoopItem Time Callback)) : Prop :=
  Standing (· = .returned .stop) (· = .called .start) trace

instance [DecidableEq Callback] (trace : List (LoopItem Time Callback)) : Decidable (Stopped trace) :=
  decidableStanding _ _ trace

/-- Once `Stop` has returned, the callback is not called before the next call of `Start`. -/
def QuietWhenStopped (trace : List (LoopItem Time Callback)) : Prop :=
  ∀ callback info older, .invoked callback info :: older <:+ trace → ¬Stopped older

/-- The threads after `Stop` has returned. -/
structure AtRest (s : LoopThreads Time Callback) : Prop where
  uncommitted : ∀ point ∈ s.runs, point.committed = false
  leaving : s.loop.stopRequested = true ∨ ∀ point ∈ s.runs, point = .left
  settled : s.control.starting = false

omit [AddCommGroup Time] [LinearOrder Time] in
theorem stopped_cons (item : LoopItem Time Callback) (trace : List (LoopItem Time Callback)) :
    Stopped (item :: trace) ↔ item = .returned .stop ∨ item ≠ .called .start ∧ Stopped trace :=
  standing_cons _ _ _ _

omit [AddCommGroup Time] in
theorem AtRest.call (sound : Sound s) (idle : s.control = .idle) (rests : Stopped trace → AtRest s)
    {call : LoopCall Callback} (taken : s.call call = some (items, s')) :
    Stopped (items.reverse ++ trace) → AtRest s' := by
  intro stopped
  cases call with
  | start =>
      rw [LoopThreads.call] at taken
      split at taken <;> cases taken <;> simp [stopped_cons] at stopped
  | stop =>
      rw [LoopThreads.call] at taken
      split at taken
      · cases taken
        simp [stopped_cons] at stopped
        have rest := rests stopped
        exact ⟨rest.uncommitted, rest.leaving, rfl⟩
      · next halted =>
          cases taken
          have left : ∀ point ∈ s.runs, point = .left := by
            intro point member
            obtain ⟨i, found⟩ := List.getElem?_of_mem member
            exact sound.left_of_stopped (by simpa using halted) i point found
          refine ⟨?_, Or.inr left, by rw [idle]; rfl⟩
          intro point member
          rw [left point member]
          rfl
  | join =>
      rw [LoopThreads.call] at taken
      split at taken
      · cases taken
        simp [stopped_cons] at stopped
        exact rests stopped
      · split at taken
        · cases taken
          simp [stopped_cons] at stopped
          have rest := rests stopped
          exact ⟨rest.uncommitted, rest.leaving, rest.settled⟩
        · cases taken
  | setUpdateCallback callback =>
      cases taken
      simp [stopped_cons] at stopped
      have rest := rests stopped
      exact ⟨rest.uncommitted, rest.leaving, rest.settled⟩

omit [AddCommGroup Time] [LinearOrder Time] in
theorem AtRest.proceed (sound : Sound s) (clear : StopReturnsClear .proceed s) (rests : Stopped trace → AtRest s)
    (taken : s.proceed = some (items, s')) : Stopped (items.reverse ++ trace) → AtRest s' := by
  intro stopped
  unfold LoopThreads.proceed at taken
  cases point : s.control with
  | idle | terminated =>
      rw [point] at taken
      cases taken
  | startMetrics | startFlag =>
      rw [point] at taken
      cases taken
      have settled := (rests stopped).settled
      rw [point] at settled
      cases settled
  | startThread =>
      rw [point] at taken
      have settled : Stopped trace → False := by
        intro earlier
        have settled := (rests earlier).settled
        rw [point] at settled
        cases settled
      dsimp only at taken
      split at taken <;> cases taken <;> simp [stopped_cons] at stopped <;> exact absurd stopped settled
  | stopFlag =>
      rw [point] at taken
      cases taken
      exact ⟨(rests stopped).uncommitted, Or.inl rfl, rfl⟩
  | stopNotify =>
      rw [point] at taken
      cases taken
      exact ⟨clear point, Or.inl (sound.flagged point), rfl⟩

/-- A thread that is at rest does not come to the callback. -/
theorem AtRest.run (rest : AtRest s) {i : Nat} {now : Time} (taken : s.run i now = some (items, s')) :
    AtRest s' := by
  obtain ⟨point, point', loop', found, stepped, rfl⟩ := run_eq_some taken
  have effect := GameLoop.runStep_effect stepped
  have member := List.mem_of_getElem? found
  have requested : s.loop.stopRequested = true :=
    rest.leaving.resolve_right fun left => effect.inside (left point member)
  refine ⟨?_, Or.inl (effect.stopRequested.trans requested), rest.settled⟩
  intro other listed
  rcases List.mem_or_eq_of_mem_set listed with earlier | rfl
  · exact rest.uncommitted other earlier
  · apply Bool.eq_false_iff.mpr
    intro commits
    rcases effect.commits commits with committed | free
    · rw [rest.uncommitted point member] at committed
      cases committed
    · rw [requested] at free
      cases free

/-! ## Runs -/

omit [AddCommGroup Time] in
theorem call_silent {call : LoopCall Callback} (taken : s.call call = some (items, s')) (callback : Callback)
    (info : TickInfo Time) : .invoked callback info ∉ items := by
  cases call with
  | start | stop =>
      rw [LoopThreads.call] at taken
      split at taken <;> cases taken <;> simp
  | join =>
      rw [LoopThreads.call] at taken
      split at taken
      · cases taken
        simp
      · split at taken <;> cases taken
        simp
  | setUpdateCallback callback =>
      cases taken
      simp

omit [AddCommGroup Time] [LinearOrder Time] in
theorem proceed_silent (taken : s.proceed = some (items, s')) (callback : Callback)
    (info : TickInfo Time) : .invoked callback info ∉ items := by
  unfold LoopThreads.proceed at taken
  split at taken
  · cases taken
  · cases taken
    simp
  · cases taken
    simp
  · split at taken <;> cases taken <;> simp
  · cases taken
    simp
  · cases taken
    simp
  · cases taken

omit [AddCommGroup Time] [LinearOrder Time] in
/-- Items without a call of the callback keep it quiet. -/
theorem QuietWhenStopped.append (quiet : QuietWhenStopped trace)
    (silent : ∀ callback info, .invoked callback info ∉ items) : QuietWhenStopped (items.reverse ++ trace) := by
  intro callback info older suffix
  rcases suffix_cons_append suffix with earlier | ⟨rest, new, -⟩
  · exact quiet callback info older earlier
  · have member : .invoked callback info ∈ items.reverse := new.subset List.mem_cons_self
    exact absurd (List.mem_reverse.mp member) (silent callback info)

/-- The callback is only called by a thread that is not at rest. -/
theorem QuietWhenStopped.run (quiet : QuietWhenStopped trace) (rests : Stopped trace → AtRest s) {i : Nat}
    {now : Time} (taken : s.run i now = some (items, s')) : QuietWhenStopped (items.reverse ++ trace) := by
  have silent := run_silent taken .stop .start
  obtain ⟨point, point', loop', found, stepped, rfl⟩ := run_eq_some taken
  have effect := GameLoop.runStep_effect stepped
  intro callback info older suffix
  rcases suffix_cons_append suffix with earlier | ⟨rest, new, rfl⟩
  · exact quiet callback info older earlier
  · intro stopped
    have invoked : .invoked callback info ∈ items := List.mem_reverse.mp (new.subset List.mem_cons_self)
    have same : Stopped (rest ++ trace) ↔ Stopped trace := standing_append trace fun item member =>
      silent item (List.mem_reverse.mp (new.subset (List.mem_cons_of_mem _ member)))
    have uncommitted := (rests (same.mp stopped)).uncommitted point (List.mem_of_getElem? found)
    rw [effect.invokes callback info invoked] at uncommitted
    cases uncommitted

/-- The runs in which every `Stop` that returns leaves no thread on its way to the callback. -/
abbrev ClearRuns (trace : List (LoopItem Time Callback)) (s : LoopThreads Time Callback) : Prop :=
  Run Initial (StepWhen StopReturnsClear perform) trace s

theorem ClearRuns.runs (run : ClearRuns trace s) : Runs trace s := run.mono fun _ _ _ taken => taken.step

theorem ClearRuns.rests (run : ClearRuns trace s) : (Stopped trace → AtRest s) ∧ QuietWhenStopped trace := by
  refine Run.invariant (P := fun trace s => (Stopped trace → AtRest s) ∧ QuietWhenStopped trace) ?_ ?_ run
  · intro s _
    refine ⟨fun stopped => absurd stopped (standing_nil _ _), ?_⟩
    intro callback info older suffix
    simp at suffix
  · intro trace s items s' earlier both step
    obtain ⟨rests, quiet⟩ := both
    obtain ⟨action, clear, performed⟩ := step
    have going : s.control ≠ .terminated := by
      intro ended
      rw [perform_terminated ended] at performed
      cases performed
    have sound := (ClearRuns.runs earlier).sound going
    cases action with
    | call call =>
        rw [perform] at performed
        split at performed
        · next idle => exact ⟨AtRest.call sound idle rests performed, quiet.append (call_silent performed)⟩
        · cases performed
    | proceed => exact ⟨AtRest.proceed sound clear rests performed, quiet.append (proceed_silent performed)⟩
    | run i now =>
        rw [perform] at performed
        split at performed
        · have same : Stopped (items.reverse ++ trace) ↔ Stopped trace := standing_append trace fun item member =>
            run_silent performed .stop .start item (List.mem_reverse.mp member)
          exact ⟨fun stopped => (rests (same.mp stopped)).run performed, quiet.run rests performed⟩
        · cases performed

/-- Once `Stop` has returned with no thread on its way to the callback, the callback is not called before
the next call of `Start`. -/
theorem quiet_of_stopReturnsClear (run : ClearRuns trace s) : QuietWhenStopped trace := run.rests.2

/-- After every other return of `Stop` the callback can be called. -/
theorem Runs.stop_breaks (run : Runs trace s) {callback : Callback} (set : s.loop.callback = some callback)
    (returns : s.control = .stopNotify) (barred : ¬StopReturnsClear .proceed s) :
    ∃ trace' s', Runs trace' s' ∧ trace <:+ trace' ∧ ¬QuietWhenStopped trace' := by
  have committed : ∃ point ∈ s.runs, point.committed = true := by
    by_contra none
    push Not at none
    exact barred fun _ point member => Bool.eq_false_iff.mpr (none point member)
  obtain ⟨point, member, committed⟩ := committed
  obtain ⟨i, found⟩ := List.getElem?_of_mem member
  -- `Stop` returns, and the thread goes on
  have returned : perform .proceed s = some ([.returned .stop], { s with control := .idle }) := by
    simp [perform, proceed, returns]
  have goes : ∀ s' : LoopThreads Time Callback, s'.control = .idle →
      perform (.run i s'.clock) s' = s'.run i s'.clock := by
    intro s' idle
    simp [perform, idle]
  cases point with
  | frame previous nextFrame =>
      let info : TickInfo Time := ⟨s.loop.tickCounter, s.clock - previous, s.clock⟩
      let framed : LoopThreads Time Callback :=
        { s with control := .idle, runs := s.runs.set i (.callback info nextFrame) }
      have frames : perform (.run i s.clock) { s with control := .idle } = some ([.framed info], framed) :=
        (goes _ rfl).trans (run_of_runStep found rfl)
      have found' : framed.runs[i]? = some (.callback info nextFrame) := by
        simp [framed, (List.getElem?_eq_some_iff.mp found).1]
      have stepped : framed.loop.runStep s.clock (.callback info nextFrame) =
          some ([.invoked callback info], .metrics info nextFrame, s.loop) := by
        simp [GameLoop.runStep, framed, set]
      have invokes := (goes framed rfl).trans (run_of_runStep found' stepped)
      refine ⟨_, _, ((run.next ⟨_, returned⟩).next ⟨_, frames⟩).next ⟨_, invokes⟩,
        ⟨[.invoked callback info, .framed info, .returned .stop], rfl⟩, ?_⟩
      intro quiet
      exact quiet callback info _ List.suffix_rfl (by simp [stopped_cons])
  | callback info nextFrame =>
      have stepped : s.loop.runStep s.clock (.callback info nextFrame) =
          some ([.invoked callback info], .metrics info nextFrame, s.loop) := by
        simp [GameLoop.runStep, set]
      have invokes := (goes { s with control := .idle } rfl).trans (run_of_runStep found stepped)
      refine ⟨_, _, (run.next ⟨_, returned⟩).next ⟨_, invokes⟩,
        ⟨[.invoked callback info, .returned .stop], rfl⟩, ?_⟩
      intro quiet
      exact quiet callback info _ List.suffix_rfl (by simp [stopped_cons])
  | _ => cases committed

end LoopThreads

/-- The loop is stopped while its thread calls the callback, and joined. -/
def stopInTime : List (LoopAction Int String) := startTwice.take 17

theorem quiet_of_stopReturnsClear_inTime : ∃ trace : List (LoopItem Int String),
    LoopThreads.QuietWhenStopped trace ∧ LoopThreads.Stopped trace ∧ .invoked "tick" ⟨0, 0, 0⟩ ∈ trace := by
  have fresh : LoopThreads.Initial (⟨.new 16, .idle, [], 0⟩ : LoopThreads Int String) := ⟨16, 0, rfl⟩
  obtain ⟨trace, _, run, passed⟩ := exists_run_of_replay_when stopInTime
    (fun trace _ => decide (LoopThreads.Stopped trace) && trace.contains (.invoked "tick" ⟨0, 0, 0⟩))
    fresh (show (replay (fun action s => if LoopThreads.StopReturnsClear action s then
      LoopThreads.perform action s else none) _ _).any _ = true by decide +kernel)
  rw [Bool.and_eq_true, decide_eq_true_iff, List.contains_iff_mem] at passed
  exact ⟨trace, LoopThreads.quiet_of_stopReturnsClear run, passed⟩

/-- The loop is stopped after its thread found no stop requested, and before the thread calls the callback. -/
def stopTooLate : List (LoopAction Int String) :=
  [.call (.setUpdateCallback (some "tick")), .call .start, .proceed, .proceed, .proceed, .run 0 0, .run 0 0,
    .call .stop, .proceed, .proceed, .run 0 1, .run 0 1]

/-- The callback is called after the stop has returned. -/
theorem stop_before_callback : ¬∀ (trace : List (LoopItem Int String)) (s : LoopThreads Int String),
    LoopThreads.Runs trace s → LoopThreads.QuietWhenStopped trace := by
  intro claim
  have fresh : LoopThreads.Initial (⟨.new 16, .idle, [], 0⟩ : LoopThreads Int String) := ⟨16, 0, rfl⟩
  obtain ⟨trace, _, run, passed⟩ := exists_run_of_replay stopTooLate
    (fun trace _ => trace.head? == some (.invoked "tick" ⟨0, 1, 1⟩) && decide (LoopThreads.Stopped trace.tail))
    fresh (show (replay LoopThreads.perform _ _).any _ = true by decide +kernel)
  rw [Bool.and_eq_true, decide_eq_true_iff, beq_iff_eq] at passed
  obtain ⟨invoked, stopped⟩ := passed
  obtain ⟨older, rfl⟩ := List.head?_eq_some_iff.mp invoked
  exact claim _ _ run "tick" ⟨0, 1, 1⟩ older List.suffix_rfl stopped

end Arena60
