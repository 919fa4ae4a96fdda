import Arena60.Core.LoopTicks
import Arena60.Core.StopReturns

/-!
# What `Join` waits for

After a `Stop` the thread needs a few sections more, none of which can block, and then `Join` returns. Once
it has returned, there are no frames and no callbacks before the next call of `Start`.
-/

namespace Arena60

open Misc

universe u v

variable {Time : Type u} {Callback : Type v}

/-- How many sections a thread still executes once a stop is requested. -/
def RunPoint.sectionsLeft : RunPoint Time → Nat
  | .entry => 2
  | .stopCheck .. => 1
  | .frame .. => 6
  | .callback .. => 5
  | .metrics .. => 4
  | .pace .. => 3
  | .wait .. | .asleep .. | .reset .. => 2
  | .left => 0

theorem RunPoint.sectionsLeft_le (point : RunPoint Time) : point.sectionsLeft ≤ 6 := by
  cases point <;> simp [sectionsLeft]

/-- What an observer sees of a frame: its beginning, or a call of the callback. -/
def LoopItem.ofFrame : LoopItem Time Callback → Bool
  | .framed _ | .invoked .. => true
  | _ => false

/-- A `Join` has returned, and `Start` was not called since. -/
def LoopThreads.Joined (trace : List (LoopItem Time Callback)) : Prop :=
  Standing (· = .returned .join) (· = .called .start) trace

instance [DecidableEq Time] [DecidableEq Callback] (trace : List (LoopItem Time Callback)) :
    Decidable (LoopThreads.Joined trace) :=
  decidableStanding _ _ trace

variable [AddCommGroup Time] [LinearOrder Time]

namespace GameLoop

variable {loop : GameLoop Time Callback} {point : RunPoint Time}

/-- A thread that has to stop is never blocked, and comes closer to its end with each section. -/
theorem runStep_stopping (requested : loop.stopRequested = true) (inside : point ≠ .left) (now : Time) :
    ∃ items point' loop', loop.runStep now point = some (items, point', loop') ∧
      point.sectionsLeft = point'.sectionsLeft + 1 ∧ loop'.stopRequested = true := by
  cases point with
  | left => exact absurd rfl inside
  | stopCheck previous nextFrame => exact ⟨_, _, _, if_pos requested, rfl, requested⟩
  | pace previous nextFrame =>
      rw [runStep]
      split
      · exact ⟨_, _, _, rfl, rfl, requested⟩
      · exact ⟨_, _, _, rfl, rfl, requested⟩
  | wait previous nextFrame sleepDuration => exact ⟨_, _, _, if_pos requested, rfl, requested⟩
  | asleep previous nextFrame deadline => exact ⟨_, _, _, if_pos (Or.inl requested), rfl, requested⟩
  | _ => exact ⟨_, _, _, rfl, rfl, requested⟩

end GameLoop

namespace LoopThreads

variable {s s' : LoopThreads Time Callback} {items trace : List (LoopItem Time Callback)}

/-! ## Coming to an end -/

/-- The sections that are left, executed at any times, end with the thread out of its loop. -/
theorem exists_replay_left {i : Nat} :
    ∀ (times : List Time) {point : RunPoint Time} {s : LoopThreads Time Callback}
      (trace : List (LoopItem Time Callback)),
      s.runs[i]? = some point → point.sectionsLeft = times.length → s.loop.stopRequested = true →
      s.control = .idle → (s.clock :: times).IsChain (· ≤ ·) →
      ∃ later s', replay perform (times.map (.run i)) (trace, s) = some (later, s') ∧
        s'.runs[i]? = some .left ∧ s'.control = .idle ∧ s'.loop.thread = s.loop.thread
  | [], point, s, trace, found, sections, requested, idle, ordered => by
      have left : point = .left := by cases point <;> first | rfl | cases sections
      exact ⟨trace, s, rfl, left ▸ found, idle, rfl⟩
  | now :: times, point, s, trace, found, sections, requested, idle, ordered => by
      obtain ⟨later, ordered'⟩ := List.isChain_cons_cons.mp ordered
      have inside : point ≠ .left := by
        rintro rfl
        cases sections
      obtain ⟨items, point', loop', stepped, closer, requested'⟩ := GameLoop.runStep_stopping requested inside now
      have ran := run_of_runStep found stepped
      have performed : perform (.run i now) s = s.run i now := if_pos ⟨by simp [idle], later⟩
      have moved : (s.runs.set i point')[i]? = some point' :=
        List.getElem?_set_self (List.getElem?_eq_some_iff.mp found).1
      obtain ⟨trace', s', replayed, left, idle', thread⟩ :=
        exists_replay_left times
          (s := { s with loop := loop', runs := s.runs.set i point', clock := now }) (items.reverse ++ trace)
          moved (by simpa [sections] using closer.symm) requested' idle ordered'
      refine ⟨trace', s', ?_, left, idle', thread.trans (GameLoop.runStep_effect stepped).thread⟩
      rw [List.map_cons, replay, performed, ran]
      exact replayed

/-! ## Out of the loop -/

/-- No thread is in its loop, and none is being created. -/
structure Halted (s : LoopThreads Time Callback) : Prop where
  left : ∀ (i : Nat) (point : RunPoint Time), s.runs[i]? = some point → point = .left
  settled : s.control.starting = false

/-- The threads are to leave their loops, and none is being created. -/
structure Leaving (s : LoopThreads Time Callback) : Prop where
  requested : s.loop.stopRequested = true ∨
    ∀ (i : Nat) (point : RunPoint Time), s.runs[i]? = some point → point = .left
  settled : s.control.starting = false

/-- `Join` returns when the thread has left its loop, or there is none to wait for. -/
theorem Halted.of_join (sound : Sound s) {action : LoopAction Time Callback} (acted : Acted s action items s')
    (returned : .returned .join ∈ items) : Halted s' := by
  have idle_settled : s.control = .idle → s.control.starting = false := by
    intro idle
    rw [idle]
    rfl
  cases acted with
  | joinNothing idle unjoinable =>
      refine ⟨?_, idle_settled idle⟩
      intro i point found
      by_contra inside
      have thread := (sound.alive i point found inside).2
      rw [unjoinable] at thread
      cases thread
  | @join idle i joinable finished =>
      refine ⟨?_, idle_settled idle⟩
      intro j point found
      by_contra inside
      have thread := (sound.alive j point found inside).2
      rw [joinable] at thread
      cases thread
      rw [finished] at found
      cases found
      exact inside rfl
  | @run _ i now _ point point' items loop' found ran =>
      cases ran with
      | callback =>
          cases callback : s.loop.callback <;> rw [callback] at returned <;> simp at returned
      | _ => simp at returned
  | _ => simp at returned

/-- No thread comes back before the next `Start`. -/
theorem Halted.keep (halted : Halted s) {action : LoopAction Time Callback} (acted : Acted s action items s')
    (unstarted : .called .start ∉ items) : Halted s' := by
  have settled := halted.settled
  cases acted with
  | startRefused | start => simp at unstarted
  | clear point | unflag point | create point | terminate point =>
      rw [point] at settled
      cases settled
  | run _ _ found ran =>
      rw [halted.left _ _ found] at ran
      cases ran
  | stopRefused | joinNothing => exact halted
  | _ => exact ⟨halted.left, by first | exact settled | rfl⟩

/-- `Stop` returns when a stop is requested, or was not needed. -/
theorem Leaving.of_stop (sound : Sound s) {action : LoopAction Time Callback} (acted : Acted s action items s')
    (returned : .returned .stop ∈ items) : Leaving s' := by
  cases acted with
  | stopRefused idle stopped =>
      refine ⟨Or.inr (sound.left_of_stopped stopped), ?_⟩
      rw [idle]
      rfl
  | notify point => exact ⟨Or.inl (sound.flagged point), rfl⟩
  | @run _ i now _ point point' items loop' found ran =>
      cases ran with
      | callback =>
          cases callback : s.loop.callback <;> rw [callback] at returned <;> simp at returned
      | _ => simp at returned
  | _ => simp at returned

theorem Leaving.keep (leaving : Leaving s) {action : LoopAction Time Callback} (acted : Acted s action items s')
    (unstarted : .called .start ∉ items) : Leaving s' := by
  have settled := leaving.settled
  cases acted with
  | startRefused | start => simp at unstarted
  | clear point | unflag point | create point | terminate point =>
      rw [point] at settled
      cases settled
  | run _ _ found ran =>
      refine ⟨Or.inl ?_, settled⟩
      rcases leaving.requested with requested | left
      · cases ran <;> exact requested
      · rw [left _ _ found] at ran
        cases ran
  | stopRefused | joinNothing => exact leaving
  | flag => exact ⟨Or.inl rfl, rfl⟩
  | _ => exact ⟨leaving.requested, by first | exact settled | rfl⟩

theorem Runs.halted (run : Runs trace s) (joined : Joined trace) : Halted s := by
  refine Run.while_standing ?_ ?_ run joined
  · intro trace s items s' earlier step returned
    obtain ⟨action, performed⟩ := step
    obtain ⟨item, member, rfl⟩ := returned
    have acted := perform_acted performed
    exact .of_join (Runs.sound earlier acted.going) acted member
  · intro trace s items s' _ halted step unstarted
    obtain ⟨action, performed⟩ := step
    exact halted.keep (perform_acted performed) fun member => unstarted _ member rfl

theorem Runs.leaving (run : Runs trace s) (stopped : Stopped trace) : Leaving s := by
  refine Run.while_standing ?_ ?_ run stopped
  · intro trace s items s' earlier step returned
    obtain ⟨action, performed⟩ := step
    obtain ⟨item, member, rfl⟩ := returned
    have acted := perform_acted performed
    exact .of_stop (Runs.sound earlier acted.going) acted member
  · intro trace s items s' _ leaving step unstarted
    obtain ⟨action, performed⟩ := step
    exact leaving.keep (perform_acted performed) fun member => unstarted _ member rfl

/-- `thread_` is joinable with a thread that was created. -/
theorem Runs.thread_lt (run : Runs trace s) : ∀ i, s.loop.thread = some i → i < s.runs.length := by
  refine Run.invariant (P := fun _ s => ∀ i, s.loop.thread = some i → i < s.runs.length) ?_ ?_ run
  · intro s initial i thread
    obtain ⟨targetDelta, clock, rfl⟩ := initial
    cases thread
  · intro trace s items s' _ created step i thread
    obtain ⟨action, performed⟩ := step
    cases perform_acted performed with
    | create =>
        cases thread
        simp
    | terminate => simpa using Nat.lt_succ_of_lt (created i thread)
    | join => cases thread
    | run _ _ _ ran =>
        have same : s.loop.thread = some i := by cases ran <;> exact thread
        simpa using created i same
    | _ => exact created i thread

/-! ## The end of the loop -/

/-- Only a thread in its loop begins a frame or calls the callback, and then does nothing else. -/
theorem Acted.of_frame {action : LoopAction Time Callback} (acted : Acted s action items s')
    {item : LoopItem Time Callback} (member : item ∈ items) (loud : item.ofFrame = true) :
    (∃ (i : Nat) (point : RunPoint Time), s.runs[i]? = some point ∧ point ≠ .left) ∧ items = [item] := by
  cases acted with
  | @run _ i now _ point point' items loop' found ran =>
      have inside : point ≠ .left := by
        rintro rfl
        cases ran
      refine ⟨⟨i, point, found, inside⟩, ?_⟩
      cases ran with
      | frame =>
          cases List.mem_singleton.mp member
          rfl
      | callback =>
          cases callback : s.loop.callback <;> rw [callback] at member
          · cases member
          · cases List.mem_singleton.mp member
            rfl
      | _ => cases member
  | clear | unflag | flag => cases member
  | _ =>
      simp only [List.mem_cons, List.not_mem_nil, or_false] at member
      rcases member with rfl | rfl <;> cases loud

theorem Runs.silent_of_joined (run : Runs trace s) (item : LoopItem Time Callback)
    (older : List (LoopItem Time Callback)) (suffix : item :: older <:+ trace) (joined : Joined older) :
    item.ofFrame = false := by
  refine Run.invariant (P := fun trace _ => ∀ item older, item :: older <:+ trace → Joined older →
    item.ofFrame = false) ?_ ?_ run item older suffix joined
  · intro _ _ item older suffix
    simp at suffix
  · intro trace s items s' earlier silent step item older suffix joined
    obtain ⟨action, performed⟩ := step
    rcases suffix_cons_append suffix with before | ⟨rest, new, rfl⟩
    · exact silent item older before joined
    · by_contra loud
      have member : item ∈ items := List.mem_reverse.mp (new.subset List.mem_cons_self)
      obtain ⟨⟨i, point, found, inside⟩, only⟩ :=
        (perform_acted performed).of_frame member (Bool.eq_true_of_not_eq_false loud)
      have none : rest = [] := by
        have length := new.length_le
        rw [only] at length
        simpa using length
      rw [none, List.nil_append] at joined
      exact inside ((Runs.halted earlier joined).left i point found)

/-- `Join` returns when the thread it waits for has left its loop. -/
theorem join_returns_of_left (idle : s.control = .idle)
    (left : ∀ i, s.loop.thread = some i → s.runs[i]? = some .left) :
    ∃ s', perform (.call .join) s = some ([.called .join, .returned .join], s') := by
  rw [perform, if_pos idle, LoopThreads.call]
  cases joinable : s.loop.thread with
  | none => exact ⟨_, rfl⟩
  | some i => exact ⟨_, if_pos (left i joinable)⟩

/-- `Join` returns as soon as the thread has executed some sections, six at most, at whatever times. -/
theorem Leaving.join_returns (leaving : Leaving s) (sound : Sound s)
    (created : ∀ i, s.loop.thread = some i → i < s.runs.length) (idle : s.control = .idle)
    (trace : List (LoopItem Time Callback)) :
    ∃ i sections, sections ≤ 6 ∧
      ∀ times : List Time, times.length = sections → (s.clock :: times).IsChain (· ≤ ·) →
        ∃ later s', replay perform (times.map (.run i)) (trace, s) = some (later, s') ∧
          ∃ s'', perform (.call .join) s' = some ([.called .join, .returned .join], s'') := by
  by_cases left : ∀ (i : Nat) (point : RunPoint Time), s.runs[i]? = some point → point = .left
  · refine ⟨0, 0, Nat.zero_le 6, ?_⟩
    intro times none ordered
    cases List.length_eq_zero_iff.mp none
    refine ⟨trace, s, rfl, join_returns_of_left idle ?_⟩
    intro i thread
    have found := List.getElem?_eq_getElem (created i thread)
    rw [found, left i _ found]
  · push Not at left
    obtain ⟨i, point, found, inside⟩ := left
    have thread := (sound.alive i point found inside).2
    have requested : s.loop.stopRequested = true :=
      leaving.requested.resolve_right fun left => inside (left i point found)
    refine ⟨i, point.sectionsLeft, point.sectionsLeft_le, ?_⟩
    intro times length ordered
    obtain ⟨later, s', replayed, gone, idle', same⟩ :=
      exists_replay_left times trace found length.symm requested idle ordered
    refine ⟨later, s', replayed, join_returns_of_left idle' ?_⟩
    intro j joinable
    rw [same, thread] at joinable
    cases joinable
    exact gone

/-! ## Calls in between -/

/-- A section of one of the threads. -/
def isSectionOf (i : Nat) : LoopAction Time Callback → Bool
  | .run j _ => j == i
  | _ => false

/-- Whatever is done but a `Start`, each section of a thread brings it closer to its end, nothing blocks it before,
and `Join` returns when all threads have come to theirs. -/
def WindsDown (trace : List (LoopItem Time Callback)) (s : LoopThreads Time Callback) : Prop :=
  ∀ actions trace' s', (∀ action ∈ actions, action ≠ .call .start) →
    replay perform actions (trace, s) = some (trace', s') →
    (∀ i point, s.runs[i]? = some point → ∃ point', s'.runs[i]? = some point' ∧
      point'.sectionsLeft + actions.countP (isSectionOf i) = point.sectionsLeft ∧
      (point' ≠ .left → ∀ now, s'.clock ≤ now → (perform (.run i now) s').isSome)) ∧
    (s'.control = .idle → (∀ (i : Nat) (point : RunPoint Time), s'.runs[i]? = some point → point = .left) →
      ∃ s'', perform (.call .join) s' = some ([.called .join, .returned .join], s''))

theorem Acted.not_called_start {action : LoopAction Time Callback} (acted : Acted s action items s')
    (other : action ≠ .call .start) : .called .start ∉ items := by
  cases acted with
  | startRefused | start => exact absurd rfl other
  | run _ _ _ ran =>
      cases ran with
      | callback => cases s.loop.callback <;> simp
      | _ => simp
  | _ => simp

/-- After a `Stop` the program is not terminated before the next `Start`. -/
theorem Runs.going_of_stopped (run : Runs trace s) (stopped : Stopped trace) : s.control ≠ .terminated := by
  refine (Run.while_standing (P := fun s => s.control ≠ .terminated ∧ s.control.starting = false) ?_ ?_ run stopped).1
  · intro trace s items s' earlier step returned
    obtain ⟨action, performed⟩ := step
    obtain ⟨item, member, rfl⟩ := returned
    have acted := perform_acted performed
    have leaving := Leaving.of_stop (Runs.sound earlier acted.going) acted member
    refine ⟨?_, leaving.settled⟩
    cases acted with
    | terminate => simp at member
    | run going => exact going
    | stopRefused idle => simp [idle]
    | _ => simp_all
  · intro trace s items s' _ before step unstarted
    obtain ⟨action, performed⟩ := step
    obtain ⟨going, settled⟩ := before
    cases perform_acted performed with
    | startRefused | start => simp at unstarted
    | clear point | unflag point | create point | terminate point =>
        rw [point] at settled
        cases settled
    | flag | notify | stop => exact ⟨nofun, rfl⟩
    | _ => exact ⟨going, settled⟩

/-- A step other than a section of a thread leaves the thread where it is. -/
theorem Acted.keeps {action : LoopAction Time Callback} (acted : Acted s action items s') {i : Nat}
    {point : RunPoint Time} (other : isSectionOf i action = false) (found : s.runs[i]? = some point) :
    s'.runs[i]? = some point := by
  have length := (List.getElem?_eq_some_iff.mp found).1
  cases acted with
  | create | terminate => exact (List.getElem?_append_left length).trans found
  | run =>
      have differ := ne_of_beq_false other
      exact (List.getElem?_set_ne differ).trans found
  | _ => exact found

/-- A thread that has not left is never blocked, and a section brings it closer to its end. -/
theorem Leaving.section_left (leaving : Leaving s) (going : s.control ≠ .terminated) {i : Nat}
    {point : RunPoint Time} (found : s.runs[i]? = some point) (inside : point ≠ .left) {now : Time}
    (later : s.clock ≤ now) : ∃ items s' point', perform (.run i now) s = some (items, s') ∧
      s'.runs[i]? = some point' ∧ point.sectionsLeft = point'.sectionsLeft + 1 := by
  have requested := leaving.requested.resolve_right fun left => inside (left i point found)
  obtain ⟨items, point', loop', stepped, closer, -⟩ := GameLoop.runStep_stopping requested inside now
  have performed : perform (.run i now) s = s.run i now := if_pos ⟨going, later⟩
  refine ⟨items, _, point', performed.trans (run_of_runStep found stepped), ?_, closer⟩
  exact List.getElem?_set_self (List.getElem?_eq_some_iff.mp found).1

/-- Whatever is done after a `Stop` but a `Start`, it goes on standing, and each thread has executed its sections. -/
theorem Runs.sectionsLeft_replay : ∀ {actions : List (LoopAction Time Callback)}
    {trace trace' : List (LoopItem Time Callback)} {s s' : LoopThreads Time Callback}, Runs trace s → Stopped trace →
      (∀ action ∈ actions, action ≠ .call .start) → replay perform actions (trace, s) = some (trace', s') →
      Stopped trace' ∧ ∀ i point, s.runs[i]? = some point → ∃ point', s'.runs[i]? = some point' ∧
        point'.sectionsLeft + actions.countP (isSectionOf i) = point.sectionsLeft
  | [], trace, trace', s, s', _, stopped, _, replayed => by
      obtain ⟨rfl, rfl⟩ := Prod.mk.inj (Option.some.inj replayed)
      exact ⟨stopped, fun i point found => ⟨point, found, rfl⟩⟩
  | action :: actions, trace, trace', s, s', run, stopped, unstarted, replayed => by
      obtain ⟨other, others⟩ := List.forall_mem_cons.mp unstarted
      rw [replay] at replayed
      cases performed : perform action s with
      | none =>
          rw [performed] at replayed
          cases replayed
      | some result =>
          obtain ⟨items, next⟩ := result
          rw [performed] at replayed
          have acted := perform_acted performed
          have silent : ∀ item ∈ items.reverse, ¬item = .called .start := by
            rintro item member rfl
            exact acted.not_called_start other (List.mem_reverse.mp member)
          obtain ⟨stopped', later⟩ := sectionsLeft_replay (.next run ⟨action, performed⟩) (stopped.append silent) others
            replayed
          refine ⟨stopped', fun i point found => ?_⟩
          cases mine : isSectionOf i action with
          | false =>
              obtain ⟨point', found', sum⟩ := later i point (acted.keeps mine found)
              exact ⟨point', found', by rw [List.countP_cons_of_neg (by simp [mine]), sum]⟩
          | true =>
              obtain ⟨now, rfl⟩ : ∃ now, action = .run i now := by
                cases action with
                | run j now => exact ⟨now, by rw [eq_of_beq mine]⟩
                | _ => cases mine
              have inside : point ≠ .left := by
                rintro rfl
                cases acted with
                | run _ _ found' ran =>
                    cases found.symm.trans found'
                    cases ran
              have within : s.clock ≤ now := by
                cases acted
                assumption
              obtain ⟨items', next', point₁, performed', moved, closer⟩ :=
                (run.leaving stopped).section_left acted.going found inside within
              cases performed.symm.trans performed'
              obtain ⟨point', found', sum⟩ := later i point₁ moved
              refine ⟨point', found', ?_⟩
              rw [List.countP_cons_of_pos mine, closer, ← sum, Nat.add_assoc]

theorem Runs.windsDown (run : Runs trace s) (stopped : Stopped trace) : WindsDown trace s := by
  intro actions trace' s' unstarted replayed
  obtain ⟨stopped', sections⟩ := run.sectionsLeft_replay stopped unstarted replayed
  have run' : Runs trace' s' := run.replay replayed
  refine ⟨?_, ?_⟩
  · intro i point found
    obtain ⟨point', found', sum⟩ := sections i point found
    refine ⟨point', found', sum, fun inside now later => ?_⟩
    obtain ⟨items, next, -, performed, -⟩ :=
      (run'.leaving stopped').section_left (run'.going_of_stopped stopped') found' inside later
    rw [performed]
    rfl
  · intro idle left
    refine join_returns_of_left idle fun i joinable => ?_
    have found := List.getElem?_eq_getElem (run'.thread_lt i joinable)
    exact found.trans (congrArg some (left i _ found))

/-- Once `Join` has returned, no frame begins and no callback is called before the next call of `Start`;
and after a `Stop`, `Join` returns as soon as the thread has executed some sections, six at most, at
whatever times and whatever else is called in between but `Start`. -/
theorem Runs.join_ends (run : Runs trace s) :
    (∀ item older, item :: older <:+ trace → Joined older → item.ofFrame = false) ∧
      (Stopped trace → s.control = .idle → ∃ i sections, sections ≤ 6 ∧
        ∀ times : List Time, times.length = sections → (s.clock :: times).IsChain (· ≤ ·) →
          ∃ later s', replay perform (times.map (.run i)) (trace, s) = some (later, s') ∧
            ∃ s'', perform (.call .join) s' = some ([.called .join, .returned .join], s'')) ∧
      (Stopped trace → WindsDown trace s) := by
  refine ⟨run.silent_of_joined, ?_, run.windsDown⟩
  intro stopped idle
  have sound := run.sound (by simp [idle])
  exact (run.leaving stopped).join_returns sound run.thread_lt idle trace

end LoopThreads

/-- The loop is stopped while its thread calls the callback, and the thread executes its last sections. -/
theorem join_ends_inTime : ∃ (trace : List (LoopItem Int String)) (s : LoopThreads Int String),
    LoopThreads.Stopped trace ∧ s.control = .idle ∧ s.runs ≠ [.left] ∧
      (∃ i sections, sections ≤ 6 ∧ ∀ times : List Int, times.length = sections →
        (s.clock :: times).IsChain (· ≤ ·) → ∃ later s',
          replay LoopThreads.perform (times.map (.run i)) (trace, s) = some (later, s') ∧
            ∃ s'', LoopThreads.perform (.call .join) s' = some ([.called .join, .returned .join], s'')) ∧
      LoopThreads.WindsDown trace s := by
  have fresh : LoopThreads.Initial (⟨.new 16, .idle, [], 0⟩ : LoopThreads Int String) := ⟨16, 0, rfl⟩
  obtain ⟨trace, s, run, passed⟩ := exists_run_of_replay (startTwice.take 12)
    (fun (trace : List (LoopItem Int String)) (s : LoopThreads Int String) =>
      decide (LoopThreads.Stopped trace) && decide (s.control = .idle) && decide (s.runs ≠ [.left])) fresh
    (show (replay LoopThreads.perform _ _).any _ = true by decide +kernel)
  simp only [Bool.and_eq_true, decide_eq_true_iff] at passed
  obtain ⟨⟨stopped, idle⟩, inside⟩ := passed
  have ends := LoopThreads.Runs.join_ends run
  exact ⟨trace, s, stopped, idle, inside, ends.2.1 stopped idle, ends.2.2 stopped⟩

end Arena60
