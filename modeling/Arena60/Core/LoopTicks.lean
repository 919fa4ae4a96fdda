import Arena60.Core.LoopSteps
import Arena60.Core.Schedule
import Mathlib.Data.List.Chain
import Mathlib.Data.List.DropRight

/-!
# The ticks of the game loop

Whoever calls the loop and however its threads interleave, the frames since the last start are numbered
one after the other, each lasts as long as the gap to the one before, and each is handed to the callback
once at most. The durations that `LastDurations` shows are those of the newest frames.
-/

namespace Arena60

open Misc

universe u v

variable {Time : Type u} {Callback : Type v}

/-- The frame a callback is given. -/
def LoopItem.handed? : LoopItem Time Callback → Option (TickInfo Time)
  | .invoked _ info => some info
  | _ => none

/-- The frames of a trace, oldest first. -/
def frames (trace : List (LoopItem Time Callback)) : List (TickInfo Time) :=
  trace.reverse.filterMap LoopItem.framed?

/-- The frames of a trace that a callback was given, oldest first. -/
def handedFrames (trace : List (LoopItem Time Callback)) : List (TickInfo Time) :=
  trace.reverse.filterMap LoopItem.handed?

theorem frames_append (items trace : List (LoopItem Time Callback)) :
    frames (items.reverse ++ trace) = frames trace ++ items.filterMap LoopItem.framed? := by
  simp [frames]

theorem handedFrames_append (items trace : List (LoopItem Time Callback)) :
    handedFrames (items.reverse ++ trace) = handedFrames trace ++ items.filterMap LoopItem.handed? := by
  simp [handedFrames]

/-- The frame whose callback is called next. -/
def RunPoint.unhanded? : RunPoint Time → Option (TickInfo Time)
  | .callback info _ => some info
  | _ => none

/-- A frame and the one before it. -/
def Spaced [Sub Time] (earlier later : TickInfo Time) : Prop :=
  later.deltaSeconds = later.frameStart - earlier.frameStart

/-! ## Numbers and gaps -/

/-- Where a thread is, when `latest` are the frames since the last start and `count` of them are counted. -/
def RunPoint.Placed [LE Time] (latest : List (TickInfo Time)) (count : Nat) (clock : Time) :
    RunPoint Time → Prop
  | .entry => latest = []
  | .stopCheck previous _ | .frame previous _ | .pace previous _ | .wait previous _ _ | .asleep previous _ _
  | .reset previous =>
      previous ≤ clock ∧ latest.length = count ∧ ∀ info ∈ latest.getLast?, info.frameStart = previous
  | .callback info _ | .metrics info _ => latest.length = count + 1 ∧ latest.getLast? = some info
  | .left => True

variable [AddCommGroup Time] [LinearOrder Time]

/-- The durations the loop keeps of some frames. -/
def newestDurations (counted : List (TickInfo Time)) : List Time :=
  (counted.map TickInfo.deltaSeconds).rtake 240

omit [AddCommGroup Time] [LinearOrder Time] in
theorem newestDurations_nil : newestDurations ([] : List (TickInfo Time)) = [] := by
  simp [newestDurations, List.rtake]

/-- What is known of the frames since the last start. -/
structure LoopThreads.Ticked (latest : List (TickInfo Time)) (s : LoopThreads Time Callback) : Prop where
  numbers : latest.map TickInfo.tick = List.range latest.length
  spaced : latest.IsChain Spaced
  past : ∀ info ∈ latest, 0 ≤ info.deltaSeconds ∧ info.frameStart ≤ s.clock
  counted : s.loop.tickCounter ≤ latest.length
  durations : s.loop.lastDurations = newestDurations (latest.take s.loop.tickCounter)
  placed : ∀ (i : Nat) (point : RunPoint Time), s.runs[i]? = some point →
    point.Placed latest s.loop.tickCounter s.clock
  rest : (∀ (i : Nat) (point : RunPoint Time), s.runs[i]? = some point → point = .left) →
    latest.length = s.loop.tickCounter
  cleared : s.control = .startFlag ∨ s.control = .startThread → latest = []

omit [AddCommGroup Time] [LinearOrder Time] in
/-- The newest of some values when one more arrives. -/
theorem rtake_concat (capacity : Nat) (values : List Time) (value : Time) :
    (values ++ [value]).rtake capacity =
      if (values.rtake capacity ++ [value]).length > capacity then (values.rtake capacity ++ [value]).tail
      else values.rtake capacity ++ [value] := by
  have kept : values.rtake capacity ++ [value] =
      (values ++ [value]).drop (values.length - capacity) := by
    rw [List.rtake, List.drop_append_of_le_length (Nat.sub_le _ _)]
  rw [kept, List.rtake]
  simp only [List.length_append, List.length_singleton, List.length_drop, List.tail_drop]
  split_ifs with full
  · congr 1
    omega
  · congr 1
    omega

namespace GameLoop

omit [AddCommGroup Time] [LinearOrder Time] in
theorem recordDuration_lastDurations {loop : GameLoop Time Callback} {counted : List (TickInfo Time)}
    (durations : loop.lastDurations = newestDurations counted) (info : TickInfo Time) :
    (loop.recordDuration info.deltaSeconds).lastDurations = newestDurations (counted ++ [info]) := by
  rw [newestDurations] at durations ⊢
  rw [List.map_append, List.map_singleton, rtake_concat, ← durations, recordDuration]

end GameLoop

namespace LoopThreads

variable {s s' : LoopThreads Time Callback} {items trace : List (LoopItem Time Callback)}
  {latest : List (TickInfo Time)}

/-! ## Steps of a `Run` thread -/

/-- A thread in its loop goes on; the others have left theirs. -/
theorem Ticked.ran {latest' : List (TickInfo Time)} {i : Nat} {point point' : RunPoint Time}
    {loop' : GameLoop Time Callback} {now : Time} (sound : Sound s) (found : s.runs[i]? = some point)
    (inside : point ≠ .left) (numbers : latest'.map TickInfo.tick = List.range latest'.length)
    (spaced : latest'.IsChain Spaced)
    (past : ∀ info ∈ latest', 0 ≤ info.deltaSeconds ∧ info.frameStart ≤ now)
    (counted : loop'.tickCounter ≤ latest'.length)
    (durations : loop'.lastDurations = newestDurations (latest'.take loop'.tickCounter))
    (placed : point'.Placed latest' loop'.tickCounter now)
    (left : point' = .left → latest'.length = loop'.tickCounter) :
    Ticked latest' { s with loop := loop', runs := s.runs.set i point', clock := now } := by
  have thread := (sound.alive i point found inside).2
  refine ⟨numbers, spaced, past, counted, durations, ?_, ?_, ?_⟩
  · intro j other found'
    rw [List.getElem?_set] at found'
    split at found'
    · split at found'
      · cases found'
        exact placed
      · cases found'
    · next differ =>
        have gone : other = .left := by
          by_contra inside'
          have thread' := (sound.alive j other found' inside').2
          rw [thread] at thread'
          cases thread'
          exact differ rfl
        rw [gone]
        trivial
  · intro gone
    refine left (gone i point' ?_)
    rw [List.getElem?_set_self]
    exact (List.getElem?_eq_some_iff.mp found).1
  · intro starting
    have begun : s.control.starting = true := by
      rcases starting with flag | thread <;> simp_all [ControlPoint.starting]
    exact absurd ((sound.starting begun).2 i point found) inside

/-- A step that neither frames nor counts. -/
theorem Ticked.advance (ticked : Ticked latest s) (sound : Sound s) {i : Nat} {point point' : RunPoint Time}
    {loop' : GameLoop Time Callback} {now : Time} (found : s.runs[i]? = some point) (inside : point ≠ .left)
    (later : s.clock ≤ now) (count : loop'.tickCounter = s.loop.tickCounter)
    (durations : loop'.lastDurations = s.loop.lastDurations)
    (placed : point'.Placed latest s.loop.tickCounter now)
    (left : point' = .left → latest.length = s.loop.tickCounter) :
    Ticked latest { s with loop := loop', runs := s.runs.set i point', clock := now } := by
  refine .ran sound found inside ticked.numbers ticked.spaced ?_ ?_ ?_ ?_ ?_
  · exact fun info member => ⟨(ticked.past info member).1, (ticked.past info member).2.trans later⟩
  · rw [count]
    exact ticked.counted
  · rw [durations, count]
    exact ticked.durations
  · rw [count]
    exact placed
  · rw [count]
    exact left

/-- A frame begins. -/
theorem Ticked.frame [IsOrderedAddMonoid Time] (ticked : Ticked latest s) (sound : Sound s) {i : Nat}
    {previous nextFrame now : Time} (found : s.runs[i]? = some (.frame previous nextFrame))
    (later : s.clock ≤ now) :
    Ticked (latest ++ [⟨s.loop.tickCounter, now - previous, now⟩])
      { s with
        runs := s.runs.set i (.callback ⟨s.loop.tickCounter, now - previous, now⟩ nextFrame), clock := now } := by
  obtain ⟨before, length, last⟩ := ticked.placed i _ found
  refine .ran sound found nofun ?_ ?_ ?_ ?_ ?_ ?_ nofun
  · rw [List.map_append, ticked.numbers, List.length_append, List.length_singleton, List.range_succ, length]
    rfl
  · refine List.isChain_append.mpr ⟨ticked.spaced, List.isChain_singleton _, ?_⟩
    intro earlier newest info first
    cases first
    rw [Spaced, last earlier newest]
  · intro info member
    rcases List.mem_append.mp member with old | new
    · exact ⟨(ticked.past info old).1, (ticked.past info old).2.trans later⟩
    · cases List.mem_singleton.mp new
      exact ⟨sub_nonneg.mpr (before.trans later), le_refl now⟩
  · rw [List.length_append]
    exact ticked.counted.trans (Nat.le_add_right _ _)
  · rw [List.take_append_of_le_length ticked.counted]
    exact ticked.durations
  · exact ⟨by rw [List.length_append, List.length_singleton, length], List.getLast?_concat⟩

/-- A frame is counted. -/
theorem Ticked.metrics (ticked : Ticked latest s) (sound : Sound s) {i : Nat} {info : TickInfo Time}
    {nextFrame now : Time} (found : s.runs[i]? = some (.metrics info nextFrame)) (later : s.clock ≤ now) :
    Ticked latest
      { s with
        loop := s.loop.recordDuration info.deltaSeconds
        runs := s.runs.set i (.pace info.frameStart (nextFrame + s.loop.targetDelta)), clock := now } := by
  obtain ⟨length, last⟩ := ticked.placed i _ found
  obtain ⟨older, rfl⟩ := List.getLast?_eq_some_iff.mp last
  have counted : older.length = s.loop.tickCounter := by simpa using length
  have started := (ticked.past info (List.mem_append_right older List.mem_cons_self)).2
  refine .ran sound found nofun ticked.numbers ticked.spaced ?_ length.ge ?_ ?_ nofun
  · exact fun other member => ⟨(ticked.past other member).1, (ticked.past other member).2.trans later⟩
  · have before : s.loop.lastDurations = newestDurations older := by
      rw [ticked.durations, ← counted, List.take_left]
    have whole : (older ++ [info]).take (s.loop.tickCounter + 1) = older ++ [info] :=
      List.take_of_length_le length.le
    show _ = newestDurations ((older ++ [info]).take (s.loop.tickCounter + 1))
    rw [whole]
    exact GameLoop.recordDuration_lastDurations before info
  · refine ⟨started.trans later, length, ?_⟩
    intro other newest
    rw [last] at newest
    cases newest
    rfl

/-- A step of a `Run` thread. -/
theorem Ticked.run [IsOrderedAddMonoid Time] (ticked : Ticked latest s) (sound : Sound s) {i : Nat} {now : Time}
    {point point' : RunPoint Time} {loop' : GameLoop Time Callback} (later : s.clock ≤ now)
    (found : s.runs[i]? = some point) (ran : s.loop.Ran now point items point' loop') :
    Ticked (latest ++ items.filterMap LoopItem.framed?)
      { s with loop := loop', runs := s.runs.set i point', clock := now } := by
  have placed := ticked.placed i point found
  cases ran with
  | frame => exact ticked.frame sound found later
  | metrics =>
      rw [List.filterMap_nil, List.append_nil]
      exact ticked.metrics sound found later
  | @callback info nextFrame =>
      have none : ((s.loop.callback.map fun callback => LoopItem.invoked callback info).toList).filterMap
          LoopItem.framed? = [] := by
        cases s.loop.callback <;> rfl
      rw [none, List.append_nil]
      exact ticked.advance sound found nofun later rfl rfl placed nofun
  | enter =>
      rw [List.filterMap_nil, List.append_nil]
      have empty : latest = [] := placed
      have count : latest.length = s.loop.tickCounter := by
        have counted := ticked.counted
        rw [empty] at counted ⊢
        exact (Nat.le_zero.mp counted).symm
      exact ticked.advance sound found nofun later rfl rfl ⟨le_refl now, count, by simp [empty]⟩ nofun
  | leave requested =>
      rw [List.filterMap_nil, List.append_nil]
      exact ticked.advance sound found nofun later rfl rfl trivial fun _ => placed.2.1
  | _ =>
      rw [List.filterMap_nil, List.append_nil]
      exact ticked.advance sound found nofun later rfl rfl
        ⟨placed.1.trans later, placed.2.1, placed.2.2⟩ nofun

/-! ## Calls -/

/-- A step that no thread notices. -/
theorem Ticked.still (ticked : Ticked latest s) (runs : s'.runs = s.runs)
    (clock : s'.clock = s.clock) (count : s'.loop.tickCounter = s.loop.tickCounter)
    (durations : s'.loop.lastDurations = s.loop.lastDurations)
    (cleared : s'.control = .startFlag ∨ s'.control = .startThread → latest = []) : Ticked latest s' := by
  refine ⟨ticked.numbers, ticked.spaced, ?_, ?_, ?_, ?_, ?_, cleared⟩
  · rw [clock]
    exact ticked.past
  · rw [count]
    exact ticked.counted
  · rw [durations, count]
    exact ticked.durations
  · rw [runs, count, clock]
    exact ticked.placed
  · rw [runs, count]
    exact ticked.rest

/-- The section of `Start` that clears the metrics begins a new count. -/
theorem Ticked.clear (sound : Sound s) (starting : s.control = .startMetrics) :
    Ticked [] ({ s with loop := s.loop.clearMetrics, control := .startFlag } : LoopThreads Time Callback) := by
  have left := (sound.starting (by rw [starting]; rfl)).2
  refine ⟨rfl, .nil, nofun, Nat.le_refl 0, newestDurations_nil.symm, ?_, fun _ => rfl, fun _ => rfl⟩
  intro i point found
  rw [left i point found]
  trivial

/-- The thread that `Start` creates has not framed anything yet. -/
theorem Ticked.create (ticked : Ticked latest s) (starting : s.control = .startThread)
    (runs : s'.runs = s.runs ++ [.entry]) (clock : s'.clock = s.clock)
    (count : s'.loop.tickCounter = s.loop.tickCounter)
    (durations : s'.loop.lastDurations = s.loop.lastDurations) : Ticked latest s' := by
  have empty := ticked.cleared (Or.inr starting)
  have none : latest.length = s.loop.tickCounter := by
    have counted := ticked.counted
    rw [empty] at counted ⊢
    exact (Nat.le_zero.mp counted).symm
  refine ⟨ticked.numbers, ticked.spaced, ?_, ?_, ?_, ?_, ?_, fun _ => empty⟩
  · rw [clock]
    exact ticked.past
  · rw [count]
    exact ticked.counted
  · rw [durations, count]
    exact ticked.durations
  · intro i other found
    rw [count, clock]
    rw [runs] at found
    by_cases earlier : i < s.runs.length
    · rw [List.getElem?_append_left earlier] at found
      exact ticked.placed i other found
    · rw [List.getElem?_append_right (Nat.le_of_not_lt earlier)] at found
      cases List.mem_singleton.mp (List.mem_of_getElem? found)
      exact empty
  · intro _
    rw [count]
    exact none

/-- A step frames on, or begins a new count. -/
theorem Ticked.step [IsOrderedAddMonoid Time] (ticked : Ticked latest s) (sound : Sound s)
    {action : LoopAction Time Callback} (performed : perform action s = some (items, s')) :
    Ticked (latest ++ items.filterMap LoopItem.framed?) s' ∨
      s.control = .startMetrics ∧ items.filterMap LoopItem.framed? = [] ∧ Ticked [] s' := by
  have same : latest ++ [] = latest := List.append_nil latest
  cases perform_acted performed with
  | startRefused | stopRefused | joinNothing => exact Or.inl (same.symm ▸ ticked)
  | start | stop => exact Or.inl (same.symm ▸ ticked.still rfl rfl rfl rfl (by simp))
  | join | setUpdateCallback => exact Or.inl (same.symm ▸ ticked.still rfl rfl rfl rfl ticked.cleared)
  | clear point => exact Or.inr ⟨point, rfl, .clear sound point⟩
  | unflag point =>
      have empty := ticked.cleared (Or.inl point)
      exact Or.inl (same.symm ▸ ticked.still rfl rfl rfl rfl fun _ => empty)
  | create point | terminate point => exact Or.inl (same.symm ▸ ticked.create point rfl rfl rfl rfl)
  | flag | notify => exact Or.inl (same.symm ▸ ticked.still rfl rfl rfl rfl (by simp))
  | run _ later found ran => exact Or.inl (ticked.run sound later found ran)

/-- A loop that was never started. -/
theorem ticked_new (targetDelta clock : Time) :
    Ticked [] (⟨.new targetDelta, .idle, [], clock⟩ : LoopThreads Time Callback) :=
  ⟨rfl, .nil, nofun, Nat.le_refl 0, newestDurations_nil.symm, nofun, fun _ => rfl, fun _ => rfl⟩

/-! ## Since the last start -/

/-- The items of a run that came after the last call of `Start` that was not refused: all of them, if there was
none. -/
inductive SinceStart : List (LoopItem Time Callback) → List (LoopItem Time Callback) →
    LoopThreads Time Callback → Prop
  | never {s : LoopThreads Time Callback} (initial : Initial s) : SinceStart [] [] s
  | start {since trace items : List (LoopItem Time Callback)} {s s' : LoopThreads Time Callback}
      (earlier : SinceStart since trace s) (performed : perform (.call .start) s = some (items, s'))
      (accepted : s.loop.running = false) : SinceStart [] (items.reverse ++ trace) s'
  | other {since trace items : List (LoopItem Time Callback)} {s s' : LoopThreads Time Callback}
      {action : LoopAction Time Callback} (earlier : SinceStart since trace s)
      (performed : perform action s = some (items, s'))
      (other : action ≠ .call .start ∨ s.loop.running = true) :
      SinceStart (items.reverse ++ since) (items.reverse ++ trace) s'

variable {since : List (LoopItem Time Callback)}

theorem SinceStart.run (sinceStart : SinceStart since trace s) : Runs trace s := by
  induction sinceStart with
  | never initial => exact .start initial
  | start _ performed _ ih => exact .next ih ⟨_, performed⟩
  | other _ performed _ ih => exact .next ih ⟨_, performed⟩

theorem SinceStart.isPrefix (sinceStart : SinceStart since trace s) : since <+: trace := by
  induction sinceStart with
  | never => exact List.prefix_refl []
  | start => exact List.nil_prefix
  | other _ _ _ ih => exact List.prefix_append_right_inj _ |>.mpr ih

theorem Runs.exists_sinceStart (run : Runs trace s) : ∃ since, SinceStart since trace s := by
  induction run with
  | start initial => exact ⟨[], .never initial⟩
  | @next trace items s s' earlier step ih =>
      obtain ⟨since, sinceStart⟩ := ih
      obtain ⟨action, performed⟩ := step
      cases running : s.loop.running with
      | true => exact ⟨_, .other sinceStart performed (Or.inr running)⟩
      | false =>
          rcases eq_or_ne action (.call .start) with rfl | other
          · exact ⟨_, .start sinceStart performed running⟩
          · exact ⟨_, .other sinceStart performed (Or.inl other)⟩

/-- Once `Start` has been called, nothing happens before it clears the metrics. -/
theorem Acted.clearing {action : LoopAction Time Callback} (acted : Acted s action items s') (sound : Sound s)
    (starting : s.control = .startMetrics) :
    items = [] ∧ s' = { s with loop := s.loop.clearMetrics, control := .startFlag } := by
  have left := (sound.starting (by rw [starting]; rfl)).2
  cases acted with
  | clear => exact ⟨rfl, rfl⟩
  | run _ _ found ran =>
      rw [left _ _ found] at ran
      cases ran
  | unflag point | create point | terminate point | flag point | notify point | startRefused point | start point
  | stop point | stopRefused point | joinNothing point | join point | setUpdateCallback point =>
      rw [starting] at point
      cases point

/-- Only a `Start` that is not refused is about to clear the metrics. -/
theorem Acted.started {action : LoopAction Time Callback} (acted : Acted s action items s')
    (other : action ≠ .call .start ∨ s.loop.running = true) (before : s.control ≠ .startMetrics) :
    s'.control ≠ .startMetrics := by
  cases acted with
  | start _ stopped =>
      rcases other with other | running
      · exact absurd rfl other
      · rw [stopped] at running
        cases running
  | startRefused | stopRefused | joinNothing | join | setUpdateCallback | run => exact before
  | _ => exact nofun

/-- The frames since the last start are the ones that are numbered and counted, once `Start` has cleared the metrics. -/
theorem SinceStart.ticked [IsOrderedAddMonoid Time] (sinceStart : SinceStart since trace s) :
    ∃ latest, Ticked latest s ∧ (s.control = .startMetrics → frames since = []) ∧
      (s.control ≠ .startMetrics → latest = frames since) := by
  induction sinceStart with
  | never initial =>
      obtain ⟨targetDelta, clock, rfl⟩ := initial
      exact ⟨[], ticked_new targetDelta clock, fun _ => rfl, fun _ => rfl⟩
  | @start since trace items s s' earlier performed accepted ih =>
      obtain ⟨latest, ticked, -⟩ := ih
      cases perform_acted performed with
      | startRefused _ running =>
          rw [accepted] at running
          cases running
      | start => exact ⟨latest, ticked.still rfl rfl rfl rfl (by simp), fun _ => rfl, fun other => absurd rfl other⟩
  | @other since trace items s s' action earlier performed other ih =>
      obtain ⟨latest, ticked, silent, same⟩ := ih
      have acted := perform_acted performed
      have sound := Runs.sound earlier.run acted.going
      rw [frames_append]
      by_cases starting : s.control = .startMetrics
      · obtain ⟨rfl, rfl⟩ := acted.clearing sound starting
        exact ⟨[], .clear sound starting, nofun, fun _ => by rw [silent starting]; rfl⟩
      · have started := acted.started other starting
        refine ⟨_, (ticked.step sound performed).resolve_right fun clear => starting clear.1,
          fun clearing => absurd clearing started, fun _ => ?_⟩
        rw [same starting]

/-- The frames since the last start, as they are numbered and counted. -/
structure Numbered (since : List (LoopItem Time Callback)) (s : LoopThreads Time Callback) : Prop where
  numbers : (frames since).map TickInfo.tick = List.range (frames since).length
  spaced : (frames since).IsChain Spaced
  past : ∀ info ∈ frames since, 0 ≤ info.deltaSeconds
  starting : s.control = .startMetrics → frames since = []
  counted : s.control ≠ .startMetrics → s.loop.tickCounter ≤ (frames since).length ∧
    (frames since).length ≤ s.loop.tickCounter + 1 ∧
    s.loop.lastDurations = newestDurations ((frames since).take s.loop.tickCounter)

/-! ## Handing frames to the callback -/

/-- The frames whose callback is called next. -/
def unhanded (s : LoopThreads Time Callback) : List (TickInfo Time) := s.runs.filterMap RunPoint.unhanded?

omit [AddCommGroup Time] [LinearOrder Time] in
/-- Only one thread has something to show. -/
theorem filterMap_only {α : Type u} {β : Type v} {f : α → Option β} {a : α} :
    ∀ {l : List α} {i : Nat}, l[i]? = some a → (∀ j b, l[j]? = some b → j ≠ i → f b = none) →
      l.filterMap f = (f a).toList
  | [], _, found, _ => nomatch found
  | first :: rest, 0, found, others => by
      have same : first = a := Option.some.inj found
      have silent : rest.filterMap f = [] := by
        rw [List.filterMap_eq_nil_iff]
        intro b member
        obtain ⟨j, found'⟩ := List.mem_iff_getElem?.mp member
        exact others (j + 1) b found' (Nat.succ_ne_zero j)
      rw [List.filterMap_cons, silent, same]
      cases f a <;> rfl
  | first :: rest, i + 1, found, others => by
      rw [List.filterMap_cons, others 0 first rfl (Nat.succ_ne_zero i).symm]
      exact filterMap_only found fun j b found' differ =>
        others (j + 1) b found' fun same => differ (Nat.succ.inj same)

omit [AddCommGroup Time] [LinearOrder Time] in
theorem unhanded_of_left (left : ∀ (i : Nat) (point : RunPoint Time), s.runs[i]? = some point → point = .left) :
    unhanded s = [] := by
  rw [unhanded, List.filterMap_eq_nil_iff]
  intro point member
  obtain ⟨i, found⟩ := List.mem_iff_getElem?.mp member
  rw [left i point found]
  rfl

omit [AddCommGroup Time] in
/-- The threads other than one in its loop have nothing to show. -/
theorem Sound.silent (sound : Sound s) {i : Nat} {point : RunPoint Time} (found : s.runs[i]? = some point)
    (inside : point ≠ .left) (j : Nat) (other : RunPoint Time) (found' : s.runs[j]? = some other)
    (differ : j ≠ i) : other.unhanded? = none := by
  by_cases left : other = .left
  · rw [left]
    rfl
  · have thread := (sound.alive i point found inside).2
    rw [(sound.alive j other found' left).2] at thread
    exact absurd (Option.some.inj thread) differ

omit [AddCommGroup Time] in
/-- At most one callback is called next. -/
theorem Sound.unhanded_length (sound : Sound s) : (unhanded s).length ≤ 1 := by
  by_cases left : ∀ (i : Nat) (point : RunPoint Time), s.runs[i]? = some point → point = .left
  · rw [unhanded_of_left left]
    exact Nat.zero_le 1
  · push Not at left
    obtain ⟨i, point, found, inside⟩ := left
    rw [unhanded, filterMap_only found (sound.silent found inside)]
    exact Option.length_toList_le

/-- What is framed is handed on, in its order; without a callback nobody gets it. -/
theorem perform_hands (sound : Sound s) {action : LoopAction Time Callback}
    (performed : perform action s = some (items, s')) :
    ∃ passed, unhanded s ++ items.filterMap LoopItem.framed? = passed ++ unhanded s' ∧
      items.filterMap LoopItem.handed? = if s.loop.callback.isSome then passed else [] := by
  cases perform_acted performed with
  | create | terminate =>
      have same : (s.runs ++ [RunPoint.entry]).filterMap RunPoint.unhanded? =
          s.runs.filterMap RunPoint.unhanded? := by
        rw [List.filterMap_append]
        exact List.append_nil _
      exact ⟨[], (List.append_nil _).trans same.symm, (ite_self _).symm⟩
  | @run _ i now _ point point' items loop' found ran =>
      have inside : point ≠ .left := by
        rintro rfl
        cases ran
      have silent := sound.silent found inside
      have before : unhanded s = point.unhanded?.toList := filterMap_only found silent
      have after : (s.runs.set i point').filterMap RunPoint.unhanded? = point'.unhanded?.toList := by
        refine filterMap_only (i := i) ?_ ?_
        · exact List.getElem?_set_self (List.getElem?_eq_some_iff.mp found).1
        · intro j other found' differ
          rw [List.getElem?_set_ne differ.symm] at found'
          exact silent j other found' differ
      rw [before, unhanded, after]
      cases ran with
      | @callback info nextFrame =>
          refine ⟨[info], ?_, ?_⟩
          · cases s.loop.callback <;> rfl
          · cases s.loop.callback <;> rfl
      | _ => exact ⟨[], rfl, (ite_self _).symm⟩
  | _ => exact ⟨[], List.append_nil _, (ite_self _).symm⟩

/-- Every frame is handed to the callback once at most, and in its order. -/
theorem Runs.handedFrames_sublist (run : Runs trace s) :
    ∃ passed, frames trace = passed ++ unhanded s ∧ (handedFrames trace).Sublist passed := by
  refine Run.invariant
    (P := fun trace s => ∃ passed, frames trace = passed ++ unhanded s ∧ (handedFrames trace).Sublist passed)
    ?_ ?_ run
  · intro s initial
    obtain ⟨targetDelta, clock, rfl⟩ := initial
    exact ⟨[], rfl, List.Sublist.refl _⟩
  · intro trace s items s' earlierRun ih step
    obtain ⟨action, performed⟩ := step
    obtain ⟨passed, split, handed⟩ := ih
    have going := (perform_acted performed).going
    obtain ⟨more, moved, handed'⟩ := perform_hands (Runs.sound earlierRun going) performed
    refine ⟨passed ++ more, ?_, ?_⟩
    · rw [frames_append, split, List.append_assoc, moved, List.append_assoc]
    · rw [handedFrames_append, handed']
      refine handed.append ?_
      split
      · exact List.Sublist.refl _
      · exact List.nil_sublist _

/-- Of the frames since the last start one at most is not counted. -/
theorem Ticked.length_le (ticked : Ticked latest s) : latest.length ≤ s.loop.tickCounter + 1 := by
  by_cases left : ∀ (i : Nat) (point : RunPoint Time), s.runs[i]? = some point → point = .left
  · rw [ticked.rest left]
    exact Nat.le_succ _
  · push Not at left
    obtain ⟨i, point, found, inside⟩ := left
    have placed := ticked.placed i point found
    cases point with
    | left => exact absurd rfl inside
    | entry =>
        have none : latest = [] := placed
        rw [none]
        exact Nat.zero_le _
    | callback info nextFrame | metrics info nextFrame => exact placed.1.le
    | _ => exact placed.2.1.le.trans (Nat.le_succ _)

theorem SinceStart.numbered [IsOrderedAddMonoid Time] (sinceStart : SinceStart since trace s) : Numbered since s := by
  obtain ⟨latest, ticked, silent, same⟩ := sinceStart.ticked
  by_cases starting : s.control = .startMetrics
  · have none := silent starting
    exact ⟨by rw [none]; rfl, by rw [none]; exact .nil, by rw [none]; exact nofun, silent,
      fun other => absurd starting other⟩
  · obtain rfl := same starting
    exact ⟨ticked.numbers, ticked.spaced, fun info member => (ticked.past info member).1, silent,
      fun _ => ⟨ticked.counted, ticked.length_le, ticked.durations⟩⟩

/-- Since the last `Start` that was not refused the frames are numbered from 0 on and last as long as the gaps
between them, and the loop keeps the durations of the newest 240 of them that are counted, which are all but one at
most, once that `Start` has cleared the metrics. All frames ever handed to a callback were handed in their order and
once at most. -/
theorem Runs.frames_numbered [IsOrderedAddMonoid Time] (run : Runs trace s) :
    (handedFrames trace).Sublist (frames trace) ∧ (∃ since, SinceStart since trace s) ∧
      ∀ since, SinceStart since trace s → since <+: trace ∧ Numbered since s := by
  obtain ⟨passed, split, handed⟩ := run.handedFrames_sublist
  refine ⟨?_, run.exists_sinceStart, fun since sinceStart => ⟨sinceStart.isPrefix, sinceStart.numbered⟩⟩
  rw [split]
  exact handed.trans (List.sublist_append_left _ _)

end LoopThreads

/-- The second of two starts has begun a new count. -/
theorem frames_numbered_startTwice : ∃ (trace since : List (LoopItem Int String)) (s : LoopThreads Int String),
    (frames trace).map TickInfo.tick = [0, 0] ∧ s.loop.tickCounter = 1 ∧
      LoopThreads.SinceStart since trace s ∧ LoopThreads.Numbered since s := by
  have fresh : LoopThreads.Initial (⟨.new 16, .idle, [], 0⟩ : LoopThreads Int String) := ⟨16, 0, rfl⟩
  obtain ⟨trace, s, run, passed⟩ := exists_run_of_replay (startTwice ++ [.run 1 9])
    (fun trace s => (frames trace).map TickInfo.tick == [0, 0] && s.loop.tickCounter == 1) fresh
    (show (replay LoopThreads.perform _ _).any _ = true by decide +kernel)
  rw [Bool.and_eq_true, beq_iff_eq, beq_iff_eq] at passed
  obtain ⟨-, ⟨since, sinceStart⟩, numbered⟩ := LoopThreads.Runs.frames_numbered run
  exact ⟨trace, since, s, passed.1, passed.2, sinceStart, (numbered since sinceStart).2⟩

end Arena60
