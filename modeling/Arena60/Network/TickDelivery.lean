import Arena60.Network.ServerProcess

/-!
# From the loop to the clients

Every tick of the game loop is broadcast once, in its order, however the threads interleave. The session
counts the time that the loop measures, and a connection gets the states of successive ticks.
-/

namespace Arena60

open Misc

universe u v

namespace LoopThreads

variable {Time : Type u} {Callback : Type v} [AddCommGroup Time] [LinearOrder Time]
  {s s' : LoopThreads Time Callback} {items : List (LoopItem Time Callback)} {action : LoopAction Time Callback}

/-- Only `SetUpdateCallback` changes the callback. -/
theorem Acted.callback (acted : Acted s action items s')
    (other : ∀ callback, action ≠ .call (.setUpdateCallback callback)) :
    s'.loop.callback = s.loop.callback := by
  cases acted with
  | setUpdateCallback idle callback => exact absurd rfl (other callback)
  | run _ _ _ ran => cases ran <;> rfl
  | _ => rfl

/-- Without a thread there are no frames. -/
theorem Acted.unframed (acted : Acted s action items s') (none : s.runs = []) :
    items.filterMap LoopItem.framed? = [] := by
  cases acted with
  | run _ _ found _ =>
      rw [none] at found
      cases found
  | _ => rfl

end LoopThreads

namespace ServerProcess

variable {Time : Type u} {R : Type v} [AddCommGroup Time] [LinearOrder Time] [DoubleConversions R]
  {seconds : Time → R} {s s' : ServerProcess Time R} {items trace : List (ProcessItem Time R)}

/-- The main thread has not started the loop, or is doing so. -/
def Starting (s : ServerProcess Time R) : Prop :=
  s.main = .setCallback ∨ s.main = .startLoop ∨ s.threads.control.starting = true

/-- How the loop, the broadcasts that are posted and the server belong together. -/
structure Linked (seconds : Time → R) (trace : List (ProcessItem Time R)) (s : ServerProcess Time R)
    : Prop where
  going : s.threads.control ≠ .terminated
  early : s.main = .setCallback ∨ s.main = .startLoop → s.threads.control = .idle
  starting : s.Starting →
    s.threads.runs = [] ∧ s.threads.loop.thread = none ∧ frames (loopItems trace) = []
  callback : s.main ≠ .setCallback → s.threads.loop.callback = some ()
  ticked : s.threads.Ticked (frames (loopItems trace))
  ordered : frames (loopItems trace) = deliveredTicks trace ++ s.posted ++ s.threads.unhanded
  broadcasts : broadcastTicks (serverItems trace).reverse = (deliveredTicks trace).map TickInfo.tick
  latest : s.server.lastBroadcastTick = ((deliveredTicks trace).getLast?.map TickInfo.tick).getD 0
  clock : s.server.session.elapsedTime =
    (deliveredTicks trace).foldl (fun elapsed info => elapsed + seconds info.deltaSeconds)
    (DoubleArith.ofRat 0)

namespace Linked

omit [AddCommGroup Time] [LinearOrder Time] [DoubleConversions R] in
theorem frames_loop (items : List (LoopItem Time Unit)) (trace : List (ProcessItem Time R)) :
    frames (loopItems ((items.map ProcessItem.loop).reverse ++ trace)) =
      frames (loopItems trace) ++ items.filterMap LoopItem.framed? := by
  rw [loopItems_run, (loopItems_loop items).1, frames_append]

/-- The frames of a step are handed on. -/
theorem hands (linked : Linked seconds trace s) (sound : s.threads.Sound)
    {action : LoopAction Time Unit}
    {items : List (LoopItem Time Unit)} {threads : LoopThreads Time Unit}
    (performed : s.threads.perform action = some (items, threads)) :
    frames (loopItems trace) ++ items.filterMap LoopItem.framed? =
      deliveredTicks trace ++ (s.posted ++ items.filterMap LoopItem.handed?) ++ threads.unhanded := by
  obtain ⟨passed, moved, handed⟩ := LoopThreads.perform_hands sound performed
  have all : items.filterMap LoopItem.handed? = passed := by
    by_cases point : s.main = .setCallback
    · -- there is nothing to hand on yet
      obtain ⟨none, -, -⟩ := linked.starting (Or.inl point)
      have unframed := (LoopThreads.perform_acted performed).unframed none
      have idle : s.threads.unhanded = [] := by rw [LoopThreads.unhanded, none]; rfl
      rw [idle, unframed] at moved
      obtain ⟨rfl, -⟩ := List.append_eq_nil_iff.mp moved.symm
      rw [handed, ite_self]
    · rw [handed, linked.callback point]
      rfl
  rw [linked.ordered, List.append_assoc, moved, all]
  simp only [List.append_assoc]

theorem early_loop (linked : Linked seconds trace s) {action : LoopAction Time Unit} {main : MainPoint}
    {items : List (LoopItem Time Unit)} {threads : LoopThreads Time Unit} (moves : s.Moves action main)
    (acted : s.threads.Acted action items threads) (early : main = .setCallback ∨ main = .startLoop) :
    threads.control = .idle := by
  cases moves with
  | run i now =>
      cases acted with
      | run => exact linked.early early
  | proceed busy => exact absurd (linked.early early) busy
  | setCallback idle point =>
      cases acted with
      | setUpdateCallback => exact idle
  | startLoop | stopLoop | stopAgain | joinLoop => rcases early with same | same <;> cases same

/-- The main thread starts the loop once. -/
theorem starting_loop (linked : Linked seconds trace s) {action : LoopAction Time Unit}
    {main : MainPoint}
    {items : List (LoopItem Time Unit)} {threads : LoopThreads Time Unit} (moves : s.Moves action main)
    (acted : s.threads.Acted action items threads)
    (starting : main = .setCallback ∨ main = .startLoop ∨ threads.control.starting = true) :
    s.Starting ∧ threads.runs = s.threads.runs ∧ threads.loop.thread = s.threads.loop.thread := by
  cases moves with
  | run i now =>
      cases acted with
      | run _ _ found ran =>
          obtain ⟨none, -, -⟩ := linked.starting starting
          rw [none] at found
          cases found
  | proceed busy =>
      have late : ¬(s.main = .setCallback ∨ s.main = .startLoop) := fun early => busy (linked.early early)
      have begun : threads.control.starting = true := by
        rcases starting with same | same | begun
        · exact absurd (Or.inl same) late
        · exact absurd (Or.inr same) late
        · exact begun
      cases acted with
      | clear point | unflag point => exact ⟨Or.inr (Or.inr (by rw [point]; rfl)), rfl, rfl⟩
      | _ => cases begun
  | setCallback idle point =>
      cases acted with
      | setUpdateCallback => exact ⟨Or.inl point, rfl, rfl⟩
  | startLoop idle point =>
      cases acted with
      | startRefused | start => exact ⟨Or.inr (Or.inl point), rfl, rfl⟩
  | stopLoop idle point | stopAgain idle point =>
      rcases starting with same | same | begun
      · cases same
      · cases same
      · cases acted with
        | stop => cases begun
        | stopRefused =>
            rw [idle] at begun
            cases begun
  | joinLoop idle point =>
      rcases starting with same | same | begun
      · cases same
      · cases same
      · have still : threads.control = .idle := by cases acted <;> exact idle
        rw [still] at begun
        cases begun

theorem callback_loop (linked : Linked seconds trace s) {action : LoopAction Time Unit}
    {main : MainPoint}
    {items : List (LoopItem Time Unit)} {threads : LoopThreads Time Unit} (moves : s.Moves action main)
    (acted : s.threads.Acted action items threads) (late : main ≠ .setCallback) :
    threads.loop.callback = some () := by
  cases moves with
  | setCallback =>
      cases acted with
      | setUpdateCallback => rfl
  | run | proceed =>
      rw [acted.callback (fun _ => nofun)]
      exact linked.callback late
  | startLoop _ point | stopLoop _ point | stopAgain _ point | joinLoop _ point =>
      rw [acted.callback (fun _ => nofun)]
      refine linked.callback ?_
      rw [point]
      nofun

theorem onLoop [IsOrderedAddMonoid Time] (linked : Linked seconds trace s) (sound : s.threads.Sound)
    {action : LoopAction Time Unit} {main : MainPoint} {items : List (LoopItem Time Unit)}
    {threads : LoopThreads Time Unit} (moves : s.Moves action main)
    (performed : s.threads.perform action = some (items, threads)) :
    Linked seconds ((items.map ProcessItem.loop).reverse ++ trace)
      { s with main, threads, posted := s.posted ++ items.filterMap LoopItem.handed? } := by
  have acted := LoopThreads.perform_acted performed
  have delivered : deliveredTicks ((items.map ProcessItem.loop).reverse ++ trace) = deliveredTicks trace := by
    rw [deliveredTicks_run, (loopItems_loop items).2.2, List.append_nil]
  have served : serverItems ((items.map ProcessItem.loop).reverse ++ trace) = serverItems trace := by
    rw [serverItems_run, (loopItems_loop items).2.1]
    rfl
  constructor
  · intro ended
    cases acted with
    | terminate point joinable =>
        obtain ⟨-, loose, -⟩ := linked.starting (Or.inr (Or.inr (by rw [point]; rfl)))
        rw [loose] at joinable
        cases joinable
    | run going _ _ _ => exact going ended
    | startRefused | stopRefused | joinNothing | join | setUpdateCallback => exact linked.going ended
    | _ => cases ended
  · exact linked.early_loop moves acted
  · intro starting
    obtain ⟨begun, runs, thread⟩ := linked.starting_loop moves acted starting
    obtain ⟨none, loose, silent⟩ := linked.starting begun
    rw [frames_loop, silent]
    exact ⟨runs.trans none, thread.trans loose, acted.unframed none⟩
  · exact linked.callback_loop moves acted
  · rw [frames_loop]
    rcases linked.ticked.step sound performed with ticked | ⟨point, silent, ticked⟩
    · exact ticked
    · obtain ⟨-, -, none⟩ := linked.starting (Or.inr (Or.inr (by rw [point]; rfl)))
      rw [none, silent]
      exact ticked
  · rw [frames_loop, delivered]
    exact linked.hands sound performed
  · rw [served, delivered]
    exact linked.broadcasts
  · rw [delivered]
    exact linked.latest
  · rw [delivered]
    exact linked.clock

/-- A broadcast that is posted is handled. -/
theorem deliver (linked : Linked seconds trace s) {info : TickInfo Time} {posted : List (TickInfo Time)}
    (now : CombatEvent → Int) (next : s.posted = info :: posted) :
    Linked seconds ((.delivered info ::
        (s.server.broadcastState info.tick (seconds info.deltaSeconds) now).1.map .server).reverse ++ trace)
      { s with posted, server := (s.server.broadcastState info.tick (seconds info.deltaSeconds) now).2 } := by
  let made := (s.server.broadcastState info.tick (seconds info.deltaSeconds) now).1
  let observed : List (ProcessItem Time R) := .delivered info :: made.map .server
  have broadcasts := WebSocketServer.broadcasts s.server info.tick (seconds info.deltaSeconds) now
  have looped : loopItems (observed.reverse ++ trace) = loopItems trace := by
    have none : loopItems observed = [] := (serverItems_server made).1
    rw [loopItems_run, none]
    rfl
  have served : serverItems (observed.reverse ++ trace) = made.reverse ++ serverItems trace := by
    have some : serverItems observed = made := (serverItems_server made).2.1
    rw [serverItems_run, some]
  have delivered : deliveredTicks (observed.reverse ++ trace) = deliveredTicks trace ++ [info] := by
    have silent : (made.map (.server : ServerItem R → ProcessItem Time R)).filterMap ProcessItem.delivered? = [] :=
      (serverItems_server made).2.2
    rw [deliveredTicks_run, List.filterMap_cons, silent]
    rfl
  refine ⟨linked.going, linked.early, ?_, linked.callback, ?_, ?_, ?_, ?_, ?_⟩
  · rw [looped]
    exact linked.starting
  · rw [looped]
    exact linked.ticked
  · rw [looped, delivered, linked.ordered, next]
    simp only [List.append_assoc, List.singleton_append]
  · rw [served, delivered, broadcastTicks_run, linked.broadcasts, broadcasts.ticked, List.map_append]
    rfl
  · rw [delivered, List.getLast?_concat]
    exact broadcasts.lastBroadcastTick
  · rw [delivered, List.foldl_append, ← linked.clock]
    exact broadcasts.elapsedTime

/-- A handler that is not a broadcast. -/
theorem handle (linked : Linked seconds trace s) {items : List (ServerItem R)}
    {server : WebSocketServer R}
    {main : MainPoint} (unticked : broadcastTicks items = [])
    (clock : server.session.elapsedTime = s.server.session.elapsedTime)
    (latest : server.lastBroadcastTick = s.server.lastBroadcastTick)
    (point : main = s.main ∨ s.main ≠ .setCallback ∧ main ≠ .setCallback ∧ main ≠ .startLoop) :
    Linked seconds ((items.map ProcessItem.server).reverse ++ trace) { s with main, server } := by
  have looped : loopItems ((items.map ProcessItem.server).reverse ++ trace) = loopItems trace := by
    rw [loopItems_run, (serverItems_server items).1]
    rfl
  have delivered : deliveredTicks ((items.map ProcessItem.server).reverse ++ trace) = deliveredTicks trace := by
    rw [deliveredTicks_run, (serverItems_server items).2.2, List.append_nil]
  have served : broadcastTicks (serverItems ((items.map ProcessItem.server).reverse ++ trace)).reverse =
      broadcastTicks (serverItems trace).reverse := by
    rw [serverItems_run, (serverItems_server items).2.1, broadcastTicks_run, unticked, List.append_nil]
  refine ⟨linked.going, ?_, ?_, ?_, ?_, ?_, ?_, ?_, ?_⟩
  · intro early
    rcases point with same | ⟨-, other, other'⟩
    · exact linked.early (same ▸ early)
    · rcases early with same | same
      · exact absurd same other
      · exact absurd same other'
  · rw [looped]
    intro starting
    rcases point with same | ⟨-, other, other'⟩
    · exact linked.starting (by rwa [Starting, ← same])
    · rcases starting with early | early | begun
      · exact absurd early other
      · exact absurd early other'
      · exact linked.starting (Or.inr (Or.inr begun))
  · intro late
    refine linked.callback ?_
    rcases point with same | ⟨late', -⟩
    · exact same ▸ late
    · exact late'
  · rw [looped]
    exact linked.ticked
  · rw [looped, delivered]
    exact linked.ordered
  · rw [served, delivered]
    exact linked.broadcasts
  · rw [delivered]
    exact latest.trans linked.latest
  · rw [delivered]
    exact clock.trans linked.clock

end Linked

theorem Runs.linked [IsOrderedAddMonoid Time] (run : Runs seconds trace s)
    : Linked seconds trace s := by
  refine Run.invariant (P := Linked seconds) ?_ ?_ run
  · intro s initial
    obtain ⟨targetDelta, clock, rfl⟩ := initial
    exact ⟨nofun, fun _ => rfl, fun _ => ⟨rfl, rfl, rfl⟩, fun late => absurd rfl late,
      LoopThreads.ticked_new targetDelta clock, rfl, rfl, rfl, rfl⟩
  · intro trace s items s' earlier linked step
    obtain ⟨action, performed⟩ := step
    have sound := (Runs.parts earlier).1.sound linked.going
    cases perform_stepped performed with
    | loop moves taken => exact linked.onLoop sound moves taken
    | stopContext idle point =>
        have late : s.main ≠ .setCallback := by
          rw [point]
          nofun
        show Linked seconds ((([] : List (ServerItem R)).map ProcessItem.server).reverse ++ trace) _
        exact linked.handle rfl rfl rfl (Or.inr ⟨late, nofun, nofun⟩)
    | deliver now serving next => exact linked.deliver now next
    | handle serving handler handled =>
        have between := WebSocketServer.perform_between handled
          (by rintro tick deltaSeconds now rfl; cases handler) (by rintro rfl; cases handler)
        exact linked.handle between.unticked between.elapsedTime between.lastBroadcastTick (Or.inl rfl)
    | signal serving =>
        have stops := WebSocketServer.stop_stops s.server
        refine linked.handle stops.unticked stops.elapsedTime stops.lastBroadcastTick
          (Or.inr ⟨?_, nofun, nofun⟩)
        rw [serving.1]
        nofun

/-- Successive numbers out of those below a bound. -/
theorem exists_range' {n : Nat} {l : List Nat} (within : l <:+: List.range n) :
    ∃ first, l = List.range' first l.length := by
  obtain ⟨before, after, split⟩ := within
  refine ⟨before.length, List.ext_getElem (List.length_range').symm ?_⟩
  intro i inside inside'
  have shifted : (before ++ l ++ after)[before.length + i]? = some l[i] := by
    rw [List.append_assoc, List.getElem?_append_right (Nat.le_add_right _ _), Nat.add_sub_cancel_left,
      List.getElem?_append_left inside, List.getElem?_eq_getElem inside]
  rw [split, List.getElem?_eq_some_iff] at shifted
  obtain ⟨bound, value⟩ := shifted
  rw [List.getElem_range'_1, ← value, List.getElem_range]

/-- The ticks that were broadcast are the first ones of the loop, numbered from 0 on, each once and in
order; those after them are posted, but for at most one whose callback is called next. The session has
added up the durations that the loop measured, and every connection was sent the states of successive
ticks. -/
theorem Runs.ticks_delivered [IsOrderedAddMonoid Time] (run : Runs seconds trace s) :
    (∃ waiting, waiting.length ≤ 1 ∧
      frames (loopItems trace) = deliveredTicks trace ++ s.posted ++ waiting) ∧
    (deliveredTicks trace).map TickInfo.tick = List.range (deliveredTicks trace).length ∧
    (deliveredTicks trace).IsChain Spaced ∧
    broadcastTicks (serverItems trace).reverse = List.range (deliveredTicks trace).length ∧
    s.server.lastBroadcastTick = (deliveredTicks trace).length - 1 ∧
    s.server.session.elapsedTime = (deliveredTicks trace).foldl
      (fun elapsed info => elapsed + seconds info.deltaSeconds) (DoubleArith.ofRat 0) ∧
    ∀ client, ∃ first count,
      (statesTo client (serverItems trace).reverse).map Prod.snd = List.range' first count := by
  have linked := run.linked
  obtain ⟨threads, server⟩ := run.parts
  have sound := threads.sound linked.going
  have start : deliveredTicks trace <+: frames (loopItems trace) := by
    rw [linked.ordered, List.append_assoc]
    exact List.prefix_append _ _
  have numbers : (deliveredTicks trace).map TickInfo.tick = List.range (deliveredTicks trace).length := by
    have short := start.length_le
    rw [List.prefix_iff_eq_take.mp start, List.map_take, linked.ticked.numbers, List.take_range,
      List.length_take]
  refine ⟨⟨_, sound.unhanded_length, linked.ordered⟩, numbers, linked.ticked.spaced.prefix start,
    linked.broadcasts.trans numbers, ?_, linked.clock, ?_⟩
  · have last := congrArg List.getLast? numbers
    rw [List.getLast?_map] at last
    rw [linked.latest, last, List.getLast?_range]
    split <;> simp [*]
  · intro client
    have within := (server.streams client).contiguous
    rw [linked.broadcasts, numbers] at within
    obtain ⟨first, successive⟩ := exists_range' within
    exact ⟨first, _, successive⟩

end ServerProcess

/-- The loop ticks three times while the first two ticks are broadcast, to a client that joins in between. -/
def threeTicks : List (ProcessAction Int ℚ) :=
  [.main, .main, .main, .main, .main] ++ [0, 0, 1, 1, 1, 2, 2, 32].map (.run 0) ++
    [.handle (.accept false), .handle (.handshake 0 false), .deliver fun _ => 0,
      .handle (.completeRead 0 (.received (some ⟨"alice", restingInput 1, alice_named⟩))),
      .handle (.readLoop 0 0)] ++
    [32, 32, 32, 32, 33, 33, 48].map (.run 0) ++ [.deliver fun _ => 0] ++ [48, 48, 48].map (.run 0)

theorem ticks_delivered_three : ∃ (trace : List (ProcessItem Int ℚ)) (s : ServerProcess Int ℚ),
    frames (loopItems trace) = [⟨0, 1, 1⟩, ⟨1, 31, 32⟩, ⟨2, 16, 48⟩] ∧
      deliveredTicks trace = [⟨0, 1, 1⟩, ⟨1, 31, 32⟩] ∧
      s.server.session.elapsedTime = (deliveredTicks trace).foldl
        (fun elapsed info => elapsed + (info.deltaSeconds : ℚ)) (DoubleArith.ofRat 0) := by
  have fresh : ServerProcess.Initial (fun time : Int => (time : ℚ))
      ⟨.setCallback, ⟨.new 16, .idle, [], 0⟩, [], .new ((16 : Int) : ℚ)⟩ := ⟨16, 0, rfl⟩
  obtain ⟨trace, s, run, passed⟩ := exists_run_of_replay threeTicks
    (fun trace _ => frames (loopItems trace) == [⟨0, 1, 1⟩, ⟨1, 31, 32⟩, ⟨2, 16, 48⟩] &&
      deliveredTicks trace == [⟨0, 1, 1⟩, ⟨1, 31, 32⟩]) fresh
    (show (replay (ServerProcess.perform fun time : Int => (time : ℚ)) _ _).any _ = true by decide +kernel)
  rw [Bool.and_eq_true, beq_iff_eq, beq_iff_eq] at passed
  exact ⟨trace, s, passed.1, passed.2, (ServerProcess.Runs.ticks_delivered run).2.2.2.2.2.1⟩

end Arena60
