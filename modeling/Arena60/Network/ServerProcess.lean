import Arena60.Core.JoinReturns
import Arena60.Network.StateStream

/-!
# The server process

`main.cpp`. The main thread starts the game loop and then runs the handlers of the server until a signal
arrives, stops the loop, and joins its thread. The callback of the loop posts a broadcast for the main
thread, and the broadcasts that are posted are handled in their order.
-/

namespace Arena60

open Misc

universe u v

/-- What the main thread executes once the call it is in has returned. -/
inductive MainPoint where
  | setCallback
  | startLoop
  | serving
  | stopLoop
  | stopContext
  | stopAgain
  | joinLoop
  | returned
  deriving DecidableEq

/-- The process: the main thread, the game loop, the broadcasts that are posted, and the server. -/
structure ServerProcess (Time : Type u) (R : Type v) where
  main : MainPoint
  threads : LoopThreads Time Unit
  posted : List (TickInfo Time)
  server : WebSocketServer R

/-- The steps of the main thread, of the threads of the loop, and the handlers. -/
inductive ProcessAction (Time : Type u) (R : Type v) where
  | main
  | run (i : Nat) (now : Time)
  | deliver (now : CombatEvent → Int)
  | handle (action : ServerAction R)
  | signal

/-- What an observer sees of the loop, of the server and of the broadcasts handed from one to the other. -/
inductive ProcessItem (Time : Type u) (R : Type v) where
  | loop (item : LoopItem Time Unit)
  | server (item : ServerItem R)
  | delivered (info : TickInfo Time)

/-- What an item says about the loop. -/
def ProcessItem.loop? {Time : Type u} {R : Type v} : ProcessItem Time R → Option (LoopItem Time Unit)
  | loop item => some item
  | _ => none

/-- What an item says about the server. -/
def ProcessItem.server? {Time : Type u} {R : Type v} : ProcessItem Time R → Option (ServerItem R)
  | server item => some item
  | _ => none

/-- The tick that is broadcast. -/
def ProcessItem.delivered? {Time : Type u} {R : Type v} : ProcessItem Time R → Option (TickInfo Time)
  | delivered info => some info
  | _ => none

section views

variable {Time : Type u} {R : Type v}

/-- The observations of the loop. -/
def loopItems (items : List (ProcessItem Time R)) : List (LoopItem Time Unit) :=
  items.filterMap ProcessItem.loop?

/-- The observations of the server. -/
def serverItems (items : List (ProcessItem Time R)) : List (ServerItem R) :=
  items.filterMap ProcessItem.server?

/-- The ticks that were broadcast, oldest first. -/
def deliveredTicks (trace : List (ProcessItem Time R)) : List (TickInfo Time) :=
  trace.reverse.filterMap ProcessItem.delivered?

end views

/-- The handlers that are neither posted by the loop nor the one of the signals. -/
def ServerAction.isHandler {R : Type v} : ServerAction R → Bool
  | broadcastState .. | stop => false
  | _ => true

namespace ServerProcess

variable {Time : Type u} {R : Type v} [AddCommGroup Time] [LinearOrder Time]

/-- A step of the loop, after which the main thread goes on at `main`. A call of the callback posts a
broadcast. -/
def onLoop (s : ServerProcess Time R) (action : LoopAction Time Unit) (main : MainPoint) :
    Option (List (ProcessItem Time R) × ServerProcess Time R) :=
  (s.threads.perform action).map fun (items, threads) =>
    (items.map .loop, { s with main, threads, posted := s.posted ++ items.filterMap LoopItem.handed? })

/-- The next step of the main thread outside of the handlers. -/
def mainStep (s : ServerProcess Time R) : Option (List (ProcessItem Time R) × ServerProcess Time R) :=
  if s.threads.control ≠ .idle then s.onLoop .proceed s.main
  else
    match s.main with
    | .setCallback => s.onLoop (.call (.setUpdateCallback (some ()))) .startLoop
    | .startLoop => s.onLoop (.call .start) .serving
    | .stopLoop => s.onLoop (.call .stop) .stopContext
    | .stopContext => some ([], { s with main := .stopAgain })
    | .stopAgain => s.onLoop (.call .stop) .joinLoop
    | .joinLoop => s.onLoop (.call .join) .returned
    | .serving | .returned => none

/-- The main thread is in `io_context.run()`, in no handler. -/
def Serving (s : ServerProcess Time R) : Prop := s.main = .serving ∧ s.threads.control = .idle

instance (s : ServerProcess Time R) : Decidable s.Serving := inferInstanceAs (Decidable (_ ∧ _))

variable [DoubleConversions R]

/-- Execute an action; `seconds` converts a duration to `double`. -/
def perform (seconds : Time → R) (action : ProcessAction Time R) (s : ServerProcess Time R) :
    Option (List (ProcessItem Time R) × ServerProcess Time R) :=
  match action with
  | .main => s.mainStep
  | .run i now => s.onLoop (.run i now) s.main
  | .deliver now =>
      match s.posted with
      | [] => none
      | info :: posted =>
          if s.Serving then
            let (items, server) := s.server.broadcastState info.tick (seconds info.deltaSeconds) now
            some (.delivered info :: items.map .server, { s with posted, server })
          else none
  | .handle action =>
      if s.Serving ∧ action.isHandler then
        (s.server.perform action).map fun (items, server) => (items.map .server, { s with server })
      else none
  | .signal =>
      if s.Serving then
        let (items, server) := s.server.stop
        some (items.map .server, { s with main := .stopLoop, server })
      else none

/-- The process begins. -/
def Initial (seconds : Time → R) (s : ServerProcess Time R) : Prop :=
  ∃ targetDelta clock,
    s = ⟨.setCallback, ⟨.new targetDelta, .idle, [], clock⟩, [], .new (seconds targetDelta)⟩

/-- The runs of the process. -/
abbrev Runs (seconds : Time → R) (trace : List (ProcessItem Time R)) (s : ServerProcess Time R) : Prop :=
  Run (Initial seconds) (StepOf (perform seconds)) trace s

/-! ## What a step can do -/

/-- A step of the loop, and where the main thread goes on after it. -/
inductive Moves (s : ServerProcess Time R) : LoopAction Time Unit → MainPoint → Prop
  | run (i : Nat) (now : Time) : Moves s (.run i now) s.main
  | proceed (busy : s.threads.control ≠ .idle) : Moves s .proceed s.main
  | setCallback (idle : s.threads.control = .idle) (point : s.main = .setCallback) :
      Moves s (.call (.setUpdateCallback (some ()))) .startLoop
  | startLoop (idle : s.threads.control = .idle) (point : s.main = .startLoop) :
      Moves s (.call .start) .serving
  | stopLoop (idle : s.threads.control = .idle) (point : s.main = .stopLoop) :
      Moves s (.call .stop) .stopContext
  | stopAgain (idle : s.threads.control = .idle) (point : s.main = .stopAgain) :
      Moves s (.call .stop) .joinLoop
  | joinLoop (idle : s.threads.control = .idle) (point : s.main = .joinLoop) :
      Moves s (.call .join) .returned

variable {seconds : Time → R} {s s' : ServerProcess Time R} {items trace : List (ProcessItem Time R)}
  {action : ProcessAction Time R}

/-- The steps of the process. -/
inductive Stepped (seconds : Time → R) (s : ServerProcess Time R) :
    List (ProcessItem Time R) → ServerProcess Time R → Prop
  | loop {action : LoopAction Time Unit} {main : MainPoint} {items : List (LoopItem Time Unit)}
      {threads : LoopThreads Time Unit} (moves : s.Moves action main)
      (performed : s.threads.perform action = some (items, threads)) :
      Stepped seconds s (items.map .loop)
        { s with main, threads, posted := s.posted ++ items.filterMap LoopItem.handed? }
  | stopContext (idle : s.threads.control = .idle) (point : s.main = .stopContext) :
      Stepped seconds s [] { s with main := .stopAgain }
  | deliver {info : TickInfo Time} {posted : List (TickInfo Time)} (now : CombatEvent → Int)
      (serving : s.Serving) (next : s.posted = info :: posted) :
      Stepped seconds s
        (.delivered info ::
          (s.server.broadcastState info.tick (seconds info.deltaSeconds) now).1.map .server)
        { s with posted, server := (s.server.broadcastState info.tick (seconds info.deltaSeconds) now).2 }
  | handle {action : ServerAction R} {items : List (ServerItem R)} {server : WebSocketServer R}
      (serving : s.Serving) (handler : action.isHandler = true)
      (performed : s.server.perform action = some (items, server)) :
      Stepped seconds s (items.map .server) { s with server }
  | signal (serving : s.Serving) :
      Stepped seconds s (s.server.stop.1.map .server) { s with main := .stopLoop, server := s.server.stop.2 }

theorem onLoop_stepped {action : LoopAction Time Unit} {main : MainPoint} (moves : s.Moves action main)
    (taken : s.onLoop action main = some (items, s')) : Stepped seconds s items s' := by
  obtain ⟨result, performed, made⟩ := Option.map_eq_some_iff.mp taken
  cases made
  exact .loop moves performed

theorem mainStep_stepped (taken : s.mainStep = some (items, s')) : Stepped seconds s items s' := by
  unfold mainStep at taken
  split at taken
  · next busy => exact onLoop_stepped (.proceed busy) taken
  · next settled =>
      have idle := not_not.mp settled
      split at taken
      · exact onLoop_stepped (.setCallback idle ‹_›) taken
      · exact onLoop_stepped (.startLoop idle ‹_›) taken
      · exact onLoop_stepped (.stopLoop idle ‹_›) taken
      · cases taken
        exact .stopContext idle ‹_›
      · exact onLoop_stepped (.stopAgain idle ‹_›) taken
      · exact onLoop_stepped (.joinLoop idle ‹_›) taken
      · cases taken
      · cases taken

theorem perform_stepped (performed : perform seconds action s = some (items, s')) :
    Stepped seconds s items s' := by
  cases action with
  | main => exact mainStep_stepped performed
  | run i now => exact onLoop_stepped (.run i now) performed
  | deliver now =>
      rw [perform] at performed
      split at performed
      · cases performed
      · split at performed
        · cases performed
          exact .deliver now ‹_› ‹_›
        · cases performed
  | handle action =>
      rw [perform] at performed
      split at performed
      · next allowed =>
          obtain ⟨result, handled, made⟩ := Option.map_eq_some_iff.mp performed
          cases made
          exact .handle allowed.1 allowed.2 handled
      · cases performed
  | signal =>
      rw [perform] at performed
      split at performed
      · cases performed
        exact .signal ‹_›
      · cases performed

/-! ## The parts of a run -/

omit [AddCommGroup Time] [LinearOrder Time] [DoubleConversions R] in
theorem loopItems_loop (items : List (LoopItem Time Unit)) :
    loopItems (items.map (.loop : LoopItem Time Unit → ProcessItem Time R)) = items ∧
      serverItems (items.map (.loop : LoopItem Time Unit → ProcessItem Time R)) = [] ∧
      (items.map (.loop : LoopItem Time Unit → ProcessItem Time R)).filterMap ProcessItem.delivered? = [] := by
  refine ⟨?_, ?_, ?_⟩
  · rw [loopItems, List.filterMap_map]
    exact List.filterMap_some
  · rw [serverItems, List.filterMap_map, List.filterMap_eq_nil_iff]
    exact fun _ _ => rfl
  · rw [List.filterMap_map, List.filterMap_eq_nil_iff]
    exact fun _ _ => rfl

omit [AddCommGroup Time] [LinearOrder Time] [DoubleConversions R] in
theorem serverItems_server (items : List (ServerItem R)) :
    loopItems (items.map (.server : ServerItem R → ProcessItem Time R)) = [] ∧
      serverItems (items.map (.server : ServerItem R → ProcessItem Time R)) = items ∧
      (items.map (.server : ServerItem R → ProcessItem Time R)).filterMap ProcessItem.delivered? = [] := by
  refine ⟨?_, ?_, ?_⟩
  · rw [loopItems, List.filterMap_map, List.filterMap_eq_nil_iff]
    exact fun _ _ => rfl
  · rw [serverItems, List.filterMap_map]
    exact List.filterMap_some
  · rw [List.filterMap_map, List.filterMap_eq_nil_iff]
    exact fun _ _ => rfl

omit [AddCommGroup Time] [LinearOrder Time] [DoubleConversions R] in
theorem loopItems_run (items trace : List (ProcessItem Time R)) :
    loopItems (items.reverse ++ trace) = (loopItems items).reverse ++ loopItems trace := by
  simp [loopItems, List.filterMap_reverse]

omit [AddCommGroup Time] [LinearOrder Time] [DoubleConversions R] in
theorem serverItems_run (items trace : List (ProcessItem Time R)) :
    serverItems (items.reverse ++ trace) = (serverItems items).reverse ++ serverItems trace := by
  simp [serverItems, List.filterMap_reverse]

omit [AddCommGroup Time] [LinearOrder Time] [DoubleConversions R] in
theorem deliveredTicks_run (items trace : List (ProcessItem Time R)) :
    deliveredTicks (items.reverse ++ trace) =
      deliveredTicks trace ++ items.filterMap ProcessItem.delivered? := by
  simp [deliveredTicks]

/-- What the loop does in the process, it does by itself, and so does the server. -/
theorem Runs.parts (run : Runs seconds trace s) :
    LoopThreads.Runs (loopItems trace) s.threads ∧ WebSocketServer.Runs (serverItems trace) s.server := by
  refine Run.invariant (P := fun trace s =>
    LoopThreads.Runs (loopItems trace) s.threads ∧ WebSocketServer.Runs (serverItems trace) s.server) ?_ ?_ run
  · intro s initial
    obtain ⟨targetDelta, clock, rfl⟩ := initial
    exact ⟨.start ⟨targetDelta, clock, rfl⟩, .start ⟨seconds targetDelta, rfl⟩⟩
  · intro trace s items s' _ parts step
    obtain ⟨threads, server⟩ := parts
    obtain ⟨action, performed⟩ := step
    rw [loopItems_run, serverItems_run]
    cases perform_stepped performed with
    | loop moves taken =>
        rw [(loopItems_loop _).1, (loopItems_loop _).2.1]
        exact ⟨threads.next ⟨_, taken⟩, server⟩
    | stopContext => exact ⟨threads, server⟩
    | @deliver info posted now serving next =>
        have none : loopItems (.delivered info :: (s.server.broadcastState info.tick
            (seconds info.deltaSeconds) now).1.map (.server : ServerItem R → ProcessItem Time R)) = [] :=
          (serverItems_server _).1
        have some : serverItems (.delivered info :: (s.server.broadcastState info.tick
            (seconds info.deltaSeconds) now).1.map (.server : ServerItem R → ProcessItem Time R)) =
              (s.server.broadcastState info.tick (seconds info.deltaSeconds) now).1 :=
          (serverItems_server _).2.1
        rw [none, some]
        exact ⟨threads, server.next ⟨.broadcastState info.tick (seconds info.deltaSeconds) now, rfl⟩⟩
    | handle serving handler handled =>
        rw [(serverItems_server _).1, (serverItems_server _).2.1]
        exact ⟨threads, server.next ⟨_, handled⟩⟩
    | signal serving =>
        rw [(serverItems_server _).1, (serverItems_server _).2.1]
        exact ⟨threads, server.next ⟨.stop, rfl⟩⟩

end ServerProcess

end Arena60
