import Arena60.Network.TickDelivery

/-!
# The end of the process

After a signal nobody is registered any more, whatever the threads do next, and the process can always
come to its end in a few steps. Then no thread is left in the loop, and nothing happens any more.
-/

namespace Arena60

open Misc

universe u v

/-- Whether a signal has arrived. -/
def MainPoint.ending : MainPoint → Bool
  | setCallback | startLoop | serving => false
  | _ => true

/-! ## Joins and leaves -/

/-- When the last call of all is a leave, there were as many leaves as joins. -/
theorem Alternates.balanced : ∀ {calls : List Bool}, Alternates calls → calls.head?.getD false = false →
    calls.count true = calls.count false
  | [], _, _ => rfl
  | [oldest], alternates, last => by
      obtain rfl : oldest = true := alternates
      cases last
  | newest :: previous :: older, alternates, last => by
      obtain ⟨turn, alternates'⟩ := alternates
      obtain rfl : newest = false := last
      obtain rfl : previous = true := by simpa using turn.symm
      have earlier : older.head?.getD false = false := by
        cases older with
        | nil => rfl
        | cons before oldest =>
            have turn' : true = !before := alternates'.1
            simpa using turn'
      have alternates'' : Alternates older := by
        cases older with
        | nil => trivial
        | cons before oldest => exact alternates'.2
      have counts := alternates''.balanced earlier
      simpa [List.count_cons] using counts

namespace WebSocketServer

variable {R : Type u} [DoubleConversions R] {s : WebSocketServer R} {trace : List (ServerItem R)}

/-- Nobody is registered, plays or waits, whoever joined has left, and every connection that was bound to a
player is closed. -/
structure Deserted (trace : List (ServerItem R)) (s : WebSocketServer R) : Prop where
  clients : s.clients = .empty
  connections : ∀ (client : Nat) (session : ClientSession R), s.connections[client]? = some session →
    session.playerId ≠ "" → session.closed = true
  players : ∀ playerId, s.session.players.contains playerId = false
  queue : ∀ playerId, s.matchmaker.queue.holds playerId = false
  presences : ∀ playerId, (presences playerId trace).count true = (presences playerId trace).count false

theorem Runs.deserted (run : Runs trace s) (empty : s.clients = .empty) : Deserted trace s := by
  have registered := (Runs.settled run).registered
  have absent : ∀ playerId, s.clients.contains playerId = false := by
    intro playerId
    rw [empty]
    rfl
  refine ⟨empty, ?_, ?_, ?_, ?_⟩
  · intro client session found bound
    by_contra opened
    have held : s.Holds client session.playerId :=
      ⟨session, found, Bool.eq_false_of_not_eq_true opened, rfl, bound⟩
    have present := registered.contains held
    rw [absent] at present
    cases present
  · intro playerId
    rw [registered.served.players, absent]
  · intro playerId
    by_contra waits
    obtain ⟨player, found⟩ := Option.isSome_iff_exists.mp (Bool.eq_true_of_not_eq_false waits)
    have present := (registered.served.queued playerId player found).1
    rw [absent] at present
    cases present
  · intro playerId
    refine (registered.served.turns playerId).balanced ?_
    rw [registered.served.latest, absent]

end WebSocketServer

/-! ## After a signal -/

namespace ServerProcess

variable {Time : Type u} {R : Type v} [AddCommGroup Time] [LinearOrder Time] [DoubleConversions R]
  {seconds : Time → R} {s s' : ServerProcess Time R} {items trace : List (ProcessItem Time R)}

/-- What is known of the process while it ends. -/
structure Ending (s : ServerProcess Time R) : Prop where
  running : s.main.ending = false → s.server.running = true
  clients : s.main.ending = true → s.server.clients = .empty
  control : s.main.ending = true →
    s.threads.control = .idle ∨ s.threads.control = .stopFlag ∨ s.threads.control = .stopNotify
  leaving : s.main.ending = true → s.main ≠ .stopLoop → s.threads.control = .idle → s.threads.Leaving
  halted : s.main = .returned → s.threads.control = .idle ∧ s.threads.Halted

omit [AddCommGroup Time] [LinearOrder Time] [DoubleConversions R] in
/-- A handler of a server that goes on. -/
theorem Ending.serve (ending : Ending s) (serving : s.Serving) {server : WebSocketServer R}
    (running : server.running = s.server.running) (posted : List (TickInfo Time)) :
    Ending { s with posted, server } := by
  have going : ∀ {main : MainPoint}, main = .serving → main.ending = true → False := by
    rintro main rfl ends
    cases ends
  refine ⟨fun going => running.trans (ending.running going), ?_, ?_, ?_, ?_⟩
  · exact fun ends => (going serving.1 ends).elim
  · exact fun ends => (going serving.1 ends).elim
  · exact fun ends => (going serving.1 ends).elim
  · intro returned
    cases serving.1.symm.trans returned

omit [DoubleConversions R] in
/-- A call of the loop while the process ends. -/
theorem Ending.onLoop (ending : Ending s) (sound : s.threads.Sound) {action : LoopAction Time Unit}
    {main : MainPoint} {items : List (LoopItem Time Unit)} {threads : LoopThreads Time Unit}
    (moves : s.Moves action main) (acted : s.threads.Acted action items threads) :
    Ending { s with main, threads, posted := s.posted ++ items.filterMap LoopItem.handed? } := by
  cases moves with
  | run i now =>
      have unstarted : .called .start ∉ items := by
        intro member
        cases acted with
        | run _ _ _ ran =>
            cases ran with
            | callback => cases callback : s.threads.loop.callback <;> rw [callback] at member <;> simp at member
            | _ => simp at member
      have control : threads.control = s.threads.control := by cases acted; rfl
      refine ⟨ending.running, ending.clients, ?_, ?_, ?_⟩
      · rw [control]
        exact ending.control
      · rw [control]
        exact fun ends later idle => (ending.leaving ends later idle).keep acted unstarted
      · rw [control]
        exact fun returned => (ending.halted returned).imp_right fun halted => halted.keep acted unstarted
  | proceed busy =>
      refine ⟨ending.running, ending.clients, ?_, ?_, ?_⟩
      · intro ends
        have control := ending.control ends
        cases acted with
        | clear point | unflag point | create point | terminate point =>
            rw [point] at control
            rcases control with other | other | other <;> cases other
        | flag => exact Or.inr (Or.inr rfl)
        | notify => exact Or.inl rfl
      · intro ends later idle
        have control := ending.control ends
        cases acted with
        | clear point | unflag point | create point | terminate point =>
            rw [point] at control
            rcases control with other | other | other <;> cases other
        | flag => cases idle
        | notify point => exact .of_stop sound (.notify point) List.mem_cons_self
      · intro returned
        exact absurd (ending.halted returned).1 busy
  | setCallback idle point | startLoop idle point =>
      exact ⟨fun _ => ending.running (by rw [point]; rfl), nofun, nofun, nofun, nofun⟩
  | stopLoop idle point | stopAgain idle point =>
      refine ⟨nofun, fun _ => ending.clients (by rw [point]; rfl), ?_, ?_, nofun⟩
      · intro _
        cases acted with
        | stop => exact Or.inr (Or.inl rfl)
        | stopRefused => exact Or.inl idle
      · intro _ _ idle'
        cases acted with
        | stop => cases idle'
        | stopRefused idle stopped =>
            exact .of_stop sound (.stopRefused idle stopped) (List.mem_cons_of_mem _ List.mem_cons_self)
  | joinLoop idle point =>
      have ends : s.main.ending = true := by rw [point]; rfl
      have later : s.main ≠ .stopLoop := by rw [point]; nofun
      have control : threads.control = .idle := by cases acted <;> exact idle
      have joined : .called .start ∉ items ∧ .returned .join ∈ items := by cases acted <;> simp
      refine ⟨nofun, fun _ => ending.clients ends, fun _ => Or.inl control, ?_, ?_⟩
      · exact fun _ _ _ => (ending.leaving ends later idle).keep acted joined.1
      · exact fun _ => ⟨control, .of_join sound acted joined.2⟩

theorem Runs.ending [IsOrderedAddMonoid Time] (run : Runs seconds trace s) : Ending s := by
  refine Run.invariant (P := fun _ s => Ending s) ?_ ?_ run
  · intro s initial
    obtain ⟨targetDelta, clock, rfl⟩ := initial
    exact ⟨fun _ => rfl, nofun, nofun, nofun, nofun⟩
  · intro trace s items s' earlier ending step
    obtain ⟨action, performed⟩ := step
    have sound := (Runs.parts earlier).1.sound (Runs.linked earlier).going
    cases perform_stepped performed with
    | loop moves taken => exact ending.onLoop sound moves (LoopThreads.perform_acted taken)
    | stopContext idle point =>
        have ends : s.main.ending = true := by rw [point]; rfl
        have later : s.main ≠ .stopLoop := by rw [point]; nofun
        exact ⟨nofun, fun _ => ending.clients ends, fun _ => Or.inl idle,
          fun _ _ _ => ending.leaving ends later idle, nofun⟩
    | @deliver info posted now serving next =>
        have running := (WebSocketServer.broadcasts s.server info.tick (seconds info.deltaSeconds) now).running
        exact ending.serve serving running posted
    | handle serving handler handled =>
        have running := (WebSocketServer.perform_between handled
          (by rintro tick deltaSeconds now rfl; cases handler) (by rintro rfl; cases handler)).running
        exact ending.serve serving running s.posted
    | signal serving =>
        have cleared := WebSocketServer.stop_clears (ending.running (by rw [serving.1]; rfl))
        exact ⟨nofun, fun _ => cleared.1, fun _ => Or.inl serving.2, fun _ later _ => absurd rfl later, nofun⟩

/-! ## Coming to the end -/

/-- What the threads of the loop do by themselves, they do in the process. -/
theorem reaches_runs {i : Nat} :
    ∀ (times : List Time) {s : ServerProcess Time R} {trace later : List (LoopItem Time Unit)}
      {threads : LoopThreads Time Unit},
      replay LoopThreads.perform (times.map (.run i)) (trace, s.threads) = some (later, threads) →
      ∃ s', Reaches (perform seconds) times.length s s' ∧ s'.threads = threads ∧ s'.main = s.main
  | [], s, trace, later, threads, replayed => by
      cases replayed
      exact ⟨s, .refl s, rfl, rfl⟩
  | now :: times, s, trace, later, threads, replayed => by
      rw [List.map_cons, replay] at replayed
      cases performed : s.threads.perform (.run i now) with
      | none =>
          rw [performed] at replayed
          cases replayed
      | some result =>
          obtain ⟨items, middle⟩ := result
          rw [performed] at replayed
          let next : ServerProcess Time R :=
            { s with threads := middle, posted := s.posted ++ items.filterMap LoopItem.handed? }
          have stepped : perform seconds (.run i now) s = some (items.map .loop, next) := by
            rw [perform, onLoop, performed]
            rfl
          obtain ⟨s', reaches, same, main⟩ := reaches_runs times (s := next) replayed
          exact ⟨s', .step stepped reaches, same, main⟩

/-- A run reaches the state. -/
def Reachable (seconds : Time → R) (s : ServerProcess Time R) : Prop := ∃ trace, Runs seconds trace s

/-- The state that a step leads to. -/
theorem Reachable.step {action : ProcessAction Time R} (reachable : Reachable seconds s)
    (performed : perform seconds action s = some (items, s')) : Reachable seconds s' := by
  obtain ⟨trace, run⟩ := reachable
  exact ⟨_, run.next ⟨action, performed⟩⟩

/-- The process can come to its end in some steps. -/
def EndsWithin (seconds : Time → R) (bound : Nat) (s : ServerProcess Time R) : Prop :=
  ∃ s', Reaches (perform seconds) bound s s' ∧ s'.main = .returned

theorem EndsWithin.step {action : ProcessAction Time R} {bound : Nat}
    (performed : perform seconds action s = some (items, s')) (ends : EndsWithin seconds bound s') :
    EndsWithin seconds (bound + 1) s := by
  obtain ⟨last, reaches, returned⟩ := ends
  exact ⟨last, .step performed reaches, returned⟩

theorem EndsWithin.mono {bound bound' : Nat} (ends : EndsWithin seconds bound s)
    (more : bound ≤ bound') :
    EndsWithin seconds bound' s := by
  obtain ⟨last, reaches, returned⟩ := ends
  exact ⟨last, reaches.mono more, returned⟩

/-- A call of `Stop` comes to its end before the main thread goes on. -/
theorem endsWithin_settle [IsOrderedAddMonoid Time] {bound : Nat} {main : MainPoint}
    (ending : main.ending = true)
    (ends : ∀ s : ServerProcess Time R, Reachable seconds s → s.main = main → s.threads.control = .idle →
      EndsWithin seconds bound s)
    (reachable : Reachable seconds s) (point : s.main = main) : EndsWithin seconds (bound + 2) s := by
  -- the last step of `Stop`
  have notify : ∀ s : ServerProcess Time R, Reachable seconds s → s.main = main →
      s.threads.control = .stopNotify → EndsWithin seconds (bound + 1) s := by
    intro s reachable point control
    let idle : ServerProcess Time R :=
      { s with threads := { s.threads with control := .idle }, posted := s.posted ++ [] }
    have performed : perform seconds .main s = some ([.loop (.returned .stop)], idle) := by
      rw [perform, mainStep, if_pos (by rw [control]; decide), onLoop, LoopThreads.perform,
        LoopThreads.proceed, control]
      rfl
    exact .step performed (ends idle (reachable.step performed) point rfl)
  obtain ⟨trace, run⟩ := reachable
  rcases run.ending.control (by rw [point]; exact ending) with control | control | control
  · exact (ends s ⟨trace, run⟩ point control).mono (Nat.le_add_right _ 2)
  · let flagged : ServerProcess Time R :=
      { s with
        threads := { s.threads with loop.stopRequested := true, control := .stopNotify }
        posted := s.posted ++ [] }
    have performed : perform seconds .main s = some ([], flagged) := by
      rw [perform, mainStep, if_pos (by rw [control]; decide), onLoop, LoopThreads.perform,
        LoopThreads.proceed, control]
      rfl
    exact .step performed (notify flagged ⟨_, run.next ⟨.main, performed⟩⟩ point rfl)
  · exact (notify s ⟨trace, run⟩ point control).mono (Nat.le_succ _)

/-- The main thread joins the thread of the loop. -/
theorem endsWithin_join [IsOrderedAddMonoid Time] (reachable : Reachable seconds s)
    (point : s.main = .joinLoop)
    (idle : s.threads.control = .idle) : EndsWithin seconds 7 s := by
  obtain ⟨trace, run⟩ := reachable
  have ending := run.ending
  obtain ⟨threads, -⟩ := run.parts
  have leaving := ending.leaving (by rw [point]; rfl) (by rw [point]; nofun) idle
  obtain ⟨i, sections, few, replays⟩ := leaving.join_returns (threads.sound run.linked.going)
    threads.thread_lt idle (loopItems trace)
  have ordered : (s.threads.clock :: List.replicate sections s.threads.clock).IsChain (· ≤ ·) :=
    List.isChain_replicate_of_rel (sections + 1) (le_refl s.threads.clock)
  obtain ⟨later, left, replayed, joined, joins⟩ := replays _ List.length_replicate ordered
  obtain ⟨s', reaches, rfl, point'⟩ := reaches_runs _ replayed
  have idle' : s'.threads.control = .idle := by
    by_contra busy
    rw [LoopThreads.perform, if_neg busy] at joins
    cases joins
  let last : ServerProcess Time R := { s' with main := .returned, threads := joined, posted := s'.posted ++ [] }
  have performed : perform seconds .main s' = some ([.loop (.called .join), .loop (.returned .join)], last) := by
    have goes : s'.mainStep = s'.onLoop (.call .join) .returned := by
      rw [mainStep, if_neg (not_not.mpr idle'), point', point]
    rw [perform, goes, onLoop, joins]
    rfl
  refine ⟨last, ?_, rfl⟩
  rw [List.length_replicate] at reaches
  exact (reaches.trans (.step performed (.refl last))).mono (Nat.succ_le_succ few)

/-- The main thread calls `Stop` and then goes on. -/
theorem endsWithin_stop [IsOrderedAddMonoid Time] {bound : Nat} {next : MainPoint}
    (ending : next.ending = true)
    (goes : s.threads.control = .idle → s.mainStep = s.onLoop (.call .stop) next)
    (ends : ∀ s : ServerProcess Time R, Reachable seconds s → s.main = next → s.threads.control = .idle →
      EndsWithin seconds bound s)
    (reachable : Reachable seconds s) (idle : s.threads.control = .idle) :
    EndsWithin seconds (bound + 3) s := by
  obtain ⟨items, threads, called⟩ : ∃ items threads, s.threads.perform (.call .stop) = some (items, threads) := by
    rw [LoopThreads.perform, if_pos idle, LoopThreads.call]
    split
    · exact ⟨_, _, rfl⟩
    · exact ⟨_, _, rfl⟩
  have performed : perform seconds .main s = some (items.map .loop,
      { s with main := next, threads, posted := s.posted ++ items.filterMap LoopItem.handed? }) := by
    rw [perform, goes idle, onLoop, called]
    rfl
  exact .step performed (endsWithin_settle ending ends (reachable.step performed) rfl)

theorem endsWithin_stopAgain [IsOrderedAddMonoid Time] (reachable : Reachable seconds s)
    (point : s.main = .stopAgain) (idle : s.threads.control = .idle) : EndsWithin seconds 10 s := by
  have last : MainPoint.joinLoop.ending = true := rfl
  refine endsWithin_stop last ?_ (fun _ => endsWithin_join) reachable idle
  intro idle
  rw [mainStep, if_neg (not_not.mpr idle), point]

theorem endsWithin_stopContext [IsOrderedAddMonoid Time] (reachable : Reachable seconds s)
    (point : s.main = .stopContext) (idle : s.threads.control = .idle) : EndsWithin seconds 11 s := by
  have performed : perform seconds .main s = some ([], { s with main := .stopAgain }) := by
    rw [perform, mainStep, if_neg (not_not.mpr idle), point]
  exact .step performed (endsWithin_stopAgain (reachable.step performed) rfl idle)

theorem endsWithin_stopLoop [IsOrderedAddMonoid Time] (reachable : Reachable seconds s)
    (point : s.main = .stopLoop) (idle : s.threads.control = .idle) : EndsWithin seconds 14 s := by
  have next : MainPoint.stopContext.ending = true := rfl
  refine endsWithin_stop next ?_ (fun _ => endsWithin_stopContext) reachable idle
  intro idle
  rw [mainStep, if_neg (not_not.mpr idle), point]

/-- Wherever the process is after a signal, it can come to its end. -/
theorem Reachable.endsWithin [IsOrderedAddMonoid Time] (reachable : Reachable seconds s)
    (ending : s.main.ending = true) : EndsWithin seconds 16 s := by
  cases point : s.main with
  | setCallback | startLoop | serving =>
      rw [point] at ending
      cases ending
  | stopLoop => exact endsWithin_settle rfl (fun _ => endsWithin_stopLoop) reachable point
  | stopContext =>
      exact (endsWithin_settle rfl (fun _ => endsWithin_stopContext) reachable point).mono (by decide)
  | stopAgain => exact (endsWithin_settle rfl (fun _ => endsWithin_stopAgain) reachable point).mono (by decide)
  | joinLoop => exact (endsWithin_settle rfl (fun _ => endsWithin_join) reachable point).mono (by decide)
  | returned => exact ⟨s, (Reaches.refl s).mono (by decide), point⟩

/-- Nothing happens once the main thread has returned. -/
theorem Ending.final (ending : Ending s) (returned : s.main = .returned)
    (action : ProcessAction Time R) :
    perform seconds action s = none := by
  obtain ⟨idle, halted⟩ := ending.halted returned
  have unserving : ¬s.Serving := by
    intro serving
    cases serving.1.symm.trans returned
  cases action with
  | main => rw [perform, mainStep, if_neg (not_not.mpr idle), returned]
  | run i now =>
      refine Option.map_eq_none_iff.mpr ?_
      by_contra runs
      obtain ⟨⟨items, threads⟩, performed⟩ := Option.ne_none_iff_exists'.mp runs
      cases LoopThreads.perform_acted performed with
      | run _ _ found ran =>
          rw [halted.left _ _ found] at ran
          cases ran
  | deliver now =>
      rw [perform]
      split
      · rfl
      · exact if_neg unserving
  | handle action => exact if_neg fun allowed => unserving allowed.1
  | signal => exact if_neg unserving

/-- From the arrival of a signal on nobody is registered, and the process can come to its end in sixteen
steps; once it has, no thread is left in the loop and nothing can happen any more. -/
theorem Runs.shutdown [IsOrderedAddMonoid Time] (run : Runs seconds trace s)
    (signalled : s.main.ending = true) :
    s.server.Deserted (serverItems trace) ∧
      (∃ s', Reaches (perform seconds) 16 s s' ∧ s'.main = .returned) ∧
      (s.main = .returned →
        (∀ (i : Nat) (point : RunPoint Time), s.threads.runs[i]? = some point → point = .left) ∧
        ∀ action, perform seconds action s = none) := by
  have ending := run.ending
  refine ⟨run.parts.2.deserted (ending.clients signalled), ?_, ?_⟩
  · exact Reachable.endsWithin ⟨trace, run⟩ signalled
  · exact fun returned => ⟨(ending.halted returned).2.left, ending.final returned⟩

end ServerProcess

/-- A signal arrives while a player is registered and the thread of the loop calls the callback. -/
theorem shutdown_threeTicks : ∃ (trace : List (ProcessItem Int ℚ)) (s : ServerProcess Int ℚ),
    s.main = .stopContext ∧ presences "alice" (serverItems trace) = [false, true] ∧
      s.server.Deserted (serverItems trace) ∧
      ∃ s', Reaches (ServerProcess.perform fun time : Int => (time : ℚ)) 16 s s' ∧ s'.main = .returned := by
  have fresh : ServerProcess.Initial (fun time : Int => (time : ℚ))
      ⟨.setCallback, ⟨.new 16, .idle, [], 0⟩, [], .new ((16 : Int) : ℚ)⟩ := ⟨16, 0, rfl⟩
  obtain ⟨trace, s, run, passed⟩ := exists_run_of_replay (threeTicks ++ [.signal, .main])
    (fun trace s => s.main == .stopContext && presences "alice" (serverItems trace) == [false, true]) fresh
    (show (replay (ServerProcess.perform fun time : Int => (time : ℚ)) _ _).any _ = true by decide +kernel)
  rw [Bool.and_eq_true, beq_iff_eq, beq_iff_eq] at passed
  have ended := ServerProcess.Runs.shutdown run (by rw [passed.1]; rfl)
  exact ⟨trace, s, passed.1, passed.2, ended.1, ended.2.1⟩

end Arena60
