import Arena60.Network.ClientRegistry

/-!
# The parts of the server

Seen from the session and the profile service, a run of the server is a run of the wired server;
seen from the write queue of a connection, it is a run of that queue, into which the messages for
the connection go in their order.
-/

namespace Arena60

open Misc

universe u

variable {R : Type u}

/-! ## Views of a trace -/

/-- What an item says about the session and the profile service. -/
def ServerItem.wired? : ServerItem R → Option (WiredItem R)
  | wired item => some item
  | _ => none

/-- The message of an item to a connection. -/
def ServerItem.frame? (client : Nat) : ServerItem R → Option (ClientFrame R)
  | enqueued other frame => if other = client then some frame else none
  | _ => none

/-- The messages to a connection, in the order of the items. -/
def framesTo (client : Nat) (items : List (ServerItem R)) : List (ClientFrame R) :=
  items.filterMap (ServerItem.frame? client)

/-- Items about neither. -/
def Unseen (items : List (ServerItem R)) : Prop :=
  ∀ item ∈ items, item.wired? = none ∧ ∀ client, item.frame? client = none

theorem Unseen.nil : Unseen ([] : List (ServerItem R)) := nofun

theorem Unseen.single {item : ServerItem R} (wired : item.wired? = none)
    (frames : ∀ client, item.frame? client = none) : Unseen [item] := by
  intro other member
  rw [List.mem_singleton.mp member]
  exact ⟨wired, frames⟩

theorem Unseen.wired {items : List (ServerItem R)} (unseen : Unseen items) :
    items.filterMap ServerItem.wired? = [] :=
  List.filterMap_eq_nil_iff.mpr fun item member => (unseen item member).1

theorem Unseen.frames {items : List (ServerItem R)} (unseen : Unseen items) (client : Nat) :
    framesTo client items = [] :=
  List.filterMap_eq_nil_iff.mpr fun item member => (unseen item member).2 client

theorem filterMap_wired (items : List (WiredItem R)) :
    (items.map ServerItem.wired).filterMap ServerItem.wired? = items := by
  rw [List.filterMap_map]
  exact List.filterMap_some

theorem map_inSession (items : List SessionItem) :
    items.map (ServerItem.inSession (R := R)) = (items.map WiredItem.inSession).map ServerItem.wired := by
  rw [List.map_map]
  rfl

theorem framesTo_wired (client : Nat) (items : List (WiredItem R)) :
    framesTo client (items.map ServerItem.wired) = [] := by
  rw [framesTo, List.filterMap_map]
  exact List.filterMap_none items

theorem framesTo_reverse_append (client : Nat) (items trace : List (ServerItem R)) :
    framesTo client (items.reverse ++ trace).reverse =
      framesTo client trace.reverse ++ framesTo client items := by
  rw [List.reverse_append, List.reverse_reverse, framesTo, List.filterMap_append]
  rfl

/-! ## One connection -/

/-- A session goes on writing, while messages for it are posted. -/
def ClientSession.Delivers (session : ClientSession R) (frames : List (ClientFrame R))
    (session' : ClientSession R) : Prop :=
  ∃ made, Steps (StepOf ClientWrites.perform) session.writes made session'.writes ∧
    session.posted ++ frames = made.filterMap WriteItem.pushed? ++ session'.posted

namespace ClientSession.Delivers

variable {session session' session'' : ClientSession R} {frames later : List (ClientFrame R)}

theorem same (writes : session'.writes = session.writes) (posted : session'.posted = session.posted) :
    session.Delivers [] session' := by
  refine ⟨[], ?_, ?_⟩
  · rw [writes]
    exact .none _
  · rw [posted]
    exact List.append_nil _

theorem trans (first : session.Delivers frames session') (second : session'.Delivers later session'') :
    session.Delivers (frames ++ later) session'' := by
  obtain ⟨made, steps, moved⟩ := first
  obtain ⟨made', steps', moved'⟩ := second
  refine ⟨made ++ made', steps.trans steps', ?_⟩
  calc session.posted ++ (frames ++ later)
      = made.filterMap WriteItem.pushed? ++ (session'.posted ++ later) := by
        rw [← List.append_assoc, moved, List.append_assoc]
    _ = (made ++ made').filterMap WriteItem.pushed? ++ session''.posted := by
        rw [moved', List.filterMap_append, List.append_assoc]

theorem enqueue (session : ClientSession R) (frame : ClientFrame R) :
    session.Delivers [frame] (session.enqueue frame) := ⟨[], .none _, rfl⟩

end ClientSession.Delivers

/-! ## The write queue on one thread -/

namespace ClientWrites

variable {μ : Type u}

/-- `DoWrite` and `async_write` one after the other. -/
theorem proceed_steps (s : ClientWrites μ) :
    ∃ made, Steps (StepOf perform) s made s.proceed ∧ made.filterMap WriteItem.pushed? = [] := by
  unfold proceed
  by_cases calls : s.doWrites = 0
  · rw [if_pos calls]
    exact ⟨[], .none _, rfl⟩
  · rw [if_neg calls]
    have locked : StepOf perform s [] s.doWrite := ⟨.doWrite, if_neg calls⟩
    cases nexts : s.doWrite.nexts with
    | nil =>
        dsimp only
        rw [nexts]
        exact ⟨[], .single locked, rfl⟩
    | cons next rest =>
        have started : StepOf perform s.doWrite [.started next]
            { s.doWrite with nexts := rest, outstanding := s.doWrite.outstanding ++ [next] } := by
          refine ⟨.asyncWrite 0, ?_⟩
          rw [perform, nexts]
          rfl
        dsimp only
        rw [nexts]
        exact ⟨[.started next], (Steps.single locked).trans (.single started), rfl⟩

/-- `QueueMessage`. -/
theorem queueMessage_steps (s : ClientWrites μ) (message : μ) :
    ∃ made, Steps (StepOf perform) s made (s.queueMessage message).proceed ∧
      made.filterMap WriteItem.pushed? = [message] := by
  obtain ⟨made, steps, none⟩ := proceed_steps (s.queueMessage message)
  have queued : StepOf perform s [.pushed message] (s.queueMessage message) := ⟨.queueMessage message, rfl⟩
  refine ⟨[.pushed message] ++ made, (Steps.single queued).trans steps, ?_⟩
  rw [List.filterMap_append, none]
  rfl

/-- The completion of the oldest write, with an error. -/
theorem failed_steps {s : ClientWrites μ} {message : μ} {rest : List μ}
    (writes : s.outstanding = message :: rest) :
    Steps (StepOf perform) s [.failed message] { s with outstanding := rest } := by
  refine .single ⟨.complete 0 true, ?_⟩
  rw [perform, writes]
  rfl

/-- The completion of the oldest write, and `OnWrite`. -/
theorem onWrite_steps {s s' : ClientWrites μ} {message : μ} {rest : List μ}
    (writes : s.outstanding = message :: rest)
    (popping : s' = { s with outstanding := rest, onWrites := s.onWrites + 1 }) :
    ∃ made, Steps (StepOf perform) s made s'.onWrite.proceed ∧ made.filterMap WriteItem.pushed? = [] := by
  obtain ⟨made, steps, none⟩ := proceed_steps s'.onWrite
  have completed : StepOf perform s [.completed message] s' := by
    refine ⟨.complete 0 false, ?_⟩
    rw [perform, writes, popping]
    rfl
  have locked : StepOf perform s' [] s'.onWrite := by
    refine ⟨.onWrite, if_neg ?_⟩
    rw [popping]
    exact Nat.succ_ne_zero _
  refine ⟨[.completed message] ++ [] ++ made,
    ((Steps.single completed).trans (.single locked)).trans steps, ?_⟩
  rw [List.filterMap_append, none]
  rfl

end ClientWrites

/-- A connection that is accepted starts with an empty queue. -/
inductive Forwards : Option (ClientSession R) → List (ClientFrame R) → Option (ClientSession R) → Prop
  | nobody : Forwards none [] none
  | accepted {frames : List (ClientFrame R)} {session' : ClientSession R} :
      ClientSession.new.Delivers frames session' → Forwards none frames (some session')
  | delivers {session session' : ClientSession R} {frames : List (ClientFrame R)} :
      session.Delivers frames session' → Forwards (some session) frames (some session')

namespace Forwards

theorem same : ∀ session : Option (ClientSession R), Forwards session [] session
  | none => .nobody
  | some _ => .delivers (.same rfl rfl)

theorem trans {first second third : Option (ClientSession R)} {frames later : List (ClientFrame R)}
    (forwards : Forwards first frames second) (onwards : Forwards second later third) :
    Forwards first (frames ++ later) third := by
  cases forwards with
  | nobody => exact onwards
  | accepted delivers =>
      cases onwards with
      | delivers delivers' => exact .accepted (delivers.trans delivers')
  | delivers delivers =>
      cases onwards with
      | delivers delivers' => exact .delivers (delivers.trans delivers')

theorem isSome {first second : Option (ClientSession R)} {frames : List (ClientFrame R)}
    (forwards : Forwards first frames second) (present : first.isSome = true) : second.isSome = true := by
  cases forwards with
  | nobody => cases present
  | accepted _ => rfl
  | delivers _ => rfl

end Forwards

namespace WebSocketServer

variable [DoubleConversions R] {s s' s'' : WebSocketServer R} {trace items later : List (ServerItem R)}

/-- What happens is what the parts do. -/
structure Parts (s : WebSocketServer R) (items : List (ServerItem R)) (s' : WebSocketServer R) : Prop where
  wired : Steps (StepOf WiredServer.perform) s.toWiredServer (items.filterMap ServerItem.wired?)
    s'.toWiredServer
  connections : ∀ client : Nat,
    Forwards s.connections[client]? (framesTo client items) s'.connections[client]?

namespace Parts

theorem trans (first : Parts s items s') (second : Parts s' later s'') : Parts s (items ++ later) s'' := by
  constructor
  · rw [List.filterMap_append]
    exact first.wired.trans second.wired
  · intro client
    rw [framesTo, List.filterMap_append]
    exact (first.connections client).trans (second.connections client)

/-- Nothing happens to the parts. -/
theorem still (wired : s'.toWiredServer = s.toWiredServer) (connections : s'.connections = s.connections)
    (unseen : Unseen items) : Parts s items s' := by
  constructor
  · rw [unseen.wired, wired]
    exact .none _
  · intro client
    rw [unseen.frames, connections]
    exact .same _

theorem refl (s : WebSocketServer R) : Parts s [] s := still rfl rfl .nil

/-- Something happens to the session or the profile service. -/
theorem ofWired {op : WiredOp R} {made : List (WiredItem R)}
    (performed : WiredServer.perform op s.toWiredServer = some (made, s'.toWiredServer))
    (connections : s'.connections = s.connections) : Parts s (made.map .wired) s' := by
  constructor
  · rw [filterMap_wired]
    exact .single ⟨op, performed⟩
  · intro client
    rw [framesTo_wired, connections]
    exact .same _

/-- Something happens to one connection. -/
theorem ofUpdate {client : Nat} {f : ClientSession R → ClientSession R}
    (delivers : ∀ session, s.connections[client]? = some session → session.Delivers [] (f session)) :
    Parts s [] (s.update client f) := by
  refine ⟨.none _, ?_⟩
  intro other
  rw [update_getElem?]
  split
  · next same =>
      subst same
      cases found : s.connections[client]? with
      | none => exact .nobody
      | some session => exact .delivers (delivers session found)
  · exact .same _

/-- A message is posted for a connection. -/
theorem enqueue {client : Nat} (present : s.connections[client]?.isSome = true) (frame : ClientFrame R) :
    Parts s [.enqueued client frame] (s.update client (·.enqueue frame)) := by
  refine ⟨.none _, ?_⟩
  intro other
  rw [update_getElem?]
  by_cases same : client = other
  · subst same
    have posted : framesTo client [ServerItem.enqueued client frame] = [frame] := by
      rw [framesTo, List.filterMap_cons, ServerItem.frame?, if_pos rfl]
      rfl
    rw [if_pos rfl, posted]
    obtain ⟨session, found⟩ := Option.isSome_iff_exists.mp present
    rw [found]
    exact .delivers (.enqueue session frame)
  · have silent : framesTo other [ServerItem.enqueued client frame] = [] := by
      rw [framesTo, List.filterMap_cons, ServerItem.frame?, if_neg same]
      rfl
    rw [if_neg same, silent]
    exact .same _

end Parts

/-! ## The handlers -/

theorem parts_unregisterClient (s : WebSocketServer R) (playerId : String) :
    Parts s (s.unregisterClient playerId).1 (s.unregisterClient playerId).2 := by
  have session : (s.unregisterClient playerId).2.toWiredServer =
      { s.toWiredServer with session := s.session.removePlayer playerId } := by
    unfold unregisterClient
    dsimp only
    split <;> rfl
  have performed : WiredServer.perform (.unregisterClient playerId) s.toWiredServer =
      some ((SessionItem.removed playerId :: s.session.droppedItems playerId).map .inSession,
        (s.unregisterClient playerId).2.toWiredServer) := by
    rw [session]
    rfl
  have removed := Parts.ofWired performed (unregisterClient_connections s playerId)
  have items : (s.unregisterClient playerId).1 =
      ((SessionItem.removed playerId :: s.session.droppedItems playerId).map .inSession).map .wired ++
        [.left playerId] := by
    unfold unregisterClient
    dsimp only
    rw [← map_inSession]
    split <;> rfl
  rw [items]
  exact removed.trans (.still rfl rfl (.single rfl fun _ => rfl))

theorem parts_stopClient (s : WebSocketServer R) (client : Nat) :
    Parts s (s.stopClient client).1 (s.stopClient client).2 := by
  unfold stopClient
  split
  · exact .refl s
  · split
    · exact .refl s
    · have closed : Parts s [] (s.update client fun session => { session with closed := true }) :=
        .ofUpdate fun _ _ => .same rfl rfl
      dsimp only
      split
      · exact closed.trans (parts_unregisterClient _ _)
      · exact closed

theorem parts_stopPrevious (s : WebSocketServer R) (playerId : String) :
    Parts s (s.stopPrevious playerId).1 (s.stopPrevious playerId).2 := by
  unfold stopPrevious
  split
  · exact .refl s
  · split
    · exact parts_stopClient s _
    · exact .refl s

theorem parts_registerClient (s : WebSocketServer R) {playerId : String} (named : playerId ≠ "")
    (client : Nat) (now : Int) :
    Parts s (s.registerClient playerId client now).1 (s.registerClient playerId client now).2 := by
  let stopped := (s.stopPrevious playerId).2
  let registered := (s.registerClient playerId client now).2
  let fresh := !stopped.session.players.contains playerId
  have performed : WiredServer.perform (.registerClient playerId) stopped.toWiredServer =
      some ([.inSession (.upserted playerId fresh)], registered.toWiredServer) := by
    rw [WiredServer.perform, WiredServer.onSession, GameSession.perform, if_neg named]
    rfl
  have joined : Unseen [ServerItem.joined (R := R) playerId (stopped.profiles.ratingOf playerId)] :=
    .single rfl fun _ => rfl
  exact (parts_stopPrevious s playerId).trans
    ((Parts.ofWired performed rfl).trans (.still rfl rfl joined))

theorem parts_bindPlayer (s : WebSocketServer R) (client : Nat) (session : ClientSession R)
    (frame : InputFrame R) (now : Int) :
    Parts s (s.bindPlayer client session frame now).2.1 (s.bindPlayer client session frame now).2.2 := by
  unfold bindPlayer
  split
  · have bound : Parts s [] (s.update client fun session => { session with playerId := frame.playerId }) :=
      .ofUpdate fun _ _ => .same rfl rfl
    exact bound.trans (parts_registerClient _ frame.named client now)
  · exact .refl s

theorem parts_readLoop (s : WebSocketServer R) (client : Nat) : Parts s [] (s.update client .readLoop) :=
  .ofUpdate fun _ _ => .same rfl rfl

theorem parts_onRead {client : Nat} {session : ClientSession R} {data : Option (InputFrame R)} {now : Int}
    (handled : s.onRead client session data now = some (items, s')) : Parts s items s' := by
  cases data with
  | none =>
      cases handled
      exact parts_readLoop s client
  | some frame =>
      have bound := parts_bindPlayer s client session frame now
      obtain ⟨playerId, registered, s₁, after, outcome, binding, applied, rfl, rfl⟩ := onRead_frame handled
      rw [binding] at bound
      let moved : WebSocketServer R := { s₁ with session := after }
      have performed : WiredServer.perform (.onRead playerId frame.input s₁.targetDelta)
          s₁.toWiredServer = some ((SessionItem.input playerId ::
            s₁.session.spawnedItems after).map .inSession, moved.toWiredServer) := by
        rw [WiredServer.perform, WiredServer.onSession, GameSession.perform, applied]
        rfl
      have input := Parts.ofWired performed rfl
      rw [← map_inSession] at input
      have call : Unseen [ServerItem.applied
          (InputCall.mk client playerId s₁.clients s₁.session after)] := .single rfl fun _ => rfl
      have called : Parts moved _ moved := .still rfl rfl call
      have looped := called.trans (parts_readLoop moved client)
      rw [List.append_nil] at looped
      exact bound.trans (input.trans looped)

/-- Some clients are connections of the server. -/
def Present (clients : List Nat) (s : WebSocketServer R) : Prop :=
  ∀ client ∈ clients, s.connections[client]?.isSome = true

/-- A loop that finds these clients. -/
theorem Parts.forEach {α : Type} {clients : List Nat}
    (body : α → WebSocketServer R → List (ServerItem R) × WebSocketServer R) {l : List α}
    (round : ∀ a ∈ l, ∀ s, Present clients s → Parts s (body a s).1 (body a s).2)
    (present : Present clients s) : Parts s (Misc.forEach body l s).1 (Misc.forEach body l s).2 := by
  induction l generalizing s with
  | nil => exact .refl s
  | cons a rest ih =>
      have first := round a List.mem_cons_self s present
      have kept : Present clients (body a s).2 :=
        fun client member => (first.connections client).isSome (present client member)
      exact first.trans (ih (fun b later => round b (List.mem_cons_of_mem _ later)) kept)

theorem parts_enqueueState (s : WebSocketServer R) (tick : Nat) (deltaSeconds : R) {client : Nat}
    (present : s.connections[client]?.isSome = true) :
    Parts s (enqueueState tick deltaSeconds client s).1 (enqueueState tick deltaSeconds client s).2 := by
  unfold enqueueState
  split
  · exact .refl s
  · split
    · exact .still rfl rfl (.single rfl fun _ => rfl)
    · exact .enqueue present _

/-- The messages to clients that are locked. -/
theorem parts_sendFrames (s : WebSocketServer R) (tick : Nat) (deltaSeconds : R)
    (deathEvents : List CombatEvent) :
    Parts s (s.lockClients.sendFrames tick deltaSeconds deathEvents).1
      (s.lockClients.sendFrames tick deltaSeconds deathEvents).2 := by
  let alive := s.lockClients.clients.entries.map Prod.snd
  have locked : Present alive s := by
    intro client member
    obtain ⟨entry, kept, rfl⟩ := List.mem_map.mp member
    have held := (List.mem_filter.mp kept).2
    cases found : s.connections[entry.2]? with
    | some session => rfl
    | none =>
        rw [locks, found] at held
        cases held
  have states := Parts.forEach (s := s.lockClients) (enqueueState tick deltaSeconds)
    (fun client member s present => parts_enqueueState s tick deltaSeconds (present client member)) locked
  have kept : Present alive (Misc.forEach (enqueueState tick deltaSeconds) alive s.lockClients).2 :=
    fun client member => (states.connections client).isSome (locked client member)
  have deaths := Parts.forEach (fun event => Misc.forEach (enqueueDeath event) alive)
    (l := deathEvents.filter fun event => event.type == .death)
    (fun event _ s present => Parts.forEach (enqueueDeath event)
      (fun client member s present => .enqueue (present client member) _) present) kept
  have cleaned : Parts s [] s.lockClients := .still rfl rfl .nil
  exact cleaned.trans (states.trans deaths)

theorem parts_broadcastState (s : WebSocketServer R) (tick : Nat) (deltaSeconds : R)
    (now : CombatEvent → Int) :
    Parts s (s.broadcastState tick deltaSeconds now).1 (s.broadcastState tick deltaSeconds now).2 := by
  let wired := s.toWiredServer.broadcastState tick deltaSeconds now
  let ticked : WebSocketServer R := { s with toWiredServer := wired.2 }
  have performed : WiredServer.perform (.broadcastState tick deltaSeconds now) s.toWiredServer =
      some (wired.1, ticked.toWiredServer) := rfl
  have sent := parts_sendFrames ticked tick deltaSeconds
    (s.session.tick tick deltaSeconds).1.consumeDeathEvents.1
  exact (Parts.ofWired performed rfl).trans ⟨sent.wired, sent.connections⟩

theorem parts_stop (s : WebSocketServer R) : Parts s s.stop.1 s.stop.2 := by
  unfold WebSocketServer.stop
  split
  · exact .refl s
  · have cleared : Parts s [] { s with running := false, clients := .empty } := .still rfl rfl .nil
    have nobody : Present [] { s with running := false, clients := .empty } := nofun
    exact cleared.trans (Parts.forEach (fun client s => s.stopClient client)
      (fun client _ s _ => parts_stopClient s client) nobody)

theorem parts_accept (s : WebSocketServer R) :
    Parts s [] { s with connections := s.connections ++ [ClientSession.new] } := by
  refine ⟨.none _, ?_⟩
  intro client
  by_cases old : client < s.connections.length
  · rw [List.getElem?_append_left old]
    exact .same _
  · have here : s.connections.length ≤ client := Nat.le_of_not_lt old
    rw [List.getElem?_append_right here, List.getElem?_eq_none here]
    cases client - s.connections.length with
    | zero => exact .accepted (.same rfl rfl)
    | succ _ => exact .nobody

/-- A connection that is known goes on. -/
theorem parts_known {client : Nat} {session : ClientSession R} (found : s.connections[client]? = some session)
    {f : ClientSession R → ClientSession R} (delivers : session.Delivers [] (f session)) :
    Parts s [] (s.update client f) := by
  refine .ofUpdate ?_
  intro other found'
  cases found.symm.trans found'
  exact delivers

/-- A client is stopped after a change of its session. -/
theorem parts_stopped {client : Nat} {f : ClientSession R → ClientSession R}
    (changed : Parts s [] (s.update client f))
    (stopped : (s.update client f).stopClient client = (items, s')) : Parts s items s' := by
  have parts := parts_stopClient (s.update client f) client
  rw [stopped] at parts
  exact changed.trans parts

theorem perform_parts {action : ServerAction R} (performed : perform action s = some (items, s')) :
    Parts s items s' := by
  cases perform_handled performed with
  | refuse => exact .still rfl rfl .nil
  | accept => exact parts_accept s
  | reject found accepting stopped =>
      refine parts_stopped ?_ stopped
      exact .ofUpdate fun _ _ => .same rfl rfl
  | @start client session found accepting =>
      have accepted : Parts s [] (s.update client fun session => { session with accepting := false }) :=
        .ofUpdate fun _ _ => .same rfl rfl
      exact accepted.trans (parts_readLoop _ client)
  | receive data found waiting => exact .ofUpdate fun _ _ => .same rfl rfl
  | breakOff found waiting => exact .ofUpdate fun _ _ => .same rfl rfl
  | @onRead client session data now _ _ found read handled =>
      have taken : Parts s [] (s.update client fun session => { session with read := .idle }) :=
        .ofUpdate fun _ _ => .same rfl rfl
      exact taken.trans (parts_onRead handled)
  | disconnect now found read stopped =>
      refine parts_stopped ?_ stopped
      exact .ofUpdate fun _ _ => .same rfl rfl
  | @doEnqueue client session frame posted found waiting =>
      obtain ⟨made, steps, pushed⟩ := session.writes.queueMessage_steps frame
      refine parts_known found ⟨made, steps, ?_⟩
      rw [List.append_nil, waiting, pushed]
      rfl
  | failWrite found writing stopped =>
      refine parts_stopped ?_ stopped
      exact parts_known found ⟨_, ClientWrites.failed_steps writing, List.append_nil _⟩
  | onWrite found writing =>
      obtain ⟨made, steps, none⟩ := ClientWrites.onWrite_steps writing rfl
      refine parts_known found ⟨made, steps, ?_⟩
      rw [List.append_nil, none]
      rfl
  | broadcastState tick deltaSeconds now => exact parts_broadcastState s tick deltaSeconds now
  | matchmakingTick now => exact .still rfl rfl (.single rfl fun _ => rfl)
  | stop => exact parts_stop s
  | reorder clients players =>
      have reordered : WiredServer.perform (.reorder players) s.toWiredServer =
          some ([], (s.reorder clients players).toWiredServer) := rfl
      exact .ofWired reordered rfl

/-! ## The runs of the parts -/

/-- The session and the profile service of a run are those of a run of the wired server. -/
theorem Runs.wired (run : Runs trace s) :
    WiredServer.Runs (trace.filterMap ServerItem.wired?) s.toWiredServer := by
  induction run with
  | start initial =>
      obtain ⟨targetDelta, rfl⟩ := initial
      exact .start ⟨rfl, _, rfl⟩
  | next _ step ih =>
      obtain ⟨action, performed⟩ := step
      have steps := (perform_parts performed).wired
      rw [List.filterMap_append, List.filterMap_reverse]
      exact steps.run ih

theorem Runs.forwards (run : Runs trace s) (client : Nat) :
    Forwards none (framesTo client trace.reverse) s.connections[client]? := by
  induction run with
  | start initial =>
      obtain ⟨targetDelta, rfl⟩ := initial
      exact .nobody
  | next _ step ih =>
      obtain ⟨action, performed⟩ := step
      rw [framesTo_reverse_append]
      exact ih.trans ((perform_parts performed).connections client)

/-- The write queue of a connection is that of a run of its own, into which the messages for the
connection were put in their order, but for those that are still posted. -/
theorem Runs.writes (run : Runs trace s) {client : Nat} {session : ClientSession R}
    (found : s.connections[client]? = some session) :
    ∃ written, ClientWrites.Runs written session.writes ∧
      framesTo client trace.reverse = queuedIn written ++ session.posted := by
  have forwards := Runs.forwards run client
  rw [found] at forwards
  generalize framesTo client trace.reverse = frames at forwards
  cases forwards with
  | accepted delivers =>
      obtain ⟨made, steps, moved⟩ := delivers
      have started : ClientWrites.Runs [] (ClientSession.new (R := R)).writes := .start rfl
      refine ⟨made.reverse ++ [], steps.run started, ?_⟩
      rw [queuedIn, List.append_nil, List.reverse_reverse]
      exact moved

end WebSocketServer

end Arena60
