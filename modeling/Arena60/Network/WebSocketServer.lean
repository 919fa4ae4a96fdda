import Arena60.Matchmaking.MatchingPass
import Arena60.Network.WiredServer
import Arena60.Network.WriteQueue

/-!
# The WebSocket server

`websocket_server.{h,cpp}` with the callbacks and the timer of `main.cpp`, all of whose
handlers run on one thread: an action is one handler, or the completion of a read, whose
handler is then queued. A session of a client lives as long as one of its handlers is
pending, and that is when the weak pointer in `clients_` can be locked.
-/

namespace Arena60

open Misc

universe u

/-- An input frame as `ParseInputFrame` leaves it, which reads the player id as a token. -/
structure InputFrame (R : Type u) where
  playerId : String
  input : MovementInput R
  named : playerId ≠ ""

/-- A message to a client. -/
inductive ClientFrame (R : Type u) where
  | state (state : PlayerState R) (tick : Nat) (delta : R)
  | death (playerId : String) (tick : Nat)

/-- The `async_read` of a session. What it received is `none` if `ParseInputFrame` is going to
refuse it. -/
inductive PendingRead (R : Type u) where
  | idle
  | waiting
  | received (data : Option (InputFrame R))
  | failed

/-- `ClientSession`, with its pending operations: the handshake, the read, the posted calls of
`DoEnqueueState` and `DoEnqueueDeath`, and the writes. -/
structure ClientSession (R : Type u) where
  playerId : String
  closed : Bool
  accepting : Bool
  read : PendingRead R
  posted : List (ClientFrame R)
  writes : ClientWrites (ClientFrame R)

def PendingRead.isPending {R : Type u} : PendingRead R → Bool
  | idle => false
  | _ => true

namespace ClientSession

variable {R : Type u}

/-- A session after `Start`. -/
def new : ClientSession R := ⟨"", false, true, .idle, [], .new⟩

/-- Whether a pending handler shares the ownership of the session. -/
def held (session : ClientSession R) : Bool :=
  session.accepting || session.read.isPending || !session.posted.isEmpty ||
    !session.writes.outstanding.isEmpty

/-- `ReadLoop`. -/
def readLoop (session : ClientSession R) : ClientSession R := { session with read := .waiting }

/-- `EnqueueState` or `EnqueueDeath`. -/
def enqueue (session : ClientSession R) (frame : ClientFrame R) : ClientSession R :=
  { session with posted := session.posted ++ [frame] }

end ClientSession

/-- A call of `ApplyInput` by a client: the connections registered at the call, and the session
before and after it. -/
structure InputCall (R : Type u) where
  client : Nat
  playerId : String
  clients : UnorderedMap String Nat
  before : GameSession R
  after : GameSession R

/-- A call of `RunMatching`: the queue it found, its time, and the matches it returned. -/
structure MatchingCall where
  queue : InMemoryMatchQueue
  now : Int
  made : List Match

/-- What is observed of a run. A join is observed with the rating of the player. -/
inductive ServerItem (R : Type u) where
  | wired (item : WiredItem R)
  | joined (playerId : String) (rating : Int)
  | left (playerId : String)
  | applied (call : InputCall R)
  | enqueued (client : Nat) (frame : ClientFrame R)
  | missed (client : Nat)
  | ran (call : MatchingCall)

/-- The handlers and the completions of reads. The clock is read at a join, for each death and
for each pass of the matchmaker. -/
inductive ServerAction (R : Type u) where
  | accept (ec : Bool)
  | handshake (client : Nat) (ec : Bool)
  | completeRead (client : Nat) (outcome : PendingRead R)
  | readLoop (client : Nat) (now : Int)
  | doEnqueue (client : Nat)
  | onWrite (client : Nat) (ec : Bool)
  | broadcastState (tick : Nat) (deltaSeconds : R) (now : CombatEvent → Int)
  | matchmakingTick (now : Int)
  | stop
  | reorder (clients players : List String)

/-- `WebSocketServer` with the session, the profile service and the matchmaker of `main`.
A connection is known by its position among all that were accepted; `accepting` says whether
an `async_accept` of `DoAccept` is pending. -/
structure WebSocketServer (R : Type u) extends WiredServer R where
  matchmaker : Matchmaker R
  targetDelta : R
  running : Bool
  accepting : Bool
  clients : UnorderedMap String Nat
  connectionCount : UInt32
  lastBroadcastTick : Nat
  connections : List (ClientSession R)

/-- The rating of a player, 1200 without a profile. -/
def PlayerProfileService.ratingOf (service : PlayerProfileService) (playerId : String) : Int :=
  match service.getProfile playerId with
  | none => 1200
  | some profile => profile.rating

def ServerItem.inSession {R : Type u} (item : SessionItem) : ServerItem R := wired (.inSession item)

namespace WebSocketServer

variable {R : Type u} [DoubleConversions R]

/-- The server of `main` once it is started. -/
def new (targetDelta : R) : WebSocketServer R where
  session := .new
  profiles := .new (some .new)
  matchmaker := .new
  targetDelta := targetDelta
  running := true
  accepting := true
  clients := .empty
  connectionCount := 0
  lastBroadcastTick := 0
  connections := []

section handlers

variable (s : WebSocketServer R)

/-- Whether the weak pointer to a session can be locked. -/
def locks (client : Nat) : Bool := s.connections[client]?.any ClientSession.held

/-- Change one session. -/
def update (client : Nat) (f : ClientSession R → ClientSession R) : WebSocketServer R :=
  { s with connections := s.connections.modify client f }

/-- `WebSocketServer::UnregisterClient`. -/
def unregisterClient (playerId : String) : List (ServerItem R) × WebSocketServer R :=
  let s :=
    if s.clients.contains playerId then
      { s with
        clients := s.clients.erase playerId
        connectionCount := if s.connectionCount = 0 then 0 else s.connectionCount - 1 }
    else s
  let removed := SessionItem.removed playerId :: s.session.droppedItems playerId
  let s := { s with session := s.session.removePlayer playerId }
  let s := { s with matchmaker := (s.matchmaker.cancel playerId).2 }
  (removed.map .inSession ++ [.left playerId], s)

/-- `ClientSession::Stop`. -/
def stopClient (client : Nat) : List (ServerItem R) × WebSocketServer R :=
  match s.connections[client]? with
  | none => ([], s)
  | some session =>
      if session.closed then ([], s)
      else
        let s := s.update client fun session => { session with closed := true }
        if session.playerId ≠ "" then s.unregisterClient session.playerId else ([], s)

/-- The part of `RegisterClient` that stops the client registered before. -/
def stopPrevious (playerId : String) : List (ServerItem R) × WebSocketServer R :=
  match s.clients.find playerId with
  | none => ([], s)
  | some previous => if s.locks previous then s.stopClient previous else ([], s)

/-- `WebSocketServer::RegisterClient`. -/
def registerClient (playerId : String) (client : Nat) (now : Int) :
    List (ServerItem R) × WebSocketServer R :=
  let stopped := s.stopPrevious playerId
  let s := stopped.2
  let s :=
    { s with
      clients := s.clients.upsert playerId client fun _ => client
      connectionCount := s.connectionCount + 1 }
  let fresh := !s.session.players.contains playerId
  let s := { s with session := s.session.upsertPlayer playerId }
  let s := { s with matchmaker := s.matchmaker.enqueue { playerId, elo := 1200, enqueuedAt := now } }
  (stopped.1 ++ [.inSession (.upserted playerId fresh), .joined playerId (s.profiles.ratingOf playerId)],
    s)

/-- The first frame of a client binds it to a player. -/
def bindPlayer (client : Nat) (session : ClientSession R) (frame : InputFrame R) (now : Int) :
    String × List (ServerItem R) × WebSocketServer R :=
  if session.playerId = "" then
    let s := s.update client fun session => { session with playerId := frame.playerId }
    (frame.playerId, s.registerClient frame.playerId client now)
  else (session.playerId, [], s)

/-- `ClientSession::OnRead`. An exception of `ApplyInput` leaves the event loop and ends the
process: there is no state after it. -/
def onRead (client : Nat) (session : ClientSession R) (data : Option (InputFrame R)) (now : Int) :
    Option (List (ServerItem R) × WebSocketServer R) :=
  match data with
  | none => some ([], s.update client .readLoop)
  | some frame =>
      let (playerId, registered, s) := s.bindPlayer client session frame now
      match s.session.applyInput playerId frame.input s.targetDelta with
      | (_, .error _) => none
      | (after, .ok _) =>
          let received := SessionItem.input playerId :: s.session.spawnedItems after
          let call := InputCall.mk client playerId s.clients s.session after
          let s := { s with session := after }
          some (registered ++ (received.map .inSession ++ [.applied call]), s.update client .readLoop)

/-- One round of the loop over the clients in `BroadcastState` that sends the states. -/
def enqueueState (tick : Nat) (deltaSeconds : R) (client : Nat) (s : WebSocketServer R) :
    List (ServerItem R) × WebSocketServer R :=
  match s.connections[client]? with
  | none => ([], s)
  | some session =>
      match s.session.getPlayer session.playerId with
      | .error _ => ([.missed client], s)
      | .ok state =>
          let frame := ClientFrame.state state tick deltaSeconds
          ([.enqueued client frame], s.update client (·.enqueue frame))

/-- One round of the loop over the clients that sends a death. -/
def enqueueDeath (event : CombatEvent) (client : Nat) (s : WebSocketServer R) :
    List (ServerItem R) × WebSocketServer R :=
  let frame := ClientFrame.death event.targetId event.tick
  ([.enqueued client frame], s.update client (·.enqueue frame))

/-- The loop of `BroadcastState` that locks the clients and erases those that are gone. -/
def lockClients : WebSocketServer R :=
  { s with clients := s.clients.retain fun entry => s.locks entry.2 }

/-- The messages of `BroadcastState`. -/
def sendFrames (tick : Nat) (deltaSeconds : R) (deathEvents : List CombatEvent) :
    List (ServerItem R) × WebSocketServer R :=
  let alive := s.clients.entries.map Prod.snd
  let states := forEach (enqueueState tick deltaSeconds) alive s
  let deaths := forEach (fun event => forEach (enqueueDeath event) alive)
    (deathEvents.filter fun event => event.type == .death) states.2
  (states.1 ++ deaths.1, deaths.2)

/-- `WebSocketServer::BroadcastState`. Collecting the results touches neither the clients nor
their messages, so it is done with the tick. -/
def broadcastState (tick : Nat) (deltaSeconds : R) (now : CombatEvent → Int) :
    List (ServerItem R) × WebSocketServer R :=
  let deathEvents := (s.session.tick tick deltaSeconds).1.consumeDeathEvents.1
  let (observed, wired) := s.toWiredServer.broadcastState tick deltaSeconds now
  let s := { s with toWiredServer := wired }
  let sent := s.lockClients.sendFrames tick deltaSeconds deathEvents
  (observed.map .wired ++ sent.1, { sent.2 with lastBroadcastTick := tick })

/-- `WebSocketServer::Stop`. -/
def stop : List (ServerItem R) × WebSocketServer R :=
  if !s.running then ([], s)
  else
    let s := { s with running := false }
    let alive := (s.clients.entries.map Prod.snd).filter s.locks
    let s := { s with clients := .empty }
    forEach (fun client s => s.stopClient client) alive s

/-- The handler of `DoAccept`. -/
def handleAccept (ec : Bool) : Option (List (ServerItem R) × WebSocketServer R) :=
  if !s.accepting then none
  else if ec then some ([], { s with accepting := false })
  else some ([], { s with connections := s.connections ++ [.new] })

variable (client : Nat)

/-- The handler of `ClientSession::Start`. -/
def handleHandshake (ec : Bool) (session : ClientSession R) :
    Option (List (ServerItem R) × WebSocketServer R) :=
  if session.accepting then
    let s := s.update client fun session => { session with accepting := false }
    if ec then some (s.stopClient client) else some ([], s.update client .readLoop)
  else none

/-- A read is complete. A session that is closed receives nothing more. -/
def completeRead (outcome : PendingRead R) (session : ClientSession R) :
    Option (List (ServerItem R) × WebSocketServer R) :=
  match session.read, outcome with
  | .waiting, .received data =>
      if session.closed then none
      else some ([], s.update client fun session => { session with read := .received data })
  | .waiting, .failed => some ([], s.update client fun session => { session with read := .failed })
  | _, _ => none

/-- The handler of `ReadLoop`. -/
def handleReadLoop (now : Int) (session : ClientSession R) :
    Option (List (ServerItem R) × WebSocketServer R) :=
  let s := s.update client fun session => { session with read := .idle }
  match session.read with
  | .received data => s.onRead client session data now
  | .failed => some (s.stopClient client)
  | _ => none

/-- The next posted call of `DoEnqueueState` or `DoEnqueueDeath`. -/
def doEnqueue (session : ClientSession R) : Option (List (ServerItem R) × WebSocketServer R) :=
  match session.posted with
  | [] => none
  | frame :: posted =>
      let writes := (session.writes.queueMessage frame).proceed
      some ([], s.update client fun session => { session with posted, writes })

/-- `ClientSession::OnWrite`. -/
def onWrite (ec : Bool) (session : ClientSession R) : Option (List (ServerItem R) × WebSocketServer R) :=
  match session.writes.outstanding with
  | [] => none
  | _ :: outstanding =>
      let writes := { session.writes with outstanding }
      if ec then
        let s := s.update client fun session => { session with writes }
        some (s.stopClient client)
      else
        let writes := { writes with onWrites := writes.onWrites + 1 }
        let writes := writes.onWrite.proceed
        some ([], s.update client fun session => { session with writes })

/-- The handler of the matchmaking timer. -/
def matchmakingTick (now : Int) : List (ServerItem R) × WebSocketServer R :=
  let ran := s.matchmaker.runMatching now
  ([.ran ⟨s.matchmaker.queue, now, ran.2⟩], { s with matchmaker := ran.1.drain.2 })

/-- The maps enumerate their entries in another order. -/
def reorder (clients players : List String) : WebSocketServer R :=
  { s with
    clients := s.clients.reorder clients
    session := { s.session with players := s.session.players.reorder players } }

end handlers

/-- Execute an action. -/
def perform : ServerAction R → WebSocketServer R → Option (List (ServerItem R) × WebSocketServer R)
  | .accept ec, s => s.handleAccept ec
  | .handshake client ec, s => s.connections[client]?.bind (s.handleHandshake client ec)
  | .completeRead client outcome, s => s.connections[client]?.bind (s.completeRead client outcome)
  | .readLoop client now, s => s.connections[client]?.bind (s.handleReadLoop client now)
  | .doEnqueue client, s => s.connections[client]?.bind (s.doEnqueue client)
  | .onWrite client ec, s => s.connections[client]?.bind (s.onWrite client ec)
  | .broadcastState tick deltaSeconds now, s => some (s.broadcastState tick deltaSeconds now)
  | .matchmakingTick now, s => some (s.matchmakingTick now)
  | .stop, s => some s.stop
  | .reorder clients players, s => some ([], s.reorder clients players)

/-- The server has just been started. -/
def Initial (s : WebSocketServer R) : Prop := ∃ targetDelta, s = new targetDelta

/-- The runs of the server. -/
abbrev Runs (trace : List (ServerItem R)) (s : WebSocketServer R) : Prop :=
  Run Initial (StepOf perform) trace s

/-! ## What a step can do -/

/-- The cases of a step, with what is known of the session whose handler runs. -/
inductive Handled (s : WebSocketServer R) :
    ServerAction R → List (ServerItem R) → WebSocketServer R → Prop
  | refuse : Handled s (.accept true) [] { s with accepting := false }
  | accept : Handled s (.accept false) [] { s with connections := s.connections ++ [.new] }
  | reject {client : Nat} {session : ClientSession R} {items : List (ServerItem R)} {s' : WebSocketServer R}
      (found : s.connections[client]? = some session) (accepting : session.accepting = true)
      (stopped : (s.update client fun session => { session with accepting := false }).stopClient client =
        (items, s')) : Handled s (.handshake client true) items s'
  | start {client : Nat} {session : ClientSession R} (found : s.connections[client]? = some session)
      (accepting : session.accepting = true) : Handled s (.handshake client false) []
        ((s.update client fun session => { session with accepting := false }).update client .readLoop)
  | receive {client : Nat} {session : ClientSession R} (data : Option (InputFrame R))
      (found : s.connections[client]? = some session) (waiting : session.read = .waiting) :
      Handled s (.completeRead client (.received data)) []
        (s.update client fun session => { session with read := .received data })
  | breakOff {client : Nat} {session : ClientSession R} (found : s.connections[client]? = some session)
      (waiting : session.read = .waiting) : Handled s (.completeRead client .failed) []
        (s.update client fun session => { session with read := .failed })
  | onRead {client : Nat} {session : ClientSession R} {data : Option (InputFrame R)} {now : Int}
      {items : List (ServerItem R)} {s' : WebSocketServer R} (found : s.connections[client]? = some session)
      (read : session.read = .received data)
      (handled : (s.update client fun session => { session with read := .idle }).onRead client session data
        now = some (items, s')) : Handled s (.readLoop client now) items s'
  | disconnect {client : Nat} {session : ClientSession R} {items : List (ServerItem R)}
      {s' : WebSocketServer R} (now : Int) (found : s.connections[client]? = some session)
      (read : session.read = .failed)
      (stopped : (s.update client fun session => { session with read := .idle }).stopClient client =
        (items, s')) : Handled s (.readLoop client now) items s'
  | doEnqueue {client : Nat} {session : ClientSession R} {frame : ClientFrame R}
      {posted : List (ClientFrame R)} (found : s.connections[client]? = some session)
      (waiting : session.posted = frame :: posted) : Handled s (.doEnqueue client) []
        (s.update client fun other =>
          { other with posted, writes := (session.writes.queueMessage frame).proceed })
  | failWrite {client : Nat} {session : ClientSession R} {message : ClientFrame R}
      {outstanding : List (ClientFrame R)} {items : List (ServerItem R)} {s' : WebSocketServer R}
      (found : s.connections[client]? = some session)
      (writing : session.writes.outstanding = message :: outstanding)
      (stopped : (s.update client fun other =>
        { other with writes := { session.writes with outstanding } }).stopClient client = (items, s')) :
      Handled s (.onWrite client true) items s'
  | onWrite {client : Nat} {session : ClientSession R} {message : ClientFrame R}
      {outstanding : List (ClientFrame R)} (found : s.connections[client]? = some session)
      (writing : session.writes.outstanding = message :: outstanding) : Handled s (.onWrite client false) []
        (s.update client fun other =>
          let writes := { session.writes with outstanding, onWrites := session.writes.onWrites + 1 }
          { other with writes := writes.onWrite.proceed })
  | broadcastState (tick : Nat) (deltaSeconds : R) (now : CombatEvent → Int) :
      Handled s (.broadcastState tick deltaSeconds now) (s.broadcastState tick deltaSeconds now).1
        (s.broadcastState tick deltaSeconds now).2
  | matchmakingTick (now : Int) :
      Handled s (.matchmakingTick now) (s.matchmakingTick now).1 (s.matchmakingTick now).2
  | stop : Handled s .stop s.stop.1 s.stop.2
  | reorder (clients players : List String) : Handled s (.reorder clients players) [] (s.reorder clients players)

theorem perform_handled {s s' : WebSocketServer R} {action : ServerAction R} {items : List (ServerItem R)}
    (performed : perform action s = some (items, s')) : Handled s action items s' := by
  cases action with
  | accept ec =>
      simp only [perform, handleAccept] at performed
      split at performed
      · cases performed
      · cases ec with
        | true =>
            cases performed
            exact .refuse
        | false =>
            cases performed
            exact .accept
  | handshake client ec =>
      obtain ⟨session, found, handled⟩ := Option.bind_eq_some_iff.mp performed
      unfold handleHandshake at handled
      split at handled
      · cases ec with
        | true => exact .reject found ‹_› (Option.some.inj handled)
        | false =>
            cases handled
            exact .start found ‹_›
      · cases handled
  | completeRead client outcome =>
      obtain ⟨session, found, handled⟩ := Option.bind_eq_some_iff.mp performed
      unfold completeRead at handled
      split at handled
      · split at handled
        · cases handled
        · cases handled
          exact .receive _ found ‹_›
      · cases handled
        exact .breakOff found ‹_›
      · cases handled
  | readLoop client now =>
      obtain ⟨session, found, handled⟩ := Option.bind_eq_some_iff.mp performed
      unfold handleReadLoop at handled
      dsimp only at handled
      split at handled
      · exact .onRead found ‹_› handled
      · exact .disconnect now found ‹_› (Option.some.inj handled)
      · cases handled
  | doEnqueue client =>
      obtain ⟨session, found, handled⟩ := Option.bind_eq_some_iff.mp performed
      unfold doEnqueue at handled
      split at handled
      · cases handled
      · cases handled
        exact .doEnqueue found ‹_›
  | onWrite client ec =>
      obtain ⟨session, found, handled⟩ := Option.bind_eq_some_iff.mp performed
      unfold WebSocketServer.onWrite at handled
      split at handled
      · cases handled
      · cases ec with
        | true => exact .failWrite found ‹_› (Option.some.inj handled)
        | false =>
            cases handled
            exact .onWrite found ‹_›
  | broadcastState tick deltaSeconds now =>
      cases performed
      exact .broadcastState tick deltaSeconds now
  | matchmakingTick now =>
      cases performed
      exact .matchmakingTick now
  | stop =>
      have same : s.stop = (items, s') := Option.some.inj performed
      have stopped : Handled s .stop s.stop.1 s.stop.2 := .stop
      rw [same] at stopped
      exact stopped
  | reorder clients players =>
      cases performed
      exact .reorder clients players

/-- `OnRead` binds the client, applies the input, and waits for the next frame. -/
theorem onRead_frame {s s' : WebSocketServer R} {client : Nat} {session : ClientSession R}
    {frame : InputFrame R} {now : Int} {items : List (ServerItem R)}
    (handled : s.onRead client session (some frame) now = some (items, s')) :
    ∃ playerId observed s₁ after outcome,
      s.bindPlayer client session frame now = (playerId, observed, s₁) ∧
      s₁.session.applyInput playerId frame.input s₁.targetDelta = (after, .ok outcome) ∧
      items = observed ++ ((SessionItem.input playerId :: s₁.session.spawnedItems after).map .inSession ++
        [.applied (.mk client playerId s₁.clients s₁.session after)]) ∧
      s' = { s₁ with session := after }.update client .readLoop := by
  unfold onRead at handled
  dsimp only at handled
  cases bound : s.bindPlayer client session frame now with
  | mk playerId rest =>
      obtain ⟨observed, s₁⟩ := rest
      rw [bound] at handled
      dsimp only at handled
      cases applied : s₁.session.applyInput playerId frame.input s₁.targetDelta with
      | mk after outcome =>
          rw [applied] at handled
          cases outcome with
          | error thrown => cases handled
          | ok outcome =>
              cases handled
              exact ⟨playerId, observed, s₁, after, outcome, rfl, applied, rfl, rfl⟩

end WebSocketServer

end Arena60
