import Arena60.Network.WebSocketServer

/-!
# The events of the server

The handlers reach what is behind the connections, that is the session, the profiles and the matchmaker, in
few ways only: somebody joins, leaves or sends an input, a state is broadcast, the timer runs a pass, or a
map enumerates its entries in another order. What each of these keeps holds of every run.
-/

namespace Arena60

open Misc

universe u

variable {R : Type u}

/-- Nothing but a frame that is sent to a client, or a state that is missed. -/
def ServerItem.isFrame : ServerItem R → Bool
  | enqueued .. | missed _ => true
  | _ => false

namespace WebSocketServer

/-- What `UnregisterClient` observes of the session. -/
def removal (w : WiredServer R) (playerId : String) : List (ServerItem R) :=
  (SessionItem.removed playerId :: w.session.droppedItems playerId).map .inSession

/-- What `ApplyInput` is observed to do to the session. -/
def receipt (w : WiredServer R) (playerId : String) (after : GameSession R) : List (ServerItem R) :=
  (SessionItem.input playerId :: w.session.spawnedItems after).map .inSession

/-- Sending frames changes the connections only. -/
theorem sendFrames_connections (s : WebSocketServer R) (tick : Nat) (deltaSeconds : R)
    (deathEvents : List CombatEvent) :
    ∃ connections, (s.sendFrames tick deltaSeconds deathEvents).2 = { s with connections } := by
  have states : ∃ connections, (forEach (enqueueState tick deltaSeconds) (s.clients.entries.map Prod.snd) s).2 =
      { s with connections } := by
    refine forEach_keeps (P := fun s' : WebSocketServer R => ∃ connections, s' = { s with connections }) ?_ ⟨_, rfl⟩
    rintro client - - ⟨connections, rfl⟩
    unfold enqueueState
    split
    · exact ⟨connections, rfl⟩
    · split <;> exact ⟨_, rfl⟩
  refine forEach_keeps (P := fun s' : WebSocketServer R => ∃ connections, s' = { s with connections }) ?_ states
  intro event _ s' changed
  refine forEach_keeps (P := fun s' : WebSocketServer R => ∃ connections, s' = { s with connections }) ?_ changed
  rintro client - - ⟨connections, rfl⟩
  exact ⟨_, rfl⟩

theorem sendFrames_items (s : WebSocketServer R) (tick : Nat) (deltaSeconds : R) (deathEvents : List CombatEvent) :
    ∀ item ∈ (s.sendFrames tick deltaSeconds deathEvents).1, item.isFrame = true := by
  intro item member
  rcases List.mem_append.mp member with states | deaths
  · obtain ⟨client, -, s', emitted⟩ := mem_forEach states
    unfold enqueueState at emitted
    split at emitted
    · cases emitted
    · split at emitted
      · rw [List.mem_singleton.mp emitted]
        rfl
      · rw [List.mem_singleton.mp emitted]
        rfl
  · obtain ⟨event, -, s', emitted⟩ := mem_forEach deaths
    obtain ⟨client, -, s'', emitted⟩ := mem_forEach emitted
    rw [List.mem_singleton.mp emitted]
    rfl

variable [DoubleConversions R]

/-- A property of the trace and of what is behind the connections that each of the events keeps. -/
structure EventInvariant (P : List (ServerItem R) → WiredServer R → Matchmaker R → Prop) : Prop where
  told : ∀ {items trace : List (ServerItem R)} {w : WiredServer R} {m : Matchmaker R},
    (∀ item ∈ items, item.isFrame = true) → P trace w m → P (items.reverse ++ trace) w m
  joined : ∀ {trace : List (ServerItem R)} {w : WiredServer R} {m : Matchmaker R} {playerId : String}
    (rating now : Int), playerId ≠ "" → P trace w m →
    P (.joined playerId rating :: .inSession (.upserted playerId (!w.session.players.contains playerId)) :: trace)
      { w with session := w.session.upsertPlayer playerId } (m.enqueue { playerId, elo := 1200, enqueuedAt := now })
  left : ∀ {trace : List (ServerItem R)} {w : WiredServer R} {m : Matchmaker R} (playerId : String), P trace w m →
    P (.left playerId :: ((removal w playerId).reverse ++ trace))
      { w with session := w.session.removePlayer playerId } (m.cancel playerId).2
  received : ∀ {trace : List (ServerItem R)} {w : WiredServer R} {m : Matchmaker R} {playerId : String}
    {input : MovementInput R} {targetDelta : R} {after : GameSession R} {outcome : Unit} (call : InputCall R),
    w.session.applyInput playerId input targetDelta = (after, .ok outcome) → P trace w m →
    P (.applied call :: ((receipt w playerId after).reverse ++ trace)) { w with session := after } m
  broadcast : ∀ {trace : List (ServerItem R)} {s : WebSocketServer R} (tick : Nat) (deltaSeconds : R)
    (now : CombatEvent → Int), Runs trace s → P trace s.toWiredServer s.matchmaker →
    P (((s.toWiredServer.broadcastState tick deltaSeconds now).1.map .wired).reverse ++ trace)
      (s.toWiredServer.broadcastState tick deltaSeconds now).2 s.matchmaker
  ran : ∀ {trace : List (ServerItem R)} {w : WiredServer R} {m : Matchmaker R} (now : Int), P trace w m →
    P (.ran ⟨m.queue, now, (m.runMatching now).2⟩ :: trace) w (m.runMatching now).1.drain.2
  reordered : ∀ {trace : List (ServerItem R)} {w : WiredServer R} {m : Matchmaker R} (order : List String),
    P trace w m → P trace { w with session := { w.session with players := w.session.players.reorder order } } m

namespace EventInvariant

variable {P : List (ServerItem R) → WiredServer R → Matchmaker R → Prop} {s s' : WebSocketServer R}
  {items trace : List (ServerItem R)}

theorem unregisterClient (invariant : EventInvariant P) (holds : P trace s.toWiredServer s.matchmaker)
    (playerId : String) : P ((s.unregisterClient playerId).1.reverse ++ trace)
      (s.unregisterClient playerId).2.toWiredServer (s.unregisterClient playerId).2.matchmaker := by
  have observed : (s.unregisterClient playerId).1 = removal s.toWiredServer playerId ++ [.left playerId] := by
    unfold WebSocketServer.unregisterClient
    dsimp only
    split <;> rfl
  have wired : (s.unregisterClient playerId).2.toWiredServer =
      { s.toWiredServer with session := s.session.removePlayer playerId } := by
    unfold WebSocketServer.unregisterClient
    dsimp only
    split <;> rfl
  have cancelled : (s.unregisterClient playerId).2.matchmaker = (s.matchmaker.cancel playerId).2 := by
    unfold WebSocketServer.unregisterClient
    dsimp only
    split <;> rfl
  rw [observed, wired, cancelled, List.reverse_append, List.append_assoc]
  exact invariant.left playerId holds

theorem stopClient (invariant : EventInvariant P) (holds : P trace s.toWiredServer s.matchmaker) (client : Nat) :
    P ((s.stopClient client).1.reverse ++ trace) (s.stopClient client).2.toWiredServer
      (s.stopClient client).2.matchmaker := by
  unfold WebSocketServer.stopClient
  split
  · exact holds
  · split
    · exact holds
    · dsimp only
      split
      · exact invariant.unregisterClient (s := s.update client _) holds _
      · exact holds

theorem stopPrevious (invariant : EventInvariant P) (holds : P trace s.toWiredServer s.matchmaker)
    (playerId : String) : P ((s.stopPrevious playerId).1.reverse ++ trace) (s.stopPrevious playerId).2.toWiredServer
      (s.stopPrevious playerId).2.matchmaker := by
  unfold WebSocketServer.stopPrevious
  split
  · exact holds
  · split
    · exact invariant.stopClient holds _
    · exact holds

theorem stop (invariant : EventInvariant P) (holds : P trace s.toWiredServer s.matchmaker) :
    P (s.stop.1.reverse ++ trace) s.stop.2.toWiredServer s.stop.2.matchmaker := by
  unfold WebSocketServer.stop
  split
  · exact holds
  · exact forEach_invariant _ (P := fun _ trace (s : WebSocketServer R) => P trace s.toWiredServer s.matchmaker)
      (fun client _ _ _ holds => invariant.stopClient holds client) holds

theorem registerClient (invariant : EventInvariant P) (holds : P trace s.toWiredServer s.matchmaker)
    {playerId : String} (named : playerId ≠ "") (client : Nat) (now : Int) : P ((s.registerClient playerId client now).1.reverse ++ trace)
      (s.registerClient playerId client now).2.toWiredServer (s.registerClient playerId client now).2.matchmaker := by
  have stopped := invariant.stopPrevious holds playerId
  let s₁ := (s.stopPrevious playerId).2
  have observed : (s.registerClient playerId client now).1.reverse ++ trace =
      ServerItem.joined playerId (s₁.profiles.ratingOf playerId) ::
        .inSession (.upserted playerId (!s₁.session.players.contains playerId)) ::
          ((s.stopPrevious playerId).1.reverse ++ trace) := by
    change ((s.stopPrevious playerId).1 ++ [_, _]).reverse ++ trace = _
    rw [List.reverse_append, List.append_assoc]
    rfl
  rw [observed]
  exact invariant.joined (s₁.profiles.ratingOf playerId) now named stopped

theorem bindPlayer (invariant : EventInvariant P) (holds : P trace s.toWiredServer s.matchmaker) (client : Nat)
    (session : ClientSession R) (frame : InputFrame R) (now : Int) :
    P ((s.bindPlayer client session frame now).2.1.reverse ++ trace)
      (s.bindPlayer client session frame now).2.2.toWiredServer
      (s.bindPlayer client session frame now).2.2.matchmaker := by
  unfold WebSocketServer.bindPlayer
  split
  · exact invariant.registerClient (s := s.update client _) holds frame.named _ _
  · exact holds

theorem onRead (invariant : EventInvariant P) (holds : P trace s.toWiredServer s.matchmaker) {client : Nat}
    {session : ClientSession R} {data : Option (InputFrame R)} {now : Int}
    (handled : s.onRead client session data now = some (items, s')) :
    P (items.reverse ++ trace) s'.toWiredServer s'.matchmaker := by
  cases data with
  | none =>
      cases handled
      exact holds
  | some frame =>
      have bound := invariant.bindPlayer holds client session frame now
      obtain ⟨playerId, observed, s₁, after, outcome, binding, applied, rfl, rfl⟩ := onRead_frame handled
      rw [binding] at bound
      have received := invariant.received (.mk client playerId s₁.clients s₁.session after) applied bound
      rw [List.reverse_append, List.append_assoc, List.reverse_append, List.append_assoc]
      exact received

theorem broadcastState (invariant : EventInvariant P) (run : Runs trace s)
    (holds : P trace s.toWiredServer s.matchmaker) (tick : Nat) (deltaSeconds : R) (now : CombatEvent → Int) :
    P ((s.broadcastState tick deltaSeconds now).1.reverse ++ trace)
      (s.broadcastState tick deltaSeconds now).2.toWiredServer (s.broadcastState tick deltaSeconds now).2.matchmaker := by
  let wired := s.toWiredServer.broadcastState tick deltaSeconds now
  let ticked : WebSocketServer R := { s with toWiredServer := wired.2 }
  let deaths := (s.session.tick tick deltaSeconds).1.consumeDeathEvents.1
  have whole : (s.broadcastState tick deltaSeconds now).1 = wired.1.map .wired ++
      (ticked.lockClients.sendFrames tick deltaSeconds deaths).1 := rfl
  obtain ⟨connections, sent⟩ := sendFrames_connections ticked.lockClients tick deltaSeconds deaths
  have behind : (s.broadcastState tick deltaSeconds now).2.toWiredServer = wired.2 := by
    change (ticked.lockClients.sendFrames tick deltaSeconds deaths).2.toWiredServer = wired.2
    rw [sent]
    rfl
  have same : (s.broadcastState tick deltaSeconds now).2.matchmaker = s.matchmaker := by
    change (ticked.lockClients.sendFrames tick deltaSeconds deaths).2.matchmaker = s.matchmaker
    rw [sent]
    rfl
  rw [behind, same, whole, List.reverse_append, List.append_assoc]
  exact invariant.told (sendFrames_items _ _ _ _) (invariant.broadcast tick deltaSeconds now run holds)

/-- An invariant of the events holds of every run. -/
theorem holds (invariant : EventInvariant P) (start : P [] ⟨.new, .new (some .new)⟩ .new) (run : Runs trace s) :
    P trace s.toWiredServer s.matchmaker := by
  refine Run.invariant (P := fun trace s => P trace s.toWiredServer s.matchmaker) ?_ ?_ run
  · intro s initial
    obtain ⟨targetDelta, rfl⟩ := initial
    exact start
  · intro trace s items s' run holds step
    obtain ⟨action, performed⟩ := step
    have stopped : ∀ {s₁ : WebSocketServer R} {client : Nat}, s₁.stopClient client = (items, s') →
        s₁.toWiredServer = s.toWiredServer → s₁.matchmaker = s.matchmaker →
        P (items.reverse ++ trace) s'.toWiredServer s'.matchmaker := by
      intro s₁ client same wired unchanged
      have holds' := invariant.stopClient (s := s₁) (by rw [wired, unchanged]; exact holds) client
      rw [same] at holds'
      exact holds'
    cases perform_handled performed with
    | reject found accepting same => exact stopped same rfl rfl
    | @onRead client session _ _ _ _ found read handled =>
        exact invariant.onRead (s := s.update client fun session => { session with read := .idle }) holds handled
    | disconnect now found read same => exact stopped same rfl rfl
    | failWrite found writing same => exact stopped same rfl rfl
    | broadcastState tick deltaSeconds now => exact invariant.broadcastState run holds tick deltaSeconds now
    | matchmakingTick now => exact invariant.ran now holds
    | stop => exact invariant.stop holds
    | reorder clients players => exact invariant.reordered players holds
    | _ => exact holds

end EventInvariant

end WebSocketServer

end Arena60
