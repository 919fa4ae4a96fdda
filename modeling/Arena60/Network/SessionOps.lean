import Arena60.Game.Stretches
import Arena60.Network.ConnectionGauge
import Arena60.Network.DeathFrames
import Arena60.Network.QueueEvents

/-!
# The operations of the session in a run of the server

What the handlers do to the session is a list of its operations. They insert only players that are
absent, because `RegisterClient` stops the client that was registered before, and only broadcasts
tick. So what is known about runs of the session carries over to the server.
-/

namespace Arena60

open Misc Misc.DoubleArith

universe u

namespace GameSession

variable {R : Type u} [DoubleArith R]

/-- The operations insert nobody who is present. -/
def Entering (s : GameSession R) : List (SessionOp R) → Prop
  | [] => True
  | op :: ops =>
      (∀ playerId, op = .upsertPlayer playerId → playerId ≠ "" ∧ s.players.contains playerId = false) ∧
        Entering (s.act op) ops

/-- Some operations that insert nobody who is present, from a session to another. -/
structure Plays (s : GameSession R) (ops : List (SessionOp R)) (s' : GameSession R) : Prop where
  reached : s.after ops = s'
  entering : Entering s ops

/-- Operations without a tick. -/
def Tickless (ops : List (SessionOp R)) : Prop := ∀ tick deltaSeconds, .tick tick deltaSeconds ∉ ops

theorem Entering.append {s : GameSession R} {ops ops' : List (SessionOp R)} (first : Entering s ops)
    (second : Entering (s.after ops) ops') : Entering s (ops ++ ops') := by
  induction ops generalizing s with
  | nil => exact second
  | cons op ops ih => exact ⟨first.1, ih first.2 second⟩

theorem Entering.split {s : GameSession R} {ops ops' : List (SessionOp R)} (entering : Entering s (ops ++ ops')) :
    Entering s ops ∧ Entering (s.after ops) ops' := by
  induction ops generalizing s with
  | nil => exact ⟨trivial, entering⟩
  | cons op ops ih =>
      obtain ⟨rest, later⟩ := ih entering.2
      exact ⟨⟨entering.1, rest⟩, later⟩

namespace Plays

variable {s s' s'' : GameSession R} {ops ops' : List (SessionOp R)}

theorem refl (s : GameSession R) : Plays s [] s := ⟨rfl, trivial⟩

theorem trans (first : Plays s ops s') (second : Plays s' ops' s'') : Plays s (ops ++ ops') s'' := by
  obtain ⟨rfl, entering⟩ := first
  obtain ⟨rfl, entering'⟩ := second
  exact ⟨after_append s ops ops', entering.append entering'⟩

theorem single {op : SessionOp R} (reached : s.act op = s')
    (absent : ∀ playerId, op = .upsertPlayer playerId → playerId ≠ "" ∧ s.players.contains playerId = false) :
    Plays s [op] s' := ⟨reached, absent, trivial⟩

end Plays

end GameSession

open GameSession

namespace WebSocketServer

variable {R : Type u} [DoubleConversions R] {s s' : WebSocketServer R} {items trace : List (ServerItem R)}
  {action : ServerAction R}

/-- A handler does some operations, without a tick. -/
def Handles (s s' : WebSocketServer R) : Prop := ∃ ops, Plays s.session ops s'.session ∧ Tickless ops

theorem Handles.still (same : s'.session = s.session) : Handles s s' :=
  ⟨[], by rw [same]; exact .refl _, fun _ _ => List.not_mem_nil⟩

theorem Handles.trans {s'' : WebSocketServer R} (first : Handles s s') (second : Handles s' s'') :
    Handles s s'' := by
  obtain ⟨ops, plays, tickless⟩ := first
  obtain ⟨ops', plays', tickless'⟩ := second
  refine ⟨ops ++ ops', plays.trans plays', ?_⟩
  intro tick deltaSeconds member
  rcases List.mem_append.mp member with here | there
  · exact tickless tick deltaSeconds here
  · exact tickless' tick deltaSeconds there

/-- One operation other than an insertion and a tick. -/
theorem Handles.single (op : SessionOp R) (reached : s.session.act op = s'.session)
    (other : ∀ playerId, op ≠ .upsertPlayer playerId) (tickless : ∀ tick deltaSeconds, op ≠ .tick tick deltaSeconds) :
    Handles s s' := by
  refine ⟨[op], .single reached fun playerId same => absurd same (other playerId), ?_⟩
  intro tick deltaSeconds member
  exact tickless tick deltaSeconds (List.mem_singleton.mp member).symm

theorem unregisterClient_handles (s : WebSocketServer R) (playerId : String) :
    Handles s (s.unregisterClient playerId).2 := by
  refine .single (.removePlayer playerId) ?_ (fun _ same => by cases same) (fun _ _ same => by cases same)
  unfold unregisterClient
  dsimp only
  split <;> rfl

theorem stopClient_handles (s : WebSocketServer R) (client : Nat) : Handles s (s.stopClient client).2 := by
  unfold stopClient
  split
  · exact .still rfl
  · split
    · exact .still rfl
    · dsimp only
      split
      · exact (Handles.still rfl).trans (unregisterClient_handles (s.update client _) _)
      · exact .still rfl

theorem stopPrevious_handles (s : WebSocketServer R) (playerId : String) :
    Handles s (s.stopPrevious playerId).2 := by
  unfold stopPrevious
  split
  · exact .still rfl
  · split
    · exact stopClient_handles s _
    · exact .still rfl

theorem stop_handles (s : WebSocketServer R) : Handles s s.stop.2 := by
  unfold WebSocketServer.stop
  split
  · exact .still rfl
  · exact forEach_keeps (P := Handles s) (fun client _ s' handles => handles.trans (stopClient_handles s' client))
      (.still rfl)

/-- `RegisterClient` inserts a player that is absent. -/
theorem registerClient_handles {s : WebSocketServer R} {playerId : String} (named : playerId ≠ "")
    (absent : (s.stopPrevious playerId).2.session.players.contains playerId = false) (client : Nat) (now : Int) :
    Handles s (s.registerClient playerId client now).2 := by
  have inserts : (s.stopPrevious playerId).2.session.act (.upsertPlayer playerId) =
      (s.registerClient playerId client now).2.session := by
    rw [act_upsertPlayer, if_neg named]
    rfl
  refine (stopPrevious_handles s playerId).trans ⟨[.upsertPlayer playerId], .single inserts ?_, ?_⟩
  · intro other same
    cases same
    exact ⟨named, absent⟩
  · intro tick deltaSeconds member
    cases List.mem_singleton.mp member

omit [DoubleConversions R] in
/-- The player of a client that is bound is absent once the client before it is stopped. -/
theorem Settled.vacant (settled : Settled trace s) {client : Nat} {session : ClientSession R}
    (found : s.connections[client]? = some session) (read : session.read ≠ .idle)
    (unbound : session.playerId = "") {playerId : String} (named : playerId ≠ "")
    {taken bound : WebSocketServer R}
    (taking : taken = s.update client fun session => { session with read := .idle })
    (binding : bound = taken.update client fun session => { session with playerId }) :
    (bound.stopPrevious playerId).2.session.players.contains playerId = false := by
  let idle := fun session : ClientSession R => { session with read := .idle }
  have reading := (settled.sound client session found).reading read
  have registered := settled.registered.update client (f := idle) fun _ => ⟨rfl, rfl⟩
  rw [← taking] at registered
  have found' : taken.connections[client]? = some (idle session) := by
    rw [taking]
    exact update_self found idle
  have sound : taken.SoundBut client := by
    rw [taking]
    exact (settled.but client).update idle
  obtain ⟨vacated, -⟩ := registered.stopPrevious sound found' (reading.unbound unbound).1 unbound named binding
  rw [vacated.served.players, Bool.eq_false_iff]
  intro here
  obtain ⟨other, holder⟩ := Option.isSome_iff_exists.mp here
  exact ((vacated.clients playerId other).mp holder).2 rfl

theorem Settled.onRead_handles (settled : Settled trace s) {client : Nat} {session : ClientSession R}
    {data : Option (InputFrame R)} {now : Int} (found : s.connections[client]? = some session)
    (read : session.read = .received data)
    (handled : (s.update client fun session => { session with read := .idle }).onRead client session data
      now = some (items, s')) : Handles s s' := by
  cases data with
  | none =>
      cases handled
      exact .still rfl
  | some frame =>
      obtain ⟨playerId, observed, s₁, after, outcome, binding, applied, rfl, rfl⟩ := onRead_frame handled
      have bound : Handles s s₁ := by
        unfold bindPlayer at binding
        split at binding
        · next unbound =>
            have vacant := settled.vacant found (by rw [read]; nofun) unbound frame.named rfl rfl
            cases binding
            exact Handles.trans (.still rfl) (registerClient_handles frame.named vacant client now)
        · cases binding
          exact .still rfl
      refine bound.trans (.single (.applyInput playerId frame.input s₁.targetDelta) ?_
        (fun _ same => by cases same) (fun _ _ same => by cases same))
      exact congrArg Prod.fst applied

omit [DoubleConversions R] in
theorem sendFrames_session (s : WebSocketServer R) (tick : Nat) (deltaSeconds : R)
    (deathEvents : List CombatEvent) : (s.sendFrames tick deltaSeconds deathEvents).2.session = s.session := by
  obtain ⟨connections, sent⟩ := sendFrames_connections s tick deltaSeconds deathEvents
  rw [sent]

/-- What a handler does to the session. -/
theorem Settled.plays (settled : Settled trace s) (performed : perform action s = some (items, s')) :
    ∃ ops, Plays s.session ops s'.session ∧ ∀ tick deltaSeconds, .tick tick deltaSeconds ∈ ops →
      ∃ now, action = .broadcastState tick deltaSeconds now := by
  have quiet : Handles s s' → ∃ ops, Plays s.session ops s'.session ∧
      ∀ tick deltaSeconds, .tick tick deltaSeconds ∈ ops →
        ∃ now, action = .broadcastState tick deltaSeconds now := by
    rintro ⟨ops, plays, tickless⟩
    exact ⟨ops, plays, fun tick deltaSeconds member => absurd member (tickless tick deltaSeconds)⟩
  have stopped : ∀ {s₁ : WebSocketServer R} {client : Nat}, s₁.stopClient client = (items, s') →
      s₁.session = s.session → Handles s s' := by
    intro s₁ client same untouched
    have stops := stopClient_handles s₁ client
    rw [same] at stops
    exact Handles.trans (.still untouched) stops
  cases perform_handled performed with
  | reject found accepting same => exact quiet (stopped same rfl)
  | onRead found read handled => exact quiet (settled.onRead_handles found read handled)
  | disconnect now found read same => exact quiet (stopped same rfl)
  | failWrite found writing same => exact quiet (stopped same rfl)
  | broadcastState tick deltaSeconds now =>
      refine ⟨[.tick tick deltaSeconds, .consumeDeathEvents], ⟨?_, nofun, nofun, trivial⟩, ?_⟩
      · let ticked : WebSocketServer R :=
          { s with toWiredServer := (s.toWiredServer.broadcastState tick deltaSeconds now).2 }
        exact (sendFrames_session ticked.lockClients tick deltaSeconds
          (s.session.tick tick deltaSeconds).1.consumeDeathEvents.1).symm
      · intro tick' deltaSeconds' member
        simp at member
        obtain ⟨rfl, rfl⟩ := member
        exact ⟨now, rfl⟩
  | stop => exact quiet (stop_handles s)
  | reorder clients players => exact quiet (.single (.reorder players) rfl (fun _ same => by cases same) (fun _ _ same => by cases same))
  | _ => exact quiet (.still rfl)

/-- The session of a run is one that some operations reach, each of which inserts only an absent player. -/
theorem Runs.plays (run : Runs trace s) : ∃ ops, Plays .new ops s.session := by
  refine Run.invariant (P := fun _ s => ∃ ops, Plays .new ops s.session) ?_ ?_ run
  · intro s initial
    obtain ⟨targetDelta, rfl⟩ := initial
    exact ⟨[], .refl _⟩
  · intro trace s items s' earlier plays step
    obtain ⟨ops, played⟩ := plays
    obtain ⟨action, performed⟩ := step
    obtain ⟨ops', plays', -⟩ := (Runs.settled earlier).plays performed
    exact ⟨ops ++ ops', played.trans plays'⟩

end WebSocketServer

end Arena60
