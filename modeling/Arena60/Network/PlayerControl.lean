import Arena60.Network.HandlerCalls
import Arena60.Network.RegistryAgreement

/-!
# Who controls a player

A player is to be changed by the input frames of the client that is registered for it only.
`OnRead` does not ask whether its client has been stopped in the meantime; a frame that was
received before is applied to the player of the client that took over.
-/

namespace Arena60

open Misc

universe u

variable {R : Type u}

/-! ## Changes by inputs -/

/-- An input changed the state of a player. -/
def InputCall.Changes (call : InputCall R) (playerId : String) : Prop :=
  (call.before.players.find playerId).map PlayerRuntimeState.state ≠
    (call.after.players.find playerId).map PlayerRuntimeState.state

/-- What an input changed belongs to the client it came from. -/
structure InputCall.ByOwner (call : InputCall R) : Prop where
  players : ∀ playerId, call.Changes playerId → call.clients.find playerId = some call.client
  projectiles : call.before.projectiles ≠ call.after.projectiles →
    call.clients.find call.playerId = some call.client

/-- Every input of a trace changed only what belongs to its client. -/
def OwnersControl (trace : List (ServerItem R)) : Prop :=
  ∀ call, ServerItem.applied call ∈ trace → call.ByOwner

namespace GameSession

variable [DoubleArith R] (s : GameSession R) {playerId : String} (input : MovementInput R) (deltaSeconds : R)

/-- An input for nobody, or an outdated one, does nothing. -/
theorem applyInput_ignored (ignored : ∀ runtime, s.players.find playerId = some runtime →
    input.sequence < runtime.state.lastSequence) : (s.applyInput playerId input deltaSeconds).1 = s := by
  unfold applyInput
  cases found : s.players.find playerId with
  | none => rfl
  | some runtime =>
      dsimp only
      rw [if_pos (ignored runtime found)]

/-- An input leaves the other players alone. -/
theorem applyInput_others {other : String} (differs : other ≠ playerId) :
    (s.applyInput playerId input deltaSeconds).1.players.find other = s.players.find other := by
  obtain ⟨effect, -, same⟩ := s.exists_applyInput_effect playerId input deltaSeconds
  rw [same]
  have found : (s.players.adjust playerId effect.update).find other = s.players.find other := by
    rw [UnorderedMap.find_adjust, if_neg differs]
  exact found

end GameSession

namespace WebSocketServer

variable [DoubleConversions R] {s s' : WebSocketServer R} {trace items : List (ServerItem R)}

/-- A frame that a stopped client received is about to be applied to its former player, which is in
the session again. -/
def intrudes (s : WebSocketServer R) (client : Nat) : Bool :=
  match s.connections[client]? with
  | none => false
  | some session =>
      match session.read with
      | .received (some frame) =>
          session.closed && (s.session.players.find session.playerId).any fun runtime =>
            decide (runtime.state.lastSequence ≤ frame.input.sequence)
      | _ => false

/-- No such frame is handled. -/
def orderly (s : WebSocketServer R) : ServerAction R → Bool
  | .readLoop client _ => !s.intrudes client
  | _ => true

/-- Execute an action that handles no such frame. -/
def performOrderly (action : ServerAction R) (s : WebSocketServer R) :
    Option (List (ServerItem R) × WebSocketServer R) :=
  if s.orderly action then perform action s else none

/-- The runs in which no such frame is handled. -/
abbrev OrderlyRuns (trace : List (ServerItem R)) (s : WebSocketServer R) : Prop :=
  Run Initial (StepOf performOrderly) trace s

theorem performOrderly_eq_some {action : ServerAction R}
    (performed : performOrderly action s = some (items, s')) :
    perform action s = some (items, s') ∧ s.orderly action = true := by
  unfold performOrderly at performed
  split at performed
  · exact ⟨performed, ‹_›⟩
  · cases performed

theorem OrderlyRuns.runs (run : OrderlyRuns trace s) : Runs trace s := by
  induction run with
  | start initial => exact .start initial
  | next _ step ih =>
      obtain ⟨action, performed⟩ := step
      exact .next ih ⟨action, (performOrderly_eq_some performed).1⟩

/-! ## Where inputs are applied -/

/-- An input from the client that is registered for the player. -/
theorem byOwner_of_registered (before : GameSession R) {client : Nat} {playerId : String}
    {clients : UnorderedMap String Nat} (owner : clients.find playerId = some client)
    (input : MovementInput R) (deltaSeconds : R) :
    (InputCall.mk client playerId clients before
      (before.applyInput playerId input deltaSeconds).1).ByOwner := by
  constructor
  · intro other changes
    by_cases asked : other = playerId
    · rw [asked]
      exact owner
    · refine absurd ?_ changes
      rw [before.applyInput_others input deltaSeconds asked]
  · exact fun _ => owner

/-- A client that registers is registered. -/
theorem registerClient_find (s : WebSocketServer R) (playerId : String) (client : Nat) (now : Int) :
    (s.registerClient playerId client now).2.clients.find playerId = some client := by
  have clients : (s.registerClient playerId client now).2.clients =
      (s.stopPrevious playerId).2.clients.upsert playerId client fun _ => client := rfl
  rw [clients, UnorderedMap.find_upsert, if_pos rfl]

/-- A frame is applied for the registered client, or it is ignored. -/
theorem onRead_byOwner (registered : Registered s.Holds trace s) {client : Nat} {session : ClientSession R}
    (found : s.connections[client]? = some session) {frame : InputFrame R} {now : Int}
    (ignored : session.closed = true → ∀ runtime, s.session.players.find session.playerId = some runtime →
      frame.input.sequence < runtime.state.lastSequence)
    {session' : ClientSession R} (same : session'.playerId = session.playerId)
    (handled : s.onRead client session' (some frame) now = some (items, s')) : OwnersControl items := by
  obtain ⟨playerId, observed, quiet, s₁, bound, plain, rfl⟩ := onRead_cases handled
  have owner : (InputCall.mk client playerId s₁.clients s₁.session
      (s₁.session.applyInput playerId frame.input s₁.targetDelta).1).ByOwner := by
    unfold bindPlayer at bound
    rw [same] at bound
    by_cases unbound : session.playerId = ""
    · rw [if_pos unbound] at bound
      cases bound
      exact byOwner_of_registered _ (registerClient_find _ frame.playerId client now) _ _
    · rw [if_neg unbound] at bound
      cases bound
      cases closed : session.closed with
      | false =>
          refine byOwner_of_registered _ ((registered.clients _ client).mpr ?_) _ _
          exact ⟨session, found, closed, rfl, unbound⟩
      | true =>
          have unchanged := s.session.applyInput_ignored frame.input s.targetDelta (ignored closed)
          rw [unchanged]
          exact ⟨fun _ changes => absurd rfl changes, fun changes => absurd rfl changes⟩
  intro call member
  rcases List.mem_append.mp member with earlier | last
  · cases plain _ earlier
  · cases List.mem_singleton.mp last
    exact owner

omit [DoubleConversions R] in
theorem OwnersControl.append (control : OwnersControl trace) (control' : OwnersControl items) :
    OwnersControl (items.reverse ++ trace) := by
  intro call member
  rcases List.mem_append.mp member with new | old
  · exact control' call (List.mem_reverse.mp new)
  · exact control call old

/-- One step. -/
theorem performOrderly_control (settled : Settled trace s) {action : ServerAction R}
    (step : performOrderly action s = some (items, s')) : OwnersControl items := by
  obtain ⟨performed, quiet⟩ := performOrderly_eq_some step
  cases perform_calls performed with
  | plain plain =>
      intro call member
      cases plain _ member
  | ran now =>
      intro call member
      cases List.mem_singleton.mp member
  | @applied client now session frame items s' found read handled =>
      rw [orderly, Bool.not_eq_true'] at quiet
      let taken := fun session : ClientSession R => { session with read := .idle }
      have registered := settled.registered.update client (f := taken) fun _ => ⟨rfl, rfl⟩
      refine onRead_byOwner registered (update_self found taken) ?_ rfl handled
      intro closed runtime present
      have closed' : session.closed = true := closed
      have present' : s.session.players.find session.playerId = some runtime := present
      unfold intrudes at quiet
      rw [found] at quiet
      dsimp only at quiet
      rw [read, closed'] at quiet
      dsimp only at quiet
      rw [present', Bool.true_and, Option.any_some, decide_eq_false_iff_not] at quiet
      omega

/-- In a run in which no stopped client's frame is applied to a player that is back in the session,
players are changed by their owners only. -/
theorem owners_control (run : OrderlyRuns trace s) : OwnersControl trace := by
  induction run with
  | start initial => exact nofun
  | next earlier step ih =>
      have settled := Runs.settled (OrderlyRuns.runs earlier)
      obtain ⟨action, performed⟩ := step
      exact OwnersControl.append ih (performOrderly_control settled performed)

end WebSocketServer

/-! ## A frame that was received before a takeover -/

/-- An input that runs to the right. -/
def runRight (sequence : Nat) : MovementInput ℚ := { restingInput sequence with right := true }

/-- The second connection takes over the player of the first, which has received a frame before. -/
def lateFrame (sequence : Nat) : List (ServerAction ℚ) :=
  [.accept false, .handshake 0 false,
    .completeRead 0 (.received (some ⟨"alice", restingInput 1, alice_named⟩)), .readLoop 0 0,
    .completeRead 0 (.received (some ⟨"alice", runRight sequence, alice_named⟩)),
    .accept false, .handshake 1 false,
    .completeRead 1 (.received (some ⟨"alice", restingInput 1, alice_named⟩)), .readLoop 1 5,
    .readLoop 0 6]

/-- Whether an input moved a player that another client is registered for. -/
def movesAnother (playerId : String) : ServerItem ℚ → Bool
  | .applied call =>
      decide ((call.before.players.find playerId).map (fun runtime => runtime.state.x) ≠
        (call.after.players.find playerId).map fun runtime => runtime.state.x) &&
      decide (call.clients.find playerId ≠ some call.client)
  | _ => false

/-- An outdated frame of the stopped client is ignored. -/
theorem owners_control_outdated : ∃ (trace : List (ServerItem ℚ)) (s : WebSocketServer ℚ),
    OwnersControl trace ∧ s.clients.find "alice" = some 1 := by
  have fresh : WebSocketServer.Initial (WebSocketServer.new (1 / 10) : WebSocketServer ℚ) := ⟨_, rfl⟩
  obtain ⟨trace, s, run, passed⟩ := exists_run_of_replay (lateFrame 0)
    (fun _ s => s.clients.find "alice" == some 1) fresh
    (show (replay WebSocketServer.performOrderly _ _).any _ = true by decide +kernel)
  rw [beq_iff_eq] at passed
  exact ⟨trace, s, WebSocketServer.owners_control run, passed⟩

theorem not_owners_control : ¬∀ (trace : List (ServerItem ℚ)) (s : WebSocketServer ℚ),
    WebSocketServer.Runs trace s → OwnersControl trace := by
  intro claim
  have fresh : WebSocketServer.Initial (WebSocketServer.new (1 / 10) : WebSocketServer ℚ) := ⟨_, rfl⟩
  obtain ⟨trace, s, run, passed⟩ := exists_run_of_replay (lateFrame 2)
    (fun trace s => trace.any (movesAnother "alice")) fresh
    (show (replay WebSocketServer.perform _ _).any _ = true by decide +kernel)
  obtain ⟨item, member, moves⟩ := List.any_eq_true.mp passed
  cases item with
  | applied call =>
      rw [movesAnother, Bool.and_eq_true, decide_eq_true_iff, decide_eq_true_iff] at moves
      refine moves.2 ((claim trace s run call member).players "alice" ?_)
      intro same
      refine moves.1 ?_
      have state := congrArg (Option.map PlayerState.x) same
      rw [Option.map_map, Option.map_map] at state
      exact state
  | _ => cases moves

end Arena60
