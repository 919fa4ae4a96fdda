import Arena60.Network.ClientRegistry

/-!
# The calls a handler makes

Only the handler of a read applies an input, and only the timer runs the matchmaker.
-/

namespace Arena60

open Misc

universe u

variable {R : Type u}

/-- Whether an item is a call of `ApplyInput` or of `RunMatching`. -/
def ServerItem.isCall : ServerItem R → Bool
  | applied _ => true
  | ran _ => true
  | _ => false

/-- Items without a call. -/
def Plain (items : List (ServerItem R)) : Prop := ∀ item ∈ items, item.isCall = false

theorem Plain.nil : Plain ([] : List (ServerItem R)) := nofun

theorem Plain.append {first second : List (ServerItem R)} (plain : Plain first) (plain' : Plain second) :
    Plain (first ++ second) := by
  intro item member
  rcases List.mem_append.mp member with here | there
  · exact plain item here
  · exact plain' item there

theorem Plain.inSession (made : List SessionItem) : Plain (made.map (ServerItem.inSession (R := R))) := by
  intro item member
  obtain ⟨made, -, rfl⟩ := List.mem_map.mp member
  rfl

namespace WebSocketServer

variable {s s' : WebSocketServer R} {items : List (ServerItem R)}

theorem stopClient_plain (s : WebSocketServer R) (client : Nat) : Plain (s.stopClient client).1 := by
  unfold stopClient
  split
  · exact .nil
  · split
    · exact .nil
    · split
      · refine (Plain.inSession _).append ?_
        intro item member
        rw [List.mem_singleton.mp member]
        rfl
      · exact .nil

theorem stop_plain (s : WebSocketServer R) : Plain s.stop.1 := by
  unfold stop
  split
  · exact .nil
  · intro item member
    obtain ⟨client, -, s', emitted⟩ := mem_forEach member
    exact stopClient_plain s' client item emitted

theorem sendFrames_plain (s : WebSocketServer R) (tick : Nat) (deltaSeconds : R)
    (deathEvents : List CombatEvent) : Plain (s.sendFrames tick deltaSeconds deathEvents).1 := by
  refine Plain.append ?_ ?_
  · intro item member
    obtain ⟨client, -, s', emitted⟩ := mem_forEach member
    unfold enqueueState at emitted
    split at emitted
    · cases emitted
    · split at emitted
      · rw [List.mem_singleton.mp emitted]
        rfl
      · rw [List.mem_singleton.mp emitted]
        rfl
  · intro item member
    obtain ⟨event, -, s', emitted⟩ := mem_forEach member
    obtain ⟨client, -, s'', emitted⟩ := mem_forEach emitted
    rw [List.mem_singleton.mp emitted]
    rfl

variable [DoubleConversions R]

theorem registerClient_plain (s : WebSocketServer R) (playerId : String) (client : Nat) (now : Int) :
    Plain (s.registerClient playerId client now).1 := by
  refine Plain.append ?_ ?_
  · unfold stopPrevious
    split
    · exact .nil
    · split
      · exact stopClient_plain _ _
      · exact .nil
  · intro item member
    cases member with
    | head => rfl
    | tail _ member =>
        rw [List.mem_singleton.mp member]
        rfl

theorem bindPlayer_plain (s : WebSocketServer R) (client : Nat) (session : ClientSession R)
    (frame : InputFrame R) (now : Int) : Plain (s.bindPlayer client session frame now).2.1 := by
  unfold bindPlayer
  split
  · exact registerClient_plain _ _ _ _
  · exact .nil

/-- What `OnRead` does with a frame. -/
theorem onRead_cases {client : Nat} {session : ClientSession R} {frame : InputFrame R} {now : Int}
    (handled : s.onRead client session (some frame) now = some (items, s')) :
    ∃ (playerId : String) (observed quiet : List (ServerItem R)) (s₁ : WebSocketServer R),
      s.bindPlayer client session frame now = (playerId, observed, s₁) ∧ Plain quiet ∧
      items = quiet ++ [.applied (.mk client playerId s₁.clients s₁.session
        (s₁.session.applyInput playerId frame.input s₁.targetDelta).1)] := by
  have plain := s.bindPlayer_plain client session frame now
  obtain ⟨playerId, observed, s₁, after, outcome, bound, applied, rfl, rfl⟩ := onRead_frame handled
  rw [bound] at plain
  let received := SessionItem.input playerId :: s₁.session.spawnedItems after
  refine ⟨playerId, observed, _, s₁, bound, plain.append (.inSession received), ?_⟩
  rw [applied, List.append_assoc]

/-- The calls of a step. -/
inductive StepCalls (s : WebSocketServer R) : ServerAction R → List (ServerItem R) → Prop
  | plain {action : ServerAction R} {items : List (ServerItem R)} : Plain items → StepCalls s action items
  | ran (now : Int) : StepCalls s (.matchmakingTick now)
      [.ran ⟨s.matchmaker.queue, now, (s.matchmaker.runMatching now).2⟩]
  | applied {client : Nat} {now : Int} {session : ClientSession R} {frame : InputFrame R}
      {items : List (ServerItem R)} {s' : WebSocketServer R}
      (found : s.connections[client]? = some session) (read : session.read = .received (some frame))
      (handled : (s.update client fun session => { session with read := .idle }).onRead client session
        (some frame) now = some (items, s')) : StepCalls s (.readLoop client now) items

theorem perform_calls {action : ServerAction R} (performed : perform action s = some (items, s')) :
    StepCalls s action items := by
  have stopped : ∀ {s₁ : WebSocketServer R} {client : Nat},
      s₁.stopClient client = (items, s') → Plain items := by
    intro s₁ client same
    have plain := stopClient_plain s₁ client
    rw [same] at plain
    exact plain
  cases perform_handled performed with
  | reject found accepting same => exact .plain (stopped same)
  | @onRead client session data now _ _ found read handled =>
      cases data with
      | none =>
          cases handled
          exact .plain .nil
      | some frame => exact .applied found read handled
  | disconnect now found read same => exact .plain (stopped same)
  | failWrite found writing same => exact .plain (stopped same)
  | broadcastState tick deltaSeconds now =>
      refine .plain (Plain.append ?_ (sendFrames_plain _ _ _ _))
      intro item member
      obtain ⟨observed, -, rfl⟩ := List.mem_map.mp member
      rfl
  | matchmakingTick now => exact .ran now
  | stop => exact .plain (stop_plain s)
  | _ => exact .plain .nil

end WebSocketServer

end Arena60
