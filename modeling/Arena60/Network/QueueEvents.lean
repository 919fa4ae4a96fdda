import Arena60.Network.ClientRegistry
import Arena60.Network.ServerEvents
import Arena60.Matchmaking.Conservation

/-!
# The events of the queue

The handlers touch the matchmaker in three ways only: a join enqueues, a leave cancels, and the timer runs
a pass. What each of the three keeps holds of every run.
-/

namespace Arena60

open Misc

universe u

variable {R : Type u}

/-- A join, a leave or a pass. -/
def ServerItem.isQueueEvent : ServerItem R → Bool
  | joined .. | left _ | ran _ => true
  | _ => false

/-- Items that are about no queue. -/
def Idle (items : List (ServerItem R)) : Prop := ∀ item ∈ items, item.isQueueEvent = false

theorem Idle.append {items items' : List (ServerItem R)} (idle : Idle items) (idle' : Idle items') :
    Idle (items ++ items') := by
  intro item member
  rcases List.mem_append.mp member with here | there
  · exact idle item here
  · exact idle' item there

theorem Idle.singleton {item : ServerItem R} (idle : item.isQueueEvent = false) : Idle [item] := by
  intro other member
  rw [List.mem_singleton.mp member]
  exact idle

theorem Idle.wired (items : List (WiredItem R)) : Idle (items.map ServerItem.wired) := by
  intro item member
  obtain ⟨wired, -, rfl⟩ := List.mem_map.mp member
  rfl

theorem Idle.inSession (items : List SessionItem) : Idle (items.map (ServerItem.inSession (R := R))) := by
  intro item member
  obtain ⟨made, -, rfl⟩ := List.mem_map.mp member
  rfl

theorem Idle.frames {items : List (ServerItem R)} (frames : ∀ item ∈ items, item.isFrame = true) : Idle items := by
  intro item member
  have frame := frames item member
  cases item with
  | enqueued _ _ | missed _ => rfl
  | _ => cases frame

namespace WebSocketServer

variable [DoubleConversions R]

/-- A property of the trace and the matchmaker that each of the events keeps. -/
structure QueueInvariant (P : List (ServerItem R) → Matchmaker R → Prop) : Prop where
  idle : ∀ {items trace : List (ServerItem R)} {m : Matchmaker R}, Idle items → P trace m →
    P (items.reverse ++ trace) m
  joined : ∀ {trace : List (ServerItem R)} {m : Matchmaker R} (playerId : String) (rating now : Int), P trace m →
    P (.joined playerId rating :: trace) (m.enqueue { playerId, elo := 1200, enqueuedAt := now })
  left : ∀ {trace : List (ServerItem R)} {m : Matchmaker R} (playerId : String), P trace m →
    P (.left playerId :: trace) (m.cancel playerId).2
  ran : ∀ {trace : List (ServerItem R)} {m : Matchmaker R} (now : Int), P trace m →
    P (.ran ⟨m.queue, now, (m.runMatching now).2⟩ :: trace) (m.runMatching now).1.drain.2

namespace QueueInvariant

variable {P : List (ServerItem R) → Matchmaker R → Prop}

theorem events (invariant : QueueInvariant P) : EventInvariant fun trace _ m => P trace m where
  told frames holds := invariant.idle (.frames frames) holds
  joined rating now _ holds := by
    have quiet : ∀ playerId fresh, Idle [ServerItem.inSession (R := R) (.upserted playerId fresh)] :=
      fun _ _ => .singleton rfl
    exact invariant.joined _ rating now (invariant.idle (quiet _ _) holds)
  left playerId holds := invariant.left playerId (invariant.idle (.inSession _) holds)
  received call _ holds := by
    have quiet : Idle [ServerItem.applied call] := .singleton rfl
    exact invariant.idle quiet (invariant.idle (.inSession _) holds)
  broadcast tick deltaSeconds now _ holds := invariant.idle (.wired _) holds
  ran now holds := invariant.ran now holds
  reordered _ holds := holds

/-- An invariant of the events holds of every run. -/
theorem holds (invariant : QueueInvariant P) (start : P [] .new) {trace : List (ServerItem R)}
    {s : WebSocketServer R} (run : Runs trace s) : P trace s.matchmaker := invariant.events.holds start run

end QueueInvariant

end WebSocketServer

end Arena60
