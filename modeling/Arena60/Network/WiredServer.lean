import Arena60.Game.Presence
import Arena60.Stats.MatchTotals
import Arena60.Stats.ProfileTotals

/-!
# The wired server

What `websocket_server.cpp` and `main.cpp` do with one session and one profile service:
clients join, leave and send inputs, and `BroadcastState` runs a tick, collects a result
for each death it consumes and records the results. Frames to the clients are left out.
-/

namespace Arena60

open Misc GameSession MatchStatsCollector PlayerProfileService

universe u

/-- The session and the profile service that `main` wires together. -/
structure WiredServer (R : Type u) where
  session : GameSession R
  profiles : PlayerProfileService

/-- What the handlers do, and a change of the enumeration order of the players. The times
at which results are completed are read from the clock. -/
inductive WiredOp (R : Type u) where
  | registerClient (playerId : String)
  | unregisterClient (playerId : String)
  | onRead (playerId : String) (input : MovementInput R) (targetDelta : R)
  | broadcastState (tick : Nat) (deltaSeconds : R) (now : CombatEvent → Int)
  | reorder (order : List String)

/-- A call of `Collect`. -/
structure CollectCall (R : Type u) where
  death : CombatEvent
  session : GameSession R
  completedAt : Int

/-- The result of a call of `Collect`. -/
def CollectCall.result {R : Type u} (call : CollectCall R) : MatchResult :=
  collect call.death call.session call.completedAt

/-- What is observed of a run: what is observed of the session, and the calls of `Collect`. -/
inductive WiredItem (R : Type u) where
  | inSession (item : SessionItem)
  | collected (call : CollectCall R)

/-- What an item says about the session. -/
def WiredItem.session? {R : Type u} : WiredItem R → Option SessionItem
  | inSession item => some item
  | collected _ => none

/-- The call of an item. -/
def WiredItem.call? {R : Type u} : WiredItem R → Option (CollectCall R)
  | inSession _ => none
  | collected call => some call

namespace WiredServer

section execution

variable {R : Type u} [DoubleConversions R]

/-- An operation of the session alone. -/
def onSession (op : SessionOp R) (server : WiredServer R) :
    Option (List (WiredItem R) × WiredServer R) :=
  (GameSession.perform op server.session).map fun (items, session) =>
    (items.map .inSession, { server with session })

/-- `WebSocketServer::BroadcastState` with the callback of `main`. -/
def broadcastState (server : WiredServer R) (tick : Nat) (deltaSeconds : R)
    (now : CombatEvent → Int) : List (WiredItem R) × WiredServer R :=
  let (session, events) := server.session.tick tick deltaSeconds
  let expired := (server.session.moveProjectiles deltaSeconds).expiredItems
  let (deathEvents, session) := session.consumeDeathEvents
  let calls := (deathEvents.filter fun event => event.type == .death).map fun event =>
    CollectCall.mk event session (now event)
  let completedMatches := calls.map CollectCall.result
  let observed : List SessionItem :=
    .ticked tick :: (expired ++ events.map .combat) ++ [.consumed deathEvents]
  (observed.map .inSession ++ calls.map .collected,
    { session, profiles := completedMatches.foldl (recordMatch R) server.profiles })

/-- Execute an operation. -/
def perform : WiredOp R → WiredServer R → Option (List (WiredItem R) × WiredServer R)
  | .registerClient playerId, server => server.onSession (.upsertPlayer playerId)
  | .unregisterClient playerId, server => server.onSession (.removePlayer playerId)
  | .onRead playerId input targetDelta, server =>
      server.onSession (.applyInput playerId input targetDelta)
  | .broadcastState tick deltaSeconds now, server =>
      some (server.broadcastState tick deltaSeconds now)
  | .reorder order, server => server.onSession (.reorder order)

/-- The session and the profiles are fresh. -/
def Initial (server : WiredServer R) : Prop :=
  server.session = .new ∧ ∃ leaderboard, server.profiles = .new leaderboard

/-- The runs of the server. -/
abbrev Runs (trace : List (WiredItem R)) (server : WiredServer R) : Prop :=
  Run Initial (StepOf perform) trace server

end execution

/-! ## The run of its session -/

section views

variable {R : Type u}

/-- The trace of the session. -/
def sessionTrace (trace : List (WiredItem R)) : List SessionItem :=
  trace.filterMap WiredItem.session?

/-- The calls of `Collect`, oldest first. -/
def calls (trace : List (WiredItem R)) : List (CollectCall R) :=
  (trace.filterMap WiredItem.call?).reverse

theorem sessionTrace_append (items trace : List (WiredItem R)) :
    sessionTrace (items.reverse ++ trace) =
      (items.filterMap WiredItem.session?).reverse ++ sessionTrace trace := by
  rw [sessionTrace, List.filterMap_append, List.filterMap_reverse, sessionTrace]

theorem calls_append (items trace : List (WiredItem R)) :
    calls (items.reverse ++ trace) = calls trace ++ items.filterMap WiredItem.call? := by
  simp [calls, List.filterMap_append, List.filterMap_reverse]

theorem filterMap_inSession (items : List SessionItem) :
    (items.map (WiredItem.inSession (R := R))).filterMap WiredItem.session? = items ∧
      (items.map (WiredItem.inSession (R := R))).filterMap WiredItem.call? = [] := by
  constructor
  · rw [List.filterMap_map]
    exact List.filterMap_some
  · rw [List.filterMap_map]
    exact List.filterMap_none items

theorem filterMap_collected (made : List (CollectCall R)) :
    (made.map WiredItem.collected).filterMap WiredItem.session? = [] ∧
      (made.map WiredItem.collected).filterMap WiredItem.call? = made := by
  constructor
  · rw [List.filterMap_map, List.filterMap_eq_nil_iff]
    intro call _
    rfl
  · rw [List.filterMap_map]
    exact List.filterMap_some

end views

/-! ## What the profiles are made from -/

/-- The session runs as a session does, and the profiles are made from one result for each
of its deaths, collected from a state of the session in which the death had happened. -/
structure WiredLedger {R : Type u} [DoubleConversions R] (trace : List (WiredItem R))
    (server : WiredServer R) : Prop where
  run : GameSession.Runs (sessionTrace trace) server.session
  delivered : server.session.pendingDeaths = []
  deaths : (calls trace).map CollectCall.death = deathEvents (sessionTrace trace)
  profiles : ∃ leaderboard, server.profiles =
    ((calls trace).map CollectCall.result).foldl (recordMatch R) (.new leaderboard)
  reached : ∀ call ∈ calls trace, ∃ earlier, GameSession.Runs earlier call.session ∧
    call.death ∈ deathEvents earlier

section ledger

variable {R : Type u} [DoubleConversions R] {trace : List (WiredItem R)} {server server' : WiredServer R}

/-- An operation of the session without combat. -/
theorem WiredLedger.onSession (ledger : WiredLedger trace server) {op : SessionOp R}
    {items : List (WiredItem R)} (performed : server.onSession op = some (items, server'))
    (noTick : ∀ tick deltaSeconds, op ≠ .tick tick deltaSeconds)
    (noDelivery : op ≠ .consumeDeathEvents) :
    WiredLedger (items.reverse ++ trace) server' := by
  obtain ⟨⟨made, session⟩, done, same⟩ := Option.map_eq_some_iff.mp performed
  cases same
  obtain ⟨observed, noCalls⟩ := filterMap_inSession (R := R) made
  have silent := perform_quiet noTick noDelivery done
  have peaceful : Peaceful made := fun item member => (silent item member).1
  have run : GameSession.Runs (made.reverse ++ sessionTrace trace) session :=
    .next ledger.run ⟨op, done⟩
  have sameDeaths : deathEvents (made.reverse ++ sessionTrace trace) =
      deathEvents (sessionTrace trace) := by
    rw [deathEvents, peaceful.combatEvents_eq, deathEvents]
  have before := (MoveRuns.combatLedger (Runs.byMoves ledger.run).1).consumed
  have after := (MoveRuns.combatLedger (Runs.byMoves run).1).consumed
  rw [consumedDeaths_quiet fun item member => (silent item member).2, sameDeaths, ← before,
    List.append_cancel_left_eq, ledger.delivered] at after
  have sameCalls : calls ((made.map WiredItem.inSession).reverse ++ trace) = calls trace := by
    rw [calls_append, noCalls, List.append_nil]
  constructor
  · rw [sessionTrace_append, observed]
    exact run
  · exact after
  · rw [sessionTrace_append, observed, sameDeaths, sameCalls]
    exact ledger.deaths
  · rw [sameCalls]
    exact ledger.profiles
  · rw [sameCalls]
    exact ledger.reached

/-- A broadcast collects a result for each death of its tick. -/
theorem WiredLedger.broadcastState (ledger : WiredLedger trace server) (tick : Nat)
    (deltaSeconds : R) (now : CombatEvent → Int) :
    WiredLedger ((server.broadcastState tick deltaSeconds now).1.reverse ++ trace)
      (server.broadcastState tick deltaSeconds now).2 := by
  let session := (server.session.tick tick deltaSeconds).1
  let events := (server.session.tick tick deltaSeconds).2
  let expired := (server.session.moveProjectiles deltaSeconds).expiredItems
  let ticked : List SessionItem := .ticked tick :: (expired ++ events.map .combat)
  let made := (session.pendingDeaths.filter fun event => event.type == .death).map fun event =>
    CollectCall.mk event session.consumeDeathEvents.2 (now event)
  have afterTick : GameSession.Runs (ticked.reverse ++ sessionTrace trace) session :=
    .next ledger.run ⟨.tick tick deltaSeconds, rfl⟩
  have run : GameSession.Runs
      ([SessionItem.consumed session.pendingDeaths].reverse ++ (ticked.reverse ++ sessionTrace trace))
      session.consumeDeathEvents.2 :=
    .next afterTick ⟨.consumeDeathEvents, rfl⟩
  have appended := Runs.deathEvents_tick ledger.run ledger.delivered
    (rfl : GameSession.perform (.tick tick deltaSeconds) server.session = some (ticked, session))
  have calm : Peaceful [SessionItem.consumed session.pendingDeaths] := by
    intro item member
    rw [List.mem_singleton.mp member]
    rfl
  have deaths : deathEvents
      ([SessionItem.consumed session.pendingDeaths].reverse ++ (ticked.reverse ++ sessionTrace trace)) =
        deathEvents (sessionTrace trace) ++ session.pendingDeaths := by
    rw [deathEvents, calm.combatEvents_eq]
    exact appended
  have allDeaths : (session.pendingDeaths.filter fun event => event.type == .death) =
      session.pendingDeaths := by
    rw [List.filter_eq_self]
    intro event member
    exact beq_iff_eq.mpr (mem_deathEvents (Runs.mem_deathEvents afterTick member))
  have items : (server.broadcastState tick deltaSeconds now).1 =
      (ticked ++ [SessionItem.consumed session.pendingDeaths]).map .inSession ++
        made.map .collected := rfl
  have observed : sessionTrace ((server.broadcastState tick deltaSeconds now).1.reverse ++ trace) =
      [SessionItem.consumed session.pendingDeaths].reverse ++ (ticked.reverse ++ sessionTrace trace) := by
    rw [items, sessionTrace_append, List.filterMap_append, (filterMap_inSession _).1,
      (filterMap_collected _).1, List.append_nil, List.reverse_append, List.append_assoc]
  have madeCalls : calls ((server.broadcastState tick deltaSeconds now).1.reverse ++ trace) =
      calls trace ++ made := by
    rw [items, calls_append, List.filterMap_append, (filterMap_inSession _).2,
      (filterMap_collected _).2, List.nil_append]
  constructor
  · rw [observed]
    exact run
  · rfl
  · have ids : made.map CollectCall.death = session.pendingDeaths := by
      rw [List.map_map, allDeaths]
      exact List.map_id' _
    rw [observed, deaths, madeCalls, List.map_append, ids, ledger.deaths]
  · obtain ⟨leaderboard, profiles⟩ := ledger.profiles
    refine ⟨leaderboard, ?_⟩
    rw [madeCalls, List.map_append, List.foldl_append, ← profiles]
    rfl
  · intro call member
    rw [madeCalls] at member
    rcases List.mem_append.mp member with old | new
    · exact ledger.reached call old
    · obtain ⟨event, listed, rfl⟩ := List.mem_map.mp new
      rw [allDeaths] at listed
      refine ⟨_, run, ?_⟩
      rw [deaths]
      exact List.mem_append_right _ listed

theorem WiredLedger.step (ledger : WiredLedger trace server) {op : WiredOp R}
    {items : List (WiredItem R)} (performed : perform op server = some (items, server')) :
    WiredLedger (items.reverse ++ trace) server' := by
  cases op with
  | registerClient playerId =>
      exact ledger.onSession performed nofun nofun
  | unregisterClient playerId =>
      exact ledger.onSession performed nofun nofun
  | onRead playerId input targetDelta =>
      exact ledger.onSession performed nofun nofun
  | broadcastState tick deltaSeconds now =>
      cases performed
      exact ledger.broadcastState tick deltaSeconds now
  | reorder order =>
      exact ledger.onSession performed nofun nofun

theorem Runs.ledger (run : Runs trace server) : WiredLedger trace server := by
  refine Run.invariant (P := WiredLedger) ?_ ?_ run
  · rintro server ⟨fresh, leaderboard, profiles⟩
    obtain ⟨session, service⟩ := server
    cases fresh
    cases profiles
    refine ⟨.start rfl, rfl, rfl, ⟨leaderboard, rfl⟩, ?_⟩
    intro call member
    cases member
  · rintro trace server items server' - ledger ⟨op, performed⟩
    exact ledger.step performed

end ledger

end WiredServer

end Arena60
