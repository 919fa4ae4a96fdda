import Arena60.Game.Stretches
import Arena60.Network.ConnectionGauge
import Arena60.Network.DeathFrames

/-!
# The states a connection is sent

From its first frame until it is closed a connection is sent one state for each broadcast, that of the
player it is bound to, and no state before or afterwards.
-/

namespace Arena60

open Misc GameSession

universe u

variable {R : Type u}

/-- Whether an item is the join of a player. -/
def ServerItem.isJoinOf (playerId : String) : ServerItem R → Bool
  | joined other _ => other == playerId
  | _ => false

/-- The number of the tick that an item reports. -/
def ServerItem.tick? (item : ServerItem R) : Option Nat :=
  (item.wired?.bind WiredItem.session?).bind SessionItem.tick?

/-- The numbers of the broadcasts among some items, in their order. -/
def broadcastTicks (items : List (ServerItem R)) : List Nat := items.filterMap ServerItem.tick?

/-- The player and the tick of a message with a state. -/
def ClientFrame.state? : ClientFrame R → Option (String × Nat)
  | state player tick _ => some (player.playerId, tick)
  | death .. => none

/-- The states that a connection was sent, oldest first. -/
def statesTo (client : Nat) (items : List (ServerItem R)) : List (String × Nat) :=
  (framesTo client items).filterMap ClientFrame.state?

theorem broadcastTicks_append (first second : List (ServerItem R)) :
    broadcastTicks (first ++ second) = broadcastTicks first ++ broadcastTicks second :=
  List.filterMap_append

theorem broadcastTicks_run (items trace : List (ServerItem R)) :
    broadcastTicks (items.reverse ++ trace).reverse = broadcastTicks trace.reverse ++ broadcastTicks items := by
  rw [List.reverse_append, List.reverse_reverse, broadcastTicks_append]

theorem statesTo_run (client : Nat) (items trace : List (ServerItem R)) :
    statesTo client (items.reverse ++ trace).reverse = statesTo client trace.reverse ++ statesTo client items := by
  rw [statesTo, framesTo_reverse_append, List.filterMap_append]
  rfl

theorem broadcastTicks_inSession {made : List SessionItem} (silent : ∀ item ∈ made, item.tick? = none) :
    broadcastTicks (made.map (ServerItem.inSession (R := R))) = [] := by
  rw [broadcastTicks, List.filterMap_map, List.filterMap_eq_nil_iff]
  exact silent

/-! ## What happens to a connection -/

/-- A session that is bound stays bound, and one that is closed stays closed. -/
def ClientSession.Evolves (session session' : ClientSession R) : Prop :=
  (session.playerId = "" ∨ session'.playerId = session.playerId) ∧
    (session'.closed = false → session.closed = false)

namespace WebSocketServer

/-- A connection that is there remains there. -/
inductive Grows : Option (ClientSession R) → Option (ClientSession R) → Prop
  | nobody : Grows none none
  | accepted (session' : ClientSession R) : Grows none (some session')
  | evolves {session session' : ClientSession R} : session.Evolves session' → Grows (some session) (some session')

namespace Grows

theorem same : ∀ session : Option (ClientSession R), Grows session session
  | none => .nobody
  | some _ => .evolves ⟨Or.inr rfl, id⟩

theorem trans {first second third : Option (ClientSession R)} (grows : Grows first second)
    (onwards : Grows second third) : Grows first third := by
  cases grows with
  | nobody => exact onwards
  | accepted _ =>
      cases onwards with
      | evolves _ => exact .accepted _
  | evolves evolves =>
      cases onwards with
      | evolves evolves' =>
          refine .evolves ⟨?_, fun opened => evolves.2 (evolves'.2 opened)⟩
          rcases evolves.1 with unbound | same
          · exact Or.inl unbound
          · rw [← same]
            exact evolves'.1.imp_right fun same' => same'

end Grows

variable {s s' s'' : WebSocketServer R} {trace items later : List (ServerItem R)} {client : Nat}

/-- A connection that has not been bound yet, or not even accepted. -/
def Unbound (s : WebSocketServer R) (client : Nat) : Prop :=
  ∀ session, s.connections[client]? = some session → session.playerId = ""

theorem Grows.unbound (grows : Grows s.connections[client]? s'.connections[client]?)
    (unbound : s'.Unbound client) : s.Unbound client := by
  intro session found
  rw [found] at grows
  generalize after : s'.connections[client]? = session' at grows
  cases grows with
  | evolves evolves =>
      rcases evolves.1 with none | same
      · exact none
      · exact same.symm.trans (unbound _ after)

theorem Grows.holds (grows : Grows s.connections[client]? s'.connections[client]?) {playerId : String}
    (held : s'.Holds client playerId) : s.Holds client playerId ∨ s.Unbound client := by
  obtain ⟨session', after, opened, named, bound⟩ := held
  rw [after] at grows
  generalize before : s.connections[client]? = session at grows
  cases grows with
  | accepted =>
      refine Or.inr ?_
      intro session found
      rw [before] at found
      cases found
  | @evolves session _ evolves =>
      rcases evolves.1 with none | same
      · refine Or.inr ?_
        intro other found
        rw [before] at found
        cases found
        exact none
      · exact Or.inl ⟨session, before, evolves.2 opened, same.symm.trans named, bound⟩

/-- What a handler other than a broadcast and a stop leaves alone. -/
structure Between (s : WebSocketServer R) (items : List (ServerItem R)) (s' : WebSocketServer R) : Prop where
  unticked : broadcastTicks items = []
  elapsedTime : s'.session.elapsedTime = s.session.elapsedTime
  lastBroadcastTick : s'.lastBroadcastTick = s.lastBroadcastTick
  running : s'.running = s.running
  connections : ∀ client : Nat, Grows s.connections[client]? s'.connections[client]?
  joins : ∀ client playerId, s'.Holds client playerId →
    s.Holds client playerId ∨ s.Unbound client ∧ ∃ rating, .joined playerId rating ∈ items

namespace Between

theorem trans (first : Between s items s') (second : Between s' later s'') : Between s (items ++ later) s'' := by
  refine ⟨?_, second.elapsedTime.trans first.elapsedTime,
    second.lastBroadcastTick.trans first.lastBroadcastTick, second.running.trans first.running,
    fun client => (first.connections client).trans (second.connections client), ?_⟩
  · rw [broadcastTicks_append, first.unticked, second.unticked]
    rfl
  · intro client playerId held
    rcases second.joins client playerId held with middle | ⟨unbound, rating, member⟩
    · rcases first.joins client playerId middle with before | ⟨unbound, rating, member⟩
      · exact Or.inl before
      · exact Or.inr ⟨unbound, rating, List.mem_append_left _ member⟩
    · exact Or.inr ⟨(first.connections client).unbound unbound, rating, List.mem_append_right _ member⟩

/-- Nothing happens to the connections. -/
theorem still (unticked : broadcastTicks items = []) (elapsedTime : s'.session.elapsedTime = s.session.elapsedTime)
    (lastBroadcastTick : s'.lastBroadcastTick = s.lastBroadcastTick) (running : s'.running = s.running)
    (connections : s'.connections = s.connections) : Between s items s' := by
  refine ⟨unticked, elapsedTime, lastBroadcastTick, running, ?_, ?_⟩
  · intro client
    rw [connections]
    exact .same _
  · intro client playerId held
    rw [Holds, connections] at held
    exact Or.inl held

theorem refl (s : WebSocketServer R) : Between s [] s := still rfl rfl rfl rfl rfl

/-- A session goes on under its name. -/
theorem update {f : ClientSession R → ClientSession R}
    (same : ∀ session, (f session).playerId = session.playerId ∧
      ((f session).closed = false → session.closed = false)) : Between s [] (s.update client f) := by
  refine ⟨rfl, rfl, rfl, rfl, ?_, ?_⟩
  · intro other
    rw [update_getElem?]
    split
    · next asked =>
        subst asked
        cases found : s.connections[client]? with
        | none => exact .nobody
        | some session => exact .evolves ⟨Or.inr (same session).1, (same session).2⟩
    · exact .same _
  · intro other playerId held
    refine Or.inl ?_
    by_cases asked : other = client
    · subst asked
      cases found : s.connections[other]? with
      | none =>
          obtain ⟨session, after, -⟩ := held
          rw [update_getElem?, if_pos rfl, found] at after
          cases after
      | some session =>
          obtain ⟨opened, named, bound⟩ := (holds_of_found (update_self found f) playerId).mp held
          exact ⟨session, found, (same session).2 opened, (same session).1.symm.trans named, bound⟩
    · exact (holds_update_other f asked playerId).mp held

end Between

theorem unregisterClient_between (s : WebSocketServer R) (playerId : String) :
    Between s (s.unregisterClient playerId).1 (s.unregisterClient playerId).2 := by
  have unticked : broadcastTicks (s.unregisterClient playerId).1 = [] := by
    have silent : ∀ item ∈ SessionItem.removed playerId :: s.session.droppedItems playerId, item.tick? = none := by
      intro item member
      rcases List.mem_cons.mp member with rfl | dropped
      · rfl
      · obtain ⟨projectile, -, rfl⟩ := List.mem_map.mp dropped
        rfl
    have observed : (s.unregisterClient playerId).1 =
        (SessionItem.removed playerId :: s.session.droppedItems playerId).map .inSession ++ [.left playerId] := by
      unfold unregisterClient
      dsimp only
      split <;> rfl
    rw [observed, broadcastTicks_append, broadcastTicks_inSession silent]
    rfl
  refine .still unticked ?_ ?_ ?_ (unregisterClient_connections s playerId)
  · unfold unregisterClient
    dsimp only
    split <;> rfl
  · unfold unregisterClient
    dsimp only
    split <;> rfl
  · unfold unregisterClient
    dsimp only
    split <;> rfl

theorem stopClient_between (s : WebSocketServer R) (client : Nat) :
    Between s (s.stopClient client).1 (s.stopClient client).2 := by
  unfold stopClient
  split
  · exact .refl s
  · split
    · exact .refl s
    · have closed : Between s [] (s.update client fun session => { session with closed := true }) :=
        .update fun _ => ⟨rfl, nofun⟩
      dsimp only
      split
      · exact closed.trans (unregisterClient_between _ _)
      · exact closed

theorem stopPrevious_between (s : WebSocketServer R) (playerId : String) :
    Between s (s.stopPrevious playerId).1 (s.stopPrevious playerId).2 := by
  unfold stopPrevious
  split
  · exact .refl s
  · split
    · exact stopClient_between s _
    · exact .refl s

variable [DoubleConversions R]

theorem bindPlayer_between {session : ClientSession R}
    (same : ∀ other, s.connections[client]? = some other → other.playerId = session.playerId)
    (frame : InputFrame R) (now : Int) :
    Between s (s.bindPlayer client session frame now).2.1 (s.bindPlayer client session frame now).2.2 := by
  unfold bindPlayer
  split
  · next unbound =>
      let binding := fun session : ClientSession R => { session with playerId := frame.playerId }
      let stopped := (s.update client binding).stopPrevious frame.playerId
      have stops := stopPrevious_between (s.update client binding) frame.playerId
      have unnamed : s.Unbound client := fun other found => (same other found).trans unbound
      have evolves : ∀ other : Nat, Grows s.connections[other]? (s.update client binding).connections[other]? := by
        intro other
        rw [update_getElem?]
        split
        · next asked =>
            subst asked
            cases found : s.connections[client]? with
            | none => exact .nobody
            | some session => exact .evolves ⟨Or.inl (unnamed session found), id⟩
        · exact .same _
      refine ⟨?_, stops.elapsedTime, stops.lastBroadcastTick, stops.running,
        fun other => (evolves other).trans (stops.connections other), ?_⟩
      · show broadcastTicks (stopped.1 ++ _) = []
        rw [broadcastTicks_append, stops.unticked]
        rfl
      · intro other playerId held
        have joined : ∃ rating, .joined frame.playerId rating ∈
            ((s.update client binding).registerClient frame.playerId client now).1 :=
          ⟨_, List.mem_append_right _ (List.mem_cons_of_mem _ List.mem_cons_self)⟩
        have stoppedHolds : stopped.2.Holds other playerId := held
        rcases stops.joins other playerId stoppedHolds with before | ⟨unbound', rating, member⟩
        · by_cases asked : other = client
          · subst asked
            refine Or.inr ⟨unnamed, ?_⟩
            obtain ⟨session', after, -, named, -⟩ := before
            rw [update_getElem?, if_pos rfl] at after
            obtain ⟨session, -, rfl⟩ := Option.map_eq_some_iff.mp after
            obtain rfl : frame.playerId = playerId := named
            exact joined
          · exact Or.inl ((holds_update_other binding asked playerId).mp before)
        · exact Or.inr ⟨(evolves other).unbound unbound', rating, List.mem_append_left _ member⟩
  · exact .refl s

theorem onRead_between {session : ClientSession R}
    (same : ∀ other, s.connections[client]? = some other → other.playerId = session.playerId)
    {data : Option (InputFrame R)} {now : Int} (handled : s.onRead client session data now = some (items, s')) :
    Between s items s' := by
  cases data with
  | none =>
      cases handled
      exact .update fun _ => ⟨rfl, id⟩
  | some frame =>
      have bound := bindPlayer_between same frame now
      obtain ⟨playerId, observed, s₁, after, outcome, binding, applied, rfl, rfl⟩ := onRead_frame handled
      rw [binding] at bound
      have silent : ∀ item ∈ SessionItem.input playerId :: s₁.session.spawnedItems after, item.tick? = none := by
        intro item member
        rcases List.mem_cons.mp member with rfl | spawned
        · rfl
        · obtain ⟨projectile, -, rfl⟩ := List.mem_map.mp spawned
          rfl
      have clock : after.elapsedTime = s₁.session.elapsedTime := by
        obtain ⟨effect, -, moved⟩ := s₁.session.exists_applyInput_effect playerId frame.input s₁.targetDelta
        rw [applied] at moved
        rw [show after = _ from moved]
        rfl
      have received : Between s₁ ((SessionItem.input playerId :: s₁.session.spawnedItems after).map .inSession ++
          [.applied (.mk client playerId s₁.clients s₁.session after)]) { s₁ with session := after } := by
        refine .still ?_ clock rfl rfl rfl
        rw [broadcastTicks_append, broadcastTicks_inSession silent]
        rfl
      have waiting : Between { s₁ with session := after } [] (({ s₁ with session := after } :
          WebSocketServer R).update client .readLoop) := .update fun _ => ⟨rfl, id⟩
      have whole := (bound.trans received).trans waiting
      rw [List.append_nil] at whole
      exact whole

/-- Only a broadcast ticks, and only a stop ends the server. -/
theorem perform_between {action : ServerAction R} (performed : perform action s = some (items, s'))
    (other : ∀ tick deltaSeconds now, action ≠ .broadcastState tick deltaSeconds now)
    (going : action ≠ .stop) : Between s items s' := by
  have stopped : ∀ {s₁ : WebSocketServer R} {client : Nat}, Between s [] s₁ →
      s₁.stopClient client = (items, s') → Between s items s' := by
    intro s₁ client changed same
    have between := stopClient_between s₁ client
    rw [same] at between
    exact changed.trans between
  cases perform_handled performed with
  | refuse => exact .still rfl rfl rfl rfl rfl
  | accept =>
      have old : ∀ (client : Nat) (session : ClientSession R), s.connections[client]? = some session →
          (s.connections ++ [ClientSession.new])[client]? = some session := by
        intro client session found
        rw [List.getElem?_append_left (List.getElem?_eq_some_iff.mp found).1, found]
      refine ⟨rfl, rfl, rfl, rfl, ?_, ?_⟩
      · intro client
        cases found : s.connections[client]? with
        | some session =>
            rw [old client session found]
            exact .same _
        | none =>
            cases (s.connections ++ [ClientSession.new])[client]? with
            | none => exact .nobody
            | some session' => exact .accepted session'
      · intro client playerId held
        obtain ⟨session, after, opened, named, bound⟩ := held
        rw [List.getElem?_append] at after
        split at after
        · exact Or.inl ⟨session, after, opened, named, bound⟩
        · obtain rfl : ClientSession.new = session :=
            (List.mem_singleton.mp (List.mem_of_getElem? after)).symm
          exact absurd named.symm bound
  | reject found accepting same =>
      refine stopped ?_ same
      exact .update fun _ => ⟨rfl, id⟩
  | @start client session found accepting =>
      have accepted : Between s [] (s.update client fun session => { session with accepting := false }) :=
        .update fun _ => ⟨rfl, id⟩
      exact accepted.trans (.update fun _ => ⟨rfl, id⟩)
  | receive data found waiting => exact .update fun _ => ⟨rfl, id⟩
  | breakOff found waiting => exact .update fun _ => ⟨rfl, id⟩
  | @onRead client session data now _ _ found read handled =>
      have taken : Between s [] (s.update client fun session => { session with read := .idle }) :=
        .update fun _ => ⟨rfl, id⟩
      have same : ∀ other, (s.update client fun session => { session with read := .idle }).connections[client]? =
          some other → other.playerId = session.playerId := by
        intro other found'
        cases (update_self found _).symm.trans found'
        rfl
      exact taken.trans (onRead_between same handled)
  | disconnect now found read same =>
      refine stopped ?_ same
      exact .update fun _ => ⟨rfl, id⟩
  | doEnqueue found waiting => exact .update fun _ => ⟨rfl, id⟩
  | failWrite found writing same =>
      refine stopped ?_ same
      exact .update fun _ => ⟨rfl, id⟩
  | onWrite found writing => exact .update fun _ => ⟨rfl, id⟩
  | broadcastState tick deltaSeconds now => exact absurd rfl (other tick deltaSeconds now)
  | matchmakingTick now => exact .still rfl rfl rfl rfl rfl
  | stop => exact absurd rfl going
  | reorder clients players => exact .still rfl rfl rfl rfl rfl

/-! ## Stops and broadcasts -/

omit [DoubleConversions R] in
theorem Between.forEach {α : Type} {body : α → WebSocketServer R → List (ServerItem R) × WebSocketServer R}
    (round : ∀ a s, Between s (body a s).1 (body a s).2) (l : List α) (s : WebSocketServer R) :
    Between s (forEach body l s).1 (forEach body l s).2 := by
  induction l generalizing s with
  | nil => exact .refl s
  | cons a rest ih => exact (round a s).trans (ih (body a s).2)

omit [DoubleConversions R] in
theorem stop_between (running : s.running = true) :
    Between ({ s with running := false, clients := .empty } : WebSocketServer R) s.stop.1 s.stop.2 := by
  unfold WebSocketServer.stop
  rw [running]
  exact .forEach (fun client s => stopClient_between s client) _ _

omit [DoubleConversions R] in
theorem stopClient_unjoined (s : WebSocketServer R) (client : Nat) (playerId : String) (rating : Int) :
    .joined playerId rating ∉ (s.stopClient client).1 := by
  unfold stopClient
  split
  · exact List.not_mem_nil
  · split
    · exact List.not_mem_nil
    · dsimp only
      split
      · unfold unregisterClient
        dsimp only
        simp [ServerItem.inSession]
      · exact List.not_mem_nil

omit [DoubleConversions R] in
theorem stopPrevious_unjoined (s : WebSocketServer R) (previous playerId : String) (rating : Int) :
    .joined playerId rating ∉ (s.stopPrevious previous).1 := by
  unfold stopPrevious
  split
  · exact List.not_mem_nil
  · split
    · exact stopClient_unjoined s _ playerId rating
    · exact List.not_mem_nil

omit [DoubleConversions R] in
theorem stop_unjoined (s : WebSocketServer R) (playerId : String) (rating : Int) :
    .joined playerId rating ∉ s.stop.1 := by
  unfold WebSocketServer.stop
  split
  · exact List.not_mem_nil
  · intro member
    obtain ⟨client, -, s', emitted⟩ := mem_forEach member
    exact stopClient_unjoined s' client playerId rating emitted

/-- What a stop of the server does besides closing the connections. -/
structure Stops (s : WebSocketServer R) (items : List (ServerItem R)) (s' : WebSocketServer R) : Prop where
  unticked : broadcastTicks items = []
  elapsedTime : s'.session.elapsedTime = s.session.elapsedTime
  lastBroadcastTick : s'.lastBroadcastTick = s.lastBroadcastTick
  connections : ∀ client : Nat, Grows s.connections[client]? s'.connections[client]?
  holds : ∀ client playerId, s'.Holds client playerId → s.Holds client playerId

omit [DoubleConversions R] in
theorem stop_stops (s : WebSocketServer R) : Stops s s.stop.1 s.stop.2 := by
  by_cases running : s.running = true
  · have between := stop_between running
    refine ⟨between.unticked, between.elapsedTime, between.lastBroadcastTick, between.connections, ?_⟩
    intro client playerId held
    rcases between.joins client playerId held with before | ⟨-, rating, joined⟩
    · exact before
    · exact absurd joined (stop_unjoined s playerId rating)
  · have idle : s.stop = ([], s) := by
      unfold WebSocketServer.stop
      rw [Bool.eq_false_of_not_eq_true running]
      rfl
    rw [idle]
    exact ⟨rfl, rfl, rfl, fun _ => .same _, fun _ _ => id⟩

omit [DoubleConversions R] in
theorem enqueue_between (s : WebSocketServer R) (client : Nat) (frame : ClientFrame R) :
    Between s [.enqueued client frame] (s.update client (·.enqueue frame)) := by
  have posted : Between s [.enqueued client frame] s := .still rfl rfl rfl rfl rfl
  exact posted.trans (.update fun _ => ⟨rfl, id⟩)

omit [DoubleConversions R] in
theorem enqueueState_between (tick : Nat) (deltaSeconds : R) (client : Nat) (s : WebSocketServer R) :
    Between s (enqueueState tick deltaSeconds client s).1 (enqueueState tick deltaSeconds client s).2 := by
  unfold enqueueState
  split
  · exact .refl s
  · split
    · exact .still rfl rfl rfl rfl rfl
    · exact enqueue_between s client _

omit [DoubleConversions R] in
theorem sendFrames_between (s : WebSocketServer R) (tick : Nat) (deltaSeconds : R)
    (deathEvents : List CombatEvent) : Between s (s.sendFrames tick deltaSeconds deathEvents).1
      (s.sendFrames tick deltaSeconds deathEvents).2 := by
  have states := Between.forEach (enqueueState_between tick deltaSeconds) (s.clients.entries.map Prod.snd) s
  refine states.trans (.forEach ?_ _ _)
  intro event s'
  exact .forEach (fun client s'' => enqueue_between s'' client _) _ _

omit [DoubleConversions R] in
theorem sendFrames_unjoined (s : WebSocketServer R) (tick : Nat) (deltaSeconds : R)
    (deathEvents : List CombatEvent) (playerId : String) :
    ∀ item ∈ (s.sendFrames tick deltaSeconds deathEvents).1, item.isJoinOf playerId = false := by
  intro item member
  rw [sendFrames_eq] at member
  rcases List.mem_append.mp member with state | death
  · obtain ⟨client, -, s', emitted⟩ := mem_forEach state
    unfold enqueueState at emitted
    split at emitted
    · cases emitted
    · split at emitted <;> cases List.mem_singleton.mp emitted <;> rfl
  · obtain ⟨event, -, s', emitted⟩ := mem_forEach death
    obtain ⟨client, -, s'', emitted'⟩ := mem_forEach emitted
    cases List.mem_singleton.mp emitted'
    rfl

/-- The observations of a broadcast report its tick once. -/
theorem ticked_broadcastState (server : WiredServer R) (tick : Nat) (deltaSeconds : R)
    (now : CombatEvent → Int) :
    broadcastTicks ((server.broadcastState tick deltaSeconds now).1.map ServerItem.wired) = [tick] := by
  let observed : List SessionItem := (server.session.moveProjectiles deltaSeconds).expiredItems ++
    (server.session.tick tick deltaSeconds).2.map .combat ++
    [.consumed (server.session.tick tick deltaSeconds).1.consumeDeathEvents.1]
  obtain ⟨calls, whole⟩ : ∃ calls : List (CollectCall R), (server.broadcastState tick deltaSeconds now).1 =
      (SessionItem.ticked tick :: observed).map .inSession ++ calls.map .collected := ⟨_, rfl⟩
  have silent : ∀ item ∈ observed, item.tick? = none := by
    intro item member
    simp only [observed, List.mem_append, List.mem_singleton] at member
    rcases member with (expired | combat) | rfl
    · obtain ⟨projectile, -, rfl⟩ := List.mem_map.mp expired
      rfl
    · obtain ⟨event, -, rfl⟩ := List.mem_map.mp combat
      rfl
    · rfl
  have collected : broadcastTicks ((calls.map WiredItem.collected).map ServerItem.wired) = [] := by
    rw [broadcastTicks, List.filterMap_map, List.filterMap_map, List.filterMap_eq_nil_iff]
    exact fun _ _ => rfl
  rw [whole, List.map_append, broadcastTicks_append, collected, List.append_nil, List.map_map]
  exact congrArg (tick :: ·) (broadcastTicks_inSession silent)

/-- What a broadcast does besides sending. -/
structure Broadcasts (s : WebSocketServer R) (tick : Nat) (deltaSeconds : R) (items : List (ServerItem R))
    (s' : WebSocketServer R) : Prop where
  ticked : broadcastTicks items = [tick]
  elapsedTime : s'.session.elapsedTime = s.session.elapsedTime + deltaSeconds
  lastBroadcastTick : s'.lastBroadcastTick = tick
  running : s'.running = s.running
  connections : ∀ client : Nat, Grows s.connections[client]? s'.connections[client]?
  unjoined : ∀ playerId, ∀ item ∈ items, item.isJoinOf playerId = false

theorem broadcasts (s : WebSocketServer R) (tick : Nat) (deltaSeconds : R) (now : CombatEvent → Int) :
    Broadcasts s tick deltaSeconds (s.broadcastState tick deltaSeconds now).1
      (s.broadcastState tick deltaSeconds now).2 := by
  let wired := s.toWiredServer.broadcastState tick deltaSeconds now
  let ticked : WebSocketServer R := { s with toWiredServer := wired.2 }
  have sent := sendFrames_between ticked.lockClients tick deltaSeconds
    (s.session.tick tick deltaSeconds).1.consumeDeathEvents.1
  have clock : (s.session.tick tick deltaSeconds).1.elapsedTime = s.session.elapsedTime + deltaSeconds :=
    (act_clock s.session (.tick tick deltaSeconds)).2
  have observed := ticked_broadcastState s.toWiredServer tick deltaSeconds now
  have whole : (s.broadcastState tick deltaSeconds now).1 = wired.1.map ServerItem.wired ++
      (ticked.lockClients.sendFrames tick deltaSeconds
        (s.session.tick tick deltaSeconds).1.consumeDeathEvents.1).1 := rfl
  refine ⟨?_, sent.elapsedTime.trans clock, rfl, sent.running, sent.connections, ?_⟩
  · rw [whole, broadcastTicks_append, observed, sent.unticked]
    rfl
  · intro playerId item member
    rw [whole] at member
    rcases List.mem_append.mp member with seen | made
    · obtain ⟨observation, -, rfl⟩ := List.mem_map.mp seen
      rfl
    · exact sendFrames_unjoined _ _ _ _ playerId item made

/-! ## Joining -/

/-- A join is that of a connection that is bound now and registered from now on. -/
theorem perform_joined {action : ServerAction R} (performed : perform action s = some (items, s'))
    {playerId : String} {rating : Int}
    (other : ∀ tick deltaSeconds now, action ≠ .broadcastState tick deltaSeconds now)
    (member : .joined playerId rating ∈ items) :
    ∃ client, s.Unbound client ∧ s'.clients.find playerId = some client := by
  have stopped : ∀ {s₁ : WebSocketServer R} {client : Nat}, s₁.stopClient client = (items, s') → False := by
    intro s₁ client same
    refine stopClient_unjoined s₁ client playerId rating ?_
    rw [same]
    exact member
  cases perform_handled performed with
  | reject found accepting same => exact absurd same stopped
  | disconnect now found read same => exact absurd same stopped
  | failWrite found writing same => exact absurd same stopped
  | stop => exact absurd member (stop_unjoined s playerId rating)
  | broadcastState tick deltaSeconds now => exact absurd rfl (other tick deltaSeconds now)
  | matchmakingTick now =>
      cases List.mem_singleton.mp member
  | @onRead client session data now _ _ found read handled =>
      cases data with
      | none =>
          cases handled
          cases member
      | some frame =>
          obtain ⟨bound, observed, s₁, after, outcome, binding, -, rfl, rfl⟩ := onRead_frame handled
          have joining : .joined playerId rating ∈ observed := by
            rcases List.mem_append.mp member with joined | received
            · exact joined
            · simp [ServerItem.inSession] at received
          refine ⟨client, ?_⟩
          unfold bindPlayer at binding
          split at binding
          · next unbound =>
              cases binding
              have named : playerId = frame.playerId := by
                rcases List.mem_append.mp joining with left | new
                · exact absurd left (stopPrevious_unjoined _ _ _ _)
                · simp [ServerItem.inSession] at new
                  exact new.1
              refine ⟨?_, ?_⟩
              · intro other found'
                cases found.symm.trans found'
                exact unbound
              · rw [named]
                exact (UnorderedMap.find_upsert ..).trans (if_pos rfl)
          · cases binding
            cases joining
  | _ => cases member

/-! ## The states of a run -/

/-- What a connection has been sent so far. -/
structure Streams (client : Nat) (trace : List (ServerItem R)) (s : WebSocketServer R) : Prop where
  registered : ∀ playerId, s.Holds client playerId → statesTo client trace.reverse =
    (broadcastTicks (since (ServerItem.isJoinOf playerId) trace).reverse).map fun tick => (playerId, tick)
  unbound : s.Unbound client → statesTo client trace.reverse = []
  contiguous : (statesTo client trace.reverse).map Prod.snd <:+: broadcastTicks trace.reverse
  own : ∀ state ∈ statesTo client trace.reverse, ∃ session, s.connections[client]? = some session ∧
    session.playerId = state.1 ∧ state.1 ≠ ""

omit [DoubleConversions R] in
theorem Grows.owned (grows : Grows s.connections[client]? s'.connections[client]?) {playerId : String}
    (owned : ∃ session, s.connections[client]? = some session ∧ session.playerId = playerId ∧ playerId ≠ "") :
    ∃ session, s'.connections[client]? = some session ∧ session.playerId = playerId ∧ playerId ≠ "" := by
  obtain ⟨session, found, rfl, bound⟩ := owned
  rw [found] at grows
  generalize after : s'.connections[client]? = session' at grows
  cases grows with
  | evolves evolves => exact ⟨_, rfl, evolves.1.resolve_left bound, bound⟩

omit [DoubleConversions R] in
/-- No state is sent and no broadcast made. -/
theorem Streams.still (streams : Streams client trace s) (mute : framesTo client items = [])
    (unticked : broadcastTicks items = []) (grows : Grows s.connections[client]? s'.connections[client]?)
    (joins : ∀ playerId, s'.Holds client playerId → s.Holds client playerId ∧
        (∀ rating, .joined playerId rating ∉ items) ∨
      s.Unbound client ∧ ∃ rating, .joined playerId rating ∈ items) :
    Streams client (items.reverse ++ trace) s' := by
  have states : statesTo client (items.reverse ++ trace).reverse = statesTo client trace.reverse := by
    rw [statesTo_run]
    simp [statesTo, mute]
  have ticks : broadcastTicks (items.reverse ++ trace).reverse = broadcastTicks trace.reverse := by
    rw [broadcastTicks_run, unticked, List.append_nil]
  constructor
  · intro playerId held
    rw [states]
    rcases joins playerId held with ⟨before, unjoined⟩ | ⟨unbound, rating, joined⟩
    · have unmarked : ∀ item ∈ items.reverse, item.isJoinOf playerId = false := by
        intro item member
        cases item with
        | joined other rating =>
            refine beq_eq_false_iff_ne.mpr ?_
            rintro rfl
            exact unjoined rating (List.mem_reverse.mp member)
        | _ => rfl
      rw [since_append _ _ _ unmarked, List.reverse_append, List.reverse_reverse, broadcastTicks_append,
        unticked, List.append_nil]
      exact streams.registered playerId before
    · have marked : ∃ item ∈ items.reverse, item.isJoinOf playerId = true :=
        ⟨_, List.mem_reverse.mpr joined, beq_self_eq_true playerId⟩
      have silent : broadcastTicks (since (ServerItem.isJoinOf playerId) items.reverse).reverse = [] := by
        rw [broadcastTicks, List.filterMap_eq_nil_iff] at unticked ⊢
        exact fun item member =>
          unticked item (List.mem_reverse.mp (mem_of_mem_since (List.mem_reverse.mp member)))
      rw [since_append_of_marked trace marked, silent, streams.unbound unbound]
      rfl
  · intro unbound
    rw [states]
    exact streams.unbound (grows.unbound unbound)
  · rw [states, ticks]
    exact streams.contiguous
  · rw [states]
    exact fun state member => grows.owned (streams.own state member)

/-- A broadcast sends a state to each registered connection. -/
theorem Streams.broadcastState (run : Runs trace s) (streams : Streams client trace s) (tick : Nat)
    (deltaSeconds : R) (now : CombatEvent → Int) :
    Streams client ((s.broadcastState tick deltaSeconds now).1.reverse ++ trace)
      (s.broadcastState tick deltaSeconds now).2 := by
  have delivers := delivers_broadcastState run tick deltaSeconds now
  have broadcasts := broadcasts s tick deltaSeconds now
  have before := (Runs.settled run).registered
  have after := ((Runs.settled run).broadcastState tick deltaSeconds now).registered
  have clients := ((Runs.settled run).broadcastState_registry tick deltaSeconds now).1
  have grows := broadcasts.connections client
  have ticks := broadcastTicks_run (s.broadcastState tick deltaSeconds now).1 trace
  rw [broadcasts.ticked] at ticks
  have holds : ∀ playerId, (s.broadcastState tick deltaSeconds now).2.Holds client playerId ↔
      s.Holds client playerId := by
    intro playerId
    rw [← before.clients, ← after.clients, clients]
  by_cases registered : ∃ playerId, s.Holds client playerId
  · obtain ⟨playerId, held⟩ := registered
    obtain ⟨state, known, frames⟩ := delivers.registered playerId client ((before.clients playerId client).mpr held)
    have named : state.playerId = playerId := by
      have ledger := WiredServer.Runs.ledger (Runs.wired run)
      have filed := GameSession.Runs.filed (ledger.run.next ⟨.tick tick deltaSeconds, rfl⟩)
      obtain ⟨runtime, stored, rfl⟩ := getPlayer_eq_ok.mp known
      exact filed playerId runtime stored
    have sent : statesTo client (s.broadcastState tick deltaSeconds now).1 = [(playerId, tick)] := by
      have deaths : (((s.session.tickDeaths tick deltaSeconds).map CombatEvent.targetId).map
          (ClientFrame.death (R := R) · tick)).filterMap ClientFrame.state? = [] := by
        rw [List.filterMap_map, List.filterMap_eq_nil_iff]
        exact fun _ _ => rfl
      rw [statesTo, frames, List.filterMap_cons, deaths, ← named]
      rfl
    have states := statesTo_run client (s.broadcastState tick deltaSeconds now).1 trace
    rw [sent] at states
    have exact : statesTo client ((s.broadcastState tick deltaSeconds now).1.reverse ++ trace).reverse =
        (broadcastTicks (since (ServerItem.isJoinOf playerId)
          ((s.broadcastState tick deltaSeconds now).1.reverse ++ trace)).reverse).map
            fun tick => (playerId, tick) := by
      rw [since_append _ _ _ fun item member => broadcasts.unjoined playerId item (List.mem_reverse.mp member),
        broadcastTicks_run, broadcasts.ticked, List.map_append, ← streams.registered playerId held, states]
      rfl
    refine ⟨?_, ?_, ?_, ?_⟩
    · intro other held'
      cases holds_unique held ((holds other).mp held')
      exact exact
    · intro unbound
      obtain ⟨session, found, -, same, bound⟩ := held
      exact absurd (same.symm.trans (grows.unbound unbound session found)) bound
    · have numbers : (Prod.snd ∘ fun tick : Nat => (playerId, tick)) = id := rfl
      rw [exact, List.map_map, numbers, List.map_id]
      refine (List.IsSuffix.filterMap _ ?_).isInfix
      exact List.reverse_suffix.mpr (List.takeWhile_prefix _)
    · intro sentState member
      rw [states] at member
      rcases List.mem_append.mp member with old | new
      · exact grows.owned (streams.own sentState old)
      · cases List.mem_singleton.mp new
        obtain ⟨session, found, -, same, bound⟩ := held
        exact grows.owned ⟨session, found, same, bound⟩
  · have silent : framesTo client (s.broadcastState tick deltaSeconds now).1 = [] := by
      refine delivers.others client ?_
      intro playerId found
      exact registered ⟨playerId, (before.clients playerId client).mp found⟩
    have states : statesTo client ((s.broadcastState tick deltaSeconds now).1.reverse ++ trace).reverse =
        statesTo client trace.reverse := by
      rw [statesTo_run]
      simp [statesTo, silent]
    constructor
    · intro playerId held
      exact absurd ⟨playerId, (holds playerId).mp held⟩ registered
    · intro unbound
      rw [states]
      exact streams.unbound (grows.unbound unbound)
    · rw [states, ticks]
      exact streams.contiguous.trans (List.prefix_append _ _).isInfix
    · rw [states]
      exact fun state member => grows.owned (streams.own state member)

theorem Runs.streams (run : Runs trace s) (client : Nat) : Streams client trace s := by
  refine Run.invariant (P := Streams client) ?_ ?_ run
  · intro s initial
    obtain ⟨targetDelta, rfl⟩ := initial
    refine ⟨?_, fun _ => rfl, List.infix_rfl, nofun⟩
    rintro playerId ⟨session, found, -⟩
    cases found
  · intro trace s items s' earlier streams step
    obtain ⟨action, performed⟩ := step
    have after := (Runs.settled (earlier.next ⟨action, performed⟩)).registered
    by_cases broadcast : ∃ tick deltaSeconds now, action = .broadcastState tick deltaSeconds now
    · obtain ⟨tick, deltaSeconds, now, rfl⟩ := broadcast
      cases performed
      exact streams.broadcastState earlier tick deltaSeconds now
    · have other : ∀ tick deltaSeconds now, action ≠ .broadcastState tick deltaSeconds now :=
        fun tick deltaSeconds now same => broadcast ⟨tick, deltaSeconds, now, same⟩
      have mute := perform_mute performed other client
      -- a player that is held before and afterwards does not join meanwhile
      have unjoined : ∀ playerId, s'.Holds client playerId → s.Holds client playerId →
          ∀ rating, .joined playerId rating ∉ items := by
        intro playerId held before rating member
        obtain ⟨joining, unbound, found⟩ := perform_joined performed other member
        obtain rfl := after.unique held ((after.clients playerId joining).mp found)
        obtain ⟨session, stored, -, named, bound⟩ := before
        exact bound (named.symm.trans (unbound session stored))
      by_cases stopping : action = .stop
      · subst stopping
        have same : s.stop = (items, s') := Option.some.inj performed
        have stops := stop_stops s
        rw [same] at stops
        refine streams.still mute stops.unticked (stops.connections client) ?_
        intro playerId held
        have before := stops.holds client playerId held
        exact Or.inl ⟨before, unjoined playerId held before⟩
      · have between := perform_between performed other stopping
        refine streams.still mute between.unticked (between.connections client) ?_
        intro playerId held
        rcases between.joins client playerId held with before | joining
        · exact Or.inl ⟨before, unjoined playerId held before⟩
        · exact Or.inr joining

/-- A registered connection has been sent one state of its own player for each broadcast since the player
joined last. Whatever becomes of a connection, the states it has been sent are of one player, and their
ticks are successive broadcasts with none left out in between. -/
theorem Runs.states_successive (run : Runs trace s) (client : Nat) :
    (∀ playerId, s.clients.find playerId = some client → statesTo client trace.reverse =
      (broadcastTicks (since (ServerItem.isJoinOf playerId) trace).reverse).map fun tick => (playerId, tick)) ∧
    (statesTo client trace.reverse).map Prod.snd <:+: broadcastTicks trace.reverse ∧
    ∀ state ∈ statesTo client trace.reverse, ∀ other ∈ statesTo client trace.reverse, other.1 = state.1 := by
  have streams := run.streams client
  refine ⟨?_, streams.contiguous, ?_⟩
  · intro playerId found
    exact streams.registered playerId (((Runs.settled run).registered.clients playerId client).mp found)
  · intro state member other member'
    obtain ⟨session, found, same, -⟩ := streams.own state member
    obtain ⟨session', found', same', -⟩ := streams.own other member'
    cases found.symm.trans found'
    exact same'.symm.trans same

end WebSocketServer

/-- The first connection is sent the first state, and the one that takes its player over the other two. -/
theorem states_successive_takeover : ∃ trace : List (ServerItem ℚ),
    statesTo 0 trace.reverse = [("alice", 7)] ∧ statesTo 1 trace.reverse = [("alice", 8), ("alice", 9)] ∧
      (statesTo 1 trace.reverse).map Prod.snd <:+: broadcastTicks trace.reverse := by
  have fresh : WebSocketServer.Initial (WebSocketServer.new (1 / 60) : WebSocketServer ℚ) := ⟨_, rfl⟩
  obtain ⟨trace, s, run, passed⟩ := exists_run_of_replay
    (takeover.take 4 ++ [.broadcastState 7 (1 / 60) fun _ => 0] ++ (takeover.drop 4).take 4 ++
      [.broadcastState 8 (1 / 60) fun _ => 0, .broadcastState 9 (1 / 60) fun _ => 0])
    (fun trace _ => statesTo 0 trace.reverse == [("alice", 7)] &&
      statesTo 1 trace.reverse == [("alice", 8), ("alice", 9)]) fresh
    (show (replay WebSocketServer.perform _ _).any _ = true by decide +kernel)
  rw [Bool.and_eq_true, beq_iff_eq, beq_iff_eq] at passed
  exact ⟨trace, passed.1, passed.2, (WebSocketServer.Runs.states_successive run 1).2.1⟩

end Arena60
