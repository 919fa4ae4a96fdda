import Arena60.Game.TickDeaths
import Arena60.Network.RegistryAgreement
import Arena60.Network.RatedMatching
import Arena60.Network.ServerParts

/-!
# State and death messages

What `BroadcastState` sends to each connection: the state of its player after the tick and then
the deaths of the tick. Nothing else sends a message, and a death is pending for one broadcast
only, so over a whole run a connection is told of each death at most once.
-/

namespace Arena60

open Misc GameSession

universe u

variable {R : Type u}

/-- The death that a message announces. -/
def ClientFrame.death? : ClientFrame R → Option (String × Nat)
  | state .. => none
  | death playerId tick => some (playerId, tick)

/-- The deaths a connection was told of, oldest first. -/
def announcedTo (client : Nat) (items : List (ServerItem R)) : List (String × Nat) :=
  (framesTo client items).filterMap ClientFrame.death?

/-- The deaths of the session among some items, oldest first. -/
def ServerItem.deathsIn (items : List (ServerItem R)) : List CombatEvent :=
  (((items.filterMap wired?).filterMap WiredItem.session?).filterMap SessionItem.combat?).filter
    fun event => event.type == .death

theorem framesTo_append (client : Nat) (first second : List (ServerItem R)) :
    framesTo client (first ++ second) = framesTo client first ++ framesTo client second :=
  List.filterMap_append

theorem deathsIn_append (first second : List (ServerItem R)) :
    ServerItem.deathsIn (first ++ second) = ServerItem.deathsIn first ++ ServerItem.deathsIn second := by
  simp [ServerItem.deathsIn, List.filterMap_append]

/-- Items without a message. -/
def Mute (items : List (ServerItem R)) : Prop := ∀ client, framesTo client items = []

theorem Mute.nil : Mute ([] : List (ServerItem R)) := fun _ => rfl

theorem Mute.append {first second : List (ServerItem R)} (mute : Mute first) (mute' : Mute second) :
    Mute (first ++ second) := by
  intro client
  rw [framesTo_append, mute, mute', List.append_nil]

theorem Mute.inSession (made : List SessionItem) : Mute (made.map (ServerItem.inSession (R := R))) := by
  intro client
  rw [map_inSession, framesTo_wired]

/-! ## Messages of a loop -/

/-- Of distinct elements at most one is the chosen one. -/
theorem flatMap_chosen {α : Type} {β : Type u} [DecidableEq α] {l : List α} (distinct : l.Nodup)
    (chosen : α) (made : List β) :
    l.flatMap (fun a => if a = chosen then made else []) = if chosen ∈ l then made else [] := by
  induction l with
  | nil => simp
  | cons a rest ih =>
      obtain ⟨fresh, distinct'⟩ := List.nodup_cons.mp distinct
      by_cases same : a = chosen
      · subst same
        simp [ih distinct', fresh]
      · simp [ih distinct', same, Ne.symm same]

/-- The messages of a loop are those of its rounds, if something that the rounds keep says what they
are. -/
theorem framesTo_forEach {α : Type} {client : Nat} {P : WebSocketServer R → Prop}
    {body : α → WebSocketServer R → List (ServerItem R) × WebSocketServer R} {f : α → List (ClientFrame R)}
    (kept : ∀ a s, P s → P (body a s).2) {l : List α}
    (sends : ∀ a ∈ l, ∀ s, P s → framesTo client (body a s).1 = f a) {s : WebSocketServer R} (holds : P s) :
    framesTo client (forEach body l s).1 = l.flatMap f := by
  induction l generalizing s with
  | nil => rfl
  | cons a rest ih =>
      rw [forEach, List.flatMap_cons, framesTo_append, sends a List.mem_cons_self s holds]
      rw [ih (fun b later => sends b (List.mem_cons_of_mem _ later)) (kept a s holds)]

namespace WebSocketServer

variable {s s' : WebSocketServer R} {client : Nat} {trace items : List (ServerItem R)}

/-- A connection is bound to a player. -/
def Named (s : WebSocketServer R) (client : Nat) (playerId : String) : Prop :=
  ∃ session, s.connections[client]? = some session ∧ session.playerId = playerId

theorem Named.enqueue {playerId : String} (named : s.Named client playerId) (other : Nat)
    (frame : ClientFrame R) : (s.update other (·.enqueue frame)).Named client playerId := by
  obtain ⟨session, found, same⟩ := named
  rw [Named, update_getElem?, found]
  split
  · exact ⟨_, rfl, same⟩
  · exact ⟨_, rfl, same⟩

theorem framesTo_enqueued (client other : Nat) (frame : ClientFrame R) :
    framesTo client [ServerItem.enqueued other frame] = if other = client then [frame] else [] := by
  by_cases same : other = client <;> simp [framesTo, ServerItem.frame?, same]

theorem enqueueState_other {other : Nat} (differs : other ≠ client) (tick : Nat) (deltaSeconds : R)
    (s : WebSocketServer R) : framesTo client (enqueueState tick deltaSeconds other s).1 = [] := by
  unfold enqueueState
  split
  · rfl
  · split
    · rfl
    · rw [framesTo_enqueued, if_neg differs]

theorem enqueueState_named {playerId : String} (named : s.Named client playerId) {state : PlayerState R}
    (known : s.session.getPlayer playerId = .ok state) (tick : Nat) (deltaSeconds : R) :
    framesTo client (enqueueState tick deltaSeconds client s).1 = [.state state tick deltaSeconds] := by
  obtain ⟨session, found, rfl⟩ := named
  unfold enqueueState
  rw [found]
  dsimp only
  rw [known]
  exact (framesTo_enqueued client client _).trans (if_pos rfl)

theorem enqueueState_keeps {playerId : String} {session : GameSession R} (tick : Nat) (deltaSeconds : R)
    (other : Nat) (s : WebSocketServer R) (both : s.session = session ∧ s.Named client playerId) :
    (enqueueState tick deltaSeconds other s).2.session = session ∧
      (enqueueState tick deltaSeconds other s).2.Named client playerId := by
  unfold enqueueState
  split
  · exact both
  · split
    · exact both
    · exact ⟨both.1, both.2.enqueue other _⟩

/-- The states that are sent to a client that is alive. -/
theorem framesTo_states {alive : List Nat} (distinct : alive.Nodup) (member : client ∈ alive)
    {playerId : String} (named : s.Named client playerId) {state : PlayerState R}
    (known : s.session.getPlayer playerId = .ok state) (tick : Nat) (deltaSeconds : R) :
    framesTo client (forEach (enqueueState tick deltaSeconds) alive s).1 = [.state state tick deltaSeconds] := by
  have sends : ∀ other ∈ alive, ∀ s', s'.session = s.session ∧ s'.Named client playerId →
      framesTo client (enqueueState tick deltaSeconds other s').1 =
        if other = client then [.state state tick deltaSeconds] else [] := by
    intro other _ s' both
    by_cases same : other = client
    · subst same
      rw [← both.1] at known
      rw [enqueueState_named both.2 known, if_pos rfl]
    · rw [enqueueState_other same, if_neg same]
  rw [framesTo_forEach (fun other s' => enqueueState_keeps tick deltaSeconds other s') sends ⟨rfl, named⟩,
    flatMap_chosen distinct, if_pos member]

/-- No state is sent to another client. -/
theorem framesTo_states_stranger {alive : List Nat} (stranger : client ∉ alive) (tick : Nat)
    (deltaSeconds : R) (s : WebSocketServer R) :
    framesTo client (forEach (enqueueState tick deltaSeconds) alive s).1 = [] := by
  induction alive generalizing s with
  | nil => rfl
  | cons other rest ih =>
      obtain ⟨differs, stranger'⟩ := List.ne_and_not_mem_of_not_mem_cons stranger
      rw [forEach, framesTo_append, enqueueState_other differs.symm, ih stranger']
      rfl

/-- The deaths are sent to the clients that are alive. -/
theorem framesTo_deaths {alive : List Nat} (distinct : alive.Nodup) (client : Nat)
    (deathEvents : List CombatEvent) (s : WebSocketServer R) :
    framesTo client (forEach (fun event => forEach (enqueueDeath event) alive) deathEvents s).1 =
      if client ∈ alive then deathEvents.map fun event => .death event.targetId event.tick else [] := by
  have round : ∀ event ∈ deathEvents, ∀ s : WebSocketServer R, True →
      framesTo client (forEach (enqueueDeath event) alive s).1 =
        if client ∈ alive then [.death event.targetId event.tick] else [] := by
    intro event _ s _
    have sends : ∀ other ∈ alive, ∀ s : WebSocketServer R, True →
        framesTo client (enqueueDeath event other s).1 =
          if other = client then [.death event.targetId event.tick] else [] :=
      fun other _ s _ => framesTo_enqueued client other _
    rw [framesTo_forEach (fun _ _ _ => trivial) sends trivial, flatMap_chosen distinct]
  rw [framesTo_forEach (fun _ _ _ => trivial) round trivial]
  split
  · exact List.map_eq_flatMap.symm
  · exact List.flatMap_eq_nil_iff.mpr fun _ _ => rfl

/-! ## A broadcast -/

variable [DoubleConversions R]

/-- What a broadcast sends: to each registered connection the state of its player after the tick and
then each death of the tick, and to the others nothing. -/
structure Delivers (s : WebSocketServer R) (tick : Nat) (deltaSeconds : R) (items : List (ServerItem R)) :
    Prop where
  registered : ∀ playerId client, s.clients.find playerId = some client →
    ∃ state, (s.session.tick tick deltaSeconds).1.getPlayer playerId = .ok state ∧
      framesTo client items = .state state tick deltaSeconds ::
        ((s.session.tickDeaths tick deltaSeconds).map CombatEvent.targetId).map (.death · tick)
  others : ∀ client, (∀ playerId, s.clients.find playerId ≠ some client) → framesTo client items = []
  once : ((s.session.tickDeaths tick deltaSeconds).map CombatEvent.targetId).Nodup
  dead : ∀ playerId, playerId ∈ (s.session.tickDeaths tick deltaSeconds).map CombatEvent.targetId ↔
    Dies playerId s.session (s.session.tick tick deltaSeconds).1

omit [DoubleConversions R] in
theorem sendFrames_eq (s : WebSocketServer R) (tick : Nat) (deltaSeconds : R)
    (deathEvents : List CombatEvent) : (s.sendFrames tick deltaSeconds deathEvents).1 =
      (forEach (enqueueState tick deltaSeconds) (s.clients.entries.map Prod.snd) s).1 ++
        (forEach (fun event => forEach (enqueueDeath event) (s.clients.entries.map Prod.snd))
          (deathEvents.filter fun event => event.type == .death)
          (forEach (enqueueState tick deltaSeconds) (s.clients.entries.map Prod.snd) s).2).1 := rfl

/-- The server after the tick of a broadcast, and what is sent then. -/
theorem broadcastState_eq (run : Runs trace s) (tick : Nat) (deltaSeconds : R) (now : CombatEvent → Int) :
    ∃ (observed : List (WiredItem R)) (ticked : WebSocketServer R),
      (s.toWiredServer.broadcastState tick deltaSeconds now).1 = observed ∧
      (s.broadcastState tick deltaSeconds now).1 = observed.map .wired ++
        (ticked.sendFrames tick deltaSeconds (s.session.tickDeaths tick deltaSeconds)).1 ∧
      ticked.clients = s.clients ∧ ticked.connections = s.connections ∧
      ticked.session = (s.session.tick tick deltaSeconds).1.consumeDeathEvents.2 := by
  let wired := s.toWiredServer.broadcastState tick deltaSeconds now
  let ticked : WebSocketServer R := { s with toWiredServer := wired.2 }
  have ledger := WiredServer.Runs.ledger (Runs.wired run)
  have pending := GameSession.Runs.pendingDeaths_tick ledger.run ledger.delivered tick deltaSeconds
  have clients : ticked.lockClients.clients = s.clients := by
    have kept : s.lockClients.clients = s.clients :=
      congrArg WebSocketServer.clients (Runs.settled run).lockClients
    exact kept
  refine ⟨wired.1, ticked.lockClients, rfl, ?_, clients, rfl, rfl⟩
  rw [← pending]
  rfl

theorem delivers_broadcastState (run : Runs trace s) (tick : Nat) (deltaSeconds : R)
    (now : CombatEvent → Int) : Delivers s tick deltaSeconds (s.broadcastState tick deltaSeconds now).1 := by
  have registered := (Runs.settled run).registered
  have ledger := WiredServer.Runs.ledger (Runs.wired run)
  have spec := GameSession.Runs.tickDeaths_spec ledger.run tick deltaSeconds
  obtain ⟨observed, ticked, -, items, clients, connections, session⟩ :=
    broadcastState_eq run tick deltaSeconds now
  have stamps : ∀ event ∈ s.session.tickDeaths tick deltaSeconds, event.type = .death ∧ event.tick = tick :=
    fun event death => tickDeaths_stamped s.session death
  have allDeaths : (s.session.tickDeaths tick deltaSeconds).filter (fun event => event.type == .death) =
      s.session.tickDeaths tick deltaSeconds := by
    rw [List.filter_eq_self]
    exact fun event death => beq_iff_eq.mpr (stamps event death).1
  have distinct := registered.clients_nodup
  refine ⟨?_, ?_, spec.1, spec.2⟩
  · intro playerId client found
    have held := (registered.clients playerId client).mp found
    obtain ⟨state, known⟩ : ∃ state, (s.session.tick tick deltaSeconds).1.getPlayer playerId = .ok state := by
      have present := registered.served.players playerId
      rw [← UnorderedMap.contains_congr (s.session.tick_keys tick deltaSeconds), registered.contains held]
        at present
      obtain ⟨runtime, stored⟩ := Option.isSome_iff_exists.mp present
      exact ⟨runtime.state, getPlayer_eq_ok.mpr ⟨runtime, stored, rfl⟩⟩
    have member : client ∈ s.clients.entries.map Prod.snd :=
      List.mem_map.mpr ⟨(playerId, client), (s.clients.find_eq_some_iff playerId client).mp found, rfl⟩
    have named : ticked.Named client playerId := by
      obtain ⟨session, stored, -, same, -⟩ := held
      exact ⟨session, by rw [connections]; exact stored, same⟩
    have known' : ticked.session.getPlayer playerId = .ok state := by
      rw [session]
      exact known
    refine ⟨state, known, ?_⟩
    rw [items, framesTo_append, framesTo_wired, sendFrames_eq, framesTo_append, clients, allDeaths,
      framesTo_states distinct member named known', framesTo_deaths distinct, if_pos member, List.map_map]
    refine congrArg (_ :: ·) (List.map_congr_left ?_)
    intro event death
    rw [(stamps event death).2]
    rfl
  · intro client stranger
    have notMember : client ∉ s.clients.entries.map Prod.snd := by
      intro member
      obtain ⟨entry, listed, rfl⟩ := List.mem_map.mp member
      exact stranger entry.1 ((s.clients.find_eq_some_iff entry.1 entry.2).mpr listed)
    rw [items, framesTo_append, framesTo_wired, sendFrames_eq, framesTo_append, clients,
      framesTo_states_stranger notMember, framesTo_deaths distinct, if_neg notMember]
    rfl

/-! ## The other handlers -/

omit [DoubleConversions R] in
theorem stopClient_mute (s : WebSocketServer R) (client : Nat) : Mute (s.stopClient client).1 := by
  unfold stopClient
  split
  · exact .nil
  · split
    · exact .nil
    · split
      · exact (Mute.inSession _).append fun _ => rfl
      · exact .nil

omit [DoubleConversions R] in
theorem stop_mute (s : WebSocketServer R) : Mute s.stop.1 := by
  unfold WebSocketServer.stop
  split
  · exact .nil
  · intro client
    rw [framesTo_forEach (P := fun _ => True) (f := fun _ => []) (fun _ _ _ => trivial)
      (fun other _ s _ => stopClient_mute s other client) trivial]
    exact List.flatMap_eq_nil_iff.mpr fun _ _ => rfl

theorem bindPlayer_mute (s : WebSocketServer R) (client : Nat) (session : ClientSession R)
    (frame : InputFrame R) (now : Int) : Mute (s.bindPlayer client session frame now).2.1 := by
  unfold bindPlayer
  split
  · refine Mute.append ?_ fun _ => rfl
    unfold stopPrevious
    split
    · exact .nil
    · split
      · exact stopClient_mute _ _
      · exact .nil
  · exact .nil

theorem onRead_mute {session : ClientSession R} {data : Option (InputFrame R)} {now : Int}
    (handled : s.onRead client session data now = some (items, s')) : Mute items := by
  cases data with
  | none =>
      cases handled
      exact .nil
  | some frame =>
      have mute := bindPlayer_mute s client session frame now
      obtain ⟨playerId, observed, s₁, after, outcome, bound, _, rfl, _⟩ := onRead_frame handled
      rw [bound] at mute
      exact mute.append ((Mute.inSession _).append fun _ => rfl)

/-- Only a broadcast sends messages. -/
theorem perform_mute {action : ServerAction R} (performed : perform action s = some (items, s'))
    (other : ∀ tick deltaSeconds now, action ≠ .broadcastState tick deltaSeconds now) : Mute items := by
  have stopped : ∀ {s₁ : WebSocketServer R} {client : Nat},
      s₁.stopClient client = (items, s') → Mute items := by
    intro s₁ client same
    have mute := stopClient_mute s₁ client
    rw [same] at mute
    exact mute
  cases perform_handled performed with
  | reject found accepting same => exact stopped same
  | onRead found read handled => exact onRead_mute handled
  | disconnect now found read same => exact stopped same
  | failWrite found writing same => exact stopped same
  | broadcastState tick deltaSeconds now => exact absurd rfl (other tick deltaSeconds now)
  | stop => exact stop_mute s
  | _ => exact fun _ => rfl

/-! ## The announcements of a run -/

/-- The deaths among the items of a broadcast are those of its tick. -/
theorem deathsIn_broadcastState (s : WiredServer R) (tick : Nat) (deltaSeconds : R)
    (now : CombatEvent → Int) :
    ServerItem.deathsIn ((s.broadcastState tick deltaSeconds now).1.map .wired) =
      s.session.tickDeaths tick deltaSeconds := by
  have events : (SessionItem.ticked tick :: ((s.session.moveProjectiles deltaSeconds).expiredItems ++
      (s.session.tick tick deltaSeconds).2.map .combat)).filterMap SessionItem.combat? =
        (s.session.tick tick deltaSeconds).2 := filterMap_combat_tick rfl
  rw [ServerItem.deathsIn, filterMap_wired, WiredServer.broadcastState]
  simp only [List.filterMap_append, (WiredServer.filterMap_inSession _).1,
    (WiredServer.filterMap_collected _).1, List.append_nil]
  rw [events]
  exact congrArg (List.filter _) (List.append_nil _)

/-- What a broadcast announces to a connection are its deaths. -/
theorem broadcastState_announces (run : Runs trace s) (tick : Nat) (deltaSeconds : R)
    (now : CombatEvent → Int) {client : Nat} {playerId : String}
    (found : s.clients.find playerId = some client) :
    (announcedTo client (s.broadcastState tick deltaSeconds now).1).Sublist
      ((ServerItem.deathsIn (s.broadcastState tick deltaSeconds now).1).map
        fun death => (death.targetId, death.tick)) := by
  obtain ⟨state, -, frames⟩ :=
    (delivers_broadcastState run tick deltaSeconds now).registered playerId client found
  obtain ⟨observed, ticked, same, items, -⟩ := broadcastState_eq run tick deltaSeconds now
  have told : announcedTo client (s.broadcastState tick deltaSeconds now).1 =
      (s.session.tickDeaths tick deltaSeconds).map fun death => (death.targetId, death.tick) := by
    rw [announcedTo, frames, List.map_map, List.filterMap_cons, List.filterMap_map, ← List.filterMap_eq_map]
    refine List.filterMap_congr ?_
    intro death member
    simp only [Function.comp_apply, (tickDeaths_stamped s.session member).2, ClientFrame.death?]
  rw [told, items, deathsIn_append, ← same, deathsIn_broadcastState, List.map_append]
  exact List.sublist_append_left _ _

/-- What a step announces to a connection are deaths it observes. -/
theorem perform_announces (run : Runs trace s) {action : ServerAction R}
    (performed : perform action s = some (items, s')) (client : Nat) :
    (announcedTo client items).Sublist
      ((ServerItem.deathsIn items).map fun death => (death.targetId, death.tick)) := by
  have silent : framesTo client items = [] → (announcedTo client items).Sublist
      ((ServerItem.deathsIn items).map fun death => (death.targetId, death.tick)) := by
    intro nothing
    rw [announcedTo, nothing]
    exact List.nil_sublist _
  by_cases broadcast : ∃ tick deltaSeconds now, action = .broadcastState tick deltaSeconds now
  · obtain ⟨tick, deltaSeconds, now, rfl⟩ := broadcast
    have same : s.broadcastState tick deltaSeconds now = (items, s') := Option.some.inj performed
    by_cases registered : ∃ playerId, s.clients.find playerId = some client
    · obtain ⟨playerId, found⟩ := registered
      have announces := broadcastState_announces run tick deltaSeconds now found
      rw [same] at announces
      exact announces
    · have nothing := (delivers_broadcastState run tick deltaSeconds now).others client
        fun playerId found => registered ⟨playerId, found⟩
      rw [same] at nothing
      exact silent nothing
  · exact silent (perform_mute performed (fun tick deltaSeconds now same =>
      broadcast ⟨tick, deltaSeconds, now, same⟩) client)

/-- What a connection was told are deaths that happened, in their order, each at most once. -/
theorem announcedTo_sublist (run : Runs trace s) (client : Nat) :
    (announcedTo client trace.reverse).Sublist
      ((ServerItem.deathsIn trace.reverse).map fun death => (death.targetId, death.tick)) := by
  induction run with
  | start _ => exact List.Sublist.refl _
  | next earlier step ih =>
      obtain ⟨action, performed⟩ := step
      rw [announcedTo, framesTo_reverse_append, List.filterMap_append, List.reverse_append,
        List.reverse_reverse, deathsIn_append, List.map_append]
      exact ih.append (perform_announces earlier performed client)

/-- Each broadcast delivers, nothing else sends a message, and a connection is told of each death of a
run at most once. -/
theorem deaths_announced_once (run : Runs trace s) :
    (∀ tick deltaSeconds now, Delivers s tick deltaSeconds (s.broadcastState tick deltaSeconds now).1) ∧
      (∀ action items s', perform action s = some (items, s') →
        (∀ tick deltaSeconds now, action ≠ .broadcastState tick deltaSeconds now) →
        ∀ client, framesTo client items = []) ∧
      ∀ client, (announcedTo client trace.reverse).Sublist
        ((ServerItem.deathsIn trace.reverse).map fun death => (death.targetId, death.tick)) :=
  ⟨delivers_broadcastState run, fun _ _ _ => perform_mute, announcedTo_sublist run⟩

end WebSocketServer

/-- Both connections are told once that `"bob"` died. -/
theorem deaths_announced_once_duel : ∃ (trace : List (ServerItem Computed)) (s : WebSocketServer Computed),
    (∀ tick deltaSeconds now,
      WebSocketServer.Delivers s tick deltaSeconds (s.broadcastState tick deltaSeconds now).1) ∧
    (announcedTo 0 trace.reverse).Sublist
      ((ServerItem.deathsIn trace.reverse).map fun death => (death.targetId, death.tick)) ∧
    announcedTo 0 trace.reverse = [("bob", 14)] ∧ announcedTo 1 trace.reverse = [("bob", 14)] := by
  have fresh : WebSocketServer.Initial (WebSocketServer.new (1 / 10 : ℚ) : WebSocketServer Computed) :=
    ⟨_, rfl⟩
  obtain ⟨trace, s, run, passed⟩ := exists_run_of_replay
    (connects 0 ++ sends 0 "alice" alice_named (duelInput 0 false false) ++ lostDuel 1)
    (fun trace _ => announcedTo 0 trace.reverse == [("bob", 14)] &&
      announcedTo 1 trace.reverse == [("bob", 14)]) fresh
    (show (replay WebSocketServer.perform _ _).any _ = true by decide +kernel)
  rw [Bool.and_eq_true, beq_iff_eq, beq_iff_eq] at passed
  have told := WebSocketServer.deaths_announced_once run
  exact ⟨trace, s, told.1, told.2.2 0, passed⟩

end Arena60
