import Arena60.Matchmaking.PassGuarantees
import Arena60.Network.ClientRegistry

/-!
# Agreement of the registry

What holds between two handlers is kept by each handler of the server, and so it holds after
every run: the registered players are the players of the session, each with one open client,
only they wait for a match, and their joins and leaves alternate.
-/

namespace Arena60

open Misc

universe u

variable {R : Type u}

namespace WebSocketServer

variable {s s' : WebSocketServer R} {client : Nat} {session : ClientSession R}
  {trace items : List (ServerItem R)}

variable [DoubleConversions R]

/-! ## The handlers -/

/-- `OnRead` after the read is complete. -/
theorem Registered.onRead (registered : Registered s.Holds trace s) (sound : s.SoundBut client)
    (found : s.connections[client]? = some session) (reading : session.Reading)
    {data : Option (InputFrame R)} {now : Int}
    (handled : s.onRead client session data now = some (items, s')) :
    Settled (items.reverse ++ trace) s' := by
  cases data with
  | none =>
      cases handled
      exact registered.settle sound found (fun _ => ⟨rfl, rfl⟩) reading.sound
  | some frame =>
      have bound : ∃ (playerId : String) (observed : List (ServerItem R)) (s₁ : WebSocketServer R)
          (session₁ : ClientSession R), s.bindPlayer client session frame now = (playerId, observed, s₁) ∧
            Registered s₁.Holds (observed.reverse ++ trace) s₁ ∧ s₁.SoundBut client ∧
            s₁.connections[client]? = some session₁ ∧ session₁.Reading := by
        unfold bindPlayer
        by_cases unbound : session.playerId = ""
        · rw [if_pos unbound]
          obtain ⟨registered', sound', found'⟩ := registered.registerClient sound found
            (reading.unbound unbound).1 unbound frame.named now rfl
          exact ⟨_, _, _, _, rfl, registered', sound', found', reading.accepted,
            fun empty => absurd empty frame.named⟩
        · rw [if_neg unbound]
          exact ⟨_, _, _, _, rfl, registered, sound, found, reading⟩
      obtain ⟨playerId, observed, s₁, session₁, binding, registered', sound', found', reading'⟩ := bound
      obtain ⟨_, _, _, after, outcome, same, applied, rfl, rfl⟩ := onRead_frame handled
      rw [binding] at same
      cases same
      have keys := s₁.session.applyInput_keys playerId frame.input s₁.targetDelta
      rw [applied] at keys
      let call := InputCall.mk client playerId s₁.clients s₁.session after
      let received := (SessionItem.input playerId :: s₁.session.spawnedItems after).map
        ServerItem.inSession ++ [.applied call]
      let s₂ : WebSocketServer R := { s₁ with session := after }
      have quiet : Unnoticed received := by
        refine (Unnoticed.map _ fun _ => ⟨fun _ => rfl, rfl⟩).append ?_
        exact Unnoticed.map [call] (f := ServerItem.applied) fun _ => ⟨fun _ => rfl, rfl⟩
      have applied' : Registered s₂.Holds (received.reverse ++ (observed.reverse ++ trace)) s₂ :=
        registered'.quiet quiet rfl (UnorderedMap.contains_congr keys) rfl
      have settled : Settled (received.reverse ++ (observed.reverse ++ trace))
          (s₂.update client .readLoop) :=
        applied'.settle sound' found' (fun _ => ⟨rfl, rfl⟩) reading'.sound
      rw [List.reverse_append, List.append_assoc]
      exact settled

omit [DoubleConversions R] in
/-- A change of a session that keeps who it is, whether it is open and what it is reading. -/
theorem Settled.write (settled : Settled trace s) (found : s.connections[client]? = some session)
    {f : ClientSession R → ClientSession R} (bound : session.playerId ≠ "")
    (same : ∀ session, (f session).playerId = session.playerId ∧ (f session).closed = session.closed ∧
      (f session).accepting = session.accepting ∧ (f session).read = session.read) :
    Settled trace (s.update client f) := by
  have before := settled.sound client session found
  obtain ⟨player, closed, accepting, read⟩ := same session
  refine settled.update found (fun session => ⟨(same session).1, (same session).2.1⟩) ?_
  constructor
  · rw [player, closed, accepting, read]
    exact before.handshake
  · rw [player, closed, read]
    exact before.listening
  · rw [player]
    exact fun unbound => absurd unbound bound
  · rw [player, closed, read]
    exact before.finished

/-- The server during a broadcast to clients that all hold a player. -/
structure Broadcasting (alive : List Nat) (trace : List (ServerItem R)) (s : WebSocketServer R) : Prop where
  settled : Settled trace s
  holding : ∀ client ∈ alive, ∃ playerId, s.Holds client playerId

omit [DoubleConversions R] in
/-- A message to one of them. -/
theorem Broadcasting.enqueue {alive : List Nat} (broadcasting : Broadcasting alive trace s)
    (member : client ∈ alive) (frame : ClientFrame R) :
    Broadcasting alive ([ServerItem.enqueued client frame].reverse ++ trace)
      (s.update client (·.enqueue frame)) := by
  have quiet : Unnoticed [ServerItem.enqueued client frame] :=
    Unnoticed.map [frame] (f := ServerItem.enqueued client) fun _ => ⟨fun _ => rfl, rfl⟩
  obtain ⟨playerId, session, found, opened, rfl, bound⟩ := broadcasting.holding client member
  have enqueued : Settled trace (s.update client (·.enqueue frame)) :=
    broadcasting.settled.write found bound fun _ => ⟨rfl, rfl, rfl, rfl⟩
  constructor
  · exact enqueued.quiet quiet rfl rfl (fun _ => rfl) rfl
  · intro other member'
    obtain ⟨player, held⟩ := broadcasting.holding other member'
    have same : (s.update client (·.enqueue frame)).Holds other player ↔ s.Holds other player :=
      holds_update_same (f := (·.enqueue frame)) (fun _ => ⟨rfl, rfl⟩) other player
    exact ⟨player, same.mpr held⟩

omit [DoubleConversions R] in
theorem Broadcasting.enqueueState {alive : List Nat} (broadcasting : Broadcasting alive trace s)
    (member : client ∈ alive) (tick : Nat) (deltaSeconds : R) :
    Broadcasting alive ((enqueueState tick deltaSeconds client s).1.reverse ++ trace)
      (enqueueState tick deltaSeconds client s).2 := by
  obtain ⟨playerId, session, found, opened, named, bound⟩ := broadcasting.holding client member
  have registered := broadcasting.settled.registered
  have present : s.session.players.contains playerId = true := by
    rw [registered.served.players]
    exact registered.contains ⟨session, found, opened, named, bound⟩
  obtain ⟨runtime, found'⟩ := Option.isSome_iff_exists.mp present
  have stored : s.session.players.find playerId = some runtime := found'
  have player : s.session.getPlayer session.playerId = .ok runtime.state := by
    rw [named, GameSession.getPlayer, stored]
  unfold WebSocketServer.enqueueState
  rw [found]
  dsimp only
  rw [player]
  exact broadcasting.enqueue member (.state runtime.state tick deltaSeconds)

omit [DoubleConversions R] in
/-- A loop over them. -/
theorem Broadcasting.forEach {alive : List Nat} (broadcasting : Broadcasting alive trace s)
    (body : Nat → WebSocketServer R → List (ServerItem R) × WebSocketServer R)
    (round : ∀ client ∈ alive, ∀ trace s, Broadcasting alive trace s →
      Broadcasting alive ((body client s).1.reverse ++ trace) (body client s).2) :
    Broadcasting alive ((Misc.forEach body alive s).1.reverse ++ trace) (Misc.forEach body alive s).2 := by
  have loop := forEach_invariant body
    (P := fun rest trace s => rest ⊆ alive ∧ Broadcasting alive trace s)
    (fun client rest trace s both => ⟨fun other later => both.1 (List.mem_cons_of_mem _ later),
      round client (both.1 List.mem_cons_self) trace s both.2⟩)
    (l := alive) ⟨List.Subset.refl alive, broadcasting⟩
  exact loop.2

omit [DoubleConversions R] in
/-- The messages of a broadcast. -/
theorem Settled.sendFrames (settled : Settled trace s) (tick : Nat) (deltaSeconds : R)
    (deathEvents : List CombatEvent) :
    Settled ((s.sendFrames tick deltaSeconds deathEvents).1.reverse ++ trace)
      (s.sendFrames tick deltaSeconds deathEvents).2 := by
  have started : Broadcasting (s.clients.entries.map Prod.snd) trace s := by
    refine ⟨settled, ?_⟩
    intro client member
    obtain ⟨pair, listed, rfl⟩ := List.mem_map.mp member
    have found := (s.clients.find_eq_some_iff pair.1 pair.2).mpr listed
    exact ⟨pair.1, (settled.registered.clients pair.1 pair.2).mp found⟩
  have states := started.forEach (WebSocketServer.enqueueState tick deltaSeconds)
    fun client member trace s broadcasting => broadcasting.enqueueState member tick deltaSeconds
  have deaths := forEach_invariant
    (fun event : CombatEvent => Misc.forEach (enqueueDeath event) (s.clients.entries.map Prod.snd))
    (P := fun _ trace s' => Broadcasting (s.clients.entries.map Prod.snd) trace s')
    (l := deathEvents.filter fun event => event.type == .death)
    (fun event _ trace s' broadcasting => broadcasting.forEach (enqueueDeath event)
      fun client member trace s'' broadcasting => broadcasting.enqueue member _) states
  rw [WebSocketServer.sendFrames]
  dsimp only
  rw [List.reverse_append, List.append_assoc]
  exact deaths.settled

omit [DoubleConversions R] in
/-- No client is gone. -/
theorem Settled.lockClients (settled : Settled trace s) : s.lockClients = s := by
  have kept : s.clients.retain (fun entry => s.locks entry.2) = s.clients := by
    refine UnorderedMap.retain_eq_self ?_
    intro entry member
    have found := (s.clients.find_eq_some_iff entry.1 entry.2).mpr member
    obtain ⟨session, stored, held⟩ := (settled.registered.clients entry.1 entry.2).mp found
    rw [locks, stored]
    exact (settled.sound _ _ stored).held held
  rw [WebSocketServer.lockClients, kept]

/-- `BroadcastState`. -/
theorem Settled.broadcastState (settled : Settled trace s) (tick : Nat) (deltaSeconds : R)
    (now : CombatEvent → Int) :
    Settled ((s.broadcastState tick deltaSeconds now).1.reverse ++ trace)
      (s.broadcastState tick deltaSeconds now).2 := by
  let wired := s.toWiredServer.broadcastState tick deltaSeconds now
  let ticked : WebSocketServer R := { s with toWiredServer := wired.2 }
  have afterTick : Settled ((wired.1.map ServerItem.wired).reverse ++ trace) ticked :=
    settled.quiet (Unnoticed.map _ fun _ => ⟨fun _ => rfl, rfl⟩) rfl rfl
      (UnorderedMap.contains_congr (s.session.tick_keys tick deltaSeconds)) rfl
  let deathEvents := (s.session.tick tick deltaSeconds).1.consumeDeathEvents.1
  have sent := afterTick.sendFrames tick deltaSeconds deathEvents
  have unfolded : s.broadcastState tick deltaSeconds now =
      (wired.1.map .wired ++ (ticked.lockClients.sendFrames tick deltaSeconds deathEvents).1,
        { (ticked.lockClients.sendFrames tick deltaSeconds deathEvents).2 with
          lastBroadcastTick := tick }) := rfl
  rw [unfolded, afterTick.lockClients, List.reverse_append, List.append_assoc]
  exact ⟨sent.sound, sent.registered.still rfl rfl rfl⟩

/-- The server while it stops the clients that are left, the registry being empty already. -/
structure Stopping (left : List Nat) (trace : List (ServerItem R)) (s : WebSocketServer R) : Prop where
  sound : ∀ (client : Nat) (session : ClientSession R),
    s.connections[client]? = some session → session.Sound
  distinct : left.Nodup
  holding : ∀ client ∈ left, ∃ playerId, s.Holds client playerId
  listed : ∀ client playerId, s.Holds client playerId → client ∈ left
  unique : ∀ client other playerId, s.Holds client playerId → s.Holds other playerId → client = other
  cleared : s.clients = .empty
  served : ∃ present, Served present trace s ∧
    ∀ playerId, present playerId = true ↔ ∃ client, s.Holds client playerId

omit [DoubleConversions R] in
/-- One round of the loop of `Stop`. -/
theorem Stopping.round {left : List Nat} (stopping : Stopping (client :: left) trace s) :
    Stopping left ((s.stopClient client).1.reverse ++ trace) (s.stopClient client).2 := by
  obtain ⟨playerId, held⟩ := stopping.holding client List.mem_cons_self
  obtain ⟨fresh, distinct⟩ := List.nodup_cons.mp stopping.distinct
  have holds := holds_stopClient held
  constructor
  · exact fun other session' => sound_stopClient held (stopping.sound other)
  · exact distinct
  · intro other later
    obtain ⟨player, held'⟩ := stopping.holding other (List.mem_cons_of_mem _ later)
    refine ⟨player, (holds other player).mpr ⟨?_, held'⟩⟩
    intro same
    subst same
    exact fresh later
  · intro other player held'
    obtain ⟨differs, before⟩ := (holds other player).mp held'
    rcases List.mem_cons.mp (stopping.listed other player before) with same | later
    · exact absurd same differs
    · exact later
  · intro first second player held₁ held₂
    exact stopping.unique first second player ((holds first player).mp held₁).2
      ((holds second player).mp held₂).2
  · have none : s.clients.contains playerId = false := by
      rw [stopping.cleared]
      rfl
    rw [stopClient_holder held, unregisterClient, WebSocketServer.update, none]
    exact stopping.cleared
  · obtain ⟨present, served, same⟩ := stopping.served
    have updated : Served present trace (s.update client fun session => { session with closed := true }) :=
      served.quiet Unnoticed.nil (fun _ => rfl) served.matchmaker fun _ _ => id
    refine ⟨fun other => if other = playerId then false else present other, ?_, ?_⟩
    · rw [stopClient_holder held]
      exact unregisterClient_served updated ((same playerId).mpr ⟨client, held⟩)
    · intro other
      dsimp only
      by_cases asked : other = playerId
      · subst asked
        rw [if_pos rfl]
        constructor
        · intro false
          cases false
        · intro holder
          obtain ⟨client', held'⟩ := holder
          obtain ⟨differs, before⟩ := (holds client' other).mp held'
          exact absurd (stopping.unique client' client other before held) differs
      · rw [if_neg asked, same]
        constructor
        · intro holder
          obtain ⟨client', held'⟩ := holder
          refine ⟨client', (holds client' other).mpr ⟨?_, held'⟩⟩
          intro again
          subst again
          exact asked (holds_unique held held')
        · intro holder
          obtain ⟨client', held'⟩ := holder
          exact ⟨client', ((holds client' other).mp held').2⟩

omit [DoubleConversions R] in
/-- The registered clients are distinct. -/
theorem Registered.clients_nodup (registered : Registered s.Holds trace s) :
    (s.clients.entries.map Prod.snd).Nodup := by
  refine List.Nodup.map_on ?_ (List.Nodup.of_map Prod.fst s.clients.distinct)
  intro entry member other member' same
  have held := (registered.clients entry.1 entry.2).mp
    ((s.clients.find_eq_some_iff entry.1 entry.2).mpr member)
  have held' := (registered.clients other.1 other.2).mp
    ((s.clients.find_eq_some_iff other.1 other.2).mpr member')
  rw [← same] at held'
  exact Prod.ext (holds_unique held' held) same

omit [DoubleConversions R] in
/-- `Stop` of the server. -/
theorem Settled.stop (settled : Settled trace s) : Settled (s.stop.1.reverse ++ trace) s.stop.2 := by
  have registered := settled.registered
  unfold WebSocketServer.stop
  by_cases running : (!s.running) = true
  · rw [if_pos running]
    exact settled
  · rw [if_neg running]
    dsimp only
    have entry : ∀ client, client ∈ s.clients.entries.map Prod.snd ↔ ∃ playerId, s.Holds client playerId := by
      intro client
      rw [List.mem_map]
      constructor
      · intro listed
        obtain ⟨pair, member, rfl⟩ := listed
        exact ⟨pair.1, (registered.clients pair.1 pair.2).mp
          ((s.clients.find_eq_some_iff pair.1 pair.2).mpr member)⟩
      · intro holder
        obtain ⟨playerId, held⟩ := holder
        exact ⟨(playerId, client), (s.clients.find_eq_some_iff playerId client).mp
          ((registered.clients playerId client).mpr held), rfl⟩
    let halted : WebSocketServer R := { s with running := false }
    have alive : (s.clients.entries.map Prod.snd).filter halted.locks = s.clients.entries.map Prod.snd := by
      rw [List.filter_eq_self]
      intro client member
      obtain ⟨playerId, session, found, held⟩ := (entry client).mp member
      have found' : halted.connections[client]? = some session := found
      rw [locks, found']
      exact (settled.sound client session found).held held
    have start : Stopping (s.clients.entries.map Prod.snd) trace { halted with clients := .empty } := by
      refine ⟨settled.sound, registered.clients_nodup, fun client => (entry client).mp,
        fun client playerId held => (entry client).mpr ⟨playerId, held⟩,
        fun client other playerId => registered.unique, rfl, s.clients.contains, ?_, ?_⟩
      · exact registered.served.quiet Unnoticed.nil (fun _ => rfl) registered.served.matchmaker fun _ _ => id
      · intro playerId
        constructor
        · intro here
          obtain ⟨client, found⟩ := Option.isSome_iff_exists.mp here
          exact ⟨client, (registered.clients playerId client).mp found⟩
        · intro holder
          obtain ⟨client, held⟩ := holder
          exact registered.contains held
    have finished := forEach_invariant (fun client (s : WebSocketServer R) => s.stopClient client)
      (P := Stopping) (fun client left trace s stopping => stopping.round) start
    rw [alive]
    obtain ⟨present, served, same⟩ := finished.served
    have nobody : ∀ client playerId, ¬Holds _ client playerId := fun client playerId held =>
      absurd (finished.listed client playerId held) List.not_mem_nil
    refine ⟨finished.sound, ?_, ?_⟩
    · intro playerId client
      rw [finished.cleared]
      constructor
      · intro found
        cases found
      · intro held
        exact absurd held (nobody client playerId)
    · have empty : present = UnorderedMap.contains (UnorderedMap.empty : UnorderedMap String Nat) := by
        funext playerId
        rw [Bool.eq_iff_iff, same]
        constructor
        · intro holder
          obtain ⟨client, held⟩ := holder
          exact absurd held (nobody client playerId)
        · intro here
          cases here
      rw [finished.cleared, ← empty]
      exact served

omit [DoubleConversions R] in
/-- A new connection. -/
theorem Settled.accept (settled : Settled trace s) :
    Settled trace { s with connections := s.connections ++ [ClientSession.new] } := by
  let accepted : WebSocketServer R := { s with connections := s.connections ++ [ClientSession.new] }
  have cases_ : ∀ (client : Nat) (session : ClientSession R), accepted.connections[client]? = some session →
      s.connections[client]? = some session ∨ session = .new := by
    intro client session found
    have found' : (s.connections ++ [ClientSession.new])[client]? = some session := found
    rw [List.getElem?_append] at found'
    split at found'
    · exact Or.inl found'
    · exact Or.inr (List.mem_singleton.mp (List.mem_of_getElem? found'))
  constructor
  · intro client session found
    rcases cases_ client session found with old | rfl
    · exact settled.sound client session old
    · exact ClientSession.sound_new
  · have registered : Registered s.Holds trace accepted := settled.registered.still rfl rfl rfl
    refine registered.congr ?_
    intro client playerId
    constructor
    · intro held
      obtain ⟨session, found, holding⟩ := held
      have inside : client < s.connections.length := (List.getElem?_eq_some_iff.mp found).1
      exact ⟨session, (List.getElem?_append_left inside).trans found, holding⟩
    · intro held
      obtain ⟨session, found, holding⟩ := held
      rcases cases_ client session found with old | rfl
      · exact ⟨session, old, holding⟩
      · exact absurd holding.2.1.symm holding.2.2

omit [DoubleConversions R] in
theorem Registered.stopped (registered : Registered s.Holds trace s) (sound : s.SoundBut client)
    (found : s.connections[client]? = some session) (closable : session.Closable)
    (stopped : s.stopClient client = (items, s')) : Settled (items.reverse ++ trace) s' := by
  have settled := registered.stopClient sound found closable
  rw [stopped] at settled
  exact settled

omit [DoubleConversions R] in
/-- After the handshake a client is stopped, or it reads. -/
theorem Settled.handshake (settled : Settled trace s) (found : s.connections[client]? = some session)
    (accepting : session.accepting = true) {s₁ : WebSocketServer R}
    (accepted : s₁ = s.update client fun session => { session with accepting := false }) :
    (∀ {items s'}, s₁.stopClient client = (items, s') → Settled (items.reverse ++ trace) s') ∧
      Settled trace (s₁.update client .readLoop) := by
  let listening := fun session : ClientSession R => { session with accepting := false }
  obtain ⟨opened, unbound, idle⟩ := (settled.sound client session found).handshake accepting
  have silent := (settled.sound client session found).silent unbound
  have registered := settled.registered.update client (f := listening) fun _ => ⟨rfl, rfl⟩
  have found' := update_self found listening
  have but := (settled.but client).update listening
  have reading : (listening session).Reading := ⟨rfl, fun _ => ⟨opened, silent⟩⟩
  rw [accepted]
  constructor
  · exact registered.stopped but found' ⟨rfl, fun _ => ⟨idle, silent⟩⟩
  · exact registered.settle but found' (fun _ => ⟨rfl, rfl⟩) reading.sound

omit [DoubleConversions R] in
/-- A read is complete. -/
theorem Settled.completeRead (settled : Settled trace s) (found : s.connections[client]? = some session)
    (waiting : session.read = .waiting) {outcome : PendingRead R} (busy : outcome ≠ .idle) :
    Settled trace (s.update client fun session => { session with read := outcome }) := by
  have sound := settled.sound client session found
  have reading := sound.reading (by rw [waiting]; exact nofun)
  have complete : ({ session with read := outcome } : ClientSession R).Sound := by
    refine ⟨?_, fun _ _ => busy, sound.silent, ?_⟩
    · intro accepting
      cases accepting.symm.trans reading.accepted
    · intro closed unbound
      cases closed.symm.trans (reading.unbound unbound).1
  exact settled.update found (fun _ => ⟨rfl, rfl⟩) complete

/-- The handler of a read. -/
theorem Settled.read (settled : Settled trace s) (found : s.connections[client]? = some session)
    (busy : session.read ≠ .idle) {s₁ : WebSocketServer R}
    (taken : s₁ = s.update client fun session => { session with read := .idle }) :
    (∀ {items s'}, s₁.stopClient client = (items, s') → Settled (items.reverse ++ trace) s') ∧
      ∀ {data now items s'}, s₁.onRead client session data now = some (items, s') →
        Settled (items.reverse ++ trace) s' := by
  let idle := fun session : ClientSession R => { session with read := .idle }
  have reading := (settled.sound client session found).reading busy
  have registered := settled.registered.update client (f := idle) fun _ => ⟨rfl, rfl⟩
  have found' := update_self found idle
  have but := (settled.but client).update idle
  rw [taken]
  constructor
  · exact registered.stopped but found'
      ⟨reading.accepted, fun unbound => ⟨rfl, (reading.unbound unbound).2⟩⟩
  · intro data now items s' handled
    exact registered.onRead but found' ⟨reading.accepted, reading.unbound⟩ handled

omit [DoubleConversions R] in
/-- A client with a message to write is bound. -/
theorem Settled.bound (settled : Settled trace s) (found : s.connections[client]? = some session)
    (writing : session.posted ≠ [] ∨ session.writes.outstanding ≠ []) : session.playerId ≠ "" := by
  intro unbound
  obtain ⟨posted, outstanding⟩ := (settled.sound client session found).silent unbound
  rcases writing with some | some
  · exact some posted
  · exact some outstanding

omit [DoubleConversions R] in
/-- The completion of a write with an error. -/
theorem Settled.failWrite (settled : Settled trace s) (found : s.connections[client]? = some session)
    (bound : session.playerId ≠ "") {writes : ClientWrites (ClientFrame R)}
    (stopped : (s.update client fun session => { session with writes }).stopClient client = (items, s')) :
    Settled (items.reverse ++ trace) s' := by
  let failed := fun session : ClientSession R => { session with writes }
  have settled' : Settled trace (s.update client failed) :=
    settled.write found bound fun _ => ⟨rfl, rfl, rfl, rfl⟩
  have found' := update_self found failed
  exact settled'.registered.stopped (settled'.but client) found'
    ((settled'.sound client _ found').closable bound) stopped

/-- A pass of the matchmaker takes players out of the queue. -/
theorem Settled.matchmakingTick (settled : Settled trace s) (now : Int) :
    Settled ((s.matchmakingTick now).1.reverse ++ trace) (s.matchmakingTick now).2 := by
  have registered := settled.registered
  have matchmaker := registered.served.matchmaker
  have sound := pass_sound (R := R) matchmaker.coherent now
  refine ⟨settled.sound, registered.clients, ?_⟩
  have quiet : Unnoticed (s.matchmakingTick now).1 :=
    Unnoticed.map [_] (f := ServerItem.ran) fun _ => ⟨fun _ => rfl, rfl⟩
  refine registered.served.quiet quiet (fun _ => rfl) ?_ ?_
  · have ran := Matchmaker.wellFormed_runMatching matchmaker now
    exact ⟨ran.coherent, ran.issued⟩
  · intro playerId player waits
    have waits' : (s.matchmaker.runMatching now).1.queue.contents playerId = some player := waits
    rw [sound.contents] at waits'
    split at waits'
    · cases waits'
    · exact waits'

omit [DoubleConversions R] in
theorem Settled.reorder (settled : Settled trace s) (clients players : List String) :
    Settled trace (s.reorder clients players) := by
  have registered := settled.registered
  have served := registered.served
  have present : (s.clients.reorder clients).contains = s.clients.contains :=
    funext fun playerId => s.clients.contains_reorder clients playerId
  refine ⟨settled.sound, ?_, ?_⟩
  · intro playerId client
    exact (congrArg (· = some client) (s.clients.find_reorder clients playerId)).to_iff.trans
      (registered.clients playerId client)
  · have reordered : Served s.clients.contains trace (s.reorder clients players) :=
      served.quiet Unnoticed.nil (fun playerId => s.session.players.contains_reorder players playerId)
        served.matchmaker fun _ _ => id
    rw [← present] at reordered
    exact reordered

theorem Settled.step (settled : Settled trace s) {action : ServerAction R}
    (performed : perform action s = some (items, s')) : Settled (items.reverse ++ trace) s' := by
  cases perform_handled performed with
  | refuse => exact ⟨settled.sound, settled.registered.still rfl rfl rfl⟩
  | accept => exact settled.accept
  | reject found accepting stopped => exact (settled.handshake found accepting rfl).1 stopped
  | start found accepting => exact (settled.handshake found accepting rfl).2
  | receive data found waiting => exact settled.completeRead found waiting nofun
  | breakOff found waiting => exact settled.completeRead found waiting nofun
  | onRead found read handled =>
      exact (settled.read found (by rw [read]; exact nofun) rfl).2 handled
  | disconnect now found read stopped =>
      exact (settled.read found (by rw [read]; exact nofun) rfl).1 stopped
  | doEnqueue found waiting =>
      have bound := settled.bound found (Or.inl (by rw [waiting]; exact nofun))
      exact settled.write found bound fun _ => ⟨rfl, rfl, rfl, rfl⟩
  | failWrite found writing stopped =>
      have bound := settled.bound found (Or.inr (by rw [writing]; exact nofun))
      exact settled.failWrite found bound stopped
  | onWrite found writing =>
      have bound := settled.bound found (Or.inr (by rw [writing]; exact nofun))
      exact settled.write found bound fun _ => ⟨rfl, rfl, rfl, rfl⟩
  | broadcastState tick deltaSeconds now => exact settled.broadcastState tick deltaSeconds now
  | matchmakingTick now => exact settled.matchmakingTick now
  | stop => exact settled.stop
  | reorder clients players => exact settled.reorder clients players

theorem settled_new (targetDelta : R) : Settled [] (new targetDelta) := by
  have nobody : ∀ client playerId, ¬(new targetDelta).Holds client playerId := by
    intro client playerId held
    obtain ⟨session, found, -⟩ := held
    cases found
  refine ⟨nofun, ?_, ?_⟩
  · intro playerId client
    constructor
    · intro found
      cases found
    · intro held
      exact absurd held (nobody client playerId)
  · refine ⟨fun _ => rfl, Matchmaker.Reachable.new.wellFormed, ?_, fun _ => trivial, fun _ => rfl, nofun⟩
    intro playerId player waits
    cases waits

theorem Runs.settled (run : Runs trace s) : Settled trace s := by
  refine Run.invariant (P := Settled) ?_ ?_ run
  · intro s initial
    obtain ⟨targetDelta, rfl⟩ := initial
    exact settled_new targetDelta
  · intro trace s items s' _ settled step
    obtain ⟨action, performed⟩ := step
    exact settled.step performed

/-! ## Agreement -/

/-- The registry, the sessions of the clients, the game session and the queue agree, and so do the
observed joins and leaves. -/
structure RegistryAgrees (trace : List (ServerItem R)) (s : WebSocketServer R) : Prop where
  players : ∀ playerId, s.clients.contains playerId = s.session.players.contains playerId
  clients : ∀ playerId client, s.clients.find playerId = some client ↔ s.Holds client playerId
  alive : ∀ playerId client, s.clients.find playerId = some client → s.locks client = true
  queued : ∀ playerId, s.matchmaker.queue.holds playerId = true → s.clients.contains playerId = true
  alternate : ∀ playerId, Alternates (presences playerId trace)
  answered : ∀ item ∈ trace, item.isMiss = false

/-- After each handler the registry agrees with everything else. -/
theorem registry_agrees (run : Runs trace s) : RegistryAgrees trace s := by
  have settled := Runs.settled run
  have registered := settled.registered
  have served := registered.served
  constructor
  · exact fun playerId => (served.players playerId).symm
  · exact registered.clients
  · intro playerId client registration
    obtain ⟨session, found, held⟩ := (registered.clients playerId client).mp registration
    rw [locks, found]
    exact (settled.sound client session found).held held
  · intro playerId waits
    obtain ⟨player, found⟩ := Option.isSome_iff_exists.mp waits
    exact (served.queued playerId player found).1
  · exact served.turns
  · exact served.answered

end WebSocketServer

/-- An input without movement. -/
def restingInput (sequence : Nat) : MovementInput ℚ :=
  ⟨sequence, false, false, false, false, 0, 0, false⟩

theorem alice_named : "alice" ≠ "" := by decide

/-- A second connection takes over the player of the first. -/
def takeover : List (ServerAction ℚ) :=
  [.accept false, .handshake 0 false,
    .completeRead 0 (.received (some ⟨"alice", restingInput 1, alice_named⟩)), .readLoop 0 0,
    .accept false, .handshake 1 false,
    .completeRead 1 (.received (some ⟨"alice", restingInput 1, alice_named⟩)), .readLoop 1 5,
    .broadcastState 1 (1 / 60) fun _ => 0]

theorem registry_agrees_takeover : ∃ (trace : List (ServerItem ℚ)) (s : WebSocketServer ℚ),
    WebSocketServer.RegistryAgrees trace s ∧ s.clients.find "alice" = some 1 ∧
      presences "alice" trace = [true, false, true] := by
  have fresh : WebSocketServer.Initial (WebSocketServer.new (1 / 60) : WebSocketServer ℚ) := ⟨_, rfl⟩
  obtain ⟨trace, s, run, passed⟩ := exists_run_of_replay takeover
    (fun trace s => s.clients.find "alice" == some 1 && presences "alice" trace == [true, false, true])
    fresh (show (replay WebSocketServer.perform _ _).any _ = true by decide +kernel)
  rw [Bool.and_eq_true, beq_iff_eq, beq_iff_eq] at passed
  exact ⟨trace, s, WebSocketServer.registry_agrees run, passed⟩

end Arena60
