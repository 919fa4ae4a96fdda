import Arena60.Network.RegistryAgreement

/-!
# The connection gauge

`connection_count_` against the number of entries of `clients_`. Every handler changes both by
the same amount, except for `Stop` of the server, which clears the registry and leaves the
counter as it was; the clients it stops afterwards are not found any more.
-/

namespace Arena60

open Misc

universe u

variable {R : Type u}

namespace WebSocketServer

/-- The counter is the number of registered clients. -/
def Gauged (s : WebSocketServer R) : Prop := s.connectionCount.toNat = s.clients.size

variable {s s' : WebSocketServer R} {client : Nat} {session : ClientSession R}
  {trace items : List (ServerItem R)}

theorem Gauged.still (gauged : s.Gauged) (clients : s'.clients = s.clients)
    (count : s'.connectionCount = s.connectionCount) : s'.Gauged := by
  rw [Gauged, clients, count]
  exact gauged

theorem Gauged.bounded (gauged : s.Gauged) : s.clients.size < 2 ^ 32 := by
  rw [← gauged]
  exact s.connectionCount.toNat_lt

/-! ## Leaving -/

/-- At most one client leaves the registry, and is taken off the counter. -/
inductive Drops (s s' : WebSocketServer R) : Prop
  | nobody (clients : s'.clients = s.clients) (count : s'.connectionCount = s.connectionCount)
  | one {playerId : String} (present : s.clients.contains playerId = true)
      (clients : s'.clients = s.clients.erase playerId)
      (count : s'.connectionCount = if s.connectionCount = 0 then 0 else s.connectionCount - 1)

theorem Drops.gauged (drops : Drops s s') (gauged : s.Gauged) : s'.Gauged := by
  cases drops with
  | nobody clients count => exact gauged.still clients count
  | one present clients count =>
      have size := UnorderedMap.size_erase present
      have counted : s.connectionCount.toNat = s.clients.size := gauged
      have positive : s.connectionCount ≠ 0 := by
        intro zero
        rw [zero, UInt32.toNat_zero] at counted
        omega
      have atLeast : (1 : UInt32) ≤ s.connectionCount := by
        rw [UInt32.le_iff_toNat_le, UInt32.toNat_one]
        omega
      rw [Gauged, clients, count, if_neg positive, UInt32.toNat_sub_of_le _ _ atLeast, UInt32.toNat_one]
      omega

/-- One who was registered and is not any more was taken out. -/
theorem Drops.size (drops : Drops s s') {playerId : String} (before : s.clients.contains playerId = true)
    (after : s'.clients.contains playerId = false) : s'.clients.size + 1 = s.clients.size := by
  cases drops with
  | nobody clients count =>
      rw [clients, before] at after
      cases after
  | one present clients count =>
      rw [clients]
      exact UnorderedMap.size_erase present

theorem unregisterClient_drops (s : WebSocketServer R) (playerId : String) :
    Drops s (s.unregisterClient playerId).2 := by
  unfold unregisterClient
  by_cases present : s.clients.contains playerId = true
  · simp only [if_pos present]
    exact .one present rfl rfl
  · simp only [if_neg present]
    exact .nobody rfl rfl

theorem stopClient_drops (s : WebSocketServer R) (client : Nat) : Drops s (s.stopClient client).2 := by
  unfold stopClient
  split
  · exact .nobody rfl rfl
  · split
    · exact .nobody rfl rfl
    · dsimp only
      split
      · cases unregisterClient_drops (s.update client fun session => { session with closed := true }) _ with
        | nobody clients count => exact .nobody clients count
        | one present clients count => exact .one present clients count
      · exact .nobody rfl rfl

theorem stopPrevious_drops (s : WebSocketServer R) (playerId : String) :
    Drops s (s.stopPrevious playerId).2 := by
  unfold stopPrevious
  split
  · exact .nobody rfl rfl
  · split
    · exact stopClient_drops s _
    · exact .nobody rfl rfl

/-- Nobody leaves a registry that is empty. -/
theorem Drops.ofEmpty (drops : Drops s s') (empty : s.clients = .empty) :
    s'.clients = .empty ∧ s'.connectionCount = s.connectionCount := by
  cases drops with
  | nobody clients count => exact ⟨clients.trans empty, count⟩
  | one present clients count =>
      rw [empty] at present
      cases present

/-- Nobody is left to be taken out by a loop that stops clients. -/
theorem stopClients_ofEmpty (clients : List Nat) (empty : s.clients = .empty) :
    (forEach (fun client (s : WebSocketServer R) => s.stopClient client) clients s).2.clients = .empty ∧
      (forEach (fun client (s : WebSocketServer R) => s.stopClient client) clients s).2.connectionCount =
        s.connectionCount := by
  induction clients generalizing s with
  | nil => exact ⟨empty, rfl⟩
  | cons client rest ih =>
      have stopped := (stopClient_drops s client).ofEmpty empty
      have others := ih stopped.1
      exact ⟨others.1, others.2.trans stopped.2⟩

/-- `Stop` of the server clears the registry and keeps the counter. -/
theorem stop_clears (running : s.running = true) :
    s.stop.2.clients = .empty ∧ s.stop.2.connectionCount = s.connectionCount := by
  let cleared : WebSocketServer R := { s with running := false, clients := .empty }
  have empty : cleared.clients = .empty := rfl
  unfold stop
  rw [running]
  exact stopClients_ofEmpty _ empty

/-! ## Joining -/

/-- The player that the handler of a read is going to register. -/
def joining (s : WebSocketServer R) (client : Nat) : Option String :=
  match s.connections[client]? with
  | none => none
  | some session =>
      match session.read with
      | .received (some frame) => if session.playerId = "" then some frame.playerId else none
      | _ => none

/-- The steps that can keep the counter right: `Stop` has nobody to clear, and a player who is not
registered yet finds room in the counter. -/
def KeepsGauge (action : ServerAction R) (s : WebSocketServer R) : Prop :=
  match action with
  | .stop => s.running = true → s.clients.size = 0
  | .readLoop client _ => ∀ playerId ∈ s.joining client,
      s.clients.contains playerId = false → s.clients.size + 1 < 2 ^ 32
  | _ => True

instance (action : ServerAction R) (s : WebSocketServer R) : Decidable (KeepsGauge action s) := by
  cases action <;> unfold KeepsGauge <;> infer_instance

variable [DoubleConversions R]

omit [DoubleConversions R] in
theorem enqueueState_registry (tick : Nat) (deltaSeconds : R) (client : Nat) (s : WebSocketServer R) :
    (enqueueState tick deltaSeconds client s).2.clients = s.clients ∧
      (enqueueState tick deltaSeconds client s).2.connectionCount = s.connectionCount := by
  unfold enqueueState
  split
  · exact ⟨rfl, rfl⟩
  · split <;> exact ⟨rfl, rfl⟩

omit [DoubleConversions R] in
/-- A loop that leaves the registry and the counter alone. -/
theorem forEach_registry {α : Type} {body : α → WebSocketServer R → List (ServerItem R) × WebSocketServer R}
    (round : ∀ a s, (body a s).2.clients = s.clients ∧ (body a s).2.connectionCount = s.connectionCount)
    (l : List α) (s : WebSocketServer R) : (forEach body l s).2.clients = s.clients ∧
      (forEach body l s).2.connectionCount = s.connectionCount := by
  induction l generalizing s with
  | nil => exact ⟨rfl, rfl⟩
  | cons a rest ih =>
      have first := round a s
      have others := ih (body a s).2
      exact ⟨others.1.trans first.1, others.2.trans first.2⟩

omit [DoubleConversions R] in
theorem sendFrames_registry (s : WebSocketServer R) (tick : Nat) (deltaSeconds : R)
    (deathEvents : List CombatEvent) : (s.sendFrames tick deltaSeconds deathEvents).2.clients = s.clients ∧
      (s.sendFrames tick deltaSeconds deathEvents).2.connectionCount = s.connectionCount := by
  have states := forEach_registry (enqueueState_registry tick deltaSeconds)
    (s.clients.entries.map Prod.snd) s
  have oneDeath : ∀ (event : CombatEvent) (s' : WebSocketServer R),
      (forEach (enqueueDeath event) (s.clients.entries.map Prod.snd) s').2.clients = s'.clients ∧
        (forEach (enqueueDeath event) (s.clients.entries.map Prod.snd) s').2.connectionCount =
          s'.connectionCount :=
    fun event => forEach_registry (fun client s'' => ⟨rfl, rfl⟩) _
  have deaths := forEach_registry oneDeath
    (deathEvents.filter fun event => event.type == .death)
    (forEach (enqueueState tick deltaSeconds) (s.clients.entries.map Prod.snd) s).2
  exact ⟨deaths.1.trans states.1, deaths.2.trans states.2⟩

/-- The broadcast erases nobody, since all clients can be locked. -/
theorem Settled.broadcastState_registry (settled : Settled trace s) (tick : Nat) (deltaSeconds : R)
    (now : CombatEvent → Int) : (s.broadcastState tick deltaSeconds now).2.clients = s.clients ∧
      (s.broadcastState tick deltaSeconds now).2.connectionCount = s.connectionCount := by
  let ticked : WebSocketServer R :=
    { s with toWiredServer := (s.toWiredServer.broadcastState tick deltaSeconds now).2 }
  have kept : s.lockClients.clients = s.clients := congrArg WebSocketServer.clients settled.lockClients
  have sent := sendFrames_registry ticked.lockClients tick deltaSeconds
    (s.session.tick tick deltaSeconds).1.consumeDeathEvents.1
  exact ⟨sent.1.trans kept, sent.2⟩

omit [DoubleConversions R] in
/-- One more client is counted if the counter can count it. -/
theorem Gauged.join (gauged : s.Gauged) {playerId : String} (absent : s.clients.contains playerId = false)
    (clients : s'.clients = s.clients.upsert playerId client fun _ => client)
    (count : s'.connectionCount = s.connectionCount + 1) :
    s'.Gauged ↔ s.clients.size + 1 < 2 ^ 32 := by
  have bounded := gauged.bounded
  have counted : s.connectionCount.toNat = s.clients.size := gauged
  rw [Gauged, clients, count, UnorderedMap.size_upsert absent, UInt32.toNat_add, counted, UInt32.toNat_one]
  omega

/-- The first frame of a client keeps the counter right if there is room in it. -/
theorem Settled.bind_gauge (settled : Settled trace s) (gauged : s.Gauged)
    (found : s.connections[client]? = some session) (read : session.read ≠ .idle)
    (unbound : session.playerId = "") {playerId : String} (named : playerId ≠ "") (now : Int)
    {taken bound : WebSocketServer R}
    (taking : taken = s.update client fun session => { session with read := .idle })
    (binding : bound = taken.update client fun session => { session with playerId }) :
    (bound.registerClient playerId client now).2.Gauged ↔
      (s.clients.contains playerId = false → s.clients.size + 1 < 2 ^ 32) := by
  let idle := fun session : ClientSession R => { session with read := .idle }
  have reading := (settled.sound client session found).reading read
  have registered := settled.registered.update client (f := idle) fun _ => ⟨rfl, rfl⟩
  rw [← taking] at registered
  have found' : taken.connections[client]? = some (idle session) := by
    rw [taking]
    exact update_self found idle
  have sound : taken.SoundBut client := by
    rw [taking]
    exact (settled.but client).update idle
  obtain ⟨vacated, -⟩ := registered.stopPrevious sound found' (reading.unbound unbound).1 unbound named binding
  have clients : bound.clients = s.clients := by rw [binding, taking]; rfl
  have count : bound.connectionCount = s.connectionCount := by rw [binding, taking]; rfl
  have drops := stopPrevious_drops bound playerId
  have absent : (bound.stopPrevious playerId).2.clients.contains playerId = false := by
    rw [Bool.eq_false_iff]
    intro here
    obtain ⟨other, holder⟩ := Option.isSome_iff_exists.mp here
    exact ((vacated.clients playerId other).mp holder).2 rfl
  have joined : (bound.registerClient playerId client now).2.Gauged ↔
      (bound.stopPrevious playerId).2.clients.size + 1 < 2 ^ 32 :=
    (drops.gauged (gauged.still clients count)).join absent rfl rfl
  rw [joined]
  by_cases before : s.clients.contains playerId = true
  · -- the player is taken over, and its place in the counter with it
    have size := drops.size (by rw [clients]; exact before) absent
    have bounded := gauged.bounded
    rw [clients] at size
    simp only [before, Bool.true_eq_false, false_implies, iff_true]
    omega
  · have missing : bound.clients.find playerId = none := by
      rw [clients]
      simpa [UnorderedMap.contains] using before
    have nobody : bound.stopPrevious playerId = ([], bound) := by
      rw [stopPrevious, missing]
    rw [nobody, clients]
    simp only [Bool.eq_false_of_not_eq_true before, forall_const]

/-- An input leaves the registry and the counter alone. -/
theorem onRead_registry {frame : InputFrame R} {now : Int}
    (handled : s.onRead client session (some frame) now = some (items, s')) :
    s'.clients = (s.bindPlayer client session frame now).2.2.clients ∧
      s'.connectionCount = (s.bindPlayer client session frame now).2.2.connectionCount := by
  obtain ⟨playerId, observed, s₁, after, outcome, bound, applied, rfl, rfl⟩ := onRead_frame handled
  rw [bound]
  exact ⟨rfl, rfl⟩

/-- The handler of a read. -/
theorem Settled.onRead_gauge (settled : Settled trace s) (gauged : s.Gauged)
    (found : s.connections[client]? = some session) {data : Option (InputFrame R)}
    (read : session.read = .received data) {now : Int}
    (handled : (s.update client fun session => { session with read := .idle }).onRead client session data
      now = some (items, s')) : s'.Gauged ↔ KeepsGauge (.readLoop client now) s := by
  cases data with
  | none =>
      have nobody : s.joining client = none := by
        simp only [joining, found, read]
      rw [KeepsGauge, nobody]
      cases handled
      exact iff_of_true (gauged.still rfl rfl) (fun _ none => by cases none)
  | some frame =>
      have registry := onRead_registry handled
      rw [Gauged, registry.1, registry.2, ← Gauged]
      by_cases unbound : session.playerId = ""
      · have joins : s.joining client = some frame.playerId := by
          simp only [joining, found, read, if_pos unbound]
        have busy : session.read ≠ .idle := by
          rw [read]
          intro same
          cases same
        have binding := settled.bind_gauge gauged found busy unbound frame.named now rfl rfl
        rw [bindPlayer, if_pos unbound, KeepsGauge, joins]
        simpa only [Option.mem_def, Option.some.injEq, forall_eq'] using binding
      · have nobody : s.joining client = none := by
          simp only [joining, found, read, if_neg unbound]
        rw [bindPlayer, if_neg unbound, KeepsGauge, nobody]
        exact iff_of_true (gauged.still rfl rfl) (fun _ none => by cases none)

/-! ## Runs -/

/-- A step from a reachable state in which the counter is right keeps it right exactly if it is one
of those that can. -/
theorem Settled.keepsGauge_iff (settled : Settled trace s) (gauged : s.Gauged) {action : ServerAction R}
    (performed : perform action s = some (items, s')) : s'.Gauged ↔ KeepsGauge action s := by
  have stopped : ∀ {s₁ : WebSocketServer R} {client : Nat}, s₁.stopClient client = (items, s') →
      s₁.clients = s.clients → s₁.connectionCount = s.connectionCount → s'.Gauged := by
    intro s₁ client same clients count
    have drops := stopClient_drops s₁ client
    rw [same] at drops
    exact drops.gauged (gauged.still clients count)
  cases perform_handled performed with
  | reject found accepting same => exact iff_of_true (stopped same rfl rfl) trivial
  | onRead found read handled => exact settled.onRead_gauge gauged found read handled
  | @disconnect client session _ _ now found read same =>
      have nobody : s.joining client = none := by
        unfold joining
        rw [found]
        dsimp only
        rw [read]
      refine iff_of_true (stopped same rfl rfl) ?_
      intro playerId joins
      rw [nobody] at joins
      cases joins
  | failWrite found writing same => exact iff_of_true (stopped same rfl rfl) trivial
  | broadcastState tick deltaSeconds now =>
      have registry := settled.broadcastState_registry tick deltaSeconds now
      exact iff_of_true (gauged.still registry.1 registry.2) trivial
  | stop =>
      cases running : s.running with
      | false =>
          have nothing : s.stop = ([], s) := by
            rw [WebSocketServer.stop, running]
            rfl
          rw [nothing]
          refine iff_of_true gauged ?_
          intro runs
          cases running.symm.trans runs
      | true =>
          have cleared := stop_clears running
          have counted : s.connectionCount.toNat = s.clients.size := gauged
          have empty : (UnorderedMap.empty : UnorderedMap String Nat).size = 0 := rfl
          rw [Gauged, KeepsGauge, cleared.1, cleared.2, counted, empty]
          simp only [running, forall_const]
  | reorder clients players =>
      refine iff_of_true ?_ trivial
      have counted : s.connectionCount.toNat = s.clients.size := gauged
      exact counted.trans (s.clients.size_reorder clients).symm
  | _ => exact iff_of_true (gauged.still rfl rfl) trivial

/-- The runs of steps that can keep the counter right. -/
abbrev GaugeRuns (trace : List (ServerItem R)) (s : WebSocketServer R) : Prop :=
  Run Initial (StepWhen KeepsGauge perform) trace s

theorem GaugeRuns.settled (run : GaugeRuns trace s) : Settled trace s ∧ s.Gauged := by
  refine Run.invariant (P := fun trace s => Settled trace s ∧ s.Gauged) ?_ ?_ run
  · intro s initial
    obtain ⟨targetDelta, rfl⟩ := initial
    exact ⟨settled_new targetDelta, rfl⟩
  · intro trace s items s' _ both step
    obtain ⟨action, keeps, performed⟩ := step
    exact ⟨both.1.step performed, (both.1.keepsGauge_iff both.2 performed).mpr keeps⟩

/-- `connection_count_` is the number of entries of `clients_` after every run in which the server
is stopped with no client registered. -/
theorem connectionCount_eq_size (run : GaugeRuns trace s) : s.connectionCount.toNat = s.clients.size :=
  (GaugeRuns.settled run).2

end WebSocketServer

/-- The takeover, a broadcast and the end of the connection that is left. -/
def takeoverAndLeave : List (ServerAction ℚ) :=
  takeover ++ [.completeRead 1 .failed, .readLoop 1 9, .stop]

theorem connectionCount_eq_size_takeover : ∃ (trace : List (ServerItem ℚ)) (s : WebSocketServer ℚ),
    s.connectionCount.toNat = s.clients.size ∧ s.running = false ∧
      presences "alice" trace = [false, true, false, true] := by
  have fresh : WebSocketServer.Initial (WebSocketServer.new (1 / 60) : WebSocketServer ℚ) := ⟨_, rfl⟩
  obtain ⟨trace, s, run, passed⟩ := exists_run_of_replay_when takeoverAndLeave
    (fun trace s => !s.running && presences "alice" trace == [false, true, false, true])
    fresh (show (replay (fun action s => if WebSocketServer.KeepsGauge action s then
      WebSocketServer.perform action s else none) _ _).any _ = true by decide +kernel)
  rw [Bool.and_eq_true, Bool.not_eq_true', beq_iff_eq] at passed
  exact ⟨trace, s, WebSocketServer.connectionCount_eq_size run, passed⟩

/-- A player joins, and the server is stopped. -/
def joinAndStop : List (ServerAction ℚ) :=
  [.accept false, .handshake 0 false,
    .completeRead 0 (.received (some ⟨"alice", restingInput 1, alice_named⟩)), .readLoop 0 0, .stop]

/-- The server that is stopped with a client counts it for ever. -/
theorem stop_keeps_count : ¬∀ (trace : List (ServerItem ℚ)) (s : WebSocketServer ℚ),
    WebSocketServer.Runs trace s → s.connectionCount.toNat = s.clients.size := by
  intro claim
  have fresh : WebSocketServer.Initial (WebSocketServer.new (1 / 60) : WebSocketServer ℚ) := ⟨_, rfl⟩
  obtain ⟨trace, s, run, passed⟩ := exists_run_of_replay joinAndStop
    (fun _ s => s.connectionCount == 1 && s.clients.size == 0)
    fresh (show (replay WebSocketServer.perform _ _).any _ = true by decide +kernel)
  rw [Bool.and_eq_true, beq_iff_eq, beq_iff_eq] at passed
  have counted := claim trace s run
  rw [passed.1, passed.2] at counted
  cases counted

end Arena60
