import Arena60.Game.ProjectileBound
import Arena60.Misc.RealPowers
import Arena60.Network.SessionOps

/-!
# The projectiles of the server

Players join the server when they are absent, so nobody has more than fifteen projectiles in the
air, and the work of a tick is bounded by the number of clients.
-/

namespace Arena60

open Misc Misc.DoubleArith Misc.RealArith Misc.RealConversions

namespace GameSession

/-- The sessions that such operations reach. -/
theorem Plays.armed {ops : List (SessionOp ℝ)} (forward : ∀ op ∈ ops, Forward op) :
    ∀ {s : GameSession ℝ}, Plays .new ops s → Armed s := by
  induction ops using List.reverseRecOn with
  | nil =>
      rintro s ⟨rfl, -⟩
      exact ⟨nofun, List.Pairwise.nil, nofun⟩
  | append_singleton ops op ih =>
      rintro s ⟨rfl, entering⟩
      obtain ⟨entering', last⟩ := entering.split
      have armed := ih (fun other member => forward other (List.mem_append_left [op] member)) ⟨rfl, entering'⟩
      obtain ⟨trace, run⟩ := runs_after (R := ℝ) ops
      rw [after_concat]
      exact armed.act (Runs.filed run) ⟨forward op (List.mem_append_right ops List.mem_cons_self),
        fun playerId same => (last.1 playerId same).2⟩

end GameSession

namespace WebSocketServer

open GameSession

/-- A broadcast does not turn the clock of the session back. -/
def Advances (action : ServerAction ℝ) (_ : WebSocketServer ℝ) : Prop :=
  ∀ tick deltaSeconds now, action = .broadcastState tick deltaSeconds now → 0 ≤ deltaSeconds

/-- The runs in which time does not go back. -/
abbrev TimedRuns (trace : List (ServerItem ℝ)) (s : WebSocketServer ℝ) : Prop :=
  Run Initial (StepWhen Advances perform) trace s

variable {trace : List (ServerItem ℝ)} {s : WebSocketServer ℝ}

theorem TimedRuns.run (run : TimedRuns trace s) : Runs trace s := run.mono fun _ _ _ => StepWhen.step

theorem TimedRuns.plays (run : TimedRuns trace s) :
    ∃ ops, Plays .new ops s.session ∧ ∀ op ∈ ops, Forward op := by
  refine Run.invariant (P := fun _ s => ∃ ops, Plays .new ops s.session ∧ ∀ op ∈ ops, Forward op) ?_ ?_ run
  · intro s initial
    obtain ⟨targetDelta, rfl⟩ := initial
    exact ⟨[], .refl _, nofun⟩
  · intro trace s items s' earlier plays step
    obtain ⟨ops, played, forward⟩ := plays
    obtain ⟨action, advances, performed⟩ := step
    obtain ⟨ops', plays', ticks⟩ := (Runs.settled (TimedRuns.run earlier)).plays performed
    refine ⟨ops ++ ops', played.trans plays', ?_⟩
    intro op member
    rcases List.mem_append.mp member with old | new
    · exact forward op old
    · cases op with
      | tick tick deltaSeconds =>
          obtain ⟨now, same⟩ := ticks tick deltaSeconds new
          have nonneg := advances tick deltaSeconds now same
          refine decide_eq_true ?_
          rw [ofRat_real]
          exact_mod_cast nonneg
      | _ => trivial

/-- The projectiles of a server: fifteen for each player at most, whose connection is open and registered, and a
tick checks at most fifteen pairs of a projectile and a player for each two registered clients. -/
structure FewProjectiles (s : WebSocketServer ℝ) : Prop where
  each : ∀ playerId, (s.session.projectilesOf playerId).length ≤ 15
  owned : ∀ projectile ∈ s.session.projectiles, ∃ client session,
    s.clients.find projectile.ownerId = some client ∧ s.connections[client]? = some session ∧
      session.playerId = projectile.ownerId ∧ session.closed = false
  all : s.session.projectiles.length ≤ 15 * s.clients.size
  checked : ∀ tick deltaSeconds, (s.session.tick tick deltaSeconds).1.collisionsCheckedTotal ≤
    s.session.collisionsCheckedTotal + 15 * s.clients.size * (s.clients.size - 1)

/-- In exact arithmetic the projectiles of a server are few at any time. -/
theorem TimedRuns.projectiles_bounded (run : TimedRuns trace s) : FewProjectiles s := by
  obtain ⟨ops, plays, forward⟩ := run.plays
  have armed := plays.armed forward
  have filed : s.session.Filed := by
    obtain ⟨trace', played⟩ := runs_after (R := ℝ) ops
    rw [plays.reached] at played
    exact Runs.filed played
  have size : s.session.players.size = s.clients.size := by
    have served := (Runs.settled run.run).registered.served
    have same : s.session.players.keys.Perm s.clients.keys := by
      refine (List.perm_ext_iff_of_nodup s.session.players.distinct s.clients.distinct).mpr fun playerId => ?_
      have both := Bool.eq_iff_iff.mp (served.players playerId)
      rwa [UnorderedMap.contains_iff, UnorderedMap.contains_iff] at both
    have length := same.length_eq
    rwa [UnorderedMap.keys, UnorderedMap.keys, List.length_map, List.length_map] at length
  refine ⟨armed.projectilesOf_le, ?_, ?_, ?_⟩
  · intro projectile flying
    obtain ⟨runtime, present, -⟩ := armed.owned projectile flying
    have agrees := registry_agrees run.run
    have joined : s.session.players.contains projectile.ownerId = true :=
      Option.isSome_iff_exists.mpr ⟨runtime, present⟩
    rw [← agrees.players] at joined
    obtain ⟨client, registration⟩ := Option.isSome_iff_exists.mp joined
    obtain ⟨session, found, opened, bound, -⟩ := (agrees.clients _ _).mp registration
    exact ⟨client, session, registration, found, bound, opened⟩
  · rw [← size]
    exact armed.projectiles_le
  · intro tick deltaSeconds
    rw [← size]
    exact armed.checked_le filed tick deltaSeconds

end WebSocketServer

namespace WebSocketServer

open GameSession

/-- The handler of a frame of a bound client whose input the session takes. -/
theorem onRead_bound (s : WebSocketServer ℝ) (client : Nat) {session : ClientSession ℝ} (frame : InputFrame ℝ)
    (now : Int) (bound : session.playerId ≠ "")
    (taken : (s.session.applyInput session.playerId frame.input s.targetDelta).2 = .ok ()) :
    ∃ items, s.onRead client session (some frame) now = some (items,
      ({ s with session := (s.session.applyInput session.playerId frame.input s.targetDelta).1 } :
        WebSocketServer ℝ).update client .readLoop) := by
  rw [onRead, bindPlayer, if_neg bound]
  dsimp only
  generalize s.session.applyInput session.playerId frame.input s.targetDelta = result at taken ⊢
  obtain ⟨after, outcome⟩ := result
  cases taken
  exact ⟨_, rfl⟩

/-- Any other action leaves the clock alone. -/
theorem advances_of_ne {action : ServerAction ℝ}
    (other : ∀ tick deltaSeconds now, action ≠ .broadcastState tick deltaSeconds now) (s : WebSocketServer ℝ) :
    Advances action s := by
  intro tick deltaSeconds now same
  exact absurd same (other tick deltaSeconds now)

def shotFrame : InputFrame ℝ := ⟨"alice", shotRight, alice_named⟩

/-- Two clients have joined, nothing is in the air, and a shot of the first has arrived. -/
structure Aimed (s : WebSocketServer ℝ) (session : ClientSession ℝ) (runtime : PlayerRuntimeState ℝ) : Prop where
  found : s.connections[0]? = some session
  waiting : session.read = .received (some shotFrame)
  bound : session.playerId = "alice"
  none : s.session.projectiles = []
  two : s.clients.size = 2
  present : s.session.players.find "alice" = some runtime
  alive : runtime.state.isAlive = true
  sequence : runtime.state.lastSequence = 0
  clock : s.session.elapsedTime = ofRat 0
  cold : runtime.lastFireTime = lowest

theorem exists_aimed : ∃ trace s session runtime, TimedRuns trace s ∧ Aimed s session runtime := by
  let joins : MovementInput ℝ := ⟨0, false, false, false, false, 1, 0, false⟩
  have start : TimedRuns [] (WebSocketServer.new (1 / 60 : ℝ)) := .start ⟨_, rfl⟩
  have accepted := start.next ⟨.accept false, advances_of_ne (by simp) _, rfl⟩
  have greeted := accepted.next ⟨.handshake 0 false, advances_of_ne (by simp) _, rfl⟩
  have received := greeted.next ⟨.completeRead 0 (.received (some ⟨"alice", joins, alice_named⟩)),
    advances_of_ne (by simp) _, rfl⟩
  have joined := received.next ⟨.readLoop 0 0, advances_of_ne (by simp) _, rfl⟩
  have accepted' := joined.next ⟨.accept false, advances_of_ne (by simp) _, rfl⟩
  have greeted' := accepted'.next ⟨.handshake 1 false, advances_of_ne (by simp) _, rfl⟩
  have received' := greeted'.next ⟨.completeRead 1 (.received (some ⟨"bob", joins, bob_named⟩)),
    advances_of_ne (by simp) _, rfl⟩
  have joined' := received'.next ⟨.readLoop 1 0, advances_of_ne (by simp) _, rfl⟩
  have aimed := joined'.next ⟨.completeRead 0 (.received (some shotFrame)), advances_of_ne (by simp) _, rfl⟩
  exact ⟨_, _, _, _, aimed, rfl, rfl, rfl, rfl, rfl, rfl, rfl, rfl, rfl, rfl⟩

/-- The handler of the shot puts a projectile into the air. -/
theorem Aimed.shoots {s : WebSocketServer ℝ} {session : ClientSession ℝ} {runtime : PlayerRuntimeState ℝ}
    (aimed : Aimed s session runtime) : ∃ items s', perform (.readLoop 0 0) s = some (items, s') ∧
      (∃ projectile, s'.session.projectiles = [projectile]) ∧ s'.clients.size = 2 := by
  obtain ⟨found, waiting, bound, none, two, present, alive, sequence, clock, cold⟩ := aimed
  have fresh : ¬shotRight.sequence < runtime.state.lastSequence := by
    rw [sequence]
    exact Nat.not_lt_zero _
  have cooled : less (s.session.elapsedTime - runtime.lastFireTime) kFireCooldown = false := by
    rw [cold]
    exact cooled_lowest (clock.trans (by rw [ofRat_real, Rat.cast_zero]))
  obtain ⟨projectile, fired, taken⟩ := applyInput_shotRight present alive fresh cooled s.targetDelta
  rw [none, List.nil_append, ← bound] at fired
  rw [← bound] at taken
  let idle : WebSocketServer ℝ := s.update 0 fun session => { session with read := .idle }
  obtain ⟨items, handled⟩ := onRead_bound idle 0 shotFrame 0 (bound ▸ alice_named) taken
  have performed : perform (.readLoop 0 0) s = idle.onRead 0 session (some shotFrame) 0 := by
    rw [perform, found, Option.bind_some, handleReadLoop, waiting]
  exact ⟨items, _, performed.trans handled, ⟨projectile, fired⟩, two⟩

/-- `"alice"` and `"bob"` join, and `"alice"` shoots: the state before the next tick and the one after it. -/
theorem projectiles_bounded_shot : ∃ s s' : WebSocketServer ℝ, (∃ projectile, s.session.projectiles = [projectile]) ∧
    s.clients.size = 2 ∧ s' = (s.broadcastState 1 (1 / 60) fun _ => 0).2 ∧ FewProjectiles s ∧ FewProjectiles s' := by
  obtain ⟨trace, before, session, runtime, run, aimed⟩ := exists_aimed
  obtain ⟨items, s, performed, flying, two⟩ := aimed.shoots
  have shot := run.next ⟨.readLoop 0 0, advances_of_ne (by simp) _, performed⟩
  have forward : Advances (.broadcastState 1 (1 / 60) fun _ => 0) s := by
    intro tick deltaSeconds now same
    cases same
    norm_num
  have ticked := shot.next ⟨.broadcastState 1 (1 / 60) fun _ => 0, forward, rfl⟩
  exact ⟨s, _, flying, two, rfl, TimedRuns.projectiles_bounded shot, TimedRuns.projectiles_bounded ticked⟩

end WebSocketServer

end Arena60
