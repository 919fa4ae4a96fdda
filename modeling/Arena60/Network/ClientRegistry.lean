import Arena60.Game.Frames
import Arena60.Network.WebSocketServer

/-!
# Who is registered

A client holds the player of its first frame until it is closed. Between two handlers the
registry is the inverse of that relation, and the session, the queue and the observed joins
and leaves follow the set of registered players. Here is what `Stop` of a client and
`RegisterClient` do to this.
-/

namespace Arena60

open Misc

universe u v

/-! ## Reading a trace -/

section trace

variable {R : Type u}

/-- What an item says about the presence of a player. -/
def ServerItem.presence? (playerId : String) : ServerItem R → Option Bool
  | joined other _ => if other = playerId then some true else none
  | left other => if other = playerId then some false else none
  | _ => none

/-- Whether `GetPlayer` threw. -/
def ServerItem.isMiss : ServerItem R → Bool
  | missed _ => true
  | _ => false

/-- The joins and leaves of a player, newest first. -/
def presences (playerId : String) (trace : List (ServerItem R)) : List Bool :=
  trace.filterMap (ServerItem.presence? playerId)

/-- A list, newest first, that alternates and whose oldest element is true. -/
def Alternates : List Bool → Prop
  | [] => True
  | [oldest] => oldest = true
  | newest :: previous :: older => newest = !previous ∧ Alternates (previous :: older)

theorem Alternates.cons {calls : List Bool} (alternates : Alternates calls) {call : Bool}
    (turn : call = !calls.head?.getD false) : Alternates (call :: calls) := by
  cases calls with
  | nil => exact turn
  | cons previous older => exact ⟨turn, alternates⟩

/-- Items that are not about presence. -/
def Unnoticed (items : List (ServerItem R)) : Prop :=
  ∀ item ∈ items, (∀ playerId, item.presence? playerId = none) ∧ item.isMiss = false

theorem Unnoticed.nil : Unnoticed ([] : List (ServerItem R)) := nofun

theorem Unnoticed.append {first second : List (ServerItem R)} (quiet : Unnoticed first)
    (quiet' : Unnoticed second) : Unnoticed (first ++ second) := by
  intro item member
  rcases List.mem_append.mp member with here | there
  · exact quiet item here
  · exact quiet' item there

theorem Unnoticed.map {α : Type v} (l : List α) {f : α → ServerItem R}
    (quiet : ∀ a, (∀ playerId, (f a).presence? playerId = none) ∧ (f a).isMiss = false) :
    Unnoticed (l.map f) := by
  intro item member
  obtain ⟨a, -, rfl⟩ := List.mem_map.mp member
  exact quiet a

theorem Unnoticed.presences_eq {items : List (ServerItem R)} (quiet : Unnoticed items) (playerId : String)
    (trace : List (ServerItem R)) :
    presences playerId (items.reverse ++ trace) = presences playerId trace := by
  have silent : items.reverse.filterMap (ServerItem.presence? playerId) = [] := by
    rw [List.filterMap_eq_nil_iff]
    exact fun item member => (quiet item (List.mem_reverse.mp member)).1 playerId
  rw [presences, List.filterMap_append, silent, List.nil_append, presences]

end trace

variable {R : Type u}

/-! ## What follows the registered players -/

/-- A player waits with what `on_join` puts into its request. -/
structure QueuedPlayer.AsJoined (player : QueuedPlayer) : Prop where
  elo : player.elo = 1200
  region : player.request.preferredRegion = "global"

/-- The session, the queue and the trace know the same players to be present. -/
structure Served (present : String → Bool) (trace : List (ServerItem R)) (s : WebSocketServer R) :
    Prop where
  players : ∀ playerId, s.session.players.contains playerId = present playerId
  matchmaker : s.matchmaker.WellFormed
  queued : ∀ playerId player, s.matchmaker.queue.contents playerId = some player →
    present playerId = true ∧ player.AsJoined
  turns : ∀ playerId, Alternates (presences playerId trace)
  latest : ∀ playerId, (presences playerId trace).head?.getD false = present playerId
  answered : ∀ item ∈ trace, item.isMiss = false

namespace Served

variable {present : String → Bool} {trace items : List (ServerItem R)} {s s' : WebSocketServer R}

theorem quiet (served : Served present trace s) (quiet : Unnoticed items)
    (players : ∀ playerId, s'.session.players.contains playerId = s.session.players.contains playerId)
    (matchmaker : s'.matchmaker.WellFormed)
    (queued : ∀ playerId player, s'.matchmaker.queue.contents playerId = some player →
      s.matchmaker.queue.contents playerId = some player) : Served present (items.reverse ++ trace) s' := by
  constructor
  · intro playerId
    rw [players, served.players]
  · exact matchmaker
  · intro playerId player waits
    exact served.queued playerId player (queued playerId player waits)
  · intro playerId
    rw [quiet.presences_eq]
    exact served.turns playerId
  · intro playerId
    rw [quiet.presences_eq]
    exact served.latest playerId
  · intro item member
    rcases List.mem_append.mp member with new | old
    · exact (quiet item (List.mem_reverse.mp new)).2
    · exact served.answered item old

/-- The presence of one player changes, as is observed last. -/
theorem turn (served : Served present trace s) {playerId : String} {now : Bool}
    (change : present playerId = !now) (quiet : Unnoticed items) (item : ServerItem R)
    (about : ∀ other, item.presence? other = if playerId = other then some now else none)
    (calm : item.isMiss = false)
    (players : ∀ other, s'.session.players.contains other =
      if other = playerId then now else s.session.players.contains other)
    (matchmaker : s'.matchmaker.WellFormed)
    (queued : ∀ other player, s'.matchmaker.queue.contents other = some player →
      if other = playerId then now = true ∧ player.AsJoined
      else s.matchmaker.queue.contents other = some player) :
    Served (fun other => if other = playerId then now else present other)
      ((items ++ [item]).reverse ++ trace) s' := by
  have calls : ∀ other, presences other ((items ++ [item]).reverse ++ trace) =
      if other = playerId then now :: presences other trace else presences other trace := by
    intro other
    rw [List.reverse_append, List.append_assoc, List.reverse_singleton, List.singleton_append, presences,
      List.filterMap_cons, about, ← presences, quiet.presences_eq]
    by_cases asked : other = playerId
    · rw [if_pos asked.symm, if_pos asked]
    · rw [if_neg (Ne.symm asked), if_neg asked]
  constructor
  · intro other
    rw [players, served.players]
  · exact matchmaker
  · intro other player waits
    have before := queued other player waits
    by_cases asked : other = playerId
    · rw [if_pos asked] at before ⊢
      exact before
    · rw [if_neg asked] at before ⊢
      exact served.queued other player before
  · intro other
    rw [calls]
    by_cases asked : other = playerId
    · subst asked
      rw [if_pos rfl]
      refine (served.turns other).cons ?_
      rw [served.latest, change, Bool.not_not]
    · rw [if_neg asked]
      exact served.turns other
  · intro other
    rw [calls]
    by_cases asked : other = playerId
    · rw [if_pos asked, if_pos asked]
      rfl
    · rw [if_neg asked, if_neg asked]
      exact served.latest other
  · intro other member
    rcases List.mem_append.mp member with new | old
    · rcases List.mem_append.mp (List.mem_reverse.mp new) with quietly | last
      · exact (quiet other quietly).2
      · rw [List.mem_singleton.mp last]
        exact calm
    · exact served.answered other old

end Served

/-! ## The sessions of the clients -/

namespace ClientSession

/-- The player a client acts for. -/
def Holds (session : ClientSession R) (playerId : String) : Prop :=
  session.closed = false ∧ session.playerId = playerId ∧ playerId ≠ ""

/-- What holds of a session between two handlers. -/
structure Sound (session : ClientSession R) : Prop where
  handshake : session.accepting = true →
    session.closed = false ∧ session.playerId = "" ∧ session.read = .idle
  listening : session.closed = false → session.playerId ≠ "" → session.read ≠ .idle
  silent : session.playerId = "" → session.posted = [] ∧ session.writes.outstanding = []
  finished : session.closed = true → session.playerId = "" → session.read = .idle

/-- A session that may be closed. -/
structure Closable (session : ClientSession R) : Prop where
  accepted : session.accepting = false
  unbound : session.playerId = "" →
    session.read = .idle ∧ session.posted = [] ∧ session.writes.outstanding = []

/-- A session whose read is complete. -/
structure Reading (session : ClientSession R) : Prop where
  accepted : session.accepting = false
  unbound : session.playerId = "" →
    session.closed = false ∧ session.posted = [] ∧ session.writes.outstanding = []

theorem sound_new : (new : ClientSession R).Sound :=
  ⟨fun _ => ⟨rfl, rfl, rfl⟩, fun _ bound => absurd rfl bound, fun _ => ⟨rfl, rfl⟩, nofun⟩

theorem Closable.sound {session : ClientSession R} (closable : session.Closable) :
    ({ session with closed := true } : ClientSession R).Sound := by
  constructor
  · intro accepting
    rw [closable.accepted] at accepting
    cases accepting
  · intro opened
    cases opened
  · intro unbound
    exact (closable.unbound unbound).2
  · intro _ unbound
    exact (closable.unbound unbound).1

theorem Sound.reading {session : ClientSession R} (sound : session.Sound) (busy : session.read ≠ .idle) :
    session.Reading := by
  constructor
  · cases accepting : session.accepting with
    | false => rfl
    | true => exact absurd (sound.handshake accepting).2.2 busy
  · intro unbound
    refine ⟨?_, sound.silent unbound⟩
    cases closed : session.closed with
    | false => rfl
    | true => exact absurd (sound.finished closed unbound) busy

/-- The next read starts. -/
theorem Reading.sound {session : ClientSession R} (reading : session.Reading) :
    session.readLoop.Sound := by
  constructor
  · intro accepting
    cases accepting.symm.trans reading.accepted
  · intro _ _ idle
    cases idle
  · intro unbound
    exact (reading.unbound unbound).2
  · intro closed unbound
    cases closed.symm.trans (reading.unbound unbound).1

/-- A client that has registered may be closed. -/
theorem Sound.closable {session : ClientSession R} (sound : session.Sound)
    (bound : session.playerId ≠ "") : session.Closable := by
  constructor
  · cases accepting : session.accepting with
    | false => rfl
    | true => exact absurd (sound.handshake accepting).2.1 bound
  · intro unbound
    exact absurd unbound bound

/-- A client that holds a player is alive. -/
theorem Sound.held {session : ClientSession R} (sound : session.Sound) {playerId : String}
    (holds : session.Holds playerId) : session.held = true := by
  obtain ⟨opened, rfl, bound⟩ := holds
  have pending : session.read.isPending = true := by
    cases read : session.read with
    | idle => exact absurd read (sound.listening opened bound)
    | _ => rfl
  rw [ClientSession.held, pending]
  simp

end ClientSession

namespace WebSocketServer

/-- A client holds a player. -/
def Holds (s : WebSocketServer R) (client : Nat) (playerId : String) : Prop :=
  ∃ session, s.connections[client]? = some session ∧ session.Holds playerId

/-- The sessions of all clients but one are sound. -/
def SoundBut (s : WebSocketServer R) (client : Nat) : Prop :=
  ∀ other session, other ≠ client → s.connections[other]? = some session → session.Sound

variable {s : WebSocketServer R} {client : Nat} {session : ClientSession R}

theorem update_getElem? (f : ClientSession R → ClientSession R) (other : Nat) :
    (s.update client f).connections[other]? =
      if client = other then s.connections[other]?.map f else s.connections[other]? := by
  rw [update, List.getElem?_modify]
  by_cases asked : client = other
  · rw [if_pos asked]
    cases s.connections[other]? with
    | none => rfl
    | some session => exact congrArg some (if_pos asked)
  · rw [if_neg asked]
    cases s.connections[other]? with
    | none => rfl
    | some session => exact congrArg some (if_neg asked)

theorem update_self (found : s.connections[client]? = some session)
    (f : ClientSession R → ClientSession R) :
    (s.update client f).connections[client]? = some (f session) := by
  rw [update_getElem?, if_pos rfl, found, Option.map_some]

theorem update_other (f : ClientSession R → ClientSession R) {other : Nat} (apart : other ≠ client) :
    (s.update client f).connections[other]? = s.connections[other]? := by
  rw [update_getElem?, if_neg (Ne.symm apart)]

theorem holds_of_found (found : s.connections[client]? = some session) (playerId : String) :
    s.Holds client playerId ↔ session.Holds playerId := by
  constructor
  · intro holds
    obtain ⟨other, same, held⟩ := holds
    cases found.symm.trans same
    exact held
  · intro holds
    exact ⟨session, found, holds⟩

/-- What the other clients hold does not depend on one session. -/
theorem holds_update_other (f : ClientSession R → ClientSession R) {other : Nat} (apart : other ≠ client)
    (playerId : String) : (s.update client f).Holds other playerId ↔ s.Holds other playerId := by
  rw [Holds, update_other f apart, Holds]

/-- A change of a session that keeps who it is and whether it is open. -/
theorem holds_update_same {f : ClientSession R → ClientSession R}
    (same : ∀ session, (f session).playerId = session.playerId ∧ (f session).closed = session.closed)
    (other : Nat) (playerId : String) :
    (s.update client f).Holds other playerId ↔ s.Holds other playerId := by
  by_cases asked : other = client
  · subst asked
    cases found : s.connections[other]? with
    | none =>
        have missing : (s.update other f).connections[other]? = none := by
          rw [update_getElem?, if_pos rfl, found, Option.map_none]
        rw [Holds, Holds, missing, found]
    | some session =>
        rw [holds_of_found (update_self found f), holds_of_found found, ClientSession.Holds,
          ClientSession.Holds, (same session).1, (same session).2]
  · exact holds_update_other f asked playerId

theorem SoundBut.update (sound : s.SoundBut client) (f : ClientSession R → ClientSession R) :
    (s.update client f).SoundBut client := by
  intro other session apart found
  rw [update_other f apart] at found
  exact sound other session apart found

theorem holds_close (found : s.connections[client]? = some session) (other : Nat) (playerId : String) :
    (s.update client fun session => { session with closed := true }).Holds other playerId ↔
      other ≠ client ∧ s.Holds other playerId := by
  by_cases asked : other = client
  · subst asked
    rw [holds_of_found (update_self found _)]
    constructor
    · intro holds
      cases holds.1
    · intro both
      exact absurd rfl both.1
  · rw [holds_update_other _ asked]
    exact (and_iff_right asked).symm

/-! ## The registry -/

variable {holds : Nat → String → Prop} {trace items : List (ServerItem R)} {s' : WebSocketServer R}
  {playerId : String}

/-- The registry is the inverse of what the clients hold, and everything else follows it. -/
structure Registered (holds : Nat → String → Prop) (trace : List (ServerItem R)) (s : WebSocketServer R) :
    Prop where
  clients : ∀ playerId client, s.clients.find playerId = some client ↔ holds client playerId
  served : Served s.clients.contains trace s

theorem Registered.congr (registered : Registered holds trace s) {holds' : Nat → String → Prop}
    (same : ∀ client playerId, holds client playerId ↔ holds' client playerId) :
    Registered holds' trace s :=
  ⟨fun playerId client => (registered.clients playerId client).trans (same client playerId),
    registered.served⟩

/-- A handler that leaves the registry alone. -/
theorem Registered.quiet (registered : Registered holds trace s) (quiet : Unnoticed items)
    (clients : s'.clients = s.clients)
    (players : ∀ playerId, s'.session.players.contains playerId = s.session.players.contains playerId)
    (matchmaker : s'.matchmaker = s.matchmaker) : Registered holds (items.reverse ++ trace) s' := by
  have served := registered.served
  constructor
  · intro playerId client
    rw [clients]
    exact registered.clients playerId client
  · rw [clients]
    refine served.quiet quiet players ?_ ?_
    · rw [matchmaker]
      exact served.matchmaker
    · intro playerId player
      rw [matchmaker]
      exact id

/-- Changes of anything else. -/
theorem Registered.still (registered : Registered holds trace s) (clients : s'.clients = s.clients)
    (session : s'.session = s.session) (matchmaker : s'.matchmaker = s.matchmaker) :
    Registered holds trace s' := by
  have players : ∀ playerId, s'.session.players.contains playerId =
      s.session.players.contains playerId := by
    intro playerId
    rw [session]
  exact registered.quiet Unnoticed.nil clients players matchmaker

theorem Registered.contains (registered : Registered holds trace s) {client : Nat}
    (held : holds client playerId) : s.clients.contains playerId = true := by
  rw [UnorderedMap.contains, (registered.clients playerId client).mpr held]
  rfl

theorem Registered.unique (registered : Registered holds trace s) {client other : Nat}
    (held : holds client playerId) (held' : holds other playerId) : client = other := by
  have found := (registered.clients playerId client).mpr held
  have found' := (registered.clients playerId other).mpr held'
  exact Option.some.inj (found.symm.trans found')

theorem unregisterClient_find (s : WebSocketServer R) (playerId other : String) :
    (s.unregisterClient playerId).2.clients.find other =
      if other = playerId then none else s.clients.find other := by
  unfold unregisterClient
  by_cases here : s.clients.contains playerId = true
  · simp only [if_pos here]
    exact s.clients.find_erase playerId other
  · simp only [if_neg here]
    by_cases asked : other = playerId
    · subst asked
      rw [if_pos rfl]
      simpa [UnorderedMap.contains] using here
    · rw [if_neg asked]

theorem unregisterClient_connections (s : WebSocketServer R) (playerId : String) :
    (s.unregisterClient playerId).2.connections = s.connections := by
  unfold unregisterClient
  dsimp only
  split <;> rfl

/-- `UnregisterClient` of a player that is present. -/
theorem unregisterClient_served {present : String → Bool} (served : Served present trace s)
    (here : present playerId = true) :
    Served (fun other => if other = playerId then false else present other)
      ((s.unregisterClient playerId).1.reverse ++ trace) (s.unregisterClient playerId).2 := by
  have parts : (s.unregisterClient playerId).2.session = s.session.removePlayer playerId ∧
      (s.unregisterClient playerId).2.matchmaker = (s.matchmaker.cancel playerId).2 ∧
      (s.unregisterClient playerId).1 =
        (SessionItem.removed playerId :: s.session.droppedItems playerId).map .inSession ++
          [.left playerId] := by
    unfold unregisterClient
    dsimp only
    split <;> exact ⟨rfl, rfl, rfl⟩
  obtain ⟨session, matchmaker, observed⟩ := parts
  rw [observed]
  have quiet : Unnoticed ((SessionItem.removed playerId :: s.session.droppedItems playerId).map
      (ServerItem.inSession (R := R))) := Unnoticed.map _ fun _ => ⟨fun _ => rfl, rfl⟩
  refine served.turn here quiet (.left playerId) (fun _ => rfl) rfl ?_ ?_ ?_
  · intro other
    rw [session, GameSession.removePlayer, UnorderedMap.contains_erase]
    by_cases asked : other = playerId <;> simp [asked]
  · rw [matchmaker]
    exact Matchmaker.wellFormed_cancel served.matchmaker playerId
  · intro other player waits
    rw [matchmaker, Matchmaker.cancel, served.matchmaker.coherent.contents_remove] at waits
    by_cases asked : other = playerId
    · rw [if_pos asked] at waits
      cases waits
    · rw [if_neg asked] at waits ⊢
      exact waits

/-- `UnregisterClient` of a player that a client holds. -/
theorem Registered.unregisterClient (registered : Registered holds trace s)
    (held : holds client playerId) (only : ∀ other, holds client other → other = playerId) :
    Registered (fun other player => other ≠ client ∧ holds other player)
      ((s.unregisterClient playerId).1.reverse ++ trace) (s.unregisterClient playerId).2 := by
  have present : ∀ other, (s.unregisterClient playerId).2.clients.contains other =
      if other = playerId then false else s.clients.contains other := by
    intro other
    rw [UnorderedMap.contains, unregisterClient_find]
    split <;> rfl
  constructor
  · intro other client'
    rw [unregisterClient_find]
    by_cases asked : other = playerId
    · subst asked
      rw [if_pos rfl]
      constructor
      · intro found
        cases found
      · intro both
        exact absurd (registered.unique both.2 held) both.1
    · rw [if_neg asked, registered.clients]
      constructor
      · intro holds'
        refine ⟨?_, holds'⟩
        intro same
        subst same
        exact asked (only other holds')
      · exact fun both => both.2
  · rw [funext present]
    exact unregisterClient_served registered.served (registered.contains held)

/-! ## Between two handlers -/

/-- What holds of the server between two handlers. -/
structure Settled (trace : List (ServerItem R)) (s : WebSocketServer R) : Prop where
  sound : ∀ (client : Nat) (session : ClientSession R),
    s.connections[client]? = some session → session.Sound
  registered : Registered s.Holds trace s

theorem Settled.but (settled : Settled trace s) (client : Nat) : s.SoundBut client :=
  fun other session _ found => settled.sound other session found

theorem Registered.update (registered : Registered s.Holds trace s) (client : Nat)
    {f : ClientSession R → ClientSession R}
    (same : ∀ session, (f session).playerId = session.playerId ∧ (f session).closed = session.closed) :
    Registered (s.update client f).Holds trace (s.update client f) := by
  have updated : Registered s.Holds trace (s.update client f) := registered.still rfl rfl rfl
  exact updated.congr fun other playerId => (holds_update_same same other playerId).symm

/-- The session of a handler is sound again. -/
theorem Registered.settle (registered : Registered s.Holds trace s) (sound : s.SoundBut client)
    (found : s.connections[client]? = some session) {f : ClientSession R → ClientSession R}
    (same : ∀ session, (f session).playerId = session.playerId ∧ (f session).closed = session.closed)
    (after : (f session).Sound) : Settled trace (s.update client f) := by
  constructor
  · intro other session' found'
    by_cases asked : other = client
    · subst asked
      cases (update_self found f).symm.trans found'
      exact after
    · exact sound.update f other session' asked found'
  · exact registered.update client same

/-- A handler that changes one session only. -/
theorem Settled.update (settled : Settled trace s) (found : s.connections[client]? = some session)
    {f : ClientSession R → ClientSession R}
    (same : ∀ session, (f session).playerId = session.playerId ∧ (f session).closed = session.closed)
    (after : (f session).Sound) : Settled trace (s.update client f) :=
  settled.registered.settle (settled.but client) found same after

/-- A handler that changes neither the clients nor the registry. -/
theorem Settled.quiet (settled : Settled trace s) (quiet : Unnoticed items)
    (connections : s'.connections = s.connections) (clients : s'.clients = s.clients)
    (players : ∀ playerId, s'.session.players.contains playerId = s.session.players.contains playerId)
    (matchmaker : s'.matchmaker = s.matchmaker) : Settled (items.reverse ++ trace) s' := by
  constructor
  · rw [connections]
    exact settled.sound
  · have same : s'.Holds = s.Holds := by
      unfold Holds
      rw [connections]
    rw [same]
    exact settled.registered.quiet quiet clients players matchmaker

/-! ## Stopping a client -/

/-- A client that holds a player gives it up. -/
theorem stopClient_holder (held : s.Holds client playerId) : s.stopClient client =
    (s.update client fun session => { session with closed := true }).unregisterClient playerId := by
  obtain ⟨session, found, opened, named, bound⟩ := held
  rw [WebSocketServer.stopClient, found]
  dsimp only
  rw [opened, named, if_neg Bool.false_ne_true, if_pos bound]

theorem stopClient_connections (held : s.Holds client playerId) : (s.stopClient client).2.connections =
    (s.update client fun session => { session with closed := true }).connections := by
  rw [stopClient_holder held, unregisterClient_connections]

theorem holds_stopClient (held : s.Holds client playerId) (other : Nat) (player : String) :
    (s.stopClient client).2.Holds other player ↔ other ≠ client ∧ s.Holds other player := by
  have ⟨session, found, _⟩ := held
  rw [← holds_close found, Holds, stopClient_connections held, Holds]

/-- A session that was sound is sound after a client that holds a player is stopped. -/
theorem sound_stopClient (held : s.Holds client playerId) {other : Nat} {session' : ClientSession R}
    (sound : ∀ session, s.connections[other]? = some session → session.Sound)
    (found' : (s.stopClient client).2.connections[other]? = some session') : session'.Sound := by
  obtain ⟨session, found, opened, named, bound⟩ := held
  rw [stopClient_connections ⟨session, found, opened, named, bound⟩] at found'
  by_cases asked : other = client
  · subst asked
    cases (update_self found _).symm.trans found'
    exact ((sound session found).closable fun empty => bound (named.symm.trans empty)).sound
  · rw [update_other _ asked] at found'
    exact sound session' found'

theorem Registered.stopHolder (registered : Registered holds trace s) (held : s.Holds client playerId)
    (held' : holds client playerId) (only : ∀ other, holds client other → other = playerId) :
    Registered (fun other player => other ≠ client ∧ holds other player)
      ((s.stopClient client).1.reverse ++ trace) (s.stopClient client).2 := by
  have closed : Registered holds trace (s.update client fun session => { session with closed := true }) :=
    registered.still rfl rfl rfl
  rw [stopClient_holder held]
  exact closed.unregisterClient held' only

theorem holds_unique {other : String} (held : s.Holds client playerId) (held' : s.Holds client other) :
    other = playerId := by
  obtain ⟨session, found, -, same, -⟩ := held
  obtain ⟨session', found', -, same', -⟩ := held'
  cases found.symm.trans found'
  exact same'.symm.trans same

/-- `Stop` of a client. -/
theorem Registered.stopClient (registered : Registered s.Holds trace s) (sound : s.SoundBut client)
    (found : s.connections[client]? = some session) (closable : session.Closable) :
    Settled ((s.stopClient client).1.reverse ++ trace) (s.stopClient client).2 := by
  let closing := fun session : ClientSession R => { session with closed := true }
  have allSound : ∀ (other : Nat) (session' : ClientSession R),
      (s.update client closing).connections[other]? = some session' → session'.Sound := by
    intro other session' found'
    by_cases asked : other = client
    · subst asked
      cases (update_self found closing).symm.trans found'
      exact closable.sound
    · exact sound.update closing other session' asked found'
  by_cases closed : session.closed = true
  · -- it has been stopped before
    have same : session = { session with closed := true } := by
      rw [← closed]
    have nothing : s.stopClient client = ([], s) := by
      rw [WebSocketServer.stopClient, found]
      exact if_pos closed
    rw [nothing]
    refine ⟨?_, registered⟩
    intro other session' found'
    by_cases asked : other = client
    · subst asked
      cases found.symm.trans found'
      rw [same]
      exact closable.sound
    · exact sound other session' asked found'
  · by_cases bound : session.playerId = ""
    · have silent : s.stopClient client = ([], s.update client closing) := by
        rw [WebSocketServer.stopClient, found]
        dsimp only
        rw [if_neg closed, if_neg (not_not.mpr bound)]
      have updated : Registered s.Holds trace (s.update client closing) := registered.still rfl rfl rfl
      rw [silent]
      refine ⟨allSound, updated.congr ?_⟩
      intro other playerId
      rw [holds_close found]
      constructor
      · intro held
        refine ⟨?_, held⟩
        intro same
        subst same
        obtain ⟨-, named, nonempty⟩ := (holds_of_found found playerId).mp held
        exact nonempty (named.symm.trans bound)
      · exact fun both => both.2
    · have held : s.Holds client session.playerId :=
        (holds_of_found found _).mpr ⟨Bool.eq_false_of_not_eq_true closed, rfl, bound⟩
      have stopped := registered.stopHolder held held fun _ => holds_unique held
      refine ⟨?_, stopped.congr fun other player => (holds_stopClient held other player).symm⟩
      rw [stopClient_connections held]
      exact allSound

/-! ## The first frame of a client -/

variable [DoubleConversions R]

/-- The part of `RegisterClient` after the client registered before is stopped. -/
theorem Registered.join (registered : Registered holds trace s) (vacant : ∀ other, ¬holds other playerId)
    (client : Nat) (now : Int) (s' : WebSocketServer R)
    (clients : s'.clients = s.clients.upsert playerId client fun _ => client)
    (session : s'.session = s.session.upsertPlayer playerId)
    (matchmaker : s'.matchmaker = s.matchmaker.enqueue { playerId, elo := 1200, enqueuedAt := now })
    (fresh : Bool) (rating : Int) :
    Registered (fun other player => holds other player ∨ other = client ∧ player = playerId)
      (([ServerItem.inSession (.upserted playerId fresh)] ++ [ServerItem.joined playerId rating]).reverse ++ trace)
      s' := by
  have served := registered.served
  have absent : s.clients.contains playerId = false := by
    rw [Bool.eq_false_iff]
    intro here
    obtain ⟨other, found⟩ := Option.isSome_iff_exists.mp here
    exact vacant other ((registered.clients playerId other).mp found)
  have present : ∀ other, s'.clients.contains other =
      if other = playerId then true else s.clients.contains other := by
    intro other
    rw [clients, UnorderedMap.contains_upsert]
    by_cases asked : other = playerId <;> simp [asked]
  constructor
  · intro other client'
    rw [clients, UnorderedMap.find_upsert]
    by_cases asked : other = playerId
    · subst asked
      rw [if_pos rfl]
      constructor
      · intro same
        exact Or.inr ⟨(Option.some.inj same).symm, rfl⟩
      · intro either
        rcases either with held | both
        · exact absurd held (vacant client')
        · rw [both.1]
    · rw [if_neg asked, registered.clients]
      constructor
      · exact Or.inl
      · intro either
        rcases either with held | both
        · exact held
        · exact absurd both.2 asked
  · rw [funext present]
    have quiet : Unnoticed [ServerItem.inSession (R := R) (.upserted playerId fresh)] :=
      Unnoticed.map [SessionItem.upserted playerId fresh] fun _ => ⟨fun _ => rfl, rfl⟩
    refine served.turn absent quiet (.joined playerId rating) (fun _ => rfl) rfl ?_ ?_ ?_
    · intro other
      rw [session, GameSession.upsertPlayer, UnorderedMap.contains_upsert]
      by_cases asked : other = playerId <;> simp [asked]
    · rw [matchmaker]
      exact Matchmaker.wellFormed_enqueue served.matchmaker _
    · intro other player waits
      rw [matchmaker, Matchmaker.enqueue,
        served.matchmaker.coherent.contents_upsert _ _ served.matchmaker.unused] at waits
      by_cases asked : other = playerId
      · rw [if_pos asked] at waits ⊢
        cases waits
        exact ⟨rfl, rfl, rfl⟩
      · rw [if_neg asked] at waits ⊢
        exact waits

omit [DoubleConversions R] in
/-- The first frame of a client makes it hold a player. -/
theorem holds_bind (found : s.connections[client]? = some session) (opened : session.closed = false)
    (unbound : session.playerId = "") (named : playerId ≠ "") (other : Nat) (player : String) :
    (s.update client fun session => { session with playerId }).Holds other player ↔
      s.Holds other player ∨ other = client ∧ player = playerId := by
  by_cases asked : other = client
  · subst asked
    rw [holds_of_found (update_self found _), holds_of_found found]
    constructor
    · intro held
      exact Or.inr ⟨rfl, held.2.1.symm⟩
    · intro either
      rcases either with held | same
      · exact absurd (held.2.1.symm.trans unbound) held.2.2
      · rw [same.2]
        exact ⟨opened, rfl, named⟩
  · rw [holds_update_other _ asked]
    constructor
    · exact Or.inl
    · intro either
      rcases either with held | same
      · exact held
      · exact absurd same.1 asked

omit [DoubleConversions R] in
/-- The client registered before is stopped while the new one is bound already. -/
theorem Registered.stopPrevious (registered : Registered s.Holds trace s) (sound : s.SoundBut client)
    (found : s.connections[client]? = some session) (opened : session.closed = false)
    (unbound : session.playerId = "") (named : playerId ≠ "") {bound : WebSocketServer R}
    (binding : bound = s.update client fun session => { session with playerId }) :
    Registered (fun other player => s.Holds other player ∧ player ≠ playerId)
      ((bound.stopPrevious playerId).1.reverse ++ trace) (bound.stopPrevious playerId).2 ∧
    (bound.stopPrevious playerId).2.SoundBut client ∧
    (bound.stopPrevious playerId).2.connections[client]? = some { session with playerId } ∧
    ∀ other player, (bound.stopPrevious playerId).2.Holds other player ↔
      s.Holds other player ∧ player ≠ playerId ∨ other = client ∧ player = playerId := by
  subst binding
  let binding := fun session : ClientSession R => { session with playerId }
  have clients : (s.update client binding).clients = s.clients := rfl
  have bindingHolds := holds_bind found opened unbound named
  cases before : s.clients.find playerId with
  | none =>
      have nobody : ∀ other, ¬s.Holds other playerId := by
        intro other held
        rw [(registered.clients playerId other).mpr held] at before
        cases before
      have apart : ∀ other player, s.Holds other player → player ≠ playerId := by
        intro other player held same
        subst same
        exact nobody other held
      have updated : Registered s.Holds trace (s.update client binding) :=
        registered.still rfl rfl rfl
      rw [WebSocketServer.stopPrevious, clients, before]
      refine ⟨updated.congr ?_, sound.update binding, update_self found binding, ?_⟩
      · intro other player
        exact ⟨fun held => ⟨held, apart other player held⟩, fun both => both.1⟩
      · intro other player
        rw [bindingHolds]
        constructor
        · intro either
          exact either.imp_left fun held => ⟨held, apart other player held⟩
        · intro either
          exact either.imp_left fun both => both.1
  | some previous =>
      have held : s.Holds previous playerId := (registered.clients playerId previous).mp before
      have differs : previous ≠ client := by
        intro same
        subst same
        obtain ⟨-, same, nonempty⟩ := (holds_of_found found playerId).mp held
        exact nonempty (same.symm.trans unbound)
      have held' : (s.update client binding).Holds previous playerId :=
        (holds_update_other binding differs playerId).mpr held
      have ⟨old, oldFound, oldHolds⟩ := held'
      have oldSound : old.Sound := sound.update binding previous old differs oldFound
      have locked : (s.update client binding).locks previous = true := by
        rw [WebSocketServer.locks, oldFound]
        exact oldSound.held oldHolds
      have stops : (s.update client binding).stopPrevious playerId =
          (s.update client binding).stopClient previous := by
        rw [WebSocketServer.stopPrevious, clients, before]
        exact if_pos locked
      have updated : Registered s.Holds trace (s.update client binding) := registered.still rfl rfl rfl
      have apart : ∀ other player, other ≠ previous ∧ s.Holds other player ↔
          s.Holds other player ∧ player ≠ playerId := by
        intro other player
        constructor
        · intro both
          refine ⟨both.2, ?_⟩
          intro same
          subst same
          exact both.1 (registered.unique both.2 held)
        · intro both
          refine ⟨?_, both.1⟩
          intro same
          subst same
          exact both.2 (holds_unique held both.1)
      rw [stops]
      refine ⟨(updated.stopHolder held' held fun _ => holds_unique held).congr apart, ?_, ?_, ?_⟩
      · intro other session' differs' found'
        exact sound_stopClient held' (fun session found => sound.update binding other session differs' found)
          found'
      · rw [stopClient_connections held', update_other _ (Ne.symm differs)]
        exact update_self found binding
      · intro other player
        rw [holds_stopClient held', bindingHolds, ← apart, and_or_left]
        refine or_congr_right ?_
        constructor
        · exact fun both => both.2
        · intro both
          refine ⟨?_, both⟩
          rw [both.1]
          exact Ne.symm differs

/-- `RegisterClient` by a client that has just been bound. -/
theorem Registered.registerClient (registered : Registered s.Holds trace s) (sound : s.SoundBut client)
    (found : s.connections[client]? = some session) (opened : session.closed = false)
    (unbound : session.playerId = "") (named : playerId ≠ "") (now : Int) {bound : WebSocketServer R}
    (binding : bound = s.update client fun session => { session with playerId }) :
    Registered (bound.registerClient playerId client now).2.Holds
      ((bound.registerClient playerId client now).1.reverse ++ trace)
      (bound.registerClient playerId client now).2 ∧
    (bound.registerClient playerId client now).2.SoundBut client ∧
    (bound.registerClient playerId client now).2.connections[client]? =
      some { session with playerId } := by
  obtain ⟨vacated, stillSound, stillFound, holding⟩ :=
    registered.stopPrevious sound found opened unbound named binding
  have vacant : ∀ other, ¬(s.Holds other playerId ∧ playerId ≠ playerId) := fun other both => both.2 rfl
  have joined := vacated.join vacant client now (bound.registerClient playerId client now).2 rfl rfl rfl
    (!(bound.stopPrevious playerId).2.session.players.contains playerId)
    ((bound.stopPrevious playerId).2.profiles.ratingOf playerId)
  refine ⟨?_, stillSound, stillFound⟩
  have items : (bound.registerClient playerId client now).1.reverse ++ trace =
      ([ServerItem.inSession (.upserted playerId
          (!(bound.stopPrevious playerId).2.session.players.contains playerId))] ++
        [ServerItem.joined playerId
          ((bound.stopPrevious playerId).2.profiles.ratingOf playerId)]).reverse ++
      ((bound.stopPrevious playerId).1.reverse ++ trace) := by
    rw [← List.append_assoc, ← List.reverse_append]
    rfl
  rw [items]
  exact joined.congr fun other player => (holding other player).symm

end WebSocketServer

end Arena60
