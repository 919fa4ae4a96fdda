import Arena60.Matchmaking.Conservation
import Arena60.Matchmaking.QueueRuns
import Arena60.Matchmaking.Waiting
import Arena60.Network.QueueEvents
import Arena60.Network.RatedMatching
import Arena60.Network.StateStream

/-!
# The lobby

Joins put players into the queue of the matchmaker, leaves and matches take them out. What is
observed of a run therefore tells who is waiting, and the books of joins, matches and withdrawals
balance for every player.
-/

namespace Arena60

open Misc

universe u v

/-! ## Reading a trace -/

section trace

variable {R : Type u}

/-- The player leaves or is matched. -/
def ServerItem.endsWaitOf (playerId : String) : ServerItem R → Bool
  | left other => other == playerId
  | ran call => call.made.any fun created => decide (playerId ∈ created.players)
  | _ => false

/-- The player has joined, and neither left nor been matched since. -/
def Waits (playerId : String) (trace : List (ServerItem R)) : Prop :=
  Standing (fun item => item.isJoinOf playerId = true) (fun item => item.endsWaitOf playerId = true) trace

instance (playerId : String) (trace : List (ServerItem R)) : Decidable (Waits playerId trace) := by
  unfold Waits
  infer_instance

theorem waits_joined (playerId other : String) (rating : Int) (older : List (ServerItem R)) :
    Waits playerId (.joined other rating :: older) ↔ other = playerId ∨ Waits playerId older := by
  have opens : (ServerItem.joined (R := R) other rating).isJoinOf playerId = true ↔ other = playerId :=
    beq_iff_eq
  rw [Waits, standing_cons, opens, ← Waits]
  exact or_congr_right (and_iff_right nofun)

theorem waits_left (playerId other : String) (older : List (ServerItem R)) :
    Waits playerId (.left other :: older) ↔ other ≠ playerId ∧ Waits playerId older := by
  have closes : (ServerItem.left (R := R) other).endsWaitOf playerId = true ↔ other = playerId := beq_iff_eq
  rw [Waits, standing_cons, closes, ← Waits]
  exact or_iff_right nofun

theorem waits_ran (playerId : String) (call : MatchingCall) (older : List (ServerItem R)) :
    Waits playerId (.ran call :: older) ↔
      (∀ created ∈ call.made, playerId ∉ created.players) ∧ Waits playerId older := by
  have closes : (ServerItem.ran (R := R) call).endsWaitOf playerId = true ↔
      ∃ created ∈ call.made, playerId ∈ created.players := by
    simp [ServerItem.endsWaitOf]
  rw [Waits, standing_cons, closes, ← Waits]
  push Not
  exact or_iff_right nofun

/-- How often a player joined. -/
def joinsOf (playerId : String) (trace : List (ServerItem R)) : Nat :=
  trace.countP (ServerItem.isJoinOf playerId)

/-- The matches that an item reports. -/
def ServerItem.made : ServerItem R → List Match
  | ran call => call.made
  | _ => []

/-- How many matches a player was put into. -/
def matchesFor (playerId : String) (trace : List (ServerItem R)) : Nat :=
  (trace.flatMap ServerItem.made).countP fun created => playerId ∈ created.players

/-- How often a player left while it was waiting. -/
def withdrawals (playerId : String) : List (ServerItem R) → Nat
  | [] => 0
  | .left other :: older =>
      withdrawals playerId older + if other = playerId ∧ Waits playerId older then 1 else 0
  | _ :: older => withdrawals playerId older

theorem Waits.older {playerId : String} {item : ServerItem R} {older : List (ServerItem R)}
    (waits : Waits playerId (item :: older)) (unjoined : item.isJoinOf playerId = false) :
    Waits playerId older := by
  rw [Waits, standing_cons, unjoined] at waits
  exact (waits.resolve_left Bool.false_ne_true).2

theorem Waits.newer {playerId : String} {item : ServerItem R} {older : List (ServerItem R)}
    (waits : Waits playerId older) (goesOn : item.endsWaitOf playerId = false) :
    Waits playerId (item :: older) := by
  rw [Waits, standing_cons, goesOn]
  exact Or.inr ⟨Bool.false_ne_true, waits⟩

/-- The player of a join. -/
def ServerItem.joiner? : ServerItem R → Option String
  | joined playerId _ => some playerId
  | _ => none

def ServerItem.isPass : ServerItem R → Bool
  | ran _ => true
  | _ => false

/-- The players that have joined since the last pass of the matchmaker, newest first and once for each join. -/
def newcomers (trace : List (ServerItem R)) : List String :=
  (since ServerItem.isPass trace).filterMap ServerItem.joiner?

theorem Idle.waits {items : List (ServerItem R)} (idle : Idle items) (playerId : String)
    (trace : List (ServerItem R)) : Waits playerId (items.reverse ++ trace) ↔ Waits playerId trace := by
  refine standing_append trace fun item member => ?_
  have quiet := idle item (List.mem_reverse.mp member)
  cases item with
  | wired _ | applied _ | enqueued _ _ | missed _ => exact ⟨Bool.false_ne_true, Bool.false_ne_true⟩
  | joined _ _ | left _ | ran _ => cases quiet

end trace

namespace WebSocketServer

variable {R : Type u} {s s' : WebSocketServer R} {items trace : List (ServerItem R)}

/-! ## The queue of a run -/

/-- Those wait in the queue of whom the trace says so. -/
structure Lobby (trace : List (ServerItem R)) (m : Matchmaker R) : Prop where
  wellFormed : m.WellFormed
  waiting : ∀ playerId, m.queue.holds playerId = true ↔ Waits playerId trace

variable {m : Matchmaker R}

theorem Lobby.holds_eq (lobby : Lobby trace m) (playerId : String) :
    m.queue.holds playerId = decide (Waits playerId trace) := by
  rw [Bool.eq_iff_iff, decide_eq_true_iff]
  exact lobby.waiting playerId

theorem holds_cancel (wellFormed : m.WellFormed) (playerId other : String) :
    (m.cancel playerId).2.queue.holds other = if other = playerId then false else m.queue.holds other := by
  change ((m.queue.remove playerId).2.contents other).isSome = _
  rw [wellFormed.coherent.contents_remove playerId other]
  by_cases asked : other = playerId
  · rw [if_pos asked, if_pos asked]
    rfl
  · rw [if_neg asked, if_neg asked]
    rfl

theorem holds_enqueue (wellFormed : m.WellFormed) (request : MatchRequest) (other : String) :
    (m.enqueue request).queue.holds other = if other = request.playerId then true else m.queue.holds other := by
  change ((m.queue.upsert request _).contents other).isSome = _
  rw [wellFormed.coherent.contents_upsert request (m.orderCounter + 1) wellFormed.unused other]
  by_cases asked : other = request.playerId
  · rw [if_pos asked, if_pos asked]
    rfl
  · rw [if_neg asked, if_neg asked]
    rfl

theorem Lobby.cancel (lobby : Lobby trace m) (playerId : String) :
    Lobby (.left playerId :: trace) (m.cancel playerId).2 := by
  refine ⟨Matchmaker.wellFormed_cancel lobby.wellFormed playerId, ?_⟩
  intro other
  rw [waits_left, ← lobby.waiting other, holds_cancel lobby.wellFormed]
  by_cases asked : other = playerId
  · simp [asked]
  · rw [if_neg asked]
    exact (and_iff_right (Ne.symm asked)).symm

theorem Lobby.enqueue (lobby : Lobby trace m) (request : MatchRequest) (rating : Int) :
    Lobby (.joined request.playerId rating :: trace) (m.enqueue request) := by
  refine ⟨Matchmaker.wellFormed_enqueue lobby.wellFormed request, ?_⟩
  intro other
  rw [waits_joined, ← lobby.waiting other, holds_enqueue lobby.wellFormed]
  by_cases asked : other = request.playerId
  · simp [asked]
  · rw [if_neg asked]
    exact (or_iff_right (Ne.symm asked)).symm

variable [DoubleConversions R]

/-- A pass takes out whom it matches, and each of them was waiting. -/
theorem Lobby.pass (lobby : Lobby trace m) (now : Int) (playerId : String) :
    (m.queue.holds playerId).toNat =
      (m.runMatching now).2.countP (fun created => playerId ∈ created.players) +
        ((m.runMatching now).1.queue.holds playerId).toNat := by
  rw [Matchmaker.runMatching_made, Matchmaker.runMatching_queue]
  exact holds_runMatchingLocked lobby.wellFormed.coherent now playerId

theorem Lobby.runMatching (lobby : Lobby trace m) (now : Int) :
    Lobby (.ran ⟨m.queue, now, (m.runMatching now).2⟩ :: trace) (m.runMatching now).1.drain.2 := by
  have wellFormed := Matchmaker.wellFormed_runMatching lobby.wellFormed now
  refine ⟨⟨wellFormed.coherent, wellFormed.issued⟩, ?_⟩
  intro playerId
  have before := lobby.waiting playerId
  have pass := lobby.pass now playerId
  have queue : (m.runMatching now).1.drain.2.queue = (m.runMatching now).1.queue := rfl
  rw [queue, waits_ran, ← before]
  by_cases unmatched : ∀ created ∈ (m.runMatching now).2, playerId ∉ created.players
  · have none : (m.runMatching now).2.countP (fun created => playerId ∈ created.players) = 0 := by
      rw [List.countP_eq_zero]
      simpa using unmatched
    rw [none, Nat.zero_add] at pass
    rw [and_iff_right unmatched, ← Bool.toNat_eq_one, ← pass, Bool.toNat_eq_one]
  · have some : 0 < (m.runMatching now).2.countP fun created => playerId ∈ created.players := by
      rw [List.countP_pos_iff]
      simpa using unmatched
    have most := Bool.toNat_le (m.queue.holds playerId)
    have gone : (m.runMatching now).1.queue.holds playerId = false := by
      rw [← Bool.toNat_eq_zero]
      omega
    rw [gone]
    exact ⟨nofun, fun both => absurd both.1 unmatched⟩

theorem lobby_invariant : QueueInvariant (R := R) Lobby where
  idle idle lobby :=
    ⟨lobby.wellFormed, fun playerId => (lobby.waiting playerId).trans (idle.waits playerId _).symm⟩
  joined playerId rating now lobby := lobby.enqueue { playerId, elo := 1200, enqueuedAt := now } rating
  left playerId lobby := lobby.cancel playerId
  ran now lobby := lobby.runMatching now

/-- What is observed tells who waits. -/
theorem Runs.inLobby (run : Runs trace s) : Lobby trace s.matchmaker :=
  lobby_invariant.holds
    ⟨Matchmaker.Reachable.new.wellFormed, fun _ => ⟨Bool.false_ne_true.elim, fun waits => absurd waits (standing_nil _ _)⟩⟩ run

/-- A pass of a run is one from a state of the run. -/
theorem Runs.ran (run : Runs trace s) {call : MatchingCall} {older : List (ServerItem R)}
    (ran : .ran call :: older <:+ trace) : ∃ s₁ : WebSocketServer R, Runs older s₁ ∧
      call = ⟨s₁.matchmaker.queue, call.now, (s₁.matchmaker.runMatching call.now).2⟩ := by
  induction run with
  | start initial => cases List.eq_nil_of_suffix_nil ran
  | @next trace items s s' earlier step ih =>
      obtain ⟨action, performed⟩ := step
      rcases suffix_cons_append ran with old | ⟨rest, new, rfl⟩
      · exact ih old
      · have member : ServerItem.ran call ∈ items := List.mem_reverse.mp (new.subset List.mem_cons_self)
        cases perform_calls performed with
        | plain plain => cases plain _ member
        | ran now =>
            have alone : ServerItem.ran call :: rest <:+ [.ran _] := new
            rcases List.suffix_cons_iff.mp alone with same | none
            · cases same
              exact ⟨s, earlier, rfl⟩
            · cases List.eq_nil_of_suffix_nil none
        | applied found read handled =>
            obtain ⟨playerId, observed, quiet, s₁, bound, plain, rfl⟩ := onRead_cases handled
            rcases List.mem_append.mp member with early | last
            · cases plain _ early
            · cases List.mem_singleton.mp last

/-! ## The books of a player -/

omit [DoubleConversions R] in
theorem present_of_waits {playerId : String} {trace : List (ServerItem R)} (waits : Waits playerId trace) :
    (presences playerId trace).head?.getD false = true := by
  induction trace with
  | nil => exact absurd waits (standing_nil _ _)
  | cons item older ih =>
      cases item with
      | joined other rating =>
          by_cases asked : other = playerId
          · simp [presences, ServerItem.presence?, asked]
          · have before := ((waits_joined ..).mp waits).resolve_left asked
            simpa [presences, ServerItem.presence?, asked] using ih before
      | left other =>
          obtain ⟨apart, before⟩ := (waits_left ..).mp waits
          simpa [presences, ServerItem.presence?, apart] using ih before
      | ran call => exact ih ((waits_ran ..).mp waits).2
      | _ => exact ih (waits.older rfl)

omit [DoubleConversions R] in
theorem Alternates.uncons {calls : List Bool} {call : Bool} (alternates : Alternates (call :: calls)) :
    call = !calls.head?.getD false ∧ Alternates calls := by
  cases calls with
  | nil => exact ⟨alternates, trivial⟩
  | cons previous older => exact alternates

omit [DoubleConversions R] in
/-- A player joins when it does not wait, and a pass takes it out when it does. -/
theorem balanced {playerId : String} {trace : List (ServerItem R)}
    (turns : Alternates (presences playerId trace))
    (passes : ∀ call older, .ran call :: older <:+ trace → (decide (Waits playerId older)).toNat =
      call.made.countP (fun created => playerId ∈ created.players) +
        (decide (Waits playerId (.ran call :: older))).toNat) :
    joinsOf playerId trace =
      matchesFor playerId trace + withdrawals playerId trace + (decide (Waits playerId trace)).toNat := by
  induction trace with
  | nil =>
      have nobody : ¬Waits playerId ([] : List (ServerItem R)) := standing_nil _ _
      rw [decide_eq_false nobody]
      rfl
  | cons item older ih =>
      have earlier : ∀ call older', .ran call :: older' <:+ older → _ :=
        fun call older' suffix => passes call older' (suffix.trans (List.suffix_cons item older))
      cases item with
      | joined other rating =>
          by_cases asked : other = playerId
          · subst asked
            obtain ⟨turn, turns'⟩ : _ ∧ Alternates (presences other older) := Alternates.uncons
              (by simpa [presences, ServerItem.presence?] using turns)
            have absent : ¬Waits other older := by
              intro waits
              rw [present_of_waits waits] at turn
              cases turn
            have books := ih turns' earlier
            rw [decide_eq_false absent] at books
            have waits : Waits other (.joined other rating :: older) := (waits_joined ..).mpr (Or.inl rfl)
            rw [decide_eq_true waits]
            have more : joinsOf other (.joined other rating :: older) = joinsOf other older + 1 := by
              simp [joinsOf, ServerItem.isJoinOf]
            rw [more, books]
            rfl
          · have unjoined : (ServerItem.joined (R := R) other rating).isJoinOf playerId = false :=
              beq_eq_false_iff_ne.mpr asked
            have same : decide (Waits playerId older) = decide (Waits playerId (.joined other rating :: older)) :=
              decide_eq_decide.mpr ⟨fun waits => waits.newer rfl, fun waits => waits.older unjoined⟩
            have books := ih (by simpa [presences, ServerItem.presence?, asked] using turns) earlier
            rw [← same]
            have fewer : joinsOf playerId (.joined other rating :: older) = joinsOf playerId older := by
              simp [joinsOf, unjoined]
            rw [fewer, books]
            rfl
      | left other =>
          have joins : joinsOf playerId (.left other :: older) = joinsOf playerId older := rfl
          have matched : matchesFor playerId (.left other :: older) = matchesFor playerId older := rfl
          rw [joins, matched, withdrawals]
          by_cases asked : other = playerId
          · subst asked
            obtain ⟨-, turns'⟩ : _ ∧ Alternates (presences other older) := Alternates.uncons
              (by simpa [presences, ServerItem.presence?] using turns)
            have gone : ¬Waits other (.left other :: older) := fun waits => ((waits_left ..).mp waits).1 rfl
            rw [ih turns' earlier, decide_eq_false gone]
            by_cases waits : Waits other older
            · rw [if_pos ⟨rfl, waits⟩, decide_eq_true waits]
              rfl
            · rw [if_neg fun both => waits both.2, decide_eq_false waits, Nat.add_zero]
          · have same : decide (Waits playerId older) = decide (Waits playerId (.left other :: older)) :=
              decide_eq_decide.mpr ⟨fun waits => waits.newer (beq_eq_false_iff_ne.mpr asked),
                fun waits => waits.older rfl⟩
            rw [← same, if_neg fun both => asked both.1]
            exact ih (by simpa [presences, ServerItem.presence?, asked] using turns) earlier
      | ran call =>
          have pass := passes call older List.suffix_rfl
          have books := ih turns earlier
          have matched : matchesFor playerId (.ran call :: older) =
              call.made.countP (fun created => playerId ∈ created.players) + matchesFor playerId older := by
            rw [matchesFor, List.flatMap_cons, List.countP_append]
            rfl
          have joins : joinsOf playerId (.ran call :: older) = joinsOf playerId older := rfl
          have left : withdrawals playerId (.ran call :: older) = withdrawals playerId older := rfl
          omega
      | _ =>
          have books := ih turns earlier
          exact books.trans (congrArg (matchesFor playerId older + withdrawals playerId older + Bool.toNat ·)
            (decide_eq_decide.mpr ⟨fun waits => waits.newer rfl, fun waits => waits.older rfl⟩))

theorem Runs.pass (run : Runs trace s) {call : MatchingCall} {older : List (ServerItem R)}
    (ran : .ran call :: older <:+ trace) (playerId : String) :
    (decide (Waits playerId older)).toNat =
      call.made.countP (fun created => playerId ∈ created.players) +
        (decide (Waits playerId (.ran call :: older))).toNat := by
  obtain ⟨s₁, earlier, same⟩ := run.ran ran
  have before := earlier.inLobby
  have after := before.runMatching call.now
  rw [← same] at after
  have made : call.made = (s₁.matchmaker.runMatching call.now).2 := congrArg MatchingCall.made same
  rw [← before.holds_eq, ← after.holds_eq, made]
  exact before.pass call.now playerId

/-- What a player's joins have come to. -/
structure LobbyBooks (playerId : String) (trace : List (ServerItem R)) (s : WebSocketServer R) : Prop where
  waiting : s.matchmaker.queue.holds playerId = true ↔ Waits playerId trace
  joins : joinsOf playerId trace = matchesFor playerId trace + withdrawals playerId trace +
    (s.matchmaker.queue.holds playerId).toNat
  matched : ∀ call older, .ran call :: older <:+ trace → ∀ created ∈ call.made,
    playerId ∈ created.players → Waits playerId older

/-- In every run a player is in the queue exactly if it has joined and neither left nor been matched
since; each of its joins has led to one match, or to a leave while it waited, or is the one with which
it waits; and whoever is matched was waiting. -/
theorem Runs.lobbyBooks (run : Runs trace s) (playerId : String) : LobbyBooks playerId trace s := by
  have lobby := run.inLobby
  refine ⟨lobby.waiting playerId, ?_, ?_⟩
  · rw [lobby.holds_eq]
    exact balanced ((Runs.settled run).registered.served.turns playerId)
      fun call older ran => run.pass ran playerId
  · intro call older ran created made mentioned
    have pass := run.pass ran playerId
    have some : 0 < call.made.countP fun created => playerId ∈ created.players :=
      List.countP_pos_iff.mpr ⟨created, made, decide_eq_true mentioned⟩
    by_contra absent
    rw [decide_eq_false absent, Bool.toNat_false] at pass
    omega

/-! ## The length of the queue -/

omit [DoubleConversions R] in
/-- A player that waits has joined since the last pass, or it waited after that pass. -/
theorem newcomer_or_left {playerId : String} {trace : List (ServerItem R)} (waits : Waits playerId trace) :
    playerId ∈ newcomers trace ∨
      ∃ call older, trace = since ServerItem.isPass trace ++ .ran call :: older ∧
        Waits playerId (.ran call :: older) := by
  have joins : ∀ item : ServerItem R, item.isJoinOf playerId = true → item.joiner? = some playerId := by
    intro item joined
    cases item with
    | joined other rating => exact congrArg some (eq_of_beq joined)
    | _ => cases joined
  by_cases passed : ∃ item ∈ trace, item.isPass = true
  · obtain ⟨item, older, split, pass⟩ := since_split passed
    cases item with
    | ran call =>
        rw [Waits, split] at waits
        rcases waits.of_append with ⟨item, member, joined⟩ | ⟨-, waits⟩
        · exact Or.inl (List.mem_filterMap.mpr ⟨item, member, joins item joined⟩)
        · exact Or.inr ⟨call, older, split, waits⟩
    | _ => cases pass
  · obtain ⟨newer, item, older, split, joined, -⟩ := waits
    have unmarked : ∀ item ∈ trace, item.isPass = false :=
      fun item member => Bool.eq_false_of_not_eq_true fun pass => passed ⟨item, member, pass⟩
    refine Or.inl (List.mem_filterMap.mpr ⟨item, ?_, joins item joined⟩)
    rw [since_eq_self _ _ unmarked, split]
    exact List.mem_append_right _ List.mem_cons_self

end WebSocketServer

/-! ## The length of the queue in exact arithmetic -/

namespace WebSocketServer

variable {s : WebSocketServer ℚ} {trace : List (ServerItem ℚ)}

/-- Two players that joined are not both left by a pass. -/
theorem Runs.alone (run : Runs trace s) {call : MatchingCall} {older : List (ServerItem ℚ)}
    (ran : .ran call :: older <:+ trace) {first second : String} (waits : Waits first (.ran call :: older))
    (waits' : Waits second (.ran call :: older)) : first = second := by
  obtain ⟨s₁, earlier, same⟩ := run.ran ran
  have observed : (s₁.matchmakingTick call.now).1.reverse ++ older = .ran call :: older :=
    congrArg (fun call => ServerItem.ran call :: older) same.symm
  have after := earlier.inLobby.runMatching call.now
  have settled := (Runs.settled earlier).matchmakingTick call.now
  rw [← same] at after
  rw [observed] at settled
  have served := settled.registered.served
  rw [← after.waiting] at waits waits'
  obtain ⟨a, queued⟩ := Option.isSome_iff_exists.mp waits
  obtain ⟨b, queued'⟩ := Option.isSome_iff_exists.mp waits'
  obtain ⟨-, joined⟩ := served.queued first a queued
  obtain ⟨-, joined'⟩ := served.queued second b queued'
  obtain ⟨member, rfl⟩ := (served.matchmaker.coherent.contents_eq_some_iff _ a).mp queued
  obtain ⟨member', rfl⟩ := (served.matchmaker.coherent.contents_eq_some_iff _ b).mp queued'
  by_contra distinct
  refine no_pair_left earlier.inLobby.wellFormed.coherent call.now a b ⟨queued, queued', distinct, ?_⟩
  have patient : ∀ player : QueuedPlayer, 0 ≤ player.request.currentTolerance ℚ call.now := by
    intro player
    rw [MatchRequest.currentTolerance_eq]
    omega
  have fits : fitsAt ℚ call.now a b = _ := fitsAt_asJoined joined joined'
  rw [decide_eq_true (patient a), decide_eq_true (patient b)] at fits
  exact fits

/-- In exact arithmetic at most one player waits besides those that have joined since the last pass, each of which
counts once however often it joined. -/
theorem Runs.queue_size (run : Runs trace s) : s.matchmaker.queue.size ≤ (newcomers trace).dedup.length + 1 := by
  have lobby := run.inLobby
  have coherent := lobby.wellFormed.coherent
  have waiting : ∀ playerId ∈ s.matchmaker.queue.walk.map QueuedPlayer.playerId, Waits playerId trace := by
    intro playerId listed
    obtain ⟨player, member, rfl⟩ := List.mem_map.mp listed
    have queued := (coherent.contents_eq_some_iff player.playerId player).mpr ⟨member, rfl⟩
    exact (lobby.waiting _).mp (Option.isSome_iff_exists.mpr ⟨player, queued⟩)
  have distinct := coherent.walk_players_nodup
  have size : s.matchmaker.queue.size = (s.matchmaker.queue.walk.map QueuedPlayer.playerId).length := by
    rw [coherent.size_eq, List.length_map]
  rw [size]
  generalize s.matchmaker.queue.walk.map QueuedPlayer.playerId = ids at waiting distinct
  by_cases old : ∃ playerId ∈ ids, playerId ∉ newcomers trace
  · obtain ⟨playerId, member, older⟩ := old
    have covered : ids ⊆ playerId :: (newcomers trace).dedup := by
      intro other member'
      by_cases recent : other ∈ newcomers trace
      · exact List.mem_cons_of_mem _ (List.mem_dedup.mpr recent)
      · obtain ⟨call, before, split, waits⟩ := (newcomer_or_left (waiting _ member)).resolve_left older
        obtain ⟨call', before', split', waits'⟩ := (newcomer_or_left (waiting _ member')).resolve_left recent
        cases List.append_cancel_left (split'.symm.trans split)
        have ran : .ran call :: before <:+ trace := ⟨_, split.symm⟩
        rw [run.alone ran waits' waits]
        exact List.mem_cons_self
    exact (List.subperm_of_subset distinct covered).length_le
  · have covered : ids ⊆ (newcomers trace).dedup := by
      intro playerId member
      by_contra recent
      exact old ⟨playerId, member, fun joined => recent (List.mem_dedup.mpr joined)⟩
    exact Nat.le_succ_of_le (List.subperm_of_subset distinct covered).length_le

end WebSocketServer

/-- `"alice"` joins, joins again on a second connection, is matched, and joins a third time. -/
def threeJoins : List (ServerAction ℚ) :=
  takeover ++ [.accept false, .handshake 2 false,
    .completeRead 2 (.received (some ⟨"bob", restingInput 1, bob_named⟩)), .readLoop 2 7, .matchmakingTick 10,
    .accept false, .handshake 3 false,
    .completeRead 3 (.received (some ⟨"alice", restingInput 2, alice_named⟩)), .readLoop 3 12]

theorem lobbyBooks_threeJoins : ∃ (trace : List (ServerItem ℚ)) (s : WebSocketServer ℚ),
    WebSocketServer.LobbyBooks "alice" trace s ∧ joinsOf "alice" trace = 3 ∧
      matchesFor "alice" trace = 1 ∧ withdrawals "alice" trace = 1 := by
  have fresh : WebSocketServer.Initial (WebSocketServer.new (1 / 60) : WebSocketServer ℚ) := ⟨_, rfl⟩
  obtain ⟨trace, s, run, passed⟩ := exists_run_of_replay threeJoins
    (fun trace _ => joinsOf "alice" trace == 3 && (matchesFor "alice" trace == 1 && withdrawals "alice" trace == 1))
    fresh (show (replay WebSocketServer.perform _ _).any _ = true by decide +kernel)
  simp only [Bool.and_eq_true, beq_iff_eq] at passed
  exact ⟨trace, s, WebSocketServer.Runs.lobbyBooks run "alice", passed⟩

/-- `"alice"` joins for the third time when the queue is empty. -/
theorem queue_size_threeJoins : ∃ (trace : List (ServerItem ℚ)) (s : WebSocketServer ℚ),
    s.matchmaker.queue.size ≤ (newcomers trace).dedup.length + 1 ∧ newcomers trace = ["alice"] ∧
      s.matchmaker.queue.size = 1 := by
  have fresh : WebSocketServer.Initial (WebSocketServer.new (1 / 60) : WebSocketServer ℚ) := ⟨_, rfl⟩
  obtain ⟨trace, s, run, passed⟩ := exists_run_of_replay threeJoins
    (fun trace s => newcomers trace == ["alice"] && s.matchmaker.queue.size == 1)
    fresh (show (replay WebSocketServer.perform _ _).any _ = true by decide +kernel)
  simp only [Bool.and_eq_true, beq_iff_eq] at passed
  exact ⟨trace, s, WebSocketServer.Runs.queue_size run, passed⟩

end Arena60
