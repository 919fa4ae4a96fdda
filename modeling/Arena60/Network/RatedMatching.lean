import Arena60.Misc.RootArith
import Arena60.Network.HandlerCalls
import Arena60.Network.RegistryAgreement

/-!
# Matches by rating

The handler of a join puts the same rating into every request. All waiting players are therefore
paired two at a time in the order of their joins, whatever their ratings are.
-/

namespace Arena60

open Misc

universe u

/-! ## Ratings in a trace -/

section trace

variable {R : Type u}

/-- The rating of a player at a join. -/
def ServerItem.rating? (playerId : String) : ServerItem R → Option Int
  | joined other rating => if other = playerId then some rating else none
  | _ => none

/-- The rating of a player at its newest join. -/
def joinRating (playerId : String) (trace : List (ServerItem R)) : Option Int :=
  trace.findSome? (ServerItem.rating? playerId)

/-- A player that is present has joined. -/
theorem joinRating_of_present {playerId : String} {trace : List (ServerItem R)}
    (present : (presences playerId trace).head?.getD false = true) :
    ∃ rating, joinRating playerId trace = some rating := by
  have here : true ∈ presences playerId trace := by
    cases calls : presences playerId trace with
    | nil =>
        rw [calls] at present
        cases present
    | cons newest older =>
        rw [calls] at present
        exact List.mem_cons.mpr (Or.inl present.symm)
  obtain ⟨item, member, noticed⟩ := List.mem_filterMap.mp here
  have rated : (item.rating? playerId).isSome = true := by
    cases item with
    | joined other rating =>
        rw [ServerItem.presence?] at noticed
        rw [ServerItem.rating?]
        split at noticed
        · rw [if_pos ‹_›]
          rfl
        · cases noticed
    | left other =>
        rw [ServerItem.presence?] at noticed
        split at noticed <;> cases noticed
    | _ => cases noticed
  cases found : joinRating playerId trace with
  | some rating => exact ⟨rating, rfl⟩
  | none =>
      have unrated := List.findSome?_eq_none_iff.mp found item member
      rw [unrated] at rated
      cases rated

end trace

variable (R : Type u) [DoubleConversions R]

/-- Two ratings differ by at most the tolerances of two players. -/
def Tolerated (now : Int) (a b : QueuedPlayer) (rating other : Int) : Prop :=
  |rating - other| ≤ a.request.currentTolerance R now ∧
    |rating - other| ≤ b.request.currentTolerance R now

/-- A match pairs two waiting players whose ratings at their joins are within their tolerances. -/
def HonoursRatings (older : List (ServerItem R)) (call : MatchingCall) (created : Match) : Prop :=
  ∃ a b, call.queue.contents a.playerId = some a ∧ call.queue.contents b.playerId = some b ∧
    created.players = [a.playerId, b.playerId] ∧
    ∃ rating other, joinRating a.playerId older = some rating ∧ joinRating b.playerId older = some other ∧
      Tolerated R call.now a b rating other

/-- The waiting players whose tolerance is not negative, in the order of the queue, two at a time. -/
def pairsInLine (call : MatchingCall) : List (QueuedPlayer × QueuedPlayer) :=
  twoByTwo (call.queue.fetchOrdered.filter fun player =>
    decide (0 ≤ player.request.currentTolerance R call.now))

/-- The players taken two at a time have ratings within their tolerances. -/
def RatedInLine (older : List (ServerItem R)) (call : MatchingCall) : Prop :=
  ∀ a b, (a, b) ∈ pairsInLine R call → ∀ rating other, joinRating a.playerId older = some rating →
    joinRating b.playerId older = some other → Tolerated R call.now a b rating other

/-- The players of a pass wait in the order of their joins, and its matches honour the ratings exactly
if these players, taken two at a time, have ratings within their tolerances. -/
def PairedByAge (older : List (ServerItem R)) (call : MatchingCall) : Prop :=
  (call.queue.fetchOrdered.Pairwise fun a b => a.order < b.order) ∧
    ((∀ created ∈ call.made, HonoursRatings R older call created) ↔ RatedInLine R older call)

variable {R}

/-! ## The pass over equal requests -/

theorem fitsAt_asJoined {now : Int} {a b : QueuedPlayer} (joined : a.AsJoined) (joined' : b.AsJoined) :
    fitsAt R now a b = (decide (0 ≤ a.request.currentTolerance R now) &&
      decide (0 ≤ b.request.currentTolerance R now)) := by
  have regions : regionsCompatible a.request b.request = true := by
    rw [regionsCompatible, regionsMatch_iff, joined.region, joined'.region]
    exact Or.inr (Or.inr rfl)
  have apart : |a.request.elo - b.request.elo| = 0 := by
    have elo : a.request.elo = 1200 := joined.elo
    have elo' : b.request.elo = 1200 := joined'.elo
    rw [elo, elo', sub_self, abs_zero]
  rw [fitsAt, compatible, regions, apart, Bool.true_and]

/-- Players with equal ratings are listed by age. -/
theorem fetchOrdered_byAge {queue : InMemoryMatchQueue} (coherent : queue.Coherent)
    (joined : ∀ player ∈ queue.walk, player.AsJoined) :
    queue.fetchOrdered.Pairwise fun a b => a.order < b.order := by
  refine coherent.fetchOrdered_ascending.imp_of_mem ?_
  intro a b member member' before
  rw [InMemoryMatchQueue.mem_fetchOrdered] at member member'
  have same : a.elo = b.elo := (joined a member).elo.trans (joined b member').elo.symm
  rcases before with below | aged
  · omega
  · exact aged.2

/-- The pass pairs the players two at a time. -/
theorem passPairs_asJoined {queue : InMemoryMatchQueue} (coherent : queue.Coherent)
    (joined : ∀ player ∈ queue.walk, player.AsJoined) (now : Int) (made : List Match) :
    passPairs R now queue.fetchOrdered = pairsInLine R ⟨queue, now, made⟩ := by
  have alone : ∀ a ∈ queue.fetchOrdered, ∀ b ∈ queue.fetchOrdered,
      fitsAt R now a b = (decide (0 ≤ a.request.currentTolerance R now) &&
        decide (0 ≤ b.request.currentTolerance R now)) := by
    intro a member b member'
    rw [InMemoryMatchQueue.mem_fetchOrdered] at member member'
    exact fitsAt_asJoined (joined a member) (joined b member')
  have walk := firstFit_eq_twoByTwo coherent.fetchOrdered_players_nodup alone []
  rw [passPairs, walk, pairsInLine]
  refine congrArg twoByTwo (List.filter_congr fun player _ => ?_)
  rw [decide_eq_true List.not_mem_nil, Bool.true_and]

theorem exists_matchesOf (now : Int) {a b : QueuedPlayer} :
    ∀ (made : Nat) {pairs : List (QueuedPlayer × QueuedPlayer)}, (a, b) ∈ pairs →
      ∃ created ∈ matchesOf now made pairs, created.players = [a.playerId, b.playerId]
  | made, (c, d) :: pairs, member => by
      rcases List.mem_cons.mp member with same | later
      · cases same
        exact ⟨_, List.mem_cons_self, rfl⟩
      · obtain ⟨created, listed, players⟩ := exists_matchesOf now (made + 1) later
        exact ⟨created, List.mem_cons_of_mem _ listed, players⟩

namespace WebSocketServer

variable {s s' : WebSocketServer R} {trace items : List (ServerItem R)}

/-- A pass from a state between two handlers. -/
theorem Settled.pairedByAge (settled : Settled trace s) (now : Int) :
    PairedByAge R trace ⟨s.matchmaker.queue, now, (s.matchmaker.runMatching now).2⟩ := by
  have served := settled.registered.served
  have coherent := served.matchmaker.coherent
  have effect := Matchmaker.runMatchingLocked_effect coherent now
  have waiting : ∀ player ∈ s.matchmaker.queue.walk,
      s.matchmaker.queue.contents player.playerId = some player :=
    fun player member => (coherent.contents_eq_some_iff player.playerId player).mpr ⟨member, rfl⟩
  have joined : ∀ player ∈ s.matchmaker.queue.walk, player.AsJoined :=
    fun player member => (served.queued player.playerId player (waiting player member)).2
  have made : (s.matchmaker.runMatching now).2 = matchesOf now s.matchmaker.matchCounter
      (pairsInLine R ⟨s.matchmaker.queue, now, (s.matchmaker.runMatching now).2⟩) := by
    rw [← passPairs_asJoined coherent joined, Matchmaker.runMatching_made]
    exact effect.made
  have listed : ∀ a b, (a, b) ∈ pairsInLine R
      ⟨s.matchmaker.queue, now, (s.matchmaker.runMatching now).2⟩ →
      a ∈ s.matchmaker.queue.walk ∧ b ∈ s.matchmaker.queue.walk := by
    intro a b paired
    rw [← passPairs_asJoined coherent joined] at paired
    obtain ⟨listedA, listedB, -⟩ := firstFit_sound coherent.fetchOrdered_ascending paired
    rw [InMemoryMatchQueue.mem_fetchOrdered] at listedA listedB
    exact ⟨listedA, listedB⟩
  have rated : ∀ player ∈ s.matchmaker.queue.walk,
      ∃ rating, joinRating player.playerId trace = some rating := by
    intro player member
    have present := (served.queued player.playerId player (waiting player member)).1
    rw [← served.latest] at present
    exact joinRating_of_present present
  refine ⟨fetchOrdered_byAge coherent joined, ?_, ?_⟩
  · intro honoured a b paired rating other ratingA ratingB
    obtain ⟨created, member, players⟩ := exists_matchesOf now s.matchmaker.matchCounter paired
    rw [← made] at member
    obtain ⟨a', b', queuedA, queuedB, players', rating', other', ratingA', ratingB', tolerated⟩ :=
      honoured created member
    have ids := players.symm.trans players'
    rw [List.cons.injEq, List.cons.injEq] at ids
    have queuedA' := (coherent.contents_eq_some_iff _ a).mpr ⟨(listed a b paired).1, rfl⟩
    have queuedB' := (coherent.contents_eq_some_iff _ b).mpr ⟨(listed a b paired).2, rfl⟩
    rw [ids.1] at queuedA' ratingA
    rw [ids.2.1] at queuedB' ratingB
    cases queuedA'.symm.trans queuedA
    cases queuedB'.symm.trans queuedB
    cases ratingA.symm.trans ratingA'
    cases ratingB.symm.trans ratingB'
    exact tolerated
  · intro inLine created member
    rw [made] at member
    obtain ⟨number, a, b, paired, -, -, rfl⟩ := mem_matchesOf member
    obtain ⟨listedA, listedB⟩ := listed a b paired
    obtain ⟨rating, ratingA⟩ := rated a listedA
    obtain ⟨other, ratingB⟩ := rated b listedB
    exact ⟨a, b, waiting a listedA, waiting b listedB, rfl, rating, other, ratingA, ratingB,
      inLine a b paired rating other ratingA ratingB⟩

/-- Every pass of a run. -/
theorem honoursRatings_iff (run : Runs trace s) {call : MatchingCall} {older : List (ServerItem R)}
    (ran : .ran call :: older <:+ trace) : PairedByAge R older call := by
  induction run with
  | start initial => cases List.eq_nil_of_suffix_nil ran
  | @next trace items s s' earlier step ih =>
      obtain ⟨action, performed⟩ := step
      rcases suffix_cons_append ran with old | ⟨rest, new, rfl⟩
      · exact ih old
      · have member : ServerItem.ran call ∈ items := List.mem_reverse.mp (new.subset List.mem_cons_self)
        cases perform_calls performed with
        | plain plain => cases plain _ member
        | ran now =>
            have alone : ServerItem.ran call :: rest <:+ [.ran _] := new
            rcases List.suffix_cons_iff.mp alone with same | none
            · cases same
              exact Settled.pairedByAge (Runs.settled earlier) now
            · cases List.eq_nil_of_suffix_nil none
        | applied found read handled =>
            obtain ⟨playerId, observed, quiet, s₁, bound, plain, rfl⟩ := onRead_cases handled
            rcases List.mem_append.mp member with earlier | last
            · cases plain _ earlier
            · cases List.mem_singleton.mp last

end WebSocketServer

/-! ## Two players that met before -/

/-- The inputs of a player that runs to the right and of one that shoots there. -/
def duelInput (sequence : Nat) (right fire : Bool) : MovementInput Computed :=
  ⟨sequence, false, false, false, right, (1 : ℚ), (0 : ℚ), fire⟩

theorem bob_named : "bob" ≠ "" := by decide

def connects (client : Nat) : List (ServerAction Computed) :=
  [.accept false, .handshake client false]

/-- A frame arrives and its handler runs. -/
def sends (client : Nat) (playerId : String) (named : playerId ≠ "") (input : MovementInput Computed) :
    List (ServerAction Computed) :=
  [.completeRead client (.received (some ⟨playerId, input, named⟩)), .readLoop client 0]

/-- `"alice"` and `"bob"` wait for a match. -/
def bothWait (alice bob : Nat) : List (ServerAction Computed) :=
  connects alice ++ sends alice "alice" alice_named (duelInput 0 false false) ++
    connects bob ++ sends bob "bob" bob_named (duelInput 0 false false)

/-- `"bob"` joins, walks away and is shot by `"alice"`, who plays on the first connection. -/
def lostDuel (client : Nat) : List (ServerAction Computed) :=
  connects client ++
    (List.range 6).flatMap (fun step => sends client "bob" bob_named (duelInput step true false)) ++
    (List.range 5).flatMap fun shot =>
      sends 0 "alice" alice_named (duelInput (10 * client + shot) false true) ++
        [.broadcastState (10 * client + shot) (1 / 10 : ℚ) fun _ => 0]

/-- `"bob"` loses five times, and then both connect again. -/
def feud : List (ServerAction Computed) :=
  connects 0 ++ sends 0 "alice" alice_named (duelInput 0 false false) ++
    [1, 2, 3, 4, 5].flatMap lostDuel ++ bothWait 6 7

/-- A pass has just paired `"alice"` with `"bob"`. -/
def pairedNow (trace : List (ServerItem Computed)) (fits : MatchingCall → List (ServerItem Computed) → Bool) :
    Bool :=
  match trace with
  | .ran call :: older => (call.made.any fun created => created.players == ["alice", "bob"]) && fits call older
  | _ => false

theorem exists_of_pairedNow {trace : List (ServerItem Computed)}
    {fits : MatchingCall → List (ServerItem Computed) → Bool} (paired : pairedNow trace fits = true) :
    ∃ call older created, trace = .ran call :: older ∧ created ∈ call.made ∧
      created.players = ["alice", "bob"] ∧ fits call older = true := by
  unfold pairedNow at paired
  split at paired
  · next call older =>
      rw [Bool.and_eq_true, List.any_eq_true] at paired
      obtain ⟨⟨created, member, players⟩, fitting⟩ := paired
      exact ⟨call, older, created, rfl, member, eq_of_beq players, fitting⟩
  · cases paired

/-- Two new players are paired by age and have equal ratings. -/
theorem honoursRatings_iff_two : ∃ (call : MatchingCall) (older : List (ServerItem Computed)),
    (∃ created ∈ call.made, created.players = ["alice", "bob"]) ∧
      PairedByAge Computed older call := by
  have fresh : WebSocketServer.Initial (WebSocketServer.new (1 / 10 : ℚ) : WebSocketServer Computed) :=
    ⟨_, rfl⟩
  obtain ⟨trace, s, run, passed⟩ := exists_run_of_replay (bothWait 0 1 ++ [.matchmakingTick 0])
    (fun trace _ => pairedNow trace fun _ _ => true) fresh
    (show (replay WebSocketServer.perform _ _).any _ = true by decide +kernel)
  obtain ⟨call, older, created, rfl, member, players, -⟩ := exists_of_pairedNow passed
  exact ⟨call, older, ⟨created, member, players⟩,
    WebSocketServer.honoursRatings_iff run (List.suffix_refl _)⟩

/-- The ratings after the five duels, and a tolerance that is less than their difference. -/
noncomputable def farApart (call : MatchingCall) (older : List (ServerItem Computed)) : Bool :=
  joinRating "alice" older == some 1255 && joinRating "bob" older == some 1146 &&
    (call.queue.contents "alice").all fun player =>
      decide (player.request.currentTolerance Computed call.now = 100)

/-- After the five duels the players are paired at once. -/
theorem not_honoursRatings : ¬∀ (trace : List (ServerItem Computed)) (s : WebSocketServer Computed),
    WebSocketServer.Runs trace s → ∀ (call : MatchingCall) (older : List (ServerItem Computed)),
      .ran call :: older <:+ trace → ∀ created ∈ call.made, HonoursRatings Computed older call created := by
  intro claim
  have fresh : WebSocketServer.Initial (WebSocketServer.new (1 / 10 : ℚ) : WebSocketServer Computed) :=
    ⟨_, rfl⟩
  obtain ⟨trace, s, run, passed⟩ := exists_run_of_replay (feud ++ [.matchmakingTick 0])
    (fun trace _ => pairedNow trace farApart) fresh
    (show (replay WebSocketServer.perform _ _).any _ = true by decide +kernel)
  obtain ⟨call, older, created, rfl, member, players, fits⟩ := exists_of_pairedNow passed
  obtain ⟨a, b, queued, -, players', rating, other, rated, rated', tolerated, -⟩ :=
    claim _ s run call older (List.suffix_refl _) created member
  have ids := players.symm.trans players'
  rw [List.cons.injEq, List.cons.injEq] at ids
  rw [← ids.1] at queued rated
  rw [← ids.2.1] at rated'
  rw [farApart, rated, rated', queued, Option.all_some] at fits
  simp only [Bool.and_eq_true, beq_iff_eq, Option.some.injEq, decide_eq_true_eq] at fits
  obtain ⟨⟨rfl, rfl⟩, tolerance⟩ := fits
  rw [tolerance] at tolerated
  exact absurd tolerated (by decide)

end Arena60
