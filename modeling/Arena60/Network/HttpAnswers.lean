import Arena60.Network.ArenaRefinement
import Arena60.Network.LimitQuery
import Arena60.Network.Metrics
import Arena60.Network.MetricsHttpServer
import Arena60.Network.Routes
import Arena60.Stats.TopProfiles

/-!
# What the HTTP server answers

The HTTP server beside the game server, with the handler of `main.cpp`: its answers tell what has happened in the
run until then.
-/

namespace Arena60

open Misc Misc.Json Http

universe u v

/-! ## The world of the handler -/

/-- What the handler of `main` sees: the server, and what the loop and the storage report. -/
structure HttpWorld (Time : Type v) (R : Type u) where
  server : WebSocketServer R
  rated : GameLoop Time Unit
  timed : GameLoop Time Unit
  lastQuerySeconds : R

/-- A handler of the server runs, or the loop and the storage have something else to report. -/
inductive WorldAction (Time : Type v) (R : Type u) where
  | handle (action : ServerAction R)
  | report (rated timed : GameLoop Time Unit) (lastQuerySeconds : R)

namespace HttpWorld

variable {R : Type u} [DoubleConversions R] {Time : Type v}

/-- Execute an action. -/
def perform (action : WorldAction Time R) (w : HttpWorld Time R) : Option (List (ServerItem R) × HttpWorld Time R) :=
  match action with
  | .handle action => (w.server.perform action).map fun (items, server) => (items, { w with server })
  | .report rated timed lastQuerySeconds => some ([], { w with rated, timed, lastQuerySeconds })

/-- The server has just been started. -/
def Initial (w : HttpWorld Time R) : Prop := WebSocketServer.Initial w.server

/-- `http_handler` of `main`. -/
def httpHandler [PrintedDouble R] [DoubleValue R] (seconds : Time → R) (tickRate : R) (w : HttpWorld Time R)
    (request : Request) : Response :=
  let router : ProfileHttpRouter :=
    ⟨some (metricsProvider seconds tickRate w.lastQuerySeconds w.rated w.timed w.server), some w.server.profiles⟩
  router.handle R request

theorem run_server {trace : List (ServerItem R)} {w : HttpWorld Time R} (run : Run Initial (StepOf perform) trace w) :
    WebSocketServer.Runs trace w.server := by
  induction run with
  | start initial => exact .start initial
  | next _ step ih =>
      obtain ⟨action, performed⟩ := step
      cases action with
      | handle action =>
          obtain ⟨result, handled, made⟩ := Option.map_eq_some_iff.mp performed
          cases made
          exact .next ih ⟨action, handled⟩
      | report rated timed lastQuerySeconds =>
          cases performed
          exact ih

end HttpWorld

/-! ## The profiles of a run -/

/-- How many players a player has killed. -/
def winsOf (playerId : String) (trace : List SessionItem) : Nat :=
  (deathEvents trace).countP fun death => death.shooterId == playerId

/-- How often a player has been killed. -/
def lossesOf (playerId : String) (trace : List SessionItem) : Nat :=
  (deathEvents trace).countP fun death => death.targetId == playerId

section profiles

variable {R : Type u} [DoubleConversions R]

theorem perform_profiles {op : WiredOp R} {server server' : WiredServer R} {items : List (WiredItem R)}
    (performed : WiredServer.perform op server = some (items, server')) : server'.profiles =
      ((items.filterMap WiredItem.call?).map CollectCall.result).foldl (PlayerProfileService.recordMatch R)
        server.profiles := by
  have onSession : ∀ op : SessionOp R, server.onSession op = some (items, server') → server'.profiles =
      ((items.filterMap WiredItem.call?).map CollectCall.result).foldl (PlayerProfileService.recordMatch R)
        server.profiles := by
    intro op handled
    obtain ⟨result, -, made⟩ := Option.map_eq_some_iff.mp handled
    cases made
    rw [(WiredServer.filterMap_inSession result.1).2]
    exact rfl
  cases op with
  | broadcastState tick deltaSeconds now =>
      cases performed
      rw [List.filterMap_append, (WiredServer.filterMap_inSession _).2, List.nil_append,
        (WiredServer.filterMap_collected _).2]
  | registerClient playerId => exact onSession _ performed
  | unregisterClient playerId => exact onSession _ performed
  | onRead playerId input targetDelta => exact onSession _ performed
  | reorder order => exact onSession _ performed

theorem steps_profiles {server server' : WiredServer R} {items : List (WiredItem R)}
    (steps : Steps (StepOf WiredServer.perform) server items server') : server'.profiles =
      ((items.filterMap WiredItem.call?).map CollectCall.result).foldl (PlayerProfileService.recordMatch R)
        server.profiles := by
  induction steps with
  | none => rfl
  | next _ taken ih =>
      obtain ⟨op, performed⟩ := taken
      rw [perform_profiles performed, ih, List.filterMap_append, List.map_append, List.foldl_append]

variable {trace : List (ServerItem R)} {s : WebSocketServer R}

/-- The results that were recorded. -/
def resultsOf (trace : List (ServerItem R)) : List MatchResult :=
  (WiredServer.calls (trace.filterMap ServerItem.wired?)).map CollectCall.result

theorem WebSocketServer.Runs.profiles (run : WebSocketServer.Runs trace s) :
    s.profiles = PlayerProfileService.after R (some .new) (resultsOf trace) := by
  induction run with
  | start initial =>
      obtain ⟨targetDelta, rfl⟩ := initial
      rfl
  | next _ step ih =>
      obtain ⟨action, performed⟩ := step
      have changed := steps_profiles (WebSocketServer.perform_parts performed).wired
      rw [resultsOf, List.filterMap_append, List.filterMap_reverse, WiredServer.calls_append, List.map_append,
        PlayerProfileService.after, List.foldl_append, ← resultsOf, ← PlayerProfileService.after, ← ih]
      exact changed

theorem countP_resultsOf (run : WebSocketServer.Runs trace s) (playerId : String) :
    ((resultsOf trace).countP fun result => result.winnerId == playerId) = winsOf playerId (sessionItems trace) ∧
      ((resultsOf trace).countP fun result => result.loserId == playerId) = lossesOf playerId (sessionItems trace) := by
  have ledger := WiredServer.Runs.ledger (WebSocketServer.Runs.wired run)
  unfold winsOf lossesOf sessionItems resultsOf
  rw [← ledger.deaths, List.countP_map, List.countP_map, List.countP_map, List.countP_map]
  exact ⟨rfl, rfl⟩

/-- A profile with the matches that the player won and lost in a run. -/
structure Tells (trace : List SessionItem) (profile : PlayerProfile) : Prop where
  wins : profile.wins = winsOf profile.playerId trace
  losses : profile.losses = lossesOf profile.playerId trace

theorem WebSocketServer.Runs.tells (run : WebSocketServer.Runs trace s) {playerId : String} {profile : PlayerProfile}
    (found : s.profiles.getProfile playerId = some profile) :
    profile.playerId = playerId ∧ Tells (sessionItems trace) profile := by
  rw [Runs.profiles run] at found
  have sums := PlayerProfileService.sumsUp_getProfile R (some .new) (resultsOf trace) found
  obtain ⟨wins, losses⟩ := countP_resultsOf run playerId
  refine ⟨sums.name, ?_, ?_⟩
  · rw [sums.wins, sums.name]
    exact wins
  · rw [sums.losses, sums.name]
    exact losses

/-- Whoever killed or was killed has a profile. -/
theorem WebSocketServer.Runs.known (run : WebSocketServer.Runs trace s) {playerId : String}
    (fought : 0 < winsOf playerId (sessionItems trace) + lossesOf playerId (sessionItems trace)) :
    ∃ profile, s.profiles.getProfile playerId = some profile := by
  obtain ⟨wins, losses⟩ := countP_resultsOf run playerId
  rw [← wins, ← losses] at fought
  refine Option.isSome_iff_exists.mp ?_
  rw [Runs.profiles run, PlayerProfileService.getProfile_isSome_iff]
  rcases Nat.add_pos_iff_pos_or_pos.mp fought with won | lost
  · obtain ⟨result, member, winner⟩ := List.countP_pos_iff.mp won
    exact ⟨result, member, Or.inl (eq_of_beq winner).symm⟩
  · obtain ⟨result, member, loser⟩ := List.countP_pos_iff.mp lost
    exact ⟨result, member, Or.inr (Or.inl (eq_of_beq loser).symm)⟩

/-- The leaderboard ranks those who killed or were killed. -/
theorem WebSocketServer.Runs.ranked (run : WebSocketServer.Runs trace s) :
    ∃ profiles : List PlayerProfile, profiles.Pairwise PlayerProfileService.Outranks ∧
      (∀ playerId, playerId ∈ profiles.map PlayerProfile.playerId ↔
        0 < winsOf playerId (sessionItems trace) + lossesOf playerId (sessionItems trace)) ∧
      (∀ profile ∈ profiles, Tells (sessionItems trace) profile) ∧
      ∀ limit, s.profiles.topProfiles limit = profiles.take limit := by
  have published : s.profiles.Published (PlayerProfileService.rated (resultsOf trace)) := by
    rw [Runs.profiles run]
    exact PlayerProfileService.published_foldl R (resultsOf trace)
  obtain ⟨profiles, ranks, top⟩ := published.topProfiles
  have fought : ∀ playerId, PlayerProfileService.rated (resultsOf trace) playerId = true ↔
      0 < winsOf playerId (sessionItems trace) + lossesOf playerId (sessionItems trace) := by
    intro playerId
    obtain ⟨wins, losses⟩ := countP_resultsOf run playerId
    rw [← wins, ← losses, Nat.add_pos_iff_pos_or_pos, List.countP_pos_iff, List.countP_pos_iff]
    unfold PlayerProfileService.rated
    rw [List.any_eq_true]
    simp only [Bool.or_eq_true, beq_iff_eq, and_or_left, exists_or, @eq_comm _ playerId]
  refine ⟨profiles, ranks.ordered, fun playerId => ?_, fun profile listed => ?_, top⟩
  · rw [← fought, List.mem_map]
    constructor
    · rintro ⟨profile, listed, rfl⟩
      exact ((ranks.exact profile).mp listed).1
    · intro isRated
      obtain ⟨profile, found⟩ := Runs.known run ((fought playerId).mp isRated)
      have name := (Runs.tells run found).1
      exact ⟨profile, (ranks.exact profile).mpr ⟨name.symm ▸ isRated, name.symm ▸ found⟩, name⟩
  · exact (Runs.tells run ((ranks.exact profile).mp listed).2).2

end profiles

/-! ## The answers -/

section answers

variable {R : Type u} [DoubleConversions R] [DoubleValue R] [PrintedDouble R] {Time : Type v}

/-- What a client learns from the answer to a GET request when so much has happened and the server is in a state. -/
structure Truthful (trace : List (ServerItem R)) (server : WebSocketServer R) (request : Request)
    (response : Response) : Prop where
  metrics : ProfileHttpRouter.route request.target.toList = .metrics → response.status = .ok ∧ ∃ families,
    readExposition response.body = some families ∧ WellFormedExposition families ∧
      WebSocketServer.Shows trace server families
  profile : ∀ playerId, ProfileHttpRouter.route request.target.toList = .profile playerId →
    (response.status = .notFound ∧ winsOf playerId (sessionItems trace) = 0 ∧
      lossesOf playerId (sessionItems trace) = 0) ∨
    response.status = .ok ∧ ∃ profile : PlayerProfile, profile.playerId = playerId ∧
      Tells (sessionItems trace) profile ∧
      (Json.PlainBytes (bytesOf playerId) → ∃ json, Conveys response.body json ∧ Recovers json profile)
  leaderboard : ProfileHttpRouter.route request.target.toList = .leaderboard → response.status = .ok ∧
    ∃ (limit : Nat) (profiles : List PlayerProfile), 1 ≤ limit ∧ limit ≤ 50 ∧
      profiles.Pairwise PlayerProfileService.Outranks ∧
      (∀ playerId, playerId ∈ profiles.map PlayerProfile.playerId ↔
        0 < winsOf playerId (sessionItems trace) + lossesOf playerId (sessionItems trace)) ∧
      (∀ profile ∈ profiles, Tells (sessionItems trace) profile) ∧
      ((∀ profile ∈ profiles.take limit, Json.PlainBytes (bytesOf profile.playerId)) →
        ∃ json, Conveys response.body json ∧ RecoversAll json (profiles.take limit))

theorem parseLimit_bounds (query : String) :
    1 ≤ ProfileHttpRouter.parseLimit query ∧ ProfileHttpRouter.parseLimit query ≤ 50 := by
  rw [ProfileHttpRouter.parseLimit_eq]
  unfold ProfileHttpRouter.limitFor
  split
  · decide
  · exact ⟨Nat.le_max_left _ _, Nat.max_le.mpr ⟨by decide, Nat.min_le_left _ _⟩⟩

/-- The handler tells the truth about a run of the server. -/
theorem truthful_httpHandler (seconds : Time → R) (ascending : ∀ seconds : R, (kWaitBuckets R).Pairwise fun a b =>
      DoubleArith.lessEq seconds a = true → DoubleArith.lessEq seconds b = true) (tickRate : R)
    {trace : List (ServerItem R)} {w : HttpWorld Time R} (run : WebSocketServer.Runs trace w.server)
    {request : Request} (asks : request.method = .get) :
    Truthful trace w.server request (w.httpHandler seconds tickRate request) := by
  let router : ProfileHttpRouter :=
    ⟨some (metricsProvider seconds tickRate w.lastQuerySeconds w.rated w.timed w.server), some w.server.profiles⟩
  have answer : router.handle R request = router.answer R request (ProfileHttpRouter.route request.target.toList) :=
    ProfileHttpRouter.handle_eq_answer R router asks
  change Truthful trace w.server request (router.handle R request)
  rw [answer]
  constructor
  · intro metrics
    obtain ⟨families, read, wellFormed, shows⟩ := WebSocketServer.Runs.read_metricsProvider seconds ascending tickRate
      w.lastQuerySeconds w.rated w.timed run
    rw [metrics]
    exact ⟨rfl, families, read, wellFormed, shows⟩
  · intro playerId route
    rw [route]
    unfold ProfileHttpRouter.answer ProfileHttpRouter.handleProfile
    dsimp only [router]
    cases found : w.server.profiles.getProfile playerId with
    | none =>
        refine Or.inl ⟨rfl, ?_⟩
        have nothing : ¬0 < winsOf playerId (sessionItems trace) + lossesOf playerId (sessionItems trace) := by
          intro fought
          obtain ⟨profile, known⟩ := WebSocketServer.Runs.known run fought
          rw [found] at known
          cases known
        omega
    | some profile =>
        obtain ⟨name, tells⟩ := WebSocketServer.Runs.tells run found
        exact Or.inr ⟨rfl, profile, name, tells, fun plain => conveys_profile profile (name ▸ plain)⟩
  · intro route
    obtain ⟨profiles, ordered, listed, tells, top⟩ := WebSocketServer.Runs.ranked run
    rw [route]
    unfold ProfileHttpRouter.answer ProfileHttpRouter.handleLeaderboard
    dsimp only [router]
    obtain ⟨lower, upper⟩ := parseLimit_bounds (String.ofList ((afterFirst ['?'] request.target.toList).getD []))
    refine ⟨rfl, _, profiles, lower, upper, ordered, listed, tells, fun plain => ?_⟩
    rw [top]
    exact conveys_leaderboard _ plain

/-- Every answer to a GET request that any client gets tells what has happened in the run when the request is read,
and how the server is then. -/
theorem HttpWorld.Runs.truthful (seconds : Time → R) (ascending : ∀ seconds : R, (kWaitBuckets R).Pairwise fun a b =>
      DoubleArith.lessEq seconds a = true → DoubleArith.lessEq seconds b = true) (tickRate : R)
    {trace items : List (HttpItem (ServerItem R))} {s s' : HttpProcess (HttpWorld Time R)}
    (run : HttpProcess.Runs HttpWorld.Initial (some (HttpWorld.httpHandler seconds tickRate)) HttpWorld.perform trace s)
    {action : HttpAction (WorldAction Time R)}
    (performed : HttpProcess.perform (some (HttpWorld.httpHandler seconds tickRate)) HttpWorld.perform action s =
      some (items, s')) {client : Nat} {request : Request} {response : Response}
    (answered : .answered client request response ∈ items) (asks : request.method = .get) :
    Truthful (HttpProcess.worldItems trace) s.world.server request response := by
  have right := HttpProcess.response_of_perform performed answered
  rw [right]
  exact truthful_httpHandler seconds ascending tickRate (HttpWorld.run_server (HttpProcess.Runs.worldRun run)) asks

end answers

def HttpSession.isReading : HttpSession → Bool
  | reading => true
  | _ => false

instance : PrintedDouble Computed := inferInstanceAs (PrintedDouble ℚ)

instance : DoubleValue Computed := inferInstanceAs (DoubleValue ℚ)

theorem kWaitBuckets_ascending_computed (seconds : Computed) : (kWaitBuckets Computed).Pairwise fun a b =>
    DoubleArith.lessEq seconds a = true → DoubleArith.lessEq seconds b = true := kWaitBuckets_ascending seconds

/-- `"bob"` loses a duel against `"alice"`, with an HTTP client that has connected before it. -/
def duelWatched : List (HttpAction (WorldAction ℚ Computed)) :=
  [.start, .completeAccept 0 false, .onAccept 0] ++ duelAndPairing.map fun action => .world (.handle action)

/-- Whatever is asked for after the duel. -/
theorem truthful_duelWatched : ∃ (trace : List (ServerItem Computed)) (w : HttpWorld ℚ Computed),
    winsOf "alice" (sessionItems trace) = 1 ∧ Json.PlainBytes (bytesOf "alice") ∧
      ∀ target ∈ ["/metrics", "/profiles/alice", "/leaderboard?limit=5"],
        Truthful trace w.server ⟨.get, target, 11⟩
          (w.httpHandler (fun seconds => (seconds : ℚ)) (60 : ℚ) ⟨.get, target, 11⟩) := by
  let handler : HttpWorld ℚ Computed → Request → Response :=
    HttpWorld.httpHandler (fun seconds => (seconds : ℚ)) (60 : ℚ)
  have fresh : HttpProcess.Initial HttpWorld.Initial (⟨.new, ⟨.new (1 / 10 : ℚ), .new (1 / 60), .new (1 / 60),
      (0 : ℚ)⟩⟩ : HttpProcess (HttpWorld ℚ Computed)) := ⟨rfl, _, rfl⟩
  obtain ⟨trace, s, run, passed⟩ := exists_run_of_replay duelWatched
    (fun trace s => winsOf "alice" (sessionItems (HttpProcess.worldItems trace)) == 1 &&
      s.http.sessions[0]?.any HttpSession.isReading) fresh
    (show (replay (HttpProcess.perform (some handler) HttpWorld.perform) _ _).any _ = true by decide +kernel)
  rw [Bool.and_eq_true, beq_iff_eq] at passed
  obtain ⟨session, found, reads⟩ := (Option.any_eq_true _ _).mp passed.2
  have reading : s.http.sessions[0]? = some .reading := by
    cases session with
    | reading => exact found
    | _ => cases reads
  refine ⟨HttpProcess.worldItems trace, s.world, passed.1, by decide +kernel, ?_⟩
  intro target _
  let request : Request := ⟨.get, target, 11⟩
  have performed : HttpProcess.perform (some handler) HttpWorld.perform (.onRead 0 (some request)) s =
      some ([.answered 0 request (handler s.world request)],
        { s with http := { s.http with sessions := s.http.sessions.set 0 (.writing (handler s.world request)) } }) := by
    unfold HttpProcess.perform MetricsHttpServer.onRead
    dsimp only
    rw [reading]
    rfl
  exact HttpWorld.Runs.truthful _ kWaitBuckets_ascending_computed _ run performed List.mem_cons_self rfl

end Arena60
