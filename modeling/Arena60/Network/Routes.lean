import Arena60.Misc.ExactArith
import Arena60.Network.ProfileHttpRouter
import Arena60.Stats.RecordedTotals

/-!
# Routes

Which part of the router answers a target, against what the path of the target says, and the
lookup of a recorded player through its path.
-/

namespace Arena60

open Misc Http

universe u

/-- The part of the router that answers. -/
inductive Endpoint where
  | metrics
  | profile (playerId : String)
  | leaderboard
  | none
  deriving DecidableEq

namespace ProfileHttpRouter

/-- The part of a target before its first question mark. -/
def pathOf (target : List Char) : List Char := target.takeWhile (· != '?')

/-- What a path asks for. -/
def endpointOf (path : List Char) : Endpoint :=
  if path = "/metrics".toList then .metrics
  else if path = "/leaderboard".toList then .leaderboard
  else if "/profiles/".toList <+: path ∧ path ≠ "/profiles/".toList then
    .profile (String.ofList (path.drop "/profiles/".length))
  else .none

section answers

variable (R : Type u) [DoubleArith R] [DoubleValue R]

/-- The answer of a part of the router to a request. -/
def answer (router : ProfileHttpRouter) (request : Request) : Endpoint → Response
  | .metrics => router.handleMetrics request
  | .profile playerId => router.handleProfile R request playerId
  | .leaderboard => router.handleLeaderboard R request
      (parseLimit (String.ofList ((afterFirst ['?'] request.target.toList).getD [])))
  | .none =>
      if "/profiles/".toList <+: request.target.toList then
        request.reply .notFound "application/json" "\x7b\"error\":\"not found\"\x7d"
      else request.reply .notFound "text/plain" "Not Found"

end answers

/-- The endpoint that `Handle` chooses for a target. -/
def route (target : List Char) : Endpoint :=
  if target = "/metrics".toList then .metrics
  else if "/profiles/".toList <+: target then
    if pathOf (target.drop "/profiles/".length) = [] then .none
    else .profile (String.ofList (pathOf (target.drop "/profiles/".length)))
  else if "/leaderboard".toList <+: target then .leaderboard
  else .none

/-- What the path of a target needs to be answered by it: it is no path of the metrics in front of a query,
and nothing follows the path of the leaderboard. -/
def PathDecides (target : List Char) : Prop :=
  ¬(pathOf target = "/metrics".toList ∧ '?' ∈ target) ∧
    ¬("/leaderboard".toList <+: pathOf target ∧ pathOf target ≠ "/leaderboard".toList)

/-! ## Paths -/

theorem pathOf_append {first : List Char} (plain : '?' ∉ first) (rest : List Char) :
    pathOf (first ++ rest) = first ++ pathOf rest := by
  rw [pathOf, List.takeWhile_append_of_pos]
  · rfl
  · intro c member
    rw [bne_iff_ne]
    rintro rfl
    exact plain member

theorem pathOf_query {path : List Char} (plain : '?' ∉ path) (query : List Char) :
    pathOf (path ++ '?' :: query) = path := by
  rw [pathOf_append plain]
  exact List.append_nil path

theorem pathOf_plain (target : List Char) : '?' ∉ pathOf target := by
  intro member
  have kept := List.mem_takeWhile_imp member
  simp at kept

/-- A text without a question mark begins a target if it begins the path. -/
theorem prefix_pathOf {first : List Char} (plain : '?' ∉ first) (target : List Char) :
    first <+: pathOf target ↔ first <+: target := by
  constructor
  · intro begins
    exact begins.trans (List.takeWhile_prefix _)
  · rintro ⟨rest, rfl⟩
    rw [pathOf_append plain]
    exact List.prefix_append first _

theorem pathOf_eq_self_iff (target : List Char) : pathOf target = target ↔ '?' ∉ target := by
  constructor
  · intro same member
    rw [← same] at member
    exact pathOf_plain target member
  · intro plain
    have whole := pathOf_append plain []
    rw [List.append_nil] at whole
    exact whole.trans (List.append_nil target)

/-! ## The choice of the code -/

/-- What a target that is not the path of the metrics is routed by. -/
def routeByPath (path : List Char) : Endpoint :=
  if "/profiles/".toList <+: path then
    if path.drop "/profiles/".length = [] then .none
    else .profile (String.ofList (path.drop "/profiles/".length))
  else if "/leaderboard".toList <+: path then .leaderboard
  else .none

theorem route_eq_routeByPath {target : List Char} (other : target ≠ "/metrics".toList) :
    route target = routeByPath (pathOf target) := by
  have profiles : '?' ∉ "/profiles/".toList := by decide
  have leaderboard : '?' ∉ "/leaderboard".toList := by decide
  rw [route, if_neg other, routeByPath]
  simp only [prefix_pathOf profiles, prefix_pathOf leaderboard]
  by_cases begins : "/profiles/".toList <+: target
  · rw [if_pos begins, if_pos begins]
    obtain ⟨rest, rfl⟩ := begins
    have cut : ("/profiles/".toList ++ rest).drop "/profiles/".length = rest := List.drop_left
    have cut' : (pathOf ("/profiles/".toList ++ rest)).drop "/profiles/".length = pathOf rest := by
      rw [pathOf_append profiles]
      exact List.drop_left
    rw [cut, cut']
  · rw [if_neg begins, if_neg begins]

/-- A path of a profile does not begin like that of the leaderboard. -/
theorem not_leaderboard_of_profiles {path : List Char} (profiles : "/profiles/".toList <+: path) :
    ¬"/leaderboard".toList <+: path := by
  intro board
  have either := List.prefix_or_prefix_of_prefix profiles board
  revert either
  decide

theorem routeByPath_eq_iff {path : List Char} (other : path ≠ "/metrics".toList) :
    routeByPath path = endpointOf path ↔
      ¬("/leaderboard".toList <+: path ∧ path ≠ "/leaderboard".toList) := by
  rw [routeByPath, endpointOf, if_neg other]
  by_cases profiles : "/profiles/".toList <+: path
  · have apart := not_leaderboard_of_profiles profiles
    obtain ⟨rest, rfl⟩ := profiles
    have cut : ("/profiles/".toList ++ rest).drop "/profiles/".length = rest := List.drop_left
    have notBoard : ¬"/profiles/".toList ++ rest = "/leaderboard".toList := by
      intro same
      exact apart (same ▸ List.prefix_refl _)
    rw [if_pos (List.prefix_append _ _), if_neg notBoard, cut]
    refine iff_of_true ?_ fun board => apart board.1
    by_cases empty : rest = []
    · rw [if_pos empty, empty]
      rfl
    · have longer : "/profiles/".toList ++ rest ≠ "/profiles/".toList := by
        simpa using empty
      rw [if_neg empty, if_pos ⟨List.prefix_append _ _, longer⟩]
  · rw [if_neg profiles]
    have unnamed : ¬("/profiles/".toList <+: path ∧ path ≠ "/profiles/".toList) := fun both => profiles both.1
    by_cases board : "/leaderboard".toList <+: path
    · rw [if_pos board]
      by_cases exactly : path = "/leaderboard".toList
      · rw [if_pos exactly]
        exact iff_of_true rfl fun both => both.2 exactly
      · rw [if_neg exactly, if_neg unnamed]
        exact iff_of_false nofun fun neither => neither ⟨board, exactly⟩
    · have notBoard : ¬path = "/leaderboard".toList := by
        intro same
        exact board (same ▸ List.prefix_refl _)
      rw [if_neg board, if_neg notBoard, if_neg unnamed]
      exact iff_of_true rfl fun both => board both.1

/-- The code goes by the path exactly when the path decides. -/
theorem route_eq_iff (target : List Char) : route target = endpointOf (pathOf target) ↔ PathDecides target := by
  by_cases metrics : target = "/metrics".toList
  · subst metrics
    have plain : '?' ∉ "/metrics".toList := by decide
    refine iff_of_true rfl ⟨fun both => plain both.2, ?_⟩
    decide
  · rw [route_eq_routeByPath metrics, PathDecides]
    by_cases path : pathOf target = "/metrics".toList
    · have query : '?' ∈ target := by
        by_contra plain
        rw [← pathOf_eq_self_iff] at plain
        exact metrics (plain.symm.trans path)
      rw [path]
      exact iff_of_false (by decide) fun both => both.1 ⟨rfl, query⟩
    · rw [routeByPath_eq_iff path]
      exact (and_iff_right fun both => path both.1).symm

/-- A query changes the endpoint of the metrics only. -/
theorem route_query_iff {path : List Char} (plain : '?' ∉ path) :
    (∀ query, route (path ++ '?' :: query) = route path) ↔ path ≠ "/metrics".toList := by
  have marked : ∀ query, path ++ '?' :: query ≠ "/metrics".toList := by
    intro query same
    have free : '?' ∉ "/metrics".toList := by decide
    exact free (same ▸ List.mem_append_right path List.mem_cons_self)
  constructor
  · rintro same rfl
    have changed := same []
    revert changed
    decide
  · intro other query
    rw [route_eq_routeByPath (marked query), route_eq_routeByPath other, pathOf_query plain,
      (pathOf_eq_self_iff path).mpr plain]

/-! ## The answers -/

section handle

variable (R : Type u) [DoubleArith R] [DoubleValue R] (router : ProfileHttpRouter) {request : Request}

theorem handle_eq_answer (get : request.method = .get) :
    router.handle R request = router.answer R request (route request.target.toList) := by
  have same : request.target = "/metrics" ↔ request.target.toList = "/metrics".toList := String.toList_inj.symm
  unfold handle route
  simp only [get, ne_eq, not_true_eq_false, if_false, same, List.isPrefixOf_iff_prefix]
  by_cases metrics : request.target.toList = "/metrics".toList
  · rw [if_pos metrics, if_pos metrics]
    rfl
  · rw [if_neg metrics, if_neg metrics]
    by_cases profiles : "/profiles/".toList <+: request.target.toList
    · rw [if_pos profiles, if_pos profiles]
      by_cases empty : pathOf (request.target.toList.drop "/profiles/".length) = []
      · rw [if_pos empty, answer.eq_def]
        exact (if_pos empty).trans (if_pos profiles).symm
      · rw [if_neg empty]
        exact if_neg empty
    · rw [if_neg profiles, if_neg profiles]
      by_cases board : "/leaderboard".toList <+: request.target.toList
      · rw [if_pos board, if_pos board]
        rfl
      · rw [if_neg board, if_neg board]
        exact (if_neg profiles).symm

/-- The answers of the endpoints that the code can mistake for one another differ. -/
theorem answer_status (endpoint : Endpoint) (request : Request) :
    (router.answer R request endpoint).status =
      match endpoint with
      | .metrics => .ok
      | .profile playerId => (router.handleProfile R request playerId).status
      | .leaderboard => if router.profileService.isSome then .ok else .serviceUnavailable
      | .none => .notFound := by
  cases endpoint with
  | metrics => rfl
  | profile playerId => rfl
  | leaderboard =>
      rw [answer.eq_def]
      dsimp only
      rw [handleLeaderboard]
      cases router.profileService <;> rfl
  | none =>
      rw [answer.eq_def]
      dsimp only
      split_ifs <;> rfl

/-- Where the path does not decide, metrics are not found or something is answered like the leaderboard. -/
theorem route_of_undecided {target : List Char} (undecided : ¬PathDecides target) :
    (route target = .none ∧ endpointOf (pathOf target) = .metrics) ∨
      (route target = .leaderboard ∧ endpointOf (pathOf target) = .none) := by
  have apart : ¬"/leaderboard".toList <+: "/metrics".toList := by decide
  rw [PathDecides, not_and_or, not_not, not_not] at undecided
  rcases undecided with ⟨path, query⟩ | ⟨board, longer⟩
  · have other : target ≠ "/metrics".toList := by
      rintro rfl
      revert query
      decide
    rw [route_eq_routeByPath other, path]
    exact Or.inl (by decide)
  · have notMetrics : pathOf target ≠ "/metrics".toList := by
      intro same
      exact apart (same ▸ board)
    have other : target ≠ "/metrics".toList := by
      rintro rfl
      exact notMetrics (by decide)
    have notProfiles : ¬"/profiles/".toList <+: pathOf target := fun profiles =>
      not_leaderboard_of_profiles profiles board
    right
    rw [route_eq_routeByPath other, routeByPath, if_neg notProfiles, if_pos board, endpointOf,
      if_neg notMetrics, if_neg longer, if_neg fun both => notProfiles both.1]
    exact ⟨rfl, rfl⟩

theorem handle_eq_answer_iff (get : request.method = .get) :
    router.handle R request = router.answer R request (endpointOf (pathOf request.target.toList)) ↔
      PathDecides request.target.toList := by
  rw [handle_eq_answer R router get]
  constructor
  · intro same
    by_contra undecided
    have statuses := congrArg Response.status same
    rw [answer_status, answer_status] at statuses
    rcases route_of_undecided undecided with ⟨code, path⟩ | ⟨code, path⟩
    · rw [code, path] at statuses
      cases statuses
    · rw [code, path] at statuses
      dsimp only at statuses
      split_ifs at statuses
  · intro decides
    rw [(route_eq_iff _).mpr decides]

/-- A GET request is answered by an endpoint that the code chooses. It is the one that the path asks for
exactly when the path decides; and a query changes it for the path of the metrics only. -/
theorem handle_by_path (get : request.method = .get) :
    router.handle R request = router.answer R request (route request.target.toList) ∧
    (router.handle R request = router.answer R request (endpointOf (pathOf request.target.toList)) ↔
      PathDecides request.target.toList) ∧
    ((∀ query, route (pathOf request.target.toList ++ '?' :: query) = route (pathOf request.target.toList)) ↔
      pathOf request.target.toList ≠ "/metrics".toList) :=
  ⟨handle_eq_answer R router get, handle_eq_answer_iff R router get, route_query_iff (pathOf_plain _)⟩

end handle

theorem handle_by_path_leaderboard :
    let router : ProfileHttpRouter := ⟨none, none⟩
    let request : Request := ⟨.get, "/leaderboard?limit=5", 11⟩
    router.handle ℚ request = router.answer ℚ request .leaderboard := by
  intro router request
  have decides : PathDecides request.target.toList := by
    unfold PathDecides
    decide
  have asked : endpointOf (pathOf request.target.toList) = .leaderboard := by decide
  rw [← asked]
  exact (handle_by_path ℚ router rfl).2.1.mpr decides

/-- The path of the metrics in front of a query. -/
theorem handle_metricsQuery : ¬∀ (router : ProfileHttpRouter) (request : Request), request.method = .get →
    router.handle ℚ request = router.answer ℚ request (endpointOf (pathOf request.target.toList)) := by
  intro always
  have decides := (handle_eq_answer_iff ℚ ⟨none, none⟩ rfl).mp (always ⟨none, none⟩ ⟨.get, "/metrics?x=1", 11⟩ rfl)
  revert decides
  unfold PathDecides
  decide

/-! ## Players -/

section players

variable (R : Type u) [DoubleConversions R] [DoubleValue R]

/-- The answer for a target that ends in an id is the lookup of the id up to a question mark. -/
theorem handle_profile (router : ProfileHttpRouter) (playerId : String) (version : Nat) :
    router.handle R ⟨.get, "/profiles/" ++ playerId, version⟩ =
      let request : Request := ⟨.get, "/profiles/" ++ playerId, version⟩
      if pathOf playerId.toList = [] then
        request.reply .notFound "application/json" "\x7b\"error\":\"not found\"\x7d"
      else router.handleProfile R request (String.ofList (pathOf playerId.toList)) := by
  have target : ("/profiles/" ++ playerId).toList = "/profiles/".toList ++ playerId.toList :=
    String.toList_append
  have begins : "/profiles/".toList <+: "/profiles/".toList ++ playerId.toList := List.prefix_append _ _
  have cut : ("/profiles/".toList ++ playerId.toList).drop "/profiles/".length = playerId.toList :=
    List.drop_left
  have other : ¬"/profiles/".toList ++ playerId.toList = "/metrics".toList := by
    intro same
    rw [same] at begins
    revert begins
    decide
  rw [handle_eq_answer R router rfl]
  dsimp only
  rw [target, route, if_neg other, if_pos begins, cut]
  by_cases empty : pathOf playerId.toList = []
  · rw [if_pos empty, if_pos empty, answer.eq_def]
    dsimp only
    rw [target, if_pos begins]
  · rw [if_neg empty, if_neg empty]
    rfl

/-- After any results, a player whose id has no question mark is looked up by it. -/
theorem handle_recorded (leaderboard : Option InMemoryLeaderboardStore) (results : List MatchResult)
    (metrics : Option String) (version : Nat) {playerId : String} {profile : PlayerProfile}
    (known : (PlayerProfileService.after R leaderboard results).getProfile playerId = some profile)
    (named : playerId ≠ "") (plain : '?' ∉ playerId.toList) :
    let router : ProfileHttpRouter := ⟨metrics, some (PlayerProfileService.after R leaderboard results)⟩
    let response := router.handle R ⟨.get, "/profiles/" ++ playerId, version⟩
    response.status.code = 200 ∧ response.contentType = "application/json" ∧
      response.body = PlayerProfileService.serializeProfile R profile ∧ profile.playerId = playerId := by
  intro router response
  have whole : pathOf playerId.toList = playerId.toList := (pathOf_eq_self_iff _).mpr plain
  have some : ¬playerId.toList = [] := by
    intro empty
    exact named (String.toList_eq_nil_iff.mp empty)
  have answered : response = (⟨.get, "/profiles/" ++ playerId, version⟩ : Request).reply .ok "application/json"
      (PlayerProfileService.serializeProfile R profile) := by
    show router.handle R _ = _
    rw [handle_profile]
    dsimp only
    rw [whole, if_neg some, String.ofList_toList, handleProfile]
    dsimp only [router]
    rw [known]
  rw [answered]
  exact ⟨rfl, rfl, rfl, (PlayerProfileService.sumsUp_getProfile R leaderboard results known).name⟩

end players

/-- One result with two players. -/
def onlyResult : MatchResult := ⟨"m", "a?b", "c", 0, []⟩

theorem handle_recorded_c : ∃ profile,
    (PlayerProfileService.after ℚ none [onlyResult]).getProfile "c" = some profile ∧
      ((ProfileHttpRouter.mk none (some (PlayerProfileService.after ℚ none [onlyResult]))).handle ℚ
        ⟨.get, "/profiles/" ++ "c", 11⟩).body = PlayerProfileService.serializeProfile ℚ profile := by
  have mentioned : ∃ result ∈ [onlyResult], result.Mentions "c" :=
    ⟨onlyResult, List.mem_singleton_self _, Or.inr (Or.inl rfl)⟩
  obtain ⟨profile, known⟩ := Option.isSome_iff_exists.mp
    ((PlayerProfileService.getProfile_isSome_iff ℚ none [onlyResult] "c").mpr mentioned)
  exact ⟨profile, known, (handle_recorded ℚ none [onlyResult] none 11 known (by decide) (by decide)).2.2.1⟩

/-- The winner's id is cut at its question mark, and nobody has what is left of it. -/
theorem handle_recorded_query : ¬∀ (results : List MatchResult) (playerId : String) (profile : PlayerProfile),
    playerId ≠ "" → playerId.toList.any Char.isWhitespace = false →
    (PlayerProfileService.after ℚ none results).getProfile playerId = some profile →
    ((ProfileHttpRouter.mk none (some (PlayerProfileService.after ℚ none results))).handle ℚ
      ⟨.get, "/profiles/" ++ playerId, 11⟩).status.code = 200 := by
  intro always
  have mentioned : ∃ result ∈ [onlyResult], result.Mentions "a?b" :=
    ⟨onlyResult, List.mem_singleton_self _, Or.inl rfl⟩
  obtain ⟨profile, known⟩ := Option.isSome_iff_exists.mp
    ((PlayerProfileService.getProfile_isSome_iff ℚ none [onlyResult] "a?b").mpr mentioned)
  have found := always [onlyResult] "a?b" profile (by decide) (by decide) known
  have unknown : (PlayerProfileService.after ℚ none [onlyResult]).getProfile "a" = none := by
    rw [← Option.not_isSome_iff_eq_none, PlayerProfileService.getProfile_isSome_iff]
    rintro ⟨result, member, mentions⟩
    rw [List.mem_singleton.mp member] at mentions
    rcases mentions with winner | loser | ⟨entry, listed, _⟩
    · revert winner
      decide
    · revert loser
      decide
    · cases listed
  rw [handle_profile] at found
  have cut : pathOf "a?b".toList = "a".toList := by decide
  dsimp only at found
  rw [cut, if_neg (by decide), String.ofList_toList, handleProfile] at found
  dsimp only at found
  rw [unknown] at found
  cases found

end ProfileHttpRouter

end Arena60
