import Arena60.Core.GameLoop
import Arena60.Game.CombatTotals
import Arena60.Matchmaking.MatchmakingMetrics
import Arena60.Misc.Exposition
import Arena60.Misc.GeneralNotation
import Arena60.Network.Lobby
import Arena60.Network.ProfileHttpRouter
import Arena60.Network.QueueEvents
import Arena60.Network.ServerParts
import Arena60.Stats.RecordedTotals

/-!
# The metrics of the server

The `MetricsSnapshot` functions and `metrics_provider` of `main.cpp`. What `GET /metrics` answers is read
back as a list of metrics, whose values are what happened in the run.
-/

namespace Arena60

open Misc Misc.DoubleArith

universe u v

/-! ## The texts -/

section texts

variable {R : Type u} [DoubleConversions R] [PrintedDouble R]

/-- `operator<<` for a `double`. -/
def print (x : R) : String := .ofList (printDouble x)

omit [DoubleConversions R] [PrintedDouble R] in
/-- `GameSession::MetricsSnapshot`. -/
def GameSession.metricsSnapshot (s : GameSession R) : String :=
  let activeProjectiles := s.projectiles.countP Projectile.active
  let oss := "# TYPE projectiles_active gauge\n"
  let oss := oss ++ ("projectiles_active " ++ toString activeProjectiles ++ "\n")
  let oss := oss ++ "# TYPE projectiles_spawned_total counter\n"
  let oss := oss ++ ("projectiles_spawned_total " ++ toString s.projectilesSpawnedTotal ++ "\n")
  let oss := oss ++ "# TYPE projectiles_hits_total counter\n"
  let oss := oss ++ ("projectiles_hits_total " ++ toString s.projectilesHitsTotal ++ "\n")
  let oss := oss ++ "# TYPE players_dead_total counter\n"
  let oss := oss ++ ("players_dead_total " ++ toString s.playersDeadTotal ++ "\n")
  let oss := oss ++ "# TYPE collisions_checked_total counter\n"
  oss ++ ("collisions_checked_total " ++ toString s.collisionsCheckedTotal ++ "\n")

omit [DoubleConversions R] [PrintedDouble R] in
/-- `WebSocketServer::MetricsSnapshot`. -/
def WebSocketServer.metricsSnapshot (s : WebSocketServer R) : String :=
  let oss := "# TYPE websocket_connections_total gauge\n"
  let oss := oss ++ ("websocket_connections_total " ++ toString s.connectionCount.toNat ++ "\n")
  oss ++ s.session.metricsSnapshot

omit [DoubleConversions R] in
/-- `PostgresStorage::MetricsSnapshot`. -/
def PostgresStorage.metricsSnapshot (lastQuerySeconds : R) : String :=
  let oss := "# TYPE database_query_duration_seconds gauge\n"
  oss ++ ("database_query_duration_seconds " ++ print lastQuerySeconds ++ "\n")

section loop

variable {Time : Type v} (seconds : Time → R)

omit [PrintedDouble R] in
/-- `GameLoop::CurrentTickRate`; `seconds` converts a duration to `double`. -/
def GameLoop.currentTickRate (tickRate : R) (loop : GameLoop Time Unit) : R :=
  match loop.lastDurations.getLast? with
  | none => tickRate
  | some latest =>
      let latest := seconds latest
      if lessEq latest (ofRat 0) && lessEq (ofRat 0) latest then tickRate else ofRat 1 / latest

/-- `GameLoop::PrometheusSnapshot`. The Run thread may go on between the two sections under
`metrics_mutex_`, so that they find the loop in two states. -/
def GameLoop.prometheusSnapshot (tickRate : R) (rated timed : GameLoop Time Unit) : String :=
  let oss := "# TYPE game_tick_rate gauge\n"
  let oss := oss ++ ("game_tick_rate " ++ print (rated.currentTickRate seconds tickRate) ++ "\n")
  let lastDuration := seconds (timed.lastDurations.getLast?.getD timed.targetDelta)
  let oss := oss ++ "# TYPE game_tick_duration_seconds gauge\n"
  oss ++ ("game_tick_duration_seconds " ++ print lastDuration ++ "\n")

/-- `metrics_provider` of `main`, which the thread that runs all handlers of the server calls. -/
def metricsProvider (tickRate lastQuerySeconds : R) (rated timed : GameLoop Time Unit) (s : WebSocketServer R) :
    String :=
  let oss := GameLoop.prometheusSnapshot seconds tickRate rated timed
  let oss := oss ++ s.metricsSnapshot
  let oss := oss ++ PostgresStorage.metricsSnapshot lastQuerySeconds
  let oss := oss ++ s.matchmaker.metricsSnapshot print
  oss ++ s.profiles.metricsSnapshot

end loop

end texts

/-! ## The metrics of the texts -/

section families

variable {R : Type u} [DoubleConversions R] [PrintedDouble R]

def gauge (name value : String) : MetricFamily := .single name "gauge" value

def counter (name : String) (value : Nat) : MetricFamily := .single name "counter" (toString value)

omit [DoubleConversions R] [PrintedDouble R] in
def GameSession.metricFamilies (s : GameSession R) : List MetricFamily :=
  [gauge "projectiles_active" (toString (s.projectiles.countP Projectile.active)),
    counter "projectiles_spawned_total" s.projectilesSpawnedTotal,
    counter "projectiles_hits_total" s.projectilesHitsTotal,
    counter "players_dead_total" s.playersDeadTotal,
    counter "collisions_checked_total" s.collisionsCheckedTotal]

def PlayerProfileService.metricFamilies (service : PlayerProfileService) : List MetricFamily :=
  [gauge "player_profiles_total" (toString service.aggregates.size),
    gauge "leaderboard_entries_total" (toString service.leaderboardEntriesTotal),
    counter "matches_recorded_total" service.matchesRecordedTotal,
    counter "rating_updates_total" service.ratingUpdatesTotal]

/-- The lines of a metric with one sample. -/
theorem expositionText_single (header label : String) {name kind : String}
    (declares : header = "# TYPE " ++ name ++ " " ++ kind ++ "\n") (labels : label = name ++ " ") (value : String)
    (families : List MetricFamily) : expositionText (.single name kind value :: families) =
      header ++ (label ++ value ++ "\n") ++ expositionText families := by
  unfold expositionText MetricFamily.single
  rw [declares, labels, List.map_cons, String.join_cons, MetricFamily.text, List.map_singleton, String.join_cons,
    String.join_nil, String.append_empty, Sample.text, boundText, String.append_empty]

theorem expositionText_nil : expositionText [] = "" := rfl

theorem expositionText_append (families families' : List MetricFamily) :
    expositionText (families ++ families') = expositionText families ++ expositionText families' := by
  unfold expositionText
  rw [List.map_append, String.join_append]

omit [DoubleConversions R] [PrintedDouble R] in
theorem GameSession.metricsSnapshot_eq (s : GameSession R) :
    s.metricsSnapshot = expositionText s.metricFamilies := by
  unfold metricsSnapshot metricFamilies gauge counter
  rw [expositionText_single "# TYPE projectiles_active gauge\n" "projectiles_active " (by decide) (by decide),
    expositionText_single "# TYPE projectiles_spawned_total counter\n" "projectiles_spawned_total " (by decide) (by decide),
    expositionText_single "# TYPE projectiles_hits_total counter\n" "projectiles_hits_total " (by decide) (by decide),
    expositionText_single "# TYPE players_dead_total counter\n" "players_dead_total " (by decide) (by decide),
    expositionText_single "# TYPE collisions_checked_total counter\n" "collisions_checked_total " (by decide)
      (by decide), expositionText_nil]
  simp only [String.append_assoc, String.append_empty, -String.reduceAppend]

theorem PlayerProfileService.metricsSnapshot_eq (service : PlayerProfileService) :
    service.metricsSnapshot = expositionText service.metricFamilies := by
  unfold metricsSnapshot metricsLines metricFamilies gauge counter
  rw [expositionText_single "# TYPE player_profiles_total gauge\n" "player_profiles_total " (by decide) (by decide),
    expositionText_single "# TYPE leaderboard_entries_total gauge\n" "leaderboard_entries_total " (by decide) (by decide),
    expositionText_single "# TYPE matches_recorded_total counter\n" "matches_recorded_total " (by decide) (by decide),
    expositionText_single "# TYPE rating_updates_total counter\n" "rating_updates_total " (by decide) (by decide),
    expositionText_nil]
  simp only [String.append_assoc, String.append_empty, -String.reduceAppend]

/-- The metrics of a matchmaker with these values. -/
def matchmakerFamilies (queueSize matchesTotal : Nat) (buckets : List (R × Nat)) (sum : R) (count : Nat) :
    List MetricFamily :=
  [gauge "matchmaking_queue_size" (toString queueSize), counter "matchmaking_matches_total" matchesTotal,
    .histogram "matchmaking_wait_seconds" (buckets.map fun bucket => (print bucket.1, bucket.2)) count (print sum)]

/-- The line of a bucket. -/
theorem bucket_text (bound value : String) :
    (Sample.mk ("matchmaking_wait_seconds" ++ "_bucket") (some bound) value).text =
      "matchmaking_wait_seconds_bucket\x7ble=\"" ++ bound ++ "\"\x7d " ++ value ++ "\n" := by
  have before : "matchmaking_wait_seconds_bucket\x7ble=\"" = "matchmaking_wait_seconds" ++ "_bucket" ++ "\x7ble=\"" := by
    decide
  have after : "\"\x7d " = "\"\x7d" ++ " " := by decide
  rw [Sample.text, boundText, before, after]
  simp only [String.append_assoc, -String.reduceAppend]

omit [DoubleConversions R] in
theorem histogram_text (buckets : List (R × Nat)) (count : Nat) (sum : String) :
    (MetricFamily.histogram "matchmaking_wait_seconds" (buckets.map fun bucket => (print bucket.1, bucket.2)) count
      sum).text =
      "# TYPE matchmaking_wait_seconds histogram\n" ++
        String.join (buckets.map fun bucket => bucketLine print bucket.1 bucket.2) ++
        ("matchmaking_wait_seconds_bucket\x7ble=\"+Inf\"\x7d " ++ toString count ++ "\n") ++
        ("matchmaking_wait_seconds_sum " ++ sum ++ "\n") ++
        ("matchmaking_wait_seconds_count " ++ toString count ++ "\n") := by
  have header : "# TYPE matchmaking_wait_seconds histogram\n" =
      "# TYPE " ++ "matchmaking_wait_seconds" ++ " " ++ "histogram" ++ "\n" := by decide
  have infinite : "matchmaking_wait_seconds_bucket\x7ble=\"+Inf\"\x7d " =
      "matchmaking_wait_seconds_bucket\x7ble=\"" ++ "+Inf" ++ "\"\x7d " := by decide
  have sumLabel : "matchmaking_wait_seconds_sum " = "matchmaking_wait_seconds" ++ "_sum" ++ " " := by decide
  have countLabel : "matchmaking_wait_seconds_count " = "matchmaking_wait_seconds" ++ "_count" ++ " " := by decide
  have lines : (buckets.map fun bucket => (print bucket.1, bucket.2)).map
      (fun bucket => (Sample.mk ("matchmaking_wait_seconds" ++ "_bucket") (some bucket.1) (toString bucket.2)).text) =
        buckets.map fun bucket => bucketLine print bucket.1 bucket.2 := by
    rw [List.map_map]
    refine List.map_congr_left fun bucket _ => ?_
    exact bucket_text _ _
  have single (name value : String) : (Sample.mk name none value).text = name ++ " " ++ value ++ "\n" := by
    rw [Sample.text, boundText, String.append_empty]
  unfold MetricFamily.histogram MetricFamily.text
  dsimp only
  rw [List.map_append, List.map_map, String.join_append, Function.comp_def, lines, List.map_cons, List.map_cons,
    List.map_singleton, String.join_cons, String.join_cons, String.join_cons, String.join_nil, bucket_text, single,
    single, header, infinite, sumLabel, countLabel]
  simp only [String.append_assoc, String.append_empty, -String.reduceAppend]

omit [DoubleConversions R] in
theorem metricsText_eq (queueSize matchesTotal : Nat) (buckets : List (R × Nat)) (sum : R) (count : Nat) :
    metricsText print queueSize matchesTotal buckets count sum count =
      expositionText (matchmakerFamilies queueSize matchesTotal buckets sum count) := by
  unfold matchmakerFamilies gauge counter
  rw [expositionText_single "# TYPE matchmaking_queue_size gauge\n" "matchmaking_queue_size " (by decide) (by decide),
    expositionText_single "# TYPE matchmaking_matches_total counter\n" "matchmaking_matches_total " (by decide)
      (by decide)]
  have last (family : MetricFamily) : expositionText [family] = family.text := by
    rw [expositionText, List.map_singleton, String.join_cons, String.join_nil, String.append_empty]
  rw [last, histogram_text]
  unfold metricsText
  simp only [String.append_assoc, -String.reduceAppend]

section document

variable {Time : Type v} (seconds : Time → R)

/-- The metrics that `metrics_provider` writes, with the waits the matchmaker has observed. -/
def serverFamilies (tickRate lastQuerySeconds : R) (rated timed : GameLoop Time Unit) (s : WebSocketServer R)
    (waits : List R) : List MetricFamily :=
  [gauge "game_tick_rate" (print (rated.currentTickRate seconds tickRate)),
    gauge "game_tick_duration_seconds" (print (seconds (timed.lastDurations.getLast?.getD timed.targetDelta))),
    gauge "websocket_connections_total" (toString s.connectionCount.toNat)] ++
  s.session.metricFamilies ++
  [gauge "database_query_duration_seconds" (print lastQuerySeconds)] ++
  matchmakerFamilies s.matchmaker.queue.size s.matchmaker.matchesCreated
    ((kWaitBuckets R).map fun bound => (bound, waits.countP (lessEq · bound))) s.matchmaker.waitSum waits.length ++
  s.profiles.metricFamilies

theorem metricsProvider_eq (tickRate lastQuerySeconds : R) (rated timed : GameLoop Time Unit)
    {s : WebSocketServer R} {records : List MatchingRecord} (metrics : s.matchmaker.Metrics records) :
    metricsProvider seconds tickRate lastQuerySeconds rated timed s =
      expositionText (serverFamilies seconds tickRate lastQuerySeconds rated timed s (waitsOf R records)) := by
  have matchmaker := s.matchmaker.metricsSnapshot_eq print metrics.metered metrics.size
  rw [metricsText_eq] at matchmaker
  unfold metricsProvider serverFamilies GameLoop.prometheusSnapshot WebSocketServer.metricsSnapshot
    PostgresStorage.metricsSnapshot gauge
  rw [matchmaker, metrics.metered.created, GameSession.metricsSnapshot_eq, PlayerProfileService.metricsSnapshot_eq,
    expositionText_append, expositionText_append, expositionText_append, expositionText_append,
    expositionText_single "# TYPE game_tick_rate gauge\n" "game_tick_rate " (by decide) (by decide),
    expositionText_single "# TYPE game_tick_duration_seconds gauge\n" "game_tick_duration_seconds " (by decide) (by decide),
    expositionText_single "# TYPE websocket_connections_total gauge\n" "websocket_connections_total " (by decide)
      (by decide),
    expositionText_single "# TYPE database_query_duration_seconds gauge\n" "database_query_duration_seconds "
      (by decide) (by decide), expositionText_nil]
  simp only [String.append_assoc, String.append_empty, -String.reduceAppend]

/-! ## The format -/

theorem proper_gauge {name value : String} (named : (name.toList.all isNameChar) = true)
    (unbroken : '\n' ∉ value.toList) : (gauge name value).Proper :=
  MetricFamily.proper_single named (by decide) unbroken

theorem proper_counter {name : String} (named : (name.toList.all isNameChar) = true) (n : Nat) :
    (counter name n).Proper :=
  MetricFamily.proper_single named (by decide) (newline_free_toString n)

omit [DoubleConversions R] in
theorem toList_print (x : R) : (print x).toList = printDouble x := by
  unfold print
  exact String.toList_ofList

omit [DoubleConversions R] in
/-- What is printed of a `double` may stand in a line and in quotes. -/
theorem print_free (x : R) : '"' ∉ (print x).toList ∧ '\n' ∉ (print x).toList := by
  rw [toList_print]
  constructor
  · intro member
    have numeral := isNumeral_printDouble x '"' member
    cases numeral
  · intro member
    have numeral := isNumeral_printDouble x '\n' member
    cases numeral

/-- The metrics of the server keep to the format. -/
theorem proper_serverFamilies (tickRate lastQuerySeconds : R) (rated timed : GameLoop Time Unit)
    (s : WebSocketServer R) (waits : List R) : ∀ family ∈ serverFamilies seconds tickRate lastQuerySeconds rated
      timed s waits, family.Proper := by
  have waiting : (MetricFamily.histogram "matchmaking_wait_seconds"
      (((kWaitBuckets R).map fun bound => (bound, waits.countP (lessEq · bound))).map fun bucket =>
        (print bucket.1, bucket.2)) waits.length (print s.matchmaker.waitSum)).Proper := by
    have named : ("matchmaking_wait_seconds".toList.all isNameChar) = true := by decide
    refine MetricFamily.proper_histogram named ?_ (print_free _).2 _
    intro bucket member
    obtain ⟨bound, -, rfl⟩ := List.mem_map.mp member
    exact print_free _
  simp only [serverFamilies, GameSession.metricFamilies, matchmakerFamilies, PlayerProfileService.metricFamilies,
    List.cons_append, List.nil_append, List.forall_mem_cons]
  exact ⟨proper_gauge (by decide) (print_free _).2, proper_gauge (by decide) (print_free _).2,
    proper_gauge (by decide) (newline_free_toString _), proper_gauge (by decide) (newline_free_toString _),
    proper_counter (by decide) _, proper_counter (by decide) _, proper_counter (by decide) _,
    proper_counter (by decide) _, proper_gauge (by decide) (print_free _).2,
    proper_gauge (by decide) (newline_free_toString _), proper_counter (by decide) _, waiting,
    proper_gauge (by decide) (newline_free_toString _), proper_gauge (by decide) (newline_free_toString _),
    proper_counter (by decide) _, proper_counter (by decide) _, fun _ none => absurd none List.not_mem_nil⟩

/-- The metrics of the server are well formed, if the bounds of the buckets ascend. -/
theorem wellFormed_serverFamilies (ascending : ∀ seconds : R, (kWaitBuckets R).Pairwise fun a b =>
      lessEq seconds a = true → lessEq seconds b = true) (tickRate lastQuerySeconds : R)
    (rated timed : GameLoop Time Unit) (s : WebSocketServer R) (waits : List R) :
    WellFormedExposition (serverFamilies seconds tickRate lastQuerySeconds rated timed s waits) := by
  have waiting : (MetricFamily.histogram "matchmaking_wait_seconds"
      (((kWaitBuckets R).map fun bound => (bound, waits.countP (lessEq · bound))).map fun bucket =>
        (print bucket.1, bucket.2)) waits.length (print s.matchmaker.waitSum)).Shaped := by
    refine .histogram _ _ _ _ ?_
    have ordered := Tallied.sums_ascending waits ascending
    rw [List.map_map, List.map_map]
    exact ordered
  have gauge (name value : String) : (gauge name value).Shaped := .single _ _ _ (by decide)
  have counter (name : String) (n : Nat) : (counter name n).Shaped := .single _ _ _ (by decide)
  constructor
  · show List.Nodup ["game_tick_rate", "game_tick_duration_seconds", "websocket_connections_total",
      "projectiles_active", "projectiles_spawned_total", "projectiles_hits_total", "players_dead_total",
      "collisions_checked_total", "database_query_duration_seconds", "matchmaking_queue_size",
      "matchmaking_matches_total", "matchmaking_wait_seconds", "player_profiles_total", "leaderboard_entries_total",
      "matches_recorded_total", "rating_updates_total"]
    decide
  · simp only [serverFamilies, GameSession.metricFamilies, matchmakerFamilies, PlayerProfileService.metricFamilies,
      List.cons_append, List.nil_append, List.forall_mem_cons]
    exact ⟨gauge _ _, gauge _ _, gauge _ _, gauge _ _, counter _ _, counter _ _, counter _ _, counter _ _, gauge _ _,
      gauge _ _, counter _ _, waiting, gauge _ _, gauge _ _, counter _ _, counter _ _,
      fun _ none => absurd none List.not_mem_nil⟩

end document

end families

/-! ## What a run shows -/

section run

variable {R : Type u}

/-- The pass that an item reports. -/
def ServerItem.matchingRecord? : ServerItem R → Option MatchingRecord
  | ran call => some ⟨call.queue, call.now, call.made⟩
  | _ => none

/-- The passes of a trace. -/
def matchingRecords (trace : List (ServerItem R)) : List MatchingRecord := trace.filterMap ServerItem.matchingRecord?

/-- What happened in the session. -/
def sessionItems (trace : List (ServerItem R)) : List SessionItem :=
  WiredServer.sessionTrace (trace.filterMap ServerItem.wired?)

theorem Idle.matchingRecords {items : List (ServerItem R)} (idle : Idle items) (trace : List (ServerItem R)) :
    matchingRecords (items.reverse ++ trace) = matchingRecords trace := by
  have none : (items.reverse).filterMap ServerItem.matchingRecord? = [] := by
    refine List.filterMap_eq_nil_iff.mpr fun item member => ?_
    have quiet := idle item (List.mem_reverse.mp member)
    cases item with
    | ran call => cases quiet
    | _ => rfl
  rw [Arena60.matchingRecords, List.filterMap_append, none, List.nil_append, Arena60.matchingRecords]

variable [DoubleConversions R]

/-- The matchmaker of a server has metered the passes of the timer. -/
theorem metrics_invariant (ascending : ∀ seconds : R, (kWaitBuckets R).Pairwise fun a b =>
      lessEq seconds a = true → lessEq seconds b = true) : WebSocketServer.QueueInvariant (R := R)
    fun trace m => m.Metrics (matchingRecords trace) where
  idle idle metrics := by
    rw [idle.matchingRecords]
    exact metrics
  joined playerId rating now metrics :=
    ⟨Matchmaker.wellFormed_enqueue metrics.wellFormed _, rfl,
      ⟨metrics.metered.tallied, metrics.metered.observed, metrics.metered.created⟩, metrics.pairs⟩
  left playerId metrics :=
    ⟨Matchmaker.wellFormed_cancel metrics.wellFormed playerId, rfl,
      ⟨metrics.metered.tallied, metrics.metered.observed, metrics.metered.created⟩, metrics.pairs⟩
  ran now metrics := by
    have ran := metrics.runMatching ascending now
    exact ⟨⟨ran.wellFormed.coherent, ran.wellFormed.issued⟩, ran.size,
      ⟨ran.metered.tallied, ran.metered.observed, ran.metered.created⟩, ran.pairs⟩

namespace WebSocketServer

variable {trace : List (ServerItem R)} {s : WebSocketServer R}

theorem Runs.metrics (ascending : ∀ seconds : R, (kWaitBuckets R).Pairwise fun a b =>
      lessEq seconds a = true → lessEq seconds b = true) (run : Runs trace s) :
    s.matchmaker.Metrics (matchingRecords trace) :=
  (metrics_invariant ascending).holds ⟨Matchmaker.Reachable.new.wellFormed, rfl, ⟨.nothing _ _, rfl, rfl⟩, rfl⟩ run

/-- The counters of the profiles count the deaths. -/
theorem Runs.recorded (run : Runs trace s) :
    s.profiles.matchesRecordedTotal = (deathEvents (sessionItems trace)).length ∧
      s.profiles.ratingUpdatesTotal = 2 * (deathEvents (sessionItems trace)).length := by
  have ledger := WiredServer.Runs.ledger (Runs.wired run)
  obtain ⟨leaderboard, profiles⟩ := ledger.profiles
  obtain ⟨recorded, updates⟩ := PlayerProfileService.foldl_recordMatch_counts R
    ((WiredServer.calls (trace.filterMap ServerItem.wired?)).map CollectCall.result) (.new leaderboard)
  have number : ((WiredServer.calls (trace.filterMap ServerItem.wired?)).map CollectCall.result).length =
      (deathEvents (sessionItems trace)).length := by
    rw [sessionItems, ← ledger.deaths, List.length_map, List.length_map]
  rw [profiles, recorded, updates, number]
  exact ⟨Nat.zero_add _, Nat.zero_add _⟩

/-- The values of metrics are what happened in a run, the last ones also what happened s. -/
structure Shows (trace : List (ServerItem R)) (s : WebSocketServer R) (families : List MetricFamily) :
    Prop where
  connections : valueOf "websocket_connections_total" families = some s.connectionCount.toNat
  active : valueOf "projectiles_active" families = some s.session.live.length
  spawned : valueOf "projectiles_spawned_total" families = some (spawnedIds (sessionItems trace)).length
  hits : valueOf "projectiles_hits_total" families = some (hitEvents (sessionItems trace)).length
  dead : valueOf "players_dead_total" families = some (deathEvents (sessionItems trace)).length
  queued : valueOf "matchmaking_queue_size" families = some s.matchmaker.queue.size
  matched : valueOf "matchmaking_matches_total" families = some (matchesReturned (matchingRecords trace))
  waited : ∃ buckets sum, .histogram "matchmaking_wait_seconds" buckets
    (2 * matchesReturned (matchingRecords trace)) sum ∈ families
  recorded : valueOf "matches_recorded_total" families = some (deathEvents (sessionItems trace)).length
  updates : valueOf "rating_updates_total" families = some (2 * (deathEvents (sessionItems trace)).length)

section scrape

variable [PrintedDouble R] {Time : Type v} (seconds : Time → R)

theorem shows_serverFamilies (ascending : ∀ seconds : R, (kWaitBuckets R).Pairwise fun a b =>
      lessEq seconds a = true → lessEq seconds b = true) (tickRate lastQuerySeconds : R)
    (rated timed : GameLoop Time Unit) (run : Runs trace s) :
    Shows trace s (serverFamilies seconds tickRate lastQuerySeconds rated timed s
      (waitsOf R (matchingRecords trace))) := by
  have session := (WiredServer.Runs.ledger (Runs.wired run)).run.byMoves.1
  have combat := session.combatLedger
  have metrics := Runs.metrics ascending run
  obtain ⟨recorded, updates⟩ := Runs.recorded run
  have flying : s.session.projectiles.countP Projectile.active = s.session.live.length := List.countP_eq_length_filter
  unfold serverFamilies GameSession.metricFamilies matchmakerFamilies PlayerProfileService.metricFamilies
  simp only [List.cons_append, List.nil_append]
  constructor
  · simp (disch := decide) only [gauge, counter, valueOf_later, valueOf_here]
  · simp (disch := decide) only [gauge, counter, valueOf_later, valueOf_here, flying]
  · simp (disch := decide) only [gauge, counter, valueOf_later, valueOf_here, session.projectileLedger.spawned]
    rfl
  · simp (disch := decide) only [gauge, counter, valueOf_later, valueOf_here, combat.hits]
    rfl
  · simp (disch := decide) only [gauge, counter, valueOf_later, valueOf_here, combat.dead]
    rfl
  · simp (disch := decide) only [gauge, counter, valueOf_later, valueOf_here]
  · simp (disch := decide) only [gauge, counter, valueOf_later, valueOf_here, metrics.metered.created]
  · let buckets := (kWaitBuckets R).map fun bound =>
      (bound, (waitsOf R (matchingRecords trace)).countP (lessEq · bound))
    refine ⟨buckets.map fun bucket => (print bucket.1, bucket.2), print s.matchmaker.waitSum, ?_⟩
    rw [← metrics.pairs]
    simp only [List.mem_cons]
    iterate 11 apply Or.inr
    exact Or.inl rfl
  · simp (disch := decide) only [gauge, counter, valueOf_later, valueOf_here, valueOf_histogram, recorded]
  · simp (disch := decide) only [gauge, counter, valueOf_later, valueOf_here, valueOf_histogram, updates]

/-- What the metrics provider writes reads back. -/
theorem Runs.read_metricsProvider (ascending : ∀ seconds : R, (kWaitBuckets R).Pairwise fun a b =>
      lessEq seconds a = true → lessEq seconds b = true) (tickRate lastQuerySeconds : R)
    (rated timed : GameLoop Time Unit) (run : Runs trace s) :
    ∃ families, readExposition (metricsProvider seconds tickRate lastQuerySeconds rated timed s) = some families ∧
      WellFormedExposition families ∧ Shows trace s families := by
  refine ⟨_, ?_, wellFormed_serverFamilies seconds ascending tickRate lastQuerySeconds rated timed s _,
    shows_serverFamilies seconds ascending tickRate lastQuerySeconds rated timed run⟩
  rw [metricsProvider_eq seconds tickRate lastQuerySeconds rated timed (Runs.metrics ascending run)]
  exact readExposition_text (proper_serverFamilies seconds tickRate lastQuerySeconds rated timed s _)

/-- What `GET /metrics` answers reads back as well-formed metrics that show what happened, whatever the loop and
the storage report, and no number contradicts another. -/
theorem Runs.scrape [DoubleValue R] (ascending : ∀ seconds : R, (kWaitBuckets R).Pairwise fun a b =>
      lessEq seconds a = true → lessEq seconds b = true) (tickRate lastQuerySeconds : R)
    (rated timed : GameLoop Time Unit) (run : Runs trace s) {request : Http.Request}
    (asks : request.method = .get) (target : request.target = "/metrics") :
    let router : ProfileHttpRouter :=
      ⟨some (metricsProvider seconds tickRate lastQuerySeconds rated timed s), some s.profiles⟩
    let response := router.handle R request
    response.status = .ok ∧ ∃ families, readExposition response.body = some families ∧
      WellFormedExposition families ∧ Shows trace s families ∧ CombatTotals (sessionItems trace) s.session := by
  intro router response
  have answer : response = router.handleMetrics request := by
    unfold response ProfileHttpRouter.handle
    dsimp only
    rw [if_neg (not_not.mpr asks), if_pos target]
  have session := (WiredServer.Runs.ledger (Runs.wired run)).run.byMoves.1
  obtain ⟨families, read, wellFormed, shows⟩ :=
    Runs.read_metricsProvider seconds ascending tickRate lastQuerySeconds rated timed run
  rw [answer]
  exact ⟨rfl, families, read, wellFormed, shows, session.combatTotals⟩

end scrape

end WebSocketServer

end run

/-- The metrics after three joins and a match. -/
theorem scrape_threeJoins : ∃ (trace : List (ServerItem ℚ)) (s : WebSocketServer ℚ) (families : List MetricFamily),
    WebSocketServer.Shows trace s families ∧ WellFormedExposition families ∧ s.matchmaker.queue.size = 1 ∧
      matchesReturned (matchingRecords trace) = 1 := by
  have fresh : WebSocketServer.Initial (WebSocketServer.new (1 / 60) : WebSocketServer ℚ) := ⟨_, rfl⟩
  obtain ⟨trace, s, run, passed⟩ := exists_run_of_replay threeJoins
    (fun trace s => s.matchmaker.queue.size == 1 && matchesReturned (matchingRecords trace) == 1)
    fresh (show (replay WebSocketServer.perform _ _).any _ = true by decide +kernel)
  simp only [Bool.and_eq_true, beq_iff_eq] at passed
  have asks : (⟨.get, "/metrics", 11⟩ : Http.Request).method = .get := rfl
  obtain ⟨-, families, -, wellFormed, shows, -⟩ := WebSocketServer.Runs.scrape (id : ℚ → ℚ) kWaitBuckets_ascending
    60 0 (.new (1 / 60)) (.new (1 / 60)) run asks rfl
  exact ⟨trace, s, families, shows, wellFormed, passed⟩

end Arena60
