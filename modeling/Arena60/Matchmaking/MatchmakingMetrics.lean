import Arena60.Matchmaking.PassGuarantees
import Arena60.Matchmaking.QueueRuns
import Arena60.Misc.Histogram

/-!
# The metrics of the matchmaker

`Matchmaker::MetricsSnapshot` after any calls of `Enqueue`, `Cancel` and `RunMatching`, against what
these calls returned.
-/

namespace Arena60

open Misc Misc.DoubleArith

universe u

variable {R : Type u}

/-! ## The text -/

/-- A line of the loop of `MetricsSnapshot`; `print` is the output of a `double`. -/
def bucketLine (print : R → String) (bound : R) (cumulative : Nat) : String :=
  "matchmaking_wait_seconds_bucket\x7ble=\"" ++ print bound ++ "\"\x7d " ++ toString cumulative ++ "\n"

/-- The loop of `MetricsSnapshot`. -/
def writeBuckets (print : R → String) : List R → List Nat → Nat → String → Nat × String
  | bound :: bounds, count :: counts, cumulative, oss =>
      let cumulative := cumulative + count
      writeBuckets print bounds counts cumulative (oss ++ bucketLine print bound cumulative)
  | _, _, cumulative, oss => (cumulative, oss)

/-- `Matchmaker::MetricsSnapshot`. -/
def Matchmaker.metricsSnapshot [DoubleArith R] (m : Matchmaker R) (print : R → String) : String :=
  let oss := "# TYPE matchmaking_queue_size gauge\n"
  let oss := oss ++ ("matchmaking_queue_size " ++ toString m.lastQueueSize ++ "\n")
  let oss := oss ++ "# TYPE matchmaking_matches_total counter\n"
  let oss := oss ++ ("matchmaking_matches_total " ++ toString m.matchesCreated ++ "\n")
  let oss := oss ++ "# TYPE matchmaking_wait_seconds histogram\n"
  let (cumulative, oss) := writeBuckets print (kWaitBuckets R) m.waitBucketCounts 0 oss
  let cumulative := cumulative + m.waitOverflowCount
  let oss := oss ++ ("matchmaking_wait_seconds_bucket\x7ble=\"+Inf\"\x7d " ++ toString cumulative ++ "\n")
  let oss := oss ++ ("matchmaking_wait_seconds_sum " ++ print m.waitSum ++ "\n")
  oss ++ ("matchmaking_wait_seconds_count " ++ toString m.waitCount ++ "\n")

/-- The text with these values. -/
def metricsText (print : R → String) (queueSize matchesTotal : Nat) (buckets : List (R × Nat))
    (infinite : Nat) (sum : R) (count : Nat) : String :=
  "# TYPE matchmaking_queue_size gauge\n" ++
  ("matchmaking_queue_size " ++ toString queueSize ++ "\n") ++
  "# TYPE matchmaking_matches_total counter\n" ++
  ("matchmaking_matches_total " ++ toString matchesTotal ++ "\n") ++
  "# TYPE matchmaking_wait_seconds histogram\n" ++
  String.join (buckets.map fun bucket => bucketLine print bucket.1 bucket.2) ++
  ("matchmaking_wait_seconds_bucket\x7ble=\"+Inf\"\x7d " ++ toString infinite ++ "\n") ++
  ("matchmaking_wait_seconds_sum " ++ print sum ++ "\n") ++
  ("matchmaking_wait_seconds_count " ++ toString count ++ "\n")

/-- The loop writes the running sums. -/
theorem writeBuckets_eq (print : R → String) {bounds : List R} {counts : List Nat} {start : Nat}
    {f : R → Nat} (sums : runningSums start counts = bounds.map f) (oss : String) :
    writeBuckets print bounds counts start oss = (start + counts.sum,
      oss ++ String.join ((bounds.map fun bound => (bound, f bound)).map
        fun bucket => bucketLine print bucket.1 bucket.2)) := by
  induction bounds generalizing counts start oss with
  | nil =>
      cases counts with
      | nil => simp [writeBuckets, String.join]
      | cons count counts => simp [runningSums] at sums
  | cons bound bounds ih =>
      cases counts with
      | nil => simp [runningSums] at sums
      | cons count counts =>
          obtain ⟨head, tail⟩ := List.cons.inj sums
          rw [writeBuckets, ih tail, List.map_cons, List.map_cons, String.join_cons, ← String.append_assoc, head,
            List.sum_cons, ← Nat.add_assoc, head]

/-! ## The waits of the matched players -/

/-- A call of `RunMatching`: the queue it found, its time, and the matches it returned. -/
structure MatchingRecord where
  queue : InMemoryMatchQueue
  now : Int
  made : List Match

/-- The calls of `Enqueue`, `Cancel` and `RunMatching`. -/
inductive MatchmakerCall where
  | enqueue (request : MatchRequest)
  | cancel (playerId : String)
  | runMatching (now : Int)

section waits

variable (R) [DoubleConversions R]

/-- How long each player of the returned matches had waited. -/
def MatchingRecord.waits (record : MatchingRecord) : List R :=
  (record.made.flatMap Match.players).filterMap fun playerId =>
    (record.queue.contents playerId).map fun player => player.request.waitSeconds R record.now

/-- The waits of all matched players of a trace, oldest first. -/
def waitsOf (trace : List MatchingRecord) : List R := trace.reverse.flatMap (MatchingRecord.waits R)

/-- The number of matches returned in a trace. -/
def matchesReturned (trace : List MatchingRecord) : Nat := (trace.map fun record => record.made.length).sum

end waits

namespace Matchmaker

variable [DoubleConversions R]

/-- Execute a call. -/
def perform : MatchmakerCall → Matchmaker R → Option (List MatchingRecord × Matchmaker R)
  | .enqueue request, m => some ([], m.enqueue request)
  | .cancel playerId, m => some ([], (m.cancel playerId).2)
  | .runMatching now, m => some ([⟨m.queue, now, (m.runMatching now).2⟩], (m.runMatching now).1)

def Initial (m : Matchmaker R) : Prop := m = .new

/-- The runs of a fresh matchmaker. -/
abbrev Runs (trace : List MatchingRecord) (m : Matchmaker R) : Prop := Run Initial (StepOf perform) trace m

/-! ## What the histogram has counted -/

/-- The histogram has counted some waits, and the counter some matches. -/
structure Metered (waits : List R) (matched : Nat) (m : Matchmaker R) : Prop where
  tallied : Tallied lessEq (kWaitBuckets R) waits m.waitBucketCounts m.waitOverflowCount
  observed : m.waitCount = waits.length
  created : m.matchesCreated = matched

variable {m m' : Matchmaker R} {waits : List R} {matched : Nat}

theorem countInBucket_eq (seconds : R) (bounds : List R) (counts : List Nat) :
    countInBucket seconds bounds counts = countFirst (lessEq seconds) bounds counts := by
  induction bounds generalizing counts with
  | nil => cases counts <;> rfl
  | cons bound bounds ih =>
      cases counts with
      | nil => rfl
      | cons count counts => rw [countInBucket, countFirst, ih]

theorem Metered.observe (metered : Metered waits matched m)
    (ascending : ∀ seconds : R, (kWaitBuckets R).Pairwise fun a b =>
      lessEq seconds a = true → lessEq seconds b = true) (seconds : R) :
    Metered (waits ++ [seconds]) matched (m.observeWaitLocked seconds) := by
  have length : (waits ++ [seconds]).length = waits.length + 1 := by simp
  unfold observeWaitLocked
  dsimp only
  rw [countInBucket_eq]
  cases counted : countFirst (lessEq seconds) (kWaitBuckets R) m.waitBucketCounts with
  | some counts =>
      refine ⟨metered.tallied.count (ascending seconds) counted, ?_, metered.created⟩
      rw [length, ← metered.observed]
  | none =>
      refine ⟨metered.tallied.miss counted, ?_, metered.created⟩
      rw [length, ← metered.observed]

/-- The waits of the players of some pairs. -/
def pairWaits (now : Int) (pairs : List (QueuedPlayer × QueuedPlayer)) : List R :=
  pairs.flatMap fun pair => [pair.1.request.waitSeconds R now, pair.2.request.waitSeconds R now]

theorem Metered.createMatches
    (ascending : ∀ seconds : R, (kWaitBuckets R).Pairwise fun a b =>
      lessEq seconds a = true → lessEq seconds b = true) (now : Int)
    (pairs : List (QueuedPlayer × QueuedPlayer)) (metered : Metered waits matched m) :
    Metered (waits ++ pairWaits now pairs) (matched + pairs.length) (createMatches now pairs m).1 := by
  induction pairs generalizing waits matched m with
  | nil =>
      rw [pairWaits, List.flatMap_nil, List.append_nil]
      exact metered
  | cons pair pairs ih =>
      obtain ⟨a, b⟩ := pair
      have counted : Metered waits (matched + 1)
          { m with
            queue := ((m.queue.remove a.request.playerId).2.remove b.request.playerId).2
            matchCounter := m.matchCounter + 1
            matchesCreated := m.matchesCreated + 1 } :=
        ⟨metered.tallied, metered.observed, congrArg (· + 1) metered.created⟩
      have both := (counted.observe ascending (a.request.waitSeconds R now)).observe ascending
        (b.request.waitSeconds R now)
      have rest := ih both
      have waited : waits ++ pairWaits now ((a, b) :: pairs) =
          waits ++ [a.request.waitSeconds R now] ++ [b.request.waitSeconds R now] ++ pairWaits now pairs := by
        simp [pairWaits]
      have number : matched + ((a, b) :: pairs).length = matched + 1 + pairs.length := by
        rw [List.length_cons]
        omega
      rw [waited, number]
      exact rest

/-! ## Runs -/

omit [DoubleConversions R] in
theorem length_matchesOf (now : Int) (pairs : List (QueuedPlayer × QueuedPlayer)) (made : Nat) :
    (matchesOf now made pairs).length = pairs.length := by
  induction pairs generalizing made with
  | nil => rfl
  | cons pair pairs ih => simp [matchesOf, ih]

/-- The waits of a pass are those its matches tell. -/
theorem waits_runMatching (coherent : m.queue.Coherent) (now : Int) :
    MatchingRecord.waits R ⟨m.queue, now, (m.runMatching now).2⟩ =
      pairWaits now (passPairs R now m.queue.fetchOrdered) := by
  have effect := runMatchingLocked_effect (R := R) coherent now
  have listed : ∀ pair ∈ passPairs R now m.queue.fetchOrdered,
      m.queue.contents pair.1.playerId = some pair.1 ∧ m.queue.contents pair.2.playerId = some pair.2 := by
    intro pair paired
    obtain ⟨first, second, -⟩ := firstFit_sound coherent.fetchOrdered_ascending paired
    rw [InMemoryMatchQueue.mem_fetchOrdered] at first second
    exact ⟨(coherent.contents_eq_some_iff _ _).mpr ⟨first, rfl⟩,
      (coherent.contents_eq_some_iff _ _).mpr ⟨second, rfl⟩⟩
  rw [MatchingRecord.waits, runMatching_made, effect.made, matchesOf_players]
  generalize passPairs R now m.queue.fetchOrdered = pairs at listed ⊢
  induction pairs with
  | nil => rfl
  | cons pair pairs ih =>
      obtain ⟨first, second⟩ := listed pair List.mem_cons_self
      have rest := ih fun other later => listed other (List.mem_cons_of_mem _ later)
      obtain ⟨a, b⟩ := pair
      rw [pairedKeys_cons, List.filterMap_cons, first, List.filterMap_cons, second, rest]
      rfl

theorem length_pairWaits (now : Int) (pairs : List (QueuedPlayer × QueuedPlayer)) :
    (pairWaits (R := R) now pairs).length = 2 * pairs.length := by
  induction pairs with
  | nil => rfl
  | cons pair pairs ih =>
      simp only [pairWaits, List.flatMap_cons, List.length_append, List.length_cons, List.length_nil] at ih ⊢
      omega

/-- The state of the metrics between two calls. -/
structure Metrics (trace : List MatchingRecord) (m : Matchmaker R) : Prop where
  wellFormed : m.WellFormed
  size : m.lastQueueSize = m.queue.size
  metered : Metered (waitsOf R trace) (matchesReturned trace) m
  pairs : (waitsOf R trace).length = 2 * matchesReturned trace

theorem Metrics.runMatching {trace : List MatchingRecord}
    (ascending : ∀ seconds : R, (kWaitBuckets R).Pairwise fun a b =>
      lessEq seconds a = true → lessEq seconds b = true) (metrics : Metrics trace m) (now : Int) :
    Metrics (⟨m.queue, now, (m.runMatching now).2⟩ :: trace) (m.runMatching now).1 := by
  let pairs := passPairs R now m.queue.fetchOrdered
  have coherent := metrics.wellFormed.coherent
  have effect := runMatchingLocked_effect (R := R) coherent now
  have waits : waitsOf R (⟨m.queue, now, (m.runMatching now).2⟩ :: trace) =
      waitsOf R trace ++ pairWaits now pairs := by
    rw [waitsOf, List.reverse_cons, List.flatMap_append, ← waitsOf, List.flatMap_singleton,
      waits_runMatching coherent]
  have returned : matchesReturned (⟨m.queue, now, (m.runMatching now).2⟩ :: trace) =
      matchesReturned trace + pairs.length := by
    rw [matchesReturned, List.map_cons, List.sum_cons, ← matchesReturned, runMatching_made, effect.made,
      length_matchesOf, Nat.add_comm]
  have metered := metrics.metered.createMatches ascending now pairs
  have ran : (m.runMatching now).1 =
      { (createMatches now pairs m).1 with
        lastQueueSize := (createMatches now pairs m).1.queue.size
        notifications := (m.runMatching now).1.notifications } := by
    rw [Matchmaker.runMatching, Matchmaker.runMatchingLocked, pairLoop_eq now _ coherent.fetchOrdered_ascending]
    dsimp only
    rw [foldl_publish]
    rfl
  refine ⟨wellFormed_runMatching metrics.wellFormed now, ?_, ?_, ?_⟩
  · rw [ran]
  · rw [waits, returned, ran]
    exact ⟨metered.tallied, metered.observed, metered.created⟩
  · have before := metrics.pairs
    rw [waits, returned, List.length_append, length_pairWaits]
    omega

theorem Runs.metrics {trace : List MatchingRecord}
    (ascending : ∀ seconds : R, (kWaitBuckets R).Pairwise fun a b =>
      lessEq seconds a = true → lessEq seconds b = true) (run : Runs trace m) : Metrics trace m := by
  induction run with
  | start initial =>
      cases initial
      exact ⟨Reachable.new.wellFormed, rfl, ⟨.nothing _ _, rfl, rfl⟩, rfl⟩
  | next earlier step ih =>
      obtain ⟨call, performed⟩ := step
      cases call with
      | enqueue request =>
          cases performed
          have metered := ih.metered
          exact ⟨wellFormed_enqueue ih.wellFormed request, rfl,
            ⟨metered.tallied, metered.observed, metered.created⟩, ih.pairs⟩
      | cancel playerId =>
          cases performed
          have metered := ih.metered
          exact ⟨wellFormed_cancel ih.wellFormed playerId, rfl,
            ⟨metered.tallied, metered.observed, metered.created⟩, ih.pairs⟩
      | runMatching now =>
          cases performed
          exact ih.runMatching ascending now

/-- What the snapshot says is what the calls did. -/
structure TellsTruth (print : R → String) (trace : List MatchingRecord) (m : Matchmaker R) : Prop where
  text : m.metricsSnapshot print = metricsText print m.queue.size (matchesReturned trace)
    ((kWaitBuckets R).map fun bound => (bound, (waitsOf R trace).countP (lessEq · bound)))
    (2 * matchesReturned trace) m.waitSum (2 * matchesReturned trace)
  ascending : (((kWaitBuckets R).map fun bound => (waitsOf R trace).countP (lessEq · bound)) ++
    [2 * matchesReturned trace]).Pairwise (· ≤ ·)
  waits : (waitsOf R trace).length = 2 * matchesReturned trace

theorem metricsSnapshot_eq (print : R → String) {waits : List R} {matched : Nat}
    (metered : Metered waits matched m) (size : m.lastQueueSize = m.queue.size) :
    m.metricsSnapshot print = metricsText print m.queue.size matched
      ((kWaitBuckets R).map fun bound => (bound, waits.countP (lessEq · bound))) waits.length m.waitSum
      waits.length := by
  have total := metered.tallied.total
  unfold metricsSnapshot
  dsimp only
  rw [writeBuckets_eq print metered.tallied.sums]
  dsimp only
  rw [Nat.zero_add, total, size, metered.created, metered.observed]
  rfl

/-- After any calls of `Enqueue`, `Cancel` and `RunMatching` the snapshot tells the truth, if the bounds
of the buckets ascend. -/
theorem metricsSnapshot_tellsTruth (print : R → String) {trace : List MatchingRecord}
    (ascending : ∀ seconds : R, (kWaitBuckets R).Pairwise fun a b =>
      lessEq seconds a = true → lessEq seconds b = true) (run : Runs trace m) : TellsTruth print trace m := by
  have metrics := run.metrics ascending
  refine ⟨?_, ?_, metrics.pairs⟩
  · rw [← metrics.pairs]
    exact metricsSnapshot_eq print metrics.metered metrics.size
  · rw [← metrics.pairs]
    exact Tallied.sums_ascending _ ascending

end Matchmaker

/-- The bounds ascend in exact arithmetic. -/
theorem kWaitBuckets_ascending (seconds : ℚ) : (kWaitBuckets ℚ).Pairwise fun a b =>
    lessEq seconds a = true → lessEq seconds b = true := by
  have below : ∀ a b : ℚ, a ≤ b → lessEq seconds a = true → lessEq seconds b = true := by
    intro a b ordered within
    have within' : seconds ≤ a := of_decide_eq_true within
    exact decide_eq_true (within'.trans ordered)
  have bounds : (kWaitBuckets ℚ).Pairwise (· ≤ ·) := by
    show List.Pairwise (· ≤ ·) [(0 : ℚ), 5, 10, 20, 40, 80]
    decide
  exact bounds.imp (below _ _)

/-- One match of a player that waited 12 seconds and one that is enqueued later than the call, and one
player left. -/
def twoOfThree : List MatchmakerCall :=
  [.enqueue ⟨"a", 1200, 0, "eu"⟩, .enqueue ⟨"b", 1210, 13000000000, "eu"⟩, .enqueue ⟨"c", 2000, 0, "eu"⟩,
    .cancel "d", .runMatching 12000000000]

theorem metricsSnapshot_tellsTruth_two : ∃ (trace : List MatchingRecord) (m : Matchmaker ℚ),
    Matchmaker.TellsTruth toString trace m ∧ matchesReturned trace = 1 ∧ m.queue.size = 1 ∧
      (kWaitBuckets ℚ).map (fun bound => (waitsOf ℚ trace).countP (lessEq · bound)) = [1, 1, 1, 2, 2, 2] := by
  have fresh : Matchmaker.Initial (Matchmaker.new : Matchmaker ℚ) := rfl
  obtain ⟨trace, m, run, passed⟩ := exists_run_of_replay twoOfThree
    (fun trace m => matchesReturned trace == 1 && m.queue.size == 1 &&
      (kWaitBuckets ℚ).map (fun bound => (waitsOf ℚ trace).countP (lessEq · bound)) == [1, 1, 1, 2, 2, 2])
    fresh (show (replay Matchmaker.perform _ _).any _ = true by decide +kernel)
  rw [Bool.and_eq_true, Bool.and_eq_true, beq_iff_eq, beq_iff_eq, beq_iff_eq] at passed
  exact ⟨trace, m, Matchmaker.metricsSnapshot_tellsTruth toString kWaitBuckets_ascending run,
    passed.1.1, passed.1.2, passed.2⟩

end Arena60
