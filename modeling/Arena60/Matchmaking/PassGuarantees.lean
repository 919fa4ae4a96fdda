import Arena60.Matchmaking.MatchingPass

/-!
# What a matching pass guarantees

The matches of one call of `RunMatching` are sound, no compatible pair is left
waiting, and a player that is left waiting does not fit anyone who was paired with
somebody behind it in the order of the queue.
-/

namespace Arena60

open Misc

universe u

section guarantees

variable {R : Type u} [DoubleConversions R]

/-! ## Soundness -/

/-- `created` pairs `a` and `b` as the matching rules demand. -/
structure Match.Joins (R : Type u) [DoubleConversions R] (now : Int) (created : Match)
    (a b : QueuedPlayer) : Prop where
  players : created.players = [a.playerId, b.playerId]
  distinct : a.playerId ≠ b.playerId
  tolerance : |a.elo - b.elo| ≤ a.request.currentTolerance R now
  partnerTolerance : |a.elo - b.elo| ≤ b.request.currentTolerance R now
  regions : regionsCompatible a.request b.request = true
  region : created.region = a.request.preferredRegion ∨ created.region = b.request.preferredRegion
  regionFits : regionsMatch created.region a.request.preferredRegion = true ∧
    regionsMatch created.region b.request.preferredRegion = true
  regionAny : created.region = "any" →
    a.request.preferredRegion = "any" ∧ b.request.preferredRegion = "any"
  averageElo : min a.elo b.elo ≤ created.averageElo ∧ created.averageElo ≤ max a.elo b.elo

theorem resolveRegion_spec (lhs rhs : MatchRequest) (fit : regionsCompatible lhs rhs = true) :
    (resolveRegion lhs rhs = lhs.preferredRegion ∨ resolveRegion lhs rhs = rhs.preferredRegion) ∧
      (regionsMatch (resolveRegion lhs rhs) lhs.preferredRegion = true ∧
        regionsMatch (resolveRegion lhs rhs) rhs.preferredRegion = true) ∧
      (resolveRegion lhs rhs = "any" → lhs.preferredRegion = "any" ∧ rhs.preferredRegion = "any") := by
  have fit' := (regionsMatch_iff _ _).mp fit
  simp only [regionsMatch_iff]
  by_cases same : lhs.preferredRegion = rhs.preferredRegion
  · simp [resolveRegion, same]
  · by_cases left : lhs.preferredRegion = "any"
    · have right : ¬ rhs.preferredRegion = "any" := fun right => same (left.trans right.symm)
      simp [resolveRegion, left, right, Ne.symm right]
    · have right : rhs.preferredRegion = "any" := by
        rcases fit' with h | h | h
        · exact absurd h left
        · exact h
        · exact absurd h same
      simp [resolveRegion, left, right]

theorem between_tdiv (x y : Int) : min x y ≤ (x + y).tdiv 2 ∧ (x + y).tdiv 2 ≤ max x y := by
  have unit : Int.sign 2 = 1 := rfl
  rw [Int.tdiv_eq_ediv, unit]
  split <;> omega

theorem matchOf_joins (now : Int) (number : Nat) {a b : QueuedPlayer}
    (distinct : a.playerId ≠ b.playerId) (fits : fitsAt R now a b = true) :
    (matchOf now number a.request b.request).Joins R now a b := by
  simp only [fitsAt, compatible, Bool.and_eq_true, decide_eq_true_eq] at fits
  obtain ⟨regions, toleranceA, toleranceB⟩ := fits
  obtain ⟨chosen, fitting, any⟩ := resolveRegion_spec _ _ regions
  exact ⟨rfl, distinct, toleranceA, toleranceB, regions, chosen, fitting, any, between_tdiv _ _⟩

/-- What a pass that turns the queue `before` into `after` and returns `made` is to
achieve. -/
structure PassSound (R : Type u) [DoubleConversions R] (now : Int)
    (before after : InMemoryMatchQueue) (made : List Match) : Prop where
  joins : ∀ created ∈ made, ∃ a b, before.contents a.playerId = some a ∧
    before.contents b.playerId = some b ∧ created.Joins R now a b
  once : (made.flatMap Match.players).Nodup
  contents : ∀ playerId, after.contents playerId =
    if playerId ∈ made.flatMap Match.players then none else before.contents playerId
  rest : after.fetchOrdered =
    before.fetchOrdered.filter fun player => player.playerId ∉ made.flatMap Match.players

/-- Two coherent queues list the same players when they wait with the same. -/
theorem fetchOrdered_eq_filter {before after : InMemoryMatchQueue} (coherent : before.Coherent)
    (coherent' : after.Coherent) {gone : List String}
    (contents : ∀ playerId, after.contents playerId =
      if playerId ∈ gone then none else before.contents playerId) :
    after.fetchOrdered = before.fetchOrdered.filter fun player => player.playerId ∉ gone := by
  refine List.Pairwise.eq_of_mem_iff coherent'.fetchOrdered_ascending
    (coherent.fetchOrdered_ascending.filter _) ?_
  intro player
  rw [List.mem_filter, InMemoryMatchQueue.mem_fetchOrdered, InMemoryMatchQueue.mem_fetchOrdered]
  have left := coherent'.contents_eq_some_iff player.playerId player
  have right := coherent.contents_eq_some_iff player.playerId player
  simp only [and_true] at left right
  rw [← left, ← right, contents]
  by_cases taken : player.playerId ∈ gone
  · simp [taken]
  · simp [taken]

/-- A pass over a coherent queue is sound. -/
theorem pass_sound {m : Matchmaker R} (coherent : m.queue.Coherent) (now : Int) :
    PassSound R now m.queue (m.runMatching now).1.queue (m.runMatching now).2 := by
  have effect := Matchmaker.runMatchingLocked_effect coherent now
  have ascending := coherent.fetchOrdered_ascending
  have distinct := coherent.fetchOrdered_players_nodup
  have players : (m.runMatching now).2.flatMap Match.players =
      pairedKeys QueuedPlayer.playerId (passPairs R now m.queue.fetchOrdered) := by
    rw [Matchmaker.runMatching_made, effect.made, matchesOf_players]
  have contents : ∀ playerId, (m.runMatching now).1.queue.contents playerId =
      if playerId ∈ (m.runMatching now).2.flatMap Match.players then none
      else m.queue.contents playerId := by
    intro playerId
    rw [players, Matchmaker.runMatching_queue, effect.contents]
  refine ⟨?_, ?_, contents, ?_⟩
  · intro created member
    rw [Matchmaker.runMatching_made, effect.made] at member
    obtain ⟨number, a, b, paired, -, -, rfl⟩ := mem_matchesOf member
    obtain ⟨listedA, listedB, -, -, before, fits⟩ := firstFit_sound ascending paired
    rw [InMemoryMatchQueue.mem_fetchOrdered] at listedA listedB
    refine ⟨a, b, (coherent.contents_eq_some_iff _ a).mpr ⟨listedA, rfl⟩,
      (coherent.contents_eq_some_iff _ b).mpr ⟨listedB, rfl⟩, matchOf_joins now number ?_ fits⟩
    intro same
    have equal := coherent.player_unique listedA listedB same
    subst equal
    exact before.asymm before
  · rw [players]
    exact pairedKeys_firstFit_nodup distinct []
  · exact fetchOrdered_eq_filter coherent (by simpa using effect.coherent) contents

/-- Every pass from a reachable state is sound. -/
theorem runMatching_sound {m : Matchmaker R} (reachable : m.Reachable) (now : Int) :
    PassSound R now m.queue (m.runMatching now).1.queue (m.runMatching now).2 :=
  pass_sound reachable.wellFormed.coherent now

end guarantees

/-- Two players of nearly the same rating wait on a fresh matchmaker. -/
noncomputable def twoWaiting : Matchmaker ℚ :=
  (Matchmaker.new.enqueue ⟨"alice", 1200, 0, "any"⟩).enqueue ⟨"bob", 1210, 0, "eu"⟩

theorem twoWaiting_reachable : twoWaiting.Reachable := .enqueue _ (.enqueue _ .new)

theorem runMatching_sound_twoWaiting :
    PassSound ℚ 0 twoWaiting.queue (twoWaiting.runMatching 0).1.queue (twoWaiting.runMatching 0).2 ∧
      (twoWaiting.runMatching 0).2.map Match.players = [["alice", "bob"]] :=
  ⟨runMatching_sound twoWaiting_reachable 0, by decide +kernel⟩

/-! ## Maximality -/

section maximality

variable {R : Type u} [DoubleConversions R]

/-- A player queued after a pass was queued before it and is in none of its pairs. -/
theorem left_spec {m : Matchmaker R} (coherent : m.queue.Coherent) {now : Int} {r : QueuedPlayer}
    (left : (m.runMatching now).1.queue.contents r.playerId = some r) :
    r ∈ m.queue.fetchOrdered ∧
      r.playerId ∉ pairedKeys QueuedPlayer.playerId (passPairs R now m.queue.fetchOrdered) := by
  have effect := Matchmaker.runMatchingLocked_effect coherent now
  rw [Matchmaker.runMatching_queue, effect.contents] at left
  by_cases paired : r.playerId ∈ pairedKeys QueuedPlayer.playerId
      (passPairs R now m.queue.fetchOrdered)
  · rw [if_pos paired] at left
    cases left
  · rw [if_neg paired] at left
    have queued := ((coherent.contents_eq_some_iff r.playerId r).mp left).1
    exact ⟨(m.queue.mem_fetchOrdered r).mpr queued, paired⟩

/-- Two queued players that are distinct and may be paired at `now`. -/
def CompatiblePair (R : Type u) [DoubleConversions R] (now : Int) (queue : InMemoryMatchQueue)
    (a b : QueuedPlayer) : Prop :=
  queue.contents a.playerId = some a ∧ queue.contents b.playerId = some b ∧
    a.playerId ≠ b.playerId ∧ compatible R now a.request b.request = true

/-- No compatible pair is left. -/
theorem no_pair_left {m : Matchmaker R} (coherent : m.queue.Coherent) (now : Int)
    (a b : QueuedPlayer) : ¬ CompatiblePair R now (m.runMatching now).1.queue a b := by
  rintro ⟨queuedA, queuedB, distinct, fits⟩
  obtain ⟨listedA, leftA⟩ := left_spec coherent queuedA
  obtain ⟨listedB, leftB⟩ := left_spec coherent queuedB
  have apart : fitsAt R now a b = false :=
    firstFit_left_apart coherent.fetchOrdered_ascending (fun _ _ before => before.asymm)
      (fun c d => compatible_comm R now c.request d.request) listedA listedB
      (fun same => distinct (congrArg QueuedPlayer.playerId same)) (by simp) (by simp) leftA leftB
  rw [fitsAt, fits] at apart
  cases apart

/-- A pass over a queue without a compatible pair does nothing. -/
theorem runMatching_idle {m : Matchmaker R} (coherent : m.queue.Coherent) (now : Int)
    (apart : ∀ a b, ¬ CompatiblePair R now m.queue a b) :
    (m.runMatching now).2 = [] ∧ (m.runMatching now).1.queue = m.queue := by
  have refused : m.queue.fetchOrdered.Pairwise fun a b => fitsAt R now a b = false := by
    have ascending := coherent.fetchOrdered_ascending
    rw [coherent.fetchOrdered_eq] at ascending ⊢
    refine ascending.imp_of_mem ?_
    intro a b listedA listedB before
    rw [← Bool.not_eq_true]
    intro fits
    refine apart a b ⟨(coherent.contents_eq_some_iff _ a).mpr ⟨listedA, rfl⟩,
      (coherent.contents_eq_some_iff _ b).mpr ⟨listedB, rfl⟩, ?_, fits⟩
    intro same
    have equal := coherent.player_unique listedA listedB same
    subst equal
    exact before.asymm before
  have pass : m.runMatchingLocked now = ({ m with lastQueueSize := m.queue.size }, [], m.callback) := by
    unfold Matchmaker.runMatchingLocked
    rw [pairLoop_eq now _ coherent.fetchOrdered_ascending, firstFit_eq_nil refused]
    rfl
  rw [Matchmaker.runMatching_made, Matchmaker.runMatching_queue, pass]
  exact ⟨rfl, rfl⟩

/-- A pass leaves no compatible pair waiting; so it makes a match when there is a
compatible pair, it leaves at most one player when all are compatible, and a second
pass at the same time does nothing. -/
theorem runMatching_maximal {m : Matchmaker R} (reachable : m.Reachable) (now : Int) :
    (¬ ∃ a b, CompatiblePair R now (m.runMatching now).1.queue a b) ∧
    ((∃ a b, CompatiblePair R now m.queue a b) → (m.runMatching now).2 ≠ []) ∧
    ((∀ a b, m.queue.contents a.playerId = some a → m.queue.contents b.playerId = some b →
        a.playerId ≠ b.playerId → compatible R now a.request b.request = true) →
      (m.runMatching now).1.queue.fetchOrdered.length ≤ 1) ∧
    ((m.runMatching now).1.runMatching now).2 = [] ∧
    ((m.runMatching now).1.runMatching now).1.queue = (m.runMatching now).1.queue := by
  have coherent := reachable.wellFormed.coherent
  have sound := pass_sound (R := R) coherent now
  have coherent' : (m.runMatching now).1.queue.Coherent := by
    rw [Matchmaker.runMatching_queue]
    exact (Matchmaker.runMatchingLocked_effect coherent now).coherent
  have noneLeft := no_pair_left (R := R) coherent now
  refine ⟨?_, ?_, ?_, runMatching_idle coherent' now noneLeft⟩
  · rintro ⟨a, b, pair⟩
    exact noneLeft a b pair
  · rintro ⟨a, b, queuedA, queuedB, distinct, fits⟩ nothing
    -- without a match the pair would still be queued
    have unchanged : ∀ playerId, (m.runMatching now).1.queue.contents playerId =
        m.queue.contents playerId := by
      intro playerId
      rw [sound.contents, nothing]
      simp
    exact noneLeft a b ⟨by rw [unchanged, queuedA], by rw [unchanged, queuedB], distinct, fits⟩
  · intro all
    match listing : (m.runMatching now).1.queue.fetchOrdered with
    | [] => simp
    | [_] => simp
    | a :: b :: rest =>
        exfalso
        have queued : ∀ player ∈ (m.runMatching now).1.queue.fetchOrdered,
            (m.runMatching now).1.queue.contents player.playerId = some player ∧
            m.queue.contents player.playerId = some player := by
          intro player listed
          have after := (coherent'.contents_eq_some_iff player.playerId player).mpr
            ⟨(InMemoryMatchQueue.mem_fetchOrdered _ _).mp listed, rfl⟩
          refine ⟨after, ?_⟩
          rw [sound.rest] at listed
          have before := (InMemoryMatchQueue.mem_fetchOrdered _ _).mp (List.mem_filter.mp listed).1
          exact (coherent.contents_eq_some_iff player.playerId player).mpr ⟨before, rfl⟩
        have queuedA := queued a (by rw [listing]; simp)
        have queuedB := queued b (by rw [listing]; simp)
        have distinct : a.playerId ≠ b.playerId := by
          have nodup := coherent'.fetchOrdered_players_nodup
          rw [listing] at nodup
          intro same
          simp [same] at nodup
        exact noneLeft a b ⟨queuedA.1, queuedB.1, distinct, all a b queuedA.2 queuedB.2 distinct⟩

end maximality

theorem runMatching_maximal_twoWaiting :
    (¬ ∃ a b, CompatiblePair ℚ 0 (twoWaiting.runMatching 0).1.queue a b) ∧
      (twoWaiting.runMatching 0).2 ≠ [] ∧
      ((twoWaiting.runMatching 0).1.runMatching 0).2 = [] :=
  have maximal := runMatching_maximal twoWaiting_reachable 0
  ⟨maximal.1, maximal.2.1 ⟨⟨⟨"alice", 1200, 0, "any"⟩, 1⟩, ⟨⟨"bob", 1210, 0, "eu"⟩, 2⟩,
    by decide +kernel, by decide +kernel, by decide, by decide +kernel⟩, maximal.2.2.2.1⟩

/-! ## Who is preferred -/

section preference

variable {R : Type u} [DoubleConversions R]

/-- A player left waiting does not fit either member of a match while being ahead of
the other one in the order of the queue: rating first, then age. -/
theorem runMatching_preference {m : Matchmaker R} (coherent : m.queue.Coherent) (now : Int)
    {created : Match} (made : created ∈ (m.runMatching now).2) :
    ∃ a b, created.players = [a.playerId, b.playerId] ∧
      m.queue.contents a.playerId = some a ∧ m.queue.contents b.playerId = some b ∧
      ∀ r, (m.runMatching now).1.queue.contents r.playerId = some r →
        ¬ (compatible R now r.request a.request = true ∧ r.Before b) ∧
        ¬ (compatible R now r.request b.request = true ∧ r.Before a) := by
  have effect := Matchmaker.runMatchingLocked_effect coherent now
  rw [Matchmaker.runMatching_made, effect.made] at made
  obtain ⟨number, a, b, paired, -, -, rfl⟩ := mem_matchesOf made
  obtain ⟨listedA, listedB, -⟩ := firstFit_sound coherent.fetchOrdered_ascending paired
  rw [InMemoryMatchQueue.mem_fetchOrdered] at listedA listedB
  refine ⟨a, b, rfl, (coherent.contents_eq_some_iff _ a).mpr ⟨listedA, rfl⟩,
    (coherent.contents_eq_some_iff _ b).mpr ⟨listedB, rfl⟩, ?_⟩
  intro r queued
  obtain ⟨listed, left⟩ := left_spec coherent queued
  exact firstFit_left_behind coherent.fetchOrdered_ascending (fun _ _ before => before.asymm)
    (fun c d => compatible_comm R now c.request d.request) paired listed (by simp) left

end preference

/-- Carol has waited longest and fits both others, whose ratings are lower. -/
noncomputable def carolFirst : Matchmaker ℚ :=
  ((Matchmaker.new.enqueue ⟨"carol", 1220, 0, "any"⟩).enqueue ⟨"alice", 1200, 0, "any"⟩).enqueue
    ⟨"bob", 1210, 0, "any"⟩

theorem carolFirst_reachable : carolFirst.Reachable := .enqueue _ (.enqueue _ (.enqueue _ .new))

theorem carolFirst_pairs :
    ⟨"match-1", ["alice", "bob"], 1205, 0, "any"⟩ ∈ (carolFirst.runMatching 0).2 := by
  decide +kernel

theorem runMatching_preference_carolFirst :
    ∃ a b, ["alice", "bob"] = [a.playerId, b.playerId] ∧
      carolFirst.queue.contents a.playerId = some a ∧
      carolFirst.queue.contents b.playerId = some b ∧
      ∀ r, (carolFirst.runMatching 0).1.queue.contents r.playerId = some r →
        ¬ (compatible ℚ 0 r.request a.request = true ∧ r.Before b) ∧
        ¬ (compatible ℚ 0 r.request b.request = true ∧ r.Before a) :=
  runMatching_preference carolFirst_reachable.wellFormed.coherent 0 carolFirst_pairs

/-- Age alone does not decide: a longer waiting player of a higher rating is passed over. -/
theorem oldest_not_first :
    ¬ ∀ m : Matchmaker ℚ, m.Reachable → ∀ now : Int, ∀ created ∈ (m.runMatching now).2,
      ∀ a b r : QueuedPlayer, created.players = [a.playerId, b.playerId] →
        m.queue.contents a.playerId = some a → m.queue.contents b.playerId = some b →
        (m.runMatching now).1.queue.contents r.playerId = some r →
        ¬ (compatible ℚ now r.request a.request = true ∧ r.order < b.order) ∧
        ¬ (compatible ℚ now r.request b.request = true ∧ r.order < a.order) := by
  intro oldestFirst
  have passedOver := oldestFirst carolFirst carolFirst_reachable 0 _ carolFirst_pairs
    ⟨⟨"alice", 1200, 0, "any"⟩, 2⟩ ⟨⟨"bob", 1210, 0, "any"⟩, 3⟩ ⟨⟨"carol", 1220, 0, "any"⟩, 1⟩
    rfl (by decide +kernel) (by decide +kernel) (by decide +kernel)
  exact passedOver.1 ⟨by decide +kernel, by decide⟩

end Arena60
