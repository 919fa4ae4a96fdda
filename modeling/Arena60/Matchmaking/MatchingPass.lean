import Arena60.Matchmaking.Matchmaker
import Arena60.Misc.ExactArith
import Arena60.Misc.NumberedNames

/-!
# One matching pass

What the locked section of `RunMatching` does to the matchmaker as a whole, and
what follows for the matches of one pass: they are sound, no compatible pair is
left waiting, and a player left waiting was behind those that were preferred to
it in the order of the queue.
-/

namespace Arena60

open Misc

universe u

/-- The match made of two players, the `number`-th one of the matchmaker. -/
def matchOf (now : Int) (number : Nat) (a b : MatchRequest) : Match where
  matchId := "match-" ++ toString number
  players := [a.playerId, b.playerId]
  averageElo := (a.elo + b.elo).tdiv 2
  createdAt := now
  region := resolveRegion a b

/-- The matches made of a list of pairs when `made` matches were made before. -/
def matchesOf (now : Int) : Nat → List (QueuedPlayer × QueuedPlayer) → List Match
  | _, [] => []
  | made, (a, b) :: pairs =>
      matchOf now (made + 1) a.request b.request :: matchesOf now (made + 1) pairs

theorem matchOf_matchId_inj {now now' : Int} {i j : Nat} {a b c d : MatchRequest}
    (same : (matchOf now i a b).matchId = (matchOf now' j c d).matchId) : i = j :=
  numberedName_inj same

theorem mem_matchesOf {now : Int} {created : Match} :
    ∀ {made : Nat} {pairs : List (QueuedPlayer × QueuedPlayer)}, created ∈ matchesOf now made pairs →
      ∃ number a b, (a, b) ∈ pairs ∧ made < number ∧ number ≤ made + pairs.length ∧
        created = matchOf now number a.request b.request
  | made, (a, b) :: pairs, member => by
      rcases List.mem_cons.mp member with rfl | later
      · exact ⟨made + 1, a, b, by simp, by omega, by simp only [List.length_cons]; omega, rfl⟩
      · obtain ⟨number, c, d, paired, low, high, same⟩ := mem_matchesOf later
        refine ⟨number, c, d, List.mem_cons_of_mem _ paired, by omega, ?_, same⟩
        simp only [List.length_cons]
        omega

theorem matchesOf_players (now : Int) (pairs : List (QueuedPlayer × QueuedPlayer)) :
    ∀ made : Nat, (matchesOf now made pairs).flatMap Match.players =
      pairedKeys QueuedPlayer.playerId pairs := by
  induction pairs with
  | nil => simp [matchesOf]
  | cons pair pairs ih =>
      intro made
      simp [matchesOf, matchOf, ih, pairedKeys, QueuedPlayer.playerId]

/-- The matches of one pass carry different ids. -/
theorem matchesOf_ids_nodup (now : Int) (pairs : List (QueuedPlayer × QueuedPlayer)) :
    ∀ made : Nat, ((matchesOf now made pairs).map Match.matchId).Nodup := by
  induction pairs with
  | nil => simp [matchesOf]
  | cons pair pairs ih =>
      intro made
      simp only [matchesOf, List.map_cons, List.nodup_cons]
      refine ⟨?_, ih (made + 1)⟩
      intro again
      obtain ⟨other, member, sameId⟩ := List.mem_map.mp again
      obtain ⟨number, a, b, -, above, -, rfl⟩ := mem_matchesOf member
      have := matchOf_matchId_inj sameId
      omega

/-! ## The effect of a pass -/

namespace Matchmaker

variable {R : Type u} [DoubleConversions R]

section observe

variable (m : Matchmaker R) (seconds : R)

@[simp] theorem observeWaitLocked_queue : (m.observeWaitLocked seconds).queue = m.queue := by
  unfold observeWaitLocked; dsimp only; split <;> rfl

@[simp] theorem observeWaitLocked_callback :
    (m.observeWaitLocked seconds).callback = m.callback := by
  unfold observeWaitLocked; dsimp only; split <;> rfl

@[simp] theorem observeWaitLocked_notifications :
    (m.observeWaitLocked seconds).notifications = m.notifications := by
  unfold observeWaitLocked; dsimp only; split <;> rfl

@[simp] theorem observeWaitLocked_orderCounter :
    (m.observeWaitLocked seconds).orderCounter = m.orderCounter := by
  unfold observeWaitLocked; dsimp only; split <;> rfl

@[simp] theorem observeWaitLocked_matchCounter :
    (m.observeWaitLocked seconds).matchCounter = m.matchCounter := by
  unfold observeWaitLocked; dsimp only; split <;> rfl

end observe

/-- What a matching pass that makes `pairs` does to the matchmaker. -/
structure PassEffect (now : Int) (pairs : List (QueuedPlayer × QueuedPlayer))
    (m m' : Matchmaker R) (made : List Match) : Prop where
  made : made = matchesOf now m.matchCounter pairs
  coherent : m'.queue.Coherent
  contents : ∀ playerId, m'.queue.contents playerId =
    if playerId ∈ pairedKeys QueuedPlayer.playerId pairs then none else m.queue.contents playerId
  matchCounter : m'.matchCounter = m.matchCounter + pairs.length
  orderCounter : m'.orderCounter = m.orderCounter
  callback : m'.callback = m.callback
  notifications : m'.notifications = m.notifications

theorem createMatches_effect (now : Int) (pairs : List (QueuedPlayer × QueuedPlayer)) :
    ∀ m : Matchmaker R, m.queue.Coherent →
      PassEffect now pairs m (createMatches now pairs m).1 (createMatches now pairs m).2 := by
  induction pairs with
  | nil =>
      intro m coherent
      exact ⟨rfl, coherent, by simp [createMatches], rfl, rfl, rfl, rfl⟩
  | cons pair pairs ih =>
      obtain ⟨a, b⟩ := pair
      intro m coherent
      have withoutA := (coherent.remove_spec a.playerId).1
      have withoutB := (withoutA.remove_spec b.playerId).1
      have queue : (m.createMatch now a.request b.request).1.queue =
          ((m.queue.remove a.playerId).2.remove b.playerId).2 := by simp [createMatch, QueuedPlayer.playerId]
      have later := ih (m.createMatch now a.request b.request).1 (by rw [queue]; exact withoutB)
      refine ⟨?_, later.coherent, ?_, ?_, ?_, ?_, ?_⟩
      · have rest := later.made
        simp only [createMatch, observeWaitLocked_matchCounter] at rest
        simp only [createMatches, matchesOf, ← rest]
        rfl
      · intro playerId
        have rest := later.contents playerId
        rw [queue, withoutA.contents_remove, coherent.contents_remove] at rest
        simp only [createMatches, rest, pairedKeys_cons, List.mem_cons]
        by_cases isA : playerId = a.playerId <;> by_cases isB : playerId = b.playerId <;>
          simp [isA, isB]
      · have rest := later.matchCounter
        simp only [createMatch, observeWaitLocked_matchCounter] at rest
        simp only [createMatches, createMatch, rest, List.length_cons]
        omega
      · have rest := later.orderCounter
        simp only [createMatch, observeWaitLocked_orderCounter] at rest
        exact rest
      · have rest := later.callback
        simp only [createMatch, observeWaitLocked_callback] at rest
        exact rest
      · have rest := later.notifications
        simp only [createMatch, observeWaitLocked_notifications] at rest
        exact rest

/-- The locked section of `RunMatching` makes the pairs of `passPairs`. -/
theorem runMatchingLocked_effect {m : Matchmaker R} (coherent : m.queue.Coherent) (now : Int) :
    PassEffect now (passPairs R now m.queue.fetchOrdered) m (m.runMatchingLocked now).1
      (m.runMatchingLocked now).2.1 := by
  have effect := createMatches_effect now (passPairs R now m.queue.fetchOrdered) m coherent
  unfold runMatchingLocked
  rw [pairLoop_eq now _ coherent.fetchOrdered_ascending]
  exact ⟨effect.made, effect.coherent, effect.contents, effect.matchCounter, effect.orderCounter,
    effect.callback, effect.notifications⟩

omit [DoubleConversions R] in
theorem foldl_publish (made : List Match) :
    ∀ m : Matchmaker R, made.foldl publish m = { m with notifications := m.notifications ++ made } := by
  induction made with
  | nil => simp
  | cons created made ih => intro m; simp [publish, ih]

omit [DoubleConversions R] in
@[simp] theorem poll_queue (m : Matchmaker R) : m.poll.2.queue = m.queue := by
  unfold poll
  cases m.notifications with
  | nil => rfl
  | cons next rest => rfl

omit [DoubleConversions R] in
@[simp] theorem poll_matchCounter (m : Matchmaker R) : m.poll.2.matchCounter = m.matchCounter := by
  unfold poll
  cases m.notifications with
  | nil => rfl
  | cons next rest => rfl

@[simp] theorem runMatching_made (m : Matchmaker R) (now : Int) :
    (m.runMatching now).2 = (m.runMatchingLocked now).2.1 := rfl

@[simp] theorem runMatching_queue (m : Matchmaker R) (now : Int) :
    (m.runMatching now).1.queue = (m.runMatchingLocked now).1.queue := by
  simp [runMatching, foldl_publish]

/-! ## Reachable matchmakers -/

/-- The states a matchmaker takes, from a fresh one by the sections that hold one of
its two mutexes, in any order. -/
inductive Reachable : Matchmaker R → Prop
  | new : Reachable new
  | setMatchCreatedCallback {m : Matchmaker R} (callback : Option CallbackId) :
      Reachable m → Reachable (m.setMatchCreatedCallback callback)
  | enqueue {m : Matchmaker R} (request : MatchRequest) : Reachable m → Reachable (m.enqueue request)
  | cancel {m : Matchmaker R} (playerId : String) : Reachable m → Reachable (m.cancel playerId).2
  | runMatchingLocked {m : Matchmaker R} (now : Int) :
      Reachable m → Reachable (m.runMatchingLocked now).1
  | publish {m : Matchmaker R} (created : Match) : Reachable m → Reachable (m.publish created)
  | poll {m : Matchmaker R} : Reachable m → Reachable m.poll.2
  | drain {m : Matchmaker R} : Reachable m → Reachable m.drain.2

/-- What holds of a matchmaker between sections: its queue is coherent and every
order number in it has been handed out. -/
structure WellFormed (m : Matchmaker R) : Prop where
  coherent : m.queue.Coherent
  issued : ∀ player ∈ m.queue.walk, player.order ≤ m.orderCounter

omit [DoubleConversions R] in
theorem WellFormed.unused {m : Matchmaker R} (wellFormed : WellFormed m) :
    ∀ player ∈ m.queue.walk, player.order ≠ m.orderCounter + 1 := by
  intro player member
  have := wellFormed.issued player member
  omega

omit [DoubleConversions R] in
theorem wellFormed_enqueue {m : Matchmaker R} (wellFormed : WellFormed m) (request : MatchRequest) :
    WellFormed (m.enqueue request) := by
  obtain ⟨after, members⟩ :=
    wellFormed.coherent.upsert_spec request (m.orderCounter + 1) wellFormed.unused
  refine ⟨after, ?_⟩
  intro player member
  rcases (members player).mp member with rfl | ⟨old, -⟩
  · exact Nat.le_refl _
  · exact Nat.le_succ_of_le (wellFormed.issued player old)

omit [DoubleConversions R] in
theorem wellFormed_cancel {m : Matchmaker R} (wellFormed : WellFormed m) (playerId : String) :
    WellFormed (m.cancel playerId).2 := by
  obtain ⟨after, -, members⟩ := wellFormed.coherent.remove_spec playerId
  refine ⟨after, ?_⟩
  intro player member
  exact wellFormed.issued player ((members player).mp member).1

theorem wellFormed_runMatchingLocked {m : Matchmaker R} (wellFormed : WellFormed m) (now : Int) :
    WellFormed (m.runMatchingLocked now).1 := by
  have effect := runMatchingLocked_effect wellFormed.coherent now
  refine ⟨effect.coherent, ?_⟩
  intro player member
  have found := (effect.coherent.contents_eq_some_iff player.playerId player).mpr ⟨member, rfl⟩
  rw [effect.contents] at found
  split at found
  · cases found
  · rw [effect.orderCounter]
    exact wellFormed.issued player
      ((wellFormed.coherent.contents_eq_some_iff player.playerId player).mp found).1

theorem wellFormed_runMatching {m : Matchmaker R} (wellFormed : WellFormed m) (now : Int) :
    WellFormed (m.runMatching now).1 := by
  have locked := wellFormed_runMatchingLocked wellFormed now
  rw [runMatching]
  dsimp only
  rw [foldl_publish]
  exact ⟨locked.coherent, locked.issued⟩

theorem Reachable.wellFormed {m : Matchmaker R} (reachable : Reachable m) : WellFormed m := by
  induction reachable with
  | new =>
      refine ⟨InMemoryMatchQueue.coherent_new, ?_⟩
      intro player member
      simp [Matchmaker.new, InMemoryMatchQueue.new, InMemoryMatchQueue.walk,
        InMemoryMatchQueue.nodes, OrderedMap.empty] at member
  | setMatchCreatedCallback callback _ ih => exact ⟨ih.coherent, ih.issued⟩
  | enqueue request _ ih => exact wellFormed_enqueue ih request
  | cancel playerId _ ih => exact wellFormed_cancel ih playerId
  | runMatchingLocked now _ ih => exact wellFormed_runMatchingLocked ih now
  | publish created _ ih => exact ⟨ih.coherent, ih.issued⟩
  | @poll m _ ih =>
      unfold Matchmaker.poll
      cases m.notifications with
      | nil => exact ih
      | cons next rest => exact ⟨ih.coherent, ih.issued⟩
  | drain _ ih => exact ⟨ih.coherent, ih.issued⟩

end Matchmaker

end Arena60
