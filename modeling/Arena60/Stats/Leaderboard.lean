import Arena60.Stats.LeaderboardStore

/-!
# The leaderboard as a ranking

The score map and the score-ordered sets of a store agree after any sequence of writes, so
that `topN` reads off the beginning of the one list of all players with a score, highest
score first and by player id among equal scores.
-/

namespace Arena60

open Misc

/-- The order of the leaderboard. -/
def RanksBefore (first second : String × Int) : Prop :=
  second.2 < first.2 ∨ (first.2 = second.2 ∧ first.1 < second.1)

namespace InMemoryLeaderboardStore

/-- The players of one score. -/
def playersAt (score : Int) (players : OrderedMap String Unit) : List (String × Int) :=
  players.entries.map fun entry => (entry.1, score)

/-- All players of the ordered sets, in their order. -/
def ranking (store : InMemoryLeaderboardStore) : List (String × Int) :=
  store.ordered.entries.flatMap fun entry => playersAt (OrderDual.ofDual entry.1) entry.2

/-- Whether a player is in the set of a score. -/
def Listed (store : InMemoryLeaderboardStore) (playerId : String) (score : Int) : Prop :=
  ∃ players, store.ordered.find (OrderDual.toDual score) = some players ∧
    players.find playerId = some ()

/-- Every player with a score is in the set of that score, and in no other one. -/
def Coherent (store : InMemoryLeaderboardStore) : Prop :=
  ∀ playerId score, store.Listed playerId score ↔ store.get playerId = some score

/-! ## Reading -/

theorem takePlayers_eq (score : Int) (players : List String) :
    ∀ (result : List (String × Int)) (remaining : Nat),
      takePlayers score players (result, remaining) =
        (result ++ (players.map fun player => (player, score)).take remaining,
          remaining - players.length) := by
  induction players with
  | nil =>
      intro result remaining
      simp [takePlayers]
  | cons player players ih =>
      intro result remaining
      rw [takePlayers]
      cases remaining with
      | zero => simp
      | succ remaining =>
          rw [if_neg (Nat.succ_ne_zero remaining), ih]
          simp

theorem takeScores_eq (entries : List (Intᵒᵈ × OrderedMap String Unit)) :
    ∀ (result : List (String × Int)) (remaining : Nat),
      (takeScores entries (result, remaining)).1 =
        result ++ (entries.flatMap fun entry =>
          playersAt (OrderDual.ofDual entry.1) entry.2).take remaining := by
  induction entries with
  | nil =>
      intro result remaining
      simp [takeScores]
  | cons entry entries ih =>
      intro result remaining
      obtain ⟨score, players⟩ := entry
      have names : (players.entries.map Prod.fst).map (fun player => (player, OrderDual.ofDual score)) =
          playersAt (OrderDual.ofDual score) players := by
        rw [List.map_map, playersAt]
        rfl
      have length : (players.entries.map Prod.fst).length =
          (playersAt (OrderDual.ofDual score) players).length := by
        rw [playersAt, List.length_map, List.length_map]
      rw [takeScores, takePlayers_eq, names, length, List.flatMap_cons, List.take_append]
      dsimp only
      split_ifs with full
      · rw [full]
        simp
      · rw [ih, List.append_assoc]

/-- `TopN` gives the beginning of the ranking. -/
theorem topN_eq_take (store : InMemoryLeaderboardStore) (limit : Nat) :
    store.topN limit = store.ranking.take limit := by
  rw [topN, takeScores_eq, ranking, List.nil_append]

/-- The ranking is strictly ordered, whatever the sets hold. -/
theorem ranking_ordered (store : InMemoryLeaderboardStore) : store.ranking.Pairwise RanksBefore := by
  apply List.pairwise_flatMap.mpr
  constructor
  · intro entry _
    have ascending := List.pairwise_map.mp entry.2.ascending
    apply List.pairwise_map.mpr
    exact ascending.imp fun below => Or.inr ⟨rfl, below⟩
  · have ascending := List.pairwise_map.mp store.ordered.ascending
    apply ascending.imp
    intro higher lower below first member second member'
    obtain ⟨_, _, rfl⟩ := List.mem_map.mp member
    obtain ⟨_, _, rfl⟩ := List.mem_map.mp member'
    exact Or.inl below

theorem mem_ranking (store : InMemoryLeaderboardStore) (playerId : String) (score : Int) :
    (playerId, score) ∈ store.ranking ↔ store.Listed playerId score := by
  rw [ranking, List.mem_flatMap]
  constructor
  · intro found
    obtain ⟨⟨key, players⟩, member, inside⟩ := found
    obtain ⟨⟨name, _⟩, entry, same⟩ := List.mem_map.mp inside
    cases same
    exact ⟨players, (store.ordered.find_eq_some_iff _ _).mpr member,
      (players.find_eq_some_iff _ _).mpr entry⟩
  · intro listed
    obtain ⟨players, stored, inside⟩ := listed
    exact ⟨(OrderDual.toDual score, players), (store.ordered.find_eq_some_iff _ _).mp stored,
      List.mem_map.mpr ⟨(playerId, ()), (players.find_eq_some_iff _ _).mp inside, rfl⟩⟩

theorem Coherent.mem_ranking {store : InMemoryLeaderboardStore} (coherent : store.Coherent)
    (playerId : String) (score : Int) :
    (playerId, score) ∈ store.ranking ↔ store.get playerId = some score := by
  rw [InMemoryLeaderboardStore.mem_ranking]
  exact coherent playerId score

/-! ## Writing -/

theorem coherent_new : new.Coherent := by
  intro playerId score
  simp [Listed, new, get]

theorem find_erase_unit (players : OrderedMap String Unit) (playerId other : String) :
    (players.erase playerId).find other = some () ↔ players.find other = some () ∧ other ≠ playerId := by
  rw [OrderedMap.find_erase]
  by_cases same : other = playerId <;> simp [same]

theorem removeFromOrdered_scores (store : InMemoryLeaderboardStore) (playerId : String) (score : Int) :
    (store.removeFromOrdered playerId score).scores = store.scores := by
  unfold removeFromOrdered
  split
  · rfl
  · split_ifs <;> rfl

theorem removeFromOrdered_listed (store : InMemoryLeaderboardStore) (playerId : String) (score : Int)
    (other : String) (points : Int) :
    (store.removeFromOrdered playerId score).Listed other points ↔
      store.Listed other points ∧ ¬(other = playerId ∧ points = score) := by
  unfold removeFromOrdered
  cases found : store.ordered.find (OrderDual.toDual score) with
  | none =>
      have unlisted : ¬store.Listed other score := by
        intro listed
        obtain ⟨players, stored, _⟩ := listed
        rw [found] at stored
        cases stored
      have untouched : store.Listed other points → ¬(other = playerId ∧ points = score) := by
        intro listed same
        rw [same.2] at listed
        exact unlisted listed
      exact ⟨fun listed => ⟨listed, untouched listed⟩, And.left⟩
  | some players =>
      dsimp only
      by_cases here : points = score
      · subst here
        have before : store.Listed other points ↔ players.find other = some () := by
          simp [Listed, found]
        rw [before]
        simp only [and_true]
        rw [← ne_eq, ← find_erase_unit]
        split_ifs with emptied
        · -- the set became empty and is removed with its score
          have none_left : (players.erase playerId).find other = none := by
            rw [List.isEmpty_iff] at emptied
            rw [OrderedMap.find, emptied]
            rfl
          simp [Listed, none_left]
        · simp [Listed, found]
      · have elsewhere : OrderDual.toDual points ≠ OrderDual.toDual score := fun same =>
          here (OrderDual.toDual_inj.mp same)
        have kept : ¬(other = playerId ∧ points = score) := fun same => here same.2
        rw [and_iff_left kept]
        split_ifs
        · simp [Listed, elsewhere]
        · simp [Listed, elsewhere]

/-- The last two lines of `Upsert`. -/
theorem listed_insert (store : InMemoryLeaderboardStore) (scores : UnorderedMap String Int)
    (playerId : String) (score : Int) (other : String) (points : Int) :
    Listed ⟨scores, store.ordered.upsert (OrderDual.toDual score) .empty
        fun players => players.upsert playerId () id⟩ other points ↔
      store.Listed other points ∨ (other = playerId ∧ points = score) := by
  unfold Listed
  rw [OrderedMap.find_upsert]
  by_cases here : points = score
  · subst here
    rw [if_pos rfl]
    cases store.ordered.find (OrderDual.toDual points) with
    | none => by_cases same : other = playerId <;> simp [same]
    | some players => by_cases same : other = playerId <;> simp [same]
  · have elsewhere : OrderDual.toDual points ≠ OrderDual.toDual score := fun same =>
      here (OrderDual.toDual_inj.mp same)
    simp [here, elsewhere]

theorem get_upsert (store : InMemoryLeaderboardStore) (playerId : String) (score : Int)
    (other : String) :
    (store.upsert playerId score).get other =
      if other = playerId then some score else store.get other := by
  unfold upsert get
  cases found : store.scores.find playerId with
  | none => exact UnorderedMap.find_upsert _ _ _ _ _
  | some existing =>
      dsimp only
      split_ifs with unchanged same same
      · rw [same, found, unchanged]
      · rfl
      · rw [UnorderedMap.find_upsert, if_pos same]
      · rw [UnorderedMap.find_upsert, if_neg same, removeFromOrdered_scores]

theorem Coherent.upsert {store : InMemoryLeaderboardStore} (coherent : store.Coherent)
    (playerId : String) (score : Int) : (store.upsert playerId score).Coherent := by
  intro other points
  rw [get_upsert]
  unfold InMemoryLeaderboardStore.upsert
  cases found : store.scores.find playerId with
  | none =>
      dsimp only
      rw [listed_insert, coherent other points]
      by_cases same : other = playerId
      · subst same
        rw [get, found]
        simp [eq_comm]
      · simp [same]
  | some existing =>
      dsimp only
      split_ifs with unchanged same same
      · subst same unchanged
        rw [coherent other points, get, found]
      · exact coherent other points
      · subst same
        rw [listed_insert, removeFromOrdered_listed, coherent other points, get, found]
        simp [eq_comm]
      · rw [listed_insert, removeFromOrdered_listed, coherent other points]
        simp [same]

theorem Coherent.erase {store : InMemoryLeaderboardStore} (coherent : store.Coherent)
    (playerId : String) : (store.erase playerId).Coherent := by
  intro other points
  unfold InMemoryLeaderboardStore.erase
  cases found : store.scores.find playerId with
  | none => exact coherent other points
  | some existing =>
      have listed := removeFromOrdered_listed store playerId existing other points
      rw [coherent other points] at listed
      refine listed.trans ?_
      unfold get
      dsimp only
      rw [UnorderedMap.find_erase, removeFromOrdered_scores]
      by_cases same : other = playerId
      · subst same
        rw [found]
        simp [eq_comm]
      · simp [same]

end InMemoryLeaderboardStore

end Arena60
