import Arena60.Stats.Leaderboard
import Mathlib.Data.Set.Card

/-!
# Runs of the leaderboard

Any calls of `Upsert` and `Erase` on a fresh store: the store is then the map from the players to
their last scores, and its readers read that map.
-/

namespace Arena60

open Misc

/-- The entries of a finite map are as many as the keys it has a value for. -/
theorem Misc.length_eq_ncard {κ ν : Type*} [DecidableEq κ] {entries : List (κ × ν)} {map : κ → Option ν}
    (distinct : (entries.map Prod.fst).Nodup)
    (graph : ∀ key value, (key, value) ∈ entries ↔ map key = some value) :
    entries.length = Set.ncard {key | (map key).isSome = true} := by
  have keys : {key | (map key).isSome = true} = ((entries.map Prod.fst).toFinset : Set κ) := by
    ext key
    rw [Set.mem_ofPred_eq, List.coe_toFinset, Set.mem_ofPred_eq, List.mem_map, Option.isSome_iff_exists]
    simp [← graph]
  rw [keys, Set.ncard_coe_finset, List.toFinset_card_of_nodup distinct, List.length_map]

/-- The calls of `Upsert` and `Erase`. -/
inductive LeaderboardCall where
  | upsert (playerId : String) (score : Int)
  | erase (playerId : String)

/-- The last scores of the players after a call. -/
def LeaderboardCall.lastScores (scores : String → Option Int) : LeaderboardCall → String → Option Int
  | .upsert playerId score => Function.update scores playerId (some score)
  | .erase playerId => Function.update scores playerId none

namespace InMemoryLeaderboardStore

/-- Execute a call. -/
def perform (store : InMemoryLeaderboardStore) : LeaderboardCall → InMemoryLeaderboardStore
  | .upsert playerId score => store.upsert playerId score
  | .erase playerId => store.erase playerId

variable {store : InMemoryLeaderboardStore} {scores : String → Option Int}

/-! ## Emptied scores -/

/-- A score is forgotten with its last player. -/
def NoEmptySet (store : InMemoryLeaderboardStore) : Prop :=
  ∀ score players, store.ordered.find score = some players → players.entries ≠ []

theorem entries_ne_nil_of_find {players : OrderedMap String Unit} {playerId : String}
    (member : players.find playerId = some ()) : players.entries ≠ [] := by
  intro empty
  rw [OrderedMap.find, empty] at member
  cases member

theorem noEmptySet_new : new.NoEmptySet := by
  intro score players found
  simp [new] at found

theorem NoEmptySet.removeFromOrdered (nonempty : store.NoEmptySet) (playerId : String) (score : Int) :
    (store.removeFromOrdered playerId score).NoEmptySet := by
  intro points players found
  unfold InMemoryLeaderboardStore.removeFromOrdered at found
  cases here : store.ordered.find (OrderDual.toDual score) with
  | none =>
      simp only [here] at found
      exact nonempty points players found
  | some group =>
      simp only [here] at found
      split_ifs at found with emptied
      · rw [OrderedMap.find_erase] at found
        split_ifs at found
        exact nonempty points players found
      · rw [OrderedMap.find_upsert, here] at found
        split_ifs at found with same
        · cases found
          simpa using emptied
        · exact nonempty points players found

theorem NoEmptySet.insert (nonempty : store.NoEmptySet) (scores : UnorderedMap String Int)
    (playerId : String) (score : Int) :
    NoEmptySet ⟨scores, store.ordered.upsert (OrderDual.toDual score) .empty
      fun players => players.upsert playerId () id⟩ := by
  intro points players found
  dsimp only at found
  rw [OrderedMap.find_upsert] at found
  split_ifs at found
  · cases found
    have member : (((store.ordered.find (OrderDual.toDual score)).getD .empty).upsert playerId () id).find
        playerId = some () := by simp
    exact entries_ne_nil_of_find member
  · exact nonempty points players found

theorem NoEmptySet.upsert (nonempty : store.NoEmptySet) (playerId : String) (score : Int) :
    (store.upsert playerId score).NoEmptySet := by
  unfold InMemoryLeaderboardStore.upsert
  cases store.scores.find playerId with
  | none => exact nonempty.insert _ playerId score
  | some existing =>
      dsimp only
      split_ifs
      · exact nonempty
      · exact (nonempty.removeFromOrdered playerId existing).insert _ playerId score

theorem NoEmptySet.erase (nonempty : store.NoEmptySet) (playerId : String) :
    (store.erase playerId).NoEmptySet := by
  unfold InMemoryLeaderboardStore.erase
  cases store.scores.find playerId with
  | none => exact nonempty
  | some existing => exact nonempty.removeFromOrdered playerId existing

/-! ## The store and its map -/

theorem get_erase (store : InMemoryLeaderboardStore) (playerId other : String) :
    (store.erase playerId).get other = if other = playerId then none else store.get other := by
  unfold erase get
  cases found : store.scores.find playerId with
  | none =>
      by_cases same : other = playerId
      · rw [if_pos same, same]
        exact found
      · rw [if_neg same]
  | some existing =>
      dsimp only
      rw [UnorderedMap.find_erase, removeFromOrdered_scores]

/-- A store that holds the last scores. -/
structure Follows (scores : String → Option Int) (store : InMemoryLeaderboardStore) : Prop where
  coherent : store.Coherent
  nonempty : store.NoEmptySet
  get : ∀ playerId, store.get playerId = scores playerId

theorem follows_new : Follows (fun _ => none) new := ⟨coherent_new, noEmptySet_new, fun _ => rfl⟩

theorem Follows.perform (follows : Follows scores store) (call : LeaderboardCall) :
    Follows (call.lastScores scores) (store.perform call) := by
  cases call with
  | upsert playerId score =>
      refine ⟨follows.coherent.upsert playerId score, follows.nonempty.upsert playerId score, ?_⟩
      intro other
      rw [InMemoryLeaderboardStore.perform, get_upsert, follows.get, LeaderboardCall.lastScores,
        Function.update_apply]
  | erase playerId =>
      refine ⟨follows.coherent.erase playerId, follows.nonempty.erase playerId, ?_⟩
      intro other
      rw [InMemoryLeaderboardStore.perform, get_erase, follows.get, LeaderboardCall.lastScores,
        Function.update_apply]

theorem Follows.foldl (follows : Follows scores store) (calls : List LeaderboardCall) :
    Follows (calls.foldl LeaderboardCall.lastScores scores)
      (calls.foldl InMemoryLeaderboardStore.perform store) := by
  induction calls generalizing scores store with
  | nil => exact follows
  | cons call calls ih => exact ih (follows.perform call)

/-! ## The readers -/

/-- A list is the sorted list of a score map. -/
structure Sorts (scores : String → Option Int) (sorted : List (String × Int)) : Prop where
  ordered : sorted.Pairwise RanksBefore
  entries : ∀ playerId score, (playerId, score) ∈ sorted ↔ scores playerId = some score

/-- No player is listed with two scores. -/
theorem Sorts.distinct {sorted : List (String × Int)} (sorts : Sorts scores sorted) :
    (sorted.map Prod.fst).Nodup := by
  have once : sorted.Nodup := by
    apply sorts.ordered.imp
    intro first second before same
    subst same
    rcases before with below | ⟨-, below⟩
    · exact lt_irrefl _ below
    · exact lt_irrefl _ below
  refine List.Nodup.map_on ?_ once
  rintro ⟨playerId, score⟩ member ⟨other, points⟩ member' same
  cases same
  have first := (sorts.entries playerId score).mp member
  have second := (sorts.entries playerId points).mp member'
  rw [Option.some.inj (first.symm.trans second)]

theorem Follows.sorts (follows : Follows scores store) : Sorts scores store.ranking := by
  refine ⟨store.ranking_ordered, ?_⟩
  intro playerId score
  rw [follows.coherent.mem_ranking, follows.get]

/-- The store is the score map to its readers, and its two structures agree. -/
structure RefinesScores (scores : String → Option Int) (store : InMemoryLeaderboardStore) : Prop where
  get : ∀ playerId, store.get playerId = scores playerId
  size : store.size = Set.ncard {playerId | (scores playerId).isSome = true}
  topN : ∃ sorted, Sorts scores sorted ∧ sorted.length = store.size ∧
    ∀ limit, store.topN limit = sorted.take (min limit store.size) ∧
      (store.topN limit).length = min limit store.size
  listed : ∀ playerId score, store.Listed playerId score ↔ store.scores.find playerId = some score
  nonempty : store.NoEmptySet

theorem Follows.refines (follows : Follows scores store) : RefinesScores scores store := by
  have size : store.size = Set.ncard {playerId | (scores playerId).isSome = true} := by
    apply length_eq_ncard store.scores.distinct
    intro playerId score
    rw [← UnorderedMap.find_eq_some_iff, ← follows.get]
    rfl
  have length : store.ranking.length = store.size := by
    rw [size]
    exact length_eq_ncard follows.sorts.distinct follows.sorts.entries
  refine ⟨follows.get, size, ⟨store.ranking, follows.sorts, length, ?_⟩, follows.coherent,
    follows.nonempty⟩
  intro limit
  have top : store.topN limit = store.ranking.take (min limit store.size) := by
    rw [topN_eq_take, ← length, List.take_eq_take_min]
  refine ⟨top, ?_⟩
  rw [top, List.length_take, length]
  omega

/-- After any calls a fresh store refines the map from the players to their last scores. -/
theorem refinesScores_of_calls (calls : List LeaderboardCall) :
    RefinesScores (calls.foldl LeaderboardCall.lastScores fun _ => none) (calls.foldl perform new) :=
  (follows_new.foldl calls).refines

end InMemoryLeaderboardStore

end Arena60
