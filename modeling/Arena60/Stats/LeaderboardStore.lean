import Arena60.Misc.OrderedMap
import Mathlib.Data.String.Basic
import Mathlib.Order.OrderDual

/-!
# The leaderboard

`leaderboard_store.{h,cpp}`: the scores by player, and the players by score, highest
score first. A `std::set` is an ordered map without values.
-/

namespace Arena60

open Misc

/-- `InMemoryLeaderboardStore`. -/
structure InMemoryLeaderboardStore where
  scores : UnorderedMap String Int
  ordered : OrderedMap Intᵒᵈ (OrderedMap String Unit)

namespace InMemoryLeaderboardStore

/-- The store as it is constructed. -/
def new : InMemoryLeaderboardStore := ⟨.empty, .empty⟩

/-- `InMemoryLeaderboardStore::RemoveFromOrdered`. -/
def removeFromOrdered (store : InMemoryLeaderboardStore) (playerId : String) (score : Int) :
    InMemoryLeaderboardStore :=
  match store.ordered.find (OrderDual.toDual score) with
  | none => store
  | some players =>
      if (players.erase playerId).entries.isEmpty then
        { store with ordered := store.ordered.erase (OrderDual.toDual score) }
      else
        { store with
          ordered := store.ordered.upsert (OrderDual.toDual score) .empty (·.erase playerId) }

/-- `InMemoryLeaderboardStore::Upsert`. -/
def upsert (store : InMemoryLeaderboardStore) (playerId : String) (score : Int) :
    InMemoryLeaderboardStore :=
  let insert (store : InMemoryLeaderboardStore) : InMemoryLeaderboardStore :=
    { scores := store.scores.upsert playerId 0 fun _ => score
      ordered := store.ordered.upsert (OrderDual.toDual score) .empty
        fun players => players.upsert playerId () id }
  match store.scores.find playerId with
  | none => insert store
  | some existing =>
      if existing = score then store
      else insert (store.removeFromOrdered playerId existing)

/-- `InMemoryLeaderboardStore::Erase`. -/
def erase (store : InMemoryLeaderboardStore) (playerId : String) : InMemoryLeaderboardStore :=
  match store.scores.find playerId with
  | none => store
  | some existing =>
      let store := store.removeFromOrdered playerId existing
      { store with scores := store.scores.erase playerId }

/-- The inner loop of `TopN`, from a result and the number of entries that may still be added. -/
def takePlayers (score : Int) : List String → List (String × Int) × Nat → List (String × Int) × Nat
  | [], loop => loop
  | player :: players, (result, remaining) =>
      if remaining = 0 then (result, remaining)
      else takePlayers score players (result ++ [(player, score)], remaining - 1)

/-- The outer loop of `TopN`. -/
def takeScores : List (Intᵒᵈ × OrderedMap String Unit) → List (String × Int) × Nat →
    List (String × Int) × Nat
  | [], loop => loop
  | (score, players) :: rest, loop =>
      let loop := takePlayers (OrderDual.ofDual score) (players.entries.map Prod.fst) loop
      if loop.2 = 0 then loop else takeScores rest loop

/-- `InMemoryLeaderboardStore::TopN`. -/
def topN (store : InMemoryLeaderboardStore) (limit : Nat) : List (String × Int) :=
  (takeScores store.ordered.entries ([], limit)).1

/-- `InMemoryLeaderboardStore::Get`. -/
def get (store : InMemoryLeaderboardStore) (playerId : String) : Option Int :=
  store.scores.find playerId

/-- `InMemoryLeaderboardStore::Size`. -/
def size (store : InMemoryLeaderboardStore) : Nat := store.scores.size

end InMemoryLeaderboardStore

end Arena60
