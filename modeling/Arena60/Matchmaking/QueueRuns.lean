import Arena60.Matchmaking.QueueRefinement
import Arena60.Misc.Runs
import Mathlib.Data.Set.Card

/-!
# Runs of the match queue

Any calls of `Upsert` and `Remove` on a fresh queue, as long as no order number is used twice: the
queue is then the map from the players to what they were queued with last, and its readers list
that map.
-/

namespace Arena60

open Misc

/-- The calls of `Upsert` and `Remove`. -/
inductive QueueCall where
  | upsert (request : MatchRequest) (order : Nat)
  | remove (playerId : String)

/-- What is observed of a call. -/
inductive QueueItem where
  | upserted (player : QueuedPlayer)
  | removed (playerId : String) (found : Bool)

/-- The order number of an `Upsert`. -/
def QueueItem.order? : QueueItem → Option Nat
  | upserted player => some player.order
  | removed _ _ => none

/-- The order numbers of a trace. -/
def ordersOf (trace : List QueueItem) : List Nat := trace.filterMap QueueItem.order?

/-- What a player was queued with last, if it was not removed since; the newest item is the first. -/
def lastQueued (playerId : String) : List QueueItem → Option QueuedPlayer
  | [] => none
  | .upserted player :: older =>
      if player.playerId = playerId then some player else lastQueued playerId older
  | .removed other _ :: older => if other = playerId then none else lastQueued playerId older

theorem mem_ordersOf_of_lastQueued {playerId : String} {player : QueuedPlayer} {trace : List QueueItem}
    (last : lastQueued playerId trace = some player) : player.order ∈ ordersOf trace := by
  induction trace with
  | nil => cases last
  | cons item older ih =>
      cases item with
      | upserted newest =>
          rw [lastQueued] at last
          split at last
          · cases last
            simp [ordersOf, QueueItem.order?]
          · have member := ih last
            simp [ordersOf, QueueItem.order?] at member ⊢
            exact Or.inr member
      | removed other found =>
          rw [lastQueued] at last
          split at last
          · cases last
          · exact ih last

namespace InMemoryMatchQueue

/-- Execute a call. -/
def perform : QueueCall → InMemoryMatchQueue → Option (List QueueItem × InMemoryMatchQueue)
  | .upsert request order, q => some ([.upserted ⟨request, order⟩], q.upsert request order)
  | .remove playerId, q => some ([.removed playerId (q.remove playerId).1], (q.remove playerId).2)

def Initial (q : InMemoryMatchQueue) : Prop := q = .new

/-- The runs of a fresh queue. -/
abbrev Runs (trace : List QueueItem) (q : InMemoryMatchQueue) : Prop :=
  Run Initial (StepOf perform) trace q

variable {q : InMemoryMatchQueue} {trace : List QueueItem}

/-! ## The queue and its map -/

/-- A queue that holds what was queued last. -/
structure Follows (trace : List QueueItem) (q : InMemoryMatchQueue) : Prop where
  coherent : q.Coherent
  contents : ∀ playerId, q.contents playerId = lastQueued playerId trace

theorem Follows.upsert (follows : Follows trace q) (request : MatchRequest) (order : Nat)
    (unused : order ∉ ordersOf trace) :
    Follows (.upserted ⟨request, order⟩ :: trace) (q.upsert request order) := by
  have fresh : ∀ player ∈ q.walk, player.order ≠ order := by
    intro player member same
    have known := (follows.coherent.contents_eq_some_iff player.playerId player).mpr ⟨member, rfl⟩
    rw [follows.contents] at known
    have used := mem_ordersOf_of_lastQueued known
    rw [same] at used
    exact unused used
  refine ⟨(follows.coherent.upsert_spec request order fresh).1, ?_⟩
  intro playerId
  rw [follows.coherent.contents_upsert request order fresh, lastQueued, follows.contents]
  simp only [QueuedPlayer.playerId, eq_comm]

theorem Follows.remove (follows : Follows trace q) (playerId : String) (found : Bool) :
    Follows (.removed playerId found :: trace) (q.remove playerId).2 := by
  refine ⟨(follows.coherent.remove_spec playerId).1, ?_⟩
  intro other
  rw [follows.coherent.contents_remove, lastQueued, follows.contents]
  by_cases asked : other = playerId
  · rw [if_pos asked, if_pos asked.symm]
  · rw [if_neg asked, if_neg (Ne.symm asked)]

theorem Runs.follows (run : Runs trace q) (distinct : (ordersOf trace).Nodup) : Follows trace q := by
  induction run with
  | start initial =>
      cases initial
      exact ⟨coherent_new, fun _ => rfl⟩
  | next earlier step ih =>
      obtain ⟨call, performed⟩ := step
      cases call with
      | upsert request order =>
          cases performed
          obtain ⟨unused, distinct'⟩ := List.nodup_cons.mp distinct
          exact (ih distinct').upsert request order unused
      | remove playerId =>
          cases performed
          exact (ih distinct).remove playerId _

/-! ## The readers -/

theorem Coherent.walk_players_nodup (coherent : q.Coherent) : (q.walk.map QueuedPlayer.playerId).Nodup := by
  rw [← coherent.fetchOrdered_eq]
  exact coherent.fetchOrdered_players_nodup

/-- The index has one entry for each waiting player. -/
theorem Coherent.size_eq (coherent : q.Coherent) : q.size = q.walk.length := by
  have same : q.index.keys.Perm (q.walk.map QueuedPlayer.playerId) := by
    refine (List.perm_ext_iff_of_nodup q.index.keys_nodup coherent.walk_players_nodup).mpr ?_
    intro playerId
    rw [← q.index.contains_iff, UnorderedMap.contains, Option.isSome_iff_exists, List.mem_map]
    constructor
    · intro entry
      obtain ⟨⟨elo, address⟩, found⟩ := entry
      obtain ⟨node, stored, named, -, -⟩ := (coherent.index playerId elo address).mp found
      exact ⟨node.queued, (q.mem_walk _).mpr ⟨node, stored, rfl⟩, named⟩
    · intro waiting
      obtain ⟨player, member, named⟩ := waiting
      obtain ⟨node, stored, rfl⟩ := (q.mem_walk player).mp member
      exact ⟨_, (coherent.index playerId node.request.elo node.address).mpr
        ⟨node, stored, named, rfl, rfl⟩⟩
  have lengths := same.length_eq
  rw [List.length_map] at lengths
  rw [← lengths, q.index.length_keys]
  rfl

/-- The text of `Snapshot` for one player. -/
def entryText (player : QueuedPlayer) : String := player.playerId ++ ":" ++ toString player.elo

/-- The loop of `Snapshot` after its first round. -/
theorem snapshot_loop (nodes : List BucketNode) (text : String) :
    (nodes.foldl snapshotEntry (false, text)).2 =
      ",".intercalate (text :: (nodes.map BucketNode.queued).map entryText) := by
  induction nodes generalizing text with
  | nil => exact String.intercalate_singleton.symm
  | cons node rest ih =>
      rw [List.foldl_cons, List.map_cons, List.map_cons, String.intercalate_cons_cons,
        ← String.intercalate_cons_append]
      exact ih _

/-- `Snapshot` walks through the buckets. -/
theorem snapshot_eq (q : InMemoryMatchQueue) : q.snapshot = ",".intercalate (q.walk.map entryText) := by
  rw [snapshot, walk]
  cases q.nodes with
  | nil => rfl
  | cons node rest =>
      have first : snapshotEntry (true, "") node = (false, entryText node.queued) := by
        simp only [snapshotEntry, entryText, Bool.not_true, Bool.false_eq_true, if_false,
          String.empty_append]
        rfl
      rw [List.foldl_cons, first, snapshot_loop]
      rfl

/-! ## The claim of the map -/

/-- The queue is the map `contents` to its readers, and its index and its buckets agree. -/
structure RefinesMap (contents : String → Option QueuedPlayer) (q : InMemoryMatchQueue) : Prop where
  listed : ∀ player, player ∈ q.fetchOrdered ↔ contents player.playerId = some player
  once : q.fetchOrdered.Nodup
  ascending : q.fetchOrdered.Pairwise QueuedPlayer.Before
  size : q.size = Set.ncard {playerId | (contents playerId).isSome = true}
  snapshot : q.snapshot = ",".intercalate (q.fetchOrdered.map entryText)
  removes : ∀ playerId, (q.remove playerId).1 = (contents playerId).isSome
  linked : ∀ playerId elo address, q.index.find playerId = some (elo, address) →
    ∃ bucket, q.buckets.find elo = some bucket ∧
      ∃ node ∈ bucket, node.address = address ∧ node.request.playerId = playerId
  indexed : ∀ elo bucket, q.buckets.find elo = some bucket → bucket ≠ [] ∧
    (bucket.Pairwise fun a b => a.order < b.order) ∧
      ∀ node ∈ bucket, q.index.find node.request.playerId = some (elo, node.address)

theorem Follows.refines (follows : Follows trace q) : RefinesMap (fun playerId => lastQueued playerId trace) q := by
  have coherent := follows.coherent
  have buckets := coherent.buckets
  have listed : ∀ player, player ∈ q.fetchOrdered ↔ lastQueued player.playerId trace = some player := by
    intro player
    rw [mem_fetchOrdered, ← follows.contents, coherent.contents_eq_some_iff]
    simp
  refine ⟨listed, List.Nodup.of_map _ coherent.fetchOrdered_players_nodup, coherent.fetchOrdered_ascending,
    ?_, ?_, ?_, ?_, ?_⟩
  · have players : {playerId | (lastQueued playerId trace).isSome = true} =
        ((q.fetchOrdered.map QueuedPlayer.playerId).toFinset : Set String) := by
      ext playerId
      rw [Set.mem_ofPred_eq, List.coe_toFinset, Set.mem_ofPred_eq, List.mem_map, Option.isSome_iff_exists]
      constructor
      · intro waits
        obtain ⟨player, last⟩ := waits
        have named := ((coherent.contents_eq_some_iff playerId player).mp
          ((follows.contents playerId).trans last)).2
        subst named
        exact ⟨player, (listed player).mpr last, rfl⟩
      · intro waits
        obtain ⟨player, member, rfl⟩ := waits
        exact ⟨player, (listed player).mp member⟩
    rw [players, Set.ncard_coe_finset, List.toFinset_card_of_nodup coherent.fetchOrdered_players_nodup,
      List.length_map, coherent.fetchOrdered_eq, coherent.size_eq]
  · rw [snapshot_eq, coherent.fetchOrdered_eq]
  · intro playerId
    rw [coherent.remove_eq_holds, holds, follows.contents]
  · intro playerId elo address found
    obtain ⟨node, stored, named, rated, addressed⟩ := (coherent.index playerId elo address).mp found
    obtain ⟨bucket, here, member⟩ := buckets.find_stored stored
    rw [rated] at here
    exact ⟨bucket, here, node, member, addressed, named⟩
  · intro elo bucket found
    refine ⟨buckets.nonempty elo bucket found, buckets.ascending elo bucket found, ?_⟩
    intro node member
    have rated := buckets.elo elo bucket found node member
    exact (coherent.index _ elo node.address).mpr ⟨node, ⟨elo, bucket, found, member⟩, rfl, rated, rfl⟩

/-- The queue refines the map from the players to what they were queued with last. -/
theorem refinesMap_of_runs (run : Runs trace q) (distinct : (ordersOf trace).Nodup) :
    RefinesMap (fun playerId => lastQueued playerId trace) q := (run.follows distinct).refines

end InMemoryMatchQueue

/-- Three players; one moves to another bucket and one leaves. -/
def threeCalls : List QueueCall :=
  [.upsert ⟨"a", 1200, 0, "global"⟩ 1, .upsert ⟨"b", 1200, 0, "global"⟩ 2, .upsert ⟨"c", 900, 0, "eu"⟩ 3,
    .upsert ⟨"a", 900, 5, "eu"⟩ 4, .remove "b", .remove "d"]

theorem refinesMap_of_runs_three : ∃ (trace : List QueueItem) (q : InMemoryMatchQueue),
    InMemoryMatchQueue.RefinesMap (fun playerId => lastQueued playerId trace) q ∧
      q.snapshot = "c:900,a:900" := by
  have fresh : InMemoryMatchQueue.Initial .new := rfl
  obtain ⟨trace, q, run, passed⟩ := exists_run_of_replay threeCalls
    (fun trace q => decide (ordersOf trace).Nodup && q.snapshot == "c:900,a:900")
    fresh (show (replay InMemoryMatchQueue.perform _ _).any _ = true by decide +kernel)
  rw [Bool.and_eq_true, decide_eq_true_eq, beq_iff_eq] at passed
  exact ⟨trace, q, InMemoryMatchQueue.refinesMap_of_runs run passed.1, passed.2⟩

end Arena60
