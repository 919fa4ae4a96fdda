import Arena60.Matchmaking.MatchRequest
import Arena60.Misc.OrderedMap
import Mathlib.Data.List.Sort

/-!
# The in-memory match queue

`match_queue.{h,cpp}`. Waiting players sit in buckets by rating; a bucket is a
linked list whose nodes have addresses, and the index maps a player to the
rating and the address of its node, which is what the list iterator stored in
the source denotes.
-/

namespace Arena60

open Misc

/-- `QueuedPlayer`. -/
structure QueuedPlayer where
  request : MatchRequest
  order : Nat
  deriving DecidableEq, Repr

namespace QueuedPlayer

/-- The player waiting. -/
def playerId (player : QueuedPlayer) : String := player.request.playerId

/-- The rating the player waits with. -/
def elo (player : QueuedPlayer) : Int := player.request.elo

/-- The comparison `FetchOrdered` sorts by: rating first, then age. -/
def sortsBefore (lhs rhs : QueuedPlayer) : Bool :=
  if lhs.request.elo == rhs.request.elo then decide (lhs.order < rhs.order)
  else decide (lhs.request.elo < rhs.request.elo)

end QueuedPlayer

/-- A node of a bucket: a `BucketEntry` at its address. -/
structure BucketNode where
  address : Nat
  request : MatchRequest
  order : Nat
  deriving DecidableEq, Repr

/-- What a node holds. -/
def BucketNode.queued (node : BucketNode) : QueuedPlayer := ⟨node.request, node.order⟩

/-- `Bucket`, a linked list. -/
abbrev Bucket := List BucketNode

/-- `std::list::erase` at an iterator. -/
def eraseNode (address : Nat) (bucket : Bucket) : Bucket :=
  bucket.filter fun node => node.address ≠ address

/-- The insertion of `Upsert`: in front of the first node with a greater order. -/
def insertByOrder (node : BucketNode) : Bucket → Bucket
  | [] => [node]
  | it :: rest =>
      if node.order < it.order then node :: it :: rest else it :: insertByOrder node rest

/-- Take a node out of its bucket and drop the bucket when it becomes empty; `none`
when there is no such bucket. -/
def unlinkNode (buckets : OrderedMap Int Bucket) (elo : Int) (address : Nat) :
    Option (OrderedMap Int Bucket) :=
  match buckets.find elo with
  | none => none
  | some bucket =>
      let rest := eraseNode address bucket
      some (if rest.isEmpty then buckets.erase elo else buckets.upsert elo [] fun _ => rest)

/-- `InMemoryMatchQueue`; `nextAddress` is where the next node is allocated. -/
structure InMemoryMatchQueue where
  buckets : OrderedMap Int Bucket
  index : UnorderedMap String (Int × Nat)
  nextAddress : Nat

namespace InMemoryMatchQueue

/-- A fresh queue. -/
def new : InMemoryMatchQueue := ⟨.empty, .empty, 0⟩

/-- `InMemoryMatchQueue::Upsert`. -/
def upsert (q : InMemoryMatchQueue) (request : MatchRequest) (order : Nat) :
    InMemoryMatchQueue :=
  let buckets :=
    match q.index.find request.playerId with
    | none => q.buckets
    | some (elo, address) => (unlinkNode q.buckets elo address).getD q.buckets
  let index := q.index.erase request.playerId
  let inserted : BucketNode := ⟨q.nextAddress, request, order⟩
  { buckets := buckets.upsert request.elo [] (insertByOrder inserted)
    index := index.upsert request.playerId (0, 0) fun _ => (request.elo, inserted.address)
    nextAddress := q.nextAddress + 1 }

/-- `InMemoryMatchQueue::Remove`. -/
def remove (q : InMemoryMatchQueue) (playerId : String) : Bool × InMemoryMatchQueue :=
  match q.index.find playerId with
  | none => (false, q)
  | some (elo, address) =>
      match unlinkNode q.buckets elo address with
      | none => (false, { q with index := q.index.erase playerId })
      | some buckets => (true, { q with buckets, index := q.index.erase playerId })

/-- The nodes in the order the buckets are walked. -/
def nodes (q : InMemoryMatchQueue) : List BucketNode := q.buckets.entries.flatMap Prod.snd

/-- The waiting players in the order the buckets are walked. -/
def walk (q : InMemoryMatchQueue) : List QueuedPlayer := q.nodes.map BucketNode.queued

/-- `InMemoryMatchQueue::FetchOrdered`. Which algorithm sorts does not matter as long
as no two entries compare equal. -/
def fetchOrdered (q : InMemoryMatchQueue) : List QueuedPlayer :=
  q.walk.insertionSort fun lhs rhs => rhs.sortsBefore lhs = false

/-- `InMemoryMatchQueue::Size`. -/
def size (q : InMemoryMatchQueue) : Nat := q.index.size

/-- One round of the loops of `Snapshot`: whether it was the first, and the text so far. -/
def snapshotEntry (written : Bool × String) (node : BucketNode) : Bool × String :=
  let (first, oss) := written
  let oss := if !first then oss ++ "," else oss
  (false, oss ++ (node.request.playerId ++ ":" ++ toString node.request.elo))

/-- `InMemoryMatchQueue::Snapshot`. -/
def snapshot (q : InMemoryMatchQueue) : String := (q.nodes.foldl snapshotEntry (true, "")).2

/-- The abstract content of the queue: what each player waits with. -/
def contents (q : InMemoryMatchQueue) (playerId : String) : Option QueuedPlayer :=
  q.walk.find? fun player => player.playerId == playerId

/-- Whether a player is waiting. -/
def holds (q : InMemoryMatchQueue) (playerId : String) : Bool := (q.contents playerId).isSome

end InMemoryMatchQueue

end Arena60
