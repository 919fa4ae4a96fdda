import Arena60.Matchmaking.MatchQueue

/-!
# The match queue refines a map

A coherent queue is one whose index and buckets agree. Every operation keeps a
queue coherent, and on coherent queues the operations are those of a finite map
from players to what they wait with: `contents_upsert`, `contents_remove`, and
`fetchOrdered` lists the map in strictly ascending order.
-/

namespace Arena60

open Misc

/-- `lhs` is listed before `rhs`: a lower rating, or the same one and older. -/
def QueuedPlayer.Before (lhs rhs : QueuedPlayer) : Prop :=
  lhs.elo < rhs.elo ∨ (lhs.elo = rhs.elo ∧ lhs.order < rhs.order)

theorem QueuedPlayer.sortsBefore_iff (lhs rhs : QueuedPlayer) :
    lhs.sortsBefore rhs = true ↔ lhs.Before rhs := by
  unfold sortsBefore Before elo
  by_cases same : lhs.request.elo = rhs.request.elo
  · simp [same]
  · simp [same]

theorem QueuedPlayer.Before.asymm {lhs rhs : QueuedPlayer} (h : lhs.Before rhs) :
    ¬ rhs.Before lhs := by
  unfold Before at *
  omega

instance : Std.Irrefl QueuedPlayer.Before := ⟨fun _ before => before.asymm before⟩

instance : Std.Antisymm QueuedPlayer.Before := ⟨fun _ _ h h' => absurd h' h.asymm⟩

/-- The buckets alone: every node lies in the bucket of its rating, no bucket is
empty, each one ascends by order, and no address is used twice. -/
structure BucketsCoherent (buckets : OrderedMap Int Bucket) : Prop where
  elo : ∀ elo bucket, buckets.find elo = some bucket → ∀ node ∈ bucket, node.request.elo = elo
  nonempty : ∀ elo bucket, buckets.find elo = some bucket → bucket ≠ []
  ascending : ∀ elo bucket, buckets.find elo = some bucket →
    bucket.Pairwise fun a b => a.order < b.order
  addresses : ∀ elo bucket elo' bucket', buckets.find elo = some bucket →
    buckets.find elo' = some bucket' → ∀ a ∈ bucket, ∀ b ∈ bucket', a.address = b.address → a = b

/-- A node is stored somewhere in the buckets. -/
def Stored (buckets : OrderedMap Int Bucket) (node : BucketNode) : Prop :=
  ∃ elo bucket, buckets.find elo = some bucket ∧ node ∈ bucket

theorem InMemoryMatchQueue.mem_nodes (q : InMemoryMatchQueue) (node : BucketNode) :
    node ∈ q.nodes ↔ Stored q.buckets node := by
  simp only [nodes, List.mem_flatMap, Stored, OrderedMap.find_eq_some_iff, Prod.exists]

theorem BucketsCoherent.find_stored {buckets : OrderedMap Int Bucket}
    (coherent : BucketsCoherent buckets) {node : BucketNode} (stored : Stored buckets node) :
    ∃ bucket, buckets.find node.request.elo = some bucket ∧ node ∈ bucket := by
  obtain ⟨elo, bucket, found, member⟩ := stored
  have same := coherent.elo elo bucket found node member
  subst same
  exact ⟨bucket, found, member⟩

theorem BucketsCoherent.address_unique {buckets : OrderedMap Int Bucket}
    (coherent : BucketsCoherent buckets) {a b : BucketNode} (storedA : Stored buckets a)
    (storedB : Stored buckets b) (same : a.address = b.address) : a = b := by
  obtain ⟨eloA, bucketA, foundA, memberA⟩ := storedA
  obtain ⟨eloB, bucketB, foundB, memberB⟩ := storedB
  exact coherent.addresses _ _ _ _ foundA foundB a memberA b memberB same

/-! ## Unlinking a node -/

section unlink

variable {buckets : OrderedMap Int Bucket} {node : BucketNode}

/-- Unlinking a stored node succeeds, and the buckets it leaves are the old ones
without the node, an emptied bucket being dropped. -/
theorem unlinkNode_find (coherent : BucketsCoherent buckets) (stored : Stored buckets node) :
    ∃ buckets', unlinkNode buckets node.request.elo node.address = some buckets' ∧
      ∀ elo rest, buckets'.find elo = some rest ↔
        ∃ bucket, buckets.find elo = some bucket ∧ rest ≠ [] ∧
          rest = if elo = node.request.elo then eraseNode node.address bucket else bucket := by
  obtain ⟨bucket, found, -⟩ := coherent.find_stored stored
  refine ⟨_, by rw [unlinkNode, found], ?_⟩
  intro elo rest
  by_cases emptied : eraseNode node.address bucket = []
  · simp only [emptied, List.isEmpty_nil, if_true, OrderedMap.find_erase]
    by_cases asked : elo = node.request.elo
    · subst asked
      simp only [if_true, found, Option.some.injEq, exists_eq_left', emptied]
      constructor
      · intro h; cases h
      · rintro ⟨ne, rfl⟩; exact absurd rfl ne
    · simp only [asked, if_false]
      constructor
      · intro here
        exact ⟨rest, here, coherent.nonempty _ _ here, rfl⟩
      · rintro ⟨other, here, -, rfl⟩
        exact here
  · have kept : (eraseNode node.address bucket).isEmpty = false := by
      simpa [List.isEmpty_iff] using emptied
    simp only [kept, Bool.false_eq_true, if_false, OrderedMap.find_upsert]
    by_cases asked : elo = node.request.elo
    · subst asked
      simp only [if_true, found, Option.some.injEq, exists_eq_left']
      constructor
      · rintro rfl
        exact ⟨emptied, rfl⟩
      · rintro ⟨-, rfl⟩
        rfl
    · simp only [asked, if_false]
      constructor
      · intro here
        exact ⟨rest, here, coherent.nonempty _ _ here, rfl⟩
      · rintro ⟨other, here, -, rfl⟩
        exact here

theorem unlinkNode_spec (coherent : BucketsCoherent buckets) (stored : Stored buckets node) :
    ∃ buckets', unlinkNode buckets node.request.elo node.address = some buckets' ∧
      BucketsCoherent buckets' ∧ ∀ other, Stored buckets' other ↔ Stored buckets other ∧ other ≠ node := by
  obtain ⟨buckets', unlinked, find⟩ := unlinkNode_find coherent stored
  -- what is left of a bucket is part of it
  have shrinks : ∀ elo rest, buckets'.find elo = some rest →
      ∃ bucket, buckets.find elo = some bucket ∧ rest.Sublist bucket := by
    intro elo rest found
    obtain ⟨bucket, here, -, rfl⟩ := (find elo rest).mp found
    refine ⟨bucket, here, ?_⟩
    split
    · exact List.filter_sublist
    · exact List.Sublist.refl _
  refine ⟨buckets', unlinked, ⟨?_, ?_, ?_, ?_⟩, ?_⟩
  · intro elo rest found other member
    obtain ⟨bucket, here, sub⟩ := shrinks elo rest found
    exact coherent.elo elo bucket here other (sub.subset member)
  · intro elo rest found
    obtain ⟨-, -, ne, -⟩ := (find elo rest).mp found
    exact ne
  · intro elo rest found
    obtain ⟨bucket, here, sub⟩ := shrinks elo rest found
    exact (coherent.ascending elo bucket here).sublist sub
  · intro elo rest elo' rest' found found' a memberA b memberB same
    obtain ⟨bucket, here, sub⟩ := shrinks elo rest found
    obtain ⟨bucket', here', sub'⟩ := shrinks elo' rest' found'
    exact coherent.addresses _ _ _ _ here here' a (sub.subset memberA) b (sub'.subset memberB) same
  · intro other
    constructor
    · rintro ⟨elo, rest, found, member⟩
      obtain ⟨bucket, here, -, rest_eq⟩ := (find elo rest).mp found
      subst rest_eq
      by_cases asked : elo = node.request.elo
      · rw [if_pos asked] at member
        obtain ⟨listed, different⟩ := List.mem_filter.mp member
        refine ⟨⟨elo, bucket, here, listed⟩, ?_⟩
        rintro rfl
        simp at different
      · rw [if_neg asked] at member
        refine ⟨⟨elo, bucket, here, member⟩, ?_⟩
        rintro rfl
        exact asked (coherent.elo elo bucket here _ member).symm
    · rintro ⟨stored', different⟩
      obtain ⟨bucket, here, member⟩ := coherent.find_stored stored'
      have elsewhere : other.address ≠ node.address := fun same =>
        different (coherent.address_unique stored' stored same)
      by_cases asked : other.request.elo = node.request.elo
      · have kept : other ∈ eraseNode node.address bucket := by
          simpa [eraseNode, member] using elsewhere
        refine ⟨_, _, (find _ _).mpr ⟨bucket, here, List.ne_nil_of_mem kept, ?_⟩, kept⟩
        rw [if_pos asked]
      · exact ⟨_, _, (find _ _).mpr ⟨bucket, here, List.ne_nil_of_mem member, by rw [if_neg asked]⟩,
          member⟩

end unlink

/-! ## Linking a node -/

theorem mem_insertByOrder (node other : BucketNode) (bucket : Bucket) :
    other ∈ insertByOrder node bucket ↔ other = node ∨ other ∈ bucket := by
  induction bucket with
  | nil => simp [insertByOrder]
  | cons it rest ih =>
      rw [insertByOrder]
      split
      · simp
      · rw [List.mem_cons, ih, List.mem_cons]
        exact or_left_comm

theorem ascending_insertByOrder (node : BucketNode) (bucket : Bucket)
    (ascending : bucket.Pairwise fun a b => a.order < b.order)
    (distinct : ∀ other ∈ bucket, other.order ≠ node.order) :
    (insertByOrder node bucket).Pairwise fun a b => a.order < b.order := by
  induction bucket with
  | nil => simp [insertByOrder]
  | cons it rest ih =>
      obtain ⟨least, later⟩ := List.pairwise_cons.mp ascending
      rw [insertByOrder]
      by_cases below : node.order < it.order
      · rw [if_pos below, List.pairwise_cons]
        refine ⟨?_, ascending⟩
        intro other member
        rcases List.mem_cons.mp member with rfl | member
        · exact below
        · exact below.trans (least other member)
      · rw [if_neg below, List.pairwise_cons]
        have different := distinct it List.mem_cons_self
        refine ⟨?_, ih later fun other member => distinct other (List.mem_cons_of_mem _ member)⟩
        intro other member
        rcases (mem_insertByOrder node other rest).mp member with rfl | member
        · omega
        · exact least other member

/-- Linking a node with an unused address and an unused order. -/
theorem linkNode_spec {buckets : OrderedMap Int Bucket} (coherent : BucketsCoherent buckets)
    (node : BucketNode) (address : ∀ other, Stored buckets other → other.address ≠ node.address)
    (order : ∀ other, Stored buckets other → other.order ≠ node.order) :
    BucketsCoherent (buckets.upsert node.request.elo [] (insertByOrder node)) ∧
      ∀ other, Stored (buckets.upsert node.request.elo [] (insertByOrder node)) other ↔
        other = node ∨ Stored buckets other := by
  -- the bucket of the node's rating before the insertion, empty when there is none
  have old : ∀ other ∈ (buckets.find node.request.elo).getD [], Stored buckets other := by
    intro other member
    cases found : buckets.find node.request.elo with
    | none => simp [found] at member
    | some bucket => exact ⟨_, _, found, by simpa [found] using member⟩
  have stored : ∀ other, Stored (buckets.upsert node.request.elo [] (insertByOrder node)) other ↔
      other = node ∨ Stored buckets other := by
    intro other
    simp only [Stored, OrderedMap.find_upsert]
    constructor
    · rintro ⟨elo, bucket, found, member⟩
      by_cases asked : elo = node.request.elo
      · rw [if_pos asked, Option.some.injEq] at found
        subst found
        rcases (mem_insertByOrder _ _ _).mp member with rfl | member
        · exact Or.inl rfl
        · exact Or.inr (old other member)
      · rw [if_neg asked] at found
        exact Or.inr ⟨elo, bucket, found, member⟩
    · rintro (rfl | ⟨elo, bucket, found, member⟩)
      · exact ⟨other.request.elo, _, by rw [if_pos rfl], (mem_insertByOrder _ _ _).mpr (Or.inl rfl)⟩
      · by_cases asked : elo = node.request.elo
        · subst asked
          exact ⟨_, insertByOrder node bucket, by rw [if_pos rfl, found]; rfl,
            (mem_insertByOrder _ _ _).mpr (Or.inr member)⟩
        · exact ⟨elo, bucket, by rw [if_neg asked, found], member⟩
  refine ⟨⟨?_, ?_, ?_, ?_⟩, stored⟩
  · intro elo bucket found other member
    rw [OrderedMap.find_upsert] at found
    by_cases asked : elo = node.request.elo
    · rw [if_pos asked, Option.some.injEq] at found
      subst found
      rcases (mem_insertByOrder _ _ _).mp member with rfl | member
      · exact asked.symm
      · obtain ⟨elo', bucket', found', member'⟩ := old other member
        have stored' := coherent.find_stored ⟨elo', bucket', found', member'⟩
        cases present : buckets.find node.request.elo with
        | none => simp [present] at member
        | some bucket =>
            rw [asked]
            exact coherent.elo _ bucket present other (by simpa [present] using member)
    · rw [if_neg asked] at found
      exact coherent.elo elo bucket found other member
  · intro elo bucket found
    rw [OrderedMap.find_upsert] at found
    by_cases asked : elo = node.request.elo
    · rw [if_pos asked, Option.some.injEq] at found
      subst found
      exact List.ne_nil_of_mem ((mem_insertByOrder node node _).mpr (Or.inl rfl))
    · rw [if_neg asked] at found
      exact coherent.nonempty elo bucket found
  · intro elo bucket found
    rw [OrderedMap.find_upsert] at found
    by_cases asked : elo = node.request.elo
    · rw [if_pos asked, Option.some.injEq] at found
      subst found
      refine ascending_insertByOrder node _ ?_ fun other member => order other (old other member)
      cases present : buckets.find node.request.elo with
      | none => simp
      | some bucket => exact coherent.ascending _ bucket present
    · rw [if_neg asked] at found
      exact coherent.ascending elo bucket found
  · intro elo bucket elo' bucket' found found' a memberA b memberB same
    rcases (stored a).mp ⟨elo, bucket, found, memberA⟩ with rfl | storedA
    · rcases (stored b).mp ⟨elo', bucket', found', memberB⟩ with rfl | storedB
      · rfl
      · exact absurd same.symm (address b storedB)
    · rcases (stored b).mp ⟨elo', bucket', found', memberB⟩ with rfl | storedB
      · exact absurd same (address a storedA)
      · exact coherent.address_unique storedA storedB same

/-! ## The whole queue -/

namespace InMemoryMatchQueue

/-- The index holds exactly the rating and address of every player's node. -/
structure Coherent (q : InMemoryMatchQueue) : Prop where
  buckets : BucketsCoherent q.buckets
  index : ∀ playerId elo address, q.index.find playerId = some (elo, address) ↔
    ∃ node, Stored q.buckets node ∧ node.request.playerId = playerId ∧
      node.request.elo = elo ∧ node.address = address
  fresh : ∀ node, Stored q.buckets node → node.address < q.nextAddress

theorem mem_walk (q : InMemoryMatchQueue) (player : QueuedPlayer) :
    player ∈ q.walk ↔ ∃ node, Stored q.buckets node ∧ node.queued = player := by
  simp only [walk, List.mem_map, mem_nodes]

theorem coherent_new : Coherent new where
  buckets := ⟨by simp [new], by simp [new], by simp [new], by simp [new]⟩
  index := by simp [new, Stored]
  fresh := by simp [new, Stored]

section coherent

variable {q : InMemoryMatchQueue}

/-- A player has one node. -/
theorem Coherent.node_unique (coherent : q.Coherent) {a b : BucketNode}
    (storedA : Stored q.buckets a) (storedB : Stored q.buckets b)
    (same : a.request.playerId = b.request.playerId) : a = b := by
  have foundA := (coherent.index a.request.playerId a.request.elo a.address).mpr
    ⟨a, storedA, rfl, rfl, rfl⟩
  have foundB := (coherent.index b.request.playerId b.request.elo b.address).mpr
    ⟨b, storedB, rfl, rfl, rfl⟩
  rw [same, foundB, Option.some.injEq, Prod.mk.injEq] at foundA
  exact coherent.buckets.address_unique storedA storedB foundA.2.symm

theorem Coherent.player_unique (coherent : q.Coherent) {a b : QueuedPlayer} (ha : a ∈ q.walk)
    (hb : b ∈ q.walk) (same : a.playerId = b.playerId) : a = b := by
  obtain ⟨nodeA, storedA, rfl⟩ := (q.mem_walk a).mp ha
  obtain ⟨nodeB, storedB, rfl⟩ := (q.mem_walk b).mp hb
  rw [coherent.node_unique storedA storedB same]

/-- The walk through the buckets is already in the order `FetchOrdered` sorts by. -/
theorem Coherent.walk_ascending (coherent : q.Coherent) :
    q.walk.Pairwise QueuedPlayer.Before := by
  rw [walk, List.pairwise_map, nodes, List.pairwise_flatMap]
  constructor
  · rintro ⟨elo, bucket⟩ member
    have found := (q.buckets.find_eq_some_iff elo bucket).mpr member
    refine (coherent.buckets.ascending elo bucket found).imp_of_mem ?_
    intro a b memberA memberB order
    have eloA := coherent.buckets.elo elo bucket found a memberA
    have eloB := coherent.buckets.elo elo bucket found b memberB
    exact Or.inr ⟨eloA.trans eloB.symm, order⟩
  · refine (List.pairwise_map.mp q.buckets.ascending).imp_of_mem ?_
    rintro ⟨eloA, bucketA⟩ ⟨eloB, bucketB⟩ memberA memberB below a ha b hb
    have foundA := (q.buckets.find_eq_some_iff eloA bucketA).mpr memberA
    have foundB := (q.buckets.find_eq_some_iff eloB bucketB).mpr memberB
    left
    show a.request.elo < b.request.elo
    rw [coherent.buckets.elo eloA bucketA foundA a ha, coherent.buckets.elo eloB bucketB foundB b hb]
    exact below

theorem Coherent.contents_eq_some_iff (coherent : q.Coherent) (playerId : String)
    (player : QueuedPlayer) :
    q.contents playerId = some player ↔ player ∈ q.walk ∧ player.playerId = playerId := by
  constructor
  · intro found
    exact ⟨List.mem_of_find?_eq_some found, by simpa using List.find?_some found⟩
  · rintro ⟨member, rfl⟩
    cases found : q.contents player.playerId with
    | none => simpa using List.find?_eq_none.mp found player member
    | some other =>
        have same : other.playerId = player.playerId := by simpa using List.find?_some found
        rw [coherent.player_unique (List.mem_of_find?_eq_some found) member same]

/-- The index knows exactly the players with a node. -/
theorem Coherent.index_eq_none_iff (coherent : q.Coherent) (playerId : String) :
    q.index.find playerId = none ↔
      ∀ node, Stored q.buckets node → node.request.playerId ≠ playerId := by
  constructor
  · intro missing node stored same
    have found := (coherent.index playerId node.request.elo node.address).mpr
      ⟨node, stored, same, rfl, rfl⟩
    rw [missing] at found
    cases found
  · intro absent
    rw [Option.eq_none_iff_forall_ne_some]
    rintro ⟨elo, address⟩ found
    obtain ⟨node, stored, same, -, -⟩ := (coherent.index playerId elo address).mp found
    exact absent node stored same

/-- Dropping a player: the buckets without its node, and the index without its key. -/
theorem Coherent.drop (coherent : q.Coherent) {node : BucketNode} (stored : Stored q.buckets node)
    {buckets' : OrderedMap Int Bucket} (bucketsCoherent : BucketsCoherent buckets')
    (without : ∀ other, Stored buckets' other ↔ Stored q.buckets other ∧ other ≠ node) :
    Coherent { q with buckets := buckets', index := q.index.erase node.request.playerId } where
  buckets := bucketsCoherent
  index := by
    intro playerId elo address
    simp only [UnorderedMap.find_erase, without]
    by_cases asked : playerId = node.request.playerId
    · subst asked
      simp only [if_true, false_iff, reduceCtorEq]
      rintro ⟨other, ⟨stored', different⟩, same, -, -⟩
      exact different (coherent.node_unique stored' stored same)
    · rw [if_neg asked, coherent.index]
      constructor
      · rintro ⟨other, stored', same, rest⟩
        refine ⟨other, ⟨stored', ?_⟩, same, rest⟩
        rintro rfl
        exact asked same.symm
      · rintro ⟨other, ⟨stored', -⟩, same, rest⟩
        exact ⟨other, stored', same, rest⟩
  fresh := by
    intro other stored'
    exact coherent.fresh other ((without other).mp stored').1

/-- Adding a player that is absent, at a fresh address. -/
theorem Coherent.add (coherent : q.Coherent) (request : MatchRequest) (order : Nat)
    (absent : ∀ node, Stored q.buckets node → node.request.playerId ≠ request.playerId)
    (unused : ∀ node, Stored q.buckets node → node.order ≠ order) (index : UnorderedMap String (Int × Nat))
    (sameIndex : ∀ playerId, playerId ≠ request.playerId → index.find playerId = q.index.find playerId)
    (entry : index.find request.playerId = some (request.elo, q.nextAddress)) :
    Coherent
      { buckets := q.buckets.upsert request.elo [] (insertByOrder ⟨q.nextAddress, request, order⟩)
        index, nextAddress := q.nextAddress + 1 } ∧
    ∀ other, Stored
        (q.buckets.upsert request.elo [] (insertByOrder ⟨q.nextAddress, request, order⟩)) other ↔
      other = ⟨q.nextAddress, request, order⟩ ∨ Stored q.buckets other := by
  have fresh : ∀ other, Stored q.buckets other → other.address ≠ q.nextAddress :=
    fun other stored => (coherent.fresh other stored).ne
  obtain ⟨linked, stored⟩ := linkNode_spec coherent.buckets
    ⟨q.nextAddress, request, order⟩ fresh unused
  refine ⟨⟨linked, ?_, ?_⟩, stored⟩
  · intro playerId elo address
    simp only [stored]
    by_cases asked : playerId = request.playerId
    · subst asked
      rw [entry, Option.some.injEq, Prod.mk.injEq]
      constructor
      · rintro ⟨rfl, rfl⟩
        exact ⟨_, Or.inl rfl, rfl, rfl, rfl⟩
      · rintro ⟨other, rfl | old, same, rest⟩
        · exact rest
        · exact absurd same (absent other old)
    · rw [sameIndex playerId asked, coherent.index]
      constructor
      · rintro ⟨other, old, rest⟩
        exact ⟨other, Or.inr old, rest⟩
      · rintro ⟨other, rfl | old, same, rest⟩
        · exact absurd same.symm asked
        · exact ⟨other, old, same, rest⟩
  · intro other here
    rcases (stored other).mp here with rfl | old
    · exact Nat.lt_succ_self _
    · exact (coherent.fresh other old).trans (Nat.lt_succ_self _)

/-- A player found in the index has the node the index says, and unlinking it
leaves the other nodes. -/
theorem Coherent.unlink (coherent : q.Coherent) {playerId : String} {elo : Int} {address : Nat}
    (found : q.index.find playerId = some (elo, address)) :
    ∃ node buckets', Stored q.buckets node ∧ node.request.playerId = playerId ∧
      unlinkNode q.buckets elo address = some buckets' ∧
      Coherent { q with buckets := buckets', index := q.index.erase playerId } ∧
      ∀ other, Stored buckets' other ↔ Stored q.buckets other ∧ other.request.playerId ≠ playerId := by
  obtain ⟨node, stored, rfl, rfl, rfl⟩ := (coherent.index playerId elo address).mp found
  obtain ⟨buckets', unlinked, bucketsCoherent, without⟩ := unlinkNode_spec coherent.buckets stored
  refine ⟨node, buckets', stored, rfl, unlinked, coherent.drop stored bucketsCoherent without, ?_⟩
  intro other
  rw [without]
  constructor
  · rintro ⟨old, different⟩
    exact ⟨old, fun same => different (coherent.node_unique old stored same)⟩
  · rintro ⟨old, different⟩
    exact ⟨old, fun same => different (by rw [same])⟩

theorem Coherent.upsert_spec (coherent : q.Coherent) (request : MatchRequest) (order : Nat)
    (unused : ∀ player ∈ q.walk, player.order ≠ order) :
    (q.upsert request order).Coherent ∧ ∀ player, player ∈ (q.upsert request order).walk ↔
      player = ⟨request, order⟩ ∨ (player ∈ q.walk ∧ player.playerId ≠ request.playerId) := by
  have unusedNode : ∀ node, Stored q.buckets node → node.order ≠ order := fun node stored =>
    unused node.queued ((q.mem_walk _).mpr ⟨node, stored, rfl⟩)
  -- whether or not the player was waiting, its old node is gone before the new one is linked
  have linked : ∀ buckets', (∀ other, Stored buckets' other ↔
        Stored q.buckets other ∧ other.request.playerId ≠ request.playerId) →
      Coherent { q with buckets := buckets', index := q.index.erase request.playerId } →
      q.upsert request order =
        { buckets := buckets'.upsert request.elo [] (insertByOrder ⟨q.nextAddress, request, order⟩)
          index := (q.index.erase request.playerId).upsert request.playerId (0, 0)
            fun _ => (request.elo, q.nextAddress)
          nextAddress := q.nextAddress + 1 } →
      (q.upsert request order).Coherent ∧ ∀ player, player ∈ (q.upsert request order).walk ↔
        player = ⟨request, order⟩ ∨ (player ∈ q.walk ∧ player.playerId ≠ request.playerId) := by
    intro buckets' without dropped unfolded
    obtain ⟨added, stored⟩ := dropped.add request order
      (fun node here => ((without node).mp here).2)
      (fun node here => unusedNode node ((without node).mp here).1)
      ((q.index.erase request.playerId).upsert request.playerId (0, 0)
        fun _ => (request.elo, q.nextAddress))
      (fun playerId other => by simp [other]) (by simp)
    rw [unfolded]
    refine ⟨added, ?_⟩
    intro player
    rw [mem_walk, mem_walk]
    constructor
    · rintro ⟨node, here, rfl⟩
      rcases (stored node).mp here with rfl | old
      · exact Or.inl rfl
      · exact Or.inr ⟨⟨node, ((without node).mp old).1, rfl⟩, ((without node).mp old).2⟩
    · rintro (rfl | ⟨⟨node, old, rfl⟩, different⟩)
      · exact ⟨_, (stored _).mpr (Or.inl rfl), rfl⟩
      · exact ⟨node, (stored node).mpr (Or.inr ((without node).mpr ⟨old, different⟩)), rfl⟩
  cases found : q.index.find request.playerId with
  | none =>
      have absent := (coherent.index_eq_none_iff request.playerId).mp found
      refine linked q.buckets ?_ ?_ ?_
      · intro other
        exact ⟨fun old => ⟨old, absent other old⟩, fun h => h.1⟩
      · refine ⟨coherent.buckets, ?_, coherent.fresh⟩
        intro playerId elo address
        rw [UnorderedMap.find_erase, ← coherent.index]
        by_cases asked : playerId = request.playerId
        · simp [asked, found]
        · rw [if_neg asked]
      · simp only [upsert, found]
  | some entry =>
      obtain ⟨elo, address⟩ := entry
      obtain ⟨node, buckets', -, -, unlinked, dropped, without⟩ := coherent.unlink found
      refine linked buckets' without dropped ?_
      simp only [upsert, found, unlinked, Option.getD_some]

theorem Coherent.remove_spec (coherent : q.Coherent) (playerId : String) :
    (q.remove playerId).2.Coherent ∧
      ((q.remove playerId).1 = true ↔ ∃ player ∈ q.walk, player.playerId = playerId) ∧
      ∀ player, player ∈ (q.remove playerId).2.walk ↔
        player ∈ q.walk ∧ player.playerId ≠ playerId := by
  cases found : q.index.find playerId with
  | none =>
      have absent := (coherent.index_eq_none_iff playerId).mp found
      have gone : ∀ player ∈ q.walk, player.playerId ≠ playerId := by
        intro player member
        obtain ⟨node, stored, rfl⟩ := (q.mem_walk player).mp member
        exact absent node stored
      simp only [remove, found]
      refine ⟨coherent, ?_, fun player => ⟨fun h => ⟨h, gone player h⟩, fun h => h.1⟩⟩
      simp only [Bool.false_eq_true, false_iff, not_exists, not_and]
      exact gone
  | some entry =>
      obtain ⟨elo, address⟩ := entry
      obtain ⟨node, buckets', stored, same, unlinked, dropped, without⟩ := coherent.unlink found
      simp only [remove, found, unlinked]
      refine ⟨dropped, ?_, ?_⟩
      · simp only [true_iff]
        exact ⟨node.queued, (q.mem_walk _).mpr ⟨node, stored, rfl⟩, same⟩
      · intro player
        rw [mem_walk, mem_walk]
        constructor
        · rintro ⟨other, here, rfl⟩
          exact ⟨⟨other, ((without other).mp here).1, rfl⟩, ((without other).mp here).2⟩
        · rintro ⟨⟨other, old, rfl⟩, different⟩
          exact ⟨other, (without other).mpr ⟨old, different⟩, rfl⟩

/-! ## The map behind the queue -/

theorem Coherent.contents_upsert (coherent : q.Coherent) (request : MatchRequest) (order : Nat)
    (unused : ∀ player ∈ q.walk, player.order ≠ order) (playerId : String) :
    (q.upsert request order).contents playerId =
      if playerId = request.playerId then some ⟨request, order⟩ else q.contents playerId := by
  obtain ⟨after, members⟩ := coherent.upsert_spec request order unused
  apply Option.ext
  intro player
  rw [after.contents_eq_some_iff, members]
  by_cases asked : playerId = request.playerId
  · subst asked
    rw [if_pos rfl, Option.some.injEq]
    constructor
    · rintro ⟨rfl | ⟨-, different⟩, same⟩
      · rfl
      · exact absurd same different
    · rintro rfl
      exact ⟨Or.inl rfl, rfl⟩
  · rw [if_neg asked, coherent.contents_eq_some_iff]
    constructor
    · rintro ⟨rfl | ⟨old, -⟩, same⟩
      · exact absurd same.symm asked
      · exact ⟨old, same⟩
    · rintro ⟨old, rfl⟩
      exact ⟨Or.inr ⟨old, asked⟩, rfl⟩

theorem Coherent.contents_remove (coherent : q.Coherent) (removed playerId : String) :
    (q.remove removed).2.contents playerId =
      if playerId = removed then none else q.contents playerId := by
  obtain ⟨after, -, members⟩ := coherent.remove_spec removed
  apply Option.ext
  intro player
  rw [after.contents_eq_some_iff, members]
  by_cases asked : playerId = removed
  · subst asked
    simp only [if_true, reduceCtorEq, iff_false]
    rintro ⟨⟨-, different⟩, same⟩
    exact different same
  · rw [if_neg asked, coherent.contents_eq_some_iff]
    constructor
    · rintro ⟨⟨old, -⟩, same⟩
      exact ⟨old, same⟩
    · rintro ⟨old, rfl⟩
      exact ⟨⟨old, asked⟩, rfl⟩

theorem Coherent.remove_eq_holds (coherent : q.Coherent) (playerId : String) :
    (q.remove playerId).1 = q.holds playerId := by
  rw [Bool.eq_iff_iff, (coherent.remove_spec playerId).2.1, holds, Option.isSome_iff_exists]
  constructor
  · rintro ⟨player, member, same⟩
    exact ⟨player, (coherent.contents_eq_some_iff playerId player).mpr ⟨member, same⟩⟩
  · rintro ⟨player, found⟩
    exact ⟨player, (coherent.contents_eq_some_iff playerId player).mp found⟩

/-! ## The ordered list -/

theorem mem_fetchOrdered (q : InMemoryMatchQueue) (player : QueuedPlayer) :
    player ∈ q.fetchOrdered ↔ player ∈ q.walk := List.mem_insertionSort _

/-- `FetchOrdered` sorts a list that is sorted already. -/
theorem Coherent.fetchOrdered_eq (coherent : q.Coherent) : q.fetchOrdered = q.walk := by
  refine List.Pairwise.insertionSort_eq (coherent.walk_ascending.imp ?_)
  intro lhs rhs before
  rw [← Bool.not_eq_true]
  intro reversed
  exact before.asymm ((rhs.sortsBefore_iff lhs).mp reversed)

theorem Coherent.fetchOrdered_ascending (coherent : q.Coherent) :
    q.fetchOrdered.Pairwise QueuedPlayer.Before := by
  rw [coherent.fetchOrdered_eq]
  exact coherent.walk_ascending

/-- No player is listed twice. -/
theorem Coherent.fetchOrdered_players_nodup (coherent : q.Coherent) :
    (q.fetchOrdered.map QueuedPlayer.playerId).Nodup := by
  rw [coherent.fetchOrdered_eq, List.Nodup, List.pairwise_map]
  refine coherent.walk_ascending.imp_of_mem ?_
  intro a b ha hb before same
  have equal := coherent.player_unique ha hb same
  subst equal
  exact before.asymm before

end coherent

end InMemoryMatchQueue

end Arena60
