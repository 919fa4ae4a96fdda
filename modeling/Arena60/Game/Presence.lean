import Arena60.Game.ProjectileLedger

/-!
# Who is present

Whether a player is in the session can be read off the trace; whoever makes a projectile
and whoever a combat event is about was in the session when it happened.
-/

namespace Arena60

open Misc GameSession

universe u

/-- What an item says about the presence of a player. -/
def SessionItem.presence? (playerId : String) : SessionItem → Option Bool
  | upserted other _ => if other = playerId then some true else none
  | removed other => if other = playerId then some false else none
  | _ => none

/-- The players that have to be present for an item. -/
def SessionItem.players : SessionItem → List String
  | spawned _ ownerId => [ownerId]
  | combat event => [event.shooterId, event.targetId]
  | _ => []

/-- Whether a player is in the session after a trace. -/
def isPresent (playerId : String) (trace : List SessionItem) : Bool :=
  (trace.findSome? (SessionItem.presence? playerId)).getD false

/-- The players of a session and of the items of its trace. -/
structure PresenceLedger {R : Type u} (trace : List SessionItem) (s : GameSession R) : Prop where
  present : ∀ playerId, s.players.contains playerId = isPresent playerId trace
  found : ∀ item older, item :: older <:+ trace → ∀ playerId ∈ item.players,
    isPresent playerId older = true

section presence

variable {R : Type u} {trace items : List SessionItem} {s s' : GameSession R}

theorem isPresent_append {playerId : String} (still : ∀ item ∈ items, item.presence? playerId = none) :
    isPresent playerId (items.reverse ++ trace) = isPresent playerId trace := by
  have none : items.reverse.findSome? (SessionItem.presence? playerId) = none := by
    rw [List.findSome?_eq_none_iff]
    exact fun item member => still item (List.mem_reverse.mp member)
  rw [isPresent, List.findSome?_append, none, Option.none_or, isPresent]

/-- Items for which nobody has to be present. -/
theorem PresenceLedger.nobody (ledger : PresenceLedger trace s)
    (nobody : ∀ item ∈ items, item.players = [])
    (present : ∀ playerId, s'.players.contains playerId = isPresent playerId (items.reverse ++ trace)) :
    PresenceLedger (items.reverse ++ trace) s' := by
  refine ⟨present, fun item older suffix playerId listed => ?_⟩
  rcases suffix_cons_append suffix with old | ⟨rest, new, -⟩
  · exact ledger.found item older old playerId listed
  · rw [nobody item (List.mem_reverse.mp (new.subset List.mem_cons_self))] at listed
    cases listed

/-- Presence survives items about other things. -/
theorem PresenceLedger.still (ledger : PresenceLedger trace s)
    (nobody : ∀ item ∈ items, item.players = [])
    (still : ∀ playerId, ∀ item ∈ items, item.presence? playerId = none)
    (same : ∀ playerId, s'.players.contains playerId = s.players.contains playerId) :
    PresenceLedger (items.reverse ++ trace) s' := by
  refine ledger.nobody nobody fun playerId => ?_
  rw [isPresent_append (still playerId), same, ledger.present]

theorem PresenceLedger.hit (ledger : PresenceLedger trace s) (accounts : Accounts trace s)
    (projectiles : ProjectileLedger trace s) {tick : Nat} {before after : List (Projectile R)}
    {projectile : Projectile R} {key : String} {runtime : PlayerRuntimeState R}
    (stored : s.projectiles = before ++ projectile :: after) (active : projectile.active = true)
    (present : s.players.find key = some runtime)
    (other : runtime.state.playerId ≠ projectile.ownerId) :
    PresenceLedger (((s.registerHit tick projectile key runtime).2.map .combat).reverse ++ trace)
      (afterHit s tick before after projectile key runtime) := by
  have named := (accounts key runtime present).named
  have notOwner : projectile.ownerId ≠ key := fun same => other (named.trans same.symm)
  have owner : s.players.contains projectile.ownerId = true := by
    apply projectiles.owners
    rw [mem_live, stored]
    exact ⟨List.mem_append_right _ List.mem_cons_self, active⟩
  have target : s.players.contains runtime.state.playerId = true := by
    rw [named, UnorderedMap.contains, present]
    rfl
  have still : ∀ playerId, ∀ item ∈ (s.registerHit tick projectile key runtime).2.map SessionItem.combat,
      item.presence? playerId = none := by
    intro playerId item member
    obtain ⟨event, rfl, -⟩ := mem_hitItems member
    rfl
  constructor
  · intro playerId
    rw [isPresent_append (still playerId), ← ledger.present, UnorderedMap.contains,
      UnorderedMap.contains, afterHit, registerHit_find s tick projectile key runtime notOwner]
    split_ifs <;> first | exact Option.isSome_map | rfl
  · intro item older suffix playerId listed
    rcases suffix_cons_append suffix with old | ⟨rest, new, rfl⟩
    · exact ledger.found item older old playerId listed
    · obtain ⟨event, member, rfl⟩ := List.mem_map.mp
        (List.mem_reverse.mp (new.subset List.mem_cons_self))
      obtain ⟨shooter, hit⟩ := registerHit_about event member
      have quiet : isPresent playerId (rest ++ trace) = isPresent playerId trace := by
        rw [← rest.reverse_reverse]
        refine isPresent_append fun item inRest => still playerId item ?_
        exact List.mem_reverse.mp (new.subset (List.mem_cons_of_mem _ (List.mem_reverse.mp inRest)))
      rw [quiet, ← ledger.present]
      rcases List.mem_cons.mp listed with rfl | listed
      · rw [shooter]
        exact owner
      · rw [List.mem_singleton.mp listed, hit]
        exact target

theorem nobody_single {item : SessionItem} (nobody : item.players = []) :
    ∀ other ∈ [item], other.players = [] := by
  intro other member
  rw [List.mem_singleton.mp member]
  exact nobody

theorem still_single {item : SessionItem} {playerId : String}
    (still : item.presence? playerId = none) : ∀ other ∈ [item], other.presence? playerId = none := by
  intro other member
  rw [List.mem_singleton.mp member]
  exact still

theorem PresenceLedger.remove (ledger : PresenceLedger trace s) (removed : String) :
    PresenceLedger ((.removed removed :: s.droppedItems removed).reverse ++ trace)
      (s.removePlayer removed) := by
  have about : ∀ item ∈ s.droppedItems removed,
      item.players = [] ∧ ∀ other, item.presence? other = none := by
    intro item member
    obtain ⟨projectile, -, rfl⟩ := List.mem_map.mp member
    exact ⟨rfl, fun _ => rfl⟩
  refine ledger.nobody ?_ ?_
  · intro item member
    rcases List.mem_cons.mp member with rfl | dropped
    · rfl
    · exact (about item dropped).1
  · intro other
    rw [List.reverse_cons, List.append_assoc, isPresent_append fun item dropped =>
      (about item dropped).2 other, List.singleton_append, isPresent, List.findSome?_cons,
      UnorderedMap.contains, removePlayer, UnorderedMap.find_erase]
    by_cases asked : other = removed
    · subst asked
      simp [SessionItem.presence?]
    · rw [if_neg asked, SessionItem.presence?, if_neg (Ne.symm asked)]
      exact ledger.present other

theorem PresenceLedger.spawn (ledger : PresenceLedger trace s) {playerId id ownerId : String}
    (present : s.players.contains playerId = true) (owned : ownerId = playerId)
    (same : ∀ other, s'.players.contains other = s.players.contains other) :
    PresenceLedger ([.spawned id ownerId].reverse ++ trace) s' := by
  constructor
  · intro other
    rw [isPresent_append (still_single rfl), same, ledger.present]
  · intro item older suffix other listed
    rw [List.reverse_singleton, List.singleton_append, List.suffix_cons_iff] at suffix
    rcases suffix with new | old
    · obtain ⟨rfl, rfl⟩ := List.cons.inj new
      rw [List.mem_singleton.mp listed, ← ledger.present, owned]
      exact present
    · exact ledger.found item older old other listed

theorem PresenceLedger.expire (ledger : PresenceLedger trace s) (moved : GameSession R) (tick : Nat)
    (same : s'.players = s.players) :
    PresenceLedger ((.ticked tick :: moved.expiredItems).reverse ++ trace) s' := by
  have about : ∀ item ∈ (.ticked tick :: moved.expiredItems),
      item.players = [] ∧ ∀ other, item.presence? other = none := by
    intro item member
    rcases List.mem_cons.mp member with rfl | expired
    · exact ⟨rfl, fun _ => rfl⟩
    · obtain ⟨projectile, -, rfl⟩ := List.mem_map.mp expired
      exact ⟨rfl, fun _ => rfl⟩
  refine ledger.still (fun item member => (about item member).1)
    (fun other item member => (about item member).2 other) ?_
  intro other
  rw [same]

variable [DoubleArith R]

theorem PresenceLedger.upsert (ledger : PresenceLedger trace s) (playerId : String) (fresh : Bool) :
    PresenceLedger ([.upserted playerId fresh].reverse ++ trace) (s.upsertPlayer playerId) := by
  refine ledger.nobody (nobody_single rfl) ?_
  intro other
  rw [UnorderedMap.contains, upsertPlayer, UnorderedMap.find_upsert, List.reverse_singleton,
    List.singleton_append, isPresent, List.findSome?_cons]
  by_cases asked : other = playerId
  · subst asked
    simp [SessionItem.presence?]
  · rw [if_neg asked, SessionItem.presence?, if_neg (Ne.symm asked)]
    exact ledger.present other

theorem PresenceLedger.move (ledger : PresenceLedger trace s) (accounts : Accounts trace s)
    (projectiles : ProjectileLedger trace s) (move : Move s items s') :
    PresenceLedger (items.reverse ++ trace) s' := by
  have calm : ∀ item ∈ ([] : List SessionItem), item.players = [] := fun item member => nomatch member
  have silent : ∀ playerId, ∀ item ∈ ([] : List SessionItem), item.presence? playerId = none :=
    fun playerId item member => nomatch member
  cases move with
  | upsert named => exact ledger.upsert _ _
  | remove removed settled => exact ledger.remove removed
  | receive playerId =>
      exact ledger.still (nobody_single rfl) (fun _ => still_single rfl) fun _ => rfl
  | steer present steered =>
      exact ledger.still calm silent (fun other => s.players.contains_adjust _ other _)
  | number => exact ledger.still calm silent fun _ => rfl
  | @spawn playerId runtime projectile present alive id owner active =>
      have there : s.players.contains playerId = true := by
        rw [UnorderedMap.contains, present]
        rfl
      exact ledger.spawn there (owner.trans (accounts playerId runtime present).named)
        fun other => s.players.contains_adjust playerId other _
  | moveProjectiles tick deltaSeconds settled => exact ledger.expire _ tick rfl
  | hit tick stored active present alive other =>
      exact ledger.hit accounts projectiles stored active present other
  | settle checked => exact ledger.still calm silent fun _ => rfl
  | consume => exact ledger.still (nobody_single rfl) (fun _ => still_single rfl) fun _ => rfl
  | reorder order =>
      exact ledger.still calm silent fun playerId => s.players.contains_reorder order playerId

theorem GameSession.MoveRuns.presenceLedger (run : MoveRuns trace s) : PresenceLedger trace s := by
  refine Run.invariant (P := PresenceLedger) ?_ ?_ run
  · rintro s rfl
    refine ⟨fun _ => rfl, ?_⟩
    intro event older suffix
    cases List.eq_nil_of_suffix_nil suffix
  · intro trace s items s' run ledger move
    exact ledger.move (GameSession.MoveRuns.accounts run) (GameSession.MoveRuns.projectileLedger run)
      move

end presence

end Arena60
