import Arena60.Game.SessionRun
import Mathlib.Data.List.Count

/-!
# Reading the trace of a session

What a trace, newest item first, says about a player: its hits and deaths, and the part
of the trace since the player last entered or was last inserted.
-/

namespace Arena60

open Misc

namespace SessionItem

/-- A hit on the player. -/
def isHitOn (playerId : String) : SessionItem → Bool
  | combat event => event.type == .hit && event.targetId == playerId
  | _ => false

/-- A hit by the player. -/
def isHitBy (playerId : String) : SessionItem → Bool
  | combat event => event.type == .hit && event.shooterId == playerId
  | _ => false

/-- A death of the player. -/
def isDeathOf (playerId : String) : SessionItem → Bool
  | combat event => event.type == .death && event.targetId == playerId
  | _ => false

/-- An `UpsertPlayer` of the player. -/
def isUpsertOf (playerId : String) : SessionItem → Bool
  | upserted other _ => other == playerId
  | _ => false

/-- An `UpsertPlayer` of the player while it was absent. -/
def isInsertOf (playerId : String) : SessionItem → Bool
  | upserted other fresh => other == playerId && fresh
  | _ => false

/-- The combat event of an item. -/
def combat? : SessionItem → Option CombatEvent
  | combat event => some event
  | _ => none

/-- The id of a projectile that is made. -/
def spawnedId? : SessionItem → Option String
  | spawned projectileId _ => some projectileId
  | _ => none

/-- A projectile is made by the player. -/
def isSpawnBy (playerId : String) : SessionItem → Bool
  | spawned _ ownerId => ownerId == playerId
  | _ => false

/-- The id of a projectile that expires. -/
def expiredId? : SessionItem → Option String
  | expired projectileId => some projectileId
  | _ => none

/-- The id of a projectile that is dropped with its owner. -/
def droppedId? : SessionItem → Option String
  | dropped projectileId => some projectileId
  | _ => none

/-- The deaths an item reports as consumed. -/
def consumedDeaths : SessionItem → List CombatEvent
  | consumed deaths => deaths
  | _ => []

end SessionItem

/-- The combat events of a trace, oldest first. -/
def combatEvents (trace : List SessionItem) : List CombatEvent :=
  (trace.filterMap SessionItem.combat?).reverse

/-- The deaths of a trace, oldest first. -/
def deathEvents (trace : List SessionItem) : List CombatEvent :=
  (combatEvents trace).filter fun event => event.type == .death

/-- The hits of a trace, oldest first. -/
def hitEvents (trace : List SessionItem) : List CombatEvent :=
  (combatEvents trace).filter fun event => event.type == .hit

/-- The ids of the projectiles that hit, oldest first. -/
def hitIds (trace : List SessionItem) : List String :=
  (hitEvents trace).map CombatEvent.projectileId

/-- The ids of the projectiles made. -/
def spawnedIds (trace : List SessionItem) : List String :=
  trace.filterMap SessionItem.spawnedId?

/-- The ids of the projectiles that expired. -/
def expiredIds (trace : List SessionItem) : List String :=
  trace.filterMap SessionItem.expiredId?

/-- The ids of the projectiles dropped by `RemovePlayer` of their owner. -/
def droppedIds (trace : List SessionItem) : List String :=
  trace.filterMap SessionItem.droppedId?

/-- The number of projectiles made by a player. -/
def spawnedBy (playerId : String) (trace : List SessionItem) : Nat :=
  trace.countP (SessionItem.isSpawnBy playerId)

/-- The lists returned by `ConsumeDeathEvents`, one after the other. -/
def consumedDeaths (trace : List SessionItem) : List CombatEvent :=
  trace.reverse.flatMap SessionItem.consumedDeaths

/-- The number of hits on a player. -/
def hitsOn (playerId : String) (trace : List SessionItem) : Nat :=
  trace.countP (SessionItem.isHitOn playerId)

/-- The number of hits by a player. -/
def hitsBy (playerId : String) (trace : List SessionItem) : Nat :=
  trace.countP (SessionItem.isHitBy playerId)

/-- The number of deaths of a player. -/
def deathsOf (playerId : String) (trace : List SessionItem) : Nat :=
  trace.countP (SessionItem.isDeathOf playerId)

/-- The trace since the last `UpsertPlayer` of a player. -/
def life (playerId : String) (trace : List SessionItem) : List SessionItem :=
  since (SessionItem.isUpsertOf playerId) trace

/-- The trace since a player was last inserted. -/
def stay (playerId : String) (trace : List SessionItem) : List SessionItem :=
  since (SessionItem.isInsertOf playerId) trace

theorem mem_combatEvents {event : CombatEvent} {trace : List SessionItem} :
    event ∈ combatEvents trace ↔ .combat event ∈ trace := by
  rw [combatEvents, List.mem_reverse, List.mem_filterMap]
  constructor
  · rintro ⟨item, member, same⟩
    cases item with
    | combat other =>
        cases same
        exact member
    | _ => cases same
  · exact fun member => ⟨_, member, rfl⟩

/-- The combat events that satisfy a condition. -/
theorem countP_combatEvents (p : CombatEvent → Bool) (trace : List SessionItem) :
    (combatEvents trace).countP p = trace.countP fun item => item.combat?.any p := by
  rw [combatEvents, List.countP_reverse]
  induction trace with
  | nil => rfl
  | cons item trace ih =>
      rw [List.countP_cons, ← ih, List.filterMap_cons]
      cases item.combat? with
      | none => simp
      | some event => rw [List.countP_cons, Option.any_some]

theorem hitsOn_eq (playerId : String) (trace : List SessionItem) :
    hitsOn playerId trace =
      (combatEvents trace).countP fun event => event.type == .hit && event.targetId == playerId := by
  rw [countP_combatEvents, hitsOn]
  exact congrArg (List.countP · trace) (funext fun item => by cases item <;> rfl)

theorem hitsBy_eq (playerId : String) (trace : List SessionItem) :
    hitsBy playerId trace =
      (combatEvents trace).countP fun event => event.type == .hit && event.shooterId == playerId := by
  rw [countP_combatEvents, hitsBy]
  exact congrArg (List.countP · trace) (funext fun item => by cases item <;> rfl)

theorem deathsOf_eq (playerId : String) (trace : List SessionItem) :
    deathsOf playerId trace =
      (combatEvents trace).countP fun event => event.type == .death && event.targetId == playerId := by
  rw [countP_combatEvents, deathsOf]
  exact congrArg (List.countP · trace) (funext fun item => by cases item <;> rfl)

theorem combatEvents_append (items trace : List SessionItem) :
    combatEvents (items.reverse ++ trace) =
      combatEvents trace ++ items.filterMap SessionItem.combat? := by
  simp [combatEvents, List.filterMap_append, List.filterMap_reverse]

theorem deathEvents_append (items trace : List SessionItem) :
    deathEvents (items.reverse ++ trace) = deathEvents trace ++
      (items.filterMap SessionItem.combat?).filter fun event => event.type == .death := by
  rw [deathEvents, combatEvents_append, List.filter_append, deathEvents]

theorem hitEvents_append (items trace : List SessionItem) :
    hitEvents (items.reverse ++ trace) = hitEvents trace ++
      (items.filterMap SessionItem.combat?).filter fun event => event.type == .hit := by
  rw [hitEvents, combatEvents_append, List.filter_append, hitEvents]

theorem consumedDeaths_append (items trace : List SessionItem) :
    consumedDeaths (items.reverse ++ trace) =
      consumedDeaths trace ++ items.flatMap SessionItem.consumedDeaths := by
  simp [consumedDeaths]

theorem mem_deathEvents {items : List SessionItem} {event : CombatEvent}
    (member : event ∈ deathEvents items) : event.type = .death :=
  eq_of_beq (List.mem_filter.mp member).2

/-- Items that are not combat events. -/
def Peaceful (items : List SessionItem) : Prop := ∀ item ∈ items, item.combat? = none

theorem Peaceful.reverse {items : List SessionItem} (peaceful : Peaceful items) :
    Peaceful items.reverse :=
  fun item member => peaceful item (List.mem_reverse.mp member)

theorem Peaceful.filterMap_eq {items : List SessionItem} (peaceful : Peaceful items) :
    items.filterMap SessionItem.combat? = [] := by
  rw [List.filterMap_eq_nil_iff]
  exact peaceful

theorem Peaceful.combatEvents_eq {items : List SessionItem} (peaceful : Peaceful items)
    (trace : List SessionItem) : combatEvents (items.reverse ++ trace) = combatEvents trace := by
  rw [combatEvents_append, peaceful.filterMap_eq, List.append_nil]

end Arena60
