import Mathlib.Algebra.Order.Group.Unbundled.Int
import Mathlib.Data.List.DropRight

/-!
# Health, combat events and the combat log

`combat.{h,cpp}`. The log keeps the newest events up to its capacity; `events` carries
the bound, so that a log cannot overflow.
-/

namespace Arena60

/-- `HealthComponent`. -/
structure HealthComponent where
  max : Int
  current : Int
  deriving DecidableEq, Repr

namespace HealthComponent

/-- The constructor. -/
def new (maxHp : Int := 100) : HealthComponent := ⟨maxHp, maxHp⟩

/-- `HealthComponent::is_alive`. -/
def isAlive (health : HealthComponent) : Bool := decide (0 < health.current)

/-- `HealthComponent::ApplyDamage`: whether the component died of it, and the component. -/
def applyDamage (health : HealthComponent) (amount : Int) : Bool × HealthComponent :=
  if amount ≤ 0 then (false, health)
  else if !health.isAlive then (false, health)
  else
    let health := { health with current := Max.max 0 (health.current - amount) }
    (health.current == 0, health)

/-- `HealthComponent::Reset`. -/
def reset (health : HealthComponent) : HealthComponent := { health with current := health.max }

end HealthComponent

/-- `CombatEventType`. -/
inductive CombatEventType where
  | hit
  | death
  deriving DecidableEq, Repr

/-- `CombatEvent`. -/
structure CombatEvent where
  type : CombatEventType := .hit
  shooterId : String
  targetId : String
  projectileId : String
  damage : Int := 0
  tick : Nat
  deriving DecidableEq, Repr

/-- `CombatLog`. -/
structure CombatLog where
  capacity : Nat
  events : List CombatEvent
  bounded : events.length ≤ capacity

namespace CombatLog

/-- The constructor. -/
def new (capacity : Nat := 32) : CombatLog := ⟨capacity, [], Nat.zero_le _⟩

/-- `CombatLog::Add`. -/
def add (log : CombatLog) (event : CombatEvent) : CombatLog :=
  if empty : log.capacity = 0 then log
  else if full : (log.events ++ [event]).length > log.capacity then
    { log with
      events := (log.events ++ [event]).tail
      bounded := by
        have := log.bounded
        simp only [List.length_tail, List.length_append, List.length_singleton]
        omega }
  else { log with events := log.events ++ [event], bounded := by omega }

/-- `CombatLog::Snapshot`. -/
def snapshot (log : CombatLog) : List CombatEvent := log.events

@[simp] theorem add_capacity (log : CombatLog) (event : CombatEvent) :
    (log.add event).capacity = log.capacity := by
  unfold add
  split
  · rfl
  · split <;> rfl

/-- A log holds the newest of all events that were added to it. -/
def Holds (log : CombatLog) (history : List CombatEvent) : Prop :=
  log.events = history.rtake log.capacity

theorem holds_new (capacity : Nat) : (new capacity).Holds [] := by
  simp [Holds, new, List.rtake]

theorem Holds.add {log : CombatLog} {history : List CombatEvent} (holds : log.Holds history)
    (event : CombatEvent) : (log.add event).Holds (history ++ [event]) := by
  unfold Holds at holds ⊢
  rw [add_capacity]
  unfold CombatLog.add
  by_cases empty : log.capacity = 0
  · rw [dif_pos empty, holds, empty]
    simp [List.rtake]
  · rw [dif_neg empty]
    have length : log.events.length = history.length - (history.length - log.capacity) := by
      rw [holds, List.rtake, List.length_drop]
    have extended : (history ++ [event]).drop (history.length - log.capacity) =
        log.events ++ [event] := by
      rw [List.drop_append_of_le_length (Nat.sub_le _ _), holds, List.rtake]
    by_cases full : (log.events ++ [event]).length > log.capacity
    · rw [dif_pos full]
      show (log.events ++ [event]).tail = _
      rw [← extended, List.tail_drop, List.rtake]
      simp only [List.length_append, List.length_singleton] at full ⊢
      congr 1
      omega
    · rw [dif_neg full]
      show log.events ++ [event] = _
      rw [← extended, List.rtake]
      simp only [List.length_append, List.length_singleton] at full ⊢
      congr 1
      omega

theorem Holds.foldl (events : List CombatEvent) :
    ∀ {log : CombatLog} {history : List CombatEvent}, log.Holds history →
      (events.foldl CombatLog.add log).Holds (history ++ events) ∧
        (events.foldl CombatLog.add log).capacity = log.capacity := by
  induction events with
  | nil =>
      intro log history holds
      rw [List.append_nil]
      exact ⟨holds, rfl⟩
  | cons event events ih =>
      intro log history holds
      obtain ⟨later, capacity⟩ := ih (holds.add event)
      rw [List.append_assoc, List.singleton_append] at later
      exact ⟨later, capacity.trans (log.add_capacity event)⟩

/-- Nothing is lost as long as there is room. -/
theorem Holds.eq_history {log : CombatLog} {history : List CombatEvent} (holds : log.Holds history)
    (room : history.length ≤ log.capacity) : log.events = history := by
  rw [holds, List.rtake, Nat.sub_eq_zero_of_le room, List.drop_zero]

end CombatLog

end Arena60
