import Arena60.Game.Combat
import Mathlib.Algebra.Ring.Int.Defs

/-!
# Calls on a health component

A `HealthComponent` under any sequence of `ApplyDamage` and `Reset`: the damage taken since the last
`Reset` determines the value, and the answer of `ApplyDamage` marks the call at which it runs out.
-/

namespace Arena60

/-- The calls that can change a `HealthComponent`. -/
inductive HealthCall where
  | applyDamage (amount : Int)
  | reset
  deriving DecidableEq, Repr

/-- The amounts given to `ApplyDamage` since the last `Reset`, oldest first. -/
def amountsSinceReset (calls : List HealthCall) : List Int :=
  calls.foldl (fun amounts call =>
    match call with
    | .applyDamage amount => amounts ++ [amount]
    | .reset => []) []

/-- The sum of the positive ones of some amounts. -/
def positiveSum (amounts : List Int) : Int := (amounts.filter (0 < ·)).sum

@[simp] theorem amountsSinceReset_nil : amountsSinceReset [] = [] := rfl

@[simp] theorem amountsSinceReset_damage (calls : List HealthCall) (amount : Int) :
    amountsSinceReset (calls ++ [.applyDamage amount]) = amountsSinceReset calls ++ [amount] := by
  simp [amountsSinceReset]

@[simp] theorem amountsSinceReset_reset (calls : List HealthCall) :
    amountsSinceReset (calls ++ [.reset]) = [] := by
  simp [amountsSinceReset]

@[simp] theorem positiveSum_nil : positiveSum [] = 0 := rfl

theorem positiveSum_append (amounts more : List Int) :
    positiveSum (amounts ++ more) = positiveSum amounts + positiveSum more := by
  rw [positiveSum, List.filter_append, List.sum_append, positiveSum, positiveSum]

theorem positiveSum_singleton (amount : Int) : positiveSum [amount] = max 0 amount := by
  by_cases positive : 0 < amount
  · simp [positiveSum, positive]
    omega
  · simp [positiveSum, positive]
    omega

theorem positiveSum_nonneg (amounts : List Int) : 0 ≤ positiveSum amounts := by
  induction amounts with
  | nil => simp
  | cons amount amounts ih =>
      have first := positiveSum_append [amount] amounts
      rw [positiveSum_singleton, List.singleton_append] at first
      omega

/-- More calls never take damage back. -/
theorem positiveSum_mono {amounts more : List Int} (earlier : amounts <+: more) :
    positiveSum amounts ≤ positiveSum more := by
  obtain ⟨rest, rfl⟩ := earlier
  have later := positiveSum_nonneg rest
  rw [positiveSum_append]
  omega

namespace HealthComponent

/-- The component after a call. -/
def call (health : HealthComponent) : HealthCall → HealthComponent
  | .applyDamage amount => (health.applyDamage amount).2
  | .reset => health.reset

/-- The component after some calls, in order. -/
def after (health : HealthComponent) (calls : List HealthCall) : HealthComponent :=
  calls.foldl call health

@[simp] theorem after_nil (health : HealthComponent) : health.after [] = health := rfl

@[simp] theorem after_append_singleton (health : HealthComponent) (calls : List HealthCall)
    (last : HealthCall) : health.after (calls ++ [last]) = (health.after calls).call last := by
  simp [after]

/-- What `ApplyDamage` does to a component that is not below zero: a positive amount is taken off
as far as it goes, and the answer is whether the rest of a living component was used up. -/
theorem applyDamage_spec (health : HealthComponent) (sound : 0 ≤ health.current) (amount : Int) :
    (health.applyDamage amount).2.current = Max.max 0 (health.current - Max.max 0 amount) ∧
      (health.applyDamage amount).2.max = health.max ∧
      ((health.applyDamage amount).1 = true ↔
        0 < health.current ∧ health.current ≤ Max.max 0 amount) := by
  unfold applyDamage
  by_cases harmless : amount ≤ 0
  · rw [if_pos harmless]
    simp
    omega
  · rw [if_neg harmless]
    by_cases alive : health.isAlive = true
    · have living : 0 < health.current := of_decide_eq_true alive
      simp [alive]
      omega
    · have gone : ¬ 0 < health.current := fun living => alive (decide_eq_true living)
      simp [alive]
      omega

/-- The damage since the last `Reset` determines the component. -/
theorem after_new {maxHp : Int} (nonneg : 0 ≤ maxHp) (calls : List HealthCall) :
    ((new maxHp).after calls).current =
        Max.max 0 (maxHp - positiveSum (amountsSinceReset calls)) ∧
      ((new maxHp).after calls).max = maxHp := by
  induction calls using List.reverseRecOn with
  | nil =>
      simp [new]
      omega
  | append_singleton calls last ih =>
      obtain ⟨current, capacity⟩ := ih
      rw [after_append_singleton]
      cases last with
      | reset =>
          simp [call, reset, capacity]
          omega
      | applyDamage amount =>
          have sound : 0 ≤ ((new maxHp).after calls).current := by omega
          obtain ⟨struck, kept, -⟩ := applyDamage_spec _ sound amount
          have taken := positiveSum_nonneg (amountsSinceReset calls)
          constructor
          · rw [call, struck, current, amountsSinceReset_damage, positiveSum_append,
              positiveSum_singleton]
            omega
          · rw [call, kept, capacity]

/-- A call reports the death when the damage reaches the maximum with it and did not before. -/
theorem applyDamage_reports {maxHp : Int} (positive : 0 < maxHp) (before : List HealthCall)
    (amount : Int) :
    (((new maxHp).after before).applyDamage amount).1 = true ↔
      maxHp ≤ positiveSum (amountsSinceReset (before ++ [.applyDamage amount])) ∧
        positiveSum (amountsSinceReset before) < maxHp := by
  have current := (after_new (Int.le_of_lt positive) before).1
  have sound : 0 ≤ ((new maxHp).after before).current := by omega
  have taken := positiveSum_nonneg (amountsSinceReset before)
  rw [(applyDamage_spec _ sound amount).2.2, current, amountsSinceReset_damage, positiveSum_append,
    positiveSum_singleton]
  omega

/-- A death is reported once in a life: the health is the maximum less the damage since the last
`Reset`, and `ApplyDamage` answers true at the first call since a `Reset` at which the damage
reaches the maximum, and at no other. -/
theorem reports_death_once_per_life (maxHp : Int) (positive : 0 < maxHp) (calls : List HealthCall) :
    (0 ≤ ((new maxHp).after calls).current ∧ ((new maxHp).after calls).current ≤ maxHp) ∧
      ((new maxHp).after calls).current =
        Max.max 0 (maxHp - positiveSum (amountsSinceReset calls)) ∧
      ∀ before amount later, calls = before ++ .applyDamage amount :: later →
        ((((new maxHp).after before).applyDamage amount).1 = true ↔
          maxHp ≤ positiveSum (amountsSinceReset (before ++ [.applyDamage amount])) ∧
            ∀ earlier, earlier <+: amountsSinceReset before → positiveSum earlier < maxHp) := by
  have current := (after_new (Int.le_of_lt positive) calls).1
  have taken := positiveSum_nonneg (amountsSinceReset calls)
  refine ⟨by omega, current, ?_⟩
  intro before amount later _
  rw [applyDamage_reports positive]
  refine and_congr_right fun _ => ?_
  constructor
  · intro unreached earlier isPrefix
    have fewer := positiveSum_mono isPrefix
    omega
  · intro unreached
    exact unreached _ List.prefix_rfl

/-- Five hits of twenty with a harmless amount in between, one hit too many, and a `Reset`. -/
def fiveHitsAndReset : List HealthCall :=
  [.applyDamage 20, .applyDamage 20, .applyDamage (-7), .applyDamage 20, .applyDamage 20] ++
    .applyDamage 20 :: [.applyDamage 20, .reset, .applyDamage 30]

theorem reports_death_once_per_life_fiveHits :
    ((new 100).after fiveHitsAndReset).current = 70 ∧
      (((new 100).after (fiveHitsAndReset.take 5)).applyDamage 20).1 = true ∧
      (((new 100).after (fiveHitsAndReset.take 6)).applyDamage 20).1 = false := by
  obtain ⟨-, current, answers⟩ := reports_death_once_per_life 100 (by decide) fiveHitsAndReset
  refine ⟨current.trans (by decide), ?_, ?_⟩
  · refine (answers (fiveHitsAndReset.take 5) 20 _ rfl).mpr ⟨by decide, fun earlier isPrefix => ?_⟩
    exact Int.lt_of_le_of_lt (positiveSum_mono isPrefix) (by decide)
  · refine Bool.eq_false_of_not_eq_true fun reported => ?_
    have unreached := ((answers (fiveHitsAndReset.take 6) 20 _ rfl).mp reported).2 _ List.prefix_rfl
    exact absurd unreached (by decide)

end HealthComponent

end Arena60
