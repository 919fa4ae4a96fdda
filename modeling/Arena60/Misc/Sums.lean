import Arena60.Misc.UnorderedMap
import Mathlib.Algebra.BigOperators.Group.List.Basic
import Mathlib.Algebra.Order.BigOperators.Group.List
import Mathlib.Algebra.Order.Ring.Nat
import Mathlib.Algebra.Ring.Int.Defs
import Mathlib.Algebra.Order.Group.Multiset

/-!
# Sums over lists and maps

Facts for accounts that add up one number per element, and for the sum of a number over the values of a
map whose elements are changed one at a time.
-/

namespace Arena60.Misc

universe u

variable {α : Type u}

/-- When no summand is too small, a sum is right exactly when every summand is. -/
theorem sum_map_eq_iff (items : List α) (f g : α → Nat) (below : ∀ item ∈ items, g item ≤ f item) :
    (items.map f).sum = (items.map g).sum ↔ ∀ item ∈ items, f item = g item := by
  induction items with
  | nil => simp
  | cons item items ih =>
      have head := below item List.mem_cons_self
      have rest : ∀ other ∈ items, g other ≤ f other := fun other member =>
        below other (List.mem_cons_of_mem _ member)
      have total := List.sum_le_sum rest
      rw [List.map_cons, List.map_cons, List.sum_cons, List.sum_cons, List.forall_mem_cons, ← ih rest]
      omega

/-- A list that has each key at least `n` times as often as another is at least `n` times as long. -/
theorem mul_length_le_of_countP {β κ : Type u} [DecidableEq κ] {few : List α} {many : List β} {n : Nat}
    (key : α → κ) (key' : β → κ)
    (each : ∀ k, n * few.countP (fun a => key a == k) ≤ many.countP fun b => key' b == k) :
    n * few.length ≤ many.length := by
  have among : n • (few.map key : Multiset κ) ≤ (many.map key' : Multiset κ) := by
    rw [Multiset.le_iff_count]
    intro k
    have counted := each k
    simp only [Multiset.count_nsmul, Multiset.coe_count, List.count_eq_countP, List.countP_map]
    exact counted
  have sizes := Multiset.card_le_card among
  rwa [Multiset.card_nsmul, Multiset.coe_card, Multiset.coe_card, List.length_map, List.length_map] at sizes

/-- Counting is summing zeros and ones. -/
theorem countP_eq_sum (p : α → Bool) (items : List α) :
    items.countP p = (items.map fun item => (p item).toNat).sum := by
  induction items with
  | nil => rfl
  | cons item items ih =>
      rw [List.countP_cons, ih, List.map_cons, List.sum_cons, Nat.add_comm]
      cases p item <;> rfl

/-- A number that is booked under one of the keys. -/
theorem sum_map_booked {κ : Type*} [DecidableEq κ] {keys : List κ} (distinct : keys.Nodup) {key : κ}
    (listed : key ∈ keys) (amount : Nat) :
    (keys.map fun other => if other = key then amount else 0).sum = amount := by
  induction keys with
  | nil => cases listed
  | cons first keys ih =>
      obtain ⟨fresh, rest⟩ := List.nodup_cons.mp distinct
      rw [List.map_cons, List.sum_cons]
      by_cases here : first = key
      · subst here
        have nothing : (keys.map fun other => if other = first then amount else 0).sum = 0 := by
          apply List.sum_eq_zero
          intro summand member
          obtain ⟨other, later, rfl⟩ := List.mem_map.mp member
          refine if_neg ?_
          intro same
          rw [same] at later
          exact fresh later
        rw [if_pos rfl, nothing, Nat.add_zero]
      · rw [if_neg here, Nat.zero_add]
        exact ih rest ((List.mem_cons.mp listed).resolve_left (Ne.symm here))

/-- When every item is booked under one of the keys, the sums under the keys add up to the sum of all. -/
theorem sum_map_sum_booked {κ : Type*} [DecidableEq κ] {keys : List κ} (distinct : keys.Nodup)
    (keyOf : α → κ) (amount : α → Nat) {items : List α} (booked : ∀ item ∈ items, keyOf item ∈ keys) :
    (keys.map fun key => (items.map fun item => if key = keyOf item then amount item else 0).sum).sum =
      (items.map amount).sum := by
  induction items with
  | nil =>
      apply List.sum_eq_zero
      intro summand member
      obtain ⟨key, -, rfl⟩ := List.mem_map.mp member
      rfl
  | cons item items ih =>
      obtain ⟨first, rest⟩ := List.forall_mem_cons.mp booked
      simp only [List.map_cons, List.sum_cons, List.sum_map_add]
      rw [sum_map_booked distinct first, ih rest]

namespace UnorderedMap

universe v

variable {κ : Type u} {ν : Type v} [DecidableEq κ]

omit [DecidableEq κ] in
/-- The sum of a number over the values. -/
def sumOf (m : UnorderedMap κ ν) (f : ν → Int) : Int := (m.entries.map fun entry => f entry.2).sum

theorem sum_map_adjusted (key : κ) (f : ν → Int) (g : ν → ν) {value : ν} (entries : List (κ × ν))
    (distinct : (entries.map Prod.fst).Nodup) (found : lookupIn key entries = some value) :
    ((entries.map fun entry => if entry.1 = key then (entry.1, g entry.2) else entry).map
        fun entry => f entry.2).sum =
      (entries.map fun entry => f entry.2).sum + (f (g value) - f value) := by
  induction entries with
  | nil => simp at found
  | cons entry entries ih =>
      obtain ⟨fresh, rest⟩ := List.nodup_cons.mp distinct
      obtain ⟨other, stored⟩ := entry
      simp only [List.map_cons, List.sum_cons]
      by_cases hit : other = key
      · subst hit
        have same : stored = value := by simpa using found
        have fixed : ∀ entry ∈ entries, (if entry.1 = other then (entry.1, g entry.2) else entry) = id entry := by
          intro entry member
          have differ : entry.1 ≠ other := fun equal =>
            fresh (List.mem_map.mpr ⟨entry, member, equal⟩)
          exact if_neg differ
        have kept := (List.map_congr_left fixed).trans (List.map_id entries)
        rw [kept, if_pos rfl, same]
        dsimp only
        omega
      · have later : lookupIn key entries = some value := by simpa [Ne.symm hit] using found
        rw [ih rest later, if_neg hit]
        dsimp only
        omega

theorem sumOf_adjust (m : UnorderedMap κ ν) {key : κ} {value : ν} (found : m.find key = some value)
    (f : ν → Int) (g : ν → ν) : (m.adjust key g).sumOf f = m.sumOf f + (f (g value) - f value) :=
  sum_map_adjusted key f g m.entries m.distinct found

/-- An update that keeps the number of each value keeps the sum. -/
theorem sumOf_adjust_of_fixed (m : UnorderedMap κ ν) (key : κ) {f : ν → Int} {g : ν → ν}
    (fixed : ∀ value, f (g value) = f value) : (m.adjust key g).sumOf f = m.sumOf f := by
  unfold sumOf adjust
  simp only [List.map_map]
  congr 1
  apply List.map_congr_left
  intro entry _
  by_cases hit : entry.1 = key <;> simp [hit, fixed]

/-- A new value that counts for nothing keeps the sum. -/
theorem sumOf_emplace (m : UnorderedMap κ ν) (key : κ) {default : ν} {f : ν → Int} (nothing : f default = 0) :
    (m.emplace key default).sumOf f = m.sumOf f := by
  unfold emplace
  split_ifs with absent
  · simp [sumOf, nothing]
  · rfl

theorem sumOf_upsert_of_fixed (m : UnorderedMap κ ν) (key : κ) {default : ν} {f : ν → Int} {g : ν → ν}
    (nothing : f default = 0) (fixed : ∀ value, f (g value) = f value) :
    (m.upsert key default g).sumOf f = m.sumOf f := by
  rw [upsert, sumOf_adjust_of_fixed _ key fixed, sumOf_emplace m key nothing]

end UnorderedMap

end Arena60.Misc
