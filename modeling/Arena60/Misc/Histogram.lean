import Mathlib.Algebra.GroupWithZero.Nat
import Mathlib.Data.List.Count

/-!
# Histograms

An observation is counted in the first bucket it fits into, or as an overflow. Where an observation
that fits into a bucket fits into all later ones, the running sums of the counts say how many
observations fit into each bucket.
-/

namespace Arena60.Misc

universe u v

variable {α : Type u} {β : Type v}

/-- Count in the first bucket that fits; `none` when there is none. -/
def countFirst (fits : β → Bool) : List β → List Nat → Option (List Nat)
  | bucket :: buckets, count :: counts =>
      if fits bucket then some ((count + 1) :: counts)
      else (countFirst fits buckets counts).map (count :: ·)
  | _, _ => none

/-- The sums of the counts up to each bucket. -/
def runningSums (start : Nat) : List Nat → List Nat
  | [] => []
  | count :: counts => (start + count) :: runningSums (start + count) counts

theorem runningSums_succ (start : Nat) (counts : List Nat) :
    runningSums (start + 1) counts = (runningSums start counts).map (· + 1) := by
  induction counts generalizing start with
  | nil => rfl
  | cons count counts ih => simp [runningSums, ← ih, Nat.add_right_comm]

theorem runningSums_zeros (start : Nat) (buckets : List β) :
    runningSums start (buckets.map fun _ => 0) = buckets.map fun _ => start := by
  induction buckets with
  | nil => rfl
  | cons bucket buckets ih => rw [List.map_cons, List.map_cons, runningSums, Nat.add_zero, ih]

/-- An observation that fits is added to the sums of all buckets it fits into. -/
theorem countFirst_some {fits : β → Bool} {buckets : List β} {counts counts' : List Nat} {start : Nat}
    {f : β → Nat} (ascending : buckets.Pairwise fun a b => fits a = true → fits b = true)
    (counted : countFirst fits buckets counts = some counts')
    (sums : runningSums start counts = buckets.map f) :
    runningSums start counts' = buckets.map (fun bucket => f bucket + (fits bucket).toNat) ∧
      counts'.sum = counts.sum + 1 := by
  induction buckets generalizing counts counts' start with
  | nil => cases counted
  | cons bucket buckets ih =>
      obtain ⟨later, ascending'⟩ := List.pairwise_cons.mp ascending
      cases counts with
      | nil => cases counted
      | cons count counts =>
          obtain ⟨head, tail⟩ := List.cons.inj sums
          rw [countFirst] at counted
          by_cases here : fits bucket = true
          · rw [if_pos here] at counted
            cases counted
            have rest : buckets.map (fun b => f b + (fits b).toNat) = (buckets.map f).map (· + 1) := by
              rw [List.map_map]
              apply List.map_congr_left
              intro b member
              rw [later b member here]
              rfl
            rw [runningSums, ← Nat.add_assoc, runningSums_succ, tail, List.map_cons, rest, here, ← head]
            refine ⟨rfl, ?_⟩
            simp only [List.sum_cons]
            omega
          · rw [if_neg here] at counted
            obtain ⟨rest, counted', rfl⟩ := Option.map_eq_some_iff.mp counted
            obtain ⟨sums', total⟩ := ih ascending' counted' tail
            have unfit : fits bucket = false := by simpa using here
            rw [runningSums, sums', List.map_cons, unfit, ← head]
            refine ⟨rfl, ?_⟩
            simp only [List.sum_cons, total]
            omega

/-- An observation that is not counted fits into no bucket. -/
theorem countFirst_none {fits : β → Bool} {buckets : List β} {counts : List Nat}
    (uncounted : countFirst fits buckets counts = none) (enough : buckets.length ≤ counts.length) :
    ∀ bucket ∈ buckets, fits bucket = false := by
  induction buckets generalizing counts with
  | nil => simp
  | cons bucket buckets ih =>
      cases counts with
      | nil => simp at enough
      | cons count counts =>
          rw [countFirst] at uncounted
          by_cases here : fits bucket = true
          · rw [if_pos here] at uncounted
            cases uncounted
          · rw [if_neg here, Option.map_eq_none_iff] at uncounted
            intro other member
            rcases List.mem_cons.mp member with rfl | later
            · simpa using here
            · exact ih uncounted (by simpa using enough) other later

theorem length_runningSums (start : Nat) (counts : List Nat) :
    (runningSums start counts).length = counts.length := by
  induction counts generalizing start with
  | nil => rfl
  | cons count counts ih => simp [runningSums, ih]

/-- The counts of some observations. -/
structure Tallied (fits : α → β → Bool) (buckets : List β) (observed : List α) (counts : List Nat)
    (overflow : Nat) : Prop where
  sums : runningSums 0 counts = buckets.map fun bucket => observed.countP (fits · bucket)
  total : counts.sum + overflow = observed.length

namespace Tallied

variable {fits : α → β → Bool} {buckets : List β} {observed : List α} {counts counts' : List Nat}
  {overflow : Nat} {a : α}

theorem nothing (fits : α → β → Bool) (buckets : List β) :
    Tallied fits buckets [] (buckets.map fun _ => 0) 0 := by
  constructor
  · exact runningSums_zeros 0 buckets
  · induction buckets with
    | nil => rfl
    | cons bucket buckets ih =>
        rw [List.map_cons, List.sum_cons, Nat.zero_add]
        exact ih

theorem count (tallied : Tallied fits buckets observed counts overflow)
    (ascending : buckets.Pairwise fun b c => fits a b = true → fits a c = true)
    (counted : countFirst (fits a) buckets counts = some counts') :
    Tallied fits buckets (observed ++ [a]) counts' overflow := by
  obtain ⟨sums, total⟩ := countFirst_some ascending counted tallied.sums
  have before := tallied.total
  constructor
  · rw [sums]
    apply List.map_congr_left
    intro bucket _
    cases here : fits a bucket <;> simp [here]
  · simp only [total, List.length_append, List.length_singleton]
    omega

theorem miss (tallied : Tallied fits buckets observed counts overflow)
    (uncounted : countFirst (fits a) buckets counts = none) :
    Tallied fits buckets (observed ++ [a]) counts (overflow + 1) := by
  have before := tallied.total
  have lengths := congrArg List.length tallied.sums
  rw [length_runningSums, List.length_map] at lengths
  have nowhere := countFirst_none uncounted (by omega)
  constructor
  · rw [tallied.sums]
    apply List.map_congr_left
    intro bucket member
    simp [nowhere bucket member]
  · simp only [List.length_append, List.length_singleton]
    omega

/-- The sums do not descend, and they stay below the number of observations. -/
theorem sums_ascending (observed : List α)
    (ascending : ∀ a, buckets.Pairwise fun b c => fits a b = true → fits a c = true) :
    ((buckets.map fun bucket => observed.countP (fits · bucket)) ++ [observed.length]).Pairwise (· ≤ ·) := by
  rw [List.pairwise_append, List.pairwise_map]
  refine ⟨?_, List.pairwise_singleton _ _, ?_⟩
  · have all : buckets.Pairwise fun b c => ∀ a, fits a b = true → fits a c = true := by
      rw [List.pairwise_iff_forall_sublist]
      intro b c sub a
      exact List.pairwise_iff_forall_sublist.mp (ascending a) sub
    exact all.imp fun below => List.countP_mono_left fun a _ => below a
  · intro sum member total last
    obtain ⟨bucket, -, rfl⟩ := List.mem_map.mp member
    rw [List.mem_singleton.mp last]
    exact List.countP_le_length

end Tallied

end Arena60.Misc
