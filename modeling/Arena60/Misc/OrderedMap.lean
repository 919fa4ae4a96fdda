import Arena60.Misc.UnorderedMap
import Mathlib.Order.Lattice

/-!
# Ordered maps

The map of a balanced search tree is the list of its entries with strictly
ascending keys; the tree itself is not observable. A map ordered by the
opposite comparison is a map over the order dual of its keys.
-/

namespace Arena60.Misc

universe u v

/-- Entries with strictly ascending keys. -/
structure OrderedMap (κ : Type u) (ν : Type v) [LT κ] where
  entries : List (κ × ν)
  ascending : (entries.map Prod.fst).Pairwise (· < ·)

namespace OrderedMap

variable {κ : Type u} {ν : Type v} [LinearOrder κ]

/-- The map without entries. -/
def empty : OrderedMap κ ν := ⟨[], List.Pairwise.nil⟩

/-- The value stored under a key. -/
def find (m : OrderedMap κ ν) (key : κ) : Option ν := lookupIn key m.entries

/-- Update the value under a key of an ascending list, inserting `f default` at
the key's place when it is absent. -/
def upsertIn (key : κ) (default : ν) (f : ν → ν) : List (κ × ν) → List (κ × ν)
  | [] => [(key, f default)]
  | (other, value) :: rest =>
      if key < other then (key, f default) :: (other, value) :: rest
      else if key = other then (other, f value) :: rest
      else (other, value) :: upsertIn key default f rest

theorem mem_keys_upsertIn (key other : κ) (default : ν) (f : ν → ν) (entries : List (κ × ν)) :
    other ∈ (upsertIn key default f entries).map Prod.fst ↔
      other = key ∨ other ∈ entries.map Prod.fst := by
  induction entries with
  | nil => simp [upsertIn]
  | cons entry entries ih =>
      obtain ⟨stored, value⟩ := entry
      simp only [upsertIn]
      split_ifs with below same
      · simp
      · subst same
        simp
      · rw [List.map_cons, List.mem_cons, ih]
        simp only [List.map_cons, List.mem_cons]
        exact or_left_comm

theorem ascending_upsertIn (key : κ) (default : ν) (f : ν → ν) (entries : List (κ × ν))
    (ascending : (entries.map Prod.fst).Pairwise (· < ·)) :
    ((upsertIn key default f entries).map Prod.fst).Pairwise (· < ·) := by
  induction entries with
  | nil => simp [upsertIn]
  | cons entry entries ih =>
      obtain ⟨stored, value⟩ := entry
      rw [List.map_cons, List.pairwise_cons] at ascending
      obtain ⟨least, rest⟩ := ascending
      simp only [upsertIn]
      split_ifs with below same
      · simp only [List.map_cons, List.pairwise_cons, List.mem_cons]
        refine ⟨?_, least, rest⟩
        rintro other (rfl | member)
        · exact below
        · exact lt_trans below (least other member)
      · simp only [List.map_cons, List.pairwise_cons]
        exact ⟨least, rest⟩
      · rw [List.map_cons, List.pairwise_cons]
        refine ⟨?_, ih rest⟩
        intro other member
        rcases (mem_keys_upsertIn key other default f entries).mp member with rfl | member
        · exact lt_of_le_of_ne (not_lt.mp below) (Ne.symm same)
        · exact least other member

/-- The element `m[key]` refers to, a default one being inserted first when the
key is absent, updated by `f`. -/
def upsert (m : OrderedMap κ ν) (key : κ) (default : ν) (f : ν → ν) : OrderedMap κ ν :=
  ⟨upsertIn key default f m.entries, ascending_upsertIn key default f m.entries m.ascending⟩

/-- Remove a key. -/
def erase (m : OrderedMap κ ν) (key : κ) : OrderedMap κ ν :=
  ⟨m.entries.filter fun entry => entry.1 ≠ key,
    m.ascending.sublist (List.filter_sublist.map Prod.fst)⟩

theorem distinct (m : OrderedMap κ ν) : (m.entries.map Prod.fst).Nodup :=
  m.ascending.imp fun below => ne_of_lt below

/-- A lookup finds exactly the entries. -/
theorem find_eq_some_iff (m : OrderedMap κ ν) (key : κ) (value : ν) :
    m.find key = some value ↔ (key, value) ∈ m.entries :=
  lookupIn_eq_some_iff key value m.entries m.distinct

@[simp] theorem find_empty (key : κ) : (empty : OrderedMap κ ν).find key = none := rfl

@[simp] theorem find_erase (m : OrderedMap κ ν) (key other : κ) :
    (m.erase key).find other = if other = key then none else m.find other := by
  apply Option.ext
  intro value
  rw [find_eq_some_iff]
  simp only [erase, List.mem_filter, ne_eq, decide_not, Bool.not_eq_true', decide_eq_false_iff_not]
  rw [← find_eq_some_iff]
  by_cases asked : other = key <;> simp [asked]

/-- In an ascending list a key below the head is absent. -/
theorem lookupIn_of_below (key other : κ) (value : ν) (rest : List (κ × ν)) (below : key < other)
    (ascending : (((other, value) :: rest).map Prod.fst).Pairwise (· < ·)) :
    lookupIn key ((other, value) :: rest) = none := by
  have distinct : (((other, value) :: rest).map Prod.fst).Nodup := ascending.imp fun h => ne_of_lt h
  rw [Option.eq_none_iff_forall_ne_some]
  intro found hit
  rw [lookupIn_eq_some_iff _ _ _ distinct, List.mem_cons, Prod.mk.injEq] at hit
  rw [List.map_cons, List.pairwise_cons] at ascending
  rcases hit with ⟨rfl, -⟩ | member
  · exact lt_irrefl _ below
  · exact lt_asymm below (ascending.1 key (List.mem_map.mpr ⟨_, member, rfl⟩))

@[simp] theorem find_upsert (m : OrderedMap κ ν) (key other : κ) (default : ν) (f : ν → ν) :
    (m.upsert key default f).find other =
      if other = key then some (f ((m.find key).getD default)) else m.find other := by
  obtain ⟨entries, ascending⟩ := m
  simp only [find, upsert]
  induction entries with
  | nil => simp [upsertIn]
  | cons entry entries ih =>
      obtain ⟨stored, value⟩ := entry
      have rest := (List.pairwise_cons.mp ascending).2
      rw [upsertIn]
      by_cases below : key < stored
      · rw [if_pos below, lookupIn_cons, lookupIn_of_below _ _ _ _ below ascending]
        simp
      · rw [if_neg below]
        by_cases same : key = stored
        · subst same
          rw [if_pos rfl]
          by_cases asked : other = key <;> simp [asked]
        · rw [if_neg same, lookupIn_cons, lookupIn_cons, lookupIn_cons, if_neg same, ih rest]
          by_cases asked : other = key
          · subst asked
            simp [same]
          · simp [asked]

end OrderedMap

end Arena60.Misc
