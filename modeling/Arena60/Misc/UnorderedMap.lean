import Mathlib.Data.List.Basic
import Mathlib.Data.List.Perm.Basic
import Mathlib.Data.List.Nodup

/-!
# Hash maps with a visible enumeration order

A hash map is the list of its entries in the order an iteration visits them,
with distinct keys as part of the value. Insertion puts a new key last and
every other operation keeps the order; a container whose order is unspecified
is treated by letting its user permute the entries between operations, for
which `reorder` is provided and `find_reorder` says that lookups do not notice.
-/

namespace Arena60.Misc

universe u v

/-- Whether two keys are the same, as a number. -/
theorem toNat_beq {κ : Type u} [DecidableEq κ] (key other : κ) :
    (key == other).toNat = if key = other then 1 else 0 := by
  by_cases same : key = other <;> simp [same]

section lookup

variable {κ : Type u} {ν : Type v} [DecidableEq κ]

/-- The value of the first entry with the key. -/
def lookupIn (key : κ) : List (κ × ν) → Option ν
  | [] => none
  | (other, value) :: rest => if key = other then some value else lookupIn key rest

@[simp] theorem lookupIn_nil (key : κ) : lookupIn key ([] : List (κ × ν)) = none := rfl

@[simp] theorem lookupIn_cons (key other : κ) (value : ν) (rest : List (κ × ν)) :
    lookupIn key ((other, value) :: rest) = if key = other then some value else lookupIn key rest :=
  rfl

theorem lookupIn_append (key : κ) (first second : List (κ × ν)) :
    lookupIn key (first ++ second) = (lookupIn key first).or (lookupIn key second) := by
  induction first with
  | nil => simp
  | cons entry first ih =>
      obtain ⟨other, value⟩ := entry
      by_cases equal : key = other <;> simp [equal, ih]

/-- Among entries with distinct keys a lookup finds exactly the entries. -/
theorem lookupIn_eq_some_iff (key : κ) (value : ν) (entries : List (κ × ν))
    (distinct : (entries.map Prod.fst).Nodup) :
    lookupIn key entries = some value ↔ (key, value) ∈ entries := by
  induction entries with
  | nil => simp
  | cons entry entries ih =>
      obtain ⟨fresh, rest⟩ := List.nodup_cons.mp distinct
      obtain ⟨other, stored⟩ := entry
      by_cases equal : key = other
      · subst equal
        have absent : (key, value) ∉ entries := fun member =>
          fresh (List.mem_map.mpr ⟨_, member, rfl⟩)
        simp [absent, eq_comm]
      · simp [equal, ih rest]

end lookup

/-- Entries with distinct keys, in enumeration order. -/
structure UnorderedMap (κ : Type u) (ν : Type v) where
  entries : List (κ × ν)
  distinct : (entries.map Prod.fst).Nodup

namespace UnorderedMap

variable {κ : Type u} {ν : Type v} [DecidableEq κ]

omit [DecidableEq κ] in
/-- The map without entries. -/
def empty : UnorderedMap κ ν := ⟨[], by simp⟩

/-- The value stored under a key. -/
def find (m : UnorderedMap κ ν) (key : κ) : Option ν := lookupIn key m.entries

/-- Whether a key is present. -/
def contains (m : UnorderedMap κ ν) (key : κ) : Bool := (m.find key).isSome

/-- The number of entries. -/
def size (m : UnorderedMap κ ν) : Nat := m.entries.length

/-- The keys in enumeration order. -/
def keys (m : UnorderedMap κ ν) : List κ := m.entries.map Prod.fst

/-- Update the value of a key in place; an absent key changes nothing. -/
def adjust (m : UnorderedMap κ ν) (key : κ) (f : ν → ν) : UnorderedMap κ ν where
  entries := m.entries.map fun entry => if entry.1 = key then (entry.1, f entry.2) else entry
  distinct := by
    have sameKeys : (m.entries.map fun entry =>
        if entry.1 = key then (entry.1, f entry.2) else entry).map Prod.fst =
          m.entries.map Prod.fst := by
      rw [List.map_map]
      apply List.map_congr_left
      intro entry _
      simp only [Function.comp_apply]
      split <;> rfl
    rw [sameKeys]
    exact m.distinct

/-- Remove a key. -/
def erase (m : UnorderedMap κ ν) (key : κ) : UnorderedMap κ ν where
  entries := m.entries.filter fun entry => entry.1 ≠ key
  distinct := m.distinct.sublist (List.filter_sublist.map Prod.fst)

omit [DecidableEq κ] in
/-- Remove the entries that are not to be kept. -/
def retain (m : UnorderedMap κ ν) (keep : κ × ν → Bool) : UnorderedMap κ ν where
  entries := m.entries.filter keep
  distinct := m.distinct.sublist (List.filter_sublist.map Prod.fst)

/-- A lookup finds exactly the entries. -/
theorem find_eq_some_iff (m : UnorderedMap κ ν) (key : κ) (value : ν) :
    m.find key = some value ↔ (key, value) ∈ m.entries :=
  lookupIn_eq_some_iff key value m.entries m.distinct

/-- A lookup fails exactly on the absent keys. -/
theorem find_eq_none_iff (m : UnorderedMap κ ν) (key : κ) :
    m.find key = none ↔ key ∉ m.keys := by
  rw [Option.eq_none_iff_forall_ne_some]
  simp only [ne_eq, find_eq_some_iff, keys, List.mem_map, Prod.exists, exists_and_right,
    exists_eq_right, not_exists]

theorem contains_iff (m : UnorderedMap κ ν) (key : κ) : m.contains key = true ↔ key ∈ m.keys := by
  rw [contains, Option.isSome_iff_ne_none, ne_eq, find_eq_none_iff, not_not]

/-- Insert a key that is absent, at the end; a present key changes nothing. -/
def emplace (m : UnorderedMap κ ν) (key : κ) (value : ν) : UnorderedMap κ ν :=
  if absent : m.find key = none then
    { entries := m.entries ++ [(key, value)]
      distinct := by
        have fresh : key ∉ m.entries.map Prod.fst := (m.find_eq_none_iff key).mp absent
        simp only [List.map_append, List.map_cons, List.map_nil]
        refine List.nodup_append.mpr ⟨m.distinct, by simp, ?_⟩
        rintro a member b single rfl
        exact fresh (List.mem_singleton.mp single ▸ member) }
  else m

/-- The element `m[key]` refers to, a default one being inserted first when the
key is absent, updated by `f`. -/
def upsert (m : UnorderedMap κ ν) (key : κ) (default : ν) (f : ν → ν) : UnorderedMap κ ν :=
  (m.emplace key default).adjust key f

@[simp] theorem find_empty (key : κ) : (empty : UnorderedMap κ ν).find key = none := rfl

@[simp] theorem find_adjust (m : UnorderedMap κ ν) (key other : κ) (f : ν → ν) :
    (m.adjust key f).find other = if other = key then (m.find other).map f else m.find other := by
  unfold find adjust
  simp only
  induction m.entries with
  | nil => simp
  | cons entry entries ih =>
      obtain ⟨stored, value⟩ := entry
      by_cases hit : stored = key
      · by_cases asked : other = stored <;> simp_all
      · by_cases asked : other = stored
        · subst asked
          simp [hit]
        · simp [hit, asked, ih]

@[simp] theorem find_erase (m : UnorderedMap κ ν) (key other : κ) :
    (m.erase key).find other = if other = key then none else m.find other := by
  unfold find erase
  simp only
  induction m.entries with
  | nil => simp
  | cons entry entries ih =>
      obtain ⟨stored, value⟩ := entry
      by_cases hit : stored = key
      · subst hit
        rw [List.filter_cons_of_neg (by simp), ih]
        by_cases asked : other = stored <;> simp [asked]
      · rw [List.filter_cons_of_pos (by simpa using hit), lookupIn_cons, ih]
        by_cases asked : other = stored
        · subst asked
          simp [hit]
        · simp [asked]

@[simp] theorem find_emplace (m : UnorderedMap κ ν) (key other : κ) (value : ν) :
    (m.emplace key value).find other =
      if other = key then some ((m.find key).getD value) else m.find other := by
  unfold emplace
  by_cases absent : m.find key = none
  · rw [dif_pos absent]
    simp only [find, lookupIn_append] at absent ⊢
    by_cases asked : other = key
    · subst asked
      simp [absent]
    · simp [asked]
  · rw [dif_neg absent]
    obtain ⟨stored, found⟩ := Option.ne_none_iff_exists'.mp absent
    by_cases asked : other = key
    · subst asked
      simp [found]
    · simp [asked]

@[simp] theorem find_upsert (m : UnorderedMap κ ν) (key other : κ) (default : ν) (f : ν → ν) :
    (m.upsert key default f).find other =
      if other = key then some (f ((m.find key).getD default)) else m.find other := by
  unfold upsert
  by_cases asked : other = key <;> simp [asked]

/-- The value of a key, where an absent one has a default. -/
theorem getD_find_upsert (m : UnorderedMap κ ν) (key other : κ) (default : κ → ν) (f : ν → ν) :
    ((m.upsert key (default key) f).find other).getD (default other) =
      if other = key then f ((m.find other).getD (default other))
      else (m.find other).getD (default other) := by
  rw [find_upsert]
  by_cases asked : other = key
  · subst asked
    rw [if_pos rfl, if_pos rfl, Option.getD_some]
  · rw [if_neg asked, if_neg asked]

theorem map_fst_filterMap_find (m : UnorderedMap κ ν) (order : List κ) :
    (order.filterMap fun key => (m.find key).map (key, ·)).map Prod.fst =
      order.filter fun key => (m.find key).isSome := by
  induction order with
  | nil => rfl
  | cons key order ih => cases found : m.find key <;> simp [found, ih]

/-- The same entries enumerated in another order of the keys; any other list of keys
changes nothing. -/
def reorder (m : UnorderedMap κ ν) (order : List κ) : UnorderedMap κ ν :=
  if perm : order.Perm m.keys then
    { entries := order.filterMap fun key => (m.find key).map (key, ·)
      distinct := by
        rw [map_fst_filterMap_find]
        exact (perm.nodup_iff.mpr m.distinct).filter _ }
  else m

@[simp] theorem find_reorder (m : UnorderedMap κ ν) (order : List κ) (key : κ) :
    (m.reorder order).find key = m.find key := by
  apply Option.ext
  intro value
  rw [find_eq_some_iff]
  unfold reorder
  by_cases perm : order.Perm m.keys
  · rw [dif_pos perm]
    simp only [List.mem_filterMap, Option.map_eq_some_iff, Prod.mk.injEq]
    constructor
    · rintro ⟨other, -, found, present, rfl, rfl⟩
      exact present
    · intro found
      have listed : key ∈ m.keys :=
        List.mem_map.mpr ⟨(key, value), (m.find_eq_some_iff key value).mp found, rfl⟩
      exact ⟨key, perm.mem_iff.mpr listed, value, found, rfl, rfl⟩
  · rw [dif_neg perm]
    exact (m.find_eq_some_iff key value).symm

@[simp] theorem contains_adjust (m : UnorderedMap κ ν) (key other : κ) (f : ν → ν) :
    (m.adjust key f).contains other = m.contains other := by
  unfold contains
  rw [find_adjust]
  split_ifs
  · exact Option.isSome_map
  · rfl

@[simp] theorem contains_upsert (m : UnorderedMap κ ν) (key other : κ) (default : ν) (f : ν → ν) :
    (m.upsert key default f).contains other = (other == key || m.contains other) := by
  unfold contains
  rw [find_upsert]
  by_cases asked : other = key <;> simp [asked]

@[simp] theorem contains_erase (m : UnorderedMap κ ν) (key other : κ) :
    (m.erase key).contains other = (other != key && m.contains other) := by
  unfold contains
  rw [find_erase]
  by_cases asked : other = key <;> simp [asked]

/-- Whether a key is present can be read off the keys. -/
theorem contains_congr {m m' : UnorderedMap κ ν} (same : m.keys = m'.keys) (key : κ) :
    m.contains key = m'.contains key := by
  rw [Bool.eq_iff_iff, contains_iff, contains_iff, same]

@[simp] theorem contains_reorder (m : UnorderedMap κ ν) (order : List κ) (key : κ) :
    (m.reorder order).contains key = m.contains key := by
  rw [contains, find_reorder, contains]

/-- Two updates of one element are one. -/
theorem adjust_adjust (m : UnorderedMap κ ν) (key : κ) (f g : ν → ν) :
    (m.adjust key f).adjust key g = m.adjust key (g ∘ f) := by
  unfold adjust
  simp only [List.map_map, mk.injEq]
  apply List.map_congr_left
  intro entry _
  by_cases hit : entry.1 = key <;> simp [hit]

/-- Updates of different elements commute. -/
theorem adjust_comm (m : UnorderedMap κ ν) {key other : κ} (differ : key ≠ other) (f g : ν → ν) :
    (m.adjust key f).adjust other g = (m.adjust other g).adjust key f := by
  unfold adjust
  simp only [List.map_map, mk.injEq]
  apply List.map_congr_left
  intro entry _
  by_cases hit : entry.1 = key
  · simp [hit, differ]
  · by_cases hit' : entry.1 = other
    · simp [hit', Ne.symm differ]
    · simp [hit, hit']

/-- Two pairs of updates of the same two elements commute when the updates of each do. -/
theorem adjust_exchange (m : UnorderedMap κ ν) {key other : κ} (differ : key ≠ other)
    {f f' g g' : ν → ν} (free : f' ∘ f = f ∘ f') (free' : g' ∘ g = g ∘ g') :
    (((m.adjust other g).adjust key f).adjust key f').adjust other g' =
      (((m.adjust key f').adjust other g').adjust other g).adjust key f := by
  calc (((m.adjust other g).adjust key f).adjust key f').adjust other g'
      = ((m.adjust other g).adjust other g').adjust key (f' ∘ f) := by
        rw [adjust_adjust, adjust_comm _ differ]
    _ = (m.adjust other (g ∘ g')).adjust key (f ∘ f') := by
        rw [adjust_adjust, free, free']
    _ = ((m.adjust key f').adjust key f).adjust other (g ∘ g') := by
        rw [adjust_comm _ (Ne.symm differ), adjust_adjust]
    _ = (((m.adjust key f').adjust other g').adjust other g).adjust key f := by
        rw [adjust_comm _ differ, ← adjust_adjust]

/-- Only the stored element matters. -/
theorem adjust_congr (m : UnorderedMap κ ν) {key : κ} {f g : ν → ν}
    (same : ∀ value, m.find key = some value → f value = g value) : m.adjust key f = m.adjust key g := by
  unfold adjust
  simp only [mk.injEq]
  apply List.map_congr_left
  intro entry member
  split_ifs with hit
  · subst hit
    rw [same entry.2 ((m.find_eq_some_iff entry.1 entry.2).mpr member)]
  · rfl

theorem adjust_id (m : UnorderedMap κ ν) (key : κ) : m.adjust key id = m := by
  have same : ∀ entry ∈ m.entries, (if entry.1 = key then (entry.1, id entry.2) else entry) = id entry := by
    intro entry _
    split_ifs <;> rfl
  have entries := (List.map_congr_left same).trans (List.map_id m.entries)
  cases m
  simp only [adjust, mk.injEq]
  exact entries

/-- An update that keeps the stored element does nothing. -/
theorem adjust_of_fixed (m : UnorderedMap κ ν) {key : κ} {f : ν → ν}
    (fixed : ∀ value, m.find key = some value → f value = value) : m.adjust key f = m :=
  (m.adjust_congr fixed).trans (m.adjust_id key)

theorem find_adjust_eq_some {m : UnorderedMap κ ν} {key other : κ} {f : ν → ν} {value : ν}
    (found : (m.adjust key f).find other = some value) :
    ∃ stored, m.find other = some stored ∧ value = if other = key then f stored else stored := by
  rw [find_adjust] at found
  split_ifs at found with asked
  · obtain ⟨stored, present, rfl⟩ := Option.map_eq_some_iff.mp found
    exact ⟨stored, present, (if_pos asked).symm⟩
  · exact ⟨value, found, (if_neg asked).symm⟩

/-- Every value of an adjusted map is related to the one it had, when the adjusted one is. -/
theorem related_of_find_adjust {r : ν → ν → Prop} (refl : ∀ value, r value value)
    {m : UnorderedMap κ ν} {key : κ} {stored : ν} {f : ν → ν} (present : m.find key = some stored)
    (related : r stored (f stored)) :
    ∀ other value, (m.adjust key f).find other = some value →
      ∃ before, m.find other = some before ∧ r before value := by
  intro other value found
  obtain ⟨before, there, rfl⟩ := find_adjust_eq_some found
  refine ⟨before, there, ?_⟩
  split_ifs with asked
  · rw [asked, present] at there
    cases there
    exact related
  · exact refl before

theorem keys_adjust (m : UnorderedMap κ ν) (key : κ) (f : ν → ν) : (m.adjust key f).keys = m.keys := by
  unfold keys adjust
  rw [List.map_map]
  apply List.map_congr_left
  intro entry _
  simp only [Function.comp_apply]
  split <;> rfl

theorem keys_reorder (m : UnorderedMap κ ν) {order : List κ} (perm : order.Perm m.keys) :
    (m.reorder order).keys = order := by
  have present : ∀ key ∈ order, (m.find key).isSome = true := by
    intro key member
    have listed := perm.mem_iff.mp member
    rwa [← contains_iff] at listed
  unfold reorder
  rw [dif_pos perm, keys, map_fst_filterMap_find, List.filter_eq_self.mpr present]

omit [DecidableEq κ] in
/-- Nothing is removed from a map of entries to be kept. -/
theorem retain_eq_self {m : UnorderedMap κ ν} {keep : κ × ν → Bool}
    (kept : ∀ entry ∈ m.entries, keep entry = true) : m.retain keep = m := by
  cases m
  simp only [retain, mk.injEq]
  exact List.filter_eq_self.mpr kept

omit [DecidableEq κ] in
theorem keys_nodup (m : UnorderedMap κ ν) : m.keys.Nodup := m.distinct

/-! ## The number of entries -/

omit [DecidableEq κ] in
theorem length_keys (m : UnorderedMap κ ν) : m.keys.length = m.size := List.length_map _

theorem keys_erase (m : UnorderedMap κ ν) (key : κ) : (m.erase key).keys = m.keys.erase key := by
  rw [m.keys_nodup.erase_eq_filter, keys, keys, erase, List.filter_map]
  congr 1
  apply List.filter_congr
  intro entry _
  by_cases asked : entry.1 = key <;> simp [asked]

theorem size_erase {m : UnorderedMap κ ν} {key : κ} (present : m.contains key = true) :
    (m.erase key).size + 1 = m.size := by
  have member := (m.contains_iff key).mp present
  have positive := List.length_pos_of_mem member
  have shorter := List.length_erase_of_mem member
  rw [← length_keys, ← length_keys, keys_erase]
  omega

theorem size_upsert {m : UnorderedMap κ ν} {key : κ} (absent : m.contains key = false) (default : ν)
    (f : ν → ν) : (m.upsert key default f).size = m.size + 1 := by
  have missing : m.find key = none := by simpa [contains] using absent
  rw [← length_keys, upsert, keys_adjust, length_keys, size, size, emplace, dif_pos missing]
  simp

theorem size_reorder (m : UnorderedMap κ ν) (order : List κ) : (m.reorder order).size = m.size := by
  by_cases perm : order.Perm m.keys
  · rw [← length_keys, ← length_keys, keys_reorder m perm, perm.length_eq]
  · rw [reorder, dif_neg perm]

end UnorderedMap

end Arena60.Misc
