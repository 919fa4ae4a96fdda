import Mathlib.Data.List.Basic
import Mathlib.Data.List.Nodup
import Mathlib.Data.List.Pairwise

/-!
# First-fit pairing

Walk a list from its head; each element not taken yet takes as its partner the
first later element that is not taken either and that it fits. Elements are
identified by a key. The results say what such a pairing is worth whatever
`fits` means: which elements it pairs, that it is maximal among the elements it
leaves, and which of them it prefers.
-/

namespace Arena60.Misc

universe u v

variable {α : Type u} {κ : Type v}

/-- A search that gives up at the first element it passes over and `stop` holds of. -/
def findUntil (p stop : α → Bool) : List α → Option α
  | [] => none
  | a :: rest => if p a then some a else if stop a then none else findUntil p stop rest

/-- Giving up loses nothing when nothing behind a stopping element is wanted. -/
theorem findUntil_eq_find? (p stop : α → Bool) (l : List α)
    (hopeless : l.Pairwise fun a b => stop a = true → p b = false) :
    findUntil p stop l = l.find? p := by
  induction l with
  | nil => rfl
  | cons a rest ih =>
      obtain ⟨behind, later⟩ := List.pairwise_cons.mp hopeless
      rw [findUntil, ih later]
      by_cases wanted : p a = true
      · rw [if_pos wanted, List.find?_cons_of_pos wanted]
      · rw [if_neg wanted, List.find?_cons_of_neg wanted]
        by_cases stopping : stop a = true
        · rw [if_pos stopping, eq_comm, List.find?_eq_none]
          intro b member
          simp [behind b member stopping]
        · rw [if_neg stopping]

variable [DecidableEq κ]

/-- Whether `b` may become the partner of `a` while the keys `used` are taken. -/
def mayPair (key : α → κ) (fits : α → α → Bool) (used : List κ) (a b : α) : Bool :=
  decide (key b ∉ used) && fits a b

/-- The pairs of the first-fit walk, in the order they are made. -/
def firstFit (key : α → κ) (fits : α → α → Bool) : List κ → List α → List (α × α)
  | _, [] => []
  | used, a :: rest =>
      if key a ∈ used then firstFit key fits used rest
      else
        match rest.find? (mayPair key fits used a) with
        | none => firstFit key fits used rest
        | some b => (a, b) :: firstFit key fits (key b :: key a :: used) rest

/-- The keys of the elements of a list of pairs. -/
def pairedKeys (key : α → κ) (pairs : List (α × α)) : List κ :=
  pairs.flatMap fun pair => [key pair.1, key pair.2]

omit [DecidableEq κ] in
@[simp] theorem pairedKeys_nil (key : α → κ) : pairedKeys key ([] : List (α × α)) = [] := rfl

omit [DecidableEq κ] in
@[simp] theorem pairedKeys_cons (key : α → κ) (a b : α) (pairs : List (α × α)) :
    pairedKeys key ((a, b) :: pairs) = key a :: key b :: pairedKeys key pairs := rfl

omit [DecidableEq κ] in
theorem mem_pairedKeys (key : α → κ) (k : κ) (pairs : List (α × α)) :
    k ∈ pairedKeys key pairs ↔ ∃ a b, (a, b) ∈ pairs ∧ (k = key a ∨ k = key b) := by
  simp [pairedKeys, Prod.exists]

variable {key : α → κ} {fits : α → α → Bool}

/-- The case of the walk in which the head finds a partner. -/
theorem partner_spec {used : List κ} {a b : α} {rest : List α}
    (found : rest.find? (mayPair key fits used a) = some b) :
    b ∈ rest ∧ key b ∉ used ∧ fits a b = true := by
  have allowed := List.find?_some found
  simp only [mayPair, Bool.and_eq_true, decide_eq_true_eq] at allowed
  exact ⟨List.mem_of_find?_eq_some found, allowed.1, allowed.2⟩

/-- The case of the walk in which the head finds none. -/
theorem no_partner_spec {used : List κ} {a : α} {rest : List α}
    (missing : rest.find? (mayPair key fits used a) = none) {b : α} (member : b ∈ rest)
    (free : key b ∉ used) : fits a b = false := by
  have refused := List.find?_eq_none.mp missing b member
  simpa [mayPair, free] using refused

/-- Every pair is made of two listed elements that were free, the first of which
precedes and fits the second. -/
theorem firstFit_sound {before : α → α → Prop} {l : List α} (ordered : l.Pairwise before) :
    ∀ {used : List κ} {a b : α}, (a, b) ∈ firstFit key fits used l →
      a ∈ l ∧ b ∈ l ∧ key a ∉ used ∧ key b ∉ used ∧ before a b ∧ fits a b = true := by
  induction l with
  | nil => simp [firstFit]
  | cons head rest ih =>
      intro used a b made
      obtain ⟨first, later⟩ := List.pairwise_cons.mp ordered
      have deeper : ∀ {used' : List κ}, (∀ k, k ∉ used' → k ∉ used) →
          (a, b) ∈ firstFit key fits used' rest → a ∈ head :: rest ∧ b ∈ head :: rest ∧
            key a ∉ used ∧ key b ∉ used ∧ before a b ∧ fits a b = true := by
        intro used' wider member
        obtain ⟨ha, hb, freeA, freeB, order, fit⟩ := ih later member
        exact ⟨List.mem_cons_of_mem _ ha, List.mem_cons_of_mem _ hb, wider _ freeA, wider _ freeB,
          order, fit⟩
      rw [firstFit] at made
      by_cases taken : key head ∈ used
      · rw [if_pos taken] at made
        exact deeper (fun _ free => free) made
      · rw [if_neg taken] at made
        cases found : rest.find? (mayPair key fits used head) with
        | none =>
            rw [found] at made
            exact deeper (fun _ free => free) made
        | some partner =>
            rw [found] at made
            rcases List.mem_cons.mp made with same | member
            · obtain ⟨rfl, rfl⟩ := Prod.mk.inj same
              obtain ⟨listed, free, fit⟩ := partner_spec found
              exact ⟨List.mem_cons_self, List.mem_cons_of_mem _ listed, taken, free,
                first _ listed, fit⟩
            · refine deeper (fun k free used => free ?_) member
              exact List.mem_cons_of_mem _ (List.mem_cons_of_mem _ used)

/-- The keys of paired elements are keys of the list that were free. -/
theorem pairedKeys_firstFit_free {before : α → α → Prop} {l : List α}
    (ordered : l.Pairwise before) {used : List κ} {k : κ}
    (paired : k ∈ pairedKeys key (firstFit key fits used l)) : k ∉ used ∧ k ∈ l.map key := by
  obtain ⟨a, b, made, which⟩ := (mem_pairedKeys key k _).mp paired
  obtain ⟨ha, hb, freeA, freeB, -, -⟩ := firstFit_sound ordered made
  rcases which with rfl | rfl
  · exact ⟨freeA, List.mem_map.mpr ⟨a, ha, rfl⟩⟩
  · exact ⟨freeB, List.mem_map.mpr ⟨b, hb, rfl⟩⟩

/-- Nobody is paired twice. -/
theorem pairedKeys_firstFit_nodup {l : List α} (distinct : (l.map key).Nodup) :
    ∀ used : List κ, (pairedKeys key (firstFit key fits used l)).Nodup := by
  have ordered : ∀ l : List α, l.Pairwise fun _ _ => True := fun l => by
    induction l <;> simp_all
  induction l with
  | nil => simp [firstFit]
  | cons head rest ih =>
      intro used
      obtain ⟨fresh, restDistinct⟩ := List.nodup_cons.mp distinct
      rw [firstFit]
      by_cases taken : key head ∈ used
      · rw [if_pos taken]
        exact ih restDistinct used
      · rw [if_neg taken]
        cases found : rest.find? (mayPair key fits used head) with
        | none => exact ih restDistinct used
        | some partner =>
            obtain ⟨listed, -, -⟩ := partner_spec found
            have different : key head ≠ key partner := fun same =>
              fresh (same ▸ List.mem_map.mpr ⟨partner, listed, rfl⟩)
            simp only [pairedKeys_cons, List.nodup_cons, List.mem_cons, not_or]
            refine ⟨⟨different, ?_⟩, ?_, ih restDistinct _⟩
            · intro again
              exact (pairedKeys_firstFit_free (ordered rest) again).1 (by simp)
            · intro again
              exact (pairedKeys_firstFit_free (ordered rest) again).1 (by simp)

/-- Of two elements left over the earlier one does not fit the later one. -/
theorem firstFit_maximal {before : α → α → Prop} {l : List α} (ordered : l.Pairwise before)
    (asymmetric : ∀ a b, before a b → ¬ before b a) :
    ∀ {used : List κ} {a b : α}, a ∈ l → b ∈ l → before a b → key a ∉ used → key b ∉ used →
      key a ∉ pairedKeys key (firstFit key fits used l) →
      key b ∉ pairedKeys key (firstFit key fits used l) → fits a b = false := by
  induction l with
  | nil => simp
  | cons head rest ih =>
      intro used a b memberA memberB order freeA freeB leftA leftB
      obtain ⟨first, later⟩ := List.pairwise_cons.mp ordered
      have inRest : b ∈ rest := by
        rcases List.mem_cons.mp memberB with rfl | member
        · rcases List.mem_cons.mp memberA with rfl | member
          · exact absurd order (asymmetric _ _ order)
          · exact absurd order (asymmetric _ _ (first a member))
        · exact member
      rw [firstFit] at leftA leftB
      by_cases taken : key head ∈ used
      · rw [if_pos taken] at leftA leftB
        rcases List.mem_cons.mp memberA with rfl | member
        · exact absurd taken freeA
        · exact ih later member inRest order freeA freeB leftA leftB
      · rw [if_neg taken] at leftA leftB
        cases found : rest.find? (mayPair key fits used head) with
        | none =>
            rw [found] at leftA leftB
            rcases List.mem_cons.mp memberA with rfl | member
            · exact no_partner_spec found inRest freeB
            · exact ih later member inRest order freeA freeB leftA leftB
        | some partner =>
            simp only [found, pairedKeys_cons, List.mem_cons, not_or] at leftA leftB
            obtain ⟨notHeadA, notPartnerA, leftA⟩ := leftA
            obtain ⟨notHeadB, notPartnerB, leftB⟩ := leftB
            rcases List.mem_cons.mp memberA with rfl | member
            · exact absurd rfl notHeadA
            · exact ih later member inRest order (by simp [*]) (by simp [*]) leftA leftB

omit [DecidableEq κ] in
/-- Two elements of an ordered list are the same or come in one of two orders. -/
theorem ordered_total {before : α → α → Prop} {l : List α} (ordered : l.Pairwise before) {a b : α}
    (memberA : a ∈ l) (memberB : b ∈ l) : a = b ∨ before a b ∨ before b a := by
  induction l with
  | nil => cases memberA
  | cons head rest ih =>
      obtain ⟨first, later⟩ := List.pairwise_cons.mp ordered
      rcases List.mem_cons.mp memberA with rfl | inRestA
      · rcases List.mem_cons.mp memberB with rfl | inRestB
        · exact Or.inl rfl
        · exact Or.inr (Or.inl (first b inRestB))
      · rcases List.mem_cons.mp memberB with rfl | inRestB
        · exact Or.inr (Or.inr (first a inRestA))
        · exact ih later inRestA inRestB

/-- No two elements left over fit each other. -/
theorem firstFit_left_apart {before : α → α → Prop} {l : List α} (ordered : l.Pairwise before)
    (asymmetric : ∀ a b, before a b → ¬ before b a) (symmetric : ∀ a b, fits a b = fits b a)
    {used : List κ} {a b : α} (memberA : a ∈ l) (memberB : b ∈ l) (distinct : a ≠ b)
    (freeA : key a ∉ used) (freeB : key b ∉ used)
    (leftA : key a ∉ pairedKeys key (firstFit key fits used l))
    (leftB : key b ∉ pairedKeys key (firstFit key fits used l)) : fits a b = false := by
  rcases ordered_total ordered memberA memberB with same | order | order
  · exact absurd same distinct
  · exact firstFit_maximal ordered asymmetric memberA memberB order freeA freeB leftA leftB
  · rw [symmetric]
    exact firstFit_maximal ordered asymmetric memberB memberA order freeB freeA leftB leftA

/-- An element left over does not fit the members of a pair made behind it. -/
theorem firstFit_left_before {before : α → α → Prop} {l : List α} (ordered : l.Pairwise before)
    (asymmetric : ∀ a b, before a b → ¬ before b a) :
    ∀ {used : List κ} {a b r : α}, (a, b) ∈ firstFit key fits used l → r ∈ l → before r a →
      key r ∉ used → key r ∉ pairedKeys key (firstFit key fits used l) →
      fits r a = false ∧ fits r b = false := by
  induction l with
  | nil => simp
  | cons head rest ih =>
      intro used a b r made member order free left
      obtain ⟨first, later⟩ := List.pairwise_cons.mp ordered
      rw [firstFit] at made left
      by_cases taken : key head ∈ used
      · rw [if_pos taken] at made left
        rcases List.mem_cons.mp member with rfl | member
        · exact absurd taken free
        · exact ih later made member order free left
      · rw [if_neg taken] at made left
        cases found : rest.find? (mayPair key fits used head) with
        | none =>
            rw [found] at made left
            rcases List.mem_cons.mp member with rfl | member
            · obtain ⟨ha, hb, freeA, freeB, -, -⟩ := firstFit_sound later made
              exact ⟨no_partner_spec found ha freeA, no_partner_spec found hb freeB⟩
            · exact ih later made member order free left
        | some partner =>
            simp only [found, pairedKeys_cons, List.mem_cons, not_or] at made left
            obtain ⟨notHead, notPartner, left⟩ := left
            rcases List.mem_cons.mp member with rfl | inRest
            · exact absurd rfl notHead
            · rcases made with same | made
              · obtain ⟨rfl, rfl⟩ := Prod.mk.inj same
                exact absurd order (asymmetric _ _ (first r inRest))
              · exact ih later made inRest order (by simp [*]) left

/-- The first member of a pair does not fit an element left over between the two. -/
theorem firstFit_left_between {before : α → α → Prop} {l : List α} (ordered : l.Pairwise before)
    (asymmetric : ∀ a b, before a b → ¬ before b a) :
    ∀ {used : List κ} {a b r : α}, (a, b) ∈ firstFit key fits used l → r ∈ l → before a r →
      before r b → key r ∉ used → key r ∉ pairedKeys key (firstFit key fits used l) →
      fits a r = false := by
  induction l with
  | nil => simp
  | cons head rest ih =>
      intro used a b r made member order order' free left
      obtain ⟨first, later⟩ := List.pairwise_cons.mp ordered
      rw [firstFit] at made left
      have behind : ∀ {used' : List κ}, (a, b) ∈ firstFit key fits used' rest → r ∈ rest := by
        intro used' deeper
        rcases List.mem_cons.mp member with rfl | inRest
        · exact absurd order (asymmetric _ _ (first a (firstFit_sound later deeper).1))
        · exact inRest
      by_cases taken : key head ∈ used
      · rw [if_pos taken] at made left
        exact ih later made (behind made) order order' free left
      · rw [if_neg taken] at made left
        cases found : rest.find? (mayPair key fits used head) with
        | none =>
            rw [found] at made left
            exact ih later made (behind made) order order' free left
        | some partner =>
            simp only [found, pairedKeys_cons, List.mem_cons, not_or] at made left
            obtain ⟨notHead, notPartner, left⟩ := left
            rcases made with same | made
            · obtain ⟨rfl, rfl⟩ := Prod.mk.inj same
              have inRest : r ∈ rest := by
                rcases List.mem_cons.mp member with rfl | member
                · exact absurd order (asymmetric _ _ order)
                · exact member
              -- the search passed over everything in front of the partner it found
              obtain ⟨-, passed, tail, split, refused⟩ := List.find?_eq_some_iff_append.mp found
              have inFront : r ∈ passed := by
                rw [split] at inRest later
                rcases List.mem_append.mp inRest with inFront | behindPartner
                · exact inFront
                · have tailOrdered := (List.pairwise_append.mp later).2.1
                  rcases List.mem_cons.mp behindPartner with rfl | inTail
                  · exact absurd order' (asymmetric _ _ order')
                  · exact absurd order'
                      (asymmetric _ _ ((List.pairwise_cons.mp tailOrdered).1 r inTail))
              simpa [mayPair, free] using refused r inFront
            · exact ih later made (behind made) order order' (by simp [*]) left

/-- An element left over that fits a member of a pair comes behind the other member. -/
theorem firstFit_left_behind {before : α → α → Prop} {l : List α} (ordered : l.Pairwise before)
    (asymmetric : ∀ a b, before a b → ¬ before b a) (symmetric : ∀ a b, fits a b = fits b a)
    {used : List κ} {a b r : α} (made : (a, b) ∈ firstFit key fits used l) (member : r ∈ l)
    (free : key r ∉ used) (left : key r ∉ pairedKeys key (firstFit key fits used l)) :
    ¬ (fits r a = true ∧ before r b) ∧ ¬ (fits r b = true ∧ before r a) := by
  have paired := (mem_pairedKeys key · (firstFit key fits used l))
  obtain ⟨memberA, -⟩ := firstFit_sound ordered made
  have notA : r ≠ a := fun same => left ((paired _).mpr ⟨a, b, made, Or.inl (by rw [same])⟩)
  constructor
  · rintro ⟨fit, order⟩
    rcases ordered_total ordered member memberA with same | ahead | behind
    · exact notA same
    · have refused := (firstFit_left_before ordered asymmetric made member ahead free left).1
      rw [refused] at fit
      cases fit
    · have refused := firstFit_left_between ordered asymmetric made member behind order free left
      rw [symmetric, refused] at fit
      cases fit
  · rintro ⟨fit, order⟩
    have refused := (firstFit_left_before ordered asymmetric made member order free left).2
    rw [refused] at fit
    cases fit

/-- Nothing is paired among elements no two of which fit. -/
theorem firstFit_eq_nil {l : List α} (refused : l.Pairwise fun a b => fits a b = false) :
    ∀ used : List κ, firstFit key fits used l = [] := by
  induction l with
  | nil => simp [firstFit]
  | cons head rest ih =>
      intro used
      obtain ⟨none, later⟩ := List.pairwise_cons.mp refused
      have missing : rest.find? (mayPair key fits used head) = .none := by
        rw [List.find?_eq_none]
        intro b member
        simp [mayPair, none b member]
      rw [firstFit, missing, ih later]
      simp

/-- The elements of a list taken two at a time. -/
def twoByTwo : List α → List (α × α)
  | a :: b :: rest => (a, b) :: twoByTwo rest
  | _ => []

/-- What is left of the free elements when the first two are taken. -/
theorem filter_taken {good : α → Bool} {used : List κ} {head partner : α} {rest tail : List α}
    (distinct : ((head :: rest).map key).Nodup)
    (others : (rest.filter fun a => decide (key a ∉ used) && good a) = partner :: tail) :
    (rest.filter fun a => decide (key a ∉ key partner :: key head :: used) && good a) = tail := by
  obtain ⟨fresh, restDistinct⟩ := List.nodup_cons.mp distinct
  have sublist : (partner :: tail).Sublist rest := by
    rw [← others]
    exact List.filter_sublist
  obtain ⟨apart, -⟩ := List.nodup_cons.mp ((sublist.map key).nodup restDistinct)
  have split : (fun a => decide (key a ∉ key partner :: key head :: used) && good a) =
      fun a => decide (key a ≠ key partner ∧ key a ≠ key head) && (decide (key a ∉ used) && good a) := by
    funext a
    rw [← Bool.and_assoc, ← Bool.decide_and]
    congr 1
    rw [decide_eq_decide, List.mem_cons, List.mem_cons]
    tauto
  rw [split, ← List.filter_filter, others, List.filter_cons_of_neg (by simp), List.filter_eq_self]
  intro a member
  have listed : a ∈ rest := sublist.subset (List.mem_cons_of_mem _ member)
  rw [decide_eq_true_iff]
  constructor
  · intro same
    exact apart (same ▸ List.mem_map_of_mem member)
  · intro same
    exact fresh (same ▸ List.mem_map_of_mem listed)

/-- If it depends on each of two elements alone whether they fit, the walk takes the free ones that
do two at a time. -/
theorem firstFit_eq_twoByTwo {good : α → Bool} {l : List α} (distinct : (l.map key).Nodup)
    (alone : ∀ a ∈ l, ∀ b ∈ l, fits a b = (good a && good b)) :
    ∀ used : List κ, firstFit key fits used l =
      twoByTwo (l.filter fun a => decide (key a ∉ used) && good a) := by
  induction l with
  | nil => exact fun _ => rfl
  | cons head rest ih =>
      intro used
      obtain ⟨fresh, restDistinct⟩ := List.nodup_cons.mp distinct
      have restAlone : ∀ a ∈ rest, ∀ b ∈ rest, fits a b = (good a && good b) := fun a ha b hb =>
        alone a (List.mem_cons_of_mem _ ha) b (List.mem_cons_of_mem _ hb)
      have later := ih restDistinct restAlone
      rw [firstFit]
      by_cases taken : key head ∈ used
      · rw [if_pos taken, later, List.filter_cons_of_neg (by simp [taken])]
      · rw [if_neg taken]
        have wanted : rest.find? (mayPair key fits used head) =
            if good head then (rest.filter fun a => decide (key a ∉ used) && good a).head? else none := by
          have same : rest.filter (mayPair key fits used head) =
              if good head then rest.filter fun a => decide (key a ∉ used) && good a else [] := by
            cases proper : good head with
            | true =>
                rw [if_pos rfl]
                refine List.filter_congr fun a member => ?_
                rw [mayPair, alone head List.mem_cons_self a (List.mem_cons_of_mem _ member), proper,
                  Bool.true_and]
            | false =>
                rw [if_neg Bool.false_ne_true, List.filter_eq_nil_iff]
                intro a member
                rw [mayPair, alone head List.mem_cons_self a (List.mem_cons_of_mem _ member), proper]
                simp
          rw [← List.head?_filter, same]
          cases good head <;> rfl
        rw [wanted]
        cases proper : good head with
        | false =>
            rw [if_neg Bool.false_ne_true, List.filter_cons_of_neg (by simp [proper])]
            exact later used
        | true =>
            rw [if_pos rfl, List.filter_cons_of_pos (by simp [proper, taken])]
            cases others : rest.filter fun a => decide (key a ∉ used) && good a with
            | nil =>
                rw [List.head?_nil]
                dsimp only
                rw [later, others]
                rfl
            | cons partner tail =>
                rw [List.head?_cons]
                dsimp only
                rw [later, twoByTwo]
                rw [filter_taken distinct others]
end Arena60.Misc
