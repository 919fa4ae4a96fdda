import Mathlib.Data.List.Perm.Basic

/-!
# Lists up to exchanging independent neighbours

Two lists are shuffles of each other when one becomes the other by exchanging neighbours
that are independent, elements being compared by a relation of their own. A fold cannot
tell them apart, up to a relation of its states, when one step respects both relations and
two steps with independent elements commute.
-/

namespace Arena60.Misc

universe u v

variable {α : Type u} {β : Type v}

/-- Lists that differ by exchanges of independent neighbours, element by element up to `same`. -/
inductive Shuffle (same indep : α → α → Prop) : List α → List α → Prop
  | nil : Shuffle same indep [] []
  | cons {a a' : α} {l l' : List α} :
      same a a' → Shuffle same indep l l' → Shuffle same indep (a :: l) (a' :: l')
  | swap {a b : α} (l : List α) : indep a b → Shuffle same indep (a :: b :: l) (b :: a :: l)
  | trans {l l' l'' : List α} :
      Shuffle same indep l l' → Shuffle same indep l' l'' → Shuffle same indep l l''

namespace Shuffle

variable {same indep : α → α → Prop}

theorem refl (self : ∀ a, same a a) (l : List α) : Shuffle same indep l l := by
  induction l with
  | nil => exact .nil
  | cons a l ih => exact .cons (self a) ih

theorem symm (alike : ∀ a a', same a a' → same a' a) (free : ∀ a b, indep a b → indep b a)
    {l l' : List α} (shuffle : Shuffle same indep l l') : Shuffle same indep l' l := by
  induction shuffle with
  | nil => exact .nil
  | cons pair _ ih => exact .cons (alike _ _ pair) ih
  | swap l pair => exact .swap l (free _ _ pair)
  | trans _ _ ih ih' => exact ih'.trans ih

theorem append_right (self : ∀ a, same a a) {l l' : List α} (shuffle : Shuffle same indep l l')
    (k : List α) : Shuffle same indep (l ++ k) (l' ++ k) := by
  induction shuffle with
  | nil => exact refl self k
  | cons alike _ ih => exact .cons alike ih
  | swap l free => exact .swap (l ++ k) free
  | trans _ _ ih ih' => exact ih.trans ih'

theorem append_left (self : ∀ a, same a a) (k : List α) {l l' : List α}
    (shuffle : Shuffle same indep l l') : Shuffle same indep (k ++ l) (k ++ l') := by
  induction k with
  | nil => exact shuffle
  | cons a k ih => exact .cons (self a) ih

theorem append (self : ∀ a, same a a) {l l' k k' : List α} (shuffle : Shuffle same indep l l')
    (shuffle' : Shuffle same indep k k') : Shuffle same indep (l ++ k) (l' ++ k') :=
  (append_right self shuffle k).trans (append_left self l' shuffle')

/-- An element moves past a list of elements it is independent of. -/
theorem pass (self : ∀ a, same a a) (a : α) (k : List α) (free : ∀ b ∈ k, indep a b) :
    Shuffle same indep (a :: k) (k ++ [a]) := by
  induction k with
  | nil => exact refl self [a]
  | cons b k ih =>
      have later := ih fun c member => free c (List.mem_cons_of_mem b member)
      exact (Shuffle.swap k (free b List.mem_cons_self)).trans (.cons (self b) later)

/-- Two lists change places when every element of one is independent of every one of the other. -/
theorem exchange (self : ∀ a, same a a) (l k : List α) (free : ∀ a ∈ l, ∀ b ∈ k, indep a b) :
    Shuffle same indep (l ++ k) (k ++ l) := by
  induction l with
  | nil =>
      rw [List.append_nil]
      exact refl self k
  | cons a l ih =>
      have rest := ih fun c member => free c (List.mem_cons_of_mem a member)
      have first := append_right self (pass self a k (free a List.mem_cons_self)) l
      rw [List.append_assoc] at first
      exact (Shuffle.cons (self a) rest).trans first

theorem map {same' indep' : β → β → Prop} (f : α → β) (alike : ∀ a a', same a a' → same' (f a) (f a'))
    (free : ∀ a b, indep a b → indep' (f a) (f b)) {l l' : List α}
    (shuffle : Shuffle same indep l l') : Shuffle same' indep' (l.map f) (l'.map f) := by
  induction shuffle with
  | nil => exact .nil
  | cons pair _ ih => exact .cons (alike _ _ pair) ih
  | swap l pair => exact .swap (l.map f) (free _ _ pair)
  | trans _ _ ih ih' => exact ih.trans ih'

theorem filter (self : ∀ a, same a a) (p : α → Bool) (alike : ∀ a a', same a a' → p a = p a')
    {l l' : List α} (shuffle : Shuffle same indep l l') :
    Shuffle same indep (l.filter p) (l'.filter p) := by
  induction shuffle with
  | nil => exact .nil
  | @cons a a' l l' pair _ ih =>
      rw [List.filter_cons, List.filter_cons, alike a a' pair]
      split
      · exact .cons pair ih
      · exact ih
  | @swap a b l pair =>
      cases first : p a with
      | false =>
          cases second : p b with
          | false => simpa [first, second] using refl self _
          | true => simpa [first, second] using refl self _
      | true =>
          cases second : p b with
          | false => simpa [first, second] using refl self _
          | true => simpa [first, second] using Shuffle.swap (l.filter p) pair
  | trans _ _ ih ih' => exact ih.trans ih'

/-- What `same` does not distinguish is permuted. -/
theorem perm (f : α → β) (alike : ∀ a a', same a a' → f a = f a') {l l' : List α}
    (shuffle : Shuffle same indep l l') : (l.map f).Perm (l'.map f) := by
  induction shuffle with
  | nil => exact .nil
  | cons pair _ ih =>
      rw [List.map_cons, List.map_cons, alike _ _ pair]
      exact ih.cons _
  | swap l pair => exact .swap _ _ _
  | trans _ _ ih ih' => exact ih.trans ih'

/-- The rule for folds. -/
theorem foldl {σ : Type v} (rel : σ → σ → Prop) (step : σ → α → σ) (self : ∀ a, same a a)
    (symm : ∀ {s s'}, rel s s' → rel s' s) (trans : ∀ {s s' s''}, rel s s' → rel s' s'' → rel s s'')
    (respects : ∀ {s s' a a'}, rel s s' → same a a' → rel (step s a) (step s' a'))
    (commutes : ∀ {s a b}, rel s s → indep a b → rel (step (step s a) b) (step (step s b) a))
    {l l' : List α} (shuffle : Shuffle same indep l l') :
    ∀ {s s'}, rel s s' → rel (l.foldl step s) (l'.foldl step s') := by
  have keeps : ∀ (l : List α) {s s'}, rel s s' → rel (l.foldl step s) (l.foldl step s') := by
    intro l
    induction l with
    | nil => exact id
    | cons a l ih => exact fun related => ih (respects related (self a))
  induction shuffle with
  | nil => exact id
  | cons pair _ ih => exact fun related => ih (respects related pair)
  | swap l pair =>
      intro s s' related
      apply keeps l
      have start := trans related (symm related)
      exact trans (commutes start pair) (respects (respects related (self _)) (self _))
  | trans _ _ ih ih' =>
      intro s s' related
      exact trans (ih related) (ih' (trans (symm related) related))

end Shuffle

end Arena60.Misc
