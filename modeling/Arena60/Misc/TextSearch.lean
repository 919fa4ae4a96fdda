import Mathlib.Data.List.Basic

/-!
# Searching texts

The first occurrence of a pattern in a text, and texts that consist of parts with a separator
between them.
-/

namespace Arena60.Misc

universe u

variable {α : Type u} [DecidableEq α]

/-- What follows the first occurrence of a pattern in a text. -/
def afterFirst (pattern : List α) : List α → Option (List α)
  | [] => if pattern = [] then some [] else none
  | c :: rest =>
      if pattern.isPrefixOf (c :: rest) then some ((c :: rest).drop pattern.length)
      else afterFirst pattern rest

theorem afterFirst_here (pattern rest : List α) : afterFirst pattern (pattern ++ rest) = some rest := by
  cases pattern with
  | nil => cases rest <;> simp [afterFirst]
  | cons c pattern =>
      have here : (c :: pattern).isPrefixOf (c :: (pattern ++ rest)) = true :=
        List.isPrefixOf_iff_prefix.mpr ⟨rest, rfl⟩
      rw [List.cons_append, afterFirst, if_pos here]
      simp

omit [DecidableEq α] in
/-- A pattern without the separator does not reach across one. -/
theorem prefix_append_separator {separator : α} {pattern : List α} (free : separator ∉ pattern)
    (first rest : List α) : pattern <+: first ++ separator :: rest ↔ pattern <+: first := by
  constructor
  · intro here
    rcases List.prefix_or_prefix_of_prefix here (List.prefix_append first _) with inside | across
    · exact inside
    · obtain ⟨tail, rfl⟩ := across
      have reach := (List.prefix_append_right_inj first).mp here
      cases tail with
      | nil => simp
      | cons c tail =>
          obtain ⟨rfl, -⟩ := List.cons_prefix_cons.mp reach
          exact absurd (List.mem_append_right first List.mem_cons_self) free
  · intro here
    exact here.trans (List.prefix_append first _)

/-- The first part with an occurrence decides. -/
theorem afterFirst_append_separator {separator : α} {pattern : List α} (free : separator ∉ pattern)
    (some : pattern ≠ []) (first rest : List α) :
    afterFirst pattern (first ++ separator :: rest) =
      ((afterFirst pattern first).map (· ++ separator :: rest)).or (afterFirst pattern rest) := by
  induction first with
  | nil =>
      have missed : ¬pattern.isPrefixOf (separator :: rest) = true := by
        rw [List.isPrefixOf_iff_prefix]
        intro here
        exact some (List.prefix_nil.mp ((prefix_append_separator free [] rest).mp here))
      have skipped : afterFirst pattern (separator :: rest) = afterFirst pattern rest := by
        rw [afterFirst, if_neg missed]
      rw [List.nil_append, skipped, afterFirst, if_neg some]
      rfl
  | cons c first ih =>
      have reach : pattern.isPrefixOf (c :: first ++ separator :: rest) = true ↔
          pattern.isPrefixOf (c :: first) = true := by
        rw [List.isPrefixOf_iff_prefix, List.isPrefixOf_iff_prefix, prefix_append_separator free]
      rw [List.cons_append] at reach ⊢
      rw [afterFirst, afterFirst]
      by_cases here : pattern.isPrefixOf (c :: first) = true
      · rw [if_pos (reach.mpr here), if_pos here]
        obtain ⟨tail, same⟩ := List.isPrefixOf_iff_prefix.mp here
        rw [← List.cons_append, ← same, List.append_assoc, List.drop_left, List.drop_left]
        rfl
      · rw [if_neg (fun found => here (reach.mp found)), if_neg here]
        exact ih

/-- A text has no separator, or it is a part, a separator and a text. -/
theorem splitOn_induction (separator : α) {motive : List α → Prop}
    (single : ∀ text, separator ∉ text → motive text)
    (parts : ∀ first rest, separator ∉ first → motive rest → motive (first ++ separator :: rest))
    (text : List α) : motive text := by
  induction length : text.length using Nat.strongRecOn generalizing text with
  | ind n ih =>
      by_cases member : separator ∈ text
      · obtain ⟨first, rest, rfl, fresh⟩ := List.eq_append_cons_of_mem member
        refine parts first rest fresh (ih rest.length ?_ rest rfl)
        rw [← length, List.length_append, List.length_cons]
        omega
      · exact single text member

omit [DecidableEq α] in
/-- A run of characters ends where a part ends. -/
theorem takeWhile_append_stop {p : α → Bool} {stop : α} (stops : p stop = false) (first rest : List α) :
    (first ++ stop :: rest).takeWhile p = first.takeWhile p := by
  induction first with
  | nil => simp [stops]
  | cons c first ih => simp [List.takeWhile_cons, ih]

omit [DecidableEq α] in
/-- A run of characters is taken whole in front of what does not continue it. -/
theorem takeWhile_append_run {p : α → Bool} {run rest : List α} (all : ∀ c ∈ run, p c = true)
    (stops : ∀ c ∈ rest.head?, p c = false) :
    (run ++ rest).takeWhile p = run ∧ (run ++ rest).dropWhile p = rest := by
  rw [List.takeWhile_append_of_pos all, List.dropWhile_append_of_pos all]
  cases rest with
  | nil => simp
  | cons c rest => simp [stops c rfl]

omit [DecidableEq α] in
/-- What is left after a run does not continue it. -/
theorem head?_dropWhile_stops {p : α → Bool} {text : List α} {c : α}
    (first : (text.dropWhile p).head? = some c) : p c = false := by
  have stopped := List.head?_dropWhile_not p text
  rw [first] at stopped
  exact stopped

end Arena60.Misc
