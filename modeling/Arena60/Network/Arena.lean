import Arena60.Misc.Refinement
import Mathlib.Data.Fin.Basic
import Mathlib.Logic.Function.Basic

/-!
# The arena

What the game server is for, without connections, threads, maps, projectiles or clocks: players come and go,
wait until they are paired, hit each other, and fall; each fall is a duel won and a duel lost. The events say
when they may happen.
-/

namespace Arena60

open Misc

universe u

/-- How many hits a player falls of, how a newcomer is rated, and what a duel makes of the ratings of the
winner and the loser. -/
structure ArenaRules where
  hitsToFall : Nat
  positive : 0 < hitsToFall
  newcomer : Int
  rate : Int → Int → Int × Int

/-- How somebody in the arena is. Whoever is struck has taken the last hit and falls of it. -/
inductive Condition (rules : ArenaRules) where
  | standing (wounds : Fin rules.hitsToFall)
  | struck
  | fallen
  deriving DecidableEq

/-- The duels of a player. -/
@[ext] structure DuelRecord where
  wins : Nat
  losses : Nat
  rating : Int
  deriving DecidableEq

/-- Who is in the arena, who waits for an opponent, and what duels there were. -/
@[ext] structure Arena (rules : ArenaRules) (P : Type u) where
  conditions : P → Option (Condition rules)
  waiting : P → Bool
  records : P → DuelRecord

inductive ArenaEvent (P : Type u) where
  | enters (player : P)
  | leaves (player : P)
  | paired (player opponent : P)
  | hits (shooter target : P)
  | falls (target victor : P)
  deriving DecidableEq

section events

variable {P : Type u} [DecidableEq P]

/-- The player is hit. -/
def ArenaEvent.isHitOn (player : P) : ArenaEvent P → Bool
  | hits _ target => target = player
  | _ => false

/-- The player falls. -/
def ArenaEvent.isFallOf (player : P) : ArenaEvent P → Bool
  | falls target _ => target = player
  | _ => false

/-- Another player falls to the player. -/
def ArenaEvent.isWinOf (player : P) : ArenaEvent P → Bool
  | falls _ victor => victor = player
  | _ => false

end events

/-- The winner and the loser of a duel that ends. -/
def ArenaEvent.duel? {P : Type u} : ArenaEvent P → Option (P × P)
  | falls target victor => some (victor, target)
  | _ => none

variable {rules : ArenaRules} {P : Type u} [DecidableEq P]

/-- Nobody is hurt yet. -/
def Condition.unhurt : Condition rules := .standing ⟨0, rules.positive⟩

/-- One more hit. -/
def Condition.strike : Condition rules → Condition rules
  | standing wounds =>
      if more : wounds.val + 1 < rules.hitsToFall then .standing ⟨wounds.val + 1, more⟩ else .struck
  | other => other

theorem Condition.strike_more {wounds : Fin rules.hitsToFall} (more : wounds.val + 1 < rules.hitsToFall) :
    (Condition.standing wounds).strike = .standing ⟨wounds.val + 1, more⟩ := dif_pos more

theorem Condition.strike_last {wounds : Fin rules.hitsToFall} (last : wounds.val + 1 = rules.hitsToFall) :
    (Condition.standing wounds).strike = .struck := dif_neg (by omega)

/-- The records after a duel of two players. -/
def settleDuel (rules : ArenaRules) (records : P → DuelRecord) (duel : P × P) : P → DuelRecord :=
  let winner := records duel.1
  let loser := records duel.2
  let rated := rules.rate winner.rating loser.rating
  Function.update (Function.update records duel.1 { winner with wins := winner.wins + 1, rating := rated.1 }) duel.2
    { loser with losses := loser.losses + 1, rating := rated.2 }

namespace Arena

/-- Nobody has come yet. -/
def empty : Arena rules P where
  conditions _ := none
  waiting _ := false
  records _ := ⟨0, 0, rules.newcomer⟩

/-- When an event may happen. -/
def Allows (arena : Arena rules P) : ArenaEvent P → Prop
  | .enters player => arena.conditions player = none
  | .leaves player => arena.conditions player ≠ none
  | .paired player opponent => player ≠ opponent ∧ arena.waiting player = true ∧ arena.waiting opponent = true
  | .hits shooter target => shooter ≠ target ∧ arena.conditions shooter ≠ none ∧
      ∃ wounds, arena.conditions target = some (.standing wounds)
  | .falls target victor => victor ≠ target ∧ arena.conditions victor ≠ none ∧
      arena.conditions target = some .struck

instance (arena : Arena rules P) : (event : ArenaEvent P) → Decidable (arena.Allows event)
  | .enters player => inferInstanceAs (Decidable (arena.conditions player = none))
  | .leaves player => inferInstanceAs (Decidable (arena.conditions player ≠ none))
  | .paired player opponent => inferInstanceAs (Decidable (player ≠ opponent ∧ _ ∧ _))
  | .hits shooter target => inferInstanceAs (Decidable (shooter ≠ target ∧ arena.conditions shooter ≠ none ∧
      ∃ wounds, arena.conditions target = some (.standing wounds)))
  | .falls target victor => inferInstanceAs (Decidable (victor ≠ target ∧ _ ∧ _))

/-- What an event does. -/
def after (arena : Arena rules P) : ArenaEvent P → Arena rules P
  | .enters player =>
      { arena with
        conditions := Function.update arena.conditions player (some .unhurt)
        waiting := Function.update arena.waiting player true }
  | .leaves player =>
      { arena with
        conditions := Function.update arena.conditions player none
        waiting := Function.update arena.waiting player false }
  | .paired player opponent =>
      { arena with waiting := Function.update (Function.update arena.waiting player false) opponent false }
  | .hits _ target =>
      { arena with
        conditions := Function.update arena.conditions target ((arena.conditions target).map .strike) }
  | .falls target victor =>
      { arena with
        conditions := Function.update arena.conditions target (some .fallen)
        records := settleDuel rules arena.records (victor, target) }

/-- Some players wait no longer. -/
def dismiss (arena : Arena rules P) (gone : List P) : Arena rules P :=
  { arena with waiting := fun player => if player ∈ gone then false else arena.waiting player }

/-- Let an event happen. -/
def perform (event : ArenaEvent P) (arena : Arena rules P) : Option (List (ArenaEvent P) × Arena rules P) :=
  if arena.Allows event then some ([event], arena.after event) else none

/-- Nobody has come yet. -/
def Initial (arena : Arena rules P) : Prop := arena = .empty

/-- The runs of an arena. -/
abbrev Runs (events : List (ArenaEvent P)) (arena : Arena rules P) : Prop := Run Initial (StepOf perform) events arena

variable {arena arena' : Arena rules P} {events : List (ArenaEvent P)}

theorem step_iff : StepOf perform arena events arena' ↔
    ∃ event, arena.Allows event ∧ events = [event] ∧ arena' = arena.after event := by
  constructor
  · rintro ⟨event, performed⟩
    unfold perform at performed
    split at performed
    · next allowed =>
        cases performed
        exact ⟨event, allowed, rfl, rfl⟩
    · cases performed
  · rintro ⟨event, allowed, rfl, rfl⟩
    exact ⟨event, if_pos allowed⟩

/-- An event that may happen. -/
theorem step (event : ArenaEvent P) (allowed : arena.Allows event) (reached : arena.after event = arena') :
    Steps (StepOf perform) arena [event] arena' :=
  .single (step_iff.mpr ⟨event, allowed, rfl, reached.symm⟩)

theorem dismiss_nil (arena : Arena rules P) : arena.dismiss [] = arena := by
  simp only [dismiss, List.not_mem_nil, if_false]

theorem dismiss_paired (arena : Arena rules P) (player opponent : P) (gone : List P) :
    (arena.after (.paired player opponent)).dismiss gone = arena.dismiss ([player, opponent] ++ gone) := by
  refine Arena.ext rfl (funext fun other => ?_) rfl
  by_cases gone' : other ∈ gone
  · simp [dismiss, gone']
  · by_cases second : other = opponent
    · simp [dismiss, after, second]
    · by_cases first : other = player
      · simp [dismiss, after, first, Function.update_apply]
      · simp [dismiss, after, first, second, gone']

/-- The hits that count towards the next fall. -/
def toll (arena : Arena rules P) (player : P) : Nat :=
  match arena.conditions player with
  | some (.standing wounds) => wounds.val
  | some .struck => rules.hitsToFall
  | _ => 0

/-- The books of a player: its record is the duels it won and lost, it paid for each fall with its hits, and it
waits in the arena only. -/
structure Books (events : List (ArenaEvent P)) (arena : Arena rules P) (player : P) : Prop where
  wins : (arena.records player).wins = events.countP (ArenaEvent.isWinOf player)
  losses : (arena.records player).losses = events.countP (ArenaEvent.isFallOf player)
  paid : rules.hitsToFall * events.countP (ArenaEvent.isFallOf player) + arena.toll player ≤
    events.countP (ArenaEvent.isHitOn player)
  present : arena.waiting player = true → arena.conditions player ≠ none

/-- An event that is about others. -/
theorem Books.other {player : P} (books : Books events arena player) {event : ArenaEvent P}
    (conditions : (arena.after event).conditions player = arena.conditions player)
    (waiting : (arena.after event).waiting player = true → arena.waiting player = true)
    (records : (arena.after event).records player = arena.records player)
    (quiet : event.isHitOn player = false ∧ event.isFallOf player = false ∧ event.isWinOf player = false) :
    Books (event :: events) (arena.after event) player := by
  obtain ⟨noHit, noFall, noWin⟩ := quiet
  have same : (arena.after event).toll player = arena.toll player := by rw [toll, conditions, ← toll]
  constructor
  · rw [records, List.countP_cons_of_neg (by simp [noWin])]
    exact books.wins
  · rw [records, List.countP_cons_of_neg (by simp [noFall])]
    exact books.losses
  · rw [same, List.countP_cons_of_neg (by simp [noFall]), List.countP_cons_of_neg (by simp [noHit])]
    exact books.paid
  · rw [conditions]
    exact fun waits => books.present (waiting waits)

theorem Books.enters {player : P} (books : Books events arena player) :
    Books (.enters player :: events) (arena.after (.enters player)) player := by
  have paid := books.paid
  refine ⟨books.wins, books.losses, ?_, ?_⟩
  · have unhurt : (arena.after (.enters player)).toll player = 0 := by simp [toll, after, Condition.unhurt]
    rw [unhurt]
    change _ * events.countP _ + 0 ≤ events.countP _
    omega
  · intro _
    simp [after]

theorem Books.leaves {player : P} (books : Books events arena player) :
    Books (.leaves player :: events) (arena.after (.leaves player)) player := by
  have paid := books.paid
  refine ⟨books.wins, books.losses, ?_, ?_⟩
  · have gone : (arena.after (.leaves player)).toll player = 0 := by simp [toll, after]
    rw [gone]
    change _ * events.countP _ + 0 ≤ events.countP _
    omega
  · intro waits
    simp [after] at waits

/-- A hit counts towards the next fall. -/
theorem Books.hit {player shooter : P} (books : Books events arena player) {wounds : Fin rules.hitsToFall}
    (stands : arena.conditions player = some (.standing wounds)) :
    Books (.hits shooter player :: events) (arena.after (.hits shooter player)) player := by
  have struck : (arena.after (.hits shooter player)).conditions player = some (Condition.standing wounds).strike := by
    change Function.update arena.conditions player ((arena.conditions player).map .strike) player = _
    rw [Function.update_self, stands, Option.map_some]
  have before : arena.toll player = wounds.val := by rw [toll, stands]
  have more : (arena.after (.hits shooter player)).toll player = wounds.val + 1 := by
    rw [toll, struck]
    by_cases last : wounds.val + 1 = rules.hitsToFall
    · rw [Condition.strike_last last]
      exact last.symm
    · rw [Condition.strike_more (by omega)]
  have counted : (ArenaEvent.hits shooter player :: events).countP (ArenaEvent.isHitOn player) =
      events.countP (ArenaEvent.isHitOn player) + 1 := List.countP_cons_of_pos (by simp [ArenaEvent.isHitOn])
  have paid := books.paid
  refine ⟨books.wins, books.losses, ?_, ?_⟩
  · rw [more, counted]
    change _ * events.countP _ + _ ≤ _
    omega
  · intro _
    rw [struck]
    exact Option.some_ne_none _

/-- Whoever falls has paid for it. -/
theorem Books.fall {player victor : P} (books : Books events arena player) (other : victor ≠ player)
    (struck : arena.conditions player = some .struck) :
    Books (.falls player victor :: events) (arena.after (.falls player victor)) player := by
  have before : arena.toll player = rules.hitsToFall := by rw [toll, struck]
  have fallen : (arena.after (.falls player victor)).conditions player = some .fallen := Function.update_self ..
  have none : (arena.after (.falls player victor)).toll player = 0 := by rw [toll, fallen]
  have record : (arena.after (.falls player victor)).records player =
      { arena.records player with
        losses := (arena.records player).losses + 1
        rating := (rules.rate (arena.records victor).rating (arena.records player).rating).2 } :=
    Function.update_self ..
  have counted : (ArenaEvent.falls player victor :: events).countP (ArenaEvent.isFallOf player) =
      events.countP (ArenaEvent.isFallOf player) + 1 := List.countP_cons_of_pos (by simp [ArenaEvent.isFallOf])
  have paid := books.paid
  constructor
  · rw [record, List.countP_cons_of_neg (by simp [ArenaEvent.isWinOf, other])]
    exact books.wins
  · rw [record, counted, ← books.losses]
  · rw [none, counted, Nat.mul_succ, ← before]
    change _ ≤ events.countP _
    rw [before] at paid ⊢
    omega
  · intro _
    rw [fallen]
    exact Option.some_ne_none _

theorem Books.win {player target : P} (books : Books events arena player) (other : player ≠ target) :
    Books (.falls target player :: events) (arena.after (.falls target player)) player := by
  have conditions : (arena.after (.falls target player)).conditions player = arena.conditions player :=
    Function.update_of_ne other ..
  have same : (arena.after (.falls target player)).toll player = arena.toll player := by rw [toll, conditions, ← toll]
  have record : (arena.after (.falls target player)).records player =
      { arena.records player with
        wins := (arena.records player).wins + 1
        rating := (rules.rate (arena.records player).rating (arena.records target).rating).1 } :=
    (Function.update_of_ne other ..).trans (Function.update_self ..)
  have counted : (ArenaEvent.falls target player :: events).countP (ArenaEvent.isWinOf player) =
      events.countP (ArenaEvent.isWinOf player) + 1 := List.countP_cons_of_pos (by simp [ArenaEvent.isWinOf])
  have unfallen : (ArenaEvent.falls target player).isFallOf player = false := by
    simp [ArenaEvent.isFallOf, Ne.symm other]
  constructor
  · rw [record, counted, ← books.wins]
  · rw [record, List.countP_cons_of_neg (by simp [unfallen])]
    exact books.losses
  · rw [same, List.countP_cons_of_neg (by simp [unfallen])]
    exact books.paid
  · rw [conditions]
    exact books.present

theorem Books.step {player : P} (books : Books events arena player) {event : ArenaEvent P}
    (allowed : arena.Allows event) : Books (event :: events) (arena.after event) player := by
  cases event with
  | enters entered =>
      by_cases asked : player = entered
      · subst asked
        exact books.enters
      · exact books.other (Function.update_of_ne asked ..) (fun waits => by simpa [after, asked] using waits) rfl
          ⟨rfl, rfl, rfl⟩
  | leaves left =>
      by_cases asked : player = left
      · subst asked
        exact books.leaves
      · exact books.other (Function.update_of_ne asked ..) (fun waits => by simpa [after, asked] using waits) rfl
          ⟨rfl, rfl, rfl⟩
  | paired one other =>
      refine books.other rfl (fun waits => ?_) rfl ⟨rfl, rfl, rfl⟩
      by_cases second : player = other
      · simp [after, second] at waits
      · by_cases first : player = one
        · simp [after, first, Function.update_apply] at waits
        · simpa [after, first, second] using waits
  | hits shooter target =>
      obtain ⟨-, -, wounds, stands⟩ := allowed
      by_cases asked : player = target
      · subst asked
        exact books.hit stands
      · exact books.other (Function.update_of_ne asked ..) id rfl
          ⟨by simp [ArenaEvent.isHitOn, Ne.symm asked], rfl, rfl⟩
  | falls target victor =>
      obtain ⟨differ, -, struck⟩ := allowed
      by_cases lost : player = target
      · subst lost
        exact books.fall differ struck
      · by_cases won : player = victor
        · subst won
          exact books.win lost
        · refine books.other (Function.update_of_ne lost ..) id ?_ ⟨rfl, ?_, ?_⟩
          · exact (Function.update_of_ne lost ..).trans (Function.update_of_ne won ..)
          · simp [ArenaEvent.isFallOf, Ne.symm lost]
          · simp [ArenaEvent.isWinOf, Ne.symm won]

/-- The books of every player balance in every run. -/
theorem Runs.books (run : Runs events arena) (player : P) : Books events arena player := by
  refine Run.invariant (P := fun events arena => Books events arena player) ?_ ?_ run
  · rintro arena rfl
    exact ⟨rfl, rfl, Nat.le_refl 0, fun waits => by cases waits⟩
  · rintro events arena items arena' - books taken
    obtain ⟨event, allowed, rfl, rfl⟩ := step_iff.mp taken
    exact books.step allowed

/-- The records after some events are settled from the duels that ended. -/
theorem records_of_steps (steps : Steps (StepOf perform) arena events arena') :
    arena'.records = (events.filterMap ArenaEvent.duel?).foldl (settleDuel rules) arena.records := by
  induction steps with
  | none => rfl
  | next _ taken ih =>
      obtain ⟨event, -, rfl, rfl⟩ := step_iff.mp taken
      rw [List.filterMap_append, List.foldl_append, ← ih]
      cases event <;> rfl

/-- The winner of a duel is not its loser. -/
theorem differ_of_steps (steps : Steps (StepOf perform) arena events arena') :
    ∀ duel ∈ events.filterMap ArenaEvent.duel?, duel.1 ≠ duel.2 := by
  induction steps with
  | none => exact fun _ member => absurd member List.not_mem_nil
  | next _ taken ih =>
      obtain ⟨event, allowed, rfl, rfl⟩ := step_iff.mp taken
      intro duel member
      rw [List.filterMap_append] at member
      rcases List.mem_append.mp member with old | new
      · exact ih duel old
      · cases event with
        | falls target victor =>
            cases List.mem_singleton.mp new
            exact allowed.1
        | _ => exact absurd new List.not_mem_nil

end Arena

end Arena60
