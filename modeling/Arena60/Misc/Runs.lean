import Mathlib.Data.List.Basic

/-!
# Runs of labelled transition systems

A step of a system takes a state to a state and emits the list of items an
observer records for it, oldest first. A run keeps everything emitted so far as
one trace with the newest item at the head, so that "since the last such item"
is a prefix of the trace and an induction on the run peels the newest step.
Nothing here depends on what the states and items are.
-/

namespace Arena60.Misc

universe u v w

variable {σ : Type u} {ι : Type v}

/-- The finite runs from an initial state, with their trace, newest item first. -/
inductive Run (init : σ → Prop) (step : σ → List ι → σ → Prop) : List ι → σ → Prop
  | start {state : σ} : init state → Run init step [] state
  | next {trace items : List ι} {state state' : σ} :
      Run init step trace state → step state items state' →
        Run init step (items.reverse ++ trace) state'

namespace Run

variable {init : σ → Prop} {step : σ → List ι → σ → Prop}

/-- A property of trace and state that holds at the start and is kept by every
step from a state some run reaches holds of every run. -/
theorem invariant {P : List ι → σ → Prop}
    (atStart : ∀ state, init state → P [] state)
    (atStep : ∀ trace state items state', Run init step trace state → P trace state →
      step state items state' → P (items.reverse ++ trace) state')
    {trace : List ι} {state : σ} (run : Run init step trace state) : P trace state := by
  induction run with
  | start initial => exact atStart _ initial
  | next earlier taken ih => exact atStep _ _ _ _ earlier ih taken

/-- A run of a system is a run of one that has more steps. -/
theorem mono {step' : σ → List ι → σ → Prop}
    (more : ∀ state items state', step state items state' → step' state items state') {trace : List ι}
    {state : σ} (run : Run init step trace state) : Run init step' trace state := by
  induction run with
  | start initial => exact .start initial
  | next _ taken ih => exact .next ih (more _ _ _ taken)

end Run

/-- Any number of steps, with what they emit. -/
inductive Steps (step : σ → List ι → σ → Prop) : σ → List ι → σ → Prop
  | none (state : σ) : Steps step state [] state
  | next {state state' state'' : σ} {items later : List ι} :
      Steps step state items state' → step state' later state'' → Steps step state (items ++ later) state''

namespace Steps

variable {step : σ → List ι → σ → Prop} {state state' state'' : σ} {items later : List ι}

theorem single (taken : step state items state') : Steps step state items state' := .next (.none state) taken

theorem trans (first : Steps step state items state') (second : Steps step state' later state'') :
    Steps step state (items ++ later) state'' := by
  induction second with
  | none =>
      rw [List.append_nil]
      exact first
  | next _ taken ih =>
      rw [← List.append_assoc]
      exact .next ih taken

/-- Steps go on with a run. -/
theorem run {init : σ → Prop} {trace : List ι} (steps : Steps step state items state')
    (earlier : Run init step trace state) : Run init step (items.reverse ++ trace) state' := by
  induction steps with
  | none => exact earlier
  | next _ taken ih =>
      rw [List.reverse_append, List.append_assoc]
      exact .next ih taken

end Steps

section replay

variable {α : Type w}

/-- The steps of a system whose actions are executed by a function, which refuses an
action that is not possible. -/
def StepOf (perform : α → σ → Option (List ι × σ)) (state : σ) (items : List ι) (state' : σ) : Prop :=
  ∃ action, perform action state = some (items, state')

/-- Execute actions one after the other, from a trace and a state. -/
def replay (perform : α → σ → Option (List ι × σ)) : List α → List ι × σ → Option (List ι × σ)
  | [], reached => some reached
  | action :: actions, (trace, state) =>
      match perform action state with
      | none => none
      | some (items, state') => replay perform actions (items.reverse ++ trace, state')

theorem replay_append {perform : α → σ → Option (List ι × σ)} {actions actions' : List α}
    {reached : List ι × σ} : Misc.replay perform (actions ++ actions') reached =
      (Misc.replay perform actions reached).bind (Misc.replay perform actions') := by
  induction actions generalizing reached with
  | nil => rfl
  | cons action actions ih =>
      obtain ⟨trace, state⟩ := reached
      rw [List.cons_append, Misc.replay, Misc.replay]
      cases perform action state with
      | none => rfl
      | some result => exact ih

/-- What a replay reaches, a run reaches. -/
theorem Run.replay {init : σ → Prop} {perform : α → σ → Option (List ι × σ)} :
    ∀ {actions : List α} {trace trace' : List ι} {state state' : σ},
      Run init (StepOf perform) trace state →
      Misc.replay perform actions (trace, state) = some (trace', state') →
      Run init (StepOf perform) trace' state'
  | [], _, _, _, _, run, reached => by
      obtain ⟨rfl, rfl⟩ := Prod.mk.inj (Option.some.inj reached)
      exact run
  | action :: actions, trace, trace', state, state', run, reached => by
      rw [Misc.replay] at reached
      cases performed : perform action state with
      | none =>
          rw [performed] at reached
          cases reached
      | some result =>
          rw [performed] at reached
          exact Run.replay (.next run ⟨action, performed⟩) reached

/-- A replay that succeeds and passes a test on the trace and state it reaches. -/
theorem exists_run_of_replay {init : σ → Prop} {perform : α → σ → Option (List ι × σ)}
    (actions : List α) (test : List ι → σ → Bool) {start : σ} (initial : init start)
    (played : (Misc.replay perform actions ([], start)).any
      (fun reached => test reached.1 reached.2) = true) :
    ∃ trace state, Run init (StepOf perform) trace state ∧ test trace state = true := by
  cases reached : Misc.replay perform actions ([], start) with
  | none => simp [reached] at played
  | some result =>
      simp only [reached, Option.any_some] at played
      exact ⟨result.1, result.2, Run.replay (.start initial) reached, played⟩

/-- Some actions, at most so many, lead from a state to another. -/
def Reaches (perform : α → σ → Option (List ι × σ)) (bound : Nat) (state state' : σ) : Prop :=
  ∃ actions : List α, actions.length ≤ bound ∧
    ∀ trace, ∃ trace', replay perform actions (trace, state) = some (trace', state')

namespace Reaches

variable {perform : α → σ → Option (List ι × σ)} {bound bound' : Nat} {state state' state'' : σ}

theorem refl (state : σ) : Reaches perform 0 state state := ⟨[], Nat.le_refl 0, fun trace => ⟨trace, rfl⟩⟩

theorem step {action : α} {items : List ι} (performed : perform action state = some (items, state'))
    (onwards : Reaches perform bound state' state'') : Reaches perform (bound + 1) state state'' := by
  obtain ⟨actions, short, replays⟩ := onwards
  refine ⟨action :: actions, Nat.succ_le_succ short, ?_⟩
  intro trace
  obtain ⟨trace', replayed⟩ := replays (items.reverse ++ trace)
  refine ⟨trace', ?_⟩
  rw [replay, performed]
  exact replayed

theorem trans (first : Reaches perform bound state state') (second : Reaches perform bound' state' state'') :
    Reaches perform (bound + bound') state state'' := by
  obtain ⟨actions, short, replays⟩ := first
  obtain ⟨actions', short', replays'⟩ := second
  refine ⟨actions ++ actions', ?_, ?_⟩
  · rw [List.length_append]
    exact Nat.add_le_add short short'
  · intro trace
    obtain ⟨middle, replayed⟩ := replays trace
    obtain ⟨trace', replayed'⟩ := replays' middle
    refine ⟨trace', ?_⟩
    rw [replay_append, replayed]
    exact replayed'

theorem mono (reaches : Reaches perform bound state state') (more : bound ≤ bound') :
    Reaches perform bound' state state' := by
  obtain ⟨actions, short, replays⟩ := reaches
  exact ⟨actions, Nat.le_trans short more, replays⟩

end Reaches

/-- The steps whose action is allowed in the state before it. -/
def StepWhen (allowed : α → σ → Prop) (perform : α → σ → Option (List ι × σ)) (state : σ)
    (items : List ι) (state' : σ) : Prop :=
  ∃ action, allowed action state ∧ perform action state = some (items, state')

theorem StepWhen.step {allowed : α → σ → Prop} {perform : α → σ → Option (List ι × σ)}
    {state state' : σ} {items : List ι} (taken : StepWhen allowed perform state items state') :
    StepOf perform state items state' := by
  obtain ⟨action, _, performed⟩ := taken
  exact ⟨action, performed⟩

/-- A replay of actions that are allowed. -/
theorem exists_run_of_replay_when {init : σ → Prop} {allowed : α → σ → Prop}
    [decides : ∀ action state, Decidable (allowed action state)] {perform : α → σ → Option (List ι × σ)}
    (actions : List α) (test : List ι → σ → Bool) {start : σ} (initial : init start)
    (played : (Misc.replay (fun action state => if allowed action state then perform action state else none)
      actions ([], start)).any (fun reached => test reached.1 reached.2) = true) :
    ∃ trace state, Run init (StepWhen allowed perform) trace state ∧ test trace state = true := by
  obtain ⟨trace, state, run, passed⟩ := exists_run_of_replay actions test initial played
  refine ⟨trace, state, run.mono ?_, passed⟩
  intro state items state' step
  obtain ⟨action, performed⟩ := step
  dsimp only at performed
  split at performed
  · next holds => exact ⟨action, holds, performed⟩
  · cases performed

end replay

section loops

variable {α : Type w}

/-- Run the body of a loop for each element of a list. -/
def forEach (body : α → σ → List ι × σ) : List α → σ → List ι × σ
  | [], state => ([], state)
  | a :: rest, state =>
      let first := body a state
      let others := forEach body rest first.2
      (first.1 ++ others.1, others.2)

/-- What each round keeps, where the rounds still to come are known, the loop keeps. -/
theorem forEach_invariant (body : α → σ → List ι × σ) {P : List α → List ι → σ → Prop}
    (round : ∀ a rest trace state, P (a :: rest) trace state →
      P rest ((body a state).1.reverse ++ trace) (body a state).2) :
    ∀ {l : List α} {trace : List ι} {state : σ}, P l trace state →
      P [] ((forEach body l state).1.reverse ++ trace) (forEach body l state).2
  | [], _, _, holds => holds
  | a :: rest, trace, state, holds => by
      rw [forEach, List.reverse_append, List.append_assoc]
      exact forEach_invariant body round (round a rest trace state holds)

/-- What each round keeps of the state, the loop keeps. -/
theorem forEach_keeps {body : α → σ → List ι × σ} {P : σ → Prop} {l : List α}
    (round : ∀ a ∈ l, ∀ state, P state → P (body a state).2) {state : σ} (holds : P state) :
    P (forEach body l state).2 := by
  induction l generalizing state with
  | nil => exact holds
  | cons a rest ih =>
      exact ih (fun b later => round b (List.mem_cons_of_mem _ later)) (round a List.mem_cons_self state holds)

/-- What a loop emits, one of its rounds emits. -/
theorem mem_forEach {body : α → σ → List ι × σ} {item : ι} :
    ∀ {l : List α} {state : σ}, item ∈ (forEach body l state).1 →
      ∃ a ∈ l, ∃ state', item ∈ (body a state').1
  | [], _, member => nomatch member
  | a :: rest, state, member => by
      rcases List.mem_append.mp member with first | later
      · exact ⟨a, List.mem_cons_self, state, first⟩
      · obtain ⟨other, listed, state', emitted⟩ := mem_forEach later
        exact ⟨other, List.mem_cons_of_mem _ listed, state', emitted⟩

end loops

/-- The part of a trace that is newer than its newest item satisfying `mark`. -/
def since (mark : ι → Bool) (trace : List ι) : List ι :=
  trace.takeWhile fun item => !mark item

@[simp] theorem since_nil (mark : ι → Bool) : since mark [] = [] := rfl

theorem since_cons (mark : ι → Bool) (item : ι) (trace : List ι) :
    since mark (item :: trace) = if mark item then [] else item :: since mark trace := by
  simp only [since, List.takeWhile_cons]
  cases mark item <;> rfl

/-- Items none of which is a mark lengthen the newer part as they stand. -/
theorem since_append (mark : ι → Bool) (items trace : List ι)
    (unmarked : ∀ item ∈ items, mark item = false) :
    since mark (items ++ trace) = items ++ since mark trace := by
  induction items with
  | nil => rfl
  | cons item items ih =>
      have head : mark item = false := unmarked item (by simp)
      have rest : ∀ other ∈ items, mark other = false := fun other member =>
        unmarked other (by simp [member])
      rw [List.cons_append, since_cons, head, ih rest]
      rfl

/-- Only the items in front matter if one of them is a mark. -/
theorem since_append_of_marked {mark : ι → Bool} {items : List ι} (trace : List ι)
    (marked : ∃ item ∈ items, mark item = true) : since mark (items ++ trace) = since mark items := by
  induction items with
  | nil =>
      obtain ⟨item, member, -⟩ := marked
      cases member
  | cons first items ih =>
      rw [List.cons_append, since_cons, since_cons]
      cases head : mark first with
      | true => rfl
      | false =>
          obtain ⟨item, member, found⟩ := marked
          have later : item ∈ items := by
            rcases List.mem_cons.mp member with rfl | later
            · rw [head] at found
              cases found
            · exact later
          rw [ih ⟨item, later, found⟩]

theorem mem_of_mem_since {mark : ι → Bool} {trace : List ι} {item : ι} (member : item ∈ since mark trace) :
    item ∈ trace := (List.takeWhile_sublist _).subset member

/-- A trace without a mark is wholly newer than its newest mark. -/
theorem since_eq_self (mark : ι → Bool) (trace : List ι)
    (unmarked : ∀ item ∈ trace, mark item = false) : since mark trace = trace := by
  simpa using since_append mark trace [] unmarked

/-- A trace with a mark is what is newer than its newest mark, the mark, and the rest. -/
theorem since_split {mark : ι → Bool} :
    ∀ {trace : List ι}, (∃ item ∈ trace, mark item = true) →
      ∃ item older, trace = since mark trace ++ item :: older ∧ mark item = true
  | [], ⟨_, member, _⟩ => nomatch member
  | newest :: trace, ⟨item, member, marked⟩ => by
      cases head : mark newest with
      | true => exact ⟨newest, trace, by rw [since_cons, head]; rfl, head⟩
      | false =>
          have later : item ∈ trace := by
            rcases List.mem_cons.mp member with rfl | later
            · rw [head] at marked
              cases marked
            · exact later
          obtain ⟨found, older, split, foundMarked⟩ := since_split ⟨item, later, marked⟩
          refine ⟨found, older, ?_, foundMarked⟩
          rw [since_cons, head]
          exact congrArg (newest :: ·) split

/-- An item of the trace opens, and no newer one closes. -/
def Standing (opens closes : ι → Prop) (trace : List ι) : Prop :=
  ∃ newer item older, trace = newer ++ item :: older ∧ opens item ∧ ∀ other ∈ newer, ¬closes other

theorem standing_nil (opens closes : ι → Prop) : ¬Standing opens closes [] := by
  intro standing
  obtain ⟨newer, item, older, split, -⟩ := standing
  cases newer <;> cases split

theorem standing_cons (opens closes : ι → Prop) (newest : ι) (trace : List ι) :
    Standing opens closes (newest :: trace) ↔ opens newest ∨ ¬closes newest ∧ Standing opens closes trace := by
  constructor
  · intro standing
    obtain ⟨newer, item, older, split, opened, unclosed⟩ := standing
    cases newer with
    | nil =>
        obtain ⟨rfl, rfl⟩ := List.cons.inj split
        exact Or.inl opened
    | cons first newer =>
        obtain ⟨rfl, rfl⟩ := List.cons.inj split
        obtain ⟨head, rest⟩ := List.forall_mem_cons.mp unclosed
        exact Or.inr ⟨head, newer, item, older, rfl, opened, rest⟩
  · intro cases
    rcases cases with opened | ⟨unclosed, newer, item, older, rfl, opened, rest⟩
    · exact ⟨[], newest, trace, rfl, opened, List.forall_mem_nil _⟩
    · exact ⟨newest :: newer, item, older, rfl, opened, List.forall_mem_cons.mpr ⟨unclosed, rest⟩⟩

instance decidableStanding (opens closes : ι → Prop) [DecidablePred opens] [DecidablePred closes] :
    (trace : List ι) → Decidable (Standing opens closes trace)
  | [] => isFalse (standing_nil opens closes)
  | newest :: trace =>
      let _ := decidableStanding opens closes trace
      decidable_of_iff _ (standing_cons opens closes newest trace).symm

/-- Items that neither open nor close change nothing. -/
theorem standing_append {opens closes : ι → Prop} {items : List ι} (trace : List ι)
    (silent : ∀ item ∈ items, ¬opens item ∧ ¬closes item) :
    Standing opens closes (items ++ trace) ↔ Standing opens closes trace := by
  induction items with
  | nil => rfl
  | cons item items ih =>
      obtain ⟨head, rest⟩ := List.forall_mem_cons.mp silent
      simp [standing_cons, head, ih rest]

/-- An item that stands after some more items is among them, or stood before and none of them closed. -/
theorem Standing.of_append {opens closes : ι → Prop} :
    ∀ {items trace : List ι}, Standing opens closes (items ++ trace) →
      (∃ item ∈ items, opens item) ∨ (∀ item ∈ items, ¬closes item) ∧ Standing opens closes trace
  | [], _, standing => Or.inr ⟨List.forall_mem_nil _, standing⟩
  | newest :: items, trace, standing => by
      rcases (standing_cons opens closes newest (items ++ trace)).mp standing with opened | ⟨unclosed, later⟩
      · exact Or.inl ⟨newest, List.mem_cons_self, opened⟩
      · rcases later.of_append with ⟨item, member, opened⟩ | ⟨rest, earlier⟩
        · exact Or.inl ⟨item, List.mem_cons_of_mem _ member, opened⟩
        · exact Or.inr ⟨List.forall_mem_cons.mpr ⟨unclosed, rest⟩, earlier⟩

/-- What stands goes on standing until an item closes. -/
theorem Standing.append {opens closes : ι → Prop} {items trace : List ι} (standing : Standing opens closes trace)
    (unclosed : ∀ item ∈ items, ¬closes item) : Standing opens closes (items ++ trace) := by
  obtain ⟨newer, item, older, rfl, opened, kept⟩ := standing
  refine ⟨items ++ newer, item, older, (List.append_assoc _ _ _).symm, opened, ?_⟩
  exact List.forall_mem_append.mpr ⟨unclosed, kept⟩

/-- What every step that opens brings about, and every step that does not close keeps, holds as long as
an item stands. -/
theorem Run.while_standing {init : σ → Prop} {step : σ → List ι → σ → Prop} {opens closes : ι → Prop}
    {P : σ → Prop}
    (opening : ∀ trace state items state', Run init step trace state → step state items state' →
      (∃ item ∈ items, opens item) → P state')
    (keeping : ∀ trace state items state', Run init step trace state → P state → step state items state' →
      (∀ item ∈ items, ¬closes item) → P state')
    {trace : List ι} {state : σ} (run : Run init step trace state) (standing : Standing opens closes trace) :
    P state := by
  induction run with
  | start => exact absurd standing (standing_nil _ _)
  | next earlier taken ih =>
      rcases standing.of_append with ⟨item, member, opened⟩ | ⟨unclosed, stood⟩
      · exact opening _ _ _ _ earlier taken ⟨item, List.mem_reverse.mp member, opened⟩
      · exact keeping _ _ _ _ earlier (ih stood) taken fun item member =>
          unclosed item (List.mem_reverse.mpr member)

/-- What happened before some item of a lengthened trace: the item was in the trace, or
it is one of the new ones and the whole trace is older. -/
theorem suffix_cons_append {item : ι} {older : List ι} :
    ∀ {items trace : List ι}, item :: older <:+ items ++ trace →
      item :: older <:+ trace ∨ ∃ rest, item :: rest <:+ items ∧ older = rest ++ trace
  | [], _, suffix => Or.inl suffix
  | newest :: items, trace, suffix => by
      rw [List.cons_append, List.suffix_cons_iff] at suffix
      rcases suffix with same | later
      · obtain ⟨rfl, rfl⟩ := List.cons.inj same
        exact Or.inr ⟨items, List.suffix_rfl, rfl⟩
      · rcases suffix_cons_append later with old | ⟨rest, new, rfl⟩
        · exact Or.inl old
        · exact Or.inr ⟨rest, List.suffix_cons_iff.mpr (Or.inr new), rfl⟩

end Arena60.Misc
