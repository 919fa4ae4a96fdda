import Arena60.Matchmaking.Threads
import Mathlib.Data.List.Count

/-!
# Conservation of players and delivery of matches

Whatever the threads do and in whatever order: a player that entered the queue has
left it by one cancellation or one match, or is still in it; and a match is delivered
once by the time the call that made it returns.
-/

namespace Arena60

open Misc

universe u v

/-! ## Reading a trace -/

namespace Event

variable {T : Type v}

/-- The player was put into the queue, not having been in it. -/
def enters (playerId : String) : Event T → Bool
  | enqueued player waiting => player == playerId && !waiting
  | _ => false

/-- A cancellation took the player out of the queue. -/
def cancels (playerId : String) : Event T → Bool
  | cancelled player removed => player == playerId && removed
  | _ => false

/-- The matches made. -/
def made : Event T → List Match
  | created _ _ made => made
  | _ => []

/-- The match is published. -/
def publishes (delivered : Match) : Event T → Bool
  | published _ other => other == delivered
  | _ => false

/-- The match is passed to a callback. -/
def callsBack (delivered : Match) : Event T → Bool
  | calledBack _ _ other => other == delivered
  | _ => false

end Event

section trace

variable {T : Type v}

/-- How often a player entered the queue. -/
def entries (playerId : String) (trace : List (Event T)) : Nat := trace.countP (Event.enters playerId)

/-- How often a player was cancelled. -/
def cancellations (playerId : String) (trace : List (Event T)) : Nat :=
  trace.countP (Event.cancels playerId)

/-- All matches made. -/
def createdMatches (trace : List (Event T)) : List Match := trace.flatMap Event.made

/-- How many of the matches made contain a player. -/
def matchesWith (playerId : String) (trace : List (Event T)) : Nat :=
  (createdMatches trace).countP fun created => playerId ∈ created.players

/-- How often a match was published. -/
def publications (delivered : Match) (trace : List (Event T)) : Nat :=
  trace.countP (Event.publishes delivered)

/-- How often a match was passed to a callback. -/
def callbacks (delivered : Match) (trace : List (Event T)) : Nat :=
  trace.countP (Event.callsBack delivered)

theorem publications_cons (m : Match) (event : Event T) (trace : List (Event T)) :
    publications m (event :: trace) = publications m trace + (event.publishes m).toNat := by
  rw [publications, List.countP_cons, publications]
  cases event.publishes m <;> rfl

theorem callbacks_cons (m : Match) (event : Event T) (trace : List (Event T)) :
    callbacks m (event :: trace) = callbacks m trace + (event.callsBack m).toNat := by
  rw [callbacks, List.countP_cons, callbacks]
  cases event.callsBack m <;> rfl

end trace

variable {R : Type u} [DoubleConversions R] {T : Type v} [DecidableEq T]

/-! ## Players -/

/-- Of lists without a common or repeated member at most one contains a given one. -/
theorem countP_mem_eq {α : Type u} {β : Type v} [DecidableEq β] (parts : α → List β) (b : β) :
    ∀ l : List α, (l.flatMap parts).Nodup →
      l.countP (fun a => b ∈ parts a) = (decide (b ∈ l.flatMap parts)).toNat
  | [], _ => by simp
  | a :: l, distinct => by
      rw [List.flatMap_cons, List.nodup_append] at distinct
      obtain ⟨-, rest, apart⟩ := distinct
      rw [List.countP_cons, countP_mem_eq parts b l rest, List.flatMap_cons]
      by_cases here : b ∈ parts a
      · have notThere : b ∉ l.flatMap parts := fun there => apart b here b there rfl
        simp [here, notThere]
      · simp [here]

theorem holds_runMatchingLocked {m : Matchmaker R} (coherent : m.queue.Coherent) (now : Int)
    (playerId : String) :
    (m.queue.holds playerId).toNat =
      (m.runMatchingLocked now).2.1.countP (fun created => playerId ∈ created.players) +
        ((m.runMatchingLocked now).1.queue.holds playerId).toNat := by
  have sound := pass_sound (R := R) coherent now
  rw [Matchmaker.runMatching_made, Matchmaker.runMatching_queue] at sound
  rw [countP_mem_eq Match.players playerId _ sound.once, InMemoryMatchQueue.holds,
    InMemoryMatchQueue.holds, sound.contents]
  by_cases matched : playerId ∈ (m.runMatchingLocked now).2.1.flatMap Match.players
  · obtain ⟨created, member, player⟩ := List.mem_flatMap.mp matched
    obtain ⟨a, b, queuedA, queuedB, joins⟩ := sound.joins created member
    have queued : (m.queue.contents playerId).isSome = true := by
      rw [joins.players] at player
      rcases List.mem_pair.mp player with rfl | rfl
      · rw [queuedA, Option.isSome_some]
      · rw [queuedB, Option.isSome_some]
    rw [if_pos matched, queued, decide_eq_true matched]
    rfl
  · rw [if_neg matched, decide_eq_false matched, Bool.toNat_false, Nat.zero_add]

/-- Every entry of a player into the queue is accounted for. -/
theorem entries_eq {trace : List (Event T)} {s : Threads R T} (run : Threads.Runs trace s)
    (playerId : String) :
    entries playerId trace = cancellations playerId trace + matchesWith playerId trace +
      (s.matchmaker.queue.holds playerId).toNat := by
  refine run.invariant (P := fun trace s => entries playerId trace =
    cancellations playerId trace + matchesWith playerId trace +
      (s.matchmaker.queue.holds playerId).toNat) ?_ ?_
  · intro s initial
    rw [initial.1]
    rfl
  · intro trace s items s' run ih taken
    have wellFormed := run.reachable.wellFormed
    have coherent := wellFormed.coherent
    simp only [entries, cancellations, matchesWith, createdMatches] at ih ⊢
    cases taken with
    | setMatchCreatedCallback callback => exact ih
    | enqueue request =>
        have contents := coherent.contents_upsert request (s.matchmaker.orderCounter + 1)
          wellFormed.unused playerId
        simp only [List.reverse_singleton, List.singleton_append, List.countP_cons,
          List.flatMap_cons, Event.made, Event.enters, Event.cancels, List.nil_append,
          Matchmaker.enqueue, InMemoryMatchQueue.holds, contents] at ih ⊢
        by_cases asked : request.playerId = playerId
        · subst asked
          cases waiting : s.matchmaker.queue.contents request.playerId with
          | none => simp [waiting] at ih ⊢; omega
          | some player => simp [waiting] at ih ⊢; omega
        · simp [asked, Ne.symm asked, ih]
    | cancel cancelled =>
        have contents := coherent.contents_remove cancelled playerId
        have removed := coherent.remove_eq_holds cancelled
        simp only [List.reverse_singleton, List.singleton_append, List.countP_cons,
          List.flatMap_cons, Event.made, Event.enters, Event.cancels, List.nil_append,
          Matchmaker.cancel, InMemoryMatchQueue.holds, contents] at ih removed ⊢
        rw [removed]
        by_cases asked : cancelled = playerId
        · subst asked
          cases waiting : s.matchmaker.queue.contents cancelled with
          | none => simp [waiting] at ih ⊢; omega
          | some player => simp [waiting] at ih ⊢; omega
        · simp [asked, Ne.symm asked, ih]
    | runMatching thread now point =>
        have left := holds_runMatchingLocked (R := R) coherent now playerId
        simp only [List.reverse_singleton, List.singleton_append, List.countP_cons,
          List.flatMap_cons, List.countP_append, Event.made, Event.enters, Event.cancels,
          Threads.moveTo, Bool.false_eq_true, if_false] at ih ⊢
        omega
    | publish thread point => exact ih
    | callBack thread point => exact ih
    | finish thread point => exact ih
    | poll =>
        rw [Matchmaker.poll_queue]
        exact ih
    | drain => exact ih

/-! ## Matches -/

/-- The book kept of the matches: how far each of them has been delivered, by where
the threads stand and what has been observed; `issued` is the last match number. -/
structure Ledger (trace : List (Event T)) (threads : T → Thread) (issued : Nat) : Prop where
  ids : ((createdMatches trace).map Match.matchId).Nodup
  numbered : ∀ m ∈ createdMatches trace, ∃ number ≤ issued, ∃ now a b, m = matchOf now number a b
  calls : ∀ t, threads t ≠ .idle → .created t (threads t).callback (threads t).made ∈ trace
  pending : ∀ t, (threads t).unpublished <:+ (threads t).unfinished ∧
    (threads t).unfinished <:+ (threads t).made
  apart : ∀ t t', ∀ m ∈ (threads t).made, m ∈ (threads t').made → t = t'
  progress : ∀ t, ∀ m ∈ (threads t).made,
    publications m trace = (!decide (m ∈ (threads t).unpublished)).toNat ∧
    callbacks m trace =
      ((threads t).callback.isSome && !decide (m ∈ (threads t).unfinished)).toNat
  finished : ∀ t callback made, .returned t callback made ∈ trace → ∀ m ∈ made,
    m ∈ createdMatches trace ∧ (∀ t', m ∉ (threads t').made) ∧
      publications m trace = 1 ∧ callbacks m trace = callback.isSome.toNat
  accounted : ∀ t callback made, .created t callback made ∈ trace →
    (threads t ≠ .idle ∧ (threads t).callback = callback ∧ (threads t).made = made) ∨
      .returned t callback made ∈ trace
  calledBack : ∀ t callback m, .calledBack t callback m ∈ trace →
    ∃ made, .created t (some callback) made ∈ trace ∧ m ∈ made
  untouched : ∀ m, m ∉ createdMatches trace → publications m trace = 0 ∧ callbacks m trace = 0

namespace Ledger

variable {trace : List (Event T)} {threads : T → Thread} {issued : Nat}

omit [DecidableEq T] in
theorem created_nodup (ledger : Ledger trace threads issued) : (createdMatches trace).Nodup :=
  ledger.ids.of_map

omit [DecidableEq T] in
theorem made_nodup (ledger : Ledger trace threads issued) (t : T) : (threads t).made.Nodup := by
  cases point : threads t with
  | idle => exact List.nodup_nil
  | delivering callback pending made =>
      have called := ledger.calls t (by simp [point])
      rw [point] at called
      exact (List.nodup_flatMap.mp ledger.created_nodup).1 _ called
  | calling callback current pending made =>
      have called := ledger.calls t (by simp [point])
      rw [point] at called
      exact (List.nodup_flatMap.mp ledger.created_nodup).1 _ called

omit [DecidableEq T] in
theorem unfinished_nodup (ledger : Ledger trace threads issued) (t : T) : (threads t).unfinished.Nodup :=
  (ledger.made_nodup t).sublist (ledger.pending t).2.sublist

omit [DecidableEq T] in
/-- The matches of a call in progress were made in the run. -/
theorem made_created (ledger : Ledger trace threads issued) {t : T} {m : Match}
    (member : m ∈ (threads t).made) : m ∈ createdMatches trace := by
  have busy : threads t ≠ .idle := by
    intro idle
    simp [idle, Thread.made] at member
  exact List.mem_flatMap.mpr ⟨_, ledger.calls t busy, member⟩

omit [DecidableEq T] in
theorem start : Ledger ([] : List (Event T)) (fun _ => .idle) 0 where
  ids := List.nodup_nil
  numbered := by simp [createdMatches]
  calls := by simp
  pending := by simp [Thread.unpublished, Thread.unfinished, Thread.made]
  apart := by simp [Thread.made]
  progress := by simp [Thread.made]
  finished := by simp
  accounted := by simp
  calledBack := by simp
  untouched := by simp [publications, callbacks]

omit [DecidableEq T] in
/-- An event that is not about a match changes nothing. -/
theorem quiet (ledger : Ledger trace threads issued) {event : Event T}
    (about : (∃ playerId waiting, event = .enqueued playerId waiting) ∨
      ∃ playerId removed, event = .cancelled playerId removed) :
    Ledger (event :: trace) threads issued := by
  have created : createdMatches (event :: trace) = createdMatches trace := by
    rcases about with ⟨_, _, rfl⟩ | ⟨_, _, rfl⟩ <;> rfl
  have published : ∀ m, publications m (event :: trace) = publications m trace := by
    rcases about with ⟨_, _, rfl⟩ | ⟨_, _, rfl⟩ <;> exact fun _ => rfl
  have called : ∀ m, callbacks m (event :: trace) = callbacks m trace := by
    rcases about with ⟨_, _, rfl⟩ | ⟨_, _, rfl⟩ <;> exact fun _ => rfl
  have others : ∀ other : Event T, (∀ playerId waiting, other ≠ .enqueued playerId waiting) →
      (∀ playerId removed, other ≠ .cancelled playerId removed) →
      (other ∈ event :: trace ↔ other ∈ trace) := by
    intro other notEnqueued notCancelled
    rcases about with ⟨_, _, rfl⟩ | ⟨_, _, rfl⟩ <;> simp [notEnqueued, notCancelled]
  constructor
  · rw [created]
    exact ledger.ids
  · rw [created]
    exact ledger.numbered
  · intro t busy
    exact List.mem_cons_of_mem _ (ledger.calls t busy)
  · exact ledger.pending
  · exact ledger.apart
  · simpa only [published, called] using ledger.progress
  · intro t callback made returned
    rw [others _ (by simp) (by simp)] at returned
    simpa only [created, published, called] using ledger.finished t callback made returned
  · intro t callback made member
    rw [others _ (by simp) (by simp)] at member ⊢
    exact ledger.accounted t callback made member
  · intro t callback m member
    rw [others _ (by simp) (by simp)] at member
    obtain ⟨made, created, listed⟩ := ledger.calledBack t callback m member
    exact ⟨made, List.mem_cons_of_mem _ created, listed⟩
  · simpa only [created, published, called] using ledger.untouched

/-- A call begins with all its matches undelivered. -/
theorem begin (ledger : Ledger trace threads issued) {thread : T}
    (point : threads thread = .idle) (callback : Option CallbackId) {made : List Match}
    {issued' : Nat} (later : issued ≤ issued') (distinct : (made.map Match.matchId).Nodup)
    (fresh : ∀ m ∈ made, ∃ number, issued < number ∧ number ≤ issued' ∧
      ∃ now a b, m = matchOf now number a b) :
    Ledger (.created thread callback made :: trace)
      (Function.update threads thread (.delivering callback made made)) issued' := by
  have created : createdMatches (.created thread callback made :: trace) =
      made ++ createdMatches trace := rfl
  -- the numbers of the new matches are greater than all numbers in use
  have newId : ∀ m ∈ made, ∀ m' ∈ createdMatches trace, m.matchId ≠ m'.matchId := by
    intro m new m' old same
    obtain ⟨number, above, -, now, a, b, rfl⟩ := fresh m new
    obtain ⟨number', below, now', a', b', rfl⟩ := ledger.numbered m' old
    have := matchOf_matchId_inj same
    omega
  have unseen : ∀ m ∈ made, m ∉ createdMatches trace := fun m new old => newId m new m old rfl
  constructor
  · rw [created, List.map_append, List.nodup_append]
    refine ⟨distinct, ledger.ids, ?_⟩
    intro id new id' old same
    obtain ⟨m, listed, rfl⟩ := List.mem_map.mp new
    obtain ⟨m', listed', rfl⟩ := List.mem_map.mp old
    exact newId m listed m' listed' same
  · intro m member
    rcases List.mem_append.mp (created ▸ member) with new | old
    · obtain ⟨number, -, below, origin⟩ := fresh m new
      exact ⟨number, below, origin⟩
    · obtain ⟨number, below, origin⟩ := ledger.numbered m old
      exact ⟨number, by omega, origin⟩
  · intro t busy
    by_cases same : t = thread
    · subst same
      simp [Thread.callback, Thread.made]
    · rw [Function.update_of_ne same] at busy ⊢
      exact List.mem_cons_of_mem _ (ledger.calls t busy)
  · intro t
    by_cases same : t = thread
    · subst same
      simp [Thread.unpublished, Thread.unfinished, Thread.made]
    · rw [Function.update_of_ne same]
      exact ledger.pending t
  · have foreign : ∀ t, t ≠ thread → ∀ m ∈ made, m ∉ (threads t).made :=
      fun t _ m new old => unseen m new (ledger.made_created old)
    intro t t' m member member'
    by_cases same : t = thread
    · by_cases same' : t' = thread
      · rw [same, same']
      · rw [same, Function.update_self] at member
        rw [Function.update_of_ne same'] at member'
        exact absurd member' (foreign t' same' m member)
    · by_cases same' : t' = thread
      · rw [Function.update_of_ne same] at member
        rw [same', Function.update_self] at member'
        exact absurd member (foreign t same m member')
      · rw [Function.update_of_ne same] at member
        rw [Function.update_of_ne same'] at member'
        exact ledger.apart t t' m member member'
  · intro t m member
    by_cases same : t = thread
    · rw [same, Function.update_self] at member ⊢
      have none := ledger.untouched m (unseen m member)
      simpa [publications, callbacks, Event.publishes, Event.callsBack, Thread.unpublished,
        Thread.unfinished, show m ∈ made from member] using none
    · rw [Function.update_of_ne same] at member ⊢
      exact ledger.progress t m member
  · intro t callback' made' returned m member
    have before : .returned t callback' made' ∈ trace := by simpa using returned
    obtain ⟨old, gone, counts⟩ := ledger.finished t callback' made' before m member
    refine ⟨List.mem_append_right _ old, ?_, counts⟩
    intro t'
    by_cases same : t' = thread
    · rw [same, Function.update_self]
      exact fun new => unseen m new old
    · rw [Function.update_of_ne same]
      exact gone t'
  · intro t callback' made' member
    rcases List.mem_cons.mp member with new | old
    · cases new
      left
      simp [Thread.callback, Thread.made]
    · rcases ledger.accounted t callback' made' old with ⟨busy, call⟩ | returned
      · have other : t ≠ thread := fun same => busy (same ▸ point)
        rw [Function.update_of_ne other]
        exact Or.inl ⟨busy, call⟩
      · exact Or.inr (List.mem_cons_of_mem _ returned)
  · intro t callback' m member
    obtain ⟨made', old, listed⟩ := ledger.calledBack t callback' m (by simpa using member)
    exact ⟨made', List.mem_cons_of_mem _ old, listed⟩
  · intro m absent
    rw [created, List.mem_append, not_or] at absent
    exact ledger.untouched m absent.2

/-- A call that delivers one of its matches: only the counts of that match change, and
no other call contains it. -/
theorem advance (ledger : Ledger trace threads issued) {thread : T} {point' : Thread}
    {event : Event T} {x : Match} (listed : x ∈ (threads thread).made)
    (busy : point' ≠ .idle) (made : point'.made = (threads thread).made)
    (callback : point'.callback = (threads thread).callback)
    (pending : point'.unpublished <:+ point'.unfinished ∧ point'.unfinished <:+ point'.made)
    (about : event = .published thread x ∨
      ∃ called, event = .calledBack thread called x ∧ (threads thread).callback = some called)
    (progress : ∀ m ∈ point'.made,
      publications m (event :: trace) = (!decide (m ∈ point'.unpublished)).toNat ∧
      callbacks m (event :: trace) =
        (point'.callback.isSome && !decide (m ∈ point'.unfinished)).toNat) :
    Ledger (event :: trace) (Function.update threads thread point') issued := by
  have created : createdMatches (event :: trace) = createdMatches trace := by
    rcases about with rfl | ⟨_, rfl, -⟩ <;> rfl
  have unchanged : ∀ m, m ≠ x → publications m (event :: trace) = publications m trace ∧
      callbacks m (event :: trace) = callbacks m trace := by
    intro m different
    rcases about with rfl | ⟨_, rfl, -⟩ <;>
      simp [publications, callbacks, Event.publishes, Event.callsBack, Ne.symm different]
  have wasBusy : threads thread ≠ .idle := by
    intro idle
    simp [idle, Thread.made] at listed
  have calls := ledger.calls thread wasBusy
  have remains : ∀ t callback made, .created t callback made ∈ event :: trace ↔
      .created t callback made ∈ trace := by
    intro t callback made
    rcases about with rfl | ⟨_, rfl, -⟩ <;> simp
  have returns : ∀ t callback made, .returned t callback made ∈ event :: trace ↔
      .returned t callback made ∈ trace := by
    intro t callback made
    rcases about with rfl | ⟨_, rfl, -⟩ <;> simp
  have sameMade : ∀ t, (Function.update threads thread point' t).made = (threads t).made := by
    intro t
    by_cases same : t = thread
    · rw [same, Function.update_self, made]
    · rw [Function.update_of_ne same]
  constructor
  · rw [created]
    exact ledger.ids
  · rw [created]
    exact ledger.numbered
  · intro t stillBusy
    rw [remains]
    by_cases same : t = thread
    · rw [same, Function.update_self, made, callback]
      exact calls
    · rw [Function.update_of_ne same] at stillBusy ⊢
      exact ledger.calls t stillBusy
  · intro t
    by_cases same : t = thread
    · rw [same, Function.update_self]
      exact pending
    · rw [Function.update_of_ne same]
      exact ledger.pending t
  · intro t t' m member member'
    rw [sameMade] at member member'
    exact ledger.apart t t' m member member'
  · intro t m member
    by_cases same : t = thread
    · rw [same, Function.update_self] at member ⊢
      exact progress m member
    · rw [Function.update_of_ne same] at member ⊢
      have different : m ≠ x := fun equal => same (ledger.apart t thread m member (equal ▸ listed))
      rw [(unchanged m different).1, (unchanged m different).2]
      exact ledger.progress t m member
  · intro t callback' made' returned m member
    rw [returns] at returned
    obtain ⟨old, gone, counts⟩ := ledger.finished t callback' made' returned m member
    have different : m ≠ x := fun equal => gone thread (equal ▸ listed)
    rw [created, (unchanged m different).1, (unchanged m different).2]
    refine ⟨old, ?_, counts⟩
    intro t'
    rw [sameMade]
    exact gone t'
  · intro t callback' made' member
    rw [remains] at member
    rw [returns]
    rcases ledger.accounted t callback' made' member with ⟨was, sameCallback, same'⟩ | returned
    · left
      by_cases same : t = thread
      · subst same
        rw [Function.update_self]
        exact ⟨busy, callback.trans sameCallback, made.trans same'⟩
      · rw [Function.update_of_ne same]
        exact ⟨was, sameCallback, same'⟩
    · exact Or.inr returned
  · intro t callback' m member
    have before : .calledBack t callback' m ∈ trace ∨
        (t = thread ∧ m = x ∧ (threads thread).callback = some callback') := by
      rcases about with rfl | ⟨called, rfl, copied⟩
      · exact Or.inl (by simpa using member)
      · rcases List.mem_cons.mp member with new | old
        · cases new
          exact Or.inr ⟨rfl, rfl, copied⟩
        · exact Or.inl old
    rcases before with old | ⟨rfl, rfl, copied⟩
    · obtain ⟨made', earlier, listed'⟩ := ledger.calledBack t callback' m old
      exact ⟨made', (remains _ _ _).mpr earlier, listed'⟩
    · rw [copied] at calls
      exact ⟨_, (remains _ _ _).mpr calls, listed⟩
  · intro m absent
    rw [created] at absent
    have different : m ≠ x := fun equal => absent (equal ▸ ledger.made_created listed)
    rw [(unchanged m different).1, (unchanged m different).2]
    exact ledger.untouched m absent

theorem publish (ledger : Ledger trace threads issued) {thread : T} {callback : Option CallbackId}
    {next : Match} {pending made : List Match}
    (point : threads thread = .delivering callback (next :: pending) made) :
    Ledger (.published thread next :: trace)
      (Function.update threads thread (.afterPublish callback next pending made)) issued := by
  have suffix : next :: pending <:+ made := by simpa [point, Thread.unfinished, Thread.made] using
    (ledger.pending thread).2
  have distinct := ledger.unfinished_nodup thread
  rw [point] at distinct
  have progress := ledger.progress thread
  rw [point] at progress
  refine ledger.advance (x := next) ?_ ?_ ?_ ?_ ?_ (Or.inl rfl) ?_
  · rw [point]
    exact suffix.subset List.mem_cons_self
  · cases callback <;> simp [Thread.afterPublish]
  · cases callback <;> simp [Thread.afterPublish, point, Thread.made]
  · cases callback <;> simp [Thread.afterPublish, point, Thread.callback]
  · cases callback with
    | none => exact ⟨List.suffix_refl _, (List.suffix_cons next pending).trans suffix⟩
    | some callback => exact ⟨List.suffix_cons next pending, suffix⟩
  · intro m member
    have before := progress m (by cases callback <;> exact member)
    have nextOnce : next ∉ pending := (List.nodup_cons.mp distinct).1
    rw [publications_cons, callbacks_cons, before.1, before.2]
    by_cases same : m = next
    · subst same
      cases callback <;>
        simp [Event.publishes, Event.callsBack, Thread.afterPublish, Thread.unpublished,
          Thread.unfinished, Thread.callback, nextOnce]
    · have other : (next == m) = false := beq_false_of_ne (Ne.symm same)
      by_cases behind : m ∈ pending <;> cases callback <;>
        simp [Event.publishes, Event.callsBack, Thread.afterPublish, Thread.unpublished,
          Thread.unfinished, Thread.callback, same, other, behind]

theorem callBack (ledger : Ledger trace threads issued) {thread : T} {callback : CallbackId}
    {current : Match} {pending made : List Match}
    (point : threads thread = .calling callback current pending made) :
    Ledger (.calledBack thread callback current :: trace)
      (Function.update threads thread (.delivering (some callback) pending made)) issued := by
  have suffix : current :: pending <:+ made := by simpa [point, Thread.unfinished, Thread.made] using
    (ledger.pending thread).2
  have distinct := ledger.unfinished_nodup thread
  rw [point] at distinct
  have progress := ledger.progress thread
  rw [point] at progress
  refine ledger.advance (x := current) ?_ (by simp) ?_ ?_ ?_ (Or.inr ⟨callback, rfl, ?_⟩) ?_
  · rw [point]
    exact suffix.subset List.mem_cons_self
  · rw [point]
    rfl
  · rw [point]
    rfl
  · exact ⟨List.suffix_refl _, (List.suffix_cons current pending).trans suffix⟩
  · rw [point]
    rfl
  · intro m member
    have before := progress m member
    have currentOnce : current ∉ pending := (List.nodup_cons.mp distinct).1
    rw [publications_cons, callbacks_cons, before.1, before.2]
    by_cases same : m = current
    · subst same
      simp [Event.publishes, Event.callsBack, Thread.unpublished, Thread.unfinished,
        Thread.callback, currentOnce]
    · have other : (current == m) = false := beq_false_of_ne (Ne.symm same)
      by_cases behind : m ∈ pending <;>
        simp [Event.publishes, Event.callsBack, Thread.unpublished, Thread.unfinished,
          Thread.callback, same, other, behind]

/-- A call returns when all its matches are delivered. -/
theorem finish (ledger : Ledger trace threads issued) {thread : T} {callback : Option CallbackId}
    {made : List Match} (point : threads thread = .delivering callback [] made) :
    Ledger (.returned thread callback made :: trace) (Function.update threads thread .idle) issued := by
  have smaller : ∀ t, ∀ m ∈ (Function.update threads thread .idle t).made,
      t ≠ thread ∧ m ∈ (threads t).made := by
    intro t m member
    by_cases same : t = thread
    · rw [same, Function.update_self] at member
      cases member
    · rw [Function.update_of_ne same] at member
      exact ⟨same, member⟩
  have listed : ∀ m ∈ made, m ∈ (threads thread).made := by
    intro m member
    rw [point]
    exact member
  constructor
  · exact ledger.ids
  · exact ledger.numbered
  · intro t busy
    by_cases same : t = thread
    · exact absurd (same ▸ Function.update_self thread Thread.idle threads) (same ▸ busy)
    · rw [Function.update_of_ne same] at busy ⊢
      exact List.mem_cons_of_mem _ (ledger.calls t busy)
  · intro t
    by_cases same : t = thread
    · rw [same, Function.update_self]
      exact ⟨List.suffix_refl _, List.suffix_refl _⟩
    · rw [Function.update_of_ne same]
      exact ledger.pending t
  · intro t t' m member member'
    exact ledger.apart t t' m (smaller t m member).2 (smaller t' m member').2
  · intro t m member
    obtain ⟨other, before⟩ := smaller t m member
    rw [Function.update_of_ne other]
    exact ledger.progress t m before
  · intro t callback' made' returned m member
    rcases List.mem_cons.mp returned with new | old
    · cases new
      have counts := ledger.progress thread m (listed m member)
      rw [point] at counts
      refine ⟨ledger.made_created (listed m member), ?_, ?_, ?_⟩
      · intro t' again
        obtain ⟨other, before⟩ := smaller t' m again
        exact other (ledger.apart t' thread m before (listed m member))
      · exact counts.1.trans (by simp [Thread.unpublished])
      · exact counts.2.trans (by simp [Thread.unfinished, Thread.callback])
    · obtain ⟨created, gone, counts⟩ := ledger.finished t callback' made' old m member
      exact ⟨created, fun t' again => gone t' (smaller t' m again).2, counts⟩
  · intro t callback' made' member
    have before : .created t callback' made' ∈ trace := by simpa using member
    rcases ledger.accounted t callback' made' before with ⟨busy, sameCallback, sameMade⟩ | returned
    · by_cases same : t = thread
      · subst same
        rw [point] at sameCallback sameMade
        cases sameCallback
        cases sameMade
        exact Or.inr List.mem_cons_self
      · rw [Function.update_of_ne same]
        exact Or.inl ⟨busy, sameCallback, sameMade⟩
    · exact Or.inr (List.mem_cons_of_mem _ returned)
  · intro t callback' m member
    obtain ⟨made', created, inMade⟩ := ledger.calledBack t callback' m (by simpa using member)
    exact ⟨made', List.mem_cons_of_mem _ created, inMade⟩
  · exact ledger.untouched

end Ledger

theorem Matchmaker.runMatchingLocked_made {m : Matchmaker R} (coherent : m.queue.Coherent)
    (now : Int) :
    ((m.runMatchingLocked now).2.1.map Match.matchId).Nodup ∧
      ∀ created ∈ (m.runMatchingLocked now).2.1, ∃ number, m.matchCounter < number ∧
        number ≤ (m.runMatchingLocked now).1.matchCounter ∧
        ∃ now a b, created = matchOf now number a b := by
  have effect := runMatchingLocked_effect coherent now
  rw [effect.made, effect.matchCounter]
  refine ⟨matchesOf_ids_nodup now _ _, ?_⟩
  intro created member
  obtain ⟨number, a, b, -, above, below, same⟩ := mem_matchesOf member
  exact ⟨number, above, below, now, a.request, b.request, same⟩

/-- The ledger is kept by every run. -/
theorem ledger_of_run {trace : List (Event T)} {s : Threads R T} (run : Threads.Runs trace s) :
    Ledger trace s.threads s.matchmaker.matchCounter := by
  refine run.invariant (P := fun trace s => Ledger trace s.threads s.matchmaker.matchCounter) ?_ ?_
  · intro s initial
    rw [initial.1, initial.2]
    exact Ledger.start
  · intro trace s items s' run ih taken
    cases taken with
    | setMatchCreatedCallback callback => exact ih
    | enqueue request => exact ih.quiet (Or.inl ⟨_, _, rfl⟩)
    | cancel playerId => exact ih.quiet (Or.inr ⟨_, _, rfl⟩)
    | runMatching thread now point =>
        have coherent := run.reachable.wellFormed.coherent
        have effect := Matchmaker.runMatchingLocked_effect (R := R) coherent now
        obtain ⟨distinct, fresh⟩ := Matchmaker.runMatchingLocked_made (R := R) coherent now
        have later : s.matchmaker.matchCounter ≤
            (s.matchmaker.runMatchingLocked now).1.matchCounter := by
          rw [effect.matchCounter]
          exact Nat.le_add_right _ _
        exact ih.begin point _ later distinct fresh
    | publish thread point => exact ih.publish point
    | callBack thread point => exact ih.callBack point
    | finish thread point => exact ih.finish point
    | poll =>
        rw [Matchmaker.poll_matchCounter]
        exact ih
    | drain => exact ih

/-- The balance of players and matches in a state of a run. -/
structure Conserved (trace : List (Event T)) (s : Threads R T) : Prop where
  players : ∀ playerId, entries playerId trace =
    cancellations playerId trace + matchesWith playerId trace +
      (s.matchmaker.queue.holds playerId).toNat
  ids : ((createdMatches trace).map Match.matchId).Nodup
  atMostOnce : ∀ m, publications m trace ≤ 1 ∧ callbacks m trace ≤ 1
  returned : ∀ t callback made, .returned t callback made ∈ trace → ∀ m ∈ made,
    publications m trace = 1 ∧ callbacks m trace = if callback.isSome then 1 else 0
  accounted : ∀ t callback made, .created t callback made ∈ trace →
    (s.threads t ≠ .idle ∧ (s.threads t).callback = callback ∧ (s.threads t).made = made) ∨
      .returned t callback made ∈ trace
  calledBack : ∀ t callback m, .calledBack t callback m ∈ trace →
    ∃ made, .created t (some callback) made ∈ trace ∧ m ∈ made

omit [DecidableEq T] in
theorem Ledger.atMostOnce {trace : List (Event T)} {threads : T → Thread} {issued : Nat}
    (ledger : Ledger trace threads issued) (m : Match) :
    publications m trace ≤ 1 ∧ callbacks m trace ≤ 1 := by
  by_cases known : m ∈ createdMatches trace
  · obtain ⟨event, member, listed⟩ := List.mem_flatMap.mp known
    cases event with
    | created t callback made =>
        rcases ledger.accounted t callback made member with ⟨-, -, rfl⟩ | returned
        · have counts := ledger.progress t m listed
          rw [counts.1, counts.2]
          exact ⟨Bool.toNat_le _, Bool.toNat_le _⟩
        · obtain ⟨-, -, published, called⟩ := ledger.finished t callback made returned m listed
          rw [published, called]
          exact ⟨Nat.le_refl 1, Bool.toNat_le _⟩
    | enqueued _ _ => cases listed
    | cancelled _ _ => cases listed
    | published _ _ => cases listed
    | calledBack _ _ _ => cases listed
    | returned _ _ _ => cases listed
  · have none := ledger.untouched m known
    omega

/-- Players are conserved and matches are delivered once, in every run of any number
of threads. -/
theorem matchmaking_conserved {trace : List (Event T)} {s : Threads R T}
    (run : Threads.Runs trace s) : Conserved trace s := by
  have ledger := ledger_of_run run
  refine ⟨entries_eq run, ledger.ids, ledger.atMostOnce, ?_, ledger.accounted, ledger.calledBack⟩
  intro t callback made returned m member
  obtain ⟨-, -, published, called⟩ := ledger.finished t callback made returned m member
  refine ⟨published, ?_⟩
  rw [called]
  cases callback <;> rfl

/-- One thread matches two players while another one puts the first of them back into
the queue before their match is delivered. -/
def rejoinActions : List (Action Bool) :=
  [.setMatchCreatedCallback (some 7), .enqueue ⟨"alice", 1200, 0, "any"⟩,
    .enqueue ⟨"bob", 1210, 0, "eu"⟩, .runMatching true 0, .deliver true,
    .enqueue ⟨"alice", 1200, 0, "any"⟩, .deliver true, .deliver true]

/-- The match of that run. -/
def aliceAndBob : Match := ⟨"match-1", ["alice", "bob"], 1205, 0, "eu"⟩

/-- What is observed of that run, newest first. -/
def rejoinTrace : List (Event Bool) :=
  [.returned true (some 7) [aliceAndBob], .calledBack true 7 aliceAndBob, .enqueued "alice" false,
    .published true aliceAndBob, .created true (some 7) [aliceAndBob], .enqueued "bob" false,
    .enqueued "alice" false]

theorem matchmaking_conserved_rejoin :
    ∃ s : Threads ℚ Bool, Conserved rejoinTrace s ∧ s.matchmaker.queue.holds "alice" = true := by
  have fresh : Threads.Initial (⟨.new, fun _ => .idle⟩ : Threads ℚ Bool) := ⟨rfl, rfl⟩
  obtain ⟨trace, s, run, passed⟩ := exists_run_of_replay rejoinActions
    (fun trace s => decide (trace = rejoinTrace) && s.matchmaker.queue.holds "alice") fresh
    (show (replay Threads.perform _ _).any _ = true by decide +kernel)
  simp only [Bool.and_eq_true, decide_eq_true_eq] at passed
  obtain ⟨rfl, waiting⟩ := passed
  exact ⟨s, matchmaking_conserved run, waiting⟩

end Arena60
