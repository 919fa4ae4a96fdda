import Arena60.Misc.Runs

/-!
# Outgoing messages

The write queue of a `ClientSession`. Any number of threads call `QueueMessage`, and the
completions of `async_write` run `OnWrite`; each section under `write_mutex_` is one action,
and between the sections of a call anything else may happen. A call is counted by where it
is: before the locked section of `DoWrite`, between that section and `async_write`, or before
the locked section of `OnWrite`. A call at `async_write` and a write under way are known by
their position among the others.

A write is known by the message it writes. The bytes themselves belong to a local string of `DoWrite`,
which the write may outlive: what is said here is which message is written, not what its memory holds.
-/

namespace Arena60

open Misc

universe u

/-- The write queue of a `ClientSession` and the calls in progress. -/
structure ClientWrites (μ : Type u) where
  writeQueue : List μ
  writing : Bool
  doWrites : Nat
  nexts : List μ
  outstanding : List μ
  onWrites : Nat

/-- What is observed of the writes. -/
inductive WriteItem (μ : Type u) where
  | pushed (message : μ)
  | started (message : μ)
  | completed (message : μ)
  | failed (message : μ)

inductive WriteAction (μ : Type u) where
  | queueMessage (message : μ)
  | doWrite
  | asyncWrite (index : Nat)
  | complete (index : Nat) (ec : Bool)
  | onWrite

namespace ClientWrites

variable {μ : Type u}

/-- A `ClientSession` as it is constructed. -/
def new : ClientWrites μ := ⟨[], false, 0, [], [], 0⟩

/-- The locked section of `QueueMessage`; if it has to write, the call goes on to `DoWrite`. -/
def queueMessage (s : ClientWrites μ) (message : μ) : ClientWrites μ :=
  let s := { s with writeQueue := s.writeQueue ++ [message] }
  if !s.writing then { s with writing := true, doWrites := s.doWrites + 1 } else s

/-- The locked section of `DoWrite`, and its return when the queue is empty. -/
def doWrite (s : ClientWrites μ) : ClientWrites μ :=
  let s := { s with doWrites := s.doWrites - 1 }
  match s.writeQueue with
  | [] => { s with writing := false }
  | next :: _ => { s with nexts := s.nexts ++ [next] }

/-- The locked section of `OnWrite`; unless it returns there, the call goes on to `DoWrite`. -/
def onWrite (s : ClientWrites μ) : ClientWrites μ :=
  let s := { s with onWrites := s.onWrites - 1, writeQueue := s.writeQueue.tail }
  if s.writeQueue.isEmpty then { s with writing := false }
  else { s with doWrites := s.doWrites + 1 }

/-- `DoWrite` without an interruption, if the call goes on to it. -/
def proceed (s : ClientWrites μ) : ClientWrites μ :=
  if s.doWrites = 0 then s
  else
    let s := s.doWrite
    match s.nexts with
    | [] => s
    | next :: nexts => { s with nexts, outstanding := s.outstanding ++ [next] }

/-- Execute an action. A completion with an error stops the session and leaves the queue
alone. -/
def perform : WriteAction μ → ClientWrites μ → Option (List (WriteItem μ) × ClientWrites μ)
  | .queueMessage message, s => some ([.pushed message], s.queueMessage message)
  | .doWrite, s => if s.doWrites = 0 then none else some ([], s.doWrite)
  | .asyncWrite index, s =>
      match s.nexts[index]? with
      | none => none
      | some next =>
          some ([.started next],
            { s with nexts := s.nexts.eraseIdx index, outstanding := s.outstanding ++ [next] })
  | .complete index ec, s =>
      match s.outstanding[index]? with
      | none => none
      | some message =>
          let s := { s with outstanding := s.outstanding.eraseIdx index }
          if ec then some ([.failed message], s)
          else some ([.completed message], { s with onWrites := s.onWrites + 1 })
  | .onWrite, s => if s.onWrites = 0 then none else some ([], s.onWrite)

/-- The session has just been constructed. -/
def Initial (s : ClientWrites μ) : Prop := s = new

/-- The runs of a fresh session. -/
abbrev Runs (trace : List (WriteItem μ)) (s : ClientWrites μ) : Prop :=
  Run Initial (StepOf perform) trace s

end ClientWrites

/-! ## One writer -/

/-- Where the one message that is being written is, with those queued behind it. -/
inductive Writer (μ : Type u) where
  | idle
  | entering (front : μ) (rest : List μ)
  | starting (front : μ) (rest : List μ)
  | flying (front : μ) (rest : List μ)
  | popping (front : μ) (rest : List μ)
  | broken (front : μ) (rest : List μ)

namespace Writer

variable {μ : Type u}

/-- The messages in the queue. -/
def queue : Writer μ → List μ
  | idle => []
  | entering front rest => front :: rest
  | starting front rest => front :: rest
  | flying front rest => front :: rest
  | popping front rest => front :: rest
  | broken front rest => front :: rest

/-- The state of the session. -/
def state : Writer μ → ClientWrites μ
  | idle => ⟨[], false, 0, [], [], 0⟩
  | entering front rest => ⟨front :: rest, true, 1, [], [], 0⟩
  | starting front rest => ⟨front :: rest, true, 0, [front], [], 0⟩
  | flying front rest => ⟨front :: rest, true, 0, [], [front], 0⟩
  | popping front rest => ⟨front :: rest, true, 0, [], [], 1⟩
  | broken front rest => ⟨front :: rest, true, 0, [], [], 0⟩

/-- The message that is written but still in the queue. -/
def written : Writer μ → List μ
  | popping front _ => [front]
  | _ => []

/-- Whether a write has failed. -/
def isBroken : Writer μ → Bool
  | broken _ _ => true
  | _ => false

end Writer

/-! ## Runs -/

section trace

variable {μ : Type u}

def WriteItem.pushed? : WriteItem μ → Option μ
  | pushed message => some message
  | _ => none

def WriteItem.completed? : WriteItem μ → Option μ
  | completed message => some message
  | _ => none

def WriteItem.isStart : WriteItem μ → Bool
  | started _ => true
  | _ => false

def WriteItem.isFailure : WriteItem μ → Bool
  | failed _ => true
  | _ => false

/-- The messages that were queued, oldest first. -/
def queuedIn (trace : List (WriteItem μ)) : List μ := trace.reverse.filterMap WriteItem.pushed?

/-- The messages whose write was completed, oldest first. -/
def completedIn (trace : List (WriteItem μ)) : List μ := trace.reverse.filterMap WriteItem.completed?

/-- No write starts after a failed one. -/
def Quiet (trace : List (WriteItem μ)) : Prop :=
  ∀ newer failure older, trace = newer ++ failure :: older → failure.isFailure = true →
    ∀ item ∈ newer, item.isStart = false

/-- A session is in the state of a writer that has sent some messages. -/
structure Follows (trace : List (WriteItem μ)) (s : ClientWrites μ) (sent : List μ) (writer : Writer μ) :
    Prop where
  state : s = writer.state
  queued : queuedIn trace = sent ++ writer.queue
  completed : completedIn trace = sent ++ writer.written
  broken : writer.isBroken = trace.any WriteItem.isFailure
  quiet : Quiet trace

theorem Quiet.cons {trace : List (WriteItem μ)} (quiet : Quiet trace) {item : WriteItem μ}
    (start : item.isStart = true → trace.any WriteItem.isFailure = false) : Quiet (item :: trace) := by
  intro newer failure older split failed other member
  cases newer with
  | nil => cases member
  | cons newest newer =>
      obtain ⟨rfl, parts⟩ := List.cons.inj split
      cases member with
      | head =>
          have happened : trace.any WriteItem.isFailure = true := by
            have apart : trace = newer ++ failure :: older := parts
            rw [apart, List.any_append, List.any_cons, failed, Bool.true_or, Bool.or_true]
          rw [Bool.eq_false_iff]
          intro started
          rw [start started] at happened
          cases happened
      | tail _ member => exact quiet newer failure older parts failed other member

theorem queuedIn_cons (item : WriteItem μ) (trace : List (WriteItem μ)) :
    queuedIn (item :: trace) = queuedIn trace ++ item.pushed?.toList := by
  unfold queuedIn
  rw [List.reverse_cons, List.filterMap_append]
  cases item <;> rfl

theorem completedIn_cons (item : WriteItem μ) (trace : List (WriteItem μ)) :
    completedIn (item :: trace) = completedIn trace ++ item.completed?.toList := by
  unfold completedIn
  rw [List.reverse_cons, List.filterMap_append]
  cases item <;> rfl

/-- One observed item, and the writer after it. -/
theorem Follows.item {trace : List (WriteItem μ)} {s : ClientWrites μ} {sent : List μ}
    {writer : Writer μ} (follows : Follows trace s sent writer) (item : WriteItem μ)
    (writer' : Writer μ) (queue : writer'.queue = writer.queue ++ item.pushed?.toList)
    (written : writer'.written = writer.written ++ item.completed?.toList)
    (broken : writer'.isBroken = (item.isFailure || writer.isBroken))
    (start : item.isStart = true → writer.isBroken = false) :
    Follows (item :: trace) writer'.state sent writer' where
  state := rfl
  queued := by rw [queuedIn_cons, follows.queued, queue, List.append_assoc]
  completed := by rw [completedIn_cons, follows.completed, written, List.append_assoc]
  broken := by rw [broken, List.any_cons, follows.broken]
  quiet := follows.quiet.cons fun started => follows.broken ▸ start started

/-- An action without an observed item. -/
theorem Follows.silent {trace : List (WriteItem μ)} {s : ClientWrites μ} {sent sent' : List μ}
    {writer : Writer μ} (follows : Follows trace s sent writer) (writer' : Writer μ)
    (queue : sent' ++ writer'.queue = sent ++ writer.queue)
    (written : sent' ++ writer'.written = sent ++ writer.written)
    (broken : writer'.isBroken = writer.isBroken) : Follows trace writer'.state sent' writer' :=
  ⟨rfl, follows.queued.trans queue.symm, follows.completed.trans written.symm,
    broken.trans follows.broken, follows.quiet⟩

/-- What an action does to the one writer. -/
theorem Follows.step {trace items : List (WriteItem μ)} {s s' : ClientWrites μ} {sent : List μ}
    {writer : Writer μ} (follows : Follows trace s sent writer) {action : WriteAction μ}
    (performed : ClientWrites.perform action s = some (items, s')) :
    ∃ sent' writer', Follows (items.reverse ++ trace) s' sent' writer' := by
  have start := follows.state
  subst start
  cases action with
  | queueMessage message =>
      cases performed
      cases writer with
      | idle => exact ⟨sent, _, follows.item (.pushed message) (.entering message []) rfl rfl rfl nofun⟩
      | entering front rest =>
          exact ⟨sent, _, follows.item (.pushed message) (.entering front (rest ++ [message])) rfl rfl rfl nofun⟩
      | starting front rest =>
          exact ⟨sent, _, follows.item (.pushed message) (.starting front (rest ++ [message])) rfl rfl rfl nofun⟩
      | flying front rest =>
          exact ⟨sent, _, follows.item (.pushed message) (.flying front (rest ++ [message])) rfl rfl rfl nofun⟩
      | popping front rest =>
          exact ⟨sent, _, follows.item (.pushed message) (.popping front (rest ++ [message])) rfl rfl rfl nofun⟩
      | broken front rest =>
          exact ⟨sent, _, follows.item (.pushed message) (.broken front (rest ++ [message])) rfl rfl rfl nofun⟩
  | doWrite =>
      cases writer with
      | entering front rest =>
          cases performed
          exact ⟨sent, _, follows.silent (.starting front rest) rfl rfl rfl⟩
      | _ => cases performed
  | asyncWrite index =>
      cases writer with
      | starting front rest =>
          cases index with
          | zero =>
              have same : front :: rest = front :: rest ++ [] := (List.append_nil _).symm
              cases performed
              exact ⟨sent, _, follows.item (.started front) (.flying front rest) same rfl rfl fun _ => rfl⟩
          | succ index => cases performed
      | _ => cases performed
  | complete index ec =>
      cases writer with
      | flying front rest =>
          cases index with
          | zero =>
              have same : front :: rest = front :: rest ++ [] := (List.append_nil _).symm
              cases ec with
              | true =>
                  cases performed
                  exact ⟨sent, _, follows.item (.failed front) (.broken front rest) same rfl rfl nofun⟩
              | false =>
                  cases performed
                  exact ⟨sent, _, follows.item (.completed front) (.popping front rest) same rfl rfl nofun⟩
          | succ index => cases performed
      | _ => cases performed
  | onWrite =>
      cases writer with
      | popping front rest =>
          cases performed
          cases rest with
          | nil =>
              exact ⟨sent ++ [front], _, follows.silent .idle (by simp [Writer.queue])
                (by simp [Writer.written]) rfl⟩
          | cons second rest =>
              exact ⟨sent ++ [front], _, follows.silent (.entering second rest)
                (by simp [Writer.queue]) (by simp [Writer.written]) rfl⟩
      | _ => cases performed

theorem ClientWrites.Runs.follows {trace : List (WriteItem μ)} {s : ClientWrites μ}
    (run : ClientWrites.Runs trace s) : ∃ sent writer, Follows trace s sent writer := by
  refine Run.invariant (P := fun trace s => ∃ sent writer, Follows trace s sent writer) ?_ ?_ run
  · intro s fresh
    refine ⟨[], .idle, fresh, rfl, rfl, rfl, ?_⟩
    intro newer failure older split
    cases newer <;> cases split
  · intro trace s items s' _ follows step
    obtain ⟨sent, writer, follows⟩ := follows
    obtain ⟨action, performed⟩ := step
    exact follows.step performed

/-! ## What the runs guarantee -/

/-- The messages that are still queued: all but the one in flight, or the one written that is
about to be removed. -/
def stillQueued (s : ClientWrites μ) : List μ :=
  s.writeQueue.drop (s.outstanding.length + s.onWrites)

/-- What holds in every state of a session. -/
structure WrittenInOrder (trace : List (WriteItem μ)) (s : ClientWrites μ) : Prop where
  oneAtATime : s.outstanding.length ≤ 1
  idle : s.writing = false → s.outstanding = [] ∧ s.writeQueue = []
  awake : s.writing = true → trace.any WriteItem.isFailure = false →
    s.doWrites + s.nexts.length + s.outstanding.length + s.onWrites = 1
  inOrder : trace.any WriteItem.isFailure = false →
    completedIn trace ++ s.outstanding ++ stillQueued s = queuedIn trace
  quiet : Quiet trace

/-- Messages are written once, in order, one at a time, and not at all after a failure. -/
theorem writes_inOrder {trace : List (WriteItem μ)} {s : ClientWrites μ}
    (run : ClientWrites.Runs trace s) : WrittenInOrder trace s := by
  obtain ⟨sent, writer, follows⟩ := ClientWrites.Runs.follows run
  obtain ⟨rfl, queued, completed, broken, quiet⟩ := follows
  constructor
  · cases writer <;> simp [Writer.state]
  · cases writer <;> simp [Writer.state]
  · intro writing whole
    rw [← broken] at whole
    cases writer with
    | idle => cases writing
    | broken front rest => cases whole
    | _ => rfl
  · intro whole
    rw [← broken] at whole
    rw [queued, completed]
    cases writer with
    | broken front rest => cases whole
    | _ => simp [Writer.state, Writer.written, Writer.queue, stillQueued]
  · exact quiet

/-- Two messages: the second is queued while the first is written, whose completion starts it. -/
theorem writes_inOrder_two : ∃ trace : List (WriteItem String), ∃ s : ClientWrites String,
    WrittenInOrder trace s ∧ s.outstanding = ["death b 7"] ∧ completedIn trace = ["death a 7"] := by
  let actions : List (WriteAction String) :=
    [.queueMessage "death a 7", .doWrite, .queueMessage "death b 7", .asyncWrite 0,
      .complete 0 false, .onWrite, .doWrite, .asyncWrite 0]
  have fresh : ClientWrites.Initial (ClientWrites.new : ClientWrites String) := rfl
  obtain ⟨trace, s, run, reached⟩ := exists_run_of_replay actions
    (fun trace s => s.outstanding == ["death b 7"] && completedIn trace == ["death a 7"]) fresh
    (show (replay ClientWrites.perform _ _).any _ = true by decide +kernel)
  rw [Bool.and_eq_true, beq_iff_eq, beq_iff_eq] at reached
  exact ⟨trace, s, writes_inOrder run, reached⟩

end trace

end Arena60
