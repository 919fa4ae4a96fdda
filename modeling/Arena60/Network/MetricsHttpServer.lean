import Arena60.Misc.Runs
import Arena60.Network.ProfileHttpRouter

/-!
# The HTTP server

`metrics_http_server.{h,cpp}`. Connections are accepted one at a time until the server is stopped, and each
session reads one request, writes one response and closes. The handler sees the rest of the process as it
stands when the request has been read.
-/

namespace Arena60

open Misc Http

universe u v w

/-- `MetricsHttpServer::Session`, by the operation that it waits for. -/
inductive HttpSession where
  | reading
  | writing (response : Response)
  | closed

/-- `MetricsHttpServer`. An accept that is outstanding has completed with or without an error, or not yet. -/
structure MetricsHttpServer where
  running : Bool
  listening : Bool
  accepts : List (Option Bool)
  sessions : List HttpSession

/-- What is observed of the server and of the rest of the process. -/
inductive HttpItem (ι : Type u) where
  | opened (client : Nat)
  | answered (client : Nat) (request : Request) (response : Response)
  | closed (client : Nat)
  | stopped
  | world (item : ι)

/-- The calls of `main`, completions of operations, handlers, and what the rest of the process does. -/
inductive HttpAction (α : Type u) where
  | start
  | stop
  | completeAccept (i : Nat) (ec : Bool)
  | onAccept (i : Nat)
  | onRead (client : Nat) (outcome : Option Request)
  | onWrite (client : Nat) (ec : Bool)
  | world (action : α)

namespace MetricsHttpServer

variable {ι : Type u}

/-- The constructor, when it does not throw. -/
def new : MetricsHttpServer := ⟨false, true, [], []⟩

/-- `MetricsHttpServer::DoAccept`. On a closed acceptor the operation fails. -/
def doAccept (s : MetricsHttpServer) : MetricsHttpServer :=
  { s with accepts := s.accepts ++ [if s.listening then none else some true] }

/-- `MetricsHttpServer::Start`. -/
def start (s : MetricsHttpServer) : MetricsHttpServer :=
  if s.running then s else doAccept { s with running := true }

/-- `MetricsHttpServer::Stop`. Closing the acceptor aborts the operations that have not completed. -/
def stop (s : MetricsHttpServer) : List (HttpItem ι) × MetricsHttpServer :=
  if !s.running then ([], s)
  else ([.stopped], { s with running := false, listening := false, accepts := s.accepts.map fun ec => some (ec.getD true) })

/-- The handler of an accept that has completed. -/
def onAccept (s : MetricsHttpServer) (i : Nat) : Option (List (HttpItem ι) × MetricsHttpServer) :=
  match s.accepts[i]? with
  | some (some ec) =>
      let s := { s with accepts := s.accepts.eraseIdx i }
      if ec then some ([], s)
      else
        let client := s.sessions.length
        let s := { s with sessions := s.sessions ++ [HttpSession.reading] }
        some ([.opened client], if s.running then s.doAccept else s)
  | _ => none

/-- `Session::Close`. -/
def close (s : MetricsHttpServer) (client : Nat) : List (HttpItem ι) × MetricsHttpServer :=
  ([.closed client], { s with sessions := s.sessions.set client .closed })

/-- The response of `Session::HandleRequest`. -/
def respond (handler : Option (Request → Response)) (request : Request) : Response :=
  match handler with
  | some handler => handler request
  | none => request.reply .notFound "text/plain" "Not Found"

/-- The handler of `Session::ReadRequest`, and `Session::HandleRequest`. -/
def onRead (handler : Option (Request → Response)) (s : MetricsHttpServer) (client : Nat) (outcome : Option Request) :
    Option (List (HttpItem ι) × MetricsHttpServer) :=
  match s.sessions[client]? with
  | some .reading =>
      match outcome with
      | none => some (s.close client)
      | some request =>
          let response := respond handler request
          some ([.answered client request response], { s with sessions := s.sessions.set client (.writing response) })
  | _ => none

/-- The handler of the write; an error is only logged. -/
def onWrite (s : MetricsHttpServer) (client : Nat) : Option (List (HttpItem ι) × MetricsHttpServer) :=
  match s.sessions[client]? with
  | some (.writing _) => some (s.close client)
  | _ => none

end MetricsHttpServer

/-- The server and the rest of the process. -/
structure HttpProcess (σ : Type v) where
  http : MetricsHttpServer
  world : σ

namespace HttpProcess

variable {ι : Type u} {σ : Type v} {α : Type w}

/-- Execute an action; `worldPerform` is what the rest of the process does. -/
def perform (handler : Option (σ → Request → Response)) (worldPerform : α → σ → Option (List ι × σ))
    (action : HttpAction α) (s : HttpProcess σ) : Option (List (HttpItem ι) × HttpProcess σ) :=
  let onServer := fun (result : List (HttpItem ι) × MetricsHttpServer) => (result.1, { s with http := result.2 })
  match action with
  | .start => some ([], { s with http := s.http.start })
  | .stop => some (onServer s.http.stop)
  | .completeAccept i ec =>
      match s.http.accepts[i]? with
      | some none => some ([], { s with http := { s.http with accepts := s.http.accepts.set i (some ec) } })
      | _ => none
  | .onAccept i => (s.http.onAccept i).map onServer
  | .onRead client outcome => (s.http.onRead (handler.map (· s.world)) client outcome).map onServer
  | .onWrite client _ => (s.http.onWrite client).map onServer
  | .world action => (worldPerform action s.world).map fun (items, world) => (items.map .world, { s with world })

/-- The server has been constructed. -/
def Initial (init : σ → Prop) (s : HttpProcess σ) : Prop := s.http = .new ∧ init s.world

/-- The runs of the process. -/
abbrev Runs (init : σ → Prop) (handler : Option (σ → Request → Response))
    (worldPerform : α → σ → Option (List ι × σ)) (trace : List (HttpItem ι)) (s : HttpProcess σ) : Prop :=
  Run (Initial init) (StepOf (perform handler worldPerform)) trace s

end HttpProcess

/-! ## What a step can do -/

namespace MetricsHttpServer

variable {ι : Type u}

/-- The steps of the server. -/
inductive Stepped (handler : Option (Request → Response)) (s : MetricsHttpServer) :
    List (HttpItem ι) → MetricsHttpServer → Prop
  | stay : Stepped handler s [] s
  | start (idle : s.running = false) : Stepped handler s [] (doAccept { s with running := true })
  | stop (running : s.running = true) : Stepped handler s [.stopped]
      { s with running := false, listening := false, accepts := s.accepts.map fun ec => some (ec.getD true) }
  | complete {i : Nat} (pending : s.accepts[i]? = some none) (ec : Bool) :
      Stepped handler s [] { s with accepts := s.accepts.set i (some ec) }
  | fail {i : Nat} (failed : s.accepts[i]? = some (some true)) :
      Stepped handler s [] { s with accepts := s.accepts.eraseIdx i }
  | accept {i : Nat} (succeeded : s.accepts[i]? = some (some false)) (running : s.running = true) :
      Stepped handler s [.opened s.sessions.length]
        (doAccept { s with accepts := s.accepts.eraseIdx i, sessions := s.sessions ++ [HttpSession.reading] })
  | acceptLate {i : Nat} (succeeded : s.accepts[i]? = some (some false)) (halted : s.running = false) :
      Stepped handler s [.opened s.sessions.length]
        { s with accepts := s.accepts.eraseIdx i, sessions := s.sessions ++ [HttpSession.reading] }
  | refuse {client : Nat} (reading : s.sessions[client]? = some .reading) :
      Stepped handler s [.closed client] { s with sessions := s.sessions.set client .closed }
  | answer {client : Nat} (reading : s.sessions[client]? = some .reading) (request : Request) :
      Stepped handler s [.answered client request (respond handler request)]
        { s with sessions := s.sessions.set client (.writing (respond handler request)) }
  | finish {client : Nat} {response : Response} (writing : s.sessions[client]? = some (.writing response)) :
      Stepped handler s [.closed client] { s with sessions := s.sessions.set client .closed }

variable {handler : Option (Request → Response)} {s s' : MetricsHttpServer} {items : List (HttpItem ι)}

theorem onAccept_stepped {i : Nat} (handled : s.onAccept i = some (items, s')) : Stepped handler s items s' := by
  unfold onAccept at handled
  split at handled
  · next ec found =>
      cases ec with
      | true =>
          cases handled
          exact .fail found
      | false =>
          simp only [Bool.false_eq_true, if_false, Option.some.injEq, Prod.mk.injEq] at handled
          obtain ⟨rfl, rfl⟩ := handled
          split
          · next running => exact .accept found running
          · next halted => exact .acceptLate found (Bool.eq_false_iff.mpr halted)
  · cases handled

theorem onRead_stepped {client : Nat} {outcome : Option Request}
    (handled : onRead handler s client outcome = some (items, s')) : Stepped handler s items s' := by
  unfold onRead at handled
  split at handled
  · next reading =>
      cases outcome with
      | none =>
          cases handled
          exact .refuse reading
      | some request =>
          cases handled
          exact .answer reading request
  · cases handled

theorem onWrite_stepped {client : Nat} (handled : s.onWrite client = some (items, s')) :
    Stepped handler s items s' := by
  unfold onWrite at handled
  split at handled
  · next writing =>
      cases handled
      exact .finish writing
  · cases handled

end MetricsHttpServer

namespace HttpProcess

variable {ι : Type u} {σ : Type v} {α : Type w} {handler : Option (σ → Request → Response)}
  {worldPerform : α → σ → Option (List ι × σ)} {s s' : HttpProcess σ} {items : List (HttpItem ι)}

/-- The server makes a step, or the rest of the process. -/
theorem perform_cases {action : HttpAction α} (performed : perform handler worldPerform action s = some (items, s')) :
    (s'.world = s.world ∧ s.http.Stepped (handler.map (· s.world)) items s'.http) ∨
      s'.http = s.http ∧ ∃ made, items = made.map .world ∧ StepOf worldPerform s.world made s'.world := by
  cases action with
  | start =>
      cases performed
      refine Or.inl ⟨rfl, ?_⟩
      dsimp only
      unfold MetricsHttpServer.start
      split
      · exact .stay
      · next idle => exact .start (Bool.eq_false_iff.mpr idle)
  | stop =>
      cases performed
      refine Or.inl ⟨rfl, ?_⟩
      dsimp only
      unfold MetricsHttpServer.stop
      split
      · exact .stay
      · next running =>
          rw [Bool.not_eq_true', Bool.not_eq_false] at running
          exact .stop running
  | completeAccept i ec =>
      unfold perform at performed
      dsimp only at performed
      split at performed
      · next pending =>
          cases performed
          exact Or.inl ⟨rfl, .complete pending ec⟩
      · cases performed
  | onAccept i =>
      obtain ⟨result, handled, made⟩ := Option.map_eq_some_iff.mp performed
      cases made
      exact Or.inl ⟨rfl, MetricsHttpServer.onAccept_stepped handled⟩
  | onRead client outcome =>
      obtain ⟨result, handled, made⟩ := Option.map_eq_some_iff.mp performed
      cases made
      exact Or.inl ⟨rfl, MetricsHttpServer.onRead_stepped handled⟩
  | onWrite client ec =>
      obtain ⟨result, handled, made⟩ := Option.map_eq_some_iff.mp performed
      cases made
      exact Or.inl ⟨rfl, MetricsHttpServer.onWrite_stepped handled⟩
  | world action =>
      obtain ⟨result, handled, made⟩ := Option.map_eq_some_iff.mp performed
      cases made
      exact Or.inr ⟨rfl, result.1, rfl, action, handled⟩

end HttpProcess

/-! ## Conversations -/

section conversations

variable {ι : Type u}

/-- The item is about the session. -/
def HttpItem.isAbout (client : Nat) : HttpItem ι → Bool
  | opened other | answered other _ _ | closed other => other == client
  | stopped | world _ => false

/-- What is observed of a session, oldest first. -/
def conversation (client : Nat) (trace : List (HttpItem ι)) : List (HttpItem ι) :=
  trace.reverse.filter (HttpItem.isAbout client)

/-- At most one request is read, it is answered at once, and nothing follows but the end. -/
inductive Conversation (client : Nat) : Option HttpSession → List (HttpItem ι) → Prop
  | none : Conversation client none []
  | reading : Conversation client (some .reading) [.opened client]
  | refused : Conversation client (some .closed) [.opened client, .closed client]
  | writing (request : Request) (response : Response) :
      Conversation client (some (.writing response)) [.opened client, .answered client request response]
  | ended (request : Request) (response : Response) : Conversation client (some .closed)
      [.opened client, .answered client request response, .closed client]

theorem conversation_append (client : Nat) (items trace : List (HttpItem ι)) :
    conversation client (items.reverse ++ trace) =
      conversation client trace ++ items.filter (HttpItem.isAbout client) := by
  rw [conversation, List.reverse_append, List.reverse_reverse, List.filter_append, conversation]

theorem conversation_append_other {client : Nat} {items : List (HttpItem ι)} (trace : List (HttpItem ι))
    (other : ∀ item ∈ items, item.isAbout client = false) :
    conversation client (items.reverse ++ trace) = conversation client trace := by
  have none : items.filter (HttpItem.isAbout client) = [] := by
    refine List.filter_eq_nil_iff.mpr fun item member => ?_
    rw [other item member]
    exact Bool.false_ne_true
  rw [conversation_append, none, List.append_nil]

/-- One more item about a session. -/
theorem conversation_cons_about {client : Nat} {item : HttpItem ι} (trace : List (HttpItem ι))
    (about : item.isAbout client = true) :
    conversation client ([item].reverse ++ trace) = conversation client trace ++ [item] := by
  rw [conversation_append, List.filter_cons_of_pos about, List.filter_nil]

variable {handler : Option (Request → Response)} {s s' : MetricsHttpServer} {items trace : List (HttpItem ι)}

/-- A step that changes one session. -/
theorem Conversation.set {changed : Nat} {session : HttpSession} {item : HttpItem ι}
    (talks : ∀ client, Conversation client s.sessions[client]? (conversation client trace))
    (about : ∀ client, item.isAbout client = true ↔ client = changed) (present : changed < s.sessions.length)
    (next : Conversation changed (some session) (conversation changed trace ++ [item])) (client : Nat) :
    Conversation client (s.sessions.set changed session)[client]? (conversation client ([item].reverse ++ trace)) := by
  by_cases same : client = changed
  · subst same
    rw [List.getElem?_set_self present, conversation_cons_about trace ((about client).mpr rfl)]
    exact next
  · have other : ∀ listed ∈ [item], listed.isAbout client = false := by
      rw [List.forall_mem_singleton]
      exact Bool.eq_false_iff.mpr fun mine => same ((about client).mp mine)
    rw [List.getElem?_set_ne (Ne.symm same), conversation_append_other trace other]
    exact talks client

/-- A session is opened. -/
theorem Conversation.open
    (talks : ∀ client, Conversation client s.sessions[client]? (conversation client trace)) (client : Nat) :
    Conversation client (s.sessions ++ [HttpSession.reading])[client]?
      (conversation client ([HttpItem.opened s.sessions.length].reverse ++ trace)) := by
  have before := talks client
  by_cases same : client = s.sessions.length
  · subst same
    rw [List.getElem?_eq_none (Nat.le_refl _)] at before
    rw [List.getElem?_concat_length, conversation_cons_about trace (beq_self_eq_true _)]
    cases silent : conversation s.sessions.length trace with
    | nil => exact .reading
    | cons item rest =>
        rw [silent] at before
        cases before
  · have other : ∀ listed ∈ [(HttpItem.opened s.sessions.length : HttpItem ι)], listed.isAbout client = false := by
      rw [List.forall_mem_singleton]
      exact beq_eq_false_iff_ne.mpr (Ne.symm same)
    rw [conversation_append_other trace other]
    by_cases old : client < s.sessions.length
    · rwa [List.getElem?_append_left old]
    · have beyond : s.sessions.length + 1 ≤ client := by omega
      rw [List.getElem?_eq_none (by rw [List.length_append]; exact beyond)]
      rwa [List.getElem?_eq_none (not_lt.mp old)] at before

theorem MetricsHttpServer.Stepped.conversation (step : s.Stepped handler items s')
    (talks : ∀ client, Conversation client s.sessions[client]? (conversation client trace)) (client : Nat) :
    Conversation client s'.sessions[client]? (Arena60.conversation client (items.reverse ++ trace)) := by
  cases step with
  | stay | start _ | complete _ _ | fail _ => exact talks client
  | stop _ =>
      rw [conversation_append_other trace (List.forall_mem_singleton.mpr rfl)]
      exact talks client
  | accept _ _ => exact Conversation.open talks client
  | acceptLate _ _ => exact Conversation.open talks client
  | @refuse changed reading =>
      have before := talks changed
      rw [reading] at before
      refine Conversation.set talks (fun _ => by rw [HttpItem.isAbout, beq_iff_eq]; exact eq_comm)
        (List.getElem?_eq_some_iff.mp reading).1 ?_ client
      generalize Arena60.conversation changed trace = said at before ⊢
      cases before
      exact .refused
  | @answer changed reading request =>
      have before := talks changed
      rw [reading] at before
      refine Conversation.set talks (fun _ => by rw [HttpItem.isAbout, beq_iff_eq]; exact eq_comm)
        (List.getElem?_eq_some_iff.mp reading).1 ?_ client
      generalize Arena60.conversation changed trace = said at before ⊢
      cases before
      exact .writing request _
  | @finish changed response writing =>
      have before := talks changed
      rw [writing] at before
      refine Conversation.set talks (fun _ => by rw [HttpItem.isAbout, beq_iff_eq]; exact eq_comm)
        (List.getElem?_eq_some_iff.mp writing).1 ?_ client
      generalize Arena60.conversation changed trace = said at before ⊢
      cases before
      exact .ended _ response

end conversations

/-! ## After the stop -/

section late

variable {ι : Type u}

def HttpItem.isStop : HttpItem ι → Bool
  | stopped => true
  | _ => false

/-- The number of sessions that are opened after a stop. -/
def lateSessions : List (HttpItem ι) → Nat
  | [] => 0
  | .opened _ :: older => lateSessions older + (older.any HttpItem.isStop).toNat
  | _ :: older => lateSessions older

theorem lateSessions_of_running {trace : List (HttpItem ι)} (running : trace.any HttpItem.isStop = false) :
    lateSessions trace = 0 := by
  induction trace with
  | nil => rfl
  | cons item older ih =>
      rw [List.any_cons, Bool.or_eq_false_iff] at running
      cases item with
      | opened client => rw [lateSessions, ih running.2, running.2, Bool.toNat_false]
      | _ => exact ih running.2

namespace MetricsHttpServer

/-- The number of accepts that can still open a session. -/
def offers (s : MetricsHttpServer) : Nat := s.accepts.countP fun ec => ec != some true

theorem offers_doAccept (s : MetricsHttpServer) : s.doAccept.offers = s.offers + s.listening.toNat := by
  unfold offers doAccept
  cases s.listening with
  | true => exact List.countP_append
  | false => exact List.countP_append

/-- An accept that completes with success has been an offer. -/
theorem offers_accept {s : MetricsHttpServer} {i : Nat} (succeeded : s.accepts[i]? = some (some false)) :
    (s.accepts.eraseIdx i).countP (fun ec => ec != some true) + 1 = s.offers := by
  obtain ⟨inside, found⟩ := List.getElem?_eq_some_iff.mp succeeded
  have moved := (List.getElem_cons_eraseIdx_perm inside).countP_eq fun ec => ec != some true
  rw [found, List.countP_cons_of_pos (by decide)] at moved
  exact moved

/-- What is offered, and what was opened after a stop. -/
structure Offered (trace : List (HttpItem ι)) (s : MetricsHttpServer) : Prop where
  once : s.offers ≤ 1
  unstarted : s.listening = true → s.running = false → s.offers = 0
  halted : trace.any HttpItem.isStop = !s.listening
  late : s.listening = false → lateSessions trace + s.offers ≤ 1

variable {handler : Option (Request → Response)} {s s' : MetricsHttpServer} {items trace : List (HttpItem ι)}

/-- A step after which no more is offered. -/
theorem Offered.fewer (offered : Offered trace s) (running : s'.running = s.running)
    (listening : s'.listening = s.listening) (fewer : s'.offers ≤ s.offers) : Offered trace s' := by
  refine ⟨fewer.trans offered.once, ?_, ?_, ?_⟩
  · intro open' idle
    have nothing := offered.unstarted (listening ▸ open') (running ▸ idle)
    omega
  · rw [listening]
    exact offered.halted
  · intro closed
    have late := offered.late (listening ▸ closed)
    omega

/-- An item that neither stops the server nor opens a session. -/
theorem Offered.quiet {item : HttpItem ι} (offered : Offered trace s) (noStop : item.isStop = false)
    (same : lateSessions (item :: trace) = lateSessions trace) : Offered (item :: trace) s := by
  refine ⟨offered.once, offered.unstarted, ?_, ?_⟩
  · rw [List.any_cons, noStop, Bool.false_or]
    exact offered.halted
  · rw [same]
    exact offered.late

theorem Offered.stop (offered : Offered trace s) : Offered (.stopped :: trace)
    { s with running := false, listening := false, accepts := s.accepts.map fun ec => some (ec.getD true) } := by
  have fewer : (s.accepts.map fun ec => some (ec.getD true)).countP (fun ec => ec != some true) ≤ s.offers := by
    rw [List.countP_map]
    refine List.countP_mono_left fun ec _ offer => ?_
    cases ec with
    | none => rfl
    | some ec => exact offer
  refine ⟨fewer.trans offered.once, fun listening => (by cases listening), rfl, fun _ => ?_⟩
  have before : lateSessions trace + s.offers ≤ 1 := by
    cases listening : s.listening with
    | true =>
        have none : trace.any HttpItem.isStop = false := by rw [offered.halted, listening]; rfl
        rw [lateSessions_of_running none, Nat.zero_add]
        exact offered.once
    | false => exact offered.late listening
  exact (Nat.add_le_add_left fewer _).trans before

/-- A session is opened, and after that at most as much is offered. -/
theorem Offered.open (offered : Offered trace s) {i : Nat} (succeeded : s.accepts[i]? = some (some false))
    (client : Nat) (sessions : List HttpSession) :
    Offered (.opened client :: trace) { s with accepts := s.accepts.eraseIdx i, sessions } := by
  have spent := offers_accept succeeded
  have one := offered.once
  have none : (s.accepts.eraseIdx i).countP (fun ec => ec != some true) = 0 := by omega
  refine ⟨none.le.trans (Nat.zero_le 1), fun _ _ => none, ?_, ?_⟩
  · have noStop : (HttpItem.opened client : HttpItem ι).isStop = false := rfl
    rw [List.any_cons, noStop, Bool.false_or]
    exact offered.halted
  · intro closed
    have late := offered.late closed
    have most := Bool.toNat_le (trace.any HttpItem.isStop)
    change lateSessions trace + (trace.any HttpItem.isStop).toNat +
      (s.accepts.eraseIdx i).countP (fun ec => ec != some true) ≤ 1
    omega

/-- A further accept, of a server that runs. -/
theorem Offered.again (offered : Offered trace s) (running : s.running = true) (none : s.offers = 0) :
    Offered trace s.doAccept := by
  have offers := s.offers_doAccept
  have most := Bool.toNat_le s.listening
  refine ⟨by omega, ?_, offered.halted, ?_⟩
  · intro _ idle
    have same : s.doAccept.running = s.running := rfl
    rw [same, running] at idle
    cases idle
  · intro closed
    have still : s.listening = false := closed
    have late := offered.late still
    rw [still, Bool.toNat_false] at offers
    omega

theorem Stepped.offered (step : s.Stepped handler items s') (offered : Offered trace s) :
    Offered (items.reverse ++ trace) s' := by
  cases step with
  | stay => exact offered
  | start idle =>
      have started : Offered trace { s with running := true } :=
        ⟨offered.once, fun _ stillIdle => (by cases stillIdle), offered.halted, offered.late⟩
      by_cases listening : s.listening = true
      · exact started.again rfl (offered.unstarted listening idle)
      · have offers : (doAccept { s with running := true }).offers = s.offers + s.listening.toNat :=
          offers_doAccept { s with running := true }
        have closed : s.listening.toNat = 0 := by rw [Bool.eq_false_iff.mpr listening, Bool.toNat_false]
        exact started.fewer rfl rfl (offers.trans (congrArg (s.offers + ·) closed)).le
  | stop _ => exact offered.stop
  | @complete i pending ec =>
      obtain ⟨inside, found⟩ := List.getElem?_eq_some_iff.mp pending
      refine offered.fewer rfl rfl ?_
      have counted := List.countP_set (p := fun ec => ec != some true) (a := some ec) inside
      have offer : 0 < s.accepts.countP fun ec => ec != some true :=
        List.countP_pos_iff.mpr ⟨none, found ▸ List.getElem_mem inside, rfl⟩
      have most : (if (some ec != some true) = true then 1 else 0) ≤ 1 := by split <;> omega
      have one : (if ((none : Option Bool) != some true) = true then 1 else 0) = 1 := rfl
      rw [found, one] at counted
      change (s.accepts.set i (some ec)).countP (fun ec => ec != some true) ≤
        s.accepts.countP fun ec => ec != some true
      omega
  | fail failed => exact offered.fewer rfl rfl ((List.eraseIdx_sublist _ _).countP_le)
  | accept succeeded running =>
      have opened := offered.open succeeded s.sessions.length (s.sessions ++ [HttpSession.reading])
      have spent := offers_accept succeeded
      have one := offered.once
      exact opened.again running (Nat.le_zero.mp (by
        change (s.accepts.eraseIdx _).countP (fun ec => ec != some true) ≤ 0
        omega))
  | acceptLate succeeded _ => exact offered.open succeeded _ _
  | refuse _ => exact (offered.quiet rfl rfl).fewer rfl rfl (Nat.le_refl _)
  | answer _ request => exact (offered.quiet rfl rfl).fewer rfl rfl (Nat.le_refl _)
  | finish _ => exact (offered.quiet rfl rfl).fewer rfl rfl (Nat.le_refl _)

end MetricsHttpServer

end late

/-! ## Runs -/

namespace HttpProcess

variable {ι : Type u} {σ : Type v} {α : Type w} {init : σ → Prop} {handler : Option (σ → Request → Response)}
  {worldPerform : α → σ → Option (List ι × σ)} {s : HttpProcess σ} {trace : List (HttpItem ι)}

/-- What is observed of the rest of the process. -/
def worldItem? : HttpItem ι → Option ι
  | .world item => some item
  | _ => none

def worldItems (trace : List (HttpItem ι)) : List ι := trace.filterMap worldItem?

theorem worldItems_append_world (made : List ι) (trace : List (HttpItem ι)) :
    worldItems ((made.map HttpItem.world).reverse ++ trace) = made.reverse ++ worldItems trace := by
  have all : (made.map HttpItem.world).filterMap worldItem? = made := by
    rw [List.filterMap_map]
    exact List.filterMap_some
  rw [worldItems, List.filterMap_append, List.filterMap_reverse, all, worldItems]

theorem stepped_worldItems {answer : Option (Request → Response)} {http http' : MetricsHttpServer}
    {items : List (HttpItem ι)} (step : http.Stepped answer items http') (trace : List (HttpItem ι)) :
    HttpProcess.worldItems (items.reverse ++ trace) = HttpProcess.worldItems trace := by
  cases step <;> rfl

/-- The rest of the process runs as it does alone. -/
theorem Runs.worldRun (run : Runs init handler worldPerform trace s) :
    Run init (StepOf worldPerform) (worldItems trace) s.world := by
  induction run with
  | start initial => exact .start initial.2
  | next earlier step ih =>
      obtain ⟨action, performed⟩ := step
      rcases perform_cases performed with ⟨world, stepped⟩ | ⟨-, made, rfl, taken⟩
      · rw [world, stepped_worldItems stepped]
        exact ih
      · rw [worldItems_append_world]
        exact .next ih taken

theorem stepped_answered {answer : Option (Request → Response)} {http http' : MetricsHttpServer}
    {items rest : List (HttpItem ι)} (step : http.Stepped answer items http') {client : Nat} {request : Request}
    {response : Response} (answered : .answered client request response :: rest <:+ items.reverse) :
    rest = [] ∧ response = MetricsHttpServer.respond answer request := by
  have only : ∀ {item : HttpItem ι}, .answered client request response :: rest <:+ [item] →
      HttpItem.answered client request response = item ∧ rest = [] := by
    intro item suffix
    rcases List.suffix_cons_iff.mp suffix with same | none
    · exact List.cons.inj same
    · cases List.eq_nil_of_suffix_nil none
  cases step with
  | answer reading asked =>
      obtain ⟨same, none⟩ := only answered
      cases same
      exact ⟨none, rfl⟩
  | refuse _ | finish _ | accept _ _ | acceptLate _ _ | stop _ => cases (only answered).1
  | stay | start _ | complete _ _ | fail _ => cases List.eq_nil_of_suffix_nil answered

/-- An answer is the one that the handler gives in the state in which the request is read. -/
theorem response_of_perform {action : HttpAction α} {items : List (HttpItem ι)} {s s' : HttpProcess σ}
    (performed : perform handler worldPerform action s = some (items, s')) {client : Nat} {request : Request}
    {response : Response} (answered : .answered client request response ∈ items) :
    response = MetricsHttpServer.respond (handler.map (· s.world)) request := by
  rcases perform_cases performed with ⟨-, stepped⟩ | ⟨-, made, rfl, -⟩
  · obtain ⟨newer, older, split⟩ := List.append_of_mem (List.mem_reverse.mpr answered)
    exact (stepped_answered stepped (split ▸ List.suffix_append newer _)).2
  · obtain ⟨item, -, none⟩ := List.mem_map.mp answered
    cases none

/-- An answer is the one that the handler gives in the state of the process at that time. -/
theorem Runs.answered (run : Runs init handler worldPerform trace s) {client : Nat} {request : Request}
    {response : Response} {older : List (HttpItem ι)} (answered : .answered client request response :: older <:+ trace) :
    ∃ world, Run init (StepOf worldPerform) (worldItems older) world ∧
      response = MetricsHttpServer.respond (handler.map (· world)) request := by
  induction run with
  | start initial => cases List.eq_nil_of_suffix_nil answered
  | @next trace items s s' earlier step ih =>
      obtain ⟨action, performed⟩ := step
      rcases suffix_cons_append answered with old | ⟨rest, new, rfl⟩
      · exact ih old
      · rcases perform_cases performed with ⟨-, stepped⟩ | ⟨-, made, rfl, -⟩
        · obtain ⟨rfl, right⟩ := stepped_answered stepped new
          exact ⟨s.world, Runs.worldRun earlier, right⟩
        · obtain ⟨item, -, none⟩ := List.mem_map.mp (List.mem_reverse.mp (new.subset List.mem_cons_self))
          cases none

theorem Runs.conversation (run : Runs init handler worldPerform trace s) :
    ∀ client, Conversation client s.http.sessions[client]? (conversation client trace) := by
  induction run with
  | start initial =>
      intro client
      rw [initial.1]
      exact .none
  | next earlier step ih =>
      obtain ⟨action, performed⟩ := step
      rcases perform_cases performed with ⟨-, stepped⟩ | ⟨http, made, rfl, -⟩
      · exact stepped.conversation ih
      · intro client
        rw [http, conversation_append_other]
        · exact ih client
        · intro item member
          obtain ⟨other, -, rfl⟩ := List.mem_map.mp member
          rfl

theorem Runs.offered (run : Runs init handler worldPerform trace s) : s.http.Offered trace := by
  induction run with
  | start initial =>
      rw [initial.1]
      exact ⟨Nat.zero_le 1, fun _ _ => rfl, rfl, fun closed => (by cases closed)⟩
  | @next trace items s s' earlier step ih =>
      obtain ⟨action, performed⟩ := step
      rcases perform_cases performed with ⟨-, stepped⟩ | ⟨http, made, rfl, -⟩
      · exact stepped.offered ih
      · rw [http]
        clear performed
        induction made using List.reverseRecOn with
        | nil => exact ih
        | append_singleton made item rest =>
            rw [List.map_append, List.reverse_append]
            exact rest.quiet rfl rfl

/-- Each client gets at most one answer, which is the handler's in the state of the process when the request was
read, and then the end; after a stop at most one more client is served. -/
theorem Runs.served (run : Runs init handler worldPerform trace s) :
    (∀ client, Conversation client s.http.sessions[client]? (Arena60.conversation client trace)) ∧
      (∀ client request response older, .answered client request response :: older <:+ trace →
        ∃ world, Run init (StepOf worldPerform) (worldItems older) world ∧
          response = MetricsHttpServer.respond (handler.map (· world)) request) ∧
      lateSessions trace ≤ 1 := by
  refine ⟨Runs.conversation run, fun client request response older => Runs.answered run, ?_⟩
  have offered := Runs.offered run
  cases listening : s.http.listening with
  | true =>
      have none : trace.any HttpItem.isStop = false := by rw [offered.halted, listening]; rfl
      exact (lateSessions_of_running none).le.trans (Nat.zero_le 1)
  | false => exact (Nat.le_add_right _ _).trans (offered.late listening)

end HttpProcess

/-- A clock that ticks beside the server, and a request for it; a second client has just connected when the server is
stopped. -/
def clockRequests : List (HttpAction Unit) :=
  [.start, .completeAccept 0 false, .onAccept 0, .completeAccept 0 false, .stop, .onAccept 0, .world (), .world (),
    .onRead 0 (some ⟨.get, "/clock", 11⟩), .onWrite 0 false]

theorem served_clock : ∃ (trace : List (HttpItem Unit)) (s : HttpProcess Nat),
    (∀ client, Conversation client s.http.sessions[client]? (conversation client trace)) ∧
      lateSessions trace = 1 ∧ (conversation 0 trace).length = 3 ∧ s.http.sessions.length = 2 := by
  let tick := fun (_ : Unit) (now : Nat) => some ([()], now + 1)
  let handler := some fun (now : Nat) (request : Request) => request.reply .ok "text/plain" (toString now)
  have fresh : HttpProcess.Initial (· = 0) (⟨.new, 0⟩ : HttpProcess Nat) := ⟨rfl, rfl⟩
  obtain ⟨trace, s, run, passed⟩ := exists_run_of_replay clockRequests
    (fun trace s => lateSessions trace == 1 && (conversation 0 trace).length == 3 && s.http.sessions.length == 2) fresh
    (show (replay (HttpProcess.perform handler tick) _ _).any _ = true by decide +kernel)
  simp only [Bool.and_eq_true, beq_iff_eq] at passed
  exact ⟨trace, s, (HttpProcess.Runs.served run).1, passed.1.1, passed.1.2, passed.2⟩

end Arena60
