/-
  Samara.Controlled.Requests

  Requests and Replies in the controlled runtime: the table of outstanding
  requests refines the correlation table of `Samara.Logic.Correlation`, and a
  Reply invokes the continuation that was created with its token.
-/
import Samara.Controlled.Obligations
import Samara.Logic.Correlation

namespace Samara

open Correlation (issued answered)
open Relation (ReflTransGen)

variable [RustTypes]

namespace Controlled

/-! ## Requests and Replies in the history -/

/-- What an observation means to the table of requests. -/
def Observation.correlation? :
    Observation → Option (Correlation.Event OutstandingRequest TypeId)
  | .requested request => some (.issued request)
  | .declared _ _ _ ⟨_, .reply command⟩ =>
      some (.answered command.replyTo.correlation command.replyType)
  | _ => none

def Core.correlations (core : Core) : List (Correlation.Event OutstandingRequest TypeId) :=
  core.journal.filterMap Observation.correlation?

/-- The table of requests, with the history of its numbers. -/
def Core.requestTable (core : Core) : Correlation.Machine OutstandingRequest TypeId :=
  ⟨core.nextCorrelation, core.correlations, core.requests⟩

/-- The run has used only tokens that this runtime issued, each once. -/
def Core.LinearReplies (core : Core) : Prop :=
  Correlation.Linear OutstandingRequest.correlation OutstandingRequest.replyType core.correlations

instance (core : Core) : Decidable core.LinearReplies :=
  inferInstanceAs (Decidable (Correlation.Linear _ _ core.correlations))

/-- The token of `command` was issued by this runtime, for this type of Reply,
    and has not been used. -/
def Core.Entrusts (core : Core) (command : ReplyCommand) : Prop :=
  Correlation.Redeems OutstandingRequest.correlation OutstandingRequest.replyType
    core.correlations command.replyTo.correlation command.replyType

/-- The invocation of a continuation. -/
structure Continuation where
  request : OutstandingRequest
  reply : ErasedValue
  message : ErasedValue

def Observation.continued? : Observation → Option Continuation
  | .continued request reply message => some ⟨request, reply, message⟩
  | _ => none

/-- The continuations a run has invoked, in order. -/
def Core.continuations (core : Core) : List Continuation :=
  core.journal.filterMap Observation.continued?

def Observation.reply? : Observation → Option ReplyCommand
  | .declared _ _ _ ⟨_, .reply command⟩ => some command
  | _ => none

/-- The Replies a run has interpreted, in order. -/
def Core.replies (core : Core) : List ReplyCommand := core.journal.filterMap Observation.reply?

/-- `request` was created by a Request declaration, together with the token
    under its number. -/
def Core.Creates (core : Core) (request : OutstandingRequest) : Prop :=
  ∃ (work : TraceId) (time : Duration) (message : TypeId) (command : RequestCommand message)
    (protocolMessage : ErasedValue),
    ⟨work, request.requester, time, ⟨message, .request command⟩⟩ ∈ core.declarations ∧
      command.intoMessage request.correlation = .ok protocolMessage ∧
      request = ⟨request.correlation, request.requester, command.replyType, command.mapper, message⟩

/-- A continuation is the one that the token of `command` stands for, invoked
    with its value. -/
structure Continuation.Answers (continuation : Continuation) (command : ReplyCommand) :
    Prop where
  correlation : continuation.request.correlation = command.replyTo.correlation
  type : continuation.request.replyType = command.replyType
  reply : continuation.reply = ⟨command.replyType, command.reply⟩
  mapped : continuation.request.mapper continuation.reply = .ok continuation.message

/-! ## Steps -/

section Steps

variable {phase : Phase} {core core' : Core}

/-- What a step does to the table of requests and to its history. -/
inductive RequestEntry (core core' : Core) : Prop where
  | none (hnext : core'.nextCorrelation = core.nextCorrelation)
      (hrequests : core'.requests = core.requests)
      (hcorrelations : core'.correlations = core.correlations)
      (hreplies : core'.replies = core.replies)
      (hcontinuations : core'.continuations = core.continuations)
  | issued (request : OutstandingRequest) (hcorrelation : request.correlation = core.nextCorrelation)
      (hcreates : core'.Creates request) (hnext : core'.nextCorrelation = core.nextCorrelation + 1)
      (hrequests : core'.requests = core.requests ++ [request])
      (hcorrelations : core'.correlations = core.correlations ++ [.issued request])
      (hreplies : core'.replies = core.replies)
      (hcontinuations : core'.continuations = core.continuations)
  | answered (continuation : Continuation) (command : ReplyCommand)
      (hrequest : core.requests.find? (·.correlation = command.replyTo.correlation) =
        some continuation.request)
      (hanswers : continuation.Answers command)
      (hnext : core'.nextCorrelation = core.nextCorrelation)
      (hrequests : core'.requests =
        core.requests.eraseP (·.correlation = command.replyTo.correlation))
      (hcorrelations : core'.correlations = core.correlations ++
        [.answered command.replyTo.correlation command.replyType])
      (hreplies : core'.replies = core.replies ++ [command])
      (hcontinuations : core'.continuations = core.continuations ++ [continuation])

theorem Action.requestEntry (h : Action core phase core') (hok : core'.fault = none) :
    RequestEntry core core' := by
  cases h with
  | @requestDeclared message component cause command binding protocolMessage _ _ _ _ hmessage _ =>
      refine .issued (core.issue component command) rfl ?_ (by simp) (by simp) ?_ ?_ ?_
      · exact ⟨core.nextTrace, core.now, message, command, protocolMessage,
          List.mem_filterMap.mpr ⟨.declared core.nextTrace component core.now
            ⟨message, .request command⟩, by simp, rfl⟩, hmessage, rfl⟩
      · simp [Core.correlations]
        rfl
      · simp [Core.replies, Observation.reply?]
      · simp [Core.continuations, Observation.continued?]
  | replyDeclared component cause command request mapped _ hrequest htype hmapped =>
      have hcorrelation : request.correlation = command.replyTo.correlation := by
        simpa using List.find?_some hrequest
      refine .answered ⟨request, ⟨command.replyType, command.reply⟩, mapped⟩ command hrequest
        ⟨hcorrelation, htype, rfl, hmapped⟩ (by simp) (by simp) ?_ ?_ ?_
      · simp [Core.correlations, Observation.correlation?]
      · simp [Core.replies, Observation.reply?]
      · simp [Core.continuations]
        rfl
  | declarationFaulted => simp at hok
  | replyMistyped => simp at hok
  | sourceEventMapped =>
      refine .none (by simp [Core.withPlan, Core.withRunning])
        (by simp [Core.withPlan, Core.withRunning]) ?_ ?_ ?_
      · simp [Core.correlations, Core.withPlan, Core.withRunning, Observation.correlation?]
      · simp [Core.replies, Core.withPlan, Core.withRunning, Observation.reply?]
      · simp [Core.continuations, Core.withPlan, Core.withRunning, Observation.continued?]
  | _ =>
      refine .none (by simp) (by simp) ?_ ?_ ?_
      · simp [Core.correlations, Observation.correlation?]
      · simp [Core.replies, Observation.reply?]
      · simp [Core.continuations, Observation.continued?]

/-- The table of requests makes a step of its own, or none. -/
theorem RequestEntry.step (h : RequestEntry core core') :
    ReflTransGen (Correlation.Step OutstandingRequest.correlation) core.requestTable
      core'.requestTable := by
  have htable {next : Nat} {correlations : List (Correlation.Event OutstandingRequest TypeId)}
      {requests : List OutstandingRequest} (hnext : core'.nextCorrelation = next)
      (hcorrelations : core'.correlations = correlations) (hrequests : core'.requests = requests) :
      core'.requestTable = ⟨next, correlations, requests⟩ := by
    unfold Core.requestTable
    rw [hnext, hcorrelations, hrequests]
  cases h with
  | none hnext hrequests hcorrelations _ _ =>
      rw [htable hnext hcorrelations hrequests]
      exact ReflTransGen.refl
  | issued request hcorrelation _ hnext hrequests hcorrelations _ _ =>
      rw [htable hnext hcorrelations hrequests]
      exact ReflTransGen.single (.issue request hcorrelation)
  | answered continuation command hrequest _ hnext hrequests hcorrelations _ _ =>
      rw [htable hnext hcorrelations hrequests]
      exact ReflTransGen.single (.answer continuation.request _ _ hrequest)

end Steps

/-! ## Runs -/

/-- What holds of requests and Replies in a runtime that has not faulted. -/
structure RequestLaw (core : Core) : Prop where
  table : Correlation.Law OutstandingRequest.correlation core.requestTable
  creates : ∀ request ∈ issued core.correlations, core.Creates request
  /-- Each Reply invoked a continuation issued with its token, once, in order. -/
  answers : List.Forall₂ Continuation.Answers core.continuations core.replies
  continued : ∀ continuation ∈ core.continuations, continuation.request ∈ issued core.correlations

theorem Core.Creates.mono {core core' : Core} {request : OutstandingRequest}
    (h : core.Creates request) (hdeclarations : core.declarations ⊆ core'.declarations) :
    core'.Creates request := by
  obtain ⟨work, time, message, command, protocolMessage, hmem, hfacts⟩ := h
  exact ⟨work, time, message, command, protocolMessage, hdeclarations hmem, hfacts⟩

namespace RequestLaw

variable {core core' : Core}

theorem fresh (program : Program) (bindings : Bindings) :
    RequestLaw (Core.fresh program bindings) where
  table := Correlation.Law.empty _
  creates _ hrequest := absurd hrequest List.not_mem_nil
  answers := .nil
  continued _ hcontinuation := absurd hcontinuation List.not_mem_nil

theorem entry (h : RequestLaw core) (hentry : RequestEntry core core')
    (hdeclarations : core.declarations ⊆ core'.declarations) : RequestLaw core' := by
  have htable := h.table.path hentry.step
  cases hentry with
  | none _ _ hcorrelations hreplies hcontinuations =>
      refine ⟨htable, ?_, ?_, ?_⟩
      · rw [hcorrelations]
        exact fun request hrequest => (h.creates request hrequest).mono hdeclarations
      · rw [hreplies, hcontinuations]
        exact h.answers
      · rw [hcorrelations, hcontinuations]
        exact h.continued
  | issued request _ hcreates _ _ hcorrelations hreplies hcontinuations =>
      refine ⟨htable, ?_, ?_, ?_⟩
      · rw [hcorrelations, Correlation.issued_append_issued]
        intro other hother
        rcases List.mem_append.mp hother with hold | hnew
        · exact (h.creates other hold).mono hdeclarations
        · rw [List.mem_singleton.mp hnew]
          exact hcreates
      · rw [hreplies, hcontinuations]
        exact h.answers
      · rw [hcorrelations, hcontinuations, Correlation.issued_append_issued]
        exact fun continuation hmem => List.mem_append_left _ (h.continued continuation hmem)
  | answered continuation command hrequest hanswers _ _ hcorrelations hreplies hcontinuations =>
      refine ⟨htable, ?_, ?_, ?_⟩
      · rw [hcorrelations, Correlation.issued_append_answered]
        exact fun request hmem => (h.creates request hmem).mono hdeclarations
      · rw [hreplies, hcontinuations]
        exact List.rel_append h.answers (.cons hanswers .nil)
      · rw [hcorrelations, hcontinuations, Correlation.issued_append_answered]
        intro other hother
        rcases List.mem_append.mp hother with hold | hnew
        · exact h.continued other hold
        · rw [List.mem_singleton.mp hnew]
          exact (h.table.of_find hrequest).1

theorem path (h : RequestLaw core) (hok : core'.fault = none)
    (hpath : ReflTransGen Move core core') : RequestLaw core' := by
  induction hpath with
  | refl => exact h
  | tail _ hmove ih =>
      have hlaw := ih hmove.1
      rcases hmove with ⟨_, ⟨phase, haction⟩ | ⟨time, _, _⟩⟩
      · exact hlaw.entry (haction.requestEntry hok) (declarations_grow haction)
      · exact ⟨hlaw.table, hlaw.creates, hlaw.answers, hlaw.continued⟩

end RequestLaw

/-- What a Reply that names the outstanding `request` leaves. -/
structure Replied (core : Core) (command : ReplyCommand) (request : OutstandingRequest)
    (core' : Core) (message : ErasedValue) : Prop where
  /-- The continuation of the request made `message` of the value replied. -/
  mapped : request.mapper ⟨command.replyType, command.reply⟩ = .ok message
  continued : core'.continuations =
    core.continuations ++ [⟨request, ⟨command.replyType, command.reply⟩, message⟩]
  /-- The message is queued for the Component that issued the request. -/
  delivered : ∃ cause, core'.scheduled = core.scheduled ++ [⟨core.now, core.nextTicket,
    .message (plainMessage request.requester request.messageType message cause)⟩]
  /-- Every other request is still outstanding. -/
  others : core'.requests = core.requests.filter (·.correlation ≠ request.correlation)
  fault : core'.fault = none

/-- What the interpretation of a Reply returns when it names `request`. -/
def Redeemed (core : Core) (command : ReplyCommand) (request : OutstandingRequest) :
    EStateM.Result Stop Core Unit → Prop
  | .ok _ core' => ∃ message, Replied core command request core' message
  | .error (.panicked panic) _ => request.mapper ⟨command.replyType, command.reply⟩ = .error panic
  | .error _ _ => False

/-- A Reply with a token of this runtime finds the request it was issued with. -/
theorem RequestLaw.redeems {core : Core} (h : RequestLaw core) (hok : core.fault = none)
    {command : ReplyCommand} (hentrusts : core.Entrusts command) {message : TypeId}
    (component : ComponentId) (cause : TraceId) :
    ∃ request ∈ issued core.correlations,
      request.correlation = command.replyTo.correlation ∧ request.replyType = command.replyType ∧
        Redeemed core command request
          ((@interpretReply _ message component cause command).run core) := by
  obtain ⟨request, hissued, hcorrelation, htype, hfound⟩ := h.table.redeemed hentrusts
  have hfind : core.requests.find? (·.correlation = command.replyTo.correlation) =
      some request := hfound
  refine ⟨request, hissued, hcorrelation, htype, ?_⟩
  unfold interpretReply
  rw [EStateM.run_bind, run_commandTrace core rfl]
  simp only [EStateM.run_bind, EStateM.run_get, Core.emitted_requests, hfind, EStateM.run_set]
  rw [if_neg (not_not.mpr htype)]
  simp only [EStateM.run_bind, run_pushChild]
  cases hmapped : request.mapper ⟨command.replyType, command.reply⟩ with
  | error panic => exact hmapped
  | ok mapped =>
      simp only [run_callback_ok, run_observe, run_scheduleMessage]
      refine ⟨mapped, hmapped, ?_, ⟨core.nextTrace + 1, ?_⟩, ?_, by simpa using hok⟩
      · simp [Core.continuations]
        rfl
      · simp [Core.nextTrace]
      · have hothers := Table.eraseP_eq_filter h.table.outstanding_nodup command.replyTo.correlation
        rw [hcorrelation]
        simpa [Core.requestTable] using hothers

end Controlled

end Samara
