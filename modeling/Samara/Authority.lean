/-
  Samara.Authority

  What a `ReplyTo` says outside the runtime that issued it.  Both runtimes look
  a Reply up by correlation number alone, and both count from zero, so a
  runtime turns the Reply of another one away exactly when none of its own
  outstanding requests has the same number.
-/
import Samara.Controlled.Requests
import Samara.Controlled.Ledger
import Samara.Live.Beside

namespace Samara

variable [RustTypes]

/-! ## Two kinds of runtime -/

/-- To its caller, an owner that waits is one that still runs. -/
def Live.Stop.toStop : Live.Stop → Samara.Stop
  | .error fault => .error fault
  | .panicked panic => .panicked panic
  | .outOfFuel | .joining => .outOfFuel

/-- A controlled or a live runtime, in some state. -/
inductive Runtime where
  | controlled (core : Controlled.Core)
  | live (core : Live.Core)

namespace Runtime

/-- The Program it runs: no two runtimes own the same. -/
def program : Runtime → ProgramId
  | .controlled core => core.program.program
  | .live core => core.program.program

/-- How many `ReplyTo` values it has issued; they are numbered from zero. -/
def issues : Runtime → Nat
  | .controlled core => core.nextCorrelation
  | .live core => core.nextRequest

/-- The numbers of its outstanding requests. -/
def outstanding : Runtime → List Nat
  | .controlled core => core.requests.map (·.correlation)
  | .live core => core.requests.map (·.correlation)

/-- The runtime interprets a `Command::reply`, declared by `component` because
    of `cause`. -/
def reply (message : TypeId) (component : ComponentId) (cause : TraceId)
    (command : ReplyCommand) : Runtime → Except Stop Unit × Runtime
  | .controlled core =>
      match (@Controlled.interpretReply _ message component cause command).run core with
      | .ok value core => (.ok value, .controlled core)
      | .error stop core => (.error stop, .controlled core)
  | .live core =>
      match (Live.interpretReply component cause command).run core with
      | .ok value core => (.ok value, .live core)
      | .error stop core => (.error stop.toStop, .live core)

/-- The second runtime has exactly the obligations of the first: the same
    requests outstanding, no continuation more invoked, no Message more on its
    way and no host operation answered. -/
def Untouched : Runtime → Runtime → Prop
  | .controlled core, .controlled core' =>
      core'.requests = core.requests ∧ core'.continuations = core.continuations ∧
        core'.scheduled = core.scheduled
  | .live core, .live core' =>
      core'.requests = core.requests ∧ core'.journal = core.journal ∧
        core'.scope = core.scope ∧ core'.waiters = core.waiters
  | _, _ => False

/-- The refusal of a Reply that names no request. -/
structure Refuses (message : TypeId) (component : ComponentId) (cause : TraceId)
    (command : ReplyCommand) (runtime : Runtime) : Prop where
  untouched : runtime.Untouched (runtime.reply message component cause command).2
  refused : ∃ work, (runtime.reply message component cause command).1 = .error (.error
    (.fault component none work "ReplyTo no longer names an outstanding Request"))

end Runtime

namespace Runtime

/-- A controlled runtime that has faulted interprets nothing any more. -/
def Interprets : Runtime → Prop
  | .controlled core => core.fault = none
  | .live _ => True

end Runtime

/-- A Reply in the hands of a Component of `B` that names a request of `A`. -/
structure ForeignReply (A B : Runtime) where
  command : ReplyCommand
  foreign : A.program ≠ B.program
  /-- `A` has issued the `ReplyTo`. -/
  issued : command.replyTo.correlation < A.issues

/-! ## The two lookups -/

section Lookup

variable {message : TypeId} {component : ComponentId} {cause : TraceId} {command : ReplyCommand}

namespace Controlled

variable {core : Core}

theorem run_interpretReply_unknown (hok : core.fault = none)
    (h : core.requests.find? (·.correlation = command.replyTo.correlation) = none) :
    (@interpretReply _ message component cause command).run core =
      .error (.error (.fault component none core.nextTrace
          "ReplyTo no longer names an outstanding Request"))
        ((core.emitted cause component (.reply command : Declaration message)).faulted
          component none core.nextTrace "ReplyTo no longer names an outstanding Request") := by
  unfold interpretReply
  rw [EStateM.run_bind, run_commandTrace core rfl]
  simp only [EStateM.run_bind, EStateM.run_get, Core.emitted_requests, h]
  have hintact : (core.emitted cause component
      (.reply command : Declaration message)).fault = none := hok
  exact run_failWithFault hintact component none core.nextTrace _

/-- A Reply that finds a request removes it, whatever happens then. -/
theorem interpretReply_removes {request : OutstandingRequest} (hok : core.fault = none)
    (h : core.requests.find? (·.correlation = command.replyTo.correlation) = some request) :
    (Exec.final ((@interpretReply _ message component cause command).run core)).requests =
      core.requests.eraseP (·.correlation = command.replyTo.correlation) := by
  unfold interpretReply
  rw [EStateM.run_bind, run_commandTrace core rfl]
  simp only [EStateM.run_bind, EStateM.run_get, EStateM.run_set, Core.emitted_requests, h]
  split
  · have hintact : ((core.emitted cause component
        (.reply command : Declaration message)).withoutRequest
          command.replyTo.correlation).fault = none := hok
    rw [run_failWithFault hintact]
    rfl
  · simp only [EStateM.run_bind, run_pushChild]
    cases request.mapper ⟨command.replyType, command.reply⟩ with
    | error panic => rfl
    | ok mapped => rfl

end Controlled

namespace Live

variable {core : Core}

theorem run_interpretReply_unknown
    (h : core.requests.find? (·.correlation = command.replyTo.correlation) = none) :
    (interpretReply component cause command).run core =
      .error (.error (.fault component none cause
        "ReplyTo no longer names an outstanding Request")) core := by
  unfold interpretReply
  rw [Exec.run_bind_ok (EStateM.run_get core), h]
  rfl

/-- A Reply that finds a request removes it, whatever happens then. -/
theorem interpretReply_removes {request : OutstandingRequest}
    (h : core.requests.find? (·.correlation = command.replyTo.correlation) = some request) :
    (Exec.final ((interpretReply component cause command).run core)).requests =
      core.requests.eraseP (·.correlation = command.replyTo.correlation) := by
  unfold interpretReply
  rw [Exec.run_bind_ok (EStateM.run_get core), h]
  dsimp only
  rw [Exec.run_bind_ok (EStateM.run_modify _ _)]
  split
  · rw [Exec.run_bind_ok (EStateM.run_modify _ _)]
    exact discard_requests _ _
  · rw [Exec.run_bind_ok (show (observe _).run _ = _ from rfl)]
    cases request.continuation with
    | host completion => rfl
    | component requester mapper messageType =>
        dsimp only
        cases hmapped : mapper ⟨command.replyType, command.reply⟩ with
        | error panic => rfl
        | ok mapped => exact (turn_beside _).requests

end Live

end Lookup

/-! ## What a runtime makes of a foreign Reply -/

section Refusal

variable (message : TypeId) (component : ComponentId) (cause : TraceId) (command : ReplyCommand)

theorem Controlled.refuses_iff {core : Controlled.Core} (hok : core.fault = none) :
    (Runtime.controlled core).Refuses message component cause command ↔
      command.replyTo.correlation ∉ (Runtime.controlled core).outstanding := by
  constructor
  · intro hrefuses houtstanding
    obtain ⟨request, hrequest⟩ := Table.mem_map_iff_find?.mp houtstanding
    have hremoved := @interpretReply_removes _ message component cause command _ _ hok hrequest
    have huntouched := hrefuses.untouched
    unfold Runtime.reply at huntouched
    dsimp only at huntouched
    cases hrun : (@interpretReply _ message component cause command).run core <;>
      (rw [hrun] at huntouched hremoved
       exact Table.eraseP_ne_of_find? hrequest (hremoved.symm.trans huntouched.1))
  · intro houtstanding
    have hnone : core.requests.find? (·.correlation = command.replyTo.correlation) = none := by
      by_contra hfound
      exact houtstanding (Table.mem_map_iff_find?.mpr (Option.ne_none_iff_exists'.mp hfound))
    have hrun := @run_interpretReply_unknown _ message component cause command _ hok hnone
    constructor
    · unfold Runtime.reply
      dsimp only
      rw [hrun]
      refine ⟨rfl, ?_, rfl⟩
      simp [Core.continuations, Core.emitted, Observation.continued?]
    · unfold Runtime.reply
      dsimp only
      rw [hrun]
      exact ⟨core.nextTrace, rfl⟩

theorem Live.refuses_iff {core : Live.Core} :
    (Runtime.live core).Refuses message component cause command ↔
      command.replyTo.correlation ∉ (Runtime.live core).outstanding := by
  constructor
  · intro hrefuses houtstanding
    obtain ⟨request, hrequest⟩ := Table.mem_map_iff_find?.mp houtstanding
    have hremoved := @interpretReply_removes _ component cause command _ _ hrequest
    have huntouched := hrefuses.untouched
    unfold Runtime.reply at huntouched
    dsimp only at huntouched
    cases hrun : (interpretReply component cause command).run core <;>
      (rw [hrun] at huntouched hremoved
       exact Table.eraseP_ne_of_find? hrequest (hremoved.symm.trans huntouched.1))
  · intro houtstanding
    have hnone : core.requests.find? (·.correlation = command.replyTo.correlation) = none := by
      by_contra hfound
      exact houtstanding (Table.mem_map_iff_find?.mpr (Option.ne_none_iff_exists'.mp hfound))
    have hrun := @run_interpretReply_unknown _ component cause command _ hnone
    constructor
    · unfold Runtime.reply
      dsimp only
      rw [hrun]
      exact ⟨rfl, rfl, rfl, rfl⟩
    · unfold Runtime.reply
      dsimp only
      rw [hrun]
      exact ⟨cause, rfl⟩

end Refusal

/-- A runtime refuses a Reply that another runtime's `ReplyTo` authorizes
    exactly when no request of its own is outstanding under the same number. -/
theorem foreign_reply_refused_iff (A B : Runtime) (hB : B.Interprets) (reply : ForeignReply A B)
    (message : TypeId) (component : ComponentId) (cause : TraceId) :
    B.Refuses message component cause reply.command ↔
      reply.command.replyTo.correlation ∉ B.outstanding := by
  cases B with
  | controlled core => exact Controlled.refuses_iff message component cause reply.command hB
  | live core => exact Live.refuses_iff message component cause reply.command

end Samara

namespace Samara.Controlled

attribute [local instance] Sample.types

/-- A Component that asks itself something, never answers that, and answers the
    fifth question of anyone. -/
def clerk : Component () where
  init := ((0 : Nat), .declaration
    (.request ⟨(), (), ⟨⟨"clerk"⟩, ⟨8⟩⟩, .plain 3, fun _ => .ok (.plain 4)⟩))
  update := fun (model : Nat) message => (model + 1, .ok (match message with
    | .asking 5 correlation => .declaration (.reply ⟨(), ⟨correlation⟩, .plain 5⟩)
    | _ => .none))
  subscriptions _ := .ok []

def clerkBuilder : ProgramBuilder :=
  (((ProgramBuilder.new ⟨8⟩).component ⟨"clerk"⟩ clerk).port () ⟨"clerk"⟩).bindPort
    (⟨⟨"clerk"⟩, ⟨8⟩⟩ : Port ()) (⟨⟨"clerk"⟩, ⟨8⟩⟩ : ComponentRef ())

def clerkCore : Core := (assemble clerkBuilder ⟨[], [], []⟩).get rfl

/-- The clerk with its own request outstanding. -/
def clerkHolding : Core := Exec.final ((perform (.runUntilIdle 20)).run clerkCore)

/-- The clerk when it has been sent a question of the desk, with the desk's
    `ReplyTo`. -/
def clerkMisled : Core :=
  Exec.final ((perform (.runUntilIdle 20)).run (Exec.final ((perform
    (.send (⟨⟨"clerk"⟩, ⟨8⟩⟩ : ComponentRef ()) (.asking 5 0))).run clerkHolding)))

/-- The Reply of the clerk to the desk. -/
def misrouted : ForeignReply (.controlled deskCore) (.controlled clerkHolding) where
  command := ⟨(), ⟨0⟩, .plain 5⟩
  foreign := by decide +kernel
  issued := by decide +kernel

/-- The same Reply, once the clerk has no request outstanding. -/
def returned : ForeignReply (.controlled deskCore) (.controlled clerkMisled) where
  command := ⟨(), ⟨0⟩, .plain 5⟩
  foreign := by decide +kernel
  issued := by decide +kernel

theorem foreign_reply_refused_iff_desk :
    (Runtime.controlled clerkMisled).Refuses () ⟨"clerk"⟩ 0 returned.command := by
  exact (foreign_reply_refused_iff (.controlled deskCore) (.controlled clerkMisled)
    (show clerkMisled.fault = none by decide +kernel) returned () ⟨"clerk"⟩ 0).mpr
      (by decide +kernel)

/-- The clerk, misled, has no request outstanding any more: the Reply it gave
    to the desk has invoked the continuation of its own. -/
theorem foreign_reply_accepted :
    clerkHolding.requests.length = 1 ∧ clerkMisled.fault = none ∧
      clerkMisled.requests.length = 0 ∧ clerkMisled.continuations.length = 1 ∧
      ¬ ∀ (A B : Runtime) (_ : B.Interprets) (reply : ForeignReply A B) (message : Unit)
        (component : ComponentId) (cause : TraceId),
        B.Refuses message component cause reply.command := by
  refine ⟨by decide +kernel, by decide +kernel, by decide +kernel, by decide +kernel, ?_⟩
  intro hclaim
  have hrefuses := hclaim (.controlled deskCore) (.controlled clerkHolding)
    (show clerkHolding.fault = none by decide +kernel) misrouted () ⟨"clerk"⟩ 0
  exact (refuses_iff () ⟨"clerk"⟩ 0 misrouted.command
    (show clerkHolding.fault = none by decide +kernel)).mp hrefuses (by decide +kernel)

end Samara.Controlled
