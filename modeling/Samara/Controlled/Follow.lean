/-
  Samara.Controlled.Follow

  Every operation of the controlled runtime follows the step relation of
  `Samara.Controlled.Action`: it leaves the state at the end of a path of
  steps, or part of the way through a step when application code panicked.
-/
import Samara.Controlled.Action

namespace Samara

open Exec (Follows)
open Relation (ReflTransGen)

variable [RustTypes]

namespace Controlled

/-! ## Interrupted steps -/

/-- History that stands apart from the trace and the schedule. -/
def Observation.isAside : Observation → Bool
  | .declared _ _ _ _ => false
  | .popped _ _ _ => false
  | _ => true

/-- A change that neither fires a timer nor touches the schedule. -/
inductive Quiet (core : Core) : Core → Prop where
  | traced (cause : Option TraceId) (event : TraceEvent)
      (h : ∀ component messageType, event ≠ .timerFired component messageType) :
      Quiet core (core.traced cause event)
  | observed (observation : Observation) (h : observation.isAside = true) :
      Quiet core (core.observed observation)
  | emitted {message : TypeId} (cause : TraceId) (component : ComponentId)
      (declaration : Declaration message) : Quiet core (core.emitted cause component declaration)
  | tables {core' : Core} (hnow : core'.now = core.now)
      (hticket : core'.nextTicket = core.nextTicket)
      (hscheduled : core'.scheduled = core.scheduled) (htrace : core'.trace = core.trace)
      (hjournal : core'.journal = core.journal) : Quiet core core'

/-- The two states agree on time and on the schedule, and the history between
    them neither fires a timer nor executes work. -/
abbrev Unscheduled : Core → Core → Prop := ReflTransGen Quiet

namespace Unscheduled

variable {core core' : Core}

/-- States that differ in other tables only. -/
theorem of_eq (hnow : core'.now = core.now) (hticket : core'.nextTicket = core.nextTicket)
    (hscheduled : core'.scheduled = core.scheduled) (htrace : core'.trace = core.trace)
    (hjournal : core'.journal = core.journal) : Unscheduled core core' :=
  ReflTransGen.single (.tables hnow hticket hscheduled htrace hjournal)

theorem traced (cause : Option TraceId) {event : TraceEvent}
    (h : ∀ component messageType, event ≠ .timerFired component messageType) :
    Unscheduled core (core.traced cause event) :=
  ReflTransGen.single (.traced cause event h)

theorem observed {observation : Observation} (h : observation.isAside = true) :
    Unscheduled core (core.observed observation) :=
  ReflTransGen.single (.observed observation h)

theorem emitted {message : TypeId} (cause : TraceId) (component : ComponentId)
    (declaration : Declaration message) :
    Unscheduled core (core.emitted cause component declaration) :=
  ReflTransGen.single (.emitted cause component declaration)

theorem withoutRequest (correlation : Nat) :
    Unscheduled core (core.withoutRequest correlation) := of_eq rfl rfl rfl rfl rfl

theorem withPlan (source : ActiveSource) (plan : SourcePlan) (event : ErasedSourceEvent)
    (outer : List ErasedSourceEvent) :
    Unscheduled core (core.withPlan source plan event outer) :=
  (of_eq rfl rfl rfl rfl rfl : Unscheduled core (core.withSource _ _ _)).trans (observed rfl)

end Unscheduled

/-- What a panic leaves of a step: nothing of the schedule has changed, or one
    piece of work has been taken out of it. -/
inductive Interrupted (core core' : Core) : Prop where
  | outside (h : Unscheduled core core')
  | message (work : ScheduledWork) (message : QueuedMessage) (hdue : core.nextDue = some work)
      (hkind : work.kind = .message message)
      (h : Unscheduled ((core.popped work).fired message) core')
  | sourceEvent (work : ScheduledWork) (event : QueuedSourceEvent)
      (hdue : core.nextDue = some work) (hkind : work.kind = .sourceEvent event)
      (h : Unscheduled (core.popped work) core')

/-- How an operation that does not return relates to its last complete step;
    `Unwound` is what a panic leaves. -/
def Exit (Unwound : Core → Core → Prop) : Stop → Core → Core → Prop
  | .error _, core, core' => core' = core
  | .outOfFuel, core, core' => core' = core
  | .panicked _, core, core' => Unwound core core'

/-- A computation started at `core` follows the steps, and returns with no fault
    recorded. -/
def Proceeds {α : Type} (Step Unwound : Core → Core → Prop) (core : Core)
    (result : EStateM.Result Stop Core α) (Q : α → Core → Prop) : Prop :=
  Follows Step (Exit Unwound) core result fun value core' => core'.fault = none ∧ Q value core'

/-- The interpretation of declarations. -/
abbrev Interprets {α : Type} : Core → EStateM.Result Stop Core α → (α → Core → Prop) → Prop :=
  Proceeds (Acts .declaration) Unscheduled

/-- The projection of a Component, and the changes it makes. -/
abbrev Projects {α : Type} : Core → EStateM.Result Stop Core α → (α → Core → Prop) → Prop :=
  Proceeds (Acts .projection) Unscheduled

/-- The execution of scheduled work. -/
abbrev Executes {α : Type} : Core → EStateM.Result Stop Core α → (α → Core → Prop) → Prop :=
  Proceeds Move Interrupted

/-! ## Evaluation of the primitive methods -/

@[simp] theorem run_observe (observation : Observation) (core : Core) :
    (observe observation).run core = .ok () (core.observed observation) := rfl

@[simp] theorem run_pushTrace (cause : Option TraceId) (event : TraceEvent) (core : Core) :
    (pushTrace cause event).run core = .ok core.nextTrace (core.traced cause event) := rfl

@[simp] theorem run_pushRoot (event : TraceEvent) (core : Core) :
    (pushRoot event).run core = .ok core.nextTrace (core.traced none event) := rfl

@[simp] theorem run_pushChild (cause : TraceId) (event : TraceEvent) (core : Core) :
    (pushChild cause event).run core = .ok core.nextTrace (core.traced (some cause) event) := rfl

@[simp] theorem run_scheduleMessage (message : QueuedMessage) (deadline : Duration)
    (core : Core) :
    (scheduleMessage message deadline).run core =
      .ok () (core.scheduledAt deadline (.message message)) := rfl

theorem run_failWithFault {α : Type} {core : Core} (h : core.fault = none)
    (component : ComponentId) (descriptorType : Option String) (work : TraceId)
    (reason : String) :
    (failWithFault component descriptorType work reason : Run α).run core =
      .error (.error (.fault component descriptorType work reason))
        (core.faulted component descriptorType work reason) := by
  simp [failWithFault, setFault, h]

@[simp] theorem run_failHarness {α : Type} (reason : String) (core : Core) :
    (failHarness reason : Run α).run core = .error (.error (.harness reason)) core := rfl

theorem run_ensureNotFaulted {core : Core} (h : core.fault = none) :
    ensureNotFaulted.run core = .ok () core := by
  simp [ensureNotFaulted, h]

theorem run_commandTrace {message : TypeId} {cause : TraceId} {component : ComponentId}
    {kind : TraceCommandKind} {detailType : String} {targetComponent : Option ComponentId}
    {targetPort : Option PortId} {declaration : Declaration message} (core : Core)
    (h : emission component declaration =
      .commandEmitted component kind detailType targetComponent targetPort) :
    (commandTrace cause component kind detailType targetComponent targetPort declaration).run
      core = .ok core.nextTrace (core.emitted cause component declaration) := by
  unfold Core.emitted
  rw [h]
  rfl

/-! ## Single steps -/

section Exits

variable {α : Type} {Step Unwound : Core → Core → Prop} {core core₀ : Core} {Q : α → Core → Prop}

theorem proceeds_refl (hok : core.fault = none) {value : α} (hQ : Q value core) :
    Proceeds Step Unwound core (.ok value core) Q :=
  ⟨ReflTransGen.refl, hok, hQ⟩

theorem proceeds_step (hstep : Step core core₀) (hok : core₀.fault = none) {value : α}
    (hQ : Q value core₀) : Proceeds Step Unwound core (.ok value core₀) Q :=
  ⟨ReflTransGen.single hstep, hok, hQ⟩

theorem proceeds_error_step {error : RuntimeError} (hstep : Step core core₀) :
    Proceeds Step Unwound core (.error (.error error) core₀) Q :=
  ⟨core₀, ReflTransGen.single hstep, rfl⟩

theorem acts_step {phase : Phase} (hok : core.fault = none) (haction : Action core phase core₀)
    (hok' : core₀.fault = none) {value : α} (hQ : Q value core₀) :
    Proceeds (Acts phase) Unwound core (.ok value core₀) Q :=
  proceeds_step ⟨hok, haction⟩ hok' hQ

theorem acts_error_step {phase : Phase} {error : RuntimeError} (hok : core.fault = none)
    (haction : Action core phase core₀) :
    Proceeds (Acts phase) Unwound core (.error (.error error) core₀) Q :=
  proceeds_error_step ⟨hok, haction⟩

theorem proceeds_error {error : RuntimeError} :
    Proceeds Step Unwound core (.error (.error error) core) Q :=
  ⟨core, ReflTransGen.refl, rfl⟩

theorem proceeds_outOfFuel : Proceeds Step Unwound core (.error .outOfFuel core) Q :=
  ⟨core, ReflTransGen.refl, rfl⟩

theorem proceeds_panicked {panic : Panic} (h : Unwound core core₀) :
    Proceeds Step Unwound core (.error (.panicked panic) core₀) Q :=
  ⟨core, ReflTransGen.refl, h⟩

/-- Sequencing of computations that return with no fault recorded. -/
theorem proceeds_bind {β : Type} {x : Run α} {f : α → Run β} {Q' : β → Core → Prop}
    (hx : Proceeds Step Unwound core (x.run core₀) Q)
    (hf : ∀ value core', ReflTransGen Step core core' → core'.fault = none → Q value core' →
      Proceeds Step Unwound core' ((f value).run core') Q') :
    Proceeds Step Unwound core ((x >>= f).run core₀) Q' :=
  Exec.follows_bind hx fun value core' hpath h => hf value core' hpath h.1 h.2

/-- A coarser step relation, and a coarser account of panics. -/
theorem Proceeds.mono {Step' Unwound' : Core → Core → Prop} {result : EStateM.Result Stop Core α}
    (h : Proceeds Step Unwound core result Q) (hstep : ∀ core core', Step core core' → Step' core core')
    (hunwound : ∀ core core', Unwound core core' → Unwound' core core') :
    Proceeds Step' Unwound' core result Q := by
  refine Exec.follows_mono hstep ?_ h
  intro stop last core' hexit
  cases stop with
  | error error => exact hexit
  | outOfFuel => exact hexit
  | panicked panic => exact hunwound last core' hexit

theorem Proceeds.conseq {result : EStateM.Result Stop Core α} {Q' : α → Core → Prop}
    (h : Proceeds Step Unwound core result Q)
    (hQ : ∀ value core', ReflTransGen Step core core' → Q value core' → Q' value core') :
    Proceeds Step Unwound core result Q' :=
  Exec.follows_conseq h fun value core' hpath hq => ⟨hq.1, hQ value core' hpath hq.2⟩

end Exits

/-! ## Declarations -/

section Arms

variable {message : TypeId} {core : Core} {component : ComponentId} {cause : TraceId}

theorem interpretEffect_proceeds (hok : core.fault = none) (hauthor : core.Authors cause component message)
    (command : EffectCommand message) :
    Interprets core ((interpretEffect component cause command).run core) fun _ _ => True := by
  unfold interpretEffect
  rw [EStateM.run_bind, run_commandTrace core rfl]
  simp only [EStateM.run_bind, EStateM.run_get]
  split
  · rename_i hforeign
    simp only [run_failWithFault, Core.emitted_fault, hok]
    exact acts_error_step hok (.declarationFaulted component cause (.effect command) _ _ hauthor
      (.effectForeign (by simpa using hforeign)))
  · rename_i hdeclares
    split
    · rename_i huncontrolled
      simp only [run_failWithFault, Core.emitted_fault, hok]
      exact acts_error_step hok (.declarationFaulted component cause (.effect command) _ _
        hauthor (.effectUncontrolled huncontrolled))
    · rename_i hcontrolled
      exact acts_step hok (.effectDeclared component cause command hauthor
        (by simpa using hdeclares) (by simpa using hcontrolled)) hok trivial

theorem interpretSend_proceeds (hok : core.fault = none) (hauthor : core.Authors cause component message)
    (command : SendCommand) :
    Interprets core ((@interpretSend _ message component cause command).run core)
      fun _ _ => True := by
  unfold interpretSend
  rw [EStateM.run_bind, run_commandTrace core rfl]
  simp only [EStateM.run_bind, EStateM.run_get]
  split
  · rename_i habsent
    simp only [Bool.or_eq_true, decide_eq_true_eq, Option.isNone_iff_eq_none] at habsent
    simp only [run_failWithFault, Core.emitted_fault, hok]
    exact acts_error_step hok (.declarationFaulted component cause
      (.send command : Declaration message) _ _ hauthor (.sendAbsent habsent))
  · rename_i hpresent
    simp only [Bool.or_eq_true, decide_eq_true_eq, Option.isNone_iff_eq_none, not_or,
      not_not] at hpresent
    obtain ⟨hprogram, htarget⟩ := hpresent
    obtain ⟨kernel, hkernel⟩ := Option.ne_none_iff_exists'.mp htarget
    exact acts_step hok (@Action.sendDeclared _ core message component cause command hauthor
      hprogram kernel hkernel) hok trivial

/-- What the Port checks do: fault, or find the binding and change nothing. -/
theorem resolvePort_cases (component : ComponentId) {core : Core} (hok : core.fault = none)
    {protocol : TypeId} (port : Port protocol) (work : TraceId) (noun : String) :
    (port.program ≠ core.program.program ∧
      (resolvePort component port work noun).run core =
        .error (.error (.fault component none work (noun ++ " Port belongs to another Program")))
          (core.faulted component none work (noun ++ " Port belongs to another Program"))) ∨
    (core.program.binding? protocol port.id = none ∧
      (resolvePort component port work noun).run core =
        .error (.error (.fault component none work (noun ++ " Port has no runtime binding")))
          (core.faulted component none work (noun ++ " Port has no runtime binding"))) ∨
    ∃ binding, port.program = core.program.program ∧
      core.program.binding? protocol port.id = some binding ∧
      (resolvePort component port work noun).run core = .ok binding core := by
  unfold resolvePort
  simp only [EStateM.run_bind, EStateM.run_get]
  split
  · rename_i hforeign
    exact Or.inl ⟨hforeign, run_failWithFault hok _ _ _ _⟩
  · rename_i hprogram
    split
    · rename_i hunbound
      exact Or.inr (Or.inl ⟨hunbound, run_failWithFault hok _ _ _ _⟩)
    · rename_i binding hbinding
      exact Or.inr (Or.inr ⟨binding, not_not.mp hprogram, hbinding, rfl⟩)

theorem interpretNotify_proceeds (hok : core.fault = none) (hauthor : core.Authors cause component message)
    (command : NotificationCommand) :
    Interprets core ((@interpretNotify _ message component cause command).run core)
      fun _ _ => True := by
  unfold interpretNotify
  rw [EStateM.run_bind, run_commandTrace core rfl]
  simp only [EStateM.run_bind, EStateM.run_get]
  have hok' : (core.emitted cause component
      (.notify command : Declaration message)).fault = none := hok
  rcases resolvePort_cases component hok' command.port core.nextTrace "notification" with
    ⟨hforeign, hrun⟩ | ⟨hunbound, hrun⟩ | ⟨binding, hprogram, hbinding, hrun⟩
  · simp only [hrun]
    exact acts_error_step hok (.declarationFaulted component cause
      (.notify command : Declaration message) _ _ hauthor (.notifyForeign hforeign))
  · simp only [hrun]
    exact acts_error_step hok (.declarationFaulted component cause
      (.notify command : Declaration message) _ _ hauthor (.notifyUnbound hunbound))
  · simp only [hrun]
    cases hmessage : command.intoMessage with
    | error panic => exact proceeds_panicked (Unscheduled.emitted cause component _)
    | ok protocolMessage =>
        simp only [run_callback_ok]
        cases hconverted : binding.convert protocolMessage with
        | error panic => exact proceeds_panicked (Unscheduled.emitted cause component _)
        | ok converted =>
            exact acts_step hok (@Action.notifyDeclared _ core message component cause command
              binding protocolMessage converted hauthor hprogram hbinding hmessage hconverted)
              hok trivial

theorem interpretRequest_proceeds (hok : core.fault = none) (hauthor : core.Authors cause component message)
    (command : RequestCommand message) :
    Interprets core ((interpretRequest component cause command).run core) fun _ _ => True := by
  unfold interpretRequest
  rw [EStateM.run_bind, run_commandTrace core rfl]
  simp only [EStateM.run_bind, EStateM.run_get, EStateM.run_set]
  have hok' : (core.emitted cause component (.request command)).fault = none := hok
  rcases resolvePort_cases component hok' command.port core.nextTrace "request" with
    ⟨hforeign, hrun⟩ | ⟨hunbound, hrun⟩ | ⟨binding, hprogram, hbinding, hrun⟩
  · simp only [hrun]
    exact acts_error_step hok (.declarationFaulted component cause (.request command) _ _
      hauthor (.requestForeign hforeign))
  · simp only [hrun]
    exact acts_error_step hok (.declarationFaulted component cause (.request command) _ _
      hauthor (.requestUnbound hunbound))
  · simp only [hrun, Core.emitted_nextCorrelation]
    have hissued : Unscheduled core { core.emitted cause component (.request command) with
        nextCorrelation := core.nextCorrelation + 1 } :=
      (Unscheduled.emitted cause component _).trans (Unscheduled.of_eq rfl rfl rfl rfl rfl)
    cases hmessage : command.intoMessage core.nextCorrelation with
    | error panic => exact proceeds_panicked hissued
    | ok protocolMessage =>
        simp only [run_callback_ok]
        cases hconverted : binding.convert protocolMessage with
        | error panic => exact proceeds_panicked hissued
        | ok converted =>
            exact acts_step hok (.requestDeclared component cause command binding
              protocolMessage converted hauthor hprogram hbinding hmessage hconverted) hok trivial

theorem interpretReply_proceeds (hok : core.fault = none) (hauthor : core.Authors cause component message)
    (command : ReplyCommand) :
    Interprets core ((@interpretReply _ message component cause command).run core)
      fun _ _ => True := by
  unfold interpretReply
  rw [EStateM.run_bind, run_commandTrace core rfl]
  simp only [EStateM.run_bind, EStateM.run_get, Core.emitted_requests]
  cases hrequest : core.requests.find? (·.correlation = command.replyTo.correlation) with
  | none =>
      simp only [run_failWithFault, Core.emitted_fault, hok]
      exact acts_error_step hok (.declarationFaulted component cause
        (.reply command : Declaration message) _ _ hauthor (.replyUnknown hrequest))
  | some request =>
      simp only [EStateM.run_bind, EStateM.run_set]
      split
      · rename_i htype
        simp only [run_failWithFault, Core.withoutRequest_fault, Core.emitted_fault, hok]
        exact acts_error_step hok (@Action.replyMistyped _ core message component cause
          command request hauthor hrequest htype)
      · rename_i htype
        simp only [EStateM.run_bind, run_pushChild]
        cases hmapped : request.mapper ⟨command.replyType, command.reply⟩ with
        | error panic =>
            have hremoved : Unscheduled core ((core.emitted cause component
                (.reply command : Declaration message)).withoutRequest
                  command.replyTo.correlation) :=
              (Unscheduled.emitted cause component _).trans (Unscheduled.withoutRequest _)
            exact proceeds_panicked (hremoved.trans (Unscheduled.traced _ (by simp)))
        | ok mapped =>
            simp only [run_callback_ok, Core.withoutRequest_nextTrace, Core.emitted_nextTrace,
              run_observe, run_scheduleMessage, Core.emitted_now]
            have haction := @Action.replyDeclared _ core message component cause command
              request mapped hauthor hrequest (not_not.mp htype) hmapped
            exact acts_step hok haction (by simpa using hok) trivial

theorem interpretAfter_proceeds (hok : core.fault = none) (hauthor : core.Authors cause component message)
    (delay : Duration) (value : Val message) :
    Interprets core ((interpretAfter component cause delay value).run core) fun _ _ => True := by
  unfold interpretAfter
  rw [EStateM.run_bind, run_commandTrace core rfl]
  simp only [EStateM.run_bind, EStateM.run_get, Core.emitted_now]
  cases hdeadline : Duration.checkedAdd core.now delay with
  | none =>
      simp only [run_failWithFault, Core.emitted_fault, hok]
      exact acts_error_step hok (.declarationFaulted component cause (.after delay value) _ _
        hauthor (.timerOverflow hdeadline))
  | some deadline =>
      exact acts_step hok (.timerDeclared component cause delay deadline value hauthor
        hdeadline) hok trivial

theorem interpretDeclaration_proceeds (hok : core.fault = none)
    (hauthor : core.Authors cause component message) (declaration : Declaration message) :
    Interprets core ((interpretDeclaration component cause declaration).run core)
      fun _ _ => True := by
  cases declaration with
  | effect command => exact interpretEffect_proceeds hok hauthor command
  | send command => exact interpretSend_proceeds hok hauthor command
  | notify command => exact interpretNotify_proceeds hok hauthor command
  | request command => exact interpretRequest_proceeds hok hauthor command
  | reply command => exact interpretReply_proceeds hok hauthor command
  | after delay value => exact interpretAfter_proceeds hok hauthor delay value

end Arms

/-! ## Causes and desires survive steps -/

section Paths

variable {phase : Phase} {core core' : Core}

theorem trace_grows_path (hpath : ReflTransGen (Acts phase) core core') :
    core.trace <+: core'.trace :=
  @Exec.path_relates Core (Acts phase) (fun core core' => core.trace <+: core'.trace)
    (fun _ => List.prefix_rfl) (fun _ _ _ => List.IsPrefix.trans)
    (fun _ _ hstep => hstep.2.trace_grows) core core' hpath

theorem journal_grows_path (hpath : ReflTransGen (Acts phase) core core') :
    core.journal <+: core'.journal :=
  @Exec.path_relates Core (Acts phase) (fun core core' => core.journal <+: core'.journal)
    (fun _ => List.prefix_rfl) (fun _ _ _ => List.IsPrefix.trans)
    (fun _ _ hstep => hstep.2.journal_grows) core core' hpath

theorem Core.Rooted.path {cause : TraceId} {component : ComponentId}
    (hroot : core.Rooted cause component) (hpath : ReflTransGen (Acts phase) core core') :
    core'.Rooted cause component := by
  obtain ⟨record, hrecord, hevent⟩ := hroot
  obtain ⟨records, hrecords⟩ := trace_grows_path hpath
  refine ⟨record, ?_, hevent⟩
  rw [← hrecords, List.getElem?_append_left (List.getElem?_eq_some_iff.mp hrecord).1]
  exact hrecord

theorem shape_eq_path (hpath : ReflTransGen (Acts phase) core core') :
    core'.program.shape = core.program.shape :=
  @Exec.path_relates Core (Acts phase)
    (fun core core' => core'.program.shape = core.program.shape) (fun _ => rfl)
    (fun _ _ _ h h' => h'.trans h) (fun _ _ hstep => hstep.2.shape_eq) core core' hpath

theorem Core.Authors.path {cause : TraceId} {component : ComponentId} {messageType : TypeId}
    (h : core.Authors cause component messageType)
    (hpath : ReflTransGen (Acts phase) core core') : core'.Authors cause component messageType :=
  ⟨h.rooted.path hpath, h.hosted.of_shape (shape_eq_path hpath)⟩

/-- The Subscriptions that a change starts, retains or replaces are desired. -/
def Core.Wants (core : Core) (component : ComponentId) : ErasedSubscriptionChange → Prop
  | .start subscription => core.Desires component subscription
  | .retain subscription => core.Desires component subscription
  | .replace subscription => core.Desires component subscription
  | .cancel _ => True

theorem Core.Wants.path {component : ComponentId} {change : ErasedSubscriptionChange}
    (h : core.Wants component change) (hpath : ReflTransGen (Acts phase) core core') :
    core'.Wants component change := by
  have hgrows := journal_grows_path hpath
  have hdesires {subscription : ErasedRuntimeSubscription}
      (h : core.Desires component subscription) : core'.Desires component subscription := by
    obtain ⟨desired, hprojected, hwanted⟩ := h
    exact ⟨desired, hgrows.subset hprojected, hwanted⟩
  cases change with
  | start subscription => exact hdesires h
  | retain subscription => exact hdesires h
  | replace subscription => exact hdesires h
  | cancel id => trivial

theorem now_eq_path (hpath : ReflTransGen (Acts phase) core core') : core'.now = core.now :=
  @Exec.path_relates Core (Acts phase) (fun core core' => core'.now = core.now) (fun _ => rfl)
    (fun _ _ _ h h' => h'.trans h) (fun _ _ hstep => hstep.2.now_eq) core core' hpath

/-- A path within a phase that runs no transition records none. -/
theorem transitions_path (hphase : phase.transitions = 0)
    (hpath : ReflTransGen (Acts phase) core core') :
    core'.count TraceEvent.isTransition = core.count TraceEvent.isTransition :=
  @Exec.path_relates Core (Acts phase)
    (fun core core' => core'.count TraceEvent.isTransition = core.count TraceEvent.isTransition)
    (fun _ => rfl) (fun _ _ _ h h' => h'.trans h)
    (fun _ _ hstep => by rw [hstep.2.transitions, hphase, Nat.add_zero]) core core' hpath

end Paths

/-! ## Sequences of declarations and of changes -/

section Sequences

variable {core : Core} {component : ComponentId} {cause : TraceId}

theorem interpretDeclarations_proceeds {message : TypeId}
    (declarations : List (Declaration message)) (hok : core.fault = none)
    (hauthor : core.Authors cause component message) :
    Interprets core ((interpretDeclarations component cause declarations).run core)
      fun _ _ => True := by
  induction declarations generalizing core with
  | nil => exact proceeds_refl hok trivial
  | cons declaration declarations ih =>
      unfold interpretDeclarations
      refine proceeds_bind (interpretDeclaration_proceeds hok hauthor declaration) ?_
      intro _ core' hpath hok' _
      exact ih hok' (hauthor.path hpath)

theorem interpret_proceeds (hok : core.fault = none) {command : ErasedCommand}
    (hauthor : core.Authors cause component command.messageType) :
    Interprets core ((interpret component cause command).run core) fun _ _ => True :=
  interpretDeclarations_proceeds command.command.intoDeclarations hok hauthor

/-- What `activate_source` does: fault, or push the new realization. -/
theorem activateSource_cases {core : Core} (hok : core.fault = none) (component : ComponentId)
    (subscription : ErasedRuntimeSubscription) (work : TraceId) :
    (¬ core.Activatable subscription ∧ ∃ descriptorType reason,
      (activateSource component subscription work).run core =
        .error (.error (.fault component descriptorType work reason))
          (core.faulted component descriptorType work reason)) ∨
    (core.Activatable subscription ∧
      (activateSource component subscription work).run core =
        .ok () (core.withActivation component subscription)) := by
  unfold activateSource Core.Activatable
  simp only [EStateM.run_bind, EStateM.run_get]
  split
  · rename_i hrejected
    exact Or.inl ⟨fun h => by simp [h.1] at hrejected, _, _, run_failWithFault hok _ _ _ _⟩
  · rename_i haccepted
    split
    · rename_i hforeign
      exact Or.inl ⟨fun h => by simp [h.2.1] at hforeign, _, _, run_failWithFault hok _ _ _ _⟩
    · rename_i hdeclared
      split
      · rename_i huncontrolled
        exact Or.inl ⟨fun h => by simp [h.2.2] at huncontrolled, _, _,
          run_failWithFault hok _ _ _ _⟩
      · rename_i hcontrolled
        exact Or.inr ⟨⟨by simpa using haccepted, by simpa using hdeclared,
          by simpa using hcontrolled⟩, rfl⟩

/-- The state after a change that was not refused. -/
def Core.changed (core : Core) (component : ComponentId) (cause : TraceId) :
    ErasedSubscriptionChange → Core
  | .start subscription => (core.traced (some cause) (lifecycle component subscription.id
      subscription.descriptorTypeName .started)).withActivation component subscription
  | .retain subscription => (core.traced (some cause) (lifecycle component subscription.id
      subscription.descriptorTypeName .retained)).withSource component subscription.id
        ({ · with subscription })
  | .replace subscription => ((core.traced (some cause) (lifecycle component subscription.id
      subscription.descriptorTypeName .replaced)).withoutSource component
        subscription.id).withActivation component subscription
  | .cancel id => (core.traced (some cause) (lifecycle component id
      (((core.source? component id).map (·.subscription.descriptorTypeName)).getD "<inactive>")
        .cancelled)).withoutSource component id

/-- What `apply_subscription_changes` does with one change: fault, or apply it. -/
theorem applySubscriptionChange_cases (hok : core.fault = none)
    (hroot : core.Rooted cause component) {change : ErasedSubscriptionChange}
    (hwants : core.Wants component change) :
    (∃ error core', (applySubscriptionChange component cause change).run core =
      .error (.error error) core' ∧ core'.fault = some error ∧ Acts .projection core core') ∨
    ((applySubscriptionChange component cause change).run core =
        .ok () (core.changed component cause change) ∧
      Acts .projection core (core.changed component cause change)) := by
  cases change with
  | start subscription =>
      unfold applySubscriptionChange
      simp only [EStateM.run_bind, run_pushChild]
      have hok' : (core.traced (some cause) (lifecycle component subscription.id
        subscription.descriptorTypeName .started)).fault = none := hok
      rcases activateSource_cases hok' component subscription core.nextTrace with
        ⟨hinactive, descriptorType, reason, hrun⟩ | ⟨hactivatable, hrun⟩
      · exact Or.inl ⟨_, _, hrun, rfl, hok,
          .startFaulted component cause subscription descriptorType reason hroot hwants hinactive⟩
      · exact Or.inr ⟨hrun, hok, .started component cause subscription hroot hwants hactivatable⟩
  | retain subscription =>
      unfold applySubscriptionChange
      simp only [EStateM.run_bind, run_pushChild, EStateM.run_modify]
      exact Or.inr ⟨rfl, hok, .retained component cause subscription hroot hwants⟩
  | replace subscription =>
      unfold applySubscriptionChange
      simp only [EStateM.run_bind, run_pushChild, EStateM.run_modify]
      have hok' : ((core.traced (some cause) (lifecycle component subscription.id
        subscription.descriptorTypeName .replaced)).withoutSource component
          subscription.id).fault = none := hok
      rcases activateSource_cases hok' component subscription core.nextTrace with
        ⟨hinactive, descriptorType, reason, hrun⟩ | ⟨hactivatable, hrun⟩
      · exact Or.inl ⟨_, _, hrun, rfl, hok,
          .replaceFaulted component cause subscription descriptorType reason hroot hwants hinactive⟩
      · exact Or.inr ⟨hrun, hok, .replaced component cause subscription hroot hwants hactivatable⟩
  | cancel id =>
      unfold applySubscriptionChange
      simp only [EStateM.run_bind, EStateM.run_get, run_pushChild, EStateM.run_modify]
      exact Or.inr ⟨rfl, hok, .cancelled component cause id _ hroot⟩

theorem Core.changed_fault (change : ErasedSubscriptionChange) :
    (core.changed component cause change).fault = core.fault := by
  cases change <;> rfl

theorem applySubscriptionChange_proceeds (hok : core.fault = none)
    (hroot : core.Rooted cause component) {change : ErasedSubscriptionChange}
    (hwants : core.Wants component change) :
    Projects core ((applySubscriptionChange component cause change).run core)
      fun _ _ => True := by
  rcases applySubscriptionChange_cases hok hroot hwants with
    ⟨error, core', hrun, _, hacts⟩ | ⟨hrun, hacts⟩
  · rw [hrun]
    exact proceeds_error_step hacts
  · rw [hrun]
    exact proceeds_step hacts ((Core.changed_fault change).trans hok) trivial

theorem applyChanges_proceeds (changes : List ErasedSubscriptionChange)
    (hok : core.fault = none) (hroot : core.Rooted cause component)
    (hwants : ∀ change ∈ changes, core.Wants component change) :
    Projects core ((applyChanges component cause changes).run core) fun _ _ => True := by
  induction changes generalizing core with
  | nil => exact proceeds_refl hok trivial
  | cons change changes ih =>
      unfold applyChanges
      refine proceeds_bind
        (applySubscriptionChange_proceeds hok hroot (hwants change List.mem_cons_self)) ?_
      intro _ core' hpath hok' _
      refine ih hok' (hroot.path hpath) ?_
      intro later hlater
      exact (hwants later (List.mem_cons_of_mem _ hlater)).path hpath

end Sequences

/-! ## Components -/

section Components

variable {core : Core} {id : ComponentId} {messageType : TypeId}
  {kernel : ErasedComponentKernel}

theorem run_onComponent_ok {α : Type} {action : EStateM Panic ErasedComponentKernel α}
    {value : α} {kernel' : ErasedComponentKernel} (h : action.run kernel = .ok value kernel') :
    (onComponent id messageType kernel action).run core =
      .ok (value, kernel') (core.withComponent id messageType kernel') := by
  unfold onComponent EStateM.run
  unfold EStateM.run at h
  rw [h]

theorem run_onComponent_error {α : Type} {action : EStateM Panic ErasedComponentKernel α}
    {panic : Panic} {kernel' : ErasedComponentKernel} (h : action.run kernel = .error panic kernel') :
    (onComponent id messageType kernel action).run core =
      .error (.panicked panic) (core.withComponent id messageType kernel') := by
  unfold onComponent EStateM.run
  unfold EStateM.run at h
  rw [h]

/-- A recorded projection stands behind what a reconciliation returned. -/
def Core.Warrants (core : Core) (id : ComponentId) :
    Except SubscriptionId (List ErasedSubscriptionChange) → Prop
  | .error _ => ∃ desired, Observation.projected id desired ∈ core.journal ∧
      ¬ (desired.subscriptions.map (·.id)).Nodup
  | .ok changes => ∀ change ∈ changes, core.Wants id change

theorem Core.Warrants.path {phase : Phase} {core core' : Core}
    {outcome : Except SubscriptionId (List ErasedSubscriptionChange)}
    (h : core.Warrants id outcome) (hpath : ReflTransGen (Acts phase) core core') :
    core'.Warrants id outcome := by
  cases outcome with
  | error duplicate =>
      obtain ⟨desired, hprojected, hduplicate⟩ := h
      exact ⟨desired, (journal_grows_path hpath).subset hprojected, hduplicate⟩
  | ok changes => exact fun change hchange => (h change hchange).path hpath

/-- The outcome of a reconciliation, and the kernel found next. -/
def Reconciled (id : ComponentId) (messageType : TypeId)
    (result : Except SubscriptionId (List ErasedSubscriptionChange) × ErasedComponentKernel)
    (core : Core) : Prop :=
  core.program.component? id messageType = some result.2 ∧ core.Warrants id result.1

theorem wants_erased {message : TypeId} {desired : List (Subscription message)}
    (hprojected : Observation.projected id ⟨message, desired⟩ ∈ core.journal)
    {change : SubscriptionChange message}
    (h : (∃ subscription ∈ desired, change.Installs subscription) ∨ ∃ id, change = .cancel id) :
    core.Wants id (eraseSubscriptionChange change) := by
  rcases h with ⟨subscription, hdesired, hinstalls⟩ | ⟨cancelled, rfl⟩
  · have hdesires : core.Desires id ⟨message, subscription⟩ :=
      ⟨⟨message, desired⟩, hprojected, subscription, hdesired, rfl⟩
    cases change with
    | start installed => exact hinstalls ▸ hdesires
    | retain installed => exact hinstalls ▸ hdesires
    | replace installed => exact hinstalls ▸ hdesires
    | cancel cancelled => exact hinstalls.elim
  · trivial

theorem reconcileComponent_proceeds (hok : core.fault = none)
    (hkernel : core.program.component? id messageType = some kernel) :
    Projects core ((reconcileComponent id messageType kernel).run core)
      (Reconciled id messageType) := by
  unfold reconcileComponent onComponent ErasedComponentKernel.reconcileSubscriptionsErased
  cases hdesired : kernel.desired with
  | error panic =>
      simp only [EStateM.run, hdesired]
      exact proceeds_panicked (.of_eq rfl rfl rfl rfl rfl)
  | ok desired =>
      cases hreconcile : kernel.kernel.subscriptions.reconcile desired with
      | error duplicate =>
          simp only [EStateM.run, hdesired, hreconcile]
          refine acts_step hok (.duplicated id messageType kernel desired duplicate hkernel
            hdesired hreconcile) hok ⟨?_, ?_⟩
          · exact Program.component?_setComponent hkernel rfl rfl
          · exact ⟨⟨_, desired⟩, List.mem_append_right _ List.mem_cons_self,
              SubscriptionReconciler.reconcile_eq_error hreconcile⟩
      | ok reconciled =>
          obtain ⟨changes, reconciler⟩ := reconciled
          simp only [EStateM.run, hdesired, hreconcile]
          refine acts_step hok (.projected id messageType kernel desired changes reconciler
            hkernel hdesired hreconcile) hok ⟨?_, ?_⟩
          · exact Program.component?_setComponent hkernel rfl rfl
          · intro change hchange
            obtain ⟨original, horiginal, rfl⟩ := List.mem_map.mp hchange
            exact wants_erased (List.mem_append_right _ List.mem_cons_self)
              (SubscriptionReconciler.mem_reconcile hreconcile horiginal)

theorem applyReconciled_proceeds {cause : TraceId} (hok : core.fault = none)
    (hroot : core.Rooted cause id)
    {outcome : Except SubscriptionId (List ErasedSubscriptionChange)}
    (hwarrants : core.Warrants id outcome) :
    Projects core ((applyReconciled id cause outcome).run core) fun _ _ => True := by
  cases outcome with
  | error duplicate =>
      obtain ⟨desired, hprojected, hduplicate⟩ := hwarrants
      unfold applyReconciled
      rw [run_failWithFault hok]
      exact acts_error_step hok
        (.duplicateFaulted id cause desired duplicate hroot hprojected hduplicate)
  | ok changes =>
      refine applyChanges_proceeds (sortChanges changes) hok hroot ?_
      intro change hchange
      exact hwarrants change ((List.mem_insertionSort _).mp hchange)

end Components

/-! ## Scheduled work -/

section Work

variable {core : Core} {work : ScheduledWork}

/-- The pure counterpart of the closing loop of `process_source_event`. -/
theorem run_scheduleMapped (source : ActiveSource) (cause : TraceId)
    (mapped : List (SourceEventKind × ErasedValue)) (core : Core) :
    (scheduleMapped source cause mapped).run core =
      .ok () (mapped.foldl (Core.withMappedEvent · source cause) core) := by
  induction mapped generalizing core with
  | nil => rfl
  | cons event mapped ih =>
      obtain ⟨kind, message⟩ := event
      unfold scheduleMapped
      simp only [EStateM.run_bind, run_pushChild, EStateM.run_get, run_scheduleMessage]
      exact ih (core.withMappedEvent source cause (kind, message))

theorem run_mapTerminalEvent_ok {source : ActiveSource} {event : ErasedSourceEvent}
    {outer : List ErasedSourceEvent} {plan : SourcePlan}
    (h : (SourcePlan.mapEvent event).run source.plan = .ok outer plan) (core : Core) :
    (mapTerminalEvent source event).run core =
      .ok outer (core.withPlan source plan event outer) := by
  unfold mapTerminalEvent EStateM.run
  unfold EStateM.run at h
  rw [h]
  rfl

theorem run_mapTerminalEvent_error {source : ActiveSource} {event : ErasedSourceEvent}
    {panic : Panic} {plan : SourcePlan}
    (h : (SourcePlan.mapEvent event).run source.plan = .error panic plan) (core : Core) :
    (mapTerminalEvent source event).run core =
      .error (.panicked panic) (core.withSource source.stamp.component
        source.stamp.subscription ({ · with plan })) := by
  unfold mapTerminalEvent EStateM.run
  unfold EStateM.run at h
  rw [h]

/-- What the execution of one piece of work does to time and to the count of
    transitions. -/
def Worked (core : Core) (transitions : Nat) (core' : Core) : Prop :=
  core'.now = core.now ∧
    core'.count TraceEvent.isTransition = core.count TraceEvent.isTransition + transitions

theorem Worked.path {phase : Phase} {core₁ core₂ : Core} {transitions : Nat}
    (h : Worked core transitions core₁) (hphase : phase.transitions = 0)
    (hpath : ReflTransGen (Acts phase) core₁ core₂) : Worked core transitions core₂ :=
  ⟨(now_eq_path hpath).trans h.1, (transitions_path hphase hpath).trans h.2⟩

theorem executes_step {core₀ : Core} {transitions : Nat}
    (hstep : Acts (.execution transitions) core core₀) (hok : core₀.fault = none) :
    Executes core (.ok transitions core₀) (Worked core) :=
  proceeds_step hstep.move hok ⟨hstep.2.now_eq, hstep.2.transitions⟩

theorem executes_error_step {phase : Phase} {core₀ : Core} {error : RuntimeError}
    {Q : Nat → Core → Prop} (hstep : Acts phase core core₀) :
    Executes core (.error (.error error) core₀) Q :=
  proceeds_error_step hstep.move

/-- A projection or an interpretation is part of the execution of work. -/
theorem Proceeds.executes {α : Type} {phase : Phase} {result : EStateM.Result Stop Core α}
    {Q : α → Core → Prop} (h : Proceeds (Acts phase) Unscheduled core result Q) :
    Executes core result Q :=
  h.mono (fun _ _ => Acts.move) fun _ _ => Interrupted.outside

theorem processSourceEvent_proceeds (hok : core.fault = none) {event : QueuedSourceEvent}
    (hdue : core.nextDue = some work) (hkind : work.kind = .sourceEvent event) :
    Proceeds (Acts (.execution 0)) Interrupted core
      ((processSourceEvent event).run (core.popped work)) (Worked core) := by
  have hworked {core' : Core} (hacts : Acts (.execution 0) core core') : Worked core 0 core' :=
    ⟨hacts.2.now_eq, hacts.2.transitions⟩
  have hstale (hstale : ∀ source, core.source? event.stamp.component event.stamp.subscription =
      some source → ¬ Core.Accepts source event) :
      Proceeds (Acts (.execution 0)) Interrupted core
        ((dropStaleWork event.stamp event.cause false).run (core.popped work)) (Worked core) :=
    have hacts : Acts (.execution 0) core _ :=
      ⟨hok, .sourceEventStale work event hdue hkind hstale⟩
    proceeds_step hacts hok (hworked hacts)
  unfold processSourceEvent
  rw [Exec.run_bind_ok (EStateM.run_get _)]
  have hpopped : (core.popped work).source? event.stamp.component event.stamp.subscription =
    core.source? event.stamp.component event.stamp.subscription := rfl
  dsimp only
  rw [hpopped]
  cases hsource : core.source? event.stamp.component event.stamp.subscription with
  | none => exact hstale (by simp [hsource])
  | some source =>
      dsimp only
      split
      · rename_i hrejected
        refine hstale ?_
        intro found hfound haccepts
        rw [hsource] at hfound
        cases hfound
        simp [haccepts.1, haccepts.2.1, haccepts.2.2] at hrejected
      · rename_i haccepted
        have haccepts : Core.Accepts source event := by
          simpa [Core.Accepts, and_assoc] using haccepted
        rw [EStateM.run_bind]
        cases hplan : (SourcePlan.mapEvent event.event).run source.plan with
        | error panic plan =>
            rw [run_mapTerminalEvent_error hplan]
            exact proceeds_panicked (.sourceEvent work event hdue hkind
              (.of_eq rfl rfl rfl rfl rfl))
        | ok outer plan =>
            rw [run_mapTerminalEvent_ok hplan]
            dsimp only
            cases hmapped : mapOuterEvents source.subscription outer with
            | error panic =>
                exact proceeds_panicked (.sourceEvent work event hdue hkind (.withPlan _ _ _ _))
            | ok mapped =>
                simp only [EStateM.run_bind, run_callback_ok, EStateM.run_modify,
                  run_scheduleMapped, EStateM.run_pure]
                have hacts : Acts (.execution 0) core _ := ⟨hok, .sourceEventMapped work event
                  source plan outer mapped hdue hkind hsource haccepts hplan hmapped⟩
                refine proceeds_step hacts ?_ (hworked hacts)
                obtain ⟨records, works, heq, _⟩ :=
                  Core.foldl_withMappedEvent source event.cause mapped _
                rw [heq]
                exact hok

theorem run_fireTimer (message : QueuedMessage) (core : Core) :
    (fireTimer message).run core = .ok (core.deliveryCause message) (core.fired message) := by
  unfold fireTimer Core.deliveryCause Core.fired
  cases message.delivery <;> rfl

theorem rooted_traced_transition (core : Core) (cause : Option TraceId)
    (component : ComponentId) (messageType : String) :
    (core.traced cause (.transition component messageType)).Rooted core.nextTrace component :=
  ⟨_, List.getElem?_concat_length, Or.inr ⟨messageType, rfl⟩⟩

/-- What `process_message` does after a transition: the Component is projected,
    and then its Command interpreted. -/
theorem settle_executes {core₀ : Core} {id : ComponentId} {messageType : TypeId}
    {kernel : ErasedComponentKernel} {cause : TraceId} {command : ErasedCommand}
    (hok : core₀.fault = none) (hkernel : core₀.program.component? id messageType = some kernel)
    (hauthor : core₀.Authors cause id command.messageType) (hworked : Worked core 1 core₀) :
    Executes core₀ ((do
      let (changes, _) ← reconcileComponent id messageType kernel
      applyReconciled id cause changes
      interpret id cause command
      pure 1 : Run Nat).run core₀) (Worked core) := by
  have hreconcile : Executes core₀ ((reconcileComponent id messageType kernel).run core₀)
      fun result core' => core'.Warrants id result.1 ∧
        core'.Authors cause id command.messageType ∧ Worked core 1 core' :=
    ((reconcileComponent_proceeds hok hkernel).conseq fun _ _ hpath hresult =>
      ⟨hresult.2, hauthor.path hpath, hworked.path rfl hpath⟩).executes
  refine proceeds_bind hreconcile ?_
  intro result core₁ _ hok₁ hafter
  obtain ⟨hwarrants, hauthor₁, hworked₁⟩ := hafter
  have happly : Executes core₁ ((applyReconciled id cause result.1).run core₁)
      fun _ core' => core'.Authors cause id command.messageType ∧ Worked core 1 core' :=
    ((applyReconciled_proceeds hok₁ hauthor₁.rooted hwarrants).conseq fun _ _ hpath _ =>
      ⟨hauthor₁.path hpath, hworked₁.path rfl hpath⟩).executes
  refine proceeds_bind happly ?_
  intro _ core₂ _ hok₂ hafter
  obtain ⟨hauthor₂, hworked₂⟩ := hafter
  have hinterpret : Executes core₂ ((interpret id cause command).run core₂)
      fun _ core' => Worked core 1 core' :=
    ((interpret_proceeds hok₂ hauthor₂).conseq fun _ _ hpath _ =>
      hworked₂.path rfl hpath).executes
  refine proceeds_bind hinterpret ?_
  intro _ core₃ _ hok₃ hworked₃
  exact proceeds_refl hok₃ hworked₃

theorem deliver_proceeds (hok : core.fault = none) {message : QueuedMessage}
    (hdue : core.nextDue = some work) (hkind : work.kind = .message message)
    (hcurrent : ∀ stamp, message.source = some stamp → core.sourceStampIsCurrent stamp = true) :
    Executes core ((deliver message).run (core.popped work)) (Worked core) := by
  have hfired : ((core.popped work).fired message).fault = none := by
    rw [Core.fired_fault]
    exact hok
  unfold deliver
  rw [Exec.run_bind_ok (run_fireTimer _ _), Exec.run_bind_ok (EStateM.run_get _)]
  dsimp only
  rw [Core.fired_program, Core.popped_program]
  cases hkernel : core.program.component? message.target message.targetMessageType with
  | none =>
      dsimp only
      rw [run_failWithFault hfired]
      exact executes_error_step
        ⟨hok, .deliveryFaulted work message hdue hkind hcurrent hkernel⟩
  | some kernel =>
      dsimp only
      cases htransition :
          (ErasedComponentKernel.transitionErased message.message).run kernel with
      | error panic kernel' =>
          rw [EStateM.run_bind, run_onComponent_error htransition]
          exact proceeds_panicked (.message work message hdue hkind
            (.of_eq rfl rfl rfl rfl rfl))
      | ok command kernel' =>
          rw [Exec.run_bind_ok (run_onComponent_ok htransition)]
          cases command with
          | none =>
              obtain ⟨hmismatch, rfl⟩ := ErasedComponentKernel.transitionErased_none htransition
              exact executes_error_step
                ⟨hok, .deliveryMismatched work message _ hdue hkind hcurrent hkernel hmismatch⟩
          | some command =>
              obtain ⟨hid, htype⟩ := ErasedComponentKernel.transitionErased_ok htransition
              have hstep : Acts (.execution 1) core _ := ⟨hok, .messageDelivered work message
                kernel kernel' command hdue hkind hcurrent hkernel htransition⟩
              have hworked : Worked core 1 _ := ⟨hstep.2.now_eq, hstep.2.transitions⟩
              refine Exec.follows_of_path (ReflTransGen.single hstep.move) ?_
              dsimp only
              rw [Exec.run_bind_ok (run_pushChild _ _ _)]
              have hfound : ((core.popped work).fired message).program.component?
                  message.target message.targetMessageType = some kernel := by
                rw [Core.fired_program]
                exact hkernel
              have hstored := Program.component?_setComponent hfound hid
                (congrArg RustTypes.componentMessage htype)
              refine settle_executes ?_ hstored ⟨rooted_traced_transition _ _ _ _, ?_⟩ hworked
              · exact hfired
              · rw [ErasedComponentKernel.transitionErased_command htransition,
                  (Program.component?_eq_some hkernel).2]
                exact ⟨kernel', hstored⟩

theorem processMessage_proceeds (hok : core.fault = none) {message : QueuedMessage}
    (hdue : core.nextDue = some work) (hkind : work.kind = .message message) :
    Executes core ((processMessage message).run (core.popped work)) (Worked core) := by
  unfold processMessage
  rw [Exec.run_bind_ok (EStateM.run_get _)]
  cases hsource : message.source with
  | none => exact deliver_proceeds hok hdue hkind (by simp [hsource])
  | some stamp =>
      dsimp only
      split
      · rename_i hcurrent
        refine deliver_proceeds hok hdue hkind fun other hother => ?_
        rw [hsource] at hother
        cases hother
        exact hcurrent
      · rename_i hstale
        exact executes_step ⟨hok, .messageStale work message stamp hdue hkind hsource
          (Bool.eq_false_iff.mpr hstale)⟩ hok

theorem processWork_proceeds (hok : core.fault = none) (hdue : core.nextDue = some work) :
    Executes core ((processWork work).run (core.popped work)) (Worked core) := by
  unfold processWork
  cases hkind : work.kind with
  | message message => exact processMessage_proceeds hok hdue hkind
  | sourceEvent event =>
      exact (processSourceEvent_proceeds hok hdue hkind).mono (fun _ _ => Acts.move) fun _ _ => id

end Work

end Controlled

end Samara
