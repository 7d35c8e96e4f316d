/-
  Samara.Controlled.Action

  What the controlled runtime can do in one step, as a relation on its states.

  `Action` has one constructor for each way the state changes between two
  points where the runtime is consistent: a harness input, a projection, a
  Subscription change, a declaration, one piece of scheduled work, the passing
  of logical time.  Each states all its guards and the exact state it leaves.
  `Samara.Controlled.Follow` shows that every operation is a path of steps.
-/
import Samara.Controlled.Harness

namespace Samara

variable [RustTypes]

namespace Controlled

/-! ## The states that steps leave -/

/-- The `CommandEmitted` event of a declaration. -/
def emission {message : TypeId} (component : ComponentId) : Declaration message → TraceEvent
  | .effect command =>
      .commandEmitted component .effect (typeName command.descriptorType) none none
  | .send command =>
      .commandEmitted component .send
        (typeName (RustTypes.componentMessage command.component)) (some command.target.id) none
  | .notify command =>
      .commandEmitted component .notify (typeName command.notificationType) none
        (some command.port.id)
  | .request command =>
      .commandEmitted component .request (typeName command.requestType) none
        (some command.port.id)
  | .reply command => .commandEmitted component .reply (typeName command.replyType) none none
  | .after _ _ => .commandEmitted component .timer (typeName message) (some component) none

namespace Core

/-- The number of records of a kind. -/
def count (core : Core) (kind : TraceEvent → Bool) : Nat := core.trace.countP (kind ·.event)

/-- The state after `command_trace`. -/
def emitted {message : TypeId} (core : Core) (cause : TraceId) (component : ComponentId)
    (declaration : Declaration message) : Core :=
  (core.traced (some cause) (emission component declaration)).observed
    (.declared core.nextTrace component core.now ⟨message, declaration⟩)

section Emitted

variable {message : TypeId} (core : Core) (cause : TraceId) (component : ComponentId)
  (declaration : Declaration message)

@[simp] theorem emitted_program :
    (core.emitted cause component declaration).program = core.program := rfl

@[simp] theorem emitted_bindings :
    (core.emitted cause component declaration).bindings = core.bindings := rfl

@[simp] theorem emitted_now :
    (core.emitted cause component declaration).now = core.now := rfl

@[simp] theorem emitted_nextTicket :
    (core.emitted cause component declaration).nextTicket = core.nextTicket := rfl

@[simp] theorem emitted_nextEffect :
    (core.emitted cause component declaration).nextEffect = core.nextEffect := rfl

@[simp] theorem emitted_nextCorrelation :
    (core.emitted cause component declaration).nextCorrelation = core.nextCorrelation := rfl

@[simp] theorem emitted_nextGeneration :
    (core.emitted cause component declaration).nextGeneration = core.nextGeneration := rfl

@[simp] theorem emitted_scheduled :
    (core.emitted cause component declaration).scheduled = core.scheduled := rfl

@[simp] theorem emitted_effects :
    (core.emitted cause component declaration).effects = core.effects := rfl

@[simp] theorem emitted_requests :
    (core.emitted cause component declaration).requests = core.requests := rfl

@[simp] theorem emitted_sources :
    (core.emitted cause component declaration).sources = core.sources := rfl

@[simp] theorem emitted_fault :
    (core.emitted cause component declaration).fault = core.fault := rfl

@[simp] theorem emitted_journal :
    (core.emitted cause component declaration).journal = core.journal ++
      [.declared core.nextTrace component core.now ⟨message, declaration⟩] := rfl

@[simp] theorem emitted_trace :
    (core.emitted cause component declaration).trace = core.trace ++
      [⟨core.nextTrace, core.now, some cause, emission component declaration⟩] := rfl

theorem emitted_nextTrace :
    (core.emitted cause component declaration).nextTrace = core.nextTrace + 1 :=
  List.length_append

end Emitted

/-- The request that a Request declaration issues. -/
def issue {message : TypeId} (core : Core) (component : ComponentId)
    (command : RequestCommand message) : OutstandingRequest :=
  ⟨core.nextCorrelation, component, command.replyType, command.mapper, message⟩

/-- The state after a Request declaration has pushed its request. -/
@[simps]
def withRequest (core : Core) (request : OutstandingRequest) : Core :=
  { core with
    nextCorrelation := core.nextCorrelation + 1
    requests := core.requests ++ [request]
    journal := core.journal ++ [.requested request] }

/-- One mapped Source event, traced and scheduled. -/
def withMappedEvent (core : Core) (source : ActiveSource) (cause : TraceId)
    (mapped : SourceEventKind × ErasedValue) : Core :=
  (core.traced (some cause) (.sourceEventMapped source.stamp.component
    source.stamp.subscription source.subscription.descriptorTypeName mapped.1)).messageScheduled
      (mappedMessage source mapped.2 core.nextTrace)

/-- The state after a plan has made `outer` of `event`. -/
def withPlan (core : Core) (source : ActiveSource) (plan : SourcePlan)
    (event : ErasedSourceEvent) (outer : List ErasedSourceEvent) : Core :=
  (core.withSource source.stamp.component source.stamp.subscription
    ({ · with plan })).observed (.mapped source.stamp event outer)

/-- The state after the mapper has made `messages` of the outer events. -/
@[simps!]
def withEmission (core : Core) (source : ActiveSource) (input : TraceId)
    (outer : List ErasedSourceEvent) (messages : List (SourceEventKind × ErasedValue)) : Core :=
  core.observed (.emitted source.stamp input source.subscription outer messages)

/-- The state after `process_source_event` has stopped a Source that ended. -/
def withRunning (core : Core) (source : ActiveSource) (terminal : Bool) : Core :=
  core.withSource source.stamp.component source.stamp.subscription
    fun source => { source with running := source.running && !terminal }

/-- The state after a timer Message has recorded that it fired. -/
def fired (core : Core) (message : QueuedMessage) : Core :=
  match message.delivery with
  | .message => core
  | .timer => core.traced (some message.cause) (.timerFired message.target message.messageTypeName)

/-- The cause of the transition that a Message begins. -/
def deliveryCause (core : Core) (message : QueuedMessage) : TraceId :=
  match message.delivery with
  | .message => message.cause
  | .timer => core.nextTrace

/-- What the closing loop of `process_source_event` adds: one record and one
    Message of the Source for each mapped event. -/
theorem foldl_withMappedEvent (source : ActiveSource) (cause : TraceId)
    (mapped : List (SourceEventKind × ErasedValue)) (core : Core) :
    ∃ records works, mapped.foldl (withMappedEvent · source cause) core =
        { core with
          trace := core.trace ++ records
          scheduled := core.scheduled ++ works
          nextTicket := core.nextTicket + mapped.length } ∧
      records.length = mapped.length ∧ works.length = mapped.length ∧
      (∀ record ∈ records, ∃ kind, record.event = .sourceEventMapped source.stamp.component
        source.stamp.subscription source.subscription.descriptorTypeName kind) ∧
      ∀ work ∈ works, ∃ event ∈ mapped, ∃ cause,
        work.kind = .message (mappedMessage source event.2 cause) := by
  induction mapped generalizing core with
  | nil => exact ⟨[], [], by simp, rfl, rfl, by simp, by simp⟩
  | cons event mapped ih =>
      obtain ⟨records, works, heq, hrecords, hworks, hevents, hkinds⟩ :=
        ih (core.withMappedEvent source cause event)
      let record : TraceRecord := ⟨core.trace.length, core.now, some cause,
        .sourceEventMapped source.stamp.component source.stamp.subscription
          source.subscription.descriptorTypeName event.1⟩
      let work : ScheduledWork := ⟨core.now, core.nextTicket,
        .message (mappedMessage source event.2 core.nextTrace)⟩
      refine ⟨record :: records, work :: works, ?_, by simp [hrecords], by simp [hworks], ?_, ?_⟩
      · rw [List.foldl_cons, heq]
        simp [withMappedEvent, messageScheduled, record, work, Nat.add_assoc, Nat.add_comm 1]
      · intro other hother
        rcases List.mem_cons.mp hother with rfl | hmem
        · exact ⟨event.1, rfl⟩
        · exact hevents other hmem
      · intro other hother
        rcases List.mem_cons.mp hother with rfl | hmem
        · exact ⟨event, List.mem_cons_self, core.nextTrace, rfl⟩
        · obtain ⟨found, hfound, hkind⟩ := hkinds other hmem
          exact ⟨found, List.mem_cons_of_mem _ hfound, hkind⟩

/-- What `fired` adds: the record of a timer, or nothing. -/
theorem fired_eq (core : Core) (message : QueuedMessage) :
    ∃ records, core.fired message = { core with trace := core.trace ++ records } ∧
      ∀ record ∈ records, record.event = .timerFired message.target message.messageTypeName := by
  unfold fired
  cases message.delivery with
  | message => exact ⟨[], by simp, by simp⟩
  | timer => exact ⟨[_], rfl, by simp⟩

section Fired

variable (core : Core) (message : QueuedMessage)

@[simp] theorem fired_program : (core.fired message).program = core.program := by
  unfold fired
  cases message.delivery <;> rfl

@[simp] theorem fired_bindings : (core.fired message).bindings = core.bindings := by
  unfold fired
  cases message.delivery <;> rfl

@[simp] theorem fired_now : (core.fired message).now = core.now := by
  unfold fired
  cases message.delivery <;> rfl

@[simp] theorem fired_scheduled : (core.fired message).scheduled = core.scheduled := by
  unfold fired
  cases message.delivery <;> rfl

@[simp] theorem fired_effects : (core.fired message).effects = core.effects := by
  unfold fired
  cases message.delivery <;> rfl

@[simp] theorem fired_requests : (core.fired message).requests = core.requests := by
  unfold fired
  cases message.delivery <;> rfl

@[simp] theorem fired_sources : (core.fired message).sources = core.sources := by
  unfold fired
  cases message.delivery <;> rfl

@[simp] theorem fired_fault : (core.fired message).fault = core.fault := by
  unfold fired
  cases message.delivery <;> rfl

@[simp] theorem fired_journal : (core.fired message).journal = core.journal := by
  unfold fired
  cases message.delivery <;> rfl

@[simp] theorem fired_nextEffect : (core.fired message).nextEffect = core.nextEffect := by
  unfold fired
  cases message.delivery <;> rfl

@[simp] theorem fired_nextCorrelation : (core.fired message).nextCorrelation = core.nextCorrelation := by
  unfold fired
  cases message.delivery <;> rfl

@[simp] theorem fired_nextGeneration : (core.fired message).nextGeneration = core.nextGeneration := by
  unfold fired
  cases message.delivery <;> rfl

end Fired

section Mapped

variable (source : ActiveSource) (cause : TraceId)
  (mapped : List (SourceEventKind × ErasedValue)) (core : Core)

@[simp] theorem foldl_withMappedEvent_program :
    (mapped.foldl (withMappedEvent · source cause) core).program = core.program := by
  obtain ⟨records, works, heq, _⟩ := foldl_withMappedEvent source cause mapped core
  rw [heq]

@[simp] theorem foldl_withMappedEvent_bindings :
    (mapped.foldl (withMappedEvent · source cause) core).bindings = core.bindings := by
  obtain ⟨records, works, heq, _⟩ := foldl_withMappedEvent source cause mapped core
  rw [heq]

@[simp] theorem foldl_withMappedEvent_now :
    (mapped.foldl (withMappedEvent · source cause) core).now = core.now := by
  obtain ⟨records, works, heq, _⟩ := foldl_withMappedEvent source cause mapped core
  rw [heq]

@[simp] theorem foldl_withMappedEvent_effects :
    (mapped.foldl (withMappedEvent · source cause) core).effects = core.effects := by
  obtain ⟨records, works, heq, _⟩ := foldl_withMappedEvent source cause mapped core
  rw [heq]

@[simp] theorem foldl_withMappedEvent_requests :
    (mapped.foldl (withMappedEvent · source cause) core).requests = core.requests := by
  obtain ⟨records, works, heq, _⟩ := foldl_withMappedEvent source cause mapped core
  rw [heq]

@[simp] theorem foldl_withMappedEvent_sources :
    (mapped.foldl (withMappedEvent · source cause) core).sources = core.sources := by
  obtain ⟨records, works, heq, _⟩ := foldl_withMappedEvent source cause mapped core
  rw [heq]

@[simp] theorem foldl_withMappedEvent_fault :
    (mapped.foldl (withMappedEvent · source cause) core).fault = core.fault := by
  obtain ⟨records, works, heq, _⟩ := foldl_withMappedEvent source cause mapped core
  rw [heq]

@[simp] theorem foldl_withMappedEvent_journal :
    (mapped.foldl (withMappedEvent · source cause) core).journal = core.journal := by
  obtain ⟨records, works, heq, _⟩ := foldl_withMappedEvent source cause mapped core
  rw [heq]

@[simp] theorem foldl_withMappedEvent_nextEffect :
    (mapped.foldl (withMappedEvent · source cause) core).nextEffect = core.nextEffect := by
  obtain ⟨records, works, heq, _⟩ := foldl_withMappedEvent source cause mapped core
  rw [heq]

@[simp] theorem foldl_withMappedEvent_nextCorrelation :
    (mapped.foldl (withMappedEvent · source cause) core).nextCorrelation = core.nextCorrelation := by
  obtain ⟨records, works, heq, _⟩ := foldl_withMappedEvent source cause mapped core
  rw [heq]

@[simp] theorem foldl_withMappedEvent_nextGeneration :
    (mapped.foldl (withMappedEvent · source cause) core).nextGeneration = core.nextGeneration := by
  obtain ⟨records, works, heq, _⟩ := foldl_withMappedEvent source cause mapped core
  rw [heq]

end Mapped

/-! ### Counting records -/

section Count

variable (core : Core) (kind : TraceEvent → Bool)

@[simp] theorem count_traced (cause : Option TraceId) (event : TraceEvent) :
    (core.traced cause event).count kind = core.count kind + (kind event).toNat := by
  unfold count
  rw [traced_trace, List.countP_append, List.countP_singleton]
  cases kind event <;> rfl

@[simp] theorem count_observed (observation : Observation) :
    (core.observed observation).count kind = core.count kind := rfl

@[simp] theorem count_emitted {message : TypeId} (cause : TraceId) (component : ComponentId)
    (declaration : Declaration message) :
    (core.emitted cause component declaration).count kind =
      core.count kind + (kind (emission component declaration)).toNat :=
  count_traced core kind (some cause) (emission component declaration)

@[simp] theorem count_faulted (component : ComponentId) (descriptorType : Option String)
    (work : TraceId) (reason : String) :
    (core.faulted component descriptorType work reason).count kind = core.count kind +
      (kind (.runtimeFault component work (descriptorType.getD "<none>") reason)).toNat :=
  count_traced core kind _ _

@[simp] theorem count_scheduledAt (deadline : Duration) (work : ScheduledKind) :
    (core.scheduledAt deadline work).count kind = core.count kind := rfl

@[simp] theorem count_withComponent (id : ComponentId) (messageType : TypeId)
    (kernel : ErasedComponentKernel) :
    (core.withComponent id messageType kernel).count kind = core.count kind := rfl

@[simp] theorem count_withSource (component : ComponentId) (subscription : SubscriptionId)
    (update : ActiveSource → ActiveSource) :
    (core.withSource component subscription update).count kind = core.count kind := rfl

@[simp] theorem count_withoutSource (component : ComponentId) (subscription : SubscriptionId) :
    (core.withoutSource component subscription).count kind = core.count kind := rfl

@[simp] theorem count_withActivation (component : ComponentId)
    (subscription : ErasedRuntimeSubscription) :
    (core.withActivation component subscription).count kind = core.count kind := rfl

@[simp] theorem count_withEffect {message : TypeId} (component : ComponentId) (work : TraceId)
    (command : EffectCommand message) :
    (core.withEffect component work command).count kind = core.count kind := rfl

@[simp] theorem count_withRequest (request : OutstandingRequest) :
    (core.withRequest request).count kind = core.count kind := rfl

@[simp] theorem count_withoutRequest (correlation : Nat) :
    (core.withoutRequest correlation).count kind = core.count kind := rfl

@[simp] theorem count_withoutEffect (effectType : TypeId) (id : Nat) :
    (core.withoutEffect effectType id).count kind = core.count kind := rfl

@[simp] theorem count_withClaim (effectType : TypeId) :
    (core.withClaim effectType).count kind = core.count kind := rfl

@[simp] theorem count_popped (work : ScheduledWork) :
    (core.popped work).count kind = core.count kind := rfl

@[simp] theorem count_withPlan (source : ActiveSource) (plan : SourcePlan)
    (event : ErasedSourceEvent) (outer : List ErasedSourceEvent) :
    (core.withPlan source plan event outer).count kind = core.count kind := rfl

@[simp] theorem count_withEmission (source : ActiveSource) (input : TraceId)
    (outer : List ErasedSourceEvent) (messages : List (SourceEventKind × ErasedValue)) :
    (core.withEmission source input outer messages).count kind = core.count kind := rfl

@[simp] theorem count_withRunning (source : ActiveSource) (terminal : Bool) :
    (core.withRunning source terminal).count kind = core.count kind := rfl

@[simp] theorem count_fired (message : QueuedMessage) :
    (core.fired message).count kind = core.count kind +
      (decide (message.delivery = .timer) &&
        kind (.timerFired message.target message.messageTypeName)).toNat := by
  unfold fired
  cases message.delivery with
  | message => simp
  | timer => simp

@[simp] theorem count_foldl_withMappedEvent (source : ActiveSource) (cause : TraceId)
    (mapped : List (SourceEventKind × ErasedValue)) :
    (mapped.foldl (withMappedEvent · source cause) core).count kind = core.count kind +
      mapped.countP fun event => kind (.sourceEventMapped source.stamp.component
        source.stamp.subscription source.subscription.descriptorTypeName event.1) := by
  induction mapped generalizing core with
  | nil => rfl
  | cons event mapped ih =>
      have hhead : (core.withMappedEvent source cause event).count kind = core.count kind +
          (kind (.sourceEventMapped source.stamp.component source.stamp.subscription
            source.subscription.descriptorTypeName event.1)).toNat :=
        count_traced core kind _ _
      rw [List.foldl_cons, ih, hhead, List.countP_cons]
      have hflag (flag : Bool) : (if flag = true then 1 else 0) = flag.toNat := by
        cases flag <;> rfl
      rw [hflag]
      omega

end Count

/-- `cause` is the initialization or a transition of `component`. -/
def Rooted (core : Core) (cause : TraceId) (component : ComponentId) : Prop :=
  ∃ record, core.trace[cause]? = some record ∧
    (record.event = .initialization component ∨
      ∃ messageType, record.event = .transition component messageType)

/-- `component`, whose Messages are of `messageType`, declares work under
    `cause`. -/
structure Authors (core : Core) (cause : TraceId) (component : ComponentId)
    (messageType : TypeId) : Prop where
  rooted : core.Rooted cause component
  hosted : core.program.Hosts component messageType

/-- A queued Source event can reach the plan of its Source. -/
def Accepts (source : ActiveSource) (event : QueuedSourceEvent) : Prop :=
  source.stamp.generation = event.stamp.generation ∧ source.running = true ∧
    source.plan.terminalType = event.terminalType

/-- A projection of `component` desired `subscription`. -/
def Desires (core : Core) (component : ComponentId) (subscription : ErasedRuntimeSubscription) :
    Prop :=
  ∃ desired, Observation.projected component desired ∈ core.journal ∧
    ∃ wanted ∈ desired.subscriptions, subscription = ⟨desired.messageType, wanted⟩

/-- The checks of `activate_source`. -/
def Activatable (core : Core) (subscription : ErasedRuntimeSubscription) : Prop :=
  subscription.sourcePlan.acceptsOutputEventType subscription.sourceEventType = true ∧
    core.program.declaresSourcePlan subscription.capability subscription.descriptorType
      subscription.sourcePlan.terminalType = true ∧
    core.terminalIsControlled subscription.sourcePlan = true

end Core

/-! ## Faults of a declaration -/

/-- The guards under which `interpret_command` faults on a declaration, with
    the descriptor type and the reason of the fault. -/
inductive DeclarationFault (core : Core) {message : TypeId} :
    Declaration message → Option String → String → Prop where
  | effectForeign {command : EffectCommand message}
      (h : core.program.declaresEffect command.capability command.descriptorType = false) :
      DeclarationFault core (.effect command) (some (typeName command.descriptorType))
        "Effect capability belongs to another Program"
  | effectUncontrolled {command : EffectCommand message}
      (h : command.descriptorType ∉ core.bindings.effects) :
      DeclarationFault core (.effect command) (some (typeName command.descriptorType))
        "missing controlled terminal Effect behavior"
  | sendAbsent {command : SendCommand}
      (h : command.target.program ≠ core.program.program ∨
        core.program.component? command.target.id
          (RustTypes.componentMessage command.component) = none) :
      DeclarationFault core (.send command) none
        ("direct send target " ++ command.target.id.debug ++ " is absent from the Program")
  | notifyForeign {command : NotificationCommand}
      (h : command.port.program ≠ core.program.program) :
      DeclarationFault core (.notify command) none
        ("notification" ++ " Port belongs to another Program")
  | notifyUnbound {command : NotificationCommand}
      (h : core.program.binding? command.protocol command.port.id = none) :
      DeclarationFault core (.notify command) none
        ("notification" ++ " Port has no runtime binding")
  | requestForeign {command : RequestCommand message}
      (h : command.port.program ≠ core.program.program) :
      DeclarationFault core (.request command) none
        ("request" ++ " Port belongs to another Program")
  | requestUnbound {command : RequestCommand message}
      (h : core.program.binding? command.protocol command.port.id = none) :
      DeclarationFault core (.request command) none
        ("request" ++ " Port has no runtime binding")
  | replyUnknown {command : ReplyCommand}
      (h : core.requests.find? (·.correlation = command.replyTo.correlation) = none) :
      DeclarationFault core (.reply command) none
        "ReplyTo no longer names an outstanding Request"
  | timerOverflow {delay : Duration} {value : Val message}
      (h : Duration.checkedAdd core.now delay = none) :
      DeclarationFault core (.after delay value) none
        "logical timer deadline exceeds the Duration range"

/-! ## Actions -/

/-- Where in the runtime an action happens. -/
inductive Phase where
  | projection
  | declaration
  | input
  /-- Scheduled work is executed, with this many transitions. -/
  | execution (transitions : Nat)

def Phase.transitions : Phase → Nat
  | .execution transitions => transitions
  | _ => 0

inductive Action (core : Core) : Phase → Core → Prop where
  -- Components
  | initialized (id : ComponentId) :
      Action core .projection (core.traced none (.initialization id))
  | projected (id : ComponentId) (messageType : TypeId) (kernel : ErasedComponentKernel)
      (desired : List (Subscription (RustTypes.componentMessage kernel.componentType)))
      (changes : List (SubscriptionChange (RustTypes.componentMessage kernel.componentType)))
      (reconciler : SubscriptionReconciler)
      (hkernel : core.program.component? id messageType = some kernel)
      (hdesired : kernel.desired = .ok desired)
      (hreconcile : kernel.kernel.subscriptions.reconcile desired = .ok (changes, reconciler)) :
      Action core .projection ((core.withComponent id messageType
        { kernel with kernel := { kernel.kernel with subscriptions := reconciler } }).observed
          (.projected id ⟨_, desired⟩))
  | duplicated (id : ComponentId) (messageType : TypeId) (kernel : ErasedComponentKernel)
      (desired : List (Subscription (RustTypes.componentMessage kernel.componentType)))
      (duplicate : SubscriptionId)
      (hkernel : core.program.component? id messageType = some kernel)
      (hdesired : kernel.desired = .ok desired)
      (hreconcile : kernel.kernel.subscriptions.reconcile desired = .error duplicate) :
      Action core .projection ((core.withComponent id messageType kernel).observed
        (.projected id ⟨_, desired⟩))
  | duplicateFaulted (id : ComponentId) (work : TraceId) (desired : ErasedProjection)
      (duplicate : SubscriptionId) (hroot : core.Rooted work id) (hprojected : Observation.projected id desired ∈ core.journal)
      (hduplicate : ¬ (desired.subscriptions.map (·.id)).Nodup) :
      Action core .projection (core.faulted id none work
        ("duplicate desired Subscription identity " ++ duplicate.debug))
  | commandTaken (id : ComponentId) (messageType : TypeId) (kernel : ErasedComponentKernel)
      (hkernel : core.program.component? id messageType = some kernel) :
      Action core .projection (core.withComponent id messageType
        { kernel with kernel := { kernel.kernel with initialCommand := none } })
  -- Subscription changes
  | started (component : ComponentId) (cause : TraceId)
      (subscription : ErasedRuntimeSubscription) (hroot : core.Rooted cause component)
      (hdesires : core.Desires component subscription)
      (hactivatable : core.Activatable subscription) :
      Action core .projection ((core.traced (some cause) (lifecycle component subscription.id
        subscription.descriptorTypeName .started)).withActivation component subscription)
  | retained (component : ComponentId) (cause : TraceId)
      (subscription : ErasedRuntimeSubscription) (hroot : core.Rooted cause component)
      (hdesires : core.Desires component subscription) :
      Action core .projection ((core.traced (some cause) (lifecycle component subscription.id
        subscription.descriptorTypeName .retained)).withSource component subscription.id
          ({ · with subscription }))
  | replaced (component : ComponentId) (cause : TraceId)
      (subscription : ErasedRuntimeSubscription) (hroot : core.Rooted cause component)
      (hdesires : core.Desires component subscription)
      (hactivatable : core.Activatable subscription) :
      Action core .projection (((core.traced (some cause) (lifecycle component subscription.id
        subscription.descriptorTypeName .replaced)).withoutSource component
          subscription.id).withActivation component subscription)
  | cancelled (component : ComponentId) (cause : TraceId) (id : SubscriptionId)
      (descriptorType : String) (hroot : core.Rooted cause component) :
      Action core .projection ((core.traced (some cause) (lifecycle component id
        descriptorType .cancelled)).withoutSource component id)
  | startFaulted (component : ComponentId) (cause : TraceId)
      (subscription : ErasedRuntimeSubscription) (descriptorType : Option String)
      (reason : String) (hroot : core.Rooted cause component)
      (hdesires : core.Desires component subscription)
      (hactivatable : ¬ core.Activatable subscription) :
      Action core .projection ((core.traced (some cause) (lifecycle component subscription.id
        subscription.descriptorTypeName .started)).faulted component descriptorType
          core.nextTrace reason)
  | replaceFaulted (component : ComponentId) (cause : TraceId)
      (subscription : ErasedRuntimeSubscription) (descriptorType : Option String)
      (reason : String) (hroot : core.Rooted cause component)
      (hdesires : core.Desires component subscription)
      (hactivatable : ¬ core.Activatable subscription) :
      Action core .projection (((core.traced (some cause) (lifecycle component subscription.id
        subscription.descriptorTypeName .replaced)).withoutSource component
          subscription.id).faulted component descriptorType core.nextTrace reason)
  -- Declarations
  | effectDeclared {message : TypeId} (component : ComponentId) (cause : TraceId)
      (command : EffectCommand message) (hauthor : core.Authors cause component message)
      (hdeclares : core.program.declaresEffect command.capability command.descriptorType = true)
      (hcontrolled : command.descriptorType ∈ core.bindings.effects) :
      Action core .declaration ((core.emitted cause component (.effect command)).withEffect
        component core.nextTrace command)
  | sendDeclared {message : TypeId} (component : ComponentId) (cause : TraceId)
      (command : SendCommand) (hauthor : core.Authors cause component message)
      (hprogram : command.target.program = core.program.program)
      (kernel : ErasedComponentKernel)
      (htarget : core.program.component? command.target.id
        (RustTypes.componentMessage command.component) = some kernel) :
      Action core .declaration ((core.emitted cause component
        (.send command : Declaration message)).messageScheduled
          (plainMessage command.target.id (RustTypes.componentMessage command.component)
            ⟨_, command.message⟩ core.nextTrace))
  | notifyDeclared {message : TypeId} (component : ComponentId) (cause : TraceId)
      (command : NotificationCommand) (binding : PortBinding)
      (protocolMessage converted : ErasedValue) (hauthor : core.Authors cause component message)
      (hprogram : command.port.program = core.program.program)
      (hbinding : core.program.binding? command.protocol command.port.id = some binding)
      (hmessage : command.intoMessage = .ok protocolMessage)
      (hconverted : binding.convert protocolMessage = .ok converted) :
      Action core .declaration ((core.emitted cause component
        (.notify command : Declaration message)).messageScheduled
          (plainMessage binding.provider.id binding.providerMessageType converted
            core.nextTrace))
  | requestDeclared {message : TypeId} (component : ComponentId) (cause : TraceId)
      (command : RequestCommand message) (binding : PortBinding)
      (protocolMessage converted : ErasedValue) (hauthor : core.Authors cause component message)
      (hprogram : command.port.program = core.program.program)
      (hbinding : core.program.binding? command.protocol command.port.id = some binding)
      (hmessage : command.intoMessage core.nextCorrelation = .ok protocolMessage)
      (hconverted : binding.convert protocolMessage = .ok converted) :
      Action core .declaration (((core.emitted cause component (.request command)).withRequest
        (core.issue component command)).messageScheduled
          (plainMessage binding.provider.id binding.providerMessageType converted
            core.nextTrace))
  | replyDeclared {message : TypeId} (component : ComponentId) (cause : TraceId)
      (command : ReplyCommand) (request : OutstandingRequest) (mapped : ErasedValue)
      (hauthor : core.Authors cause component message)
      (hrequest : core.requests.find? (·.correlation = command.replyTo.correlation) =
        some request)
      (htype : request.replyType = command.replyType)
      (hmapped : request.mapper ⟨command.replyType, command.reply⟩ = .ok mapped) :
      Action core .declaration (((((core.emitted cause component
        (.reply command : Declaration message)).withoutRequest
          command.replyTo.correlation).traced (some core.nextTrace)
            (.requestOutcome request.requester (typeName request.replyType))).observed
              (.continued request ⟨command.replyType, command.reply⟩ mapped)).scheduledAt core.now
                (.message (plainMessage request.requester request.messageType mapped
                  (core.nextTrace + 1))))
  | timerDeclared {message : TypeId} (component : ComponentId) (cause : TraceId)
      (delay deadline : Duration) (value : Val message)
      (hauthor : core.Authors cause component message)
      (hdeadline : Duration.checkedAdd core.now delay = some deadline) :
      Action core .declaration ((core.emitted cause component (.after delay value)).scheduledAt
        deadline (.message ⟨component, message, ⟨message, value⟩, core.nextTrace, none, .timer⟩))
  | declarationFaulted {message : TypeId} (component : ComponentId) (cause : TraceId)
      (declaration : Declaration message) (descriptorType : Option String) (reason : String)
      (hauthor : core.Authors cause component message)
      (hfault : DeclarationFault core declaration descriptorType reason) :
      Action core .declaration ((core.emitted cause component declaration).faulted component
        descriptorType core.nextTrace reason)
  | replyMistyped {message : TypeId} (component : ComponentId) (cause : TraceId)
      (command : ReplyCommand) (request : OutstandingRequest)
      (hauthor : core.Authors cause component message)
      (hrequest : core.requests.find? (·.correlation = command.replyTo.correlation) =
        some request)
      (htype : request.replyType ≠ command.replyType) :
      Action core .declaration (((core.emitted cause component
        (.reply command : Declaration message)).withoutRequest
          command.replyTo.correlation).faulted component none core.nextTrace
            "Reply type does not match its Request correlation")
  -- Harness inputs
  | messageInput {component : TypeId} (target : ComponentRef component)
      (message : Val (RustTypes.componentMessage component))
      (hprogram : target.program = core.program.program) (kernel : ErasedComponentKernel)
      (htarget : core.program.component? target.id (RustTypes.componentMessage component) =
        some kernel) :
      Action core .input ((core.traced none (.controlledMessageInput target.id
        (typeName (RustTypes.componentMessage component)))).messageScheduled
          (plainMessage target.id (RustTypes.componentMessage component) ⟨_, message⟩
            core.nextTrace))
  | sourceInput (source : ActiveSource) (event : ErasedSourceEvent)
      (hsource : source ∈ core.sources) (hrunning : source.running = true)
      (htype : event.type = source.plan.terminalType.eventType) :
      Action core .input (((core.traced none (.controlledSourceInput source.stamp.component
        source.stamp.subscription source.plan.terminalTypeName event.kind)).observed
          (.accepted source.stamp core.nextTrace event)).scheduledAt core.now
            (.sourceEvent ⟨source.stamp, source.plan.terminalType, event, core.nextTrace⟩))
  | effectClaimed (effectType : TypeId) (entry : PendingEffectEntry)
      (hentry : core.effects.find? (PendingEffectEntry.isClaimable effectType) = some entry) :
      Action core .input (core.withClaim effectType)
  | effectDiscarded {effectType : TypeId} (id : Nat) (entry : PendingEffectEntry)
      (outcome : EffectOutcomeKind)
      (hentry : core.effects.find? (PendingEffectEntry.isPending effectType id) = some entry)
      (hmapper : entry.mapper = none) :
      Action core .input ((core.withoutEffect effectType id).traced none
        (.effectOutcome entry.requestTrace entry.component (typeName entry.descriptorType)
          outcome))
  | effectMapped {effectType : TypeId} (id : Nat) (entry : PendingEffectEntry)
      (outcome : EffectOutcome (Val (RustTypes.effectOutput effectType))
        (Val (RustTypes.effectError effectType)))
      (mapper : ErasedOutcomeMapper) (message : ErasedValue)
      (hentry : core.effects.find? (PendingEffectEntry.isPending effectType id) = some entry)
      (hmapper : entry.mapper = some mapper) (hmessage : mapper ⟨_, _, outcome⟩ = .ok message) :
      Action core .input (((core.withoutEffect effectType id).traced none
        (.effectOutcome entry.requestTrace entry.component (typeName entry.descriptorType)
          (.of outcome))).messageScheduled
            (plainMessage entry.component entry.messageType message core.nextTrace))
  -- Scheduled work
  | sourceEventStale (work : ScheduledWork) (event : QueuedSourceEvent)
      (hdue : core.nextDue = some work) (hkind : work.kind = .sourceEvent event)
      (hstale : ∀ source, core.source? event.stamp.component event.stamp.subscription =
        some source → ¬ Core.Accepts source event) :
      Action core (.execution 0) ((core.popped work).traced (some event.cause)
        (.staleSourceWorkDropped event.stamp.component event.stamp.subscription false))
  | sourceEventMapped (work : ScheduledWork) (event : QueuedSourceEvent) (source : ActiveSource)
      (plan : SourcePlan) (outer : List ErasedSourceEvent)
      (mapped : List (SourceEventKind × ErasedValue)) (hdue : core.nextDue = some work)
      (hkind : work.kind = .sourceEvent event)
      (hsource : core.source? event.stamp.component event.stamp.subscription = some source)
      (haccepts : Core.Accepts source event)
      (hplan : (SourcePlan.mapEvent event.event).run source.plan = .ok outer plan)
      (hmapped : mapOuterEvents source.subscription outer = .ok mapped) :
      Action core (.execution 0) (mapped.foldl (Core.withMappedEvent · source event.cause)
        ((((core.popped work).withPlan source plan event.event outer).withEmission source
          event.cause outer mapped).withRunning source
            (event.event.isTerminal || outer.any (·.isTerminal))))
  | messageStale (work : ScheduledWork) (message : QueuedMessage) (stamp : SourceStamp)
      (hdue : core.nextDue = some work) (hkind : work.kind = .message message)
      (hsource : message.source = some stamp) (hstale : core.sourceStampIsCurrent stamp = false) :
      Action core (.execution 0) ((core.popped work).traced (some message.cause)
        (.staleSourceWorkDropped stamp.component stamp.subscription true))
  | messageDelivered (work : ScheduledWork) (message : QueuedMessage)
      (kernel kernel' : ErasedComponentKernel) (command : ErasedCommand)
      (hdue : core.nextDue = some work) (hkind : work.kind = .message message)
      (hcurrent : ∀ stamp, message.source = some stamp → core.sourceStampIsCurrent stamp = true)
      (hkernel : core.program.component? message.target message.targetMessageType = some kernel)
      (htransition : (ErasedComponentKernel.transitionErased message.message).run kernel =
        .ok (some command) kernel') :
      Action core (.execution 1) ((((core.popped work).fired message).withComponent message.target
        message.targetMessageType kernel').traced (some (core.deliveryCause message))
          (.transition message.target message.messageTypeName))
  | deliveryFaulted (work : ScheduledWork) (message : QueuedMessage)
      (hdue : core.nextDue = some work) (hkind : work.kind = .message message)
      (hcurrent : ∀ stamp, message.source = some stamp → core.sourceStampIsCurrent stamp = true)
      (hkernel : core.program.component? message.target message.targetMessageType = none) :
      Action core (.execution 0) (((core.popped work).fired message).faulted message.target none
        (core.deliveryCause message) "Message target is absent or has a different Message type")
  | deliveryMismatched (work : ScheduledWork) (message : QueuedMessage)
      (kernel : ErasedComponentKernel) (hdue : core.nextDue = some work)
      (hkind : work.kind = .message message)
      (hcurrent : ∀ stamp, message.source = some stamp → core.sourceStampIsCurrent stamp = true)
      (hkernel : core.program.component? message.target message.targetMessageType = some kernel)
      (hmismatch : message.message.downcast kernel.messageType = none) :
      Action core (.execution 0) (((core.popped work).fired message).withComponent message.target
        message.targetMessageType kernel)

/-- An action of a runtime that has not faulted. -/
def Acts (phase : Phase) (core core' : Core) : Prop := core.fault = none ∧ Action core phase core'

/-- Logical time passes, up to a deadline at most, or as far as a `Duration`
    reaches. -/
inductive Passage (core : Core) : Core → Prop where
  | mk (time : Duration) (hforward : core.now ≤ time)
      (hdue : ∀ work ∈ core.scheduled, time ≤ work.deadline)
      (hlimit : time ≤ Duration.max ∨ ∃ work ∈ core.scheduled, work.deadline = time) :
      Passage core { core with now := time }

/-- What a runtime that has not faulted does next: an action, or nothing while
    logical time passes. -/
def Move (core core' : Core) : Prop :=
  core.fault = none ∧ ((∃ phase, Action core phase core') ∨ Passage core core')

/-! ## What every action keeps -/

section Frame

variable {phase : Phase} {core core' : Core}

/-- The trace only grows. -/
theorem Action.trace_grows (h : Action core phase core') : core.trace <+: core'.trace := by
  have hfired (core : Core) (message : QueuedMessage) :
      core.trace <+: (core.fired message).trace := by
    obtain ⟨records, heq, _⟩ := core.fired_eq message
    rw [heq]
    exact List.prefix_append _ _
  cases h with
  | sourceEventMapped work event source plan outer mapped _ _ _ _ _ _ =>
      obtain ⟨records, works, heq, _⟩ := Core.foldl_withMappedEvent source event.cause mapped
        ((((core.popped work).withPlan source plan event.event outer).withEmission source
          event.cause outer mapped).withRunning source
            (event.event.isTerminal || outer.any (·.isTerminal)))
      rw [heq]
      exact List.prefix_append _ _
  | messageDelivered work message kernel kernel' command _ _ _ _ _ =>
      exact (hfired (core.popped work) message).trans (List.prefix_append _ _)
  | deliveryFaulted work message _ _ _ _ =>
      exact (hfired (core.popped work) message).trans (List.prefix_append _ _)
  | deliveryMismatched work message kernel _ _ _ _ _ => exact hfired (core.popped work) message
  | _ => simp

/-- The history only grows. -/
theorem Action.journal_grows (h : Action core phase core') : core.journal <+: core'.journal := by
  cases h with
  | sourceEventMapped => simp [Core.withPlan, Core.withRunning]
  | _ => simp

/-- The Program of a runtime keeps its shape. -/
theorem Action.shape_eq (h : Action core phase core') :
    core'.program.shape = core.program.shape := by
  cases h with
  | projected id messageType kernel desired changes reconciler hkernel _ _ =>
      exact Program.shape_setComponent hkernel rfl rfl
  | duplicated id messageType kernel desired duplicate hkernel _ _ =>
      exact Program.shape_setComponent hkernel rfl rfl
  | commandTaken id messageType kernel hkernel => exact Program.shape_setComponent hkernel rfl rfl
  | sourceEventMapped => simp [Core.withPlan, Core.withRunning]
  | messageDelivered work message kernel kernel' command _ _ _ hkernel htransition =>
      obtain ⟨hid, htype⟩ := ErasedComponentKernel.transitionErased_ok htransition
      have hshape := Program.shape_setComponent hkernel hid htype
      simpa using hshape
  | deliveryMismatched work message kernel _ _ _ hkernel _ =>
      have hshape := Program.shape_setComponent hkernel rfl rfl
      simpa using hshape
  | _ => simp

/-- The bindings of a runtime do not change. -/
theorem Action.bindings_eq (h : Action core phase core') : core'.bindings = core.bindings := by
  cases h with
  | sourceEventMapped => simp [Core.withPlan, Core.withRunning]
  | _ => simp

/-- An action takes no logical time. -/
theorem Action.now_eq (h : Action core phase core') : core'.now = core.now := by
  cases h with
  | sourceEventMapped => simp [Core.withPlan, Core.withRunning]
  | _ => simp

/-- An action records the transitions of its phase. -/
theorem Action.transitions (h : Action core phase core') :
    core'.count TraceEvent.isTransition =
      core.count TraceEvent.isTransition + phase.transitions := by
  cases h with
  | declarationFaulted component cause declaration descriptorType reason _ _ =>
      cases declaration <;> simp [emission, TraceEvent.isTransition, Phase.transitions]
  | _ => simp [emission, lifecycle, TraceEvent.isTransition, Phase.transitions]

end Frame

theorem Acts.move {phase : Phase} {core core' : Core} (h : Acts phase core core') :
    Move core core' :=
  ⟨h.1, Or.inl ⟨phase, h.2⟩⟩

end Controlled

end Samara
