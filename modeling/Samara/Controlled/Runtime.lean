/-
  Samara.Controlled.Runtime

  Execution in the controlled profile: processing of scheduled work, the
  harness inputs, the drives, initialization, and the runs a harness can make.

  Drives recurse on fuel, since a Program may keep one instant busy forever.
  `Stop.outOfFuel` is a drive that has not returned yet.
-/
import Samara.Controlled.Interpret

namespace Samara

variable [RustTypes]

namespace Controlled

/-! ## Scheduled work -/

def popNextDue : Run (Option ScheduledWork) := do
  let core ← get
  match core.nextDue with
  | none => pure none
  | some work => do
      set (core.popped work)
      pure (some work)

/-- Record that Source work of a withdrawn or finished realization is dropped. -/
def dropStaleWork (stamp : SourceStamp) (cause : TraceId) (mappedMessage : Bool) : Run Nat := do
  let _ ← pushChild cause
    (.staleSourceWorkDropped stamp.component stamp.subscription mappedMessage)
  pure 0

/-- `source.plan.map_event(work.event)` on the row found. -/
def mapTerminalEvent (source : ActiveSource) (event : ErasedSourceEvent) :
    Run (List ErasedSourceEvent) := fun core =>
  let stored (plan : SourcePlan) :=
    core.withSource source.stamp.component source.stamp.subscription ({ · with plan })
  match (SourcePlan.mapEvent event).run source.plan with
  | .error panic plan => .error (.panicked panic) (stored plan)
  | .ok outer plan => .ok outer ((stored plan).observed (.mapped source.stamp event outer))

/-- The installed mapper over the outer events, in order. -/
def mapOuterEvents (subscription : ErasedRuntimeSubscription) :
    List ErasedSourceEvent → Callback (List (SourceEventKind × ErasedValue))
  | [] => .ok []
  | event :: events => do
      let message ← subscription.mapEvent event
      let mapped ← mapOuterEvents subscription events
      .ok ((event.kind, message) :: mapped)

/-- The Message a mapped Source event is delivered as. -/
def mappedMessage (source : ActiveSource) (message : ErasedValue) (cause : TraceId) :
    QueuedMessage :=
  ⟨source.stamp.component, source.subscription.messageType, message, cause, some source.stamp,
    .message⟩

/-- The closing loop of `process_source_event`. -/
def scheduleMapped (source : ActiveSource) (cause : TraceId) :
    List (SourceEventKind × ErasedValue) → Run Unit
  | [] => pure ()
  | (kind, message) :: mapped => do
      let mappedTrace ← pushChild cause
        (.sourceEventMapped source.stamp.component source.stamp.subscription
          source.subscription.descriptorTypeName kind)
      let core ← get
      scheduleMessage (mappedMessage source message mappedTrace) core.now
      scheduleMapped source cause mapped

def processSourceEvent (work : QueuedSourceEvent) : Run Nat := do
  let core ← get
  match core.source? work.stamp.component work.stamp.subscription with
  | none => dropStaleWork work.stamp work.cause false
  | some source =>
      if source.stamp.generation ≠ work.stamp.generation || !source.running ||
          source.plan.terminalType ≠ work.terminalType then
        dropStaleWork work.stamp work.cause false
      else do
        let outer ← mapTerminalEvent source work.event
        let mapped ← callback (mapOuterEvents source.subscription outer)
        observe (.emitted source.stamp work.cause source.subscription outer mapped)
        let terminal := work.event.isTerminal || outer.any (·.isTerminal)
        modify (·.withSource source.stamp.component source.stamp.subscription
          fun source => { source with running := source.running && !terminal })
        scheduleMapped source work.cause mapped
        pure 0

/-- Run a kernel method on the kernel found and store the kernel it leaves. -/
def onComponent {α : Type} (id : ComponentId) (messageType : TypeId)
    (kernel : ErasedComponentKernel) (action : EStateM Panic ErasedComponentKernel α) :
    Run (α × ErasedComponentKernel) := fun core =>
  match action.run kernel with
  | .error panic kernel => .error (.panicked panic) (core.withComponent id messageType kernel)
  | .ok value kernel => .ok (value, kernel) (core.withComponent id messageType kernel)

/-- `reconcile_subscriptions_erased`, with the projection in the history. -/
def reconcileComponent (id : ComponentId) (messageType : TypeId)
    (kernel : ErasedComponentKernel) :
    Run (Except SubscriptionId (List ErasedSubscriptionChange) × ErasedComponentKernel) := do
  let result ← onComponent id messageType kernel
    ErasedComponentKernel.reconcileSubscriptionsErased
  match kernel.desired with
  | .error _ => pure result
  | .ok desired => do
      observe (.projected id ⟨_, desired⟩)
      pure result

/-- Apply what a reconciliation returned, or fault on a duplicate identity. -/
def applyReconciled (component : ComponentId) (work : TraceId) :
    Except SubscriptionId (List ErasedSubscriptionChange) → Run Unit
  | .error duplicate =>
      failWithFault component none work
        ("duplicate desired Subscription identity " ++ duplicate.debug)
  | .ok changes => applySubscriptionChanges component changes work

/-- The `delivery_cause` of a Message: a timer first records that it fired. -/
def fireTimer (message : QueuedMessage) : Run TraceId :=
  match message.delivery with
  | .message => pure message.cause
  | .timer => pushChild message.cause (.timerFired message.target message.messageTypeName)

/-- `process_message` after the stale check. -/
def deliver (message : QueuedMessage) : Run Nat := do
  let deliveryCause ← fireTimer message
  let core ← get
  match core.program.component? message.target message.targetMessageType with
  | none =>
      failWithFault message.target none deliveryCause
        "Message target is absent or has a different Message type"
  | some kernel => do
      let (command, kernel) ← onComponent message.target message.targetMessageType kernel
        (ErasedComponentKernel.transitionErased message.message)
      match command with
      | none => failHarness "internal typed Message delivery mismatch"
      | some command => do
          let transition ← pushChild deliveryCause
            (.transition message.target message.messageTypeName)
          let (changes, _) ← reconcileComponent message.target message.targetMessageType kernel
          applyReconciled message.target transition changes
          interpret message.target transition command
          pure 1

def processMessage (message : QueuedMessage) : Run Nat := do
  let core ← get
  match message.source with
  | none => deliver message
  | some stamp =>
      if core.sourceStampIsCurrent stamp then deliver message
      else dropStaleWork stamp message.cause true

def processWork (work : ScheduledWork) : Run Nat :=
  match work.kind with
  | .message message => processMessage message
  | .sourceEvent event => processSourceEvent event

/-! ## Drives -/

structure PendingWork where
  pendingNow : Nat
  pendingLater : Nat
  deriving DecidableEq

structure RunReport where
  transitions : Nat
  pendingNow : Nat
  pendingLater : Nat
  deriving DecidableEq

def ScheduledWork.isMessage (work : ScheduledWork) : Bool :=
  match work.kind with
  | .message _ => true
  | .sourceEvent _ => false

/-- `pending_work`. -/
def Core.pendingWork (core : Core) : PendingWork where
  pendingNow := core.scheduled.countP fun work => work.isMessage && work.deadline ≤ core.now
  pendingLater :=
    (core.scheduled.countP fun work => work.isMessage && core.now < work.deadline) +
      core.effects.length + core.sources.countP (·.running) + core.requests.length

/-- The report of a drive that ran `transitions` transitions. -/
def report (transitions : Nat) : Run RunReport := do
  let core ← get
  let pending := core.pendingWork
  pure ⟨transitions, pending.pendingNow, pending.pendingLater⟩

/-- The loop of `run_until_idle`. -/
def drainInstant : Nat → Nat → Run Nat
  | 0, _ => throw .outOfFuel
  | fuel + 1, transitions => do
      match ← popNextDue with
      | none => pure transitions
      | some work => do
          let more ← processWork work
          ensureNotFaulted
          drainInstant fuel (transitions + more)

def runUntilIdle (fuel : Nat) : Run RunReport := do
  ensureNotFaulted
  let transitions ← drainInstant fuel 0
  report transitions

/-- The earliest deadline after `now` and no later than `limit`, if any. -/
def Core.nextDeadline (core : Core) (limit : Option Duration) : Option Duration :=
  ((core.scheduled.filter fun work =>
    decide (core.now < work.deadline) && limit.all (work.deadline ≤ ·)).map (·.deadline)).min?

/-- The loop of `advance` over the deadlines up to `target`. -/
def advanceLoop (fuel : Nat) (target : Duration) : Nat → Nat → Run Nat
  | 0, _ => throw .outOfFuel
  | rounds + 1, transitions => do
      let core ← get
      match core.nextDeadline (some target) with
      | none => pure transitions
      | some next => do
          set { core with now := next }
          let drained ← runUntilIdle fuel
          advanceLoop fuel target rounds (transitions + drained.transitions)

def advance (fuel : Nat) (duration : Duration) : Run RunReport := do
  ensureNotFaulted
  let core ← get
  match Duration.checkedAdd core.now duration with
  | none => failHarness "logical time advance exceeds the Duration range"
  | some target => do
      let first ← runUntilIdle fuel
      let transitions ← advanceLoop fuel target fuel first.transitions
      modify fun core => { core with now := target }
      let last ← runUntilIdle fuel
      report (transitions + last.transitions)

def advanceToNext (fuel : Nat) : Run RunReport := do
  ensureNotFaulted
  let first ← runUntilIdle fuel
  let core ← get
  match core.nextDeadline none with
  | none => failHarness "no future controlled work exists"
  | some next => do
      set { core with now := next }
      let last ← runUntilIdle fuel
      report (first.transitions + last.transitions)

/-! ## Harness inputs -/

def send {component : TypeId} (target : ComponentRef component)
    (message : Val (RustTypes.componentMessage component)) : Run Unit := do
  ensureNotFaulted
  let core ← get
  let messageType := RustTypes.componentMessage component
  if target.program ≠ core.program.program ||
      (core.program.component? target.id messageType).isNone then
    failHarness "controlled Message target is not part of this Program"
  else do
    let cause ← pushRoot (.controlledMessageInput target.id (typeName messageType))
    scheduleMessage (plainMessage target.id messageType ⟨messageType, message⟩ cause) core.now

/-- `enqueue_erased_source_event` on the row found. -/
def enqueueSourceEvent (source : ActiveSource) (terminalType : DescriptorType TypeId)
    (event : ErasedSourceEvent) : Run Unit :=
  if !source.running || source.plan.terminalType ≠ terminalType then
    failHarness "controlled Source input does not match an active terminal descriptor"
  else do
    let cause ← pushRoot (.controlledSourceInput source.stamp.component
      source.stamp.subscription source.plan.terminalTypeName event.kind)
    observe (.accepted source.stamp cause event)
    modify fun core => core.scheduledAt core.now
      (.sourceEvent ⟨source.stamp, terminalType, event, cause⟩)

/-- The running Sources of a terminal type under an exact capability. -/
def Core.streamSources (core : Core) (terminalType : DescriptorType TypeId)
    (token : CapabilityToken) : List ActiveSource :=
  core.sources.filter fun source =>
    source.running && source.plan.terminalType = terminalType && source.plan.carries token

def emitStream (streamItem : TypeId) (stream : CapabilityToken) (item : Val streamItem) :
    Run Unit := do
  ensureNotFaulted
  let core ← get
  match core.program.sourceRequirement stream with
  | none => failHarness "controlled stream capability belongs to another Program"
  | some requirement =>
      if requirement.terminalType ≠ .stream streamItem then
        failHarness
          "controlled stream item type does not match the capability's terminal StreamDescriptor"
      else
        match core.streamSources (.stream streamItem) stream with
        | [source] =>
            enqueueSourceEvent source (.stream streamItem)
              (.typed (.stream streamItem) (.item item))
        | _ => failHarness "controlled stream input requires exactly one active matching Source"

def closeStream (stream : CapabilityToken) : Run Unit := do
  ensureNotFaulted
  let core ← get
  match core.program.sourceRequirement stream with
  | none => failHarness "controlled stream capability belongs to another Program"
  | some requirement =>
      if requirement.terminalStreamItemType.isNone then
        failHarness "controlled stream close requires a StreamDescriptor terminal"
      else
        match core.streamSources requirement.terminalType stream with
        | [source] =>
            enqueueSourceEvent source source.plan.terminalType source.plan.terminalEndedEvent
        | _ => failHarness "controlled stream close requires exactly one active matching Source"

def emitSource {component : TypeId} (target : ComponentRef component) (id : SubscriptionId)
    (descriptorType : DescriptorType TypeId)
    (event : SourceEvent (Val descriptorType.item) descriptorType.error.Val) : Run Unit := do
  ensureNotFaulted
  let core ← get
  if target.program ≠ core.program.program then
    failHarness "controlled Source target is not part of this Program"
  else
    match core.source? target.id id with
    | none => failHarness "controlled Source input targets no active Subscription"
    | some source => enqueueSourceEvent source descriptorType (.typed descriptorType event)

/-- `PendingEffect<E>`: the claimed intent and the identity it is completed by. -/
structure PendingEffect (effectType : TypeId) where
  intent : Val effectType
  id : Nat
  program : ProgramId

def nextEffect (effectType : TypeId) : Run (PendingEffect effectType) := do
  ensureNotFaulted
  let core ← get
  match core.effects.find? (PendingEffectEntry.isClaimable effectType) with
  | none => failHarness "no pending effect of the requested descriptor type"
  | some entry => do
      set (core.withClaim effectType)
      match entry.descriptor.bind (·.downcast effectType) with
      | none => throw (.panicked .internal)
      | some intent => pure ⟨intent, entry.id, core.program.program⟩

def complete {effectType : TypeId} (pending : PendingEffect effectType)
    (outcome : EffectOutcome (Val (RustTypes.effectOutput effectType))
      (Val (RustTypes.effectError effectType))) : Run Unit := do
  ensureNotFaulted
  let core ← get
  if pending.program ≠ core.program.program then
    failHarness "pending effect belongs to another controlled runtime"
  else
    match core.effects.find? (PendingEffectEntry.isPending effectType pending.id) with
    | none => failHarness "pending effect is no longer owned by this runtime"
    | some entry => do
        set (core.withoutEffect effectType pending.id)
        let outcomeTrace ← pushRoot (.effectOutcome entry.requestTrace entry.component
          (typeName entry.descriptorType) (.of outcome))
        match entry.mapper with
        | none => pure ()
        | some mapper => do
            let message ← callback (mapper ⟨_, _, outcome⟩)
            scheduleMessage
              (plainMessage entry.component entry.messageType message outcomeTrace) core.now

/-! ## Initialization -/

/-- One Component of `initialize`. -/
def initializeComponent (id : ComponentId) (messageType : TypeId) : Run Unit := do
  let initialization ← pushRoot (.initialization id)
  let core ← get
  match core.program.component? id messageType with
  | none => pure ()
  | some kernel => do
      let (changes, kernel) ← reconcileComponent id messageType kernel
      let (command, _) ← onComponent id messageType kernel
        ErasedComponentKernel.takeInitialCommandErased
      applyReconciled id initialization changes
      match command with
      | none => pure ()
      | some command => interpret id initialization command

/-- The loop of `initialize`, which an error ends. -/
def initializeComponents : List (ComponentId × TypeId) → Run Unit
  | [] => pure ()
  | (id, messageType) :: components => do
      initializeComponent id messageType
      initializeComponents components

/-- The order of `initialize`: by identity, whatever the registration order.
    `build` made identities distinct, so one names the kernel of its index. -/
def initializationOrder (program : Program) : List (ComponentId × TypeId) :=
  (program.components.map fun component => (component.id, component.messageType)).insertionSort
    fun left right => left.1.name ≤ right.1.name

/-- The state `ControlledCore::new` initializes. -/
def Core.fresh (program : Program) (bindings : Bindings) : Core where
  program := program
  bindings := bindings
  now := 0
  nextTicket := 0
  nextEffect := 0
  nextCorrelation := 0
  nextGeneration := 0
  scheduled := []
  effects := []
  requests := []
  sources := []
  trace := []
  fault := none
  journal := []

/-- `ControlledCore::new`; a fault during initialization is left in the state. -/
def Core.new (program : Program) (bindings : Bindings) : Except Stop Core :=
  match (initializeComponents (initializationOrder program)).run (Core.fresh program bindings) with
  | .ok _ core => .ok core
  | .error (.error _) core => .ok core
  | .error stop _ => .error stop

end Controlled

end Samara
