/-
  Samara.Live.Runtime

  The owner of a live runtime (`LiveCore` in `live_runtime.rs`): Source
  activation, command interpretation, the processing of events, and the loop
  that ends in Drain, Cancel or a fault.

  `turn` stands in front of every access to shared state: what the schedule
  has for it happens first.  Loops that wait recurse on fuel; `Stop.outOfFuel`
  is an owner that is still running, and `Stop.joining` one that waits for a task
  it has aborted.
-/
import Samara.Live.State

namespace Samara

variable [RustTypes]

namespace Live

/-- Why the owner did not return from a method. -/
inductive Stop where
  /-- It returned `Err`. -/
  | error (error : RuntimeError)
  /-- It unwound. -/
  | panicked (panic : Panic)
  /-- It is still running. -/
  | outOfFuel
  /-- It still waits for a task that `cleanup_abort` has aborted. -/
  | joining
  deriving DecidableEq

/-- A method of `LiveCore`. -/
abbrev Owner := EStateM Stop Core

/-! ## Access to shared state -/

/-- What the schedule has for this point happens. -/
def Core.turn (core : Core) : Core :=
  match core.schedule with
  | [] => core
  | activities :: schedule => activities.foldl Core.act { core with schedule }

def turn : Owner Unit := modify Core.turn

def observe (observation : Observation) : Owner Unit := modify (·.observed observation)

def scopePhase : Owner ScopePhase := do
  turn
  let core ← get
  pure core.scope.phase

def isRunning : Owner Bool := do
  let phase ← scopePhase
  pure (phase = .running)

def isCancelling : Owner Bool := do
  let phase ← scopePhase
  pure (phase = .cancelling)

def isDraining : Owner Bool := do
  let phase ← scopePhase
  pure (phase = .draining)

def acceptFinite (event : LiveEvent) : Owner Bool := do
  turn
  let core ← get
  set (core.withScope (core.scope.called (.finite event)))
  pure (core.scope.acceptFinite event).1

/-- `scope.fault(error)`. -/
def faultScope (error : RuntimeError) : Owner Unit := do
  turn
  modify fun core => core.withScope (core.scope.called (.fault error))

/-- `scope.close()`. -/
def closeScope : Owner Unit := do
  turn
  modify fun core => core.withScope (core.scope.called .close)

/-- `SourceGate::stop` of a realization. -/
def stopGate (generation : Nat) : Owner (Except String Unit) := do
  turn
  let core ← get
  match core.gates[generation]? with
  | none => pure (.ok ())
  | some gate => do
      set { core with
        gates := core.gates.set generation { gate with state := .stopped, stopHook := none } }
      pure (gate.stopHook.getD (.ok ()))

/-- `AbortHandle::abort`. -/
def abort (task : Nat) : Owner Unit := do
  turn
  modify fun core =>
    { core with tasks := Table.modifyFirst (·.id = task) ({ · with aborted := true }) core.tasks }

/-- `spawn_owned`. -/
def spawnOwned (context : TaskContext) (delivery : TaskDelivery) : Owner Nat := do
  turn
  let core ← get
  set { core with
    nextTask := core.nextTask + 1
    tasks := core.tasks ++ [Task.mk core.nextTask context delivery false] }
  pure core.nextTask

/-! ## Work and faults -/

def nextWork : Owner TraceId := do
  let core ← get
  set { core with nextWork := core.nextWork + 1 }
  pure core.nextWork

/-- `return Err(self.runtime_fault(..))`. -/
def runtimeFault {α : Type} (component : ComponentId) (descriptorType : Option String)
    (work : TraceId) (reason : String) : Owner α :=
  throw (.error (.fault component descriptorType work reason))

/-- `catch_unwind(..).map_err(|_| self.runtime_fault(..))?`. -/
def caught {α : Type} (result : Callback α) (component : ComponentId)
    (descriptorType : Option String) (work : TraceId) (reason : String) : Owner α :=
  match result with
  | .ok value => pure value
  | .error _ => do
      observe (.panicked true)
      runtimeFault component descriptorType work reason

/-- A call of code that may panic outside any `catch_unwind`: the owner unwinds. -/
def uncaught {α : Type} (result : Callback α) : Owner α :=
  match result with
  | .ok value => pure value
  | .error panic => do
      observe (.panicked false)
      throw (.panicked panic)

/-! ## Sources -/

/-- `source_index`, as the row found. -/
def Core.source? (core : Core) (component : ComponentId) (subscription : SubscriptionId) :
    Option ActiveSource :=
  core.sources.find? fun source =>
    source.stamp.component = component && source.stamp.subscription = subscription

def Core.sourceStampIsCurrent (core : Core) (stamp : SourceStamp) : Bool :=
  (core.source? stamp.component stamp.subscription).any (·.stamp.generation = stamp.generation)

/-- An assignment to a field of `sources[index]`, by the generation of the row. -/
@[simps]
def Core.withSource (core : Core) (generation : Nat) (update : ActiveSource → ActiveSource) :
    Core :=
  { core with
    sources := Table.modifyFirst (·.stamp.generation = generation) update core.sources }

/-- `sources.remove(index)`. -/
@[simps]
def Core.withoutSource (core : Core) (generation : Nat) : Core :=
  { core with sources := core.sources.eraseP (·.stamp.generation = generation) }

def stopSource (source : ActiveSource) (retainForDrain : Bool) (work : TraceId) : Owner Unit := do
  let stopped ← stopGate source.stamp.generation
  abort source.task
  modify (·.withSource source.stamp.generation fun source =>
    { source with running := false, drainRetained := source.drainRetained || retainForDrain })
  match stopped with
  | .ok () => pure ()
  | .error reason =>
      runtimeFault source.stamp.component (some source.plan.terminalTypeName) work reason

/-- The loop of `begin_drain`. -/
def stopSourcesForDrain : List ActiveSource → Owner Unit
  | [] => pure ()
  | source :: sources => do
      let work ← nextWork
      stopSource source true work
      stopSourcesForDrain sources

def beginDrain : Owner Unit := do
  let core ← get
  if core.draining then pure ()
  else do
    set { core with draining := true }
    stopSourcesForDrain core.sources

def observeDrainCutoff : Owner Unit := do
  let core ← get
  if core.draining then pure ()
  else if ← isDraining then beginDrain
  else pure ()

/-- The gate and the stamp of a new realization. -/
def newRealization (component : ComponentId) (subscription : ErasedRuntimeSubscription) :
    Owner SourceStamp := do
  let core ← get
  let stamp : SourceStamp := ⟨component, subscription.id, core.nextGeneration⟩
  set { core with
    nextGeneration := core.nextGeneration + 1
    gates := core.gates ++
      [SourceGate.mk stamp subscription.sourcePlan.terminalType .active none] }
  pure stamp

def activateSource (component : ComponentId) (subscription : ErasedRuntimeSubscription)
    (work : TraceId) : Owner Unit := do
  let core ← get
  if core.draining then pure ()
  else if !(← isRunning) then pure ()
  else do
    -- Lowering clones the descriptor and starts its decoders.
    uncaught subscription.starts
    let plan := subscription.sourcePlan
    if !plan.acceptsOutputEventType subscription.sourceEventType then
      runtimeFault component (some plan.terminalTypeName) work
        "SourcePlan output does not match its Subscription event type"
    else if !core.program.declaresSourcePlan subscription.capability subscription.descriptorType
        plan.terminalType then
      runtimeFault component (some plan.terminalTypeName) work
        "Source capability belongs to another Program or has inconsistent terminal metadata"
    else
      match core.bindings.source plan with
      | .error reason => runtimeFault component (some plan.terminalTypeName) work reason
      | .ok binding => do
          let stamp ← newRealization component subscription
          caught (binding.start stamp) component (some plan.terminalTypeName) work
            "SourceDriver panicked while starting"
          let task ← spawnOwned (.source stamp plan.terminalTypeName work) .none
          modify fun core => { core with
            sources := core.sources ++ [⟨stamp, true, false, false, subscription, plan, task⟩] }
          observe (.activated stamp subscription)

/-- The removal of a realization by Replace or Cancel.  A realization that
    Drain retains stays; `false` says so. -/
def withdrawSource (component : ComponentId) (id : SubscriptionId) (work : TraceId) :
    Owner Bool := do
  let core ← get
  match core.source? component id with
  | none => pure true
  | some source =>
      if core.draining && source.drainRetained then pure false
      else do
        stopSource source false work
        modify (·.withoutSource source.stamp.generation)
        observe (.withdrawn source.stamp)
        pure true

/-- One change of `apply_subscription_changes`. -/
def applySubscriptionChange (component : ComponentId) (work : TraceId) :
    ErasedSubscriptionChange → Owner Unit
  | .start subscription => activateSource component subscription work
  | .retain subscription => do
      let core ← get
      match core.source? component subscription.id with
      | none => pure ()
      | some source => do
          modify (·.withSource source.stamp.generation ({ · with subscription }))
          observe (.retained source.stamp subscription)
  | .replace subscription => do
      if ← withdrawSource component subscription.id work then
        activateSource component subscription work
      else pure ()
  | .cancel id => do
      let _ ← withdrawSource component id work

/-- The loop of `apply_subscription_changes` over the sorted changes. -/
def applyChanges (component : ComponentId) (work : TraceId) :
    List ErasedSubscriptionChange → Owner Unit
  | [] => pure ()
  | change :: changes => do
      observeDrainCutoff
      applySubscriptionChange component work change
      applyChanges component work changes

def applySubscriptionChanges (component : ComponentId) (changes : List ErasedSubscriptionChange)
    (work : TraceId) : Owner Unit :=
  applyChanges component work (sortChanges changes)

/-! ## Command interpretation -/

section Arms

variable {message : TypeId} (component : ComponentId) (work : TraceId)

/-- The `CommandKind::Effect` arm. -/
def interpretEffect (command : EffectCommand message) : Owner Unit := do
  let core ← get
  if !core.program.declaresEffect command.capability command.descriptorType then
    runtimeFault component (some (typeName command.descriptorType)) work
      "Effect capability belongs to another Program"
  else if command.descriptorType ∉ core.bindings.effects then
    runtimeFault component (some (typeName command.descriptorType)) work
      "missing live terminal Effect binding"
  else do
    let id := core.nextEffect
    modify fun core => { core with nextEffect := id + 1 }
    let task ← spawnOwned (.effect id component (typeName command.descriptorType) work)
      (.effect id command.descriptorType)
    modify fun core => { core with
      effects := core.effects ++
        [⟨id, component, command.descriptorType, command.mapper, message, task⟩] }

/-- A Message delivered for its own sake. -/
def plainMessage (target : ComponentId) (targetMessageType : TypeId) (message : ErasedValue) :
    LiveEvent :=
  .message ⟨target, targetMessageType, message, none⟩

/-- The `CommandKind::Send` arm. -/
def interpretSend (command : SendCommand) : Owner Unit := do
  let core ← get
  let messageType := RustTypes.componentMessage command.component
  if command.target.program ≠ core.program.program ||
      (core.program.component? command.target.id messageType).isNone then
    runtimeFault component none work
      ("direct send target " ++ command.target.id.debug ++ " is absent from the Program")
  else do
    let _ ← acceptFinite (plainMessage command.target.id messageType ⟨_, command.message⟩)

/-- The Port checks of the `Notify` and `Request` arms and of external
    ingress. -/
def resolvePort {protocol : TypeId} (port : Port protocol) (noun : String) :
    Owner PortBinding := do
  let core ← get
  if port.program ≠ core.program.program then
    runtimeFault component none work (noun ++ " Port belongs to another Program")
  else
    match core.program.binding? protocol port.id with
    | none => runtimeFault component none work (noun ++ " Port has no runtime binding")
    | some binding => pure binding

/-- The `CommandKind::Notify` arm; a panic of either conversion unwinds. -/
def interpretNotify (command : NotificationCommand) : Owner Unit := do
  let binding ← resolvePort component work command.port "notification"
  let protocolMessage ← uncaught command.intoMessage
  let converted ← uncaught (binding.convert protocolMessage)
  let _ ← acceptFinite
    (plainMessage binding.provider.id binding.providerMessageType converted)

/-- `requests.push`. -/
def pushRequest (request : OutstandingRequest) : Owner Unit := do
  modify fun core => { core with requests := core.requests ++ [request] }
  observe (.requested request)

/-- The `CommandKind::Request` arm; a panic of either conversion unwinds. -/
def interpretRequest (command : RequestCommand message) : Owner Unit := do
  let binding ← resolvePort component work command.port "request"
  let core ← get
  let correlation := core.nextRequest
  set { core with nextRequest := correlation + 1 }
  let protocolMessage ← uncaught (command.intoMessage correlation)
  let converted ← uncaught (binding.convert protocolMessage)
  pushRequest ⟨correlation, command.replyType, .component component command.mapper message⟩
  let _ ← acceptFinite
    (plainMessage binding.provider.id binding.providerMessageType converted)

/-- The completion of a host request is sent its Reply. -/
def Core.withReply (core : Core) (completion : Nat) (reply : ErasedValue) : Core :=
  core.withWaiter completion fun
    | .pending => .replied reply
    | waiter => waiter

/-- The `CommandKind::Reply` arm. -/
def interpretReply (command : ReplyCommand) : Owner Unit := do
  let core ← get
  match core.requests.find? (·.correlation = command.replyTo.correlation) with
  | none =>
      runtimeFault component none work "ReplyTo no longer names an outstanding Request"
  | some request => do
      modify fun core => { core with
        requests := core.requests.eraseP (·.correlation = command.replyTo.correlation) }
      if request.replyType ≠ command.replyType then do
        -- The request is dropped, with the completion it may hold.
        modify (·.discard request.completion?)
        runtimeFault component none work "Reply type does not match its Request correlation"
      else do
        let reply : ErasedValue := ⟨command.replyType, command.reply⟩
        observe (.continued request reply)
        match request.continuation with
        | .component requester mapper messageType => do
            let mapped ← caught (mapper reply) component none work "Request continuation panicked"
            let _ ← acceptFinite (plainMessage requester messageType mapped)
        | .host completion => modify (·.withReply completion reply)

/-- The `CommandKind::After` arm. -/
def interpretAfter (value : Val message) : Owner Unit := do
  let core ← get
  let id := core.nextTimer
  set { core with nextTimer := id + 1 }
  let task ← spawnOwned (.timer component work)
    (.timer id ⟨component, message, ⟨message, value⟩, none⟩)
  modify fun core => { core with timers := core.timers ++ [⟨id, task⟩] }

/-- The `match` of `interpret_command`. -/
def interpretDeclaration : Declaration message → Owner Unit
  | .effect command => interpretEffect component work command
  | .send command => interpretSend component work command
  | .notify command => interpretNotify component work command
  | .request command => interpretRequest component work command
  | .reply command => interpretReply component work command
  | .after _ value => @interpretAfter _ message component work value

end Arms

/-- The loop of `interpret_command`. -/
def interpretDeclarations {message : TypeId} (component : ComponentId) :
    List (Declaration message) → Owner Unit
  | [] => pure ()
  | declaration :: declarations => do
      -- The issuance boundary of each declaration.
      if ← isCancelling then pure ()
      else do
        observeDrainCutoff
        let work ← nextWork
        interpretDeclaration component work declaration
        interpretDeclarations component declarations

/-- `ErasedCommand::interpret_live`. -/
def interpret (component : ComponentId) (command : ErasedCommand) : Owner Unit :=
  interpretDeclarations component command.command.intoDeclarations

/-! ## Components -/

/-- Run a kernel method on the kernel found and store the kernel it leaves. -/
def onComponent {α : Type} (id : ComponentId) (messageType : TypeId)
    (kernel : ErasedComponentKernel) (action : EStateM Panic ErasedComponentKernel α) :
    Owner (Callback α × ErasedComponentKernel) := fun core =>
  match action.run kernel with
  | .error panic kernel =>
      .ok (.error panic, kernel)
        { core with program := core.program.setComponent id messageType kernel }
  | .ok value kernel =>
      .ok (.ok value, kernel)
        { core with program := core.program.setComponent id messageType kernel }

/-- `changes.map_err(..)?` on a duplicate identity. -/
def requireChanges (component : ComponentId) (work : TraceId) :
    Except SubscriptionId (List ErasedSubscriptionChange) → Owner (List ErasedSubscriptionChange)
  | .error duplicate =>
      runtimeFault component none work
        ("duplicate desired Subscription identity " ++ duplicate.debug)
  | .ok changes => pure changes

/-- The loop of `initialize`.  A panic of `Component::subscriptions` unwinds, and
    so does one of the application's code in a descriptor that is compared. -/
def initializeComponents : List (ComponentId × TypeId) → Owner Unit
  | [] => pure ()
  | (id, messageType) :: components => do
      if ← isCancelling then pure ()
      else do
        let work ← nextWork
        let core ← get
        match core.program.component? id messageType with
        | none => initializeComponents components
        | some kernel => do
            uncaught kernel.reconciles
            let (reconciled, kernel) ← onComponent id messageType kernel
              ErasedComponentKernel.reconcileSubscriptionsErased
            let result ← uncaught reconciled
            let (command, _) ← onComponent id messageType kernel
              ErasedComponentKernel.takeInitialCommandErased
            let changes ← requireChanges id work result
            if ← isCancelling then pure ()
            else do
              observeDrainCutoff
              applySubscriptionChanges id changes work
              match command with
              | .ok (some command) => do
                  if ← isCancelling then pure ()
                  else do
                    interpret id command
                    initializeComponents components
              | _ => initializeComponents components

/-- The order of `initialize`: by identity, whatever the registration order. -/
def initializationOrder (program : Program) : List (ComponentId × TypeId) :=
  (program.components.map fun component => (component.id, component.messageType)).insertionSort
    fun left right => left.1.name ≤ right.1.name

/-- `initialize`. -/
def initializeProgram : Owner Unit := do
  observeDrainCutoff
  let core ← get
  initializeComponents (initializationOrder core.program)

/-- Reconciliation is as unguarded as in `initialize`. -/
def finishTransition (target : ComponentId) (messageType : TypeId)
    (kernel : ErasedComponentKernel) (work : TraceId) (command : ErasedCommand) :
    Owner Unit := do
  if ← isCancelling then pure ()
  else do
    observeDrainCutoff
    uncaught kernel.reconciles
    let (reconciled, _) ← onComponent target messageType kernel
      ErasedComponentKernel.reconcileSubscriptionsErased
    let result ← uncaught reconciled
    let changes ← requireChanges target work result
    if ← isCancelling then pure ()
    else do
      observeDrainCutoff
      applySubscriptionChanges target changes work
      if ← isCancelling then pure ()
      else interpret target command

/-- `process_message` after the stale check. -/
def deliverMessage (message : QueuedMessage) : Owner Unit := do
  let work ← nextWork
  let core ← get
  match core.program.component? message.target message.targetMessageType with
  | none =>
      runtimeFault message.target none work
        "Message target is absent or has a different Message type"
  | some kernel => do
      observe (.transition message)
      let (transitioned, kernel) ← onComponent message.target message.targetMessageType kernel
        (ErasedComponentKernel.transitionErased message.message)
      let command ← caught transitioned message.target none work "Component transition panicked"
      match command with
      | none => throw (.error (.harness "internal typed Message delivery mismatch"))
      | some command => finishTransition message.target message.targetMessageType kernel work command

def processMessage (message : QueuedMessage) : Owner Unit := do
  let core ← get
  match message.source with
  | none => deliverMessage message
  | some stamp =>
      if core.sourceStampIsCurrent stamp then deliverMessage message else pure ()

/-! ## Events -/

/-- The installed mapper over the outer events, in order. -/
def mapOuterEvents (subscription : ErasedRuntimeSubscription) :
    List ErasedSourceEvent → Callback (List ErasedValue)
  | [] => .ok []
  | event :: events => do
      let message ← subscription.mapEvent event
      let mapped ← mapOuterEvents subscription events
      .ok (message :: mapped)

/-- `source.plan.map_event(event)` on the row found, inside `catch_unwind`. -/
def mapTerminalEvent (source : ActiveSource) (event : ErasedSourceEvent) :
    Owner (Callback (List ErasedSourceEvent)) := fun core =>
  let stored (plan : SourcePlan) :=
    core.withSource source.stamp.generation ({ · with plan })
  match (SourcePlan.mapEvent event).run source.plan with
  | .error panic plan => .ok (.error panic) (stored plan)
  | .ok outer plan => .ok (.ok outer) (stored plan)

/-- The closing loop of `process_source_event`. -/
def sendMapped (source : ActiveSource) : List ErasedValue → Owner Unit
  | [] => pure ()
  | message :: messages => do
      let _ ← acceptFinite (.message ⟨source.stamp.component, source.subscription.messageType,
        message, some source.stamp⟩)
      sendMapped source messages

/-- Whether a queued Source event reaches the plan of its Source. -/
def ActiveSource.accepts (source : ActiveSource) (stamp : SourceStamp)
    (terminalType : DescriptorType TypeId) : Bool :=
  source.stamp.generation = stamp.generation && !source.terminalObserved &&
    (source.running || source.drainRetained) && source.plan.terminalType = terminalType

/-- What a terminal outer event does to its Source. -/
def endSource (source : ActiveSource) (work : TraceId) : Owner Unit := do
  modify (·.withSource source.stamp.generation fun source =>
    { source with terminalObserved := true, running := false })
  if source.drainRetained then pure ()
  else do
    let stopped ← stopGate source.stamp.generation
    abort source.task
    match stopped with
    | .ok () => pure ()
    | .error reason =>
        runtimeFault source.stamp.component (some source.plan.terminalTypeName) work reason

def processSourceEvent (stamp : SourceStamp) (terminalType : DescriptorType TypeId)
    (event : ErasedSourceEvent) : Owner Unit := do
  let core ← get
  match core.source? stamp.component stamp.subscription with
  | none => pure ()
  | some source =>
      if !source.accepts stamp terminalType then pure ()
      else do
        let work ← nextWork
        let fail : String := "Source Layer or message mapper panicked"
        let terminalName := source.plan.terminalTypeName
        let mapped ← mapTerminalEvent source event
        let outer ← caught mapped stamp.component (some terminalName) work fail
        let messages ← caught (mapOuterEvents source.subscription outer) stamp.component
          (some terminalName) work fail
        observe (.mapped source.stamp event source.subscription outer messages)
        if event.isTerminal || outer.any (·.isTerminal) then endSource source work
        sendMapped source messages

def processEffect (id : Nat) (outcome : ErasedOutcome) : Owner Unit := do
  let core ← get
  match core.effects.find? (·.id = id) with
  | none => pure ()
  | some effect => do
      set { core with effects := core.effects.eraseP (·.id = id) }
      match effect.mapper with
      | none => pure ()
      | some mapper => do
          let work ← nextWork
          let message ← caught (mapper outcome) effect.component
            (some (typeName effect.descriptorType)) work "Effect outcome mapper panicked"
          let _ ← acceptFinite (plainMessage effect.component effect.messageType message)

/-- The Component that faults of external Ports are reported under. -/
def externalPort : ComponentId := ⟨"<external-port>"⟩

def processPortNotification (ingress : NotificationCommand) : Owner Unit := do
  let work ← nextWork
  let binding ← resolvePort externalPort work ingress.port "notification"
  let protocolMessage ← caught ingress.intoMessage binding.provider.id none work
    "external Notification protocol conversion panicked"
  let converted ← caught (binding.convert protocolMessage) binding.provider.id none work
    "external Notification binding conversion panicked"
  let _ ← acceptFinite
    (plainMessage binding.provider.id binding.providerMessageType converted)

/-- A request that fails the Port checks is dropped with its completion. -/
def resolveRequestPort (ingress : PortRequest) (work : TraceId) : Owner PortBinding := fun core =>
  match (resolvePort externalPort work ingress.port "request").run core with
  | .ok binding core => .ok binding core
  | .error stop core => .error stop (core.discard (some ingress.completion))

/-- `requests.pop()`: the last request is dropped, with the completion it may hold. -/
def Core.popRequest (core : Core) : Core :=
  ({ core with requests := core.requests.dropLast } : Core).discard
    (core.requests.getLast?.bind OutstandingRequest.completion?)

def processPortRequest (ingress : PortRequest) : Owner Unit := do
  let work ← nextWork
  let binding ← resolveRequestPort ingress work
  let core ← get
  let correlation := core.nextRequest
  set { core with nextRequest := correlation + 1 }
  pushRequest ⟨correlation, ingress.replyType, .host ingress.completion⟩
  let protocolMessage ← caught (ingress.intoMessage correlation) binding.provider.id none work
    "external Request protocol conversion panicked"
  let converted ← caught (binding.convert protocolMessage) binding.provider.id none work
    "external Request binding conversion panicked"
  if ← acceptFinite (plainMessage binding.provider.id binding.providerMessageType converted) then
    pure ()
  else modify Core.popRequest

/-- The `TimerFired` arm of the loop. -/
def processTimer (timer : Nat) (message : QueuedMessage) : Owner Unit := do
  let core ← get
  match core.timers.find? (·.id = timer) with
  | none => pure ()
  | some _ => do
      set { core with timers := core.timers.eraseP (·.id = timer) }
      processMessage message

/-- The `match` of the loop on an event other than the Cancel marker. -/
def dispatch : LiveEvent → Owner Unit
  | .message message => processMessage message
  | .portIngress (.notification ingress) => processPortNotification ingress
  | .portIngress (.request ingress) => processPortRequest ingress
  | .sourceEvent stamp terminalType event => processSourceEvent stamp terminalType event
  | .effectOutcome effect outcome => processEffect effect outcome
  | .timerFired timer message => processTimer timer message
  | .shutdown _ => beginDrain

/-! ## Tasks -/

/-- Whether the fault of a Source task still matters. -/
def Core.relevant (core : Core) (stamp : SourceStamp) : Bool :=
  (core.source? stamp.component stamp.subscription).any fun source =>
    source.stamp.generation = stamp.generation &&
      (source.running || (source.drainRetained && !source.terminalObserved))

/-- `task_fault` on what the task itself reported. -/
def taskFault (context : TaskContext) (panicked : Bool) (reason : String) : Owner Unit :=
  match context with
  | .effect _ component descriptorType work =>
      runtimeFault component (some descriptorType) work reason
  | .source stamp descriptorType work => do
      let core ← get
      if core.relevant stamp then
        runtimeFault stamp.component (some descriptorType) work reason
      else pure ()
  | .timer component work =>
      runtimeFault component none work
        (if panicked then "runtime-owned timer task panicked" else reason)

/-- What the owner makes of a task that it has joined. -/
def joinTask (exit : TaskExit) : Owner Unit :=
  match exit.outcome with
  | .returned | .cancelled => pure ()
  | .failed reason => taskFault exit.context false reason
  | .panicked => taskFault exit.context true "runtime-owned Driver task panicked"
  | .lost => do
      let work ← nextWork
      runtimeFault ⟨"<runtime>"⟩ none work "runtime-owned task failed outside Driver supervision"

/-! ## The end of the owner -/

/-- The gates of all Sources are stopped, whatever their hooks return. -/
def stopGates : List ActiveSource → Owner Unit
  | [] => pure ()
  | source :: sources => do
      let _ ← stopGate source.stamp.generation
      stopGates sources

/-- `tasks.try_join_next()`. -/
def tryJoinNext : Owner (Option TaskExit) := do
  turn
  let core ← get
  match core.finished with
  | [] => pure none
  | exit :: finished => do
      set { core with finished }
      pure (some exit)

/-- `while tasks.join_next().await.is_some() {}`.  A round that finds no task
    ended waits, unless there are no tasks. -/
def joinAborted : Nat → Owner Unit
  | 0 => throw .joining
  | rounds + 1 => do
      match ← tryJoinNext with
      | some _ => joinAborted rounds
      | none => do
          let core ← get
          if core.tasks.isEmpty then pure () else joinAborted rounds

/-- More rounds than there are tasks to join and things to happen: an owner that
    still waits after them waits for ever. -/
def Core.patience (core : Core) : Nat :=
  core.schedule.length + (core.tasks.length + core.finished.length) + 1

def cleanupAbort : Owner Unit := do
  let core ← get
  stopGates core.sources
  turn
  modify fun core => { core with
    tasks := core.tasks.map ({ · with aborted := true })
    sources := []
    effects := []
    timers := [] }
  modify fun core => ({ core with requests := [] } : Core).dropRequests core.requests
  let core ← get
  joinAborted core.patience
  turn
  modify fun core => (core.withScope { core.scope with channel := [] }).dropEvents core.scope.channel

/-- `if let Err(error) = .. { scope.fault(..); cleanup_abort(); return Err }`. -/
def failing (action : Owner Unit) : Owner Unit := fun core =>
  match action.run core with
  | .error (.error error) core =>
      (do
        faultScope error
        cleanupAbort
        throw (.error error) : Owner Unit).run core
  | result => result

/-- An effect outcome admitted before Cancel keeps its mapper invocation; any
    other event is dropped, with the completion it may hold. -/
def retainPreCancelEffectOutcome (event : LiveEvent) : Owner Unit :=
  match event with
  | .effectOutcome effect outcome => processEffect effect outcome
  | event => modify (·.discard event.completion?)

/-- `receiver.try_recv()`. -/
def tryRecv : Owner (Option LiveEvent) := do
  turn
  let core ← get
  match core.scope.channel with
  | [] => pure none
  | event :: channel => do
      set ((core.withScope { core.scope with channel }).observed (.received event))
      pure (some event)

/-- The first loop of `finish_cancel`. -/
def retainQueued : Nat → Owner Unit
  | 0 => throw .outOfFuel
  | fuel + 1 => do
      match ← tryRecv with
      | none => pure ()
      | some event => do
          failing (retainPreCancelEffectOutcome event)
          retainQueued fuel

/-- The second loop of `finish_cancel`. -/
def joinFinished : Nat → Owner Unit
  | 0 => throw .outOfFuel
  | fuel + 1 => do
      match ← tryJoinNext with
      | none => pure ()
      | some exit => do
          failing (joinTask exit)
          joinFinished fuel

/-- The third loop of `finish_cancel`. -/
def stopSourcesForCancel : List ActiveSource → Owner Unit
  | [] => pure ()
  | source :: sources => do
      let work ← nextWork
      failing (stopSource source false work)
      stopSourcesForCancel sources

def finishCancel (fuel : Nat) (firstEvent : Option LiveEvent) : Owner Unit := do
  match firstEvent with
  | none => pure ()
  | some event => failing (retainPreCancelEffectOutcome event)
  retainQueued fuel
  joinFinished fuel
  let core ← get
  stopSourcesForCancel core.sources
  cleanupAbort
  closeScope

def drainFinished : Owner Bool := do
  turn
  let core ← get
  pure (core.draining && core.effects.isEmpty && core.requests.isEmpty && core.timers.isEmpty &&
    core.scope.channel.isEmpty && core.tasks.isEmpty && core.finished.isEmpty)

/-- The loop of `run`.  The biased `select!` looks for a finished task first
    and for an event then; with neither it waits. -/
def ownerLoop : Nat → Owner Unit
  | 0 => throw .outOfFuel
  | fuel + 1 => do
      if ← isCancelling then finishCancel fuel none
      else do
        failing observeDrainCutoff
        if ← drainFinished then do
          modify fun core => { core with sources := [] }
          closeScope
        else do
          match ← tryJoinNext with
          | some exit => do
              failing (joinTask exit)
              ownerLoop fuel
          | none =>
              match ← tryRecv with
              | none => ownerLoop fuel
              | some event => do
                  if ← isCancelling then finishCancel fuel (some event)
                  else
                    match event with
                    | .shutdown .cancel => finishCancel fuel none
                    | event => do
                        failing (dispatch event)
                        ownerLoop fuel

/-- `LiveCore::run`.  The shutdown report it returns is always clean. -/
def run (fuel : Nat) : Owner Unit := do
  if ← isCancelling then finishCancel fuel none
  else do
    failing initializeProgram
    ownerLoop fuel

/-! ## The task of the owner -/

/-- The owner is dropped: with it the receiver and what it still holds. -/
def Core.drop (core : Core) : Core :=
  { ((core.dropEvents core.scope.channel).dropRequests core.requests) with
    requests := []
    tasks := core.tasks.map ({ · with aborted := true })
    scope := { core.scope with channel := [], connected := false } }

/-- What `RuntimeTask` reports of the owner task. -/
def reported {α : Type} : EStateM.Result Stop Core α → Option (Except RuntimeError Unit)
  | .ok _ _ => some (.ok ())
  | .error (.error error) _ => some (.error error)
  | .error (.panicked _) _ => some (.error (.harness "live runtime owner task panicked"))
  | .error .outOfFuel _ | .error .joining _ => none

/-- The state in which the owner task has ended. -/
def ended {α : Type} : EStateM.Result Stop Core α → Core
  | .ok _ core => core.drop
  | .error .outOfFuel core | .error .joining core => core
  | .error _ core => core.drop

/-- `LiveCore::new`, with what is going to happen around it. -/
def Core.fresh (program : Program) (bindings : Bindings) (schedule : List (List Activity)) :
    Core where
  program := program
  bindings := bindings
  sources := []
  effects := []
  requests := []
  timers := []
  nextGeneration := 0
  nextEffect := 0
  nextRequest := 0
  nextTimer := 0
  nextWork := 0
  nextTask := 0
  draining := false
  scope := Scope.new
  gates := []
  tasks := []
  finished := []
  waiters := []
  schedule := schedule
  journal := []

end Live

end Samara
