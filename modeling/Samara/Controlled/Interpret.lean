/-
  Samara.Controlled.Interpret

  The operations of the controlled runtime on its state: trace and fault
  recording, Source activation and Subscription changes, and the arms of
  `interpret_command`.
-/
import Samara.Controlled.State

namespace Samara

variable [RustTypes]

namespace Controlled

/-- A method of `ControlledCore`. -/
abbrev Run := EStateM Stop Core

def observe (observation : Observation) : Run Unit := modify (·.observed observation)

/-! ## Trace and faults -/

def pushTrace (cause : Option TraceId) (event : TraceEvent) : Run TraceId := do
  let core ← get
  set (core.traced cause event)
  pure core.nextTrace

def pushRoot (event : TraceEvent) : Run TraceId := pushTrace none event

def pushChild (cause : TraceId) (event : TraceEvent) : Run TraceId := pushTrace (some cause) event

def setFault (component : ComponentId) (descriptorType : Option String) (work : TraceId)
    (reason : String) : Run RuntimeError := do
  let core ← get
  match core.fault with
  | some error => pure error
  | none =>
      set (core.faulted component descriptorType work reason)
      pure (.fault component descriptorType work reason)

/-- `return Err(self.set_fault(..))`. -/
def failWithFault {α : Type} (component : ComponentId) (descriptorType : Option String)
    (work : TraceId) (reason : String) : Run α := do
  let error ← setFault component descriptorType work reason
  throw (.error error)

/-- `return Err(RuntimeError::harness(reason))`. -/
def failHarness {α : Type} (reason : String) : Run α := throw (.error (.harness reason))

def ensureNotFaulted : Run Unit := do
  let core ← get
  match core.fault with
  | some error => throw (.error error)
  | none => pure ()

def scheduleMessage (message : QueuedMessage) (deadline : Duration) : Run Unit :=
  modify (·.scheduledAt deadline (.message message))

/-! ## Subscription changes -/

def activateSource (component : ComponentId) (subscription : ErasedRuntimeSubscription)
    (work : TraceId) : Run Unit := do
  let core ← get
  let plan := subscription.sourcePlan
  if !plan.acceptsOutputEventType subscription.sourceEventType then
    failWithFault component (some plan.terminalTypeName) work
      "SourcePlan output does not match its Subscription event type"
  else if !core.program.declaresSourcePlan subscription.capability subscription.descriptorType
      plan.terminalType then
    failWithFault component (some plan.terminalTypeName) work
      "Source capability belongs to another Program or has inconsistent terminal metadata"
  else if !core.terminalIsControlled plan then
    failWithFault component (some plan.terminalTypeName) work
      "missing controlled terminal Source behavior"
  else
    set (core.withActivation component subscription)

/-- The `SubscriptionLifecycle` record of a change. -/
def lifecycle (component : ComponentId) (subscription : SubscriptionId)
    (sourceDescriptorType : String) (action : SubscriptionAction) : TraceEvent :=
  .subscriptionLifecycle component subscription sourceDescriptorType action

/-- One change of `apply_subscription_changes`. -/
def applySubscriptionChange (component : ComponentId) (cause : TraceId) :
    ErasedSubscriptionChange → Run Unit
  | .start subscription => do
      let work ← pushChild cause
        (lifecycle component subscription.id subscription.descriptorTypeName .started)
      activateSource component subscription work
  | .retain subscription => do
      let _ ← pushChild cause
        (lifecycle component subscription.id subscription.descriptorTypeName .retained)
      -- The SourcePlan and its Layer state stay intact.
      modify (·.withSource component subscription.id ({ · with subscription }))
  | .replace subscription => do
      let work ← pushChild cause
        (lifecycle component subscription.id subscription.descriptorTypeName .replaced)
      modify (·.withoutSource component subscription.id)
      activateSource component subscription work
  | .cancel id => do
      let core ← get
      let sourceDescriptorType :=
        ((core.source? component id).map (·.subscription.descriptorTypeName)).getD "<inactive>"
      let _ ← pushChild cause (lifecycle component id sourceDescriptorType .cancelled)
      modify (·.withoutSource component id)

/-- The loop of `apply_subscription_changes` over the sorted changes. -/
def applyChanges (component : ComponentId) (cause : TraceId) :
    List ErasedSubscriptionChange → Run Unit
  | [] => pure ()
  | change :: changes => do
      applySubscriptionChange component cause change
      applyChanges component cause changes

def applySubscriptionChanges (component : ComponentId) (changes : List ErasedSubscriptionChange)
    (cause : TraceId) : Run Unit :=
  applyChanges component cause (sortChanges changes)

/-! ## Command interpretation -/

/-- `command_trace`, and the declaration it stands for in the history. -/
def commandTrace {message : TypeId} (cause : TraceId) (component : ComponentId)
    (kind : TraceCommandKind) (detailType : String) (targetComponent : Option ComponentId)
    (targetPort : Option PortId) (declaration : Declaration message) : Run TraceId := do
  let work ← pushChild cause
    (.commandEmitted component kind detailType targetComponent targetPort)
  let core ← get
  observe (.declared work component core.now ⟨message, declaration⟩)
  pure work

section Arms

variable {message : TypeId} (component : ComponentId) (cause : TraceId)

/-- The `CommandKind::Effect` arm. -/
def interpretEffect (command : EffectCommand message) : Run Unit := do
  let work ← commandTrace cause component .effect (typeName command.descriptorType) none none
    (.effect command)
  let core ← get
  if !core.program.declaresEffect command.capability command.descriptorType then
    failWithFault component (some (typeName command.descriptorType)) work
      "Effect capability belongs to another Program"
  else if command.descriptorType ∉ core.bindings.effects then
    failWithFault component (some (typeName command.descriptorType)) work
      "missing controlled terminal Effect behavior"
  else
    set (core.withEffect component work command)

/-- A Message delivered for its own sake, neither Source-stamped nor a timer. -/
def plainMessage (target : ComponentId) (targetMessageType : TypeId) (message : ErasedValue)
    (cause : TraceId) : QueuedMessage :=
  ⟨target, targetMessageType, message, cause, none, .message⟩

/-- The `CommandKind::Send` arm. -/
def interpretSend (command : SendCommand) : Run Unit := do
  let messageType := RustTypes.componentMessage command.component
  let work ← commandTrace cause component .send (typeName messageType)
    (some command.target.id) none (.send command : Declaration message)
  let core ← get
  if command.target.program ≠ core.program.program ||
      (core.program.component? command.target.id messageType).isNone then
    failWithFault component none work
      ("direct send target " ++ command.target.id.debug ++ " is absent from the Program")
  else
    scheduleMessage
      (plainMessage command.target.id messageType ⟨messageType, command.message⟩ work) core.now

/-- The Port checks that the `Notify` and `Request` arms share. -/
def resolvePort {protocol : TypeId} (port : Port protocol) (work : TraceId) (noun : String) :
    Run PortBinding := do
  let core ← get
  if port.program ≠ core.program.program then
    failWithFault component none work (noun ++ " Port belongs to another Program")
  else
    match core.program.binding? protocol port.id with
    | none => failWithFault component none work (noun ++ " Port has no runtime binding")
    | some binding => pure binding

/-- The `CommandKind::Notify` arm. -/
def interpretNotify (command : NotificationCommand) : Run Unit := do
  let work ← commandTrace cause component .notify (typeName command.notificationType) none
    (some command.port.id) (.notify command : Declaration message)
  let binding ← resolvePort component command.port work "notification"
  let protocolMessage ← callback command.intoMessage
  let converted ← callback (binding.convert protocolMessage)
  let core ← get
  scheduleMessage
    (plainMessage binding.provider.id binding.providerMessageType converted work) core.now

/-- The `CommandKind::Request` arm. -/
def interpretRequest (command : RequestCommand message) : Run Unit := do
  let work ← commandTrace cause component .request (typeName command.requestType) none
    (some command.port.id) (.request command)
  let binding ← resolvePort component command.port work "request"
  let core ← get
  let correlation := core.nextCorrelation
  set { core with nextCorrelation := correlation + 1 }
  let protocolMessage ← callback (command.intoMessage correlation)
  let converted ← callback (binding.convert protocolMessage)
  let request : OutstandingRequest :=
    ⟨correlation, component, command.replyType, command.mapper, message⟩
  modify fun core => { core with requests := core.requests ++ [request] }
  observe (.requested request)
  scheduleMessage
    (plainMessage binding.provider.id binding.providerMessageType converted work) core.now

/-- The `CommandKind::Reply` arm. -/
def interpretReply (command : ReplyCommand) : Run Unit := do
  let work ← commandTrace cause component .reply (typeName command.replyType) none none
    (.reply command : Declaration message)
  let core ← get
  match core.requests.find? (·.correlation = command.replyTo.correlation) with
  | none =>
      failWithFault component none work "ReplyTo no longer names an outstanding Request"
  | some request => do
      set (core.withoutRequest command.replyTo.correlation)
      if request.replyType ≠ command.replyType then
        failWithFault component none work "Reply type does not match its Request correlation"
      else
        let outcome ← pushChild work
          (.requestOutcome request.requester (typeName request.replyType))
        let reply : ErasedValue := ⟨command.replyType, command.reply⟩
        let mapped ← callback (request.mapper reply)
        observe (.continued request reply mapped)
        scheduleMessage
          (plainMessage request.requester request.messageType mapped outcome) core.now

/-- The `CommandKind::After` arm. -/
def interpretAfter (delay : Duration) (value : Val message) : Run Unit := do
  let work ← commandTrace cause component .timer (typeName message) (some component) none
    (.after delay value)
  let core ← get
  match Duration.checkedAdd core.now delay with
  | none =>
      failWithFault component none work "logical timer deadline exceeds the Duration range"
  | some deadline =>
      scheduleMessage ⟨component, message, ⟨message, value⟩, work, none, .timer⟩ deadline

/-- The `match` of `interpret_command`. -/
def interpretDeclaration : Declaration message → Run Unit
  | .effect command => interpretEffect component cause command
  | .send command => @interpretSend _ message component cause command
  | .notify command => @interpretNotify _ message component cause command
  | .request command => interpretRequest component cause command
  | .reply command => @interpretReply _ message component cause command
  | .after delay value => interpretAfter component cause delay value

/-- The loop of `interpret_command`. -/
def interpretDeclarations : List (Declaration message) → Run Unit
  | [] => pure ()
  | declaration :: declarations => do
      interpretDeclaration component cause declaration
      interpretDeclarations declarations

def interpretCommand (command : Command message) : Run Unit :=
  interpretDeclarations component cause command.intoDeclarations

end Arms

/-- `ErasedCommand::interpret`. -/
def interpret (component : ComponentId) (cause : TraceId) (command : ErasedCommand) : Run Unit :=
  interpretCommand component cause command.command

end Controlled

end Samara
