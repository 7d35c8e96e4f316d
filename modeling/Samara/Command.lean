/-
  Samara.Command

  What a Component returns: finite work (`Command`), ongoing work
  (`Subscription`) and the Component contract itself.  Commands and
  Subscriptions are indexed by the Component's Message type, as they are
  generic in it in `lib.rs`.
-/
import Samara.Source

namespace Samara

variable [RustTypes]

/-! ## Commands -/

/-- `Perform` and `PerformDiscardingOutcome`: `map` is absent for the latter. -/
structure EffectCommand (message : TypeId) where
  capability : CapabilityToken
  descriptorType : TypeId
  effect : Val descriptorType
  map : Option (EffectOutcome (Val (RustTypes.effectOutput descriptorType))
    (Val (RustTypes.effectError descriptorType)) → Callback (Val message))

/-- `ComponentRef<C>`. -/
structure ComponentRef (component : TypeId) where
  id : ComponentId
  program : ProgramId

/-- `Port<P>`. -/
structure Port (protocol : TypeId) where
  id : PortId
  program : ProgramId

/-- `SendTo<C>`. -/
structure SendCommand where
  component : TypeId
  target : ComponentRef component
  message : Val (RustTypes.componentMessage component)

/-- `Notify<P, N>`. -/
structure NotificationCommand where
  protocol : TypeId
  notificationType : TypeId
  port : Port protocol
  notification : Val notificationType

/-- `RequestCommand<P, R, Map>`. -/
structure RequestCommand (message : TypeId) where
  protocol : TypeId
  requestType : TypeId
  port : Port protocol
  request : Val requestType
  map : RequestOutcome (Val (RustTypes.requestReply protocol requestType)) →
    Callback (Val message)

/-- `Reply<ReplyValue>`. -/
structure ReplyCommand where
  replyType : TypeId
  replyTo : ReplyTo replyType
  reply : Val replyType

/-- One finite declaration: a `CommandKind` other than `None` and `Batch`. -/
inductive Declaration (message : TypeId) where
  | effect (command : EffectCommand message)
  | send (command : SendCommand)
  | notify (command : NotificationCommand)
  | request (command : RequestCommand message)
  | reply (command : ReplyCommand)
  | after (delay : Duration) (message : Val message)

inductive Command (message : TypeId) where
  | none
  | declaration (declaration : Declaration message)
  | batch (commands : List (Command message))

namespace Command

variable {message : TypeId}

mutual

/-- `Command::into_declarations`. -/
def intoDeclarations : Command message → List (Declaration message)
  | .none => []
  | .declaration leaf => [leaf]
  | .batch commands => appendDeclarations commands

def appendDeclarations : List (Command message) → List (Declaration message)
  | [] => []
  | command :: commands => command.intoDeclarations ++ appendDeclarations commands

end

end Command

/-- A boxed `FnOnce(ErasedValue) -> ErasedValue` of a pending obligation. -/
abbrev ErasedMessageMapper := ErasedValue → Callback ErasedValue

/-- The mapper of a pending effect, from the boxed outcome. -/
abbrev ErasedOutcomeMapper := ErasedOutcome → Callback ErasedValue

/-- `Perform::into_parts`: the mapper downcasts the outcome it is given. -/
def EffectCommand.mapper {message : TypeId} (command : EffectCommand message) :
    Option ErasedOutcomeMapper :=
  command.map.map fun map outcome =>
    match outcome.downcast (RustTypes.effectOutput command.descriptorType)
        (RustTypes.effectError command.descriptorType) with
    | none => .error .internal
    | some outcome => (map outcome).map (ErasedValue.mk message)

theorem EffectCommand.mapper_type {message : TypeId} {command : EffectCommand message}
    {mapper : ErasedOutcomeMapper} (hmapper : command.mapper = some mapper)
    {outcome : ErasedOutcome} {mapped : ErasedValue} (h : mapper outcome = .ok mapped) :
    mapped.type = message := by
  unfold EffectCommand.mapper at hmapper
  obtain ⟨map, _, rfl⟩ := Option.map_eq_some_iff.mp hmapper
  dsimp only at h
  split at h
  · cases h
  · exact ErasedValue.type_of_map h

/-- `Notification::into_message` of the carried notification. -/
def NotificationCommand.intoMessage (command : NotificationCommand) : Callback ErasedValue :=
  (RustTypes.notificationIntoMessage command.protocol command.notificationType
    command.notification).map (ErasedValue.mk (RustTypes.protocolMessage command.protocol))

namespace RequestCommand

variable {message : TypeId}

def replyType (command : RequestCommand message) : TypeId :=
  RustTypes.requestReply command.protocol command.requestType

/-- The Protocol Message made from the request and a fresh `ReplyTo`. -/
def intoMessage (command : RequestCommand message) (correlation : Nat) : Callback ErasedValue :=
  (RustTypes.requestIntoMessage command.protocol command.requestType command.request
    ⟨correlation⟩).map (ErasedValue.mk (RustTypes.protocolMessage command.protocol))

/-- The mapper of `RequestCommand::into_parts`. -/
def mapper (command : RequestCommand message) : ErasedMessageMapper := fun reply =>
  match reply.downcast command.replyType with
  | none => .error .internal
  | some reply => (command.map (.replied reply)).map (ErasedValue.mk message)

theorem mapper_type {command : RequestCommand message}
    {reply mapped : ErasedValue} (h : command.mapper reply = .ok mapped) :
    mapped.type = message := by
  unfold mapper at h
  split at h
  · cases h
  · exact ErasedValue.type_of_map h

end RequestCommand

/-! ## Subscriptions -/

/-- `Subscription<Message>`, a desired Source with the mapper of its events.
    `wellTyped` is the trait bound that the descriptor type satisfies. -/
structure Subscription (message : TypeId) where
  id : SubscriptionId
  capability : CapabilityToken
  descriptorType : DescriptorType TypeId
  wellTyped : descriptorType.WellTyped
  descriptor : descriptorType.Val
  map : SourceEvent (Val descriptorType.item) descriptorType.error.Val → Callback (Val message)

/-- `SourceDescriptorSnapshot<S>`. -/
structure SourceDescriptorSnapshot where
  capability : CapabilityToken
  descriptorType : DescriptorType TypeId
  descriptor : descriptorType.Val

/-- `SourceDescriptorSnapshot::matches`: the same capability, the same
    descriptor type, and an equal descriptor. -/
def SourceDescriptorSnapshot.matches (snapshot : SourceDescriptorSnapshot)
    (capability : CapabilityToken) (descriptorType : DescriptorType TypeId)
    (descriptor : descriptorType.Val) : Bool :=
  snapshot.capability.sameAs capability &&
    if h : descriptorType = snapshot.descriptorType then
      snapshot.descriptorType.beq (h ▸ descriptor) snapshot.descriptor
    else
      false

/-- Whether the comparison in `matches` returns. -/
def SourceDescriptorSnapshot.compares (snapshot : SourceDescriptorSnapshot)
    (capability : CapabilityToken) (descriptorType : DescriptorType TypeId)
    (descriptor : descriptorType.Val) : Callback Unit :=
  if h : snapshot.capability.sameAs capability = true ∧ descriptorType = snapshot.descriptorType then
    snapshot.descriptorType.compares (h.2 ▸ descriptor) snapshot.descriptor
  else .ok ()

namespace Subscription

variable {message : TypeId}

def descriptorSnapshot (subscription : Subscription message) : SourceDescriptorSnapshot :=
  ⟨subscription.capability, subscription.descriptorType, subscription.descriptor⟩

def hasDescriptor (subscription : Subscription message) (snapshot : SourceDescriptorSnapshot) :
    Bool :=
  snapshot.matches subscription.capability subscription.descriptorType subscription.descriptor

/-- Whether `has_descriptor` returns. -/
def compares (subscription : Subscription message) (snapshot : SourceDescriptorSnapshot) :
    Callback Unit :=
  snapshot.compares subscription.capability subscription.descriptorType subscription.descriptor

/-- Whether `descriptor_snapshot`, which clones the descriptor, returns. -/
def clones (subscription : Subscription message) : Callback Unit :=
  subscription.descriptorType.clones subscription.descriptor

/-- Whether `source_plan` returns. -/
def starts (subscription : Subscription message) : Callback Unit :=
  subscription.descriptorType.starts subscription.descriptor

/-- `ErasedSubscription::source_plan`. -/
def sourcePlan (subscription : Subscription message) : SourcePlan :=
  { SourcePlan.lower subscription.descriptorType subscription.descriptor with
    capability := some subscription.capability }

theorem sourcePlan_terminalType (subscription : Subscription message) :
    subscription.sourcePlan.terminalType = subscription.descriptorType.terminalType :=
  SourcePlan.terminalType_lower _ _

def sourceEventType (subscription : Subscription message) : EventType TypeId :=
  subscription.descriptorType.eventType

/-- The plan of a Subscription produces the events its mapper takes. -/
theorem sourcePlan_accepts (subscription : Subscription message) :
    subscription.sourcePlan.acceptsOutputEventType subscription.sourceEventType = true := by
  show ((SourcePlan.lower _ _).validEventChain &&
    decide ((SourcePlan.lower _ _).outputEventType = _)) = true
  rw [SourcePlan.validEventChain_lower, SourcePlan.outputEventType_lower]
  simp [sourceEventType]

/-- `MappedSourceDescriptor::map_event` on a boxed event. -/
def mapEvent (subscription : Subscription message) (event : ErasedSourceEvent) :
    Callback (Val message) :=
  match event.downcast subscription.sourceEventType with
  | none => .error .internal
  | some event => subscription.map event

end Subscription

/-- `dyn ErasedRuntimeSubscription`. -/
structure ErasedRuntimeSubscription where
  messageType : TypeId
  subscription : Subscription messageType

namespace ErasedRuntimeSubscription

def id (erased : ErasedRuntimeSubscription) : SubscriptionId := erased.subscription.id

def capability (erased : ErasedRuntimeSubscription) : CapabilityToken :=
  erased.subscription.capability

def descriptorType (erased : ErasedRuntimeSubscription) : DescriptorType TypeId :=
  erased.subscription.descriptorType

def descriptorTypeName (erased : ErasedRuntimeSubscription) : String :=
  erased.subscription.descriptorType.typeName

def messageTypeName (erased : ErasedRuntimeSubscription) : String := typeName erased.messageType

def descriptorSnapshot (erased : ErasedRuntimeSubscription) : SourceDescriptorSnapshot :=
  erased.subscription.descriptorSnapshot

def starts (erased : ErasedRuntimeSubscription) : Callback Unit := erased.subscription.starts

def sourcePlan (erased : ErasedRuntimeSubscription) : SourcePlan := erased.subscription.sourcePlan

def sourceEventType (erased : ErasedRuntimeSubscription) : EventType TypeId :=
  erased.subscription.sourceEventType

def mapEvent (erased : ErasedRuntimeSubscription) (event : ErasedSourceEvent) :
    Callback ErasedValue :=
  (erased.subscription.mapEvent event).map (ErasedValue.mk erased.messageType)

end ErasedRuntimeSubscription

/-! ## Components -/

/-- `Component`, an application's state and behaviour.  `update` takes
    `&mut Model`, so it leaves a Model behind even when it panics. -/
structure Component (component : TypeId) where
  init : RustTypes.componentModel component × Command (RustTypes.componentMessage component)
  update : RustTypes.componentModel component → Val (RustTypes.componentMessage component) →
    RustTypes.componentModel component ×
      Callback (Command (RustTypes.componentMessage component))
  subscriptions : RustTypes.componentModel component →
    Callback (List (Subscription (RustTypes.componentMessage component)))

end Samara
