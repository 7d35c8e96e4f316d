/-
  Samara.Controlled.State

  The state of the controlled runtime (`ControlledCore` and its tables in
  `controlled_runtime.rs`) and the updates its operations are made of.

  The `journal` is history only.  It records what the trace leaves out (the
  declaration behind a record, the key of a popped ticket, the events a plan
  produced); no operation reads it.
-/
import Mathlib.Data.List.MinMax
import Mathlib.Data.Prod.Lex
import Mathlib.Tactic.Simps.Basic
import Samara.Program

namespace Samara

variable [RustTypes]

/-- `SourceStamp`: one realization of one Component's Subscription. -/
structure SourceStamp where
  component : ComponentId
  subscription : SubscriptionId
  generation : Nat
  deriving DecidableEq

/-- A declaration with the Message type of the Component that returned it. -/
structure ErasedDeclaration where
  messageType : TypeId
  declaration : Declaration messageType

/-- An Effect declaration whose outcome becomes a Message. -/
def ErasedDeclaration.keepsMapper (erased : ErasedDeclaration) : Bool :=
  match erased.declaration with
  | .effect command => command.map.isSome
  | _ => false

/-- The Subscriptions one evaluation of `Component::subscriptions` returned. -/
structure ErasedProjection where
  messageType : TypeId
  subscriptions : List (Subscription messageType)

namespace Controlled

/-! ## Tables -/

structure ActiveSource where
  stamp : SourceStamp
  running : Bool
  subscription : ErasedRuntimeSubscription
  plan : SourcePlan

inductive DeliveryKind where
  | message
  | timer
  deriving DecidableEq

structure QueuedMessage where
  target : ComponentId
  targetMessageType : TypeId
  message : ErasedValue
  cause : TraceId
  source : Option SourceStamp
  delivery : DeliveryKind

/-- `message_type_name`, always the name of `target_message_type`. -/
def QueuedMessage.messageTypeName (message : QueuedMessage) : String :=
  typeName message.targetMessageType

structure QueuedSourceEvent where
  stamp : SourceStamp
  terminalType : DescriptorType TypeId
  event : ErasedSourceEvent
  cause : TraceId

inductive ScheduledKind where
  | message (message : QueuedMessage)
  | sourceEvent (event : QueuedSourceEvent)

structure ScheduledWork where
  deadline : Duration
  ticket : Nat
  kind : ScheduledKind

/-- The key `min_by_key` compares: deadline first, then ticket. -/
def ScheduledWork.key (work : ScheduledWork) : Duration ×ₗ Nat := toLex (work.deadline, work.ticket)

/-- `PendingEffectEntry`; `descriptor` is taken when the harness claims it. -/
structure PendingEffectEntry where
  id : Nat
  component : ComponentId
  descriptorType : TypeId
  descriptor : Option ErasedValue
  mapper : Option ErasedOutcomeMapper
  requestTrace : TraceId
  messageType : TypeId

structure OutstandingRequest where
  correlation : Nat
  requester : ComponentId
  replyType : TypeId
  mapper : ErasedMessageMapper
  messageType : TypeId

/-- `ControlledBindings`. -/
structure Bindings where
  effects : List TypeId
  sources : List (DescriptorType TypeId)
  exactSources : List CapabilityToken

/-- What the history of a run records beside the trace. -/
inductive Observation where
  /-- A Component's Model was projected to its desired Subscriptions. -/
  | projected (component : ComponentId) (desired : ErasedProjection)
  /-- The declaration behind the `CommandEmitted` record `work`. -/
  | declared (work : TraceId) (component : ComponentId) (now : Duration)
      (declaration : ErasedDeclaration)
  /-- A Request was issued under `correlation` with its continuation. -/
  | requested (request : OutstandingRequest)
  /-- The continuation of `request` turned `reply` into `message`. -/
  | continued (request : OutstandingRequest) (reply message : ErasedValue)
  /-- Work was removed from the schedule for execution. -/
  | popped (deadline : Duration) (ticket : Nat) (now : Duration)
  /-- A Source was realized for a desired Subscription. -/
  | activated (stamp : SourceStamp) (subscription : ErasedRuntimeSubscription)
  /-- A terminal event reached the plan of `stamp`, which made `outer` of it. -/
  | mapped (stamp : SourceStamp) (event : ErasedSourceEvent) (outer : List ErasedSourceEvent)
  /-- The record `input` accepted `event` for the realization `stamp`. -/
  | accepted (stamp : SourceStamp) (input : TraceId) (event : ErasedSourceEvent)
  /-- The mapper of `subscription` made `messages` of the `outer` events of `input`. -/
  | emitted (stamp : SourceStamp) (input : TraceId) (subscription : ErasedRuntimeSubscription)
      (outer : List ErasedSourceEvent) (messages : List (SourceEventKind × ErasedValue))

structure Core where
  program : Program
  bindings : Bindings
  now : Duration
  nextTicket : Nat
  nextEffect : Nat
  nextCorrelation : Nat
  nextGeneration : Nat
  scheduled : List ScheduledWork
  effects : List PendingEffectEntry
  requests : List OutstandingRequest
  sources : List ActiveSource
  trace : List TraceRecord
  fault : Option RuntimeError
  journal : List Observation

/-! ## Updates and lookups -/

/-- Whether a table row belongs to this Component and Subscription. -/
def ActiveSource.isOf (component : ComponentId) (subscription : SubscriptionId)
    (source : ActiveSource) : Bool :=
  source.stamp.component = component && source.stamp.subscription = subscription

/-- The entry an Effect declaration pushes. -/
def pendingEntry {message : TypeId} (component : ComponentId) (id : Nat) (work : TraceId)
    (command : EffectCommand message) : PendingEffectEntry where
  id := id
  component := component
  descriptorType := command.descriptorType
  descriptor := some ⟨command.descriptorType, command.effect⟩
  mapper := command.mapper
  requestTrace := work
  messageType := message

/-- Whether an entry can be claimed as an effect of `effectType`. -/
def PendingEffectEntry.isClaimable (effectType : TypeId) (entry : PendingEffectEntry) : Bool :=
  entry.descriptorType = effectType && entry.descriptor.isSome

/-- Whether an entry is the one a `PendingEffect` of `effectType` completes. -/
def PendingEffectEntry.isPending (effectType : TypeId) (id : Nat) (entry : PendingEffectEntry) :
    Bool :=
  entry.id = id && entry.descriptorType = effectType

namespace Core

@[simps]
def observed (core : Core) (observation : Observation) : Core :=
  { core with journal := core.journal ++ [observation] }

/-- The state after `push_trace`. -/
@[simps]
def traced (core : Core) (cause : Option TraceId) (event : TraceEvent) : Core :=
  { core with trace := core.trace ++ [⟨core.trace.length, core.now, cause, event⟩] }

/-- The identity of the record that `traced` appends. -/
def nextTrace (core : Core) : TraceId := core.trace.length

/-- The state after `schedule`. -/
@[simps]
def scheduledAt (core : Core) (deadline : Duration) (kind : ScheduledKind) : Core :=
  { core with
    nextTicket := core.nextTicket + 1
    scheduled := core.scheduled ++ [⟨deadline, core.nextTicket, kind⟩] }

/-- A Message scheduled for the current instant. -/
abbrev messageScheduled (core : Core) (message : QueuedMessage) : Core :=
  core.scheduledAt core.now (.message message)

/-- The state after `set_fault`, when no fault is recorded yet. -/
@[simps]
def faulted (core : Core) (component : ComponentId) (descriptorType : Option String)
    (work : TraceId) (reason : String) : Core :=
  { core.traced (some work)
      (.runtimeFault component work (descriptorType.getD "<none>") reason) with
    fault := some (.fault component descriptorType work reason) }

/-- The state after a kernel has transitioned or reconciled. -/
@[simps]
def withComponent (core : Core) (id : ComponentId) (messageType : TypeId)
    (kernel : ErasedComponentKernel) : Core :=
  { core with program := core.program.setComponent id messageType kernel }

/-- `source_index`, as the row found. -/
def source? (core : Core) (component : ComponentId) (subscription : SubscriptionId) :
    Option ActiveSource :=
  core.sources.find? (ActiveSource.isOf component subscription)

/-- An assignment to a field of `sources[index]`. -/
@[simps]
def withSource (core : Core) (component : ComponentId) (subscription : SubscriptionId)
    (update : ActiveSource → ActiveSource) : Core :=
  { core with
    sources := Table.modifyFirst (ActiveSource.isOf component subscription) update core.sources }

/-- `sources.remove(index)`. -/
@[simps]
def withoutSource (core : Core) (component : ComponentId) (subscription : SubscriptionId) : Core :=
  { core with sources := core.sources.eraseP (ActiveSource.isOf component subscription) }

/-- The row that activating `subscription` pushes. -/
def activation (core : Core) (component : ComponentId)
    (subscription : ErasedRuntimeSubscription) : ActiveSource where
  stamp := ⟨component, subscription.id, core.nextGeneration⟩
  running := true
  subscription := subscription
  plan := subscription.sourcePlan

/-- The state after a successful `activate_source`. -/
@[simps]
def withActivation (core : Core) (component : ComponentId)
    (subscription : ErasedRuntimeSubscription) : Core :=
  let source := core.activation component subscription
  { core with
    nextGeneration := core.nextGeneration + 1
    sources := core.sources ++ [source]
    journal := core.journal ++ [.activated source.stamp subscription] }

/-- The state after an Effect declaration has pushed its entry. -/
@[simps]
def withEffect {message : TypeId} (core : Core) (component : ComponentId) (work : TraceId)
    (command : EffectCommand message) : Core :=
  { core with
    nextEffect := core.nextEffect + 1
    effects := core.effects ++ [pendingEntry component core.nextEffect work command] }

/-- The state after a Reply has removed the request it answers. -/
@[simps]
def withoutRequest (core : Core) (correlation : Nat) : Core :=
  { core with requests := core.requests.eraseP (·.correlation = correlation) }

@[simp] theorem withoutRequest_nextTrace (core : Core) (correlation : Nat) :
    (core.withoutRequest correlation).nextTrace = core.nextTrace := rfl

/-- The state in which a completed effect is no longer pending. -/
@[simps]
def withoutEffect (core : Core) (effectType : TypeId) (id : Nat) : Core :=
  { core with effects := core.effects.eraseP (PendingEffectEntry.isPending effectType id) }

/-- The state in which a pending effect has been claimed. -/
@[simps]
def withClaim (core : Core) (effectType : TypeId) : Core :=
  { core with
    effects := Table.modifyFirst (PendingEffectEntry.isClaimable effectType)
      ({ · with descriptor := none }) core.effects }

/-- The work `pop_next_due` selects. -/
def nextDue (core : Core) : Option ScheduledWork :=
  (core.scheduled.filter (·.deadline ≤ core.now)).argmin ScheduledWork.key

/-- The state after `pop_next_due` has removed `work`. -/
@[simps]
def popped (core : Core) (work : ScheduledWork) : Core :=
  { core with
    scheduled := core.scheduled.eraseP (·.key = work.key)
    journal := core.journal ++ [.popped work.deadline work.ticket core.now] }

def sourceStampIsCurrent (core : Core) (stamp : SourceStamp) : Bool :=
  (core.source? stamp.component stamp.subscription).any (·.stamp.generation = stamp.generation)

def terminalIsControlled (core : Core) (plan : SourcePlan) : Bool :=
  plan.terminalType ∈ core.bindings.sources || core.bindings.exactSources.any plan.carries

end Core

end Controlled

end Samara
