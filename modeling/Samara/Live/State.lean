/-
  Samara.Live.State

  The state of a live runtime: the tables of its owner (`LiveCore`), the scope
  it shares, the Source gates, the tasks it has spawned and the host operations
  that wait for Replies; and what happens around the owner (`Activity`).

  The owner is the only thread that touches its tables.  Everything else runs
  beside it: `schedule` says what happens before each of the owner's next
  accesses to shared state.  The `journal` is history only.
-/
import Mathlib.Tactic.Simps.Basic
import Samara.Live.Scope

namespace Samara

variable [RustTypes]

namespace Live

/-! ## The owner's tables -/

structure ActiveSource where
  stamp : SourceStamp
  running : Bool
  terminalObserved : Bool
  drainRetained : Bool
  subscription : ErasedRuntimeSubscription
  plan : SourcePlan
  /-- The abort handle, as the number of the task. -/
  task : Nat

structure PendingEffect where
  id : Nat
  component : ComponentId
  descriptorType : TypeId
  mapper : Option ErasedOutcomeMapper
  messageType : TypeId
  task : Nat

inductive RequestContinuation where
  | component (requester : ComponentId) (mapper : ErasedMessageMapper) (messageType : TypeId)
  /-- `HostReplyCompletion`, as the number of the waiting operation. -/
  | host (completion : Nat)

structure OutstandingRequest where
  correlation : Nat
  replyType : TypeId
  continuation : RequestContinuation

def OutstandingRequest.completion? (request : OutstandingRequest) : Option Nat :=
  match request.continuation with
  | .component _ _ _ => none
  | .host completion => some completion

structure PendingTimer where
  id : Nat
  task : Nat

/-! ## Bindings -/

/-- `dyn ErasedSourceBinding`: type-wide, or exact for one capability.  `start`
    says whether the Driver panics while it starts a given realization. -/
structure SourceBinding where
  descriptorType : DescriptorType TypeId
  capability : Option CapabilityToken
  start : SourceStamp → Callback Unit

/-- `LiveBindings`. -/
structure Bindings where
  effects : List TypeId
  sources : List SourceBinding

/-- `ErasedSourceBinding::matches`. -/
def SourceBinding.matches (binding : SourceBinding) (plan : SourcePlan) : Bool :=
  plan.terminalType = binding.descriptorType && binding.capability.all plan.carries

/-- `LiveBindings::source`. -/
def Bindings.source (bindings : Bindings) (plan : SourcePlan) : Except String SourceBinding :=
  match bindings.sources.filter (·.matches plan) with
  | [binding] => .ok binding
  | [] => .error "missing live terminal Source binding"
  | _ => .error "ambiguous live terminal Source binding"

/-! ## What the owner shares -/

inductive SourceGateState where
  | active
  | terminalAccepted
  | stopped
  deriving DecidableEq

/-- `SourceGate` with the `SourceSinkCore` over it; gates are numbered by
    generation.  `stopHook` is what the installed hook will return. -/
structure SourceGate where
  stamp : SourceStamp
  terminalType : DescriptorType TypeId
  state : SourceGateState
  stopHook : Option (Except String Unit)

inductive TaskContext where
  | effect (id : Nat) (component : ComponentId) (descriptorType : String) (work : TraceId)
  | source (stamp : SourceStamp) (descriptorType : String) (work : TraceId)
  | timer (component : ComponentId) (work : TraceId)

/-- What a spawned task still has to deliver. -/
inductive TaskDelivery where
  | effect (id : Nat) (descriptorType : TypeId)
  | timer (id : Nat) (message : QueuedMessage)
  | none

structure Task where
  id : Nat
  context : TaskContext
  delivery : TaskDelivery
  aborted : Bool

/-- What `join_next` returns for a task, besides its context. -/
inductive TaskOutcome where
  | returned
  | failed (reason : String)
  | panicked
  | cancelled
  /-- Any other join error. -/
  | lost
  deriving DecidableEq

/-- How a task can end: only an aborted task is cancelled, no task returns
    before it has delivered, and only the Driver of a Source can fail. -/
def Task.canExit (task : Task) : TaskOutcome → Bool
  | .cancelled => task.aborted
  | .returned =>
      match task.delivery with
      | .none => true
      | _ => false
  | .failed _ =>
      match task.context with
      | .source _ _ _ => true
      | _ => false
  | .panicked | .lost => true

structure TaskExit where
  context : TaskContext
  outcome : TaskOutcome

/-- The operation of one `PortHandle::request` call. -/
inductive Waiter where
  | pending
  /-- The completion was sent a Reply. -/
  | replied (reply : ErasedValue)
  /-- The completion was dropped. -/
  | dropped
  /-- The call has returned. -/
  | returned (result : Except RuntimeError ErasedValue)

/-- What the history of a run records. -/
inductive Observation where
  /-- The owner took an event off the channel. -/
  | received (event : LiveEvent)
  /-- A Source realization was put in place. -/
  | activated (stamp : SourceStamp) (subscription : ErasedRuntimeSubscription)
  | retained (stamp : SourceStamp) (subscription : ErasedRuntimeSubscription)
  /-- A realization was removed by Replace or Cancel. -/
  | withdrawn (stamp : SourceStamp)
  /-- The plan of `stamp` made `outer` of `event`, and `subscription` made
      `messages` of those. -/
  | mapped (stamp : SourceStamp) (event : ErasedSourceEvent)
      (subscription : ErasedRuntimeSubscription) (outer : List ErasedSourceEvent)
      (messages : List ErasedValue)
  /-- A transition began. -/
  | transition (message : QueuedMessage)
  | requested (request : OutstandingRequest)
  /-- A continuation was invoked. -/
  | continued (request : OutstandingRequest) (reply : ErasedValue)
  /-- A host operation lost its completion while the owner went on. -/
  | discarded (completion : Nat)
  /-- Application code panicked; `guarded` says that `catch_unwind` held it. -/
  | panicked (guarded : Bool)

/-- One thing that happens beside the owner. -/
inductive Activity where
  /-- `ComponentHandle::send`. -/
  | send {component : TypeId} (target : ComponentRef component)
      (message : Val (RustTypes.componentMessage component))
  /-- `PortHandle::notify`. -/
  | notify (ingress : NotificationCommand)
  /-- `PortHandle::request`, up to its first wait. -/
  | request (protocol requestType : TypeId) (port : Port protocol) (request : Val requestType)
  /-- A waiting `PortHandle::request` is polled. -/
  | poll (waiter : Nat)
  | beginShutdown (mode : Shutdown)
  /-- A Driver emits through the sink of a realization. -/
  | emit (generation : Nat) (event : ErasedSourceEvent)
  | installStopHook (generation : Nat) (result : Except String Unit)
  /-- The Driver of an effect returns its outcome. -/
  | complete (task : Nat) (outcome : ErasedOutcome)
  /-- The sleep of a timer ends. -/
  | fire (task : Nat)
  /-- A task ends. -/
  | exit (task : Nat) (outcome : TaskOutcome)

structure Core where
  program : Program
  bindings : Bindings
  sources : List ActiveSource
  effects : List PendingEffect
  requests : List OutstandingRequest
  timers : List PendingTimer
  nextGeneration : Nat
  nextEffect : Nat
  nextRequest : Nat
  nextTimer : Nat
  nextWork : Nat
  nextTask : Nat
  draining : Bool
  scope : Scope
  gates : List SourceGate
  tasks : List Task
  finished : List TaskExit
  waiters : List Waiter
  schedule : List (List Activity)
  journal : List Observation

namespace Core

@[simps]
def observed (core : Core) (observation : Observation) : Core :=
  { core with journal := core.journal ++ [observation] }

@[simps]
def withScope (core : Core) (scope : Scope) : Core := { core with scope }

/-- A waiting operation learns something. -/
@[simps]
def withWaiter (core : Core) (waiter : Nat) (update : Waiter → Waiter) : Core :=
  { core with waiters := core.waiters.modify waiter update }

/-- The sender of a completion is dropped. -/
def dropCompletion (core : Core) (completion : Nat) : Core :=
  core.withWaiter completion fun
    | .pending => .dropped
    | waiter => waiter

/-- The events that still hold a completion are dropped. -/
def dropEvents (core : Core) (events : List LiveEvent) : Core :=
  (events.filterMap LiveEvent.completion?).foldl dropCompletion core

/-- The requests that still hold a completion are dropped. -/
def dropRequests (core : Core) (requests : List OutstandingRequest) : Core :=
  (requests.filterMap OutstandingRequest.completion?).foldl dropCompletion core

/-- A completion, if there is one, is dropped outside the end of the owner. -/
def discard (core : Core) : Option Nat → Core
  | none => core
  | some completion => (core.dropCompletion completion).observed (.discarded completion)

/-! ## What happens beside the owner -/

/-- An ingress call of a handle. -/
def ingress (core : Core) (event : LiveEvent) : Core :=
  core.withScope (core.scope.called (.ingress event))

/-- `PortHandle::request`: a refused event is dropped with its completion. -/
def hostRequest (core : Core) (request : PortRequest) : Core :=
  let event : LiveEvent := .portIngress (.request request)
  let waiter : Waiter :=
    match (core.scope.acceptIngress event).1 with
    | .ok () => .pending
    | .error error => .returned (.error error)
  { core with
    scope := core.scope.called (.ingress event)
    waiters := core.waiters ++ [waiter] }

/-- A `PortHandle::request` that waits is polled. -/
def poll (core : Core) (waiter : Nat) : Core :=
  core.withWaiter waiter fun
    | .replied reply => .returned (.ok reply)
    | .dropped => .returned (.error core.scope.requestEndedError)
    | waiter => waiter

def beginShutdown (core : Core) (mode : Shutdown) : Core :=
  core.withScope (core.scope.called (.shutdown mode))

/-- `SourceGate::accept` on the sink's event. -/
def emit (core : Core) (generation : Nat) (event : ErasedSourceEvent) : Core :=
  match core.gates[generation]? with
  | none => core
  | some gate =>
      if gate.state ≠ .active || event.type ≠ gate.terminalType.eventType then core
      else
        let accepted : LiveEvent := .sourceEvent gate.stamp gate.terminalType event
        let called := core.withScope (core.scope.called (.source accepted))
        if (core.scope.acceptSource accepted).1 && event.isTerminal then
          { called with
            gates := core.gates.set generation { gate with state := .terminalAccepted } }
        else called

/-- `install_stop_hook`; on a stopped gate the hook runs at once, in the Driver. -/
def installStopHook (core : Core) (generation : Nat) (result : Except String Unit) : Core :=
  match core.gates[generation]? with
  | none => core
  | some gate =>
      if gate.state = .stopped then core
      else { core with gates := core.gates.set generation { gate with stopHook := some result } }

def task? (core : Core) (task : Nat) : Option Task := core.tasks.find? (·.id = task)

/-- A task delivers what it was spawned to deliver, once. -/
def deliver (core : Core) (task : Nat) (event : LiveEvent) : Core :=
  { core with
    scope := core.scope.called (.finite event)
    tasks := Table.modifyFirst (·.id = task) ({ · with delivery := .none }) core.tasks }

def complete (core : Core) (task : Nat) (outcome : ErasedOutcome) : Core :=
  match core.task? task with
  | none => core
  | some found =>
      match found.delivery with
      | .effect id descriptorType =>
          if outcome.output = RustTypes.effectOutput descriptorType ∧
              outcome.error = RustTypes.effectError descriptorType then
            core.deliver task (.effectOutcome id outcome)
          else core
      | _ => core

def fire (core : Core) (task : Nat) : Core :=
  match core.task? task with
  | none => core
  | some found =>
      match found.delivery with
      | .timer id message => core.deliver task (.timerFired id message)
      | _ => core

def exit (core : Core) (task : Nat) (outcome : TaskOutcome) : Core :=
  match core.task? task with
  | none => core
  | some found =>
      if !found.canExit outcome then core
      else
        { core with
          tasks := core.tasks.eraseP (·.id = task)
          finished := core.finished ++ [⟨found.context, outcome⟩] }

def act (core : Core) : Activity → Core
  | @Activity.send _ component target message =>
      core.ingress (.message
        ⟨target.id, RustTypes.componentMessage component, ⟨_, message⟩, none⟩)
  | .notify ingress => core.ingress (.portIngress (.notification ingress))
  | .request protocol requestType port request =>
      core.hostRequest ⟨protocol, requestType, port, request, core.waiters.length⟩
  | .poll waiter => core.poll waiter
  | .beginShutdown mode => core.beginShutdown mode
  | .emit generation event => core.emit generation event
  | .installStopHook generation result => core.installStopHook generation result
  | .complete task outcome => core.complete task outcome
  | .fire task => core.fire task
  | .exit task outcome => core.exit task outcome

end Core

end Live

end Samara
