/-
  Samara.Live.Scope

  The boundary that the owner of a live runtime shares with its handles and
  Drivers (`LiveScope` in `live_runtime.rs`): the phase of the runtime and the
  channel into its owner, behind one lock.

  The `log` is history only.  It keeps every call of the scope that took the
  lock to change something, in order; no operation reads it.
-/
import Samara.Assembly

namespace Samara

variable [RustTypes]

/-- `Shutdown`. -/
inductive Shutdown where
  | drain
  | cancel
  deriving DecidableEq

namespace Live

/-! ## Events -/

/-- `SourceStamp`: one realization of one Component's Subscription. -/
structure SourceStamp where
  component : ComponentId
  subscription : SubscriptionId
  generation : Nat
  deriving DecidableEq

structure QueuedMessage where
  target : ComponentId
  targetMessageType : TypeId
  message : ErasedValue
  source : Option SourceStamp

/-- `TypedLivePortRequest<P, R>`; `completion` names the host operation that
    waits for the Reply. -/
structure PortRequest where
  protocol : TypeId
  requestType : TypeId
  port : Port protocol
  request : Val requestType
  completion : Nat

namespace PortRequest

def replyType (ingress : PortRequest) : TypeId :=
  RustTypes.requestReply ingress.protocol ingress.requestType

/-- The conversion of `into_conversion`. -/
def intoMessage (ingress : PortRequest) (correlation : Nat) : Callback ErasedValue :=
  (RustTypes.requestIntoMessage ingress.protocol ingress.requestType ingress.request
    ⟨correlation⟩).map (ErasedValue.mk (RustTypes.protocolMessage ingress.protocol))

end PortRequest

/-- `LivePortIngress`. -/
inductive PortIngress where
  | notification (ingress : NotificationCommand)
  | request (ingress : PortRequest)

inductive LiveEvent where
  | message (message : QueuedMessage)
  | portIngress (ingress : PortIngress)
  | sourceEvent (stamp : SourceStamp) (terminalType : DescriptorType TypeId)
      (event : ErasedSourceEvent)
  | effectOutcome (effect : Nat) (outcome : ErasedOutcome)
  | timerFired (timer : Nat) (message : QueuedMessage)
  | shutdown (mode : Shutdown)

/-- The host operation that is waiting on an event. -/
def LiveEvent.completion? : LiveEvent → Option Nat
  | .portIngress (.request ingress) => some ingress.completion
  | _ => none

/-! ## The scope -/

inductive ScopePhase where
  | running
  | draining
  | cancelling
  | faulted (error : RuntimeError)
  | closed
  deriving DecidableEq

/-- The phases that `fault` leaves alone. -/
def ScopePhase.isFinal : ScopePhase → Bool
  | .faulted _ | .closed => true
  | .running | .draining | .cancelling => false

/-- A method of the scope that may change it. -/
inductive ScopeCall where
  | ingress (event : LiveEvent)
  | source (event : LiveEvent)
  | finite (event : LiveEvent)
  | shutdown (mode : Shutdown)
  | fault (error : RuntimeError)
  | close

/-- What a call did: the phase before and after it, the events it appended to
    the channel, and what it returned (`none` is a refusal without an error). -/
structure ScopeEntry where
  call : ScopeCall
  before : ScopePhase
  after : ScopePhase
  appended : List LiveEvent
  result : Except (Option RuntimeError) Unit

/-- `LiveScope`, with the channel its `sender` feeds.  `connected` says that
    the owner still holds the receiver. -/
structure Scope where
  phase : ScopePhase
  connected : Bool
  channel : List LiveEvent
  log : List ScopeEntry

namespace Scope

def new : Scope := ⟨.running, true, [], []⟩

/-- `sender.send`. -/
def send (scope : Scope) (event : LiveEvent) : Bool × Scope :=
  if scope.connected then (true, { scope with channel := scope.channel ++ [event] })
  else (false, scope)

def acceptIngress (scope : Scope) (event : LiveEvent) : Except RuntimeError Unit × Scope :=
  match scope.phase with
  | .running =>
      match scope.send event with
      | (true, scope) => (.ok (), scope)
      | (false, scope) => (.error (.harness "live runtime task is no longer running"), scope)
  | .faulted error => (.error error, scope)
  | .draining | .cancelling | .closed =>
      (.error (.harness "live runtime ingress is closed"), scope)

def requestEndedError (scope : Scope) : RuntimeError :=
  match scope.phase with
  | .faulted error => error
  | .running | .draining | .cancelling | .closed => .harness "live runtime ended before a reply"

/-- `accept_source`; `false` is `DriverStopped`. -/
def acceptSource (scope : Scope) (event : LiveEvent) : Bool × Scope :=
  if scope.phase = .running then scope.send event else (false, scope)

def acceptFinite (scope : Scope) (event : LiveEvent) : Bool × Scope :=
  if scope.phase = .running ∨ scope.phase = .draining then scope.send event else (false, scope)

/-- The phase that a shutdown of this mode begins. -/
def shutdownPhase : Shutdown → ScopePhase
  | .drain => .draining
  | .cancel => .cancelling

def beginShutdown (scope : Scope) (mode : Shutdown) : Except RuntimeError Unit × Scope :=
  match scope.phase with
  | .running =>
      match ({ scope with phase := shutdownPhase mode }).send (.shutdown mode) with
      | (true, scope) => (.ok (), scope)
      | (false, scope) => (.error (.harness "live runtime task ended before shutdown"), scope)
  | .faulted error => (.error error, scope)
  | .draining | .cancelling | .closed =>
      (.error (.harness "live runtime shutdown already started"), scope)

def fault (scope : Scope) (error : RuntimeError) : Scope :=
  if scope.phase.isFinal then scope else { scope with phase := .faulted error }

def close (scope : Scope) : Scope := { scope with phase := .closed }

/-- The method that a call names, with what it returns. -/
def method (scope : Scope) : ScopeCall → Except (Option RuntimeError) Unit × Scope
  | .ingress event =>
      let (result, scope) := scope.acceptIngress event
      (result.mapError some, scope)
  | .source event =>
      let (accepted, scope) := scope.acceptSource event
      (if accepted then .ok () else .error none, scope)
  | .finite event =>
      let (accepted, scope) := scope.acceptFinite event
      (if accepted then .ok () else .error none, scope)
  | .shutdown mode =>
      let (result, scope) := scope.beginShutdown mode
      (result.mapError some, scope)
  | .fault error => (.ok (), scope.fault error)
  | .close => (.ok (), scope.close)

/-- A call, kept in the history. -/
def called (scope : Scope) (call : ScopeCall) : Scope :=
  let (result, after) := scope.method call
  { after with
    log := scope.log ++
      [⟨call, scope.phase, after.phase, after.channel.drop scope.channel.length, result⟩] }

/-- The events the channel ever took, in order. -/
def sent (scope : Scope) : List LiveEvent := scope.log.flatMap (·.appended)

end Scope

end Live

end Samara
