/-
  Samara.Trace

  Runtime diagnostics and the causal trace of `lib.rs`, with the ways a
  runtime operation can stop short of returning a value.
-/
import Samara.Types

namespace Samara

/-! ## Traces -/

/-- `TraceId`, the position of a record. -/
abbrev TraceId := Nat

inductive TraceCommandKind where
  | effect
  | send
  | notify
  | request
  | reply
  | timer
  deriving DecidableEq

inductive SubscriptionAction where
  | started
  | retained
  | replaced
  | cancelled
  deriving DecidableEq

inductive EffectOutcomeKind where
  | succeeded
  | failed
  | cancelled
  deriving DecidableEq

def EffectOutcomeKind.of {Output EffectError : Type} :
    EffectOutcome Output EffectError → EffectOutcomeKind
  | .succeeded _ => .succeeded
  | .failed _ => .failed
  | .cancelled _ => .cancelled

inductive TraceEvent where
  | initialization (component : ComponentId)
  | controlledMessageInput (component : ComponentId) (messageType : String)
  | controlledSourceInput (component : ComponentId) (subscription : SubscriptionId)
      (sourceDescriptorType : String) (event : SourceEventKind)
  | transition (component : ComponentId) (messageType : String)
  | commandEmitted (component : ComponentId) (kind : TraceCommandKind) (detailType : String)
      (targetComponent : Option ComponentId) (targetPort : Option PortId)
  | subscriptionLifecycle (component : ComponentId) (subscription : SubscriptionId)
      (sourceDescriptorType : String) (action : SubscriptionAction)
  | sourceEventMapped (component : ComponentId) (subscription : SubscriptionId)
      (sourceDescriptorType : String) (event : SourceEventKind)
  | staleSourceWorkDropped (component : ComponentId) (subscription : SubscriptionId)
      (mappedMessage : Bool)
  | effectOutcome (effect : TraceId) (component : ComponentId) (effectType : String)
      (outcome : EffectOutcomeKind)
  | requestOutcome (component : ComponentId) (replyType : String)
  | timerFired (component : ComponentId) (messageType : String)
  | runtimeFault (component : ComponentId) (work : TraceId) (descriptorType : String)
      (reason : String)
  deriving DecidableEq

namespace TraceEvent

def isTransition : TraceEvent → Bool
  | .transition _ _ => true
  | _ => false

def isMessageInput : TraceEvent → Bool
  | .controlledMessageInput _ _ => true
  | _ => false

/-- A `CommandEmitted` of this kind. -/
def emits (kind : TraceCommandKind) : TraceEvent → Bool
  | .commandEmitted _ kind' _ _ _ => kind' = kind
  | _ => false

def isSourceMapped : TraceEvent → Bool
  | .sourceEventMapped _ _ _ _ => true
  | _ => false

/-- A `StaleSourceWorkDropped` with `mapped_message`. -/
def isStaleMessage : TraceEvent → Bool
  | .staleSourceWorkDropped _ _ mappedMessage => mappedMessage
  | _ => false

def isRequestOutcome : TraceEvent → Bool
  | .requestOutcome _ _ => true
  | _ => false

def isTimerFired : TraceEvent → Bool
  | .timerFired _ _ => true
  | _ => false

def isFault : TraceEvent → Bool
  | .runtimeFault _ _ _ _ => true
  | _ => false

/-- The records that stand for a new Message to a Component, an `EffectOutcome`
    apart. -/
def causesMessage : TraceEvent → Bool
  | .controlledMessageInput _ _ => true
  | .commandEmitted _ kind _ _ _ => kind = .send || kind = .notify || kind = .request
  | .requestOutcome _ _ => true
  | .sourceEventMapped _ _ _ _ => true
  | .timerFired _ _ => true
  | _ => false

/-- The records of a Message that was delivered or dropped. -/
def endsMessage (event : TraceEvent) : Bool := event.isTransition || event.isStaleMessage

/-- The `effect` field of an `EffectOutcome`. -/
def settles? : TraceEvent → Option TraceId
  | .effectOutcome effect _ _ _ => some effect
  | _ => none

end TraceEvent

structure TraceRecord where
  id : TraceId
  time : Duration
  cause : Option TraceId
  event : TraceEvent
  deriving DecidableEq

/-! ## Errors -/

inductive RuntimeError where
  | fault (component : ComponentId) (descriptorType : Option String) (work : TraceId)
      (reason : String)
  | harness (reason : String)
  deriving DecidableEq

/-- Why a runtime operation did not return a value. -/
inductive Stop where
  /-- It returned `Err`. -/
  | error (error : RuntimeError)
  /-- It unwound. -/
  | panicked (panic : Panic)
  /-- It was still running when the fuel of the model ran out. -/
  | outOfFuel
  deriving DecidableEq

/-- Call code that may panic. -/
def callback {σ α : Type} (result : Callback α) : EStateM Stop σ α :=
  match result with
  | .ok value => pure value
  | .error panic => throw (.panicked panic)

@[simp] theorem run_callback_ok {σ α : Type} (value : α) (s : σ) :
    (callback (.ok value)).run s = .ok value s := rfl

@[simp] theorem run_callback_error {σ α : Type} (panic : Panic) (s : σ) :
    (callback (.error panic : Callback α)).run s = .error (.panicked panic) s := rfl

end Samara
