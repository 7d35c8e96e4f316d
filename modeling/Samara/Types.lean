/-
  Samara.Types

  The vocabulary shared by every other module: logical identities, the
  outcome and event shapes of `lib.rs`, and the Rust types a Program is
  written against.  A Rust type is a `TypeId`, its values are `Val`, and a
  boxed `dyn Any` is a value together with its `TypeId`.
-/
import Mathlib.Data.List.Sort
import Mathlib.Data.String.Basic
import Mathlib.Logic.Relation

namespace Samara

/-! ## Logical identities -/

structure ComponentId where
  name : String
  deriving DecidableEq

structure PortId where
  name : String
  deriving DecidableEq

structure SubscriptionId where
  name : String
  deriving DecidableEq

/-- The `Debug` rendering the runtimes put into fault reasons. -/
def ComponentId.debug (id : ComponentId) : String := "ComponentId(" ++ id.name.quote ++ ")"

def PortId.debug (id : PortId) : String := "PortId(" ++ id.name.quote ++ ")"

def SubscriptionId.debug (id : SubscriptionId) : String :=
  "SubscriptionId(" ++ id.name.quote ++ ")"

/-- The `Arc<()>` whose address tells one Program from another. -/
structure ProgramId where
  address : Nat
  deriving DecidableEq

/-- `Duration` in nanoseconds. -/
abbrev Duration := Nat

/-- `Duration::MAX`. -/
def Duration.max : Duration := 2 ^ 64 * 10 ^ 9 - 1

def Duration.checkedAdd (now delay : Duration) : Option Duration :=
  if now + delay ≤ Duration.max then some (now + delay) else none

theorem Duration.checkedAdd_eq_some {now delay deadline : Duration}
    (h : Duration.checkedAdd now delay = some deadline) : deadline = now + delay := by
  unfold Duration.checkedAdd at h
  split at h
  · exact (Option.some.inj h).symm
  · cases h

theorem Duration.checkedAdd_of_le {now delay : Duration} (h : now + delay ≤ Duration.max) :
    Duration.checkedAdd now delay = some (now + delay) := by
  unfold Duration.checkedAdd
  rw [if_pos h]

theorem Duration.checkedAdd_le_max {now delay deadline : Duration}
    (h : Duration.checkedAdd now delay = some deadline) : deadline ≤ Duration.max := by
  unfold Duration.checkedAdd at h
  split at h
  · rename_i hmax
    rw [← Option.some.inj h]
    exact hmax
  · cases h

structure CapabilityToken where
  id : Nat
  program : ProgramId
  deriving DecidableEq

namespace CapabilityToken

def belongsTo (token : CapabilityToken) (program : ProgramId) : Bool :=
  token.program = program

def sameAs (token other : CapabilityToken) : Bool :=
  token.id = other.id && token.program = other.program

theorem sameAs_iff {token other : CapabilityToken} : token.sameAs other = true ↔ token = other := by
  obtain ⟨id, program⟩ := token
  obtain ⟨id', program'⟩ := other
  simp [sameAs]

theorem sameAs_eq (token other : CapabilityToken) : token.sameAs other = decide (token = other) := by
  rw [Bool.eq_iff_iff, sameAs_iff, decide_eq_true_eq]

end CapabilityToken

/-! ## Panics -/

/-- How a Rust call can unwind instead of returning. -/
inductive Panic where
  /-- A callback supplied by the application panicked. -/
  | application
  /-- An `unreachable!` or `expect` of the runtime itself was reached. -/
  | internal
  deriving DecidableEq

/-- The result of calling code that may panic. -/
abbrev Callback := Except Panic

/-! ## Outcomes and events -/

inductive CancelReason where
  | shutdown
  | superseded
  | deadline
  deriving DecidableEq

inductive EffectOutcome (Output EffectError : Type) where
  | succeeded (output : Output)
  | failed (error : EffectError)
  | cancelled (reason : CancelReason)

inductive SourceEvent (Item SourceError : Type) where
  | item (item : Item)
  | failed (error : SourceError)
  | ended

inductive SourceEventKind where
  | item
  | failed
  | ended
  deriving DecidableEq

def SourceEventKind.of {Item SourceError : Type} : SourceEvent Item SourceError → SourceEventKind
  | .item _ => .item
  | .failed _ => .failed
  | .ended => .ended

def SourceEventKind.isTerminal : SourceEventKind → Bool
  | .item => false
  | .failed | .ended => true

inductive RequestError where
  | deliveryFailed
  | replyAbandoned
  deriving DecidableEq

inductive RequestOutcome (Reply : Type) where
  | replied (reply : Reply)
  | failed (error : RequestError)
  | timedOut
  | cancelled

/-- `FramedError`: failure of the underlying Source or of the decoder. -/
inductive FramedError (SourceError DecodeError : Type) where
  | source (error : SourceError)
  | decode (error : DecodeError)

/-- The token consumed by `Command::reply`; the Reply type is a phantom. -/
structure ReplyTo {T : Type} (reply : T) where
  correlation : Nat

/-! ## Composite Rust types -/

/-- The error types a Source can have: a declared type, the `Infallible` of a
    stream, or the error of a framed composition. -/
inductive ErrorType (T : Type) where
  | base (type : T)
  | infallible
  | framed (source : ErrorType T) (decode : T)
  deriving DecidableEq

/-- The `SourceDescriptor` types: an application's own terminal descriptor,
    `StreamDescriptor<item>`, or `Framed<source, decoder>`. -/
inductive DescriptorType (T : Type) where
  | custom (type : T)
  | stream (item : T)
  | framed (source : DescriptorType T) (decoder : T)
  deriving DecidableEq

/-- The type `SourceEvent<item, error>`. -/
structure EventType (T : Type) where
  item : T
  error : ErrorType T
  deriving DecidableEq

/-- The types and trait implementations a Program is written against.

    Application code that may panic returns a `Callback`; code taking `&mut`
    state also returns the state it leaves behind when it panics.  Comparing and
    cloning descriptors and `Decoder::start` may panic as well: a field in the
    plural says whether the call returns, and it returns `sourceEq`, `decoderEq`,
    a copy, or `decoderStart` then. -/
class RustTypes where
  TypeId : Type
  decEqTypeId : DecidableEq TypeId
  /-- The values of a type. -/
  Val : TypeId → Type
  /-- `std::any::type_name`. -/
  typeName : TypeId → String
  -- `EffectDescriptor`
  effectOutput : TypeId → TypeId
  effectError : TypeId → TypeId
  -- `SourceDescriptor` of an application's own terminal descriptor
  sourceItem : TypeId → TypeId
  sourceError : TypeId → TypeId
  sourceEq : (source : TypeId) → Val source → Val source → Bool
  sourceCompares : (source : TypeId) → Val source → Val source → Callback Unit
  sourceClones : (source : TypeId) → Val source → Callback Unit
  -- `Decoder`
  decoderChunk : TypeId → TypeId
  decoderFrame : TypeId → TypeId
  decoderError : TypeId → TypeId
  DecoderState : TypeId → Type
  decoderEq : (decoder : TypeId) → Val decoder → Val decoder → Bool
  decoderCompares : (decoder : TypeId) → Val decoder → Val decoder → Callback Unit
  decoderClones : (decoder : TypeId) → Val decoder → Callback Unit
  decoderStart : (decoder : TypeId) → Val decoder → DecoderState decoder
  decoderStarts : (decoder : TypeId) → Val decoder → Callback Unit
  decoderPush : (decoder : TypeId) → Val decoder → DecoderState decoder →
    Val (decoderChunk decoder) →
    DecoderState decoder ×
      Callback (Except (Val (decoderError decoder)) (List (Val (decoderFrame decoder))))
  decoderFinish : (decoder : TypeId) → Val decoder → DecoderState decoder →
    DecoderState decoder ×
      Callback (Except (Val (decoderError decoder)) (List (Val (decoderFrame decoder))))
  -- `Component`
  componentModel : TypeId → Type
  componentMessage : TypeId → TypeId
  -- `Protocol`, `Notification<P>`, `Request<P>` and `C::Message: From<P::Message>`
  protocolMessage : TypeId → TypeId
  notificationIntoMessage : (protocol notification : TypeId) → Val notification →
    Callback (Val (protocolMessage protocol))
  requestReply : (protocol request : TypeId) → TypeId
  requestIntoMessage : (protocol request : TypeId) → Val request →
    ReplyTo (requestReply protocol request) → Callback (Val (protocolMessage protocol))
  messageFrom : (protocol component : TypeId) → Val (protocolMessage protocol) →
    Callback (Val (componentMessage component))

export RustTypes (TypeId Val typeName)

instance [R : RustTypes] : DecidableEq (@TypeId R) := RustTypes.decEqTypeId

instance [R : RustTypes] : LawfulBEq (@TypeId R) := inferInstance

instance [R : RustTypes] : LawfulBEq (DescriptorType (@TypeId R)) := inferInstance

variable [RustTypes]

/-- `Box<dyn Any + Send>`. -/
structure ErasedValue where
  type : TypeId
  value : Val type

/-- `Box<dyn Any>::downcast`. -/
def ErasedValue.downcast (erased : ErasedValue) (type : TypeId) : Option (Val type) :=
  if h : erased.type = type then some (h ▸ erased.value) else none

@[simp] theorem ErasedValue.downcast_self (type : TypeId) (value : Val type) :
    (ErasedValue.mk type value).downcast type = some value := by
  simp [downcast]

theorem ErasedValue.downcast_isSome {erased : ErasedValue} {type : TypeId} :
    (erased.downcast type).isSome = true ↔ erased.type = type := by
  unfold downcast
  split <;> simp_all

/-- What the mapper of a boxed value boxes has the type it is boxed at. -/
theorem ErasedValue.type_of_map {type : TypeId} {result : Callback (Val type)} {message : ErasedValue}
    (h : result.map (ErasedValue.mk type) = .ok message) : message.type = type := by
  cases result with
  | error panic => cases h
  | ok value =>
      cases h
      rfl

/-- A boxed `EffectOutcome<output, error>`. -/
structure ErasedOutcome where
  output : TypeId
  error : TypeId
  outcome : EffectOutcome (Val output) (Val error)

def ErasedOutcome.downcast (erased : ErasedOutcome) (output error : TypeId) :
    Option (EffectOutcome (Val output) (Val error)) :=
  if h : erased.output = output ∧ erased.error = error then
    some (h.1 ▸ h.2 ▸ erased.outcome)
  else
    none

@[simp] theorem ErasedOutcome.downcast_self (output error : TypeId)
    (outcome : EffectOutcome (Val output) (Val error)) :
    (ErasedOutcome.mk output error outcome).downcast output error = some outcome := by
  simp [downcast]

end Samara

/-! ## A sample application's types

One Rust type, whose values are numbers and requests that carry their
correlation, with decoders that split, fail or hold back frames; decoder `9`
panics when it starts. -/

namespace Samara.Sample

inductive Value where
  | plain (number : Nat)
  | asking (number correlation : Nat)
  deriving DecidableEq

def Value.number : Value → Nat
  | .plain number => number
  | .asking number _ => number

/-- The frames of decoder `mode`: `0` splits a chunk in two, `1` refuses odd
    chunks, any other passes chunks on. -/
def Value.push (mode chunk : Value) : Except Value (List Value) :=
  match mode.number with
  | 0 => .ok [.plain chunk.number, .plain (chunk.number + 1)]
  | 1 => if chunk.number % 2 = 1 then .error chunk else .ok [chunk]
  | _ => .ok [chunk]

@[reducible]
def types : RustTypes where
  TypeId := Unit
  decEqTypeId := inferInstance
  Val _ := Value
  typeName _ := "u64"
  effectOutput _ := ()
  effectError _ := ()
  sourceItem _ := ()
  sourceError _ := ()
  sourceEq _ left right := left = right
  sourceCompares _ _ _ := .ok ()
  sourceClones _ _ := .ok ()
  decoderChunk _ := ()
  decoderFrame _ := ()
  decoderError _ := ()
  DecoderState _ := Unit
  decoderEq _ left right := left = right
  decoderCompares _ _ _ := .ok ()
  decoderClones _ _ := .ok ()
  decoderStart _ _ := ()
  decoderStarts _ decoder := if decoder = .plain 9 then .error .application else .ok ()
  decoderPush _ mode _ chunk := ((), .ok (mode.push chunk))
  decoderFinish _ _ _ := ((), .ok (.ok []))
  componentModel _ := Nat
  componentMessage _ := ()
  protocolMessage _ := ()
  notificationIntoMessage _ _ notification := .ok notification
  requestReply _ _ := ()
  requestIntoMessage _ _ request replyTo := .ok (.asking request.number replyTo.correlation)
  messageFrom _ _ message := .ok message

end Samara.Sample
