/-
  Samara.Source

  Source descriptors and the plans they lower to (`SourcePlan`, `Framed`,
  `FramedLayer` in `lib.rs`).  A descriptor type is a terminal wrapped in any
  number of `Framed` layers; lowering a descriptor value yields its terminal
  and one stateful layer per `Framed`, innermost first.
-/
import Samara.Types
import Samara.Logic.Exec

namespace Samara

variable [RustTypes]

/-! ## Types of errors, descriptors and events -/

/-- The values of an error type. -/
def ErrorType.Val : ErrorType TypeId → Type
  | .base type => Samara.Val type
  | .infallible => Empty
  | .framed source decode => FramedError source.Val (Samara.Val decode)

namespace DescriptorType

/-- The values of a descriptor type: the `binding` name of a stream, the
    `source` and `decoder` fields of a `Framed`. -/
def Val : DescriptorType TypeId → Type
  | .custom type => Samara.Val type
  | .stream _ => String
  | .framed source decoder => source.Val × Samara.Val decoder

/-- `SourceDescriptor::Item`. -/
def item : DescriptorType TypeId → TypeId
  | .custom type => RustTypes.sourceItem type
  | .stream item => item
  | .framed _ decoder => RustTypes.decoderFrame decoder

/-- `SourceDescriptor::Error`. -/
def error : DescriptorType TypeId → ErrorType TypeId
  | .custom type => .base (RustTypes.sourceError type)
  | .stream _ => .infallible
  | .framed source decoder => .framed source.error (RustTypes.decoderError decoder)

/-- `SourceEvent<S::Item, S::Error>`. -/
def eventType (descriptorType : DescriptorType TypeId) : EventType TypeId :=
  ⟨descriptorType.item, descriptorType.error⟩

/-- The bound `S: SourceDescriptor<Item = D::Chunk>` of every `Framed<S, D>`. -/
def WellTyped : DescriptorType TypeId → Prop
  | .custom _ | .stream _ => True
  | .framed source decoder => source.WellTyped ∧ source.item = RustTypes.decoderChunk decoder

/-- `PartialEq` of `StreamDescriptor`: the binding names are equal. -/
def streamEq (left right : String) : Bool := left = right

/-- `PartialEq` of descriptors, derived for `Framed`. -/
def beq : (descriptorType : DescriptorType TypeId) →
    descriptorType.Val → descriptorType.Val → Bool
  | .custom type, left, right => RustTypes.sourceEq type left right
  | .stream _, left, right => streamEq left right
  | .framed source decoder, left, right =>
      source.beq left.1 right.1 && RustTypes.decoderEq decoder left.2 right.2

/-- Whether the comparison that `beq` decides returns. -/
def compares : (descriptorType : DescriptorType TypeId) →
    descriptorType.Val → descriptorType.Val → Callback Unit
  | .custom type, left, right => RustTypes.sourceCompares type left right
  | .stream _, _, _ => .ok ()
  | .framed source decoder, left, right => do
      source.compares left.1 right.1
      if source.beq left.1 right.1 then RustTypes.decoderCompares decoder left.2 right.2 else .ok ()

/-- Whether `Clone`, derived for `Framed`, returns. -/
def clones : (descriptorType : DescriptorType TypeId) → descriptorType.Val → Callback Unit
  | .custom type, descriptor => RustTypes.sourceClones type descriptor
  | .stream _, _ => .ok ()
  | .framed source decoder, descriptor => do
      source.clones descriptor.1
      RustTypes.decoderClones decoder descriptor.2

/-- Whether `__samara_source_plan` returns: each layer is cloned and its decoder
    started, innermost first. -/
def starts : (descriptorType : DescriptorType TypeId) → descriptorType.Val → Callback Unit
  | .framed source decoder, descriptor => do
      source.starts descriptor.1
      (DescriptorType.framed source decoder).clones descriptor
      RustTypes.decoderStarts decoder descriptor.2
  | terminal, descriptor => terminal.clones descriptor

/-- `__samara_terminal_type_id`. -/
def terminalType : DescriptorType TypeId → DescriptorType TypeId
  | .framed source _ => source.terminalType
  | terminal => terminal

/-- `__samara_terminal_stream_item_type_id`. -/
def terminalStreamItem : DescriptorType TypeId → Option TypeId
  | .custom _ => none
  | .stream item => some item
  | .framed source _ => source.terminalStreamItem

/-- `std::any::type_name` of a descriptor type. -/
def typeName : DescriptorType TypeId → String
  | .custom type => Samara.typeName type
  | .stream item => "samara::StreamDescriptor<" ++ Samara.typeName item ++ ">"
  | .framed source decoder =>
      "samara::Framed<" ++ source.typeName ++ ", " ++ Samara.typeName decoder ++ ">"

end DescriptorType

/-- A boxed `SourceEvent`; the source also caches the `kind` of the event. -/
structure ErasedSourceEvent where
  type : EventType TypeId
  event : SourceEvent (Val type.item) type.error.Val

namespace ErasedSourceEvent

def kind (erased : ErasedSourceEvent) : SourceEventKind := .of erased.event

/-- Whether the event is `Failed` or `Ended`. -/
def isTerminal (erased : ErasedSourceEvent) : Bool := erased.kind.isTerminal

def downcast (erased : ErasedSourceEvent) (type : EventType TypeId) :
    Option (SourceEvent (Val type.item) type.error.Val) :=
  if h : erased.type = type then some (h ▸ erased.event) else none

@[simp] theorem downcast_self (type : EventType TypeId)
    (event : SourceEvent (Val type.item) type.error.Val) :
    (ErasedSourceEvent.mk type event).downcast type = some event := by
  simp [downcast]

theorem downcast_eq_some {erased : ErasedSourceEvent} {type : EventType TypeId}
    {event : SourceEvent (Val type.item) type.error.Val}
    (h : erased.downcast type = some event) : erased = ⟨type, event⟩ := by
  obtain ⟨type', event'⟩ := erased
  unfold downcast at h
  split at h
  · rename_i htype
    cases htype
    cases h
    rfl
  · cases h

theorem downcast_of_type {erased : ErasedSourceEvent} {type : EventType TypeId}
    (h : erased.type = type) : ∃ event, erased.downcast type = some event := by
  subst h
  exact ⟨erased.event, downcast_self _ _⟩

/-- `ErasedSourceEvent::typed`. -/
def typed (descriptorType : DescriptorType TypeId)
    (event : SourceEvent (Val descriptorType.item) descriptorType.error.Val) :
    ErasedSourceEvent :=
  ⟨descriptorType.eventType, event⟩

end ErasedSourceEvent

/-! ## Framed layers -/

/-- `FramedLayer<S, D>`: the `Framed` descriptor and the decoder state of one
    active composition. -/
structure FramedLayer where
  sourceType : DescriptorType TypeId
  decoderType : TypeId
  descriptor : (DescriptorType.framed sourceType decoderType).Val
  state : RustTypes.DecoderState decoderType

namespace FramedLayer

/-- The event type a layer accepts.  `S::Item` is `D::Chunk` by the bound on
    `Framed<S, D>`. -/
def inputType (layer : FramedLayer) : EventType TypeId :=
  ⟨RustTypes.decoderChunk layer.decoderType, layer.sourceType.error⟩

/-- The event type a layer produces. -/
def outputType (layer : FramedLayer) : EventType TypeId :=
  (DescriptorType.framed layer.sourceType layer.decoderType).eventType

/-- `Framed::into_layer`. -/
def intoLayer (sourceType : DescriptorType TypeId) (decoderType : TypeId)
    (descriptor : (DescriptorType.framed sourceType decoderType).Val) : FramedLayer :=
  ⟨sourceType, decoderType, descriptor, RustTypes.decoderStart decoderType descriptor.2⟩

/-- The typed events a layer makes of what its decoder returned. -/
def decoded (layer : FramedLayer)
    (ending : List (SourceEvent (Val layer.outputType.item) layer.outputType.error.Val)) :
    Except (Val (RustTypes.decoderError layer.decoderType))
      (List (Val (RustTypes.decoderFrame layer.decoderType))) →
    List (SourceEvent (Val layer.outputType.item) layer.outputType.error.Val)
  | .ok frames => (frames : List (Val layer.outputType.item)).map .item ++ ending
  | .error error => [.failed (.decode error)]

/-- `FramedLayer::map_event` on typed events. -/
def mapTypedEvent (layer : FramedLayer) :
    SourceEvent (Val layer.inputType.item) layer.inputType.error.Val →
    FramedLayer ×
      Callback (List (SourceEvent (Val layer.outputType.item) layer.outputType.error.Val))
  | .item chunk =>
      let (state, pushed) :=
        RustTypes.decoderPush layer.decoderType layer.descriptor.2 layer.state chunk
      ({ layer with state }, pushed.map (layer.decoded []))
  | .failed error => (layer, .ok [.failed (.source error)])
  | .ended =>
      let (state, finished) :=
        RustTypes.decoderFinish layer.decoderType layer.descriptor.2 layer.state
      ({ layer with state }, finished.map (layer.decoded [.ended]))

/-- `ErasedSourceLayer::map_event`. -/
def mapEvent (event : ErasedSourceEvent) :
    EStateM Panic FramedLayer (List ErasedSourceEvent) := fun layer =>
  match event.downcast layer.inputType with
  | none => .error .internal layer
  | some event =>
      match layer.mapTypedEvent event with
      | (layer', .error panic) => .error panic layer'
      | (layer', .ok events) => .ok (events.map (ErasedSourceEvent.mk layer.outputType)) layer'

/-- One layer over a batch, in order. -/
def mapEvents : List ErasedSourceEvent → EStateM Panic FramedLayer (List ErasedSourceEvent)
  | [] => pure []
  | event :: rest => do
      let outer ← mapEvent event
      let more ← mapEvents rest
      pure (outer ++ more)

end FramedLayer

/-! ## Source plans -/

/-- `TerminalDescriptor<S>` behind `dyn ErasedTerminalDescriptor`. -/
structure TerminalDescriptor where
  descriptorType : DescriptorType TypeId
  descriptor : descriptorType.Val

def TerminalDescriptor.endedEvent (terminal : TerminalDescriptor) : ErasedSourceEvent :=
  .typed terminal.descriptorType .ended

structure SourcePlan where
  terminal : TerminalDescriptor
  layers : List FramedLayer
  outputEventType : EventType TypeId
  validEventChain : Bool
  capability : Option CapabilityToken

/-- The layers of a plan, each over the batch the layer below it produced. -/
def mapLayers : List ErasedSourceEvent →
    EStateM Panic (List FramedLayer) (List ErasedSourceEvent)
  | events, [] => .ok events []
  | events, layer :: layers =>
      match FramedLayer.mapEvents events layer with
      | .error panic layer => .error panic (layer :: layers)
      | .ok outer layer =>
          match mapLayers outer layers with
          | .error panic layers => .error panic (layer :: layers)
          | .ok mapped layers => .ok mapped (layer :: layers)

namespace SourcePlan

/-- `SourcePlan::terminal`. -/
def ofTerminal (descriptorType : DescriptorType TypeId) (descriptor : descriptorType.Val) :
    SourcePlan where
  terminal := ⟨descriptorType, descriptor⟩
  layers := []
  outputEventType := descriptorType.eventType
  validEventChain := true
  capability := none

/-- `__samara_source_plan`. -/
def lower : (descriptorType : DescriptorType TypeId) → descriptorType.Val → SourcePlan
  | .framed source decoder, descriptor =>
      let plan := lower source descriptor.1
      { plan with
        validEventChain := plan.validEventChain && plan.outputEventType = source.eventType
        layers := plan.layers ++ [FramedLayer.intoLayer source decoder descriptor]
        outputEventType := (DescriptorType.framed source decoder).eventType }
  | .custom type, descriptor => ofTerminal (.custom type) descriptor
  | .stream item, descriptor => ofTerminal (.stream item) descriptor

def terminalType (plan : SourcePlan) : DescriptorType TypeId := plan.terminal.descriptorType

theorem terminalType_lower (descriptorType : DescriptorType TypeId)
    (descriptor : descriptorType.Val) :
    (lower descriptorType descriptor).terminalType = descriptorType.terminalType := by
  induction descriptorType with
  | custom type => rfl
  | stream item => rfl
  | framed source decoder ih => exact ih descriptor.1

theorem outputEventType_lower (descriptorType : DescriptorType TypeId)
    (descriptor : descriptorType.Val) :
    (lower descriptorType descriptor).outputEventType = descriptorType.eventType := by
  cases descriptorType <;> rfl

/-- The layers of a lowered plan fit together. -/
theorem validEventChain_lower (descriptorType : DescriptorType TypeId)
    (descriptor : descriptorType.Val) :
    (lower descriptorType descriptor).validEventChain = true := by
  induction descriptorType with
  | custom type => rfl
  | stream item => rfl
  | framed source decoder ih =>
      show ((lower source descriptor.1).validEventChain &&
        decide ((lower source descriptor.1).outputEventType = source.eventType)) = true
      rw [ih, outputEventType_lower]
      simp

def terminalTypeName (plan : SourcePlan) : String := plan.terminal.descriptorType.typeName

def terminalEndedEvent (plan : SourcePlan) : ErasedSourceEvent := plan.terminal.endedEvent

def acceptsOutputEventType (plan : SourcePlan) (expected : EventType TypeId) : Bool :=
  plan.validEventChain && plan.outputEventType = expected

/-- Whether the plan's capability is `token`.  `SourcePlan::capability` expects
    one to be present; every plan of a declared Subscription has it. -/
def carries (plan : SourcePlan) (token : CapabilityToken) : Bool :=
  plan.capability = some token

/-- `SourcePlan::map_event`. -/
def mapEvent (event : ErasedSourceEvent) :
    EStateM Panic SourcePlan (List ErasedSourceEvent) := fun plan =>
  match mapLayers [event] plan.layers with
  | .ok events layers => .ok events { plan with layers }
  | .error panic layers => .error panic { plan with layers }

end SourcePlan

end Samara
