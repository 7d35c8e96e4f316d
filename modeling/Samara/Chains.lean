/-
  Samara.Chains

  The layers of a lowered plan take what the layer below them makes, and the
  last one makes what the mapper of the Subscription takes.  An event of the
  terminal type therefore passes every downcast of `FramedLayer`, and a plan
  panics only where a decoder does.
-/
import Mathlib.Data.List.Forall2
import Samara.Source

namespace Samara

variable [RustTypes]

/-- The code of a decoder has panicked. -/
inductive DecoderRaises : Panic → Prop where
  | push (decoder : TypeId) (descriptor : Val decoder) (state : RustTypes.DecoderState decoder)
      (chunk : Val (RustTypes.decoderChunk decoder)) {panic : Panic}
      (h : (RustTypes.decoderPush decoder descriptor state chunk).2 = .error panic) :
      DecoderRaises panic
  | finish (decoder : TypeId) (descriptor : Val decoder) (state : RustTypes.DecoderState decoder)
      {panic : Panic}
      (h : (RustTypes.decoderFinish decoder descriptor state).2 = .error panic) :
      DecoderRaises panic

namespace FramedLayer

/-- `layers` take events of type `input` and make events of type `output`. -/
def Chains : EventType TypeId → List FramedLayer → EventType TypeId → Prop
  | input, [], output => input = output
  | input, layer :: layers, output => layer.inputType = input ∧ Chains layer.outputType layers output

theorem chains_snoc {input output : EventType TypeId} {layers : List FramedLayer}
    {layer : FramedLayer} (h : Chains input layers layer.inputType)
    (houtput : layer.outputType = output) : Chains input (layers ++ [layer]) output := by
  induction layers generalizing input with
  | nil => exact ⟨h.symm, houtput⟩
  | cons first layers ih => exact ⟨h.1, ih h.2⟩

/-- The types of a layer, which its events do not change. -/
def ends (layer : FramedLayer) : EventType TypeId × EventType TypeId :=
  (layer.inputType, layer.outputType)

theorem ends_mapTypedEvent (layer : FramedLayer)
    (event : SourceEvent (Val layer.inputType.item) layer.inputType.error.Val) :
    (layer.mapTypedEvent event).1.ends = layer.ends := by
  cases event <;> rfl

/-- A layer panics only where its decoder does. -/
theorem raises_mapTypedEvent {layer : FramedLayer}
    {event : SourceEvent (Val layer.inputType.item) layer.inputType.error.Val} {panic : Panic}
    (h : (layer.mapTypedEvent event).2 = .error panic) : DecoderRaises panic := by
  cases event with
  | item chunk =>
      unfold mapTypedEvent at h
      dsimp only at h
      cases hpushed : (RustTypes.decoderPush layer.decoderType layer.descriptor.2 layer.state
          chunk).2 with
      | error raised =>
          rw [hpushed] at h
          cases h
          exact .push _ _ _ _ hpushed
      | ok events =>
          rw [hpushed] at h
          cases h
  | failed error => cases h
  | ended =>
      unfold mapTypedEvent at h
      dsimp only at h
      cases hfinished : (RustTypes.decoderFinish layer.decoderType layer.descriptor.2
          layer.state).2 with
      | error raised =>
          rw [hfinished] at h
          cases h
          exact .finish _ _ _ hfinished
      | ok events =>
          rw [hfinished] at h
          cases h

/-- How a layer ends on events of its input type. -/
def Fed (layer : FramedLayer) :
    EStateM.Result Panic FramedLayer (List ErasedSourceEvent) → Prop
  | .ok outer layer' => layer'.ends = layer.ends ∧ ∀ event ∈ outer, event.type = layer.outputType
  | .error panic _ => DecoderRaises panic

/-- The downcast of an event of the input type succeeds. -/
theorem fed_mapEvent {layer : FramedLayer} {event : ErasedSourceEvent}
    (htype : event.type = layer.inputType) : layer.Fed ((mapEvent event).run layer) := by
  obtain ⟨typed, hdowncast⟩ := ErasedSourceEvent.downcast_of_type htype
  have hends := ends_mapTypedEvent layer typed
  have hraises := @raises_mapTypedEvent _ layer typed
  unfold mapEvent EStateM.run
  dsimp only
  rw [hdowncast]
  dsimp only
  cases hmapped : layer.mapTypedEvent typed with
  | mk layer' result =>
      rw [hmapped] at hends hraises
      cases result with
      | error panic => exact hraises rfl
      | ok events =>
          refine ⟨hends, ?_⟩
          intro mapped hmem
          obtain ⟨outer, _, rfl⟩ := List.mem_map.mp hmem
          rfl

theorem fed_mapEvents {layer : FramedLayer} {events : List ErasedSourceEvent}
    (htypes : ∀ event ∈ events, event.type = layer.inputType) :
    layer.Fed ((mapEvents events).run layer) := by
  induction events generalizing layer with
  | nil => exact ⟨rfl, fun _ hmem => absurd hmem List.not_mem_nil⟩
  | cons event events ih =>
      have hfirst := fed_mapEvent (htypes event List.mem_cons_self)
      unfold mapEvents
      rw [EStateM.run_bind]
      cases hrun : (mapEvent event).run layer with
      | error panic layer' =>
          rw [hrun] at hfirst
          exact hfirst
      | ok outer layer' =>
          rw [hrun] at hfirst
          obtain ⟨hends, houter⟩ := hfirst
          obtain ⟨hinput, houtput⟩ := Prod.mk.inj hends
          have hrest := @ih layer' fun later hlater =>
            (htypes later (List.mem_cons_of_mem _ hlater)).trans hinput.symm
          dsimp only
          rw [EStateM.run_bind]
          cases hmore : (mapEvents events).run layer' with
          | error panic layer'' =>
              rw [hmore] at hrest
              exact hrest
          | ok more layer'' =>
              rw [hmore] at hrest
              refine ⟨hrest.1.trans hends, ?_⟩
              intro mapped hmem
              rcases List.mem_append.mp hmem with hmem | hmem
              · exact houter mapped hmem
              · exact (hrest.2 mapped hmem).trans houtput

end FramedLayer

/-- How a chain of layers ends on events of its input type. -/
def ChainFed (input output : EventType TypeId) :
    EStateM.Result Panic (List FramedLayer) (List ErasedSourceEvent) → Prop
  | .ok outer layers => FramedLayer.Chains input layers output ∧
      ∀ event ∈ outer, event.type = output
  | .error panic _ => DecoderRaises panic

/-- Each layer of a chain receives events of the type it expects. -/
theorem chainFed_mapLayers {input output : EventType TypeId} {layers : List FramedLayer}
    (hchains : FramedLayer.Chains input layers output) {events : List ErasedSourceEvent}
    (htypes : ∀ event ∈ events, event.type = input) :
    ChainFed input output (mapLayers events layers) := by
  induction layers generalizing input events with
  | nil =>
      cases hchains
      exact ⟨rfl, htypes⟩
  | cons layer layers ih =>
      obtain ⟨hinput, hrest⟩ := hchains
      have hfed := FramedLayer.fed_mapEvents fun event hevent =>
        (htypes event hevent).trans hinput.symm
      unfold EStateM.run at hfed
      unfold mapLayers
      cases hrun : FramedLayer.mapEvents events layer with
      | error panic layer' =>
          rw [hrun] at hfed
          exact hfed
      | ok outer layer' =>
          rw [hrun] at hfed
          obtain ⟨hends, houter⟩ := hfed
          obtain ⟨hinput', houtput'⟩ := Prod.mk.inj hends
          have hmapped := ih hrest houter
          dsimp only
          cases hmore : mapLayers outer layers with
          | error panic layers' =>
              rw [hmore] at hmapped
              exact hmapped
          | ok mapped layers' =>
              rw [hmore] at hmapped
              exact ⟨⟨hinput'.trans hinput, houtput' ▸ hmapped.1⟩, hmapped.2⟩

namespace SourcePlan

/-- A plan takes the events of `source` and makes events of type `output`. -/
structure Produces (plan : SourcePlan) (source : DescriptorType TypeId)
    (output : EventType TypeId) : Prop where
  terminal : plan.terminalType = source
  chains : FramedLayer.Chains source.eventType plan.layers output

/-- The trait bounds of a descriptor type are what makes its layers a chain. -/
theorem produces_lower {descriptorType : DescriptorType TypeId}
    (hwellTyped : descriptorType.WellTyped) (descriptor : descriptorType.Val) :
    (lower descriptorType descriptor).Produces descriptorType.terminalType
      descriptorType.eventType := by
  refine ⟨terminalType_lower _ _, ?_⟩
  induction descriptorType with
  | custom type => rfl
  | stream item => rfl
  | framed source decoder ih =>
      obtain ⟨hsource, hitem⟩ := hwellTyped
      refine FramedLayer.chains_snoc ?_ rfl
      have hinput : (FramedLayer.intoLayer source decoder descriptor).inputType =
          source.eventType := by
        show EventType.mk (RustTypes.decoderChunk decoder) source.error = ⟨source.item, source.error⟩
        rw [hitem]
      rw [hinput]
      exact ih hsource descriptor.1

/-- The events that pass a plan do not change under what capability it is. -/
theorem capability_mapEvent {plan plan' : SourcePlan} {event : ErasedSourceEvent}
    {outer : List ErasedSourceEvent}
    (h : (SourcePlan.mapEvent event).run plan = .ok outer plan') :
    plan'.capability = plan.capability := by
  unfold SourcePlan.mapEvent EStateM.run at h
  dsimp only at h
  split at h
  · cases h
    rfl
  · cases h

/-- An event of the terminal type passes a plan, or one of its decoders panics. -/
theorem Produces.mapEvent {plan : SourcePlan} {terminal : DescriptorType TypeId}
    {output : EventType TypeId} (h : plan.Produces terminal output) {event : ErasedSourceEvent}
    (htype : event.type = terminal.eventType) :
    (∃ outer plan', (SourcePlan.mapEvent event).run plan = .ok outer plan' ∧
        plan'.Produces terminal output ∧ ∀ mapped ∈ outer, mapped.type = output) ∨
      ∃ panic plan', (SourcePlan.mapEvent event).run plan = .error panic plan' ∧
        DecoderRaises panic := by
  have htypes : ∀ other ∈ [event], other.type = terminal.eventType := by
    intro other hother
    rw [List.mem_singleton.mp hother]
    exact htype
  have hfed := chainFed_mapLayers h.chains htypes
  unfold SourcePlan.mapEvent EStateM.run
  dsimp only
  cases hrun : mapLayers [event] plan.layers with
  | ok outer layers =>
      rw [hrun] at hfed
      exact .inl ⟨outer, _, rfl, ⟨h.terminal, hfed.1⟩, hfed.2⟩
  | error panic layers =>
      rw [hrun] at hfed
      exact .inr ⟨panic, _, rfl, hfed⟩

end SourcePlan

/-! ## Later states of a plan -/

namespace FramedLayer

/-- The same layer, with another state of its decoder. -/
def Resumes (layer layer' : FramedLayer) : Prop := ∃ state, layer' = { layer with state }

instance : IsPreorder FramedLayer Resumes where
  refl layer := ⟨layer.state, rfl⟩
  trans _ _ _ := by
    rintro ⟨_, rfl⟩ ⟨state, rfl⟩
    exact ⟨state, rfl⟩

theorem forall₂_resumes_trans {first second third : List FramedLayer}
    (h : List.Forall₂ Resumes first second) (h' : List.Forall₂ Resumes second third) :
    List.Forall₂ Resumes first third := by
  induction h generalizing third with
  | nil =>
      cases h'
      exact .nil
  | cons hfirst _ ih =>
      cases h' with
      | cons hsecond hrest => exact .cons (IsTrans.trans _ _ _ hfirst hsecond) (ih hrest)

theorem resumes_mapTypedEvent (layer : FramedLayer)
    (event : SourceEvent (Val layer.inputType.item) layer.inputType.error.Val) :
    layer.Resumes (layer.mapTypedEvent event).1 := by
  cases event with
  | item chunk => exact ⟨_, rfl⟩
  | failed error => exact refl layer
  | ended => exact ⟨_, rfl⟩

theorem resumes_mapEvent (event : ErasedSourceEvent) : Exec.Leads Resumes (mapEvent event) := by
  intro layer
  unfold mapEvent EStateM.run
  dsimp only
  cases event.downcast layer.inputType with
  | none => exact refl layer
  | some typed =>
      have hresumes := resumes_mapTypedEvent layer typed
      dsimp only
      generalize layer.mapTypedEvent typed = result at hresumes
      obtain ⟨layer', made⟩ := result
      cases made with
      | ok events => exact hresumes
      | error panic => exact hresumes

theorem resumes_mapEvents (events : List ErasedSourceEvent) :
    Exec.Leads Resumes (mapEvents events) := by
  induction events with
  | nil => exact Exec.leads_pure _
  | cons event events ih =>
      exact Exec.leads_bind (resumes_mapEvent event) fun _ =>
        Exec.leads_bind ih fun _ => Exec.leads_pure _

theorem resumes_mapLayers (events : List ErasedSourceEvent) (layers : List FramedLayer) :
    List.Forall₂ Resumes layers (Exec.final (mapLayers events layers)) := by
  induction layers generalizing events with
  | nil => exact .nil
  | cons layer layers ih =>
      have hlayer := resumes_mapEvents events layer
      unfold EStateM.run at hlayer
      unfold mapLayers
      cases hrun : mapEvents events layer with
      | error panic layer' =>
          rw [hrun] at hlayer
          exact .cons hlayer (List.forall₂_same.mpr fun layer _ => refl layer)
      | ok outer layer' =>
          rw [hrun] at hlayer
          have hrest := ih outer
          dsimp only
          cases hmore : mapLayers outer layers with
          | error panic layers' =>
              rw [hmore] at hrest
              exact .cons hlayer hrest
          | ok mapped layers' =>
              rw [hmore] at hrest
              exact .cons hlayer hrest

/-- The types of a chain are a matter of what its layers were made of. -/
theorem Chains.resumes {layers layers' : List FramedLayer}
    (hlayers : List.Forall₂ Resumes layers layers') {input output : EventType TypeId}
    (h : Chains input layers output) : Chains input layers' output := by
  induction hlayers generalizing input with
  | nil => exact h
  | cons hlayer _ ih =>
      obtain ⟨state, rfl⟩ := hlayer
      exact ⟨h.1, ih h.2⟩

end FramedLayer

namespace SourcePlan

/-- The same plan, with other states of its decoders. -/
def Resumes (plan plan' : SourcePlan) : Prop :=
  ∃ layers, List.Forall₂ FramedLayer.Resumes plan.layers layers ∧ plan' = { plan with layers }

instance : IsPreorder SourcePlan Resumes where
  refl plan := ⟨plan.layers, List.forall₂_same.mpr fun layer _ => refl layer, rfl⟩
  trans _ _ _ := by
    rintro ⟨middle, hmiddle, rfl⟩ ⟨layers, hlayers, rfl⟩
    refine ⟨layers, ?_, rfl⟩
    exact FramedLayer.forall₂_resumes_trans hmiddle hlayers

theorem resumes_mapEvent (event : ErasedSourceEvent) : Exec.Leads Resumes (mapEvent event) := by
  intro plan
  have hlayers := FramedLayer.resumes_mapLayers [event] plan.layers
  unfold mapEvent EStateM.run
  dsimp only
  cases hrun : mapLayers [event] plan.layers with
  | ok outer layers =>
      rw [hrun] at hlayers
      exact ⟨layers, hlayers, rfl⟩
  | error panic layers =>
      rw [hrun] at hlayers
      exact ⟨layers, hlayers, rfl⟩

theorem Produces.resumes {plan plan' : SourcePlan} {terminal : DescriptorType TypeId}
    {output : EventType TypeId} (h : plan.Produces terminal output) (hplan : plan.Resumes plan') :
    plan'.Produces terminal output := by
  obtain ⟨layers, hlayers, rfl⟩ := hplan
  exact ⟨h.terminal, h.chains.resumes hlayers⟩

/-- Whatever passes a plan leaves its types as they are. -/
theorem Produces.after {plan plan' : SourcePlan} {terminal : DescriptorType TypeId}
    {output : EventType TypeId} (h : plan.Produces terminal output) {event : ErasedSourceEvent}
    {outer : List ErasedSourceEvent}
    (hrun : (SourcePlan.mapEvent event).run plan = .ok outer plan') :
    plan'.Produces terminal output := by
  have hresumes := resumes_mapEvent event plan
  rw [hrun] at hresumes
  exact h.resumes hresumes

end SourcePlan

end Samara
