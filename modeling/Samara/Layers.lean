/-
  Samara.Layers

  A Source plan maps one terminal event at a time through all its layers.  What
  comes out over time is what the first layer makes of the whole input, the
  second layer of the whole of that, and so on.
-/
import Samara.Source
import Samara.Logic.Exec

namespace Samara

variable [RustTypes]

/-! ## One layer -/

namespace FramedLayer

theorem mapEvents_cons {event : ErasedSourceEvent} {events outer : List ErasedSourceEvent}
    {layer last : FramedLayer} : (mapEvents (event :: events)).run layer = .ok outer last ↔
      ∃ head middle tail, (mapEvent event).run layer = .ok head middle ∧
        (mapEvents events).run middle = .ok tail last ∧ outer = head ++ tail := by
  show (mapEvent event >>= fun head => mapEvents events >>= fun tail =>
    pure (head ++ tail)).run layer = _ ↔ _
  exact Exec.run_both_eq_ok

/-- Two batches in a row are one batch. -/
theorem mapEvents_append {first second outer : List ErasedSourceEvent} {layer last : FramedLayer} :
    (mapEvents (first ++ second)).run layer = .ok outer last ↔
      ∃ left right middle, (mapEvents first).run layer = .ok left middle ∧
        (mapEvents second).run middle = .ok right last ∧ outer = left ++ right := by
  induction first generalizing layer outer with
  | nil =>
      constructor
      · intro h
        exact ⟨[], outer, layer, rfl, h, rfl⟩
      · rintro ⟨left, right, middle, hleft, hright, rfl⟩
        cases hleft
        exact hright
  | cons event first ih =>
      rw [List.cons_append, mapEvents_cons]
      constructor
      · rintro ⟨head, between, tail, hhead, htail, rfl⟩
        obtain ⟨left, right, middle, hleft, hright, rfl⟩ := ih.mp htail
        exact ⟨head ++ left, right, middle, mapEvents_cons.mpr ⟨head, between, left, hhead, hleft, rfl⟩,
          hright, (List.append_assoc _ _ _).symm⟩
      · rintro ⟨left, right, middle, hleft, hright, rfl⟩
        obtain ⟨head, between, tail, hhead, htail, rfl⟩ := mapEvents_cons.mp hleft
        exact ⟨head, between, tail ++ right, hhead, ih.mpr ⟨tail, right, middle, htail, hright, rfl⟩,
          List.append_assoc _ _ _⟩

end FramedLayer

/-! ## All layers -/

/-- Each layer over the whole of what the layer below it made. -/
inductive Layerwise : List FramedLayer → List ErasedSourceEvent → List ErasedSourceEvent →
    List FramedLayer → Prop where
  | nil (events : List ErasedSourceEvent) : Layerwise [] events events []
  | cons {layer layer' : FramedLayer} {layers layers' : List FramedLayer}
      {events middle outer : List ErasedSourceEvent}
      (hlayer : (FramedLayer.mapEvents events).run layer = .ok middle layer')
      (hlayers : Layerwise layers middle outer layers') :
      Layerwise (layer :: layers) events outer (layer' :: layers')

namespace Layerwise

variable {layers last : List FramedLayer} {events outer : List ErasedSourceEvent}

theorem iff_mapLayers : Layerwise layers events outer last ↔
    (mapLayers events).run layers = .ok outer last := by
  induction layers generalizing events outer last with
  | nil =>
      constructor
      · intro h
        cases h
        rfl
      · intro h
        cases h
        exact .nil events
  | cons layer layers ih =>
      show _ ↔ mapLayers events (layer :: layers) = _
      unfold mapLayers
      constructor
      · intro h
        cases h with
        | cons hlayer hlayers =>
            have hrest := ih.mp hlayers
            simp only [EStateM.run] at hlayer hrest
            rw [hlayer]
            dsimp only
            rw [hrest]
      · intro h
        cases hlayer : FramedLayer.mapEvents events layer with
        | error panic layer' =>
            rw [hlayer] at h
            cases h
        | ok middle layer' =>
            rw [hlayer] at h
            dsimp only at h
            cases hlayers : mapLayers middle layers with
            | error panic layers' =>
                rw [hlayers] at h
                cases h
            | ok mapped layers' =>
                rw [hlayers] at h
                cases h
                exact .cons hlayer (ih.mpr hlayers)

/-- No event leaves every layer as it is. -/
theorem empty : Layerwise layers [] outer last ↔ outer = [] ∧ last = layers := by
  constructor
  · intro h
    induction layers generalizing outer last with
    | nil =>
        cases h
        exact ⟨rfl, rfl⟩
    | cons layer layers ih =>
        cases h with
        | cons hlayer hlayers =>
            cases hlayer
            obtain ⟨houter, hlast⟩ := ih hlayers
            exact ⟨houter, congrArg _ hlast⟩
  · rintro ⟨rfl, rfl⟩
    induction last with
    | nil => exact .nil []
    | cons layer layers ih => exact .cons rfl ih

/-- What comes first is through all the layers before what comes after it. -/
theorem append {first second : List ErasedSourceEvent} :
    Layerwise layers (first ++ second) outer last ↔
      ∃ left right middle, Layerwise layers first left middle ∧
        Layerwise middle second right last ∧ outer = left ++ right := by
  induction layers generalizing first second outer last with
  | nil =>
      constructor
      · intro h
        cases h
        exact ⟨first, second, [], .nil _, .nil _, rfl⟩
      · rintro ⟨left, right, middle, hleft, hright, rfl⟩
        cases hleft
        cases hright
        exact .nil _
  | cons layer layers ih =>
      constructor
      · intro h
        cases h with
        | cons hlayer hlayers =>
            obtain ⟨left, right, between, hleft, hright, rfl⟩ :=
              FramedLayer.mapEvents_append.mp hlayer
            obtain ⟨left', right', middle, hleft', hright', rfl⟩ := ih.mp hlayers
            exact ⟨left', right', between :: middle, .cons hleft hleft', .cons hright hright', rfl⟩
      · rintro ⟨left, right, middle, hleft, hright, rfl⟩
        cases hleft with
        | cons hlayer hlayers =>
            cases hright with
            | cons hlayer' hlayers' =>
                have hwhole := FramedLayer.mapEvents_append.mpr
                  ⟨_, _, _, hlayer, hlayer', rfl⟩
                exact .cons hwhole (ih.mpr ⟨_, _, _, hlayers, hlayers', rfl⟩)

/-- One more layer on top sees the whole output of those below. -/
theorem snoc {layer : FramedLayer} {last : List FramedLayer} :
    Layerwise (layers ++ [layer]) events outer last ↔
      ∃ middle below layer', Layerwise layers events middle below ∧
        (FramedLayer.mapEvents middle).run layer = .ok outer layer' ∧ last = below ++ [layer'] := by
  induction layers generalizing events last with
  | nil =>
      constructor
      · intro h
        cases h with
        | cons hlayer hlayers =>
            cases hlayers
            exact ⟨events, [], _, .nil _, hlayer, rfl⟩
      · rintro ⟨middle, below, layer', hbelow, hlayer, rfl⟩
        cases hbelow
        exact .cons hlayer (.nil _)
  | cons first layers ih =>
      constructor
      · intro h
        cases h with
        | cons hfirst hlayers =>
            obtain ⟨middle, below, layer', hbelow, hlayer, rfl⟩ := ih.mp hlayers
            exact ⟨middle, _ :: below, layer', .cons hfirst hbelow, hlayer, rfl⟩
      · rintro ⟨middle, below, layer', hbelow, hlayer, rfl⟩
        cases hbelow with
        | cons hfirst hbelow => exact .cons hfirst (ih.mpr ⟨_, _, _, hbelow, hlayer, rfl⟩)

end Layerwise

/-! ## Plans -/

namespace SourcePlan

/-- The terminal events of a Source, fed to its plan one at a time. -/
def feed : List ErasedSourceEvent → EStateM Panic SourcePlan (List ErasedSourceEvent)
  | [] => pure []
  | event :: events => do
      let outer ← mapEvent event
      let more ← feed events
      pure (outer ++ more)

theorem mapEvent_iff {plan plan' : SourcePlan} {event : ErasedSourceEvent}
    {outer : List ErasedSourceEvent} : (mapEvent event).run plan = .ok outer plan' ↔
      ∃ layers, Layerwise plan.layers [event] outer layers ∧ plan' = { plan with layers } := by
  simp only [Layerwise.iff_mapLayers, mapEvent, EStateM.run]
  cases mapLayers [event] plan.layers with
  | ok events layers =>
      constructor
      · intro h
        cases h
        exact ⟨layers, rfl, rfl⟩
      · rintro ⟨layers', h, rfl⟩
        cases h
        rfl
  | error panic layers => simp

theorem feed_cons {plan plan' : SourcePlan} {event : ErasedSourceEvent}
    {events outer : List ErasedSourceEvent} : (feed (event :: events)).run plan = .ok outer plan' ↔
      ∃ head between tail, (mapEvent event).run plan = .ok head between ∧
        (feed events).run between = .ok tail plan' ∧ outer = head ++ tail := by
  show (mapEvent event >>= fun head => feed events >>= fun tail =>
    pure (head ++ tail)).run plan = _ ↔ _
  exact Exec.run_both_eq_ok

theorem feed_iff {plan plan' : SourcePlan} {events outer : List ErasedSourceEvent} :
    (feed events).run plan = .ok outer plan' ↔
      ∃ layers, Layerwise plan.layers events outer layers ∧ plan' = { plan with layers } := by
  induction events generalizing plan outer with
  | nil =>
      constructor
      · intro h
        cases h
        exact ⟨_, Layerwise.empty.mpr ⟨rfl, rfl⟩, rfl⟩
      · rintro ⟨layers, hlayers, rfl⟩
        obtain ⟨rfl, rfl⟩ := Layerwise.empty.mp hlayers
        rfl
  | cons event events ih =>
      rw [feed_cons]
      constructor
      · rintro ⟨head, between, tail, hhead, htail, rfl⟩
        obtain ⟨middle, hmiddle, rfl⟩ := mapEvent_iff.mp hhead
        obtain ⟨layers, hlayers, rfl⟩ := ih.mp htail
        exact ⟨layers, Layerwise.append.mpr ⟨_, _, _, hmiddle, hlayers, rfl⟩, rfl⟩
      · rintro ⟨layers, hlayers, rfl⟩
        have hsplit : Layerwise plan.layers ([event] ++ events) outer layers := hlayers
        obtain ⟨left, right, middle, hleft, hright, rfl⟩ := Layerwise.append.mp hsplit
        exact ⟨left, { plan with layers := middle }, right, mapEvent_iff.mpr ⟨middle, hleft, rfl⟩,
          ih.mpr ⟨layers, hright, rfl⟩, rfl⟩

/-- Feeding a plan one event at a time makes what its layers make of the whole
    input one after another, and leaves them in the same states; and the plan
    of a `Framed` descriptor has the layers of the inner plan and its own on
    top, over the same terminal. -/
theorem layers_compose :
    (∀ (plan plan' : SourcePlan) (events outer : List ErasedSourceEvent),
      (feed events).run plan = .ok outer plan' ↔
        ∃ layers, Layerwise plan.layers events outer layers ∧ plan' = { plan with layers }) ∧
      ∀ (source : DescriptorType TypeId) (decoder : TypeId)
        (descriptor : (DescriptorType.framed source decoder).Val),
        (lower (.framed source decoder) descriptor).layers =
            (lower source descriptor.1).layers ++
              [FramedLayer.intoLayer source decoder descriptor] ∧
          (lower (.framed source decoder) descriptor).terminal =
            (lower source descriptor.1).terminal ∧
          ∀ events outer layers,
            Layerwise (lower (.framed source decoder) descriptor).layers events outer layers ↔
              ∃ middle below top, Layerwise (lower source descriptor.1).layers events middle below ∧
                (FramedLayer.mapEvents middle).run
                  (FramedLayer.intoLayer source decoder descriptor) = .ok outer top ∧
                layers = below ++ [top] := by
  exact ⟨fun _ _ _ _ => feed_iff, fun source decoder descriptor =>
    ⟨rfl, rfl, fun _ _ _ => Layerwise.snoc⟩⟩

end SourcePlan

end Samara
