/-
  Samara.Terminals

  What the layers of one Source realization are called with, and when the
  realization ends exactly once.

  A layer fans one event out into a batch, and the layer above maps the whole
  batch even if its decoder refuses an event in the middle.  The batch behind
  the refused event is then mapped after a terminal event.
-/
import Samara.Layers

namespace Samara

/-! ## Calls of a layer -/

/-- One event given to a layer and the events the layer made of it.  The layer
    calls `push` on an item, `finish` on `Ended` and neither on `Failed`; a
    call that panics makes nothing. -/
structure LayerCall where
  given : SourceEventKind
  made : List SourceEventKind
  deriving DecidableEq

/-- A call that does not touch the ending of the Source. -/
def LayerCall.Calm (call : LayerCall) : Prop :=
  call.given.isTerminal = false ∧ ∀ kind ∈ call.made, kind.isTerminal = false

/-- There is at most one terminal event, and no event follows it. -/
def TerminalLast (kinds : List SourceEventKind) : Prop :=
  ∀ before kind after, kinds = before ++ kind :: after → kind.isTerminal = true → after = []

/-- `finish` is called at most once, and neither `push` nor `finish` after the
    layer has produced a terminal event. -/
structure Finalized (calls : List LayerCall) : Prop where
  once : (calls.filter (·.given = .ended)).length ≤ 1
  quiet : ∀ before call after, calls = before ++ call :: after →
    (∃ kind ∈ call.made, kind.isTerminal = true) → ∀ later ∈ after, later.given = .failed

theorem TerminalLast.of_append {left right : List SourceEventKind}
    (h : TerminalLast (left ++ right)) : TerminalLast left ∧ TerminalLast right := by
  constructor
  · rintro before kind after rfl hterminal
    have hafter := h before kind (after ++ right) (by simp) hterminal
    exact (List.append_eq_nil_iff.mp hafter).1
  · rintro before kind after rfl hterminal
    exact h (left ++ before) kind after (by simp) hterminal

theorem TerminalLast.nil_of_terminal {left right : List SourceEventKind}
    (h : TerminalLast (left ++ right)) (hleft : ∃ kind ∈ left, kind.isTerminal = true) :
    right = [] := by
  obtain ⟨kind, hmem, hterminal⟩ := hleft
  obtain ⟨before, after, rfl⟩ := List.append_of_mem hmem
  have hafter := h before kind (after ++ right) (by simp) hterminal
  exact (List.append_eq_nil_iff.mp hafter).2

theorem terminalLast_append {left right : List SourceEventKind}
    (hleft : ∀ kind ∈ left, kind.isTerminal = false) (hright : TerminalLast right) :
    TerminalLast (left ++ right) := by
  intro before kind after heq hterminal
  rcases List.append_eq_append_iff.mp heq with ⟨rest, rfl, hrest⟩ | ⟨rest, rfl, hrest⟩
  · exact hright rest kind after hrest hterminal
  · cases rest with
    | nil => exact hright [] kind after hrest.symm hterminal
    | cons first rest =>
        obtain ⟨rfl, -⟩ := List.cons.inj hrest
        have hcalm := hleft kind (by simp)
        rw [hterminal] at hcalm
        cases hcalm

theorem terminalLast_snoc {left : List SourceEventKind} (last : SourceEventKind)
    (hleft : ∀ kind ∈ left, kind.isTerminal = false) : TerminalLast (left ++ [last]) := by
  refine terminalLast_append hleft ?_
  rintro before kind after heq -
  cases before with
  | nil => exact (List.cons.inj heq).2.symm
  | cons first before => simp at heq

theorem terminalLast_of_calm {left : List SourceEventKind}
    (hleft : ∀ kind ∈ left, kind.isTerminal = false) : TerminalLast left := by
  intro before kind after heq hterminal
  have hcalm := hleft kind (by simp [heq])
  rw [hterminal] at hcalm
  cases hcalm

/-- Only the last call may touch the ending. -/
def CalmBut (calls : List LayerCall) : Prop := ∀ call ∈ calls.dropLast, call.Calm

theorem calmBut_nil : CalmBut [] := by
  intro call hcall
  cases hcall

theorem calmBut_append {left right : List LayerCall} (hleft : ∀ call ∈ left, call.Calm)
    (hright : CalmBut right) : CalmBut (left ++ right) := by
  intro call hcall
  rw [List.dropLast_append] at hcall
  split at hcall
  · exact hleft call (List.dropLast_subset _ hcall)
  · rcases List.mem_append.mp hcall with hmem | hmem
    · exact hleft call hmem
    · exact hright call hmem

/-- A call before the last is calm. -/
theorem CalmBut.of_split {before after : List LayerCall} {call : LayerCall}
    (h : CalmBut (before ++ call :: after)) (hafter : after ≠ []) : call.Calm := by
  apply h
  rw [List.dropLast_append_of_ne_nil (by simp), List.dropLast_cons_of_ne_nil hafter]
  simp

theorem CalmBut.finalized {calls : List LayerCall} (h : CalmBut calls) : Finalized calls where
  once := by
    rcases List.eq_nil_or_concat calls with rfl | ⟨before, last, rfl⟩
    · simp
    · have hnone : before.filter (·.given = .ended) = [] := by
        refine List.filter_eq_nil_iff.mpr fun call hcall => ?_
        have hcalm := (h call (by simpa using hcall)).1
        intro hended
        rw [decide_eq_true_eq] at hended
        rw [hended] at hcalm
        cases hcalm
      rw [List.concat_eq_append, List.filter_append, hnone, List.nil_append]
      exact List.length_filter_le _ [last]
  quiet := by
    rintro before call after rfl ⟨kind, hmem, hterminal⟩ later hlater
    have hcalm := (h.of_split (List.ne_nil_of_mem hlater)).2 kind hmem
    rw [hterminal] at hcalm
    cases hcalm

theorem Finalized.of_append {left right : List LayerCall} (h : Finalized (left ++ right)) :
    Finalized left ∧ Finalized right := by
  have hlength : ((left ++ right).filter (·.given = .ended)).length =
      (left.filter (·.given = .ended)).length + (right.filter (·.given = .ended)).length := by
    rw [List.filter_append, List.length_append]
  have honce := h.once
  constructor
  · refine ⟨by omega, ?_⟩
    rintro before call after rfl hmade later hlater
    exact h.quiet before call (after ++ right) (by simp) hmade later (by simp [hlater])
  · refine ⟨by omega, ?_⟩
    rintro before call after rfl hmade
    exact h.quiet (left ++ before) call after (by simp) hmade

/-! ## Layers -/

variable [RustTypes]

/-- The kinds of a batch. -/
def kinds (events : List ErasedSourceEvent) : List SourceEventKind := events.map (·.kind)

namespace FramedLayer

/-- The calls of a layer over a batch; a panic is the last of them. -/
def calls : List ErasedSourceEvent → FramedLayer → List LayerCall
  | [], _ => []
  | event :: events, layer =>
      match (mapEvent event).run layer with
      | .error _ _ => [⟨event.kind, []⟩]
      | .ok outer layer => ⟨event.kind, kinds outer⟩ :: calls events layer

/-- `Decoder::push` returns an error on the chunk of `event`. -/
def Refuses (layer : FramedLayer) (event : ErasedSourceEvent) : Prop :=
  ∃ chunk state error, event.downcast layer.inputType = some (.item chunk) ∧
    RustTypes.decoderPush layer.decoderType layer.descriptor.2 layer.state chunk =
      (state, .ok (.error error))

/-- The decoder refuses no event of the batch but the last. -/
def RefusesLast : List ErasedSourceEvent → FramedLayer → Prop
  | [], _ => True
  | event :: events, layer => (events ≠ [] → ¬ layer.Refuses event) ∧
      match (mapEvent event).run layer with
      | .error _ _ => True
      | .ok _ layer => RefusesLast events layer

end FramedLayer

/-- The calls of every layer while a batch goes through all of them. -/
def layerCalls : List ErasedSourceEvent → List FramedLayer → List (List LayerCall)
  | _, [] => []
  | events, layer :: layers => layer.calls events ::
      match (FramedLayer.mapEvents events).run layer with
      | .error _ _ => []
      | .ok outer _ => layerCalls outer layers

/-- No decoder refuses an event of a batch handed to it but the last. -/
def OrderlyLayers : List ErasedSourceEvent → List FramedLayer → Prop
  | _, [] => True
  | events, layer :: layers => layer.RefusesLast events ∧
      match (FramedLayer.mapEvents events).run layer with
      | .error _ _ => True
      | .ok outer _ => OrderlyLayers outer layers

/-! ## Realizations -/

/-- What one terminal event did: the outer events handed to the mapper and the
    calls of every layer. -/
structure Pass where
  outer : List SourceEventKind
  calls : List (List LayerCall)

/-- `raw_terminal || outer_events.iter().any(..)`. -/
def ErasedSourceEvent.ends (event : ErasedSourceEvent) (outer : List ErasedSourceEvent) : Bool :=
  event.isTerminal || outer.any (·.isTerminal)

namespace SourcePlan

/-- The passes of one realization: nothing is mapped after an event that ends
    it, nor after a panic. -/
def passes : List ErasedSourceEvent → SourcePlan → List Pass
  | [], _ => []
  | event :: events, plan =>
      match (mapEvent event).run plan with
      | .error _ _ => [⟨[], layerCalls [event] plan.layers⟩]
      | .ok outer plan' => ⟨kinds outer, layerCalls [event] plan.layers⟩ ::
          if event.ends outer then [] else passes events plan'

/-- The plan after these events, and whether it still takes events. -/
def after : List ErasedSourceEvent → SourcePlan → SourcePlan × Bool
  | [], plan => (plan, true)
  | event :: events, plan =>
      match (mapEvent event).run plan with
      | .error _ plan' => (plan', true)
      | .ok outer plan' => if event.ends outer then (plan', false) else after events plan'

/-- No layer panics on these events. -/
def Returns : List ErasedSourceEvent → SourcePlan → Prop
  | [], _ => True
  | event :: events, plan =>
      match (mapEvent event).run plan with
      | .error _ _ => False
      | .ok outer plan' => event.ends outer = false → Returns events plan'

/-- No decoder refuses an event of a batch but the last, as long as the
    realization takes events. -/
def Orderly : List ErasedSourceEvent → SourcePlan → Prop
  | [], _ => True
  | event :: events, plan => OrderlyLayers [event] plan.layers ∧
      match (mapEvent event).run plan with
      | .error _ _ => True
      | .ok outer plan' => event.ends outer = false → Orderly events plan'

end SourcePlan

/-- The outer events of a history, in the order the mapper gets them. -/
def outerKinds (passes : List Pass) : List SourceEventKind := passes.flatMap (·.outer)

/-- The calls of one layer in a history. -/
def callsOf (layer : Nat) (passes : List Pass) : List LayerCall :=
  passes.flatMap fun pass => pass.calls.getD layer []

/-- The realization ends at most once, for the mapper and in every layer. -/
structure EndsOnce (passes : List Pass) : Prop where
  outer : TerminalLast (outerKinds passes)
  layers : ∀ layer, Finalized (callsOf layer passes)

/-! ## One batch -/

namespace FramedLayer

variable {layer layer' : FramedLayer} {event : ErasedSourceEvent}
  {events outer : List ErasedSourceEvent}

/-- Decoded frames become items, before the ending of the batch. -/
theorem kinds_decoded (layer : FramedLayer)
    (ending : List (SourceEvent (Val layer.outputType.item) layer.outputType.error.Val))
    (frames : List (Val (RustTypes.decoderFrame layer.decoderType))) :
    kinds ((layer.decoded ending (.ok frames)).map (ErasedSourceEvent.mk layer.outputType)) =
      (frames.map fun _ => SourceEventKind.item) ++ ending.map .of := by
  induction frames with
  | nil =>
      show (ending.map (ErasedSourceEvent.mk layer.outputType)).map (·.kind) = _
      rw [List.map_map]
      rfl
  | cons frame frames ih => exact congrArg (SourceEventKind.item :: ·) ih

/-- A layer makes no terminal event of an item its decoder takes, and one
    terminal event, at the end, of any other event. -/
theorem mapEvent_cases (h : (mapEvent event).run layer = .ok outer layer') :
    (event.isTerminal = false ∧ ¬ layer.Refuses event ∧
        ∀ kind ∈ kinds outer, kind.isTerminal = false) ∨
      ((event.isTerminal = true ∨ layer.Refuses event) ∧ ∃ items last,
        kinds outer = items ++ [last] ∧ (∀ kind ∈ items, kind.isTerminal = false) ∧
          last.isTerminal = true) := by
  unfold mapEvent EStateM.run at h
  dsimp only at h
  split at h
  · cases h
  rename_i typed hdowncast
  have hevent := ErasedSourceEvent.downcast_eq_some hdowncast
  cases typed with
  | item chunk =>
      cases hpush : RustTypes.decoderPush layer.decoderType layer.descriptor.2 layer.state
          chunk with
      | mk state pushed =>
          simp only [mapTypedEvent, hpush] at h
          rcases pushed with panic | error | frames
          · cases h
          · cases h
            have hrefuses : layer.Refuses event := ⟨chunk, state, error, hdowncast, hpush⟩
            exact .inr ⟨.inr hrefuses, [], .failed, rfl, by simp, rfl⟩
          · cases h
            refine .inl ⟨by rw [hevent]; rfl, ?_, ?_⟩
            · rintro ⟨chunk', state', error, hdowncast', hpush'⟩
              rw [hdowncast] at hdowncast'
              cases hdowncast'
              rw [hpush] at hpush'
              cases hpush'
            · rw [kinds_decoded]
              simp [SourceEventKind.isTerminal]
  | failed error =>
      cases h
      exact .inr ⟨.inl (by rw [hevent]; rfl), [], .failed, rfl, by simp, rfl⟩
  | ended =>
      cases hfinish : RustTypes.decoderFinish layer.decoderType layer.descriptor.2 layer.state with
      | mk state finished =>
          simp only [mapTypedEvent, hfinish] at h
          have hended : event.isTerminal = true := by
            rw [hevent]
            rfl
          rcases finished with panic | error | frames
          · cases h
          · cases h
            exact .inr ⟨.inl hended, [], .failed, rfl, by simp, rfl⟩
          · cases h
            refine .inr ⟨.inl hended, frames.map fun _ => .item, .ended, kinds_decoded _ _ _,
              ?_, rfl⟩
            simp [SourceEventKind.isTerminal]

/-- The first call of a batch and the calls after it. -/
theorem calls_cons {head : List ErasedSourceEvent} {middle : FramedLayer}
    (h : (mapEvent event).run layer = .ok head middle) :
    layer.calls (event :: events) = ⟨event.kind, kinds head⟩ :: middle.calls events := by
  show (match (mapEvent event).run layer with | .error _ _ => _ | .ok _ _ => _) = _
  rw [h]

theorem refusesLast_cons {head : List ErasedSourceEvent} {middle : FramedLayer}
    (h : (mapEvent event).run layer = .ok head middle) :
    layer.RefusesLast (event :: events) ↔
      (events ≠ [] → ¬ layer.Refuses event) ∧ middle.RefusesLast events := by
  show _ ∧ (match (mapEvent event).run layer with | .error _ _ => _ | .ok _ _ => _) ↔ _
  rw [h]

/-- On a batch that ends at its last event, with a decoder that refuses at most
    the last, the layer does nothing after its own ending. -/
theorem mapEvents_orderly (hlast : TerminalLast (kinds events))
    (horderly : layer.RefusesLast events) : CalmBut (layer.calls events) ∧
      ∀ outer layer', (mapEvents events).run layer = .ok outer layer' →
        TerminalLast (kinds outer) := by
  induction events generalizing layer with
  | nil =>
      constructor
      · intro call hcall
        cases hcall
      · intro outer layer' h
        cases h
        exact terminalLast_of_calm (by simp [kinds])
  | cons event events ih =>
      have hwhole : TerminalLast ([event.kind] ++ kinds events) := hlast
      have hrest := hwhole.of_append.2
      cases hevent : (mapEvent event).run layer with
      | error panic middle =>
          have hcalls : layer.calls (event :: events) = [⟨event.kind, []⟩] := by
            show (match (mapEvent event).run layer with | .error _ _ => _ | .ok _ _ => _) = _
            rw [hevent]
          constructor
          · rw [hcalls]
            intro call hcall
            cases hcall
          · intro outer layer' h
            obtain ⟨head, middle', tail, hhead, -, -⟩ := mapEvents_cons.mp h
            rw [hevent] at hhead
            cases hhead
      | ok head middle =>
          obtain ⟨hfirst, hmiddle⟩ := (refusesLast_cons hevent).mp horderly
          obtain ⟨hcalm, htail⟩ := ih hrest hmiddle
          rw [calls_cons hevent]
          by_cases hnil : events = []
          · subst hnil
            constructor
            · intro call hcall
              cases hcall
            · intro outer layer' h
              obtain ⟨head', middle', tail, hhead, hmore, rfl⟩ := mapEvents_cons.mp h
              rw [hevent] at hhead
              cases hhead
              cases hmore
              rw [List.append_nil]
              rcases mapEvent_cases hevent with
                ⟨-, -, hquiet⟩ | ⟨-, items, last, hmade, hitems, -⟩
              · exact terminalLast_of_calm hquiet
              · rw [hmade]
                exact terminalLast_snoc last hitems
          · have hgiven : event.isTerminal = false := by
              by_contra hterminal
              have hnone := hlast [] event.kind (kinds events) rfl
                (Bool.eq_true_of_not_eq_false hterminal)
              exact hnil (List.map_eq_nil_iff.mp hnone)
            rcases mapEvent_cases hevent with ⟨-, -, hquiet⟩ | ⟨hending, -⟩
            · constructor
              · show CalmBut ([_] ++ middle.calls events)
                refine calmBut_append (fun call hcall => ?_) hcalm
                rw [List.mem_singleton.mp hcall]
                exact ⟨hgiven, hquiet⟩
              · intro outer layer' h
                obtain ⟨head', middle', tail, hhead, hmore, rfl⟩ := mapEvents_cons.mp h
                rw [hevent] at hhead
                cases hhead
                rw [kinds, List.map_append]
                exact terminalLast_append hquiet (htail tail layer' hmore)
            · rcases hending with hterminal | hrefuses
              · rw [hgiven] at hterminal
                cases hterminal
              · exact absurd hrefuses (hfirst hnil)

/-- A batch of which nothing terminal comes did nothing terminal. -/
theorem mapEvents_calm (h : (mapEvents events).run layer = .ok outer layer')
    (hcalm : ∀ kind ∈ kinds outer, kind.isTerminal = false) :
    (∀ call ∈ layer.calls events, call.Calm) ∧
      ∀ kind ∈ kinds events, kind.isTerminal = false := by
  induction events generalizing layer outer with
  | nil =>
      constructor
      · intro call hcall
        cases hcall
      · intro kind hkind
        cases hkind
  | cons event events ih =>
      obtain ⟨head, middle, tail, hhead, htail, rfl⟩ := mapEvents_cons.mp h
      rw [kinds, List.map_append] at hcalm
      obtain ⟨hcalls, hkinds⟩ := ih htail fun kind hkind =>
        hcalm kind (List.mem_append_right _ hkind)
      have hquiet : ∀ kind ∈ kinds head, kind.isTerminal = false :=
        fun kind hkind => hcalm kind (List.mem_append_left _ hkind)
      have hgiven : event.isTerminal = false := by
        rcases mapEvent_cases hhead with
          ⟨hgiven, -, -⟩ | ⟨-, items, last, hmade, -, hterminal⟩
        · exact hgiven
        · have hlast := hquiet last (by simp [hmade])
          rw [hterminal] at hlast
          cases hlast
      rw [calls_cons hhead]
      constructor
      · rintro call (_ | ⟨_, hcall⟩)
        · exact ⟨hgiven, hquiet⟩
        · exact hcalls call hcall
      · rintro kind (_ | ⟨_, hkind⟩)
        · exact hgiven
        · exact hkinds kind hkind

/-- Conversely, a layer that ends once refuses at most the last event of its
    batch, and its batch ends at most at the last event. -/
theorem refusesLast_of_finalized (h : (mapEvents events).run layer = .ok outer layer')
    (hlast : TerminalLast (kinds outer)) (hfinal : Finalized (layer.calls events)) :
    layer.RefusesLast events ∧ TerminalLast (kinds events) := by
  induction events generalizing layer outer with
  | nil => exact ⟨trivial, terminalLast_of_calm (by simp [kinds])⟩
  | cons event events ih =>
      obtain ⟨head, middle, tail, hhead, htail, rfl⟩ := mapEvents_cons.mp h
      rw [kinds, List.map_append] at hlast
      rw [calls_cons hhead] at hfinal
      have hcalls : Finalized ([⟨event.kind, kinds head⟩] ++ middle.calls events) := hfinal
      obtain ⟨hrefuses, hevents⟩ := ih htail hlast.of_append.2 hcalls.of_append.2
      -- the event after an ending would be a further call or a further ending
      have hstop : (∃ kind ∈ kinds head, kind.isTerminal = true) → events = [] := by
        intro hmade
        have htailnil : tail = [] := List.map_eq_nil_iff.mp (hlast.nil_of_terminal hmade)
        by_contra hne
        obtain ⟨next, rest, rfl⟩ := List.exists_cons_of_ne_nil hne
        obtain ⟨second, between, more, hsecond, -, hsplit⟩ := mapEvents_cons.mp htail
        rw [calls_cons hsecond] at hfinal
        have hgiven : next.kind = .failed :=
          hfinal.quiet [] _ _ rfl hmade ⟨next.kind, kinds second⟩ (by simp)
        have hsecondnil : second = [] := by
          rw [htailnil] at hsplit
          exact (List.append_eq_nil_iff.mp hsplit.symm).1
        rcases mapEvent_cases hsecond with ⟨hitem, -, -⟩ | ⟨-, items, last, hlast', -, -⟩
        · rw [ErasedSourceEvent.isTerminal, hgiven] at hitem
          cases hitem
        · rw [hsecondnil] at hlast'
          simp [kinds] at hlast'
      rw [refusesLast_cons hhead]
      rcases mapEvent_cases hhead with
        ⟨hgiven, hnot, -⟩ | ⟨-, items, last, hmade, -, hterminal⟩
      · refine ⟨⟨fun _ => hnot, hrefuses⟩, ?_⟩
        show TerminalLast ([event.kind] ++ kinds events)
        refine terminalLast_append (fun kind hkind => ?_) hevents
        rw [List.mem_singleton.mp hkind]
        exact hgiven
      · have hnil := hstop ⟨last, by simp [hmade], hterminal⟩
        subst hnil
        refine ⟨⟨fun hne => absurd rfl hne, hrefuses⟩, ?_⟩
        show TerminalLast ([] ++ [event.kind])
        exact terminalLast_snoc event.kind (by simp)

end FramedLayer

/-! ## All layers -/

section Layers

variable {layers layers' : List FramedLayer} {events outer : List ErasedSourceEvent}

theorem layerCalls_cons {layer layer' : FramedLayer} {middle : List ErasedSourceEvent}
    (h : (FramedLayer.mapEvents events).run layer = .ok middle layer') :
    layerCalls events (layer :: layers) = layer.calls events :: layerCalls middle layers := by
  show _ :: (match (FramedLayer.mapEvents events).run layer with
    | .error _ _ => _ | .ok _ _ => _) = _
  rw [h]

theorem orderlyLayers_cons {layer layer' : FramedLayer} {middle : List ErasedSourceEvent}
    (h : (FramedLayer.mapEvents events).run layer = .ok middle layer') :
    OrderlyLayers events (layer :: layers) ↔
      layer.RefusesLast events ∧ OrderlyLayers middle layers := by
  show _ ∧ (match (FramedLayer.mapEvents events).run layer with
    | .error _ _ => _ | .ok _ _ => _) ↔ _
  rw [h]

theorem layerCalls_orderly (hlast : TerminalLast (kinds events))
    (horderly : OrderlyLayers events layers) :
    (∀ layer, CalmBut ((layerCalls events layers).getD layer [])) ∧
      ∀ outer layers', Layerwise layers events outer layers' → TerminalLast (kinds outer) := by
  induction layers generalizing events with
  | nil =>
      constructor
      · intro layer
        exact calmBut_nil
      · intro outer layers' h
        cases h
        exact hlast
  | cons layer layers ih =>
      obtain ⟨hcalls, hmapped⟩ := FramedLayer.mapEvents_orderly hlast horderly.1
      cases hlayer : (FramedLayer.mapEvents events).run layer with
      | error panic layer' =>
          have hnone : layerCalls events (layer :: layers) = [layer.calls events] := by
            show _ :: (match (FramedLayer.mapEvents events).run layer with
              | .error _ _ => _ | .ok _ _ => _) = _
            rw [hlayer]
          constructor
          · rintro (_ | index)
            · rw [hnone]
              exact hcalls
            · rw [hnone]
              exact calmBut_nil
          · intro outer layers' h
            cases h with
            | cons hlayer' hlayers' =>
                rw [hlayer] at hlayer'
                cases hlayer'
      | ok middle layer' =>
          obtain ⟨hrest, houter⟩ := ih (hmapped middle layer' hlayer)
            ((orderlyLayers_cons hlayer).mp horderly).2
          constructor
          · rw [layerCalls_cons hlayer]
            rintro (_ | index)
            · exact hcalls
            · exact hrest index
          · intro outer layers' h
            cases h with
            | cons hlayer' hlayers' =>
                rw [hlayer] at hlayer'
                cases hlayer'
                exact houter outer _ hlayers'

theorem layerCalls_calm (h : Layerwise layers events outer layers')
    (hcalm : ∀ kind ∈ kinds outer, kind.isTerminal = false) :
    (∀ layer, ∀ call ∈ (layerCalls events layers).getD layer [], call.Calm) ∧
      ∀ kind ∈ kinds events, kind.isTerminal = false := by
  induction h with
  | nil events =>
      refine ⟨fun layer call hcall => ?_, hcalm⟩
      cases hcall
  | cons hlayer hlayers ih =>
      obtain ⟨hrest, hmiddle⟩ := ih hcalm
      obtain ⟨hcalls, hevents⟩ := FramedLayer.mapEvents_calm hlayer hmiddle
      refine ⟨?_, hevents⟩
      rw [layerCalls_cons hlayer]
      rintro (_ | index)
      · exact hcalls
      · exact hrest index

theorem orderlyLayers_of_finalized (h : Layerwise layers events outer layers')
    (hlast : TerminalLast (kinds outer))
    (hfinal : ∀ layer, Finalized ((layerCalls events layers).getD layer [])) :
    OrderlyLayers events layers ∧ TerminalLast (kinds events) := by
  induction h with
  | nil events => exact ⟨trivial, hlast⟩
  | cons hlayer hlayers ih =>
      rw [layerCalls_cons hlayer] at hfinal
      obtain ⟨hrest, hmiddle⟩ := ih hlast fun layer => hfinal (layer + 1)
      obtain ⟨hrefuses, hevents⟩ :=
        FramedLayer.refusesLast_of_finalized hlayer hmiddle (hfinal 0)
      exact ⟨(orderlyLayers_cons hlayer).mpr ⟨hrefuses, hrest⟩, hevents⟩

end Layers

/-! ## One realization -/

namespace SourcePlan

variable {plan plan' : SourcePlan} {event : ErasedSourceEvent}
  {events outer : List ErasedSourceEvent}

theorem terminalLast_single (event : ErasedSourceEvent) : TerminalLast (kinds [event]) := by
  show TerminalLast ([] ++ [event.kind])
  exact terminalLast_snoc event.kind (by simp)

theorem passes_cons (h : (mapEvent event).run plan = .ok outer plan') :
    plan.passes (event :: events) = ⟨kinds outer, layerCalls [event] plan.layers⟩ ::
      if event.ends outer then [] else plan'.passes events := by
  show (match (mapEvent event).run plan with | .error _ _ => _ | .ok _ _ => _) = _
  rw [h]

theorem passes_panic {panic : Panic} (h : (mapEvent event).run plan = .error panic plan') :
    plan.passes (event :: events) = [⟨[], layerCalls [event] plan.layers⟩] := by
  show (match (mapEvent event).run plan with | .error _ _ => _ | .ok _ _ => _) = _
  rw [h]

theorem orderly_cons (h : (mapEvent event).run plan = .ok outer plan') :
    plan.Orderly (event :: events) ↔ OrderlyLayers [event] plan.layers ∧
      (event.ends outer = false → plan'.Orderly events) := by
  show _ ∧ (match (mapEvent event).run plan with | .error _ _ => _ | .ok _ _ => _) ↔ _
  rw [h]

theorem returns_cons (h : (mapEvent event).run plan = .ok outer plan') :
    plan.Returns (event :: events) ↔ (event.ends outer = false → plan'.Returns events) := by
  show (match (mapEvent event).run plan with | .error _ _ => _ | .ok _ _ => _) ↔ _
  rw [h]

theorem calm_of_not_ends (h : event.ends outer = false) :
    ∀ kind ∈ kinds outer, kind.isTerminal = false := by
  intro kind hkind
  obtain ⟨made, hmade, rfl⟩ := List.mem_map.mp hkind
  have hany := (Bool.or_eq_false_iff.mp h).2
  exact Bool.eq_false_iff.mpr fun hterminal => by
    rw [List.any_eq_false] at hany
    exact hany made hmade hterminal

/-- Orderly decoders end the realization once, panics included. -/
theorem calm_passes (h : plan.Orderly events) : TerminalLast (outerKinds (plan.passes events)) ∧
    ∀ layer, CalmBut (callsOf layer (plan.passes events)) := by
  induction events generalizing plan with
  | nil =>
      constructor
      · exact terminalLast_of_calm (by simp [passes, outerKinds])
      · intro layer
        exact calmBut_nil
  | cons event events ih =>
      obtain ⟨hcalls, hmapped⟩ := layerCalls_orderly (terminalLast_single event) h.1
      cases hevent : (mapEvent event).run plan with
      | error panic plan' =>
          rw [passes_panic hevent]
          constructor
          · exact terminalLast_of_calm (by simp [outerKinds])
          · intro layer
            show CalmBut (_ ++ [])
            rw [List.append_nil]
            exact hcalls layer
      | ok outer plan' =>
          obtain ⟨layers, hlayers, -⟩ := mapEvent_iff.mp hevent
          rw [passes_cons hevent]
          by_cases hends : event.ends outer = true
          · rw [if_pos hends]
            constructor
            · show TerminalLast (kinds outer ++ [])
              rw [List.append_nil]
              exact hmapped outer layers hlayers
            · intro layer
              show CalmBut (_ ++ [])
              rw [List.append_nil]
              exact hcalls layer
          · have hopen := Bool.eq_false_of_not_eq_true hends
            have hquiet := calm_of_not_ends hopen
            obtain ⟨houter, hrest⟩ := ih (((orderly_cons hevent).mp h).2 hopen)
            rw [if_neg hends]
            constructor
            · show TerminalLast (kinds outer ++ outerKinds (plan'.passes events))
              exact terminalLast_append hquiet houter
            · intro layer
              show CalmBut (_ ++ callsOf layer (plan'.passes events))
              exact calmBut_append ((layerCalls_calm hlayers hquiet).1 layer) (hrest layer)

theorem endsOnce_of_orderly (h : plan.Orderly events) : EndsOnce (plan.passes events) :=
  ⟨(calm_passes h).1, fun layer => ((calm_passes h).2 layer).finalized⟩

/-- A realization that ends once has orderly decoders. -/
theorem orderly_of_endsOnce (hreturns : plan.Returns events)
    (h : EndsOnce (plan.passes events)) : plan.Orderly events := by
  induction events generalizing plan with
  | nil => trivial
  | cons event events ih =>
      cases hevent : (mapEvent event).run plan with
      | error panic plan' =>
          have hpanics : ¬ plan.Returns (event :: events) := by
            show ¬ (match (mapEvent event).run plan with | .error _ _ => _ | .ok _ _ => _)
            rw [hevent]
            exact id
          exact absurd hreturns hpanics
      | ok outer plan' =>
          obtain ⟨layers, hlayers, -⟩ := mapEvent_iff.mp hevent
          rw [passes_cons hevent] at h
          have houter : TerminalLast (kinds outer ++ _) := h.outer
          have hcalls : ∀ layer,
              Finalized ((layerCalls [event] plan.layers).getD layer [] ++ _) := h.layers
          refine (orderly_cons hevent).mpr ⟨?_, fun hopen => ?_⟩
          · exact (orderlyLayers_of_finalized hlayers houter.of_append.1
              fun layer => (hcalls layer).of_append.1).1
          · rw [hopen] at houter hcalls
            have hreturns' := (returns_cons hevent).mp hreturns hopen
            refine ih hreturns' ⟨houter.of_append.2, fun layer => ?_⟩
            exact (hcalls layer).of_append.2

theorem after_cons (h : (mapEvent event).run plan = .ok outer plan') :
    plan.after (event :: events) =
      if event.ends outer then (plan', false) else plan'.after events := by
  show (match (mapEvent event).run plan with | .error _ _ => _ | .ok _ _ => _) = _
  rw [h]

end SourcePlan

end Samara
