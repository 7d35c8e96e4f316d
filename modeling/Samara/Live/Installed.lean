/-
  Samara.Live.Installed

  The mapper that is installed on a Source of a live runtime belongs to the
  realization it maps, in every run in which the Components keep what Drain
  retains for them.
-/
import Samara.Controlled.Startup
import Samara.Live.Handover
import Samara.Live.Mappers
import Samara.Live.Rounds

namespace Samara

open Exec (Triple)
open SubscriptionReconciler (lookup)

variable [RustTypes]

namespace Live

/-! ## Transitions -/

section Transitions

variable {owner : ComponentId → Prop} {id : ComponentId} {messageType : TypeId}

/-- `kernel` is stored, and the bookkeeping is current for the rows of its
    Component. -/
structure Poised (owner : ComponentId → Prop) (id : ComponentId) (messageType : TypeId)
    (kernel : ErasedComponentKernel) (core : Core) : Prop where
  agreed : Agreed owner core []
  current : ∀ source ∈ core.sources, source.stamp.component = id → core.Current source
  stored : core.program.component? id messageType = some kernel

theorem Poised.unmoved {kernel : ErasedComponentKernel} {core core' : Core}
    (h : Poised owner id messageType kernel core) (hunmoved : Unmoved core core') :
    Poised owner id messageType kernel core' := by
  refine ⟨h.agreed.unmoved hunmoved, ?_, by rw [hunmoved.program]; exact h.stored⟩
  intro source hsource hcomponent
  obtain ⟨old, hold, hseat, _⟩ := hunmoved.rows source hsource
  have hstamp : source.stamp = old.stamp := (Prod.mk.inj hseat).1
  rw [hstamp] at hcomponent
  exact Agreed.current_of_unmoved hunmoved hseat (h.current old hold hcomponent)

theorem Poised.triple {α : Type} {x : Owner α} (hx : Keeps x) {kernel : ErasedComponentKernel} :
    Triple (Poised owner id messageType kernel) x (fun _ => Poised owner id messageType kernel)
      (fun _ => Kept) :=
  hx.triple (fun _ _ h => h.unmoved) fun _ h => h.agreed.kept

/-- What a reconciliation has decided is owed. -/
structure Projected (owner : ComponentId → Prop) (id : ComponentId)
    (reconciled : Callback (Except SubscriptionId (List ErasedSubscriptionChange)))
    (core : Core) : Prop where
  kept : Kept core
  agreed : ∀ changes, reconciled = .ok (.ok changes) →
    Agreed owner core (changes.map fun change => (id, change))

theorem project_triple (kernel : ErasedComponentKernel) :
    Triple (Poised owner id messageType kernel)
      (onComponent id messageType kernel ErasedComponentKernel.reconcileSubscriptionsErased)
      (fun projected core =>
        Projected (fun component => owner component ∨ component = id) id projected.1 core ∧
          core.program.component? id messageType = some projected.2) (fun _ => Kept) := by
  intro core h
  have hstored {kernel' : ErasedComponentKernel} (hid : kernel'.id = kernel.id)
      (htype : kernel'.messageType = kernel.messageType) :
      (core.program.setComponent id messageType kernel').component? id messageType = some kernel' :=
    Program.component?_setComponent h.stored hid htype
  unfold onComponent ErasedComponentKernel.reconcileSubscriptionsErased EStateM.run
  dsimp only
  cases hdesired : kernel.desired with
  | error panic =>
      exact ⟨⟨h.agreed.kept.of_program _, fun _ hpanic => nomatch hpanic⟩, hstored rfl rfl⟩
  | ok desired =>
      dsimp only
      cases hresult : kernel.kernel.subscriptions.reconcile desired with
      | error duplicate =>
          exact ⟨⟨h.agreed.kept.of_program _, fun _ hrefused => nomatch hrefused⟩, hstored rfl rfl⟩
      | ok result =>
          obtain ⟨changes, reconciler⟩ := result
          refine ⟨⟨h.agreed.kept.of_program _, ?_⟩, hstored rfl rfl⟩
          intro owed howed
          cases howed
          exact h.agreed.reconciled h.stored rfl h.current hresult

theorem Projected.unmoved {reconciled : Callback (Except SubscriptionId (List ErasedSubscriptionChange))}
    {core core' : Core} (h : Projected owner id reconciled core) (hunmoved : Unmoved core core') :
    Projected owner id reconciled core' :=
  ⟨h.kept.unmoved hunmoved, fun changes howed => (h.agreed changes howed).unmoved hunmoved⟩

/-- The result of a reconciliation is looked at. -/
theorem uncaught_triple {kernel : ErasedComponentKernel}
    (reconciled : Callback (Except SubscriptionId (List ErasedSubscriptionChange))) :
    Triple (fun core => Projected owner id reconciled core ∧
        core.program.component? id messageType = some kernel)
      (uncaught reconciled)
      (fun result core => Projected owner id (.ok result) core ∧
        core.program.component? id messageType = some kernel) (fun _ => Kept) := by
  intro core h
  cases reconciled with
  | error panic => exact (h.1.unmoved (.observed rfl)).kept
  | ok result => exact h

theorem requireChanges_triple {work : TraceId}
    (result : Except SubscriptionId (List ErasedSubscriptionChange)) :
    Triple (Projected owner id (.ok result)) (requireChanges id work result)
      (fun changes core => Agreed owner core (changes.map fun change => (id, change)))
      (fun _ => Kept) := by
  intro core h
  cases result with
  | error duplicate => exact h.kept
  | ok changes => exact h.agreed changes rfl

theorem Agreed.mono {owner' : ComponentId → Prop} {core : Core} {owed : Owed}
    (h : Agreed owner core owed) (hsub : ∀ component, owner component → owner' component) :
    Agreed owner' core owed where
  kept := h.kept
  owners source hsource := hsub _ (h.owners source hsource)
  debtors component change hmem := hsub _ (h.debtors component change hmem)
  ids := h.ids
  sets := h.sets
  keys := h.keys
  once := h.once
  current := h.current
  fresh := h.fresh
  retains := h.retains
  installs := h.installs

/-- Nothing is owed, or the scope is cancelling and nothing will come of it. -/
def Rested (core : Core) : Prop :=
  Kept core ∧ (core.scope.phase = .cancelling ∨ Agreed (fun _ => True) core [])

theorem Agreed.rested {core : Core} (h : Agreed owner core []) : Rested core :=
  ⟨h.kept, .inr (h.mono fun _ _ => trivial)⟩

/-- What `is_cancelling` returns still holds. -/
theorem isCancelling_triple {P : Core → Prop}
    (hP : ∀ core core', P core → Unmoved core core' → P core') {E : Stop → Core → Prop} :
    Triple P isCancelling
      (fun cancelling core => P core ∧ (cancelling = true ↔ core.scope.phase = .cancelling)) E := by
  intro core h
  exact ⟨hP core core.turn h (.turned core), decide_eq_true_iff⟩

/-- The rest of `finish_transition` and of a round of `initialize`. -/
theorem carryOut_triple {work : TraceId} {changes : List ErasedSubscriptionChange}
    {rest : Owner Unit} (hrest : Triple (Agreed owner · []) rest (fun _ => Rested) (fun _ => Kept)) :
    Triple (fun core => Agreed owner core (changes.map fun change => (id, change)))
      (do
        if ← isCancelling then pure ()
        else do
          observeDrainCutoff
          applySubscriptionChanges id changes work
          rest)
      (fun _ => Rested) (fun _ => Kept) := by
  refine Exec.triple_bind (isCancelling_triple fun _ _ h => h.unmoved) fun cancelling => ?_
  refine Exec.triple_ite (fun hcancelling => ?_) fun _ => ?_
  · exact Exec.triple_pure fun core h => ⟨h.1.kept, .inl (h.2.mp hcancelling)⟩
  · have hcutoff := keeps_observeDrainCutoff.triple
      (P := fun core => Agreed owner core (changes.map fun change => (id, change)))
      (fun _ _ h => h.unmoved) fun _ h => h.kept
    refine Exec.triple_bind (Exec.triple_conseq hcutoff (fun _ h => h.1) (fun _ _ h => h)
      fun _ _ h => h) fun _ => ?_
    exact Exec.triple_bind (applySubscriptionChanges_triple changes) fun _ => hrest

theorem interpret_triple (component : ComponentId) (command : ErasedCommand) :
    Triple (Agreed owner · []) (interpret component command) (fun _ core => Agreed owner core [])
      (fun _ => Kept) :=
  (keeps_interpret component command).triple (fun _ _ h => h.unmoved) fun _ h => h.kept

/-- Interpretation begins unless the scope is cancelling. -/
theorem checked_triple {rest : Owner Unit}
    (hrest : Triple (Agreed owner · []) rest (fun _ => Rested) (fun _ => Kept)) :
    Triple (Agreed owner · [])
      (do
        if ← isCancelling then pure ()
        else rest)
      (fun _ => Rested) (fun _ => Kept) := by
  refine Exec.triple_bind (isCancelling_triple fun _ _ h => h.unmoved) fun cancelling => ?_
  refine Exec.triple_ite (fun _ => ?_) fun _ => ?_
  · exact Exec.triple_pure fun core h => h.1.rested
  · exact Exec.triple_conseq hrest (fun _ h => h.1) (fun _ _ h => h) fun _ _ h => h

theorem finishTransition_triple (kernel : ErasedComponentKernel) (work : TraceId)
    (command : ErasedCommand) :
    Triple (Poised (fun _ => True) id messageType kernel)
      (finishTransition id messageType kernel work command)
      (fun _ => Rested) (fun _ => Kept) := by
  refine Exec.triple_bind (isCancelling_triple fun _ _ h => h.unmoved) fun cancelling => ?_
  refine Exec.triple_ite (fun hcancelling => ?_) fun _ => ?_
  · exact Exec.triple_pure fun core h => h.1.agreed.rested
  · refine Exec.triple_bind (Exec.triple_conseq (Poised.triple keeps_observeDrainCutoff)
      (fun _ h => h.1) (fun _ _ h => h) fun _ _ h => h) fun _ => ?_
    refine Exec.triple_bind (Poised.triple (keeps_uncaught _)) fun _ => ?_
    refine Exec.triple_bind (project_triple kernel) fun projected => ?_
    refine Exec.triple_bind (uncaught_triple projected.1) fun result => ?_
    refine Exec.triple_bind (Exec.triple_conseq (requireChanges_triple result) (fun _ h => h.1)
      (fun _ _ h => h) fun _ _ h => h) fun changes => ?_
    refine carryOut_triple (checked_triple ?_)
    exact Exec.triple_conseq (interpret_triple id command) (fun _ h => h) (fun _ _ h => h.rested)
      fun _ _ h => h

end Transitions

/-! ## Events -/

/-- Nothing is owed, and the bookkeeping has for every row what that was
    activated for. -/
structure Full (core : Core) : Prop where
  agreed : Agreed (fun _ => True) core []
  current : ∀ source ∈ core.sources, core.Current source

namespace Full

variable {core core' : Core}

theorem unmoved (h : Full core) (hunmoved : Unmoved core core') : Full core' := by
  refine ⟨h.agreed.unmoved hunmoved, ?_⟩
  intro source hsource
  obtain ⟨old, hold, hseat, _⟩ := hunmoved.rows source hsource
  exact Agreed.current_of_unmoved hunmoved hseat (h.current old hold)

theorem triple {α : Type} {x : Owner α} (hx : Keeps x) : Triple Full x (fun _ => Full) (fun _ => Kept) :=
  hx.triple (fun _ _ h => h.unmoved) fun _ h => h.agreed.kept

/-- A computation after which only the rest matters. -/
theorem rests {x : Owner Unit} (hx : Keeps x) : Triple Full x (fun _ => Rested) (fun _ => Kept) :=
  Exec.triple_conseq (triple hx) (fun _ h => h) (fun _ _ h => h.agreed.rested) fun _ _ h => h

/-- A mapper is used that is installed, on events of its type. -/
theorem mapped (h : Full core) {source : ActiveSource} (hsource : source ∈ core.sources)
    (event : ErasedSourceEvent) {outer : List ErasedSourceEvent}
    (houter : ∀ mapped ∈ outer, mapped.type = source.subscription.sourceEventType)
    (messages : List ErasedValue) :
    Full (core.observed (.mapped source.stamp event source.subscription outer messages)) := by
  have hactivations : (core.observed (.mapped source.stamp event source.subscription outer
      messages)).activations = core.activations :=
    (Core.activations_observed _ _).trans (List.append_nil _)
  have hmappers : (core.observed (.mapped source.stamp event source.subscription outer
      messages)).mappers = core.mappers ++ [(source.stamp, source.subscription)] :=
    Core.mappers_observed _ _
  have hkept : Kept (core.observed (.mapped source.stamp event source.subscription outer
      messages)) := by
    refine ⟨?_, ?_, h.agreed.kept.distinct, ?_, ?_,
      downcasts_observed h.agreed.kept.downcasts houter⟩
    · rw [hactivations]
      exact h.agreed.kept.once
    · rw [hactivations]
      exact h.agreed.kept.issued
    · rw [hactivations]
      exact h.agreed.kept.installed
    · rw [hactivations, hmappers]
      intro mapper hmapper
      rcases List.mem_append.mp hmapper with hold | hnew
      · exact h.agreed.kept.used mapper hold
      · obtain ⟨origin, horigin, _, hserves⟩ := h.agreed.kept.installed source hsource
        rw [List.mem_singleton.mp hnew]
        exact ⟨origin, horigin, hserves⟩
  have hcurrent : ∀ row ∈ core.sources, (core.observed (.mapped source.stamp event
      source.subscription outer messages)).Current row := by
    intro row hrow origin horigin
    rw [hactivations] at horigin
    exact h.current row hrow origin horigin
  refine ⟨⟨hkept, h.agreed.owners, fun _ _ hnone => absurd hnone List.not_mem_nil, h.agreed.ids,
    h.agreed.sets, h.agreed.keys, h.agreed.once, fun row hrow _ => .inl (hcurrent row hrow),
    fun _ _ hnone => absurd hnone List.not_mem_nil, fun _ _ hnone => absurd hnone List.not_mem_nil,
    fun _ _ hnone => absurd hnone List.not_mem_nil⟩, hcurrent⟩

end Full

/-- A transition leaves the bookkeeping to the reconciliation after it. -/
theorem transitionErased_final (message : ErasedValue) (kernel : ErasedComponentKernel) :
    (Exec.final ((ErasedComponentKernel.transitionErased message).run kernel)).id = kernel.id ∧
      (Exec.final ((ErasedComponentKernel.transitionErased message).run kernel)).messageType =
        kernel.messageType ∧
      (Exec.final ((ErasedComponentKernel.transitionErased
        message).run kernel)).kernel.subscriptions.active = kernel.kernel.subscriptions.active := by
  unfold ErasedComponentKernel.transitionErased EStateM.run
  dsimp only
  cases message.downcast kernel.messageType with
  | none => exact ⟨rfl, rfl, rfl⟩
  | some typed =>
      dsimp only
      generalize kernel.kernel.component.update kernel.kernel.model typed = updated
      obtain ⟨model, result⟩ := updated
      cases result with
      | ok command => exact ⟨rfl, rfl, rfl⟩
      | error panic => exact ⟨rfl, rfl, rfl⟩

theorem transition_triple (message : QueuedMessage) (kernel : ErasedComponentKernel) :
    Triple (fun core => Full core ∧
        core.program.component? message.target message.targetMessageType = some kernel)
      (onComponent message.target message.targetMessageType kernel
        (ErasedComponentKernel.transitionErased message.message))
      (fun transitioned => Poised (fun _ => True) message.target message.targetMessageType
        transitioned.2) (fun _ => Kept) := by
  rintro core ⟨h, hkernel⟩
  obtain ⟨hid, htype, hbooks⟩ := transitionErased_final message.message kernel
  have hposed {kernel' : ErasedComponentKernel} (hid : kernel'.id = kernel.id)
      (htype : kernel'.messageType = kernel.messageType)
      (hbooks : kernel'.kernel.subscriptions.active = kernel.kernel.subscriptions.active) :
      Poised (fun _ => True) message.target message.targetMessageType kernel'
        { core with program :=
            core.program.setComponent message.target message.targetMessageType kernel' } := by
    have hsame := Program.books_setComponent hkernel hid hbooks
    refine ⟨h.agreed.of_books hsame, ?_, Program.component?_setComponent hkernel hid htype⟩
    intro source hsource _ origin horigin
    have hbefore := h.current source hsource origin horigin
    unfold Core.Books at hbefore ⊢
    rw [hsame]
    exact hbefore
  unfold onComponent EStateM.run
  unfold EStateM.run at hid htype hbooks
  dsimp only
  cases hrun : ErasedComponentKernel.transitionErased message.message kernel with
  | error panic kernel' =>
      rw [hrun] at hid htype hbooks
      exact hposed hid htype hbooks
  | ok command kernel' =>
      rw [hrun] at hid htype hbooks
      exact hposed hid htype hbooks

theorem deliverMessage_triple (message : QueuedMessage) :
    Triple Full (deliverMessage message) (fun _ => Rested) (fun _ => Kept) := by
  refine Exec.triple_bind (Full.triple keeps_nextWork) fun work => ?_
  intro core h
  rw [Exec.run_bind_ok (EStateM.run_get core)]
  cases hkernel : core.program.component? message.target message.targetMessageType with
  | none => exact h.agreed.kept
  | some kernel =>
      have hbegun : Unmoved core (core.observed (.transition message)) := .observed rfl
      have hobserved : (observe (.transition message)).run core =
          .ok () (core.observed (.transition message)) := rfl
      dsimp only
      rw [Exec.run_bind_ok hobserved]
      refine Exec.triple_bind (transition_triple message kernel) (fun transitioned => ?_) _
        ⟨h.unmoved hbegun, hkernel⟩
      refine Exec.triple_bind (Poised.triple (keeps_caught _ _ _ _ _)) fun command => ?_
      cases command with
      | none => exact Exec.triple_throw fun core h => h.agreed.kept
      | some command => exact finishTransition_triple transitioned.2 work command

theorem processMessage_triple (message : QueuedMessage) :
    Triple Full (processMessage message) (fun _ => Rested) (fun _ => Kept) := by
  refine Exec.triple_bind (Full.triple keeps_get) fun core => ?_
  cases message.source with
  | none => exact deliverMessage_triple message
  | some stamp =>
      exact Exec.triple_ite (fun _ => deliverMessage_triple message) fun _ =>
        Exec.triple_pure fun core h => h.agreed.rested

theorem processTimer_triple (timer : Nat) (message : QueuedMessage) :
    Triple Full (processTimer timer message) (fun _ => Rested) (fun _ => Kept) := by
  intro core h
  unfold processTimer
  rw [Exec.run_bind_ok (EStateM.run_get core)]
  cases core.timers.find? (·.id = timer) with
  | none => exact h.agreed.rested
  | some found =>
      have htaken : Unmoved core { core with timers := core.timers.eraseP (·.id = timer) } :=
        .of_rest rfl le_rfl
      exact processMessage_triple message _ (h.unmoved htaken)

theorem equals_descriptorType {left right : SourceDescriptorSnapshot} (h : left.Equals right) :
    left.descriptorType = right.descriptorType := by
  cases h
  rfl

theorem Serves.sourceEventType {subscription origin : ErasedRuntimeSubscription}
    (h : Serves subscription origin) : subscription.sourceEventType = origin.sourceEventType := by
  rcases h with rfl | hequals
  · rfl
  · exact congrArg DescriptorType.eventType (equals_descriptorType hequals)

theorem ActiveSource.terminalType_of_accepts (source : ActiveSource) {stamp : SourceStamp}
    {terminalType : DescriptorType TypeId} (h : source.accepts stamp terminalType = true) :
    source.plan.terminalType = terminalType :=
  of_decide_eq_true (Bool.and_eq_true_iff.mp h).2

/-- What the plan of a row makes of an event of its type has the type that the
    mapper takes. -/
theorem Kept.outer_type {core : Core} (h : Kept core) {source : ActiveSource}
    (hsource : source ∈ core.sources) {event : ErasedSourceEvent}
    (htype : event.type = source.plan.terminalType.eventType) {outer : List ErasedSourceEvent}
    {plan : SourcePlan} (hrun : (SourcePlan.mapEvent event).run source.plan = .ok outer plan) :
    ∀ mapped ∈ outer, mapped.type = source.subscription.sourceEventType := by
  obtain ⟨origin, _, hresumes, hserves⟩ := h.installed source hsource
  have hlowered := SourcePlan.produces_lower origin.subscription.wellTyped
    origin.subscription.descriptor
  have hproduces : origin.sourcePlan.Produces origin.descriptorType.terminalType
      origin.sourceEventType := ⟨hlowered.terminal, hlowered.chains⟩
  have hcurrent := hproduces.resumes hresumes
  rw [hcurrent.terminal] at htype
  rw [hserves.sourceEventType]
  rcases hcurrent.mapEvent htype with ⟨outer', plan', hmade, _, houter⟩ | ⟨panic, plan', hpanic, _⟩
  · rw [hmade] at hrun
    cases hrun
    exact houter
  · rw [hpanic] at hrun
    cases hrun

/-- The plan of a row moves on with the event that passes it. -/
theorem mapTerminalEvent_run (source : ActiveSource) (event : ErasedSourceEvent) (core : Core) :
    ∃ mapped plan, source.plan.Resumes plan ∧
      (∀ outer, mapped = .ok outer →
        (SourcePlan.mapEvent event).run source.plan = .ok outer plan) ∧
      (mapTerminalEvent source event).run core =
        .ok mapped (core.withSource source.stamp.generation ({ · with plan })) := by
  have hresumes := SourcePlan.resumes_mapEvent event source.plan
  unfold mapTerminalEvent EStateM.run
  unfold EStateM.run at hresumes
  dsimp only
  cases hrun : SourcePlan.mapEvent event source.plan with
  | ok outer plan =>
      rw [hrun] at hresumes
      exact ⟨.ok outer, plan, hresumes, fun _ heq => by cases heq; rfl, rfl⟩
  | error panic plan =>
      rw [hrun] at hresumes
      exact ⟨.error panic, plan, hresumes, nofun, rfl⟩

theorem withPlan_unmoved {core : Core} (h : Kept core) {source : ActiveSource}
    (hsource : source ∈ core.sources) {plan : SourcePlan} (hplan : source.plan.Resumes plan) :
    Unmoved core (core.withSource source.stamp.generation ({ · with plan })) := by
  refine .withSource core _ (fun _ => rfl) ?_ fun _ => id
  intro row hrow
  have hfound : core.sources.find? (·.stamp.generation = source.stamp.generation) =
      some source := Table.find?_of_nodup h.distinct hsource
  rw [hfound] at hrow
  cases hrow
  exact hplan

/-- A row whose plan has taken an event is the row still. -/
def Mapping (source : ActiveSource) (core : Core) : Prop :=
  Full core ∧ ∃ row ∈ core.sources, row.seat = source.seat

theorem caught_triple {α : Type} {source : ActiveSource} (result : Callback α)
    (component : ComponentId) (descriptorType : Option String) (work : TraceId) (reason : String) :
    Triple (Mapping source) (caught result component descriptorType work reason)
      (fun value core => Mapping source core ∧ result = .ok value) (fun _ => Kept) := by
  intro core h
  cases result with
  | ok value => exact ⟨h, rfl⟩
  | error panic => exact (h.1.unmoved (.observed rfl)).agreed.kept

theorem processSourceEvent_triple (stamp : SourceStamp) {terminalType : DescriptorType TypeId}
    {event : ErasedSourceEvent} (htyped : event.type = terminalType.eventType) :
    Triple Full (processSourceEvent stamp terminalType event) (fun _ => Rested) (fun _ => Kept) := by
  intro core h
  unfold processSourceEvent
  rw [Exec.run_bind_ok (EStateM.run_get core)]
  cases hfound : core.source? stamp.component stamp.subscription with
  | none => exact h.agreed.rested
  | some source =>
      have hsource : source ∈ core.sources := List.mem_of_find?_eq_some hfound
      dsimp only
      by_cases haccepts : (!source.accepts stamp terminalType) = true
      · rw [if_pos haccepts]
        exact h.agreed.rested
      · rw [if_neg haccepts]
        have hwork : nextWork.run core = .ok core.nextWork { core with nextWork := core.nextWork + 1 } :=
          rfl
        have hcounted : Full { core with nextWork := core.nextWork + 1 } :=
          h.unmoved (.of_rest rfl le_rfl)
        obtain ⟨mapped, plan, hplan, hmade, hrun⟩ :=
          mapTerminalEvent_run source event { core with nextWork := core.nextWork + 1 }
        have htype : event.type = source.plan.terminalType.eventType := by
          rw [source.terminalType_of_accepts (by simpa using haccepts)]
          exact htyped
        -- The row keeps its place while its plan takes the event.
        have hseats : (core.withSource source.stamp.generation ({ · with plan })).sources.map
            ActiveSource.seat = core.sources.map ActiveSource.seat := by
          refine Table.map_modifyFirst ?_ core.sources
          intro row _
          rfl
        have hmem : source.seat ∈ core.sources.map ActiveSource.seat := List.mem_map_of_mem hsource
        rw [← hseats] at hmem
        rw [Exec.run_bind_ok hwork, Exec.run_bind_ok hrun]
        refine Exec.triple_bind (caught_triple mapped _ _ _ _) (fun outer core₁ hcaught => ?_) _
          ⟨hcounted.unmoved (withPlan_unmoved hcounted.agreed.kept hsource hplan),
            List.mem_map.mp hmem⟩
        refine Exec.triple_bind (caught_triple _ _ _ _ _) (fun messages => ?_) core₁ hcaught.1
        have hused : Triple (fun core => Mapping source core ∧
            mapOuterEvents source.subscription outer = .ok messages)
            (observe (.mapped source.stamp event source.subscription outer messages))
            (fun _ => Full) (fun _ => Kept) := by
          rintro core' ⟨⟨h', row, hrow, hseat⟩, _⟩
          obtain ⟨hstamp, hsubscription⟩ := Prod.mk.inj hseat
          have hfed : ∀ mapped ∈ outer, mapped.type = row.subscription.sourceEventType := by
            rw [hsubscription]
            exact h.agreed.kept.outer_type hsource htype (hmade outer hcaught.2)
          have hfull := h'.mapped hrow event hfed messages
          rw [hstamp, hsubscription] at hfull
          exact hfull
        refine Exec.triple_bind hused fun _ => Exec.triple_ite (fun _ => ?_) fun _ => ?_
        · exact Exec.triple_bind (Full.triple (keeps_endSource source _)) fun _ =>
            Full.rests (keeps_sendMapped source messages)
        · exact Full.rests (keeps_sendMapped source messages)

theorem dispatch_triple {event : LiveEvent} (htyped : event.WellTyped) :
    Triple Full (dispatch event) (fun _ => Rested) (fun _ => Kept) := by
  cases event with
  | message message => exact processMessage_triple message
  | portIngress ingress =>
      cases ingress with
      | notification ingress => exact Full.rests (keeps_processPortNotification ingress)
      | request ingress => exact Full.rests (keeps_processPortRequest ingress)
  | sourceEvent stamp terminalType event => exact processSourceEvent_triple stamp htyped
  | effectOutcome effect outcome => exact Full.rests (keeps_processEffect effect outcome)
  | timerFired timer message => exact processTimer_triple timer message
  | shutdown mode => exact Full.rests keeps_beginDrain

/-! ## The end of the owner -/

section Endings

/-- Operations that wait learn something. -/
theorem Unmoved.of_waits {core core' : Core} (h : Waits core core') : Unmoved core core' := by
  refine .of_eq (congrArg Core.program h :) (congrArg Core.nextGeneration h :).ge ?_
    (congrArg Core.sources h :) ?_
  · exact congrArg (fun core : Core => core.journal.filter (·.isInstallation)) h
  · intro hphase
    have hscope : core'.scope = core.scope := (congrArg Core.scope h :)
    rw [hscope]
    exact hphase

theorem Ending.unmoved {core core' : Core} (h : Ending core core') : Unmoved core core' := by
  cases h with
  | turned => exact keeps_turn core
  | gateStopped hgate => exact .of_rest rfl le_rfl
  | cleared =>
      exact ⟨rfl, le_rfl, rfl, List.nil_sublist _,
        fun source hnone => absurd hnone List.not_mem_nil, id⟩
  | requestsDropped =>
      have hcleared : Unmoved core { core with requests := [] } := .of_rest rfl le_rfl
      exact IsTrans.trans _ _ _ hcleared (.of_waits (waits_dropRequests _ _))
  | joined hfinished => exact .of_rest rfl le_rfl
  | channelDropped =>
      have hcleared : Unmoved core (core.withScope { core.scope with channel := [] }) :=
        .of_eq rfl le_rfl rfl rfl id
      exact IsTrans.trans _ _ _ hcleared (.of_waits (waits_dropEvents _ _))

theorem keeps_cleanupAbort : Keeps cleanupAbort := fun core =>
  Exec.path_relates (fun core => refl core) (fun _ _ _ => IsTrans.trans _ _ _)
    (fun _ _ => Ending.unmoved) (cleanupAbort_path core)

theorem Kept.triple {α : Type} {x : Owner α} (hx : Keeps x) :
    Triple Kept x (fun _ => Kept) (fun _ => Kept) := hx.triple (fun _ _ h => h.unmoved) fun _ h => h

/-- A call of the scope changes no row. -/
theorem called_triple (call : ScopeCall) :
    Triple Kept (do
      turn
      modify fun core => core.withScope (core.scope.called call)) (fun _ => Kept) (fun _ => Kept) := by
  refine Exec.triple_bind (Kept.triple keeps_turn) fun _ => ?_
  exact fun core h => ⟨h.once, h.issued, h.distinct, h.installed, h.used, h.downcasts⟩

theorem failing_kept {P : Core → Prop} {action : Owner Unit} {Q : Unit → Core → Prop}
    (haction : Triple P action Q (fun _ => Kept)) : Triple P (failing action) Q (fun _ => Kept) :=
  failing_triple haction fun error => Exec.triple_bind (called_triple (.fault error)) fun _ =>
    Exec.triple_bind (Kept.triple keeps_cleanupAbort) fun _ => Exec.triple_throw fun _ h => h

theorem keeps_tryRecv : Keeps tryRecv := by
  refine Exec.leads_bind keeps_turn fun _ => Exec.leads_get fun core => ?_
  cases core.scope.channel with
  | nil => exact refl core
  | cons event channel =>
      have htaken : Unmoved core (core.withScope { core.scope with channel }) :=
        .of_eq rfl le_rfl rfl rfl id
      exact IsTrans.trans _ _ _ htaken (.observed rfl)

theorem keeps_tryJoinNext : Keeps tryJoinNext := by
  refine Exec.leads_bind keeps_turn fun _ => Exec.leads_get fun core => ?_
  cases core.finished with
  | nil => exact refl core
  | cons exit finished => exact .of_rest rfl le_rfl

end Endings

/-! ## Rounds of the owner -/

/-- The bookkeeping still has, for the Sources that Drain retains, what those
    were activated for: no Replace or Cancel has been passed over. -/
def Heeded (core : Core) : Prop :=
  core.scope.phase ≠ .cancelling →
    ∀ source ∈ core.sources, source.drainRetained = true → core.Current source

section Decidable

variable [DecidableEq SourceDescriptorSnapshot]

instance (core : Core) (component : ComponentId) (id : SubscriptionId)
    (snapshot : SourceDescriptorSnapshot) : Decidable (core.Books component id snapshot) :=
  decidable_of_iff (∀ book ∈ core.program.books, book.1 = component →
      (lookup book.2 id).any (·.descriptor = snapshot) = true) (by
    unfold Core.Books
    simp only [Option.any_eq_true, decide_eq_true_eq])

instance (core : Core) (source : ActiveSource) : Decidable (core.Current source) :=
  decidable_of_iff (∀ activation ∈ core.activations, activation.1 = source.stamp →
      core.Books source.stamp.component source.stamp.subscription activation.2.descriptorSnapshot)
    ⟨fun h origin horigin => h _ horigin rfl,
      fun h activation hmem hstamp => h activation.2 (by rw [← hstamp]; exact hmem)⟩

instance (core : Core) : Decidable (Heeded core) := by
  unfold Heeded
  infer_instance

end Decidable

/-- What holds where a round begins. -/
def Ready (core : Core) : Prop := Kept core ∧ (core.scope.phase = .cancelling ∨ Full core)

theorem Rested.ready {core : Core} (h : Rested core) (hheeded : Heeded core) : Ready core := by
  refine ⟨h.1, ?_⟩
  rcases h.2 with hcancelling | hagreed
  · exact .inl hcancelling
  · by_cases hphase : core.scope.phase = .cancelling
    · exact .inl hphase
    · refine .inr ⟨hagreed, ?_⟩
      intro source hsource
      by_cases hretained : source.drainRetained = true
      · exact hheeded hphase source hsource hretained
      · rcases hagreed.current source hsource (Bool.eq_false_of_not_eq_true hretained) with
          hcurrent | ⟨_, hnone, _⟩
        · exact hcurrent
        · exact absurd hnone List.not_mem_nil

theorem Ready.unmoved {core core' : Core} (h : Ready core) (hunmoved : Unmoved core core') :
    Ready core' :=
  ⟨h.1.unmoved hunmoved, h.2.imp hunmoved.cutoff fun hfull => hfull.unmoved hunmoved⟩

theorem keeps_drainFinished : Keeps drainFinished :=
  Exec.leads_bind keeps_turn fun _ => keeps_look fun _ => Exec.leads_pure _

theorem moves_drainFinished : Moves Step drainFinished :=
  moves_bind moves_turn fun _ => moves_bind moves_get fun _ => moves_pure _

/-- What a round keeps until it takes an event. -/
theorem Full.queued_triple {α : Type} {x : Owner α} (hkeeps : Keeps x)
    (hqueued : Triple Queued x (fun _ => Queued) fun _ => Queued) :
    Triple (fun core => Full core ∧ Queued core) x (fun _ core => Full core ∧ Queued core)
      (fun _ => Kept) :=
  Exec.triple_conseq (Exec.triple_and (Full.triple hkeeps) hqueued) (fun _ h => h) (fun _ _ h => h)
    fun _ _ h => h.1

/-- An event that is taken has the type of its Source. -/
theorem tryRecv_triple : Triple (fun core => Full core ∧ Queued core) tryRecv
    (fun event core => Full core ∧ ∀ taken, event = some taken → taken.WellTyped)
    (fun _ => Kept) := by
  have htyped : Triple Queued tryRecv
      (fun event _ => ∀ taken, event = some taken → taken.WellTyped) (fun _ _ => True) := by
    intro core hqueued
    rcases tryRecv_run core with ⟨_, hrun⟩ | ⟨event, channel, hchannel, hrun⟩
    · rw [hrun]
      exact nofun
    · rw [hrun]
      rintro taken ⟨⟩
      refine hqueued.turn.typed _ ?_
      rw [hqueued.turn.sent, hchannel]
      exact List.mem_append_right _ List.mem_cons_self
  exact Exec.triple_conseq (Exec.triple_and (Full.triple keeps_tryRecv) htyped) (fun _ h => h)
    (fun _ _ h => h) fun _ _ h => h.1

/-- A round leaves every row with a mapper that serves it. -/
theorem ownerRound_triple : Triple (fun core => Ready core ∧ Queued core) ownerRound
    (Exec.After Rested fun _ => Kept) (fun _ => Kept) := by
  have hagain {action : Owner Unit} (haction : Triple Full action (fun _ => Rested) (fun _ => Kept)) :
      Triple Full (do
        failing action
        pure none : Owner (Option Finish)) (Exec.After Rested fun _ => Kept) (fun _ => Kept) :=
    Exec.triple_bind (failing_kept haction) fun _ => Exec.triple_pure fun _ h => h
  have hlook := Exec.triple_and (isCancelling_triple (P := Ready) (E := fun _ => Kept)
    fun _ _ h => h.unmoved) (Queued.triple moves_isCancelling)
  refine Exec.triple_bind (Exec.triple_conseq hlook (fun _ h => h) (fun _ _ h => h)
    fun _ _ h => h.1) fun cancelling => ?_
  refine Exec.triple_ite (fun _ => ?_) fun hrunning => ?_
  · exact Exec.triple_pure fun core h => h.1.1.1
  · have hcutoff := failing_kept (Full.queued_triple keeps_observeDrainCutoff
      (Queued.triple moves_observeDrainCutoff))
    refine Exec.triple_bind (Exec.triple_conseq hcutoff (fun core h => ?_) (fun _ _ h => h)
      fun _ _ h => h) fun _ => ?_
    · exact ⟨h.1.1.2.resolve_left fun hphase => hrunning (h.1.2.mpr hphase), h.2⟩
    refine Exec.triple_bind (Full.queued_triple keeps_drainFinished
      (Queued.triple moves_drainFinished)) fun finished => ?_
    refine Exec.triple_ite (fun _ => ?_) fun _ => ?_
    · have hcleared : Triple (fun core => Full core ∧ Queued core)
          (modify fun core => { core with sources := [] } : Owner Unit)
          (fun _ => Kept) (fun _ => Kept) := by
        intro core h
        have hempty : Unmoved core { core with sources := [] } :=
          ⟨rfl, le_rfl, rfl, List.nil_sublist _, fun _ hnone => absurd hnone List.not_mem_nil, id⟩
        exact h.1.agreed.kept.unmoved hempty
      exact Exec.triple_bind hcleared fun _ => Exec.triple_bind (called_triple .close) fun _ =>
        Exec.triple_pure fun _ h => h
    · have hjoin : Triple Queued tryJoinNext (fun _ => Queued) (fun _ => Queued) := by
        intro core hqueued
        rcases tryJoinNext_run core with ⟨_, hrun⟩ | ⟨exit, finished, _, hrun⟩
        · rw [hrun]
          exact hqueued.turn
        · rw [hrun]
          exact hqueued.turn.same rfl rfl
      refine Exec.triple_bind (Full.queued_triple keeps_tryJoinNext hjoin) fun exit => ?_
      cases exit with
      | some exit =>
          exact Exec.triple_conseq (hagain (Full.rests (keeps_joinTask exit))) (fun _ h => h.1)
            (fun _ _ h => h) fun _ _ h => h
      | none =>
          refine Exec.triple_bind tryRecv_triple fun event => ?_
          cases event with
          | none => exact Exec.triple_pure fun _ h => h.1.agreed.rested
          | some event =>
              rintro core ⟨hfull, htyped⟩
              refine Exec.triple_bind (isCancelling_triple (P := Full) (E := fun _ => Kept)
                fun _ _ h => h.unmoved) (fun cancelling => ?_) core hfull
              refine Exec.triple_ite (fun _ => ?_) fun _ => ?_
              · exact Exec.triple_pure fun core h => h.1.agreed.kept
              · have hdispatched : Triple
                    (fun core => Full core ∧ (cancelling = true ↔ core.scope.phase = .cancelling)) (do
                      failing (dispatch event)
                      pure none : Owner (Option Finish)) (Exec.After Rested fun _ => Kept) (fun _ => Kept) :=
                  Exec.triple_conseq (hagain (dispatch_triple (htyped event rfl))) (fun _ h => h.1)
                    (fun _ _ h => h) fun _ _ h => h
                cases event with
                | shutdown mode =>
                    cases mode with
                    | cancel => exact Exec.triple_pure fun core h => h.1.agreed.kept
                    | drain => exact hdispatched
                | _ => exact hdispatched

section Runs

variable {program : Program} {bindings : Bindings} {schedule : List (List Activity)}

/-- A runtime that has not started owes nothing and has no row. -/
theorem Agreed.new (hdistinct : (program.components.map (·.id)).Nodup)
    (hactive : ∀ kernel ∈ program.components, kernel.kernel.subscriptions.active = [])
    (owner : ComponentId → Prop) : Agreed owner (Core.fresh program bindings schedule) [] where
  kept := ⟨List.nodup_nil, fun _ hnone => absurd hnone List.not_mem_nil, List.nodup_nil,
    fun _ hnone => absurd hnone List.not_mem_nil, fun _ hnone => absurd hnone List.not_mem_nil,
    fun _ hnone => absurd hnone List.not_mem_nil⟩
  owners _ hnone := absurd hnone List.not_mem_nil
  debtors _ _ hnone := absurd hnone List.not_mem_nil
  ids := by
    show (program.books.map (·.1)).Nodup
    unfold Program.books
    rw [List.map_map]
    exact hdistinct
  sets := by
    intro book hbook
    obtain ⟨kernel, hkernel, rfl⟩ := List.mem_map.mp hbook
    rw [hactive kernel hkernel]
    exact List.nodup_nil
  keys := List.nodup_nil
  once := List.nodup_nil
  current _ hnone := absurd hnone List.not_mem_nil
  fresh _ _ hnone := absurd hnone List.not_mem_nil
  retains _ _ hnone := absurd hnone List.not_mem_nil
  installs _ _ hnone := absurd hnone List.not_mem_nil

end Runs

end Live

end Samara

namespace Samara.Live

attribute [local instance] Sample.types

/-- Descriptors of the sample types are compared part by part. -/
def sampleDescriptors : (descriptorType : DescriptorType Unit) → DecidableEq descriptorType.Val
  | .custom _ => inferInstanceAs (DecidableEq Sample.Value)
  | .stream _ => inferInstanceAs (DecidableEq String)
  | .framed source _ =>
      have := sampleDescriptors source
      inferInstanceAs (DecidableEq (source.Val × Sample.Value))

instance sampleSnapshots : DecidableEq SourceDescriptorSnapshot
  | ⟨capability, type, descriptor⟩, ⟨capability', type', descriptor'⟩ =>
      if h : capability = capability' ∧ type = type' then
        have := sampleDescriptors type'
        decidable_of_iff (h.2 ▸ descriptor = descriptor') (by
          obtain ⟨rfl, rfl⟩ := h
          simp)
      else .isFalse fun heq => h (by
        cases heq
        exact ⟨rfl, rfl⟩)

/-- A Component that asks for another Source, under the same identity, from its
    first Message on. -/
def wavering : Component () where
  init := ((0 : Nat), .none)
  update := fun (model : Nat) _ => (model + 1, .ok .none)
  subscriptions := fun (model : Nat) => .ok [{ stdinLines ⟨"a"⟩ with
    descriptor := .plain (if model = 0 then 0 else 9) }]

def waveringProgram : Program :=
  ((((ProgramBuilder.new ⟨7⟩).source (.custom ())).component ⟨"prompt"⟩ wavering).build).toOption.get rfl

/-- Two Messages come in, and Drain begins. -/
def waveringDrain : List (List Activity) :=
  List.replicate 7 [] ++ [[
    .send (⟨⟨"prompt"⟩, ⟨7⟩⟩ : ComponentRef ()) (.plain 1),
    .send (⟨⟨"prompt"⟩, ⟨7⟩⟩ : ComponentRef ()) (.plain 1), .beginShutdown .drain]]

/-- The condition is needed.  Drain retains the Source, the first Message has
    its Replace passed over, and the second one retains: the mapper it installs
    is not for the Source that the realization was activated for. -/
theorem mapper_strays :
    (Exec.final (launch waveringProgram ⟨[], [stdinBinding]⟩ waveringDrain 3)).sources.map
        (fun source => (source.stamp, source.subscription.descriptorSnapshot)) =
      [(⟨⟨"prompt"⟩, ⟨"a"⟩, 0⟩, ⟨⟨0, ⟨7⟩⟩, .custom (), (.plain 9 : Sample.Value)⟩)] ∧
    (Exec.final (launch waveringProgram ⟨[], [stdinBinding]⟩ waveringDrain 3)).activations.map
        (fun activation => (activation.1, activation.2.descriptorSnapshot)) =
      [(⟨⟨"prompt"⟩, ⟨"a"⟩, 0⟩, ⟨⟨0, ⟨7⟩⟩, .custom (), (.plain 0 : Sample.Value)⟩)] :=
  ⟨by decide +kernel, by decide +kernel⟩

end Samara.Live
