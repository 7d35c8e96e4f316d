/-
  Samara.Controlled.Erasure

  Type erasure is sound in the controlled profile.  Wherever a run comes, what
  its tables box has the types that they record, and no operation stops at a
  downcast that the runtime expects to succeed.
-/
import Samara.Controlled.Blame

namespace Samara

open Exec (Stops Triple stops_bind triple_bind)
open Relation (ReflTransGen)

variable [RustTypes]

namespace Controlled

/-! ## Between two items of work -/

/-- A run that has not faulted, with no change of a reconciliation left. -/
structure Ready (builder : ProgramBuilder) (core : Core) : Prop where
  intact : core.fault = none
  upright : Upright builder core
  fitted : Fitted core []

namespace Ready

variable {builder : ProgramBuilder} {core core' : Core}

theorem passed (h : Ready builder core) (time : Duration) :
    Ready builder { core with now := time } :=
  ⟨h.intact, h.upright.passed time, settles_fitted.passed time h.fitted⟩

theorem worked (h : Ready builder core) {work : ScheduledWork} (hdue : core.nextDue = some work)
    {transitions : Nat} (hrun : (processWork work).run (core.popped work) = .ok transitions core') :
    Ready builder core' := by
  have htidies := settles_fitted.processWork h.intact h.fitted hdue
  rw [hrun] at htidies
  obtain ⟨hpath, hok, hfitted⟩ := htidies
  exact ⟨hok, h.upright.path (ReflTransGen.mono (fun _ _ => And.left) _ _ hpath), hfitted⟩

end Ready

/-! ## Work -/

section Work

variable {builder : ProgramBuilder} {core : Core} {work : ScheduledWork}

/-- A Message reaches the kernel it was addressed to, which takes it. -/
theorem excuses_deliver (h : Ready builder core) {message : QueuedMessage}
    (hdue : core.nextDue = some work) (hkind : work.kind = .message message)
    (hcurrent : ∀ stamp, message.source = some stamp → core.sourceStampIsCurrent stamp = true) :
    Excuses ((deliver message).run (core.popped work)) := by
  have hmem := (nextDue_eq_some hdue).1
  obtain ⟨kernel, hkernel⟩ := h.upright.addressed.messages work hmem message hkind
  have hfound : ((core.popped work).fired message).program.component? message.target
      message.targetMessageType = some kernel := by
    rw [Core.fired_program]
    exact hkernel
  have hfired : ((core.popped work).fired message).fault = none := by
    rw [Core.fired_fault]
    exact h.intact
  unfold deliver
  rw [Exec.run_bind_ok (run_fireTimer _ _), Exec.run_bind_ok (EStateM.run_get _)]
  dsimp only
  rw [hfound]
  dsimp only
  cases htransition : (ErasedComponentKernel.transitionErased message.message).run kernel with
  | error panic kernel' =>
      rw [EStateM.run_bind, run_onComponent_error htransition]
      obtain ⟨hid, htype, model, value, hpanic⟩ :=
        ErasedComponentKernel.transitionErased_error htransition
      have hstored : kernel' ∈ (((core.popped work).fired message).withComponent message.target
          message.targetMessageType kernel').program.components :=
        List.mem_of_find?_eq_some (Program.component?_setComponent hfound hid
          (congrArg RustTypes.componentMessage htype))
      exact .panicked (.update hstored model value hpanic)
  | ok command kernel' =>
      rw [Exec.run_bind_ok (run_onComponent_ok htransition)]
      cases command with
      | none =>
          obtain ⟨hmismatch, _⟩ := ErasedComponentKernel.transitionErased_none htransition
          exact absurd hmismatch (h.upright.typed.accepted hdue hkind hkernel)
      | some command =>
          obtain ⟨hid, htype⟩ := ErasedComponentKernel.transitionErased_ok htransition
          have hacts : Acts (.execution 1) core _ := ⟨h.intact, .messageDelivered work message
            kernel kernel' command hdue hkind hcurrent hkernel htransition⟩
          have hupright := h.upright.action hacts.2
          have hstored := Program.component?_setComponent hfound hid
            (congrArg RustTypes.componentMessage htype)
          dsimp only
          rw [Exec.run_bind_ok (run_pushChild _ _ _)]
          refine excuses_settle hfired hupright hstored ⟨rooted_traced_transition _ _ _ _, ?_⟩
          rw [ErasedComponentKernel.transitionErased_command htransition,
            (Program.component?_eq_some hkernel).2]
          exact ⟨kernel', hstored⟩

/-- The outer events of a plan pass the mapper that is installed. -/
theorem mapOuterEvents_error {subscription : ErasedRuntimeSubscription}
    {outer : List ErasedSourceEvent} {panic : Panic}
    (htypes : ∀ event ∈ outer, event.type = subscription.sourceEventType)
    (h : mapOuterEvents subscription outer = .error panic) :
    ∃ typed, subscription.subscription.map typed = .error panic := by
  induction outer with
  | nil => cases h
  | cons event outer ih =>
      unfold mapOuterEvents at h
      cases hmapped : subscription.mapEvent event with
      | error raised =>
          rw [hmapped] at h
          cases h
          exact ErasedRuntimeSubscription.mapEvent_error (htypes event List.mem_cons_self) hmapped
      | ok message =>
          cases hrest : mapOuterEvents subscription outer with
          | error raised =>
              rw [hmapped, hrest] at h
              cases h
              exact ih (fun later hlater => htypes later (List.mem_cons_of_mem _ hlater)) hrest
          | ok mapped =>
              rw [hmapped, hrest] at h
              cases h

/-- An event passes every Layer of its plan, and then the mapper of its Source. -/
theorem excuses_processSourceEvent (h : Ready builder core) {event : QueuedSourceEvent}
    (hdue : core.nextDue = some work) (hkind : work.kind = .sourceEvent event) :
    Excuses ((processSourceEvent event).run (core.popped work)) := by
  have htype := h.upright.tagged.events work (nextDue_eq_some hdue).1 event hkind
  have hpopped : (core.popped work).source? event.stamp.component event.stamp.subscription =
    core.source? event.stamp.component event.stamp.subscription := rfl
  unfold processSourceEvent
  rw [Exec.run_bind_ok (EStateM.run_get _)]
  dsimp only
  rw [hpopped]
  cases hsource : core.source? event.stamp.component event.stamp.subscription with
  | none => trivial
  | some source =>
      dsimp only
      split
      · trivial
      · rename_i haccepted
        have haccepts : Core.Accepts source event := by
          simpa [Core.Accepts, and_assoc] using haccepted
        have hmem := List.mem_of_find?_eq_some hsource
        have hproduces := (h.fitted.fits source hmem).produces
        have hterminal : event.event.type =
            source.subscription.descriptorType.terminalType.eventType := by
          rw [htype, ← haccepts.2.2, hproduces.terminal]
        rcases hproduces.mapEvent hterminal with
          ⟨outer, plan, hplan, _, houter⟩ | ⟨panic, plan, hplan, hraises⟩
        · refine stops_bind ?_ ?_
          · rw [run_mapTerminalEvent_ok hplan]
            trivial
          · intro mapped core₁ hrun
            rw [run_mapTerminalEvent_ok hplan] at hrun
            cases hrun
            refine stops_bind (excuses_callback ?_) ?_
            · intro panic hpanic
              obtain ⟨typed, hraised⟩ := mapOuterEvents_error houter hpanic
              -- The row has taken its plan further, under the same mapper.
              have hrow := @Table.find?_modifyFirst_self _ (ActiveSource.isOf
                source.stamp.component source.stamp.subscription) ({ · with plan })
                  (fun _ hrow => hrow) core.sources
              have hsame : core.source? source.stamp.component source.stamp.subscription =
                  some source := by
                obtain ⟨_, hcomponent, hsubscription⟩ := source?_eq_some hsource
                rw [hcomponent, hsubscription]
                exact hsource
              have hstored : { source with plan } ∈
                  ((core.popped work).withPlan source plan event.event outer).sources := by
                refine List.mem_of_find?_eq_some (hrow.trans ?_)
                unfold Core.source? at hsame
                rw [hsame]
                rfl
              exact @Raised.event _ _ { source with plan } hstored typed _ hraised
            · intro messages core₂ hmapped
              obtain ⟨_, rfl⟩ := callback_eq_ok hmapped
              rw [Exec.run_bind_ok (run_observe _ _), Exec.run_bind_ok (EStateM.run_modify _ _),
                Exec.run_bind_ok (run_scheduleMapped _ _ _ _)]
              trivial
        · rw [EStateM.run_bind, run_mapTerminalEvent_error hplan]
          exact .panicked (.decoder hraises)

theorem excuses_processWork (h : Ready builder core) (hdue : core.nextDue = some work) :
    Excuses ((processWork work).run (core.popped work)) := by
  unfold processWork
  cases hkind : work.kind with
  | sourceEvent event => exact excuses_processSourceEvent h hdue hkind
  | message message =>
      dsimp only
      unfold processMessage
      rw [Exec.run_bind_ok (EStateM.run_get _)]
      cases hsource : message.source with
      | none => exact excuses_deliver h hdue hkind (by simp [hsource])
      | some stamp =>
          dsimp only
          split
          · rename_i hcurrent
            refine excuses_deliver h hdue hkind fun other hother => ?_
            rw [hsource] at hother
            cases hother
            exact hcurrent
          · trivial

end Work

/-! ## Drives -/

section Drives

variable {builder : ProgramBuilder}

/-- A computation of a ready run leaves it ready, or stops with an excuse. -/
abbrev Readies {α : Type} (builder : ProgramBuilder) (x : Run α) : Prop :=
  Triple (Ready builder) x (fun _ => Ready builder) Excused

theorem readies_ensureNotFaulted : Readies builder ensureNotFaulted := by
  intro core h
  rw [run_ensureNotFaulted h.intact]
  exact h

theorem readies_report (transitions : Nat) : Readies builder (report transitions) := by
  intro core h
  exact h

theorem readies_drainInstant (fuel transitions : Nat) :
    Readies builder (drainInstant fuel transitions) := by
  induction fuel generalizing transitions with
  | zero => exact fun _ _ => .outOfFuel
  | succ fuel ih =>
      intro core h
      unfold drainInstant popNextDue
      simp only [bind_assoc]
      rw [Exec.run_bind_ok (EStateM.run_get _)]
      cases hdue : core.nextDue with
      | none => exact h
      | some work =>
          simp only [bind_assoc, pure_bind]
          rw [Exec.run_bind_ok (EStateM.run_set _ _), EStateM.run_bind]
          have hexcuses := excuses_processWork h hdue
          cases hrun : (processWork work).run (core.popped work) with
          | error stop core' =>
              rw [hrun] at hexcuses
              exact hexcuses
          | ok more core' =>
              have hready := h.worked hdue hrun
              dsimp only
              rw [Exec.run_bind_ok (run_ensureNotFaulted hready.intact)]
              exact ih _ core' hready

theorem readies_runUntilIdle (fuel : Nat) : Readies builder (runUntilIdle fuel) :=
  triple_bind readies_ensureNotFaulted fun _ =>
    triple_bind (readies_drainInstant fuel 0) readies_report

theorem readies_advanceLoop (fuel : Nat) (target : Duration) (rounds transitions : Nat) :
    Readies builder (advanceLoop fuel target rounds transitions) := by
  induction rounds generalizing transitions with
  | zero => exact fun _ _ => .outOfFuel
  | succ rounds ih =>
      intro core h
      unfold advanceLoop
      rw [Exec.run_bind_ok (EStateM.run_get _)]
      cases core.nextDeadline (some target) with
      | none => exact h
      | some next =>
          dsimp only
          rw [Exec.run_bind_ok (EStateM.run_set _ _)]
          exact triple_bind (readies_runUntilIdle fuel) (fun _ => ih _) _ (h.passed next)

theorem readies_advance (fuel : Nat) (duration : Duration) :
    Readies builder (advance fuel duration) := by
  refine triple_bind readies_ensureNotFaulted fun _ => ?_
  intro core h
  rw [Exec.run_bind_ok (EStateM.run_get _)]
  dsimp only
  cases Duration.checkedAdd core.now duration with
  | none => exact @excuses_failHarness _ RunReport core h.intact _ (by decide)
  | some target =>
      refine triple_bind (readies_runUntilIdle fuel) (fun first => ?_) core h
      refine triple_bind (readies_advanceLoop fuel target fuel _) fun transitions => ?_
      have hpassed : Readies builder (modify fun core => { core with now := target }) :=
        fun _ h => h.passed target
      refine triple_bind hpassed fun _ => ?_
      exact triple_bind (readies_runUntilIdle fuel) fun last => readies_report _

theorem readies_advanceToNext (fuel : Nat) : Readies builder (advanceToNext fuel) := by
  refine triple_bind readies_ensureNotFaulted fun _ => ?_
  refine triple_bind (readies_runUntilIdle fuel) fun first => ?_
  intro core h
  rw [Exec.run_bind_ok (EStateM.run_get _)]
  cases core.nextDeadline none with
  | none => exact @excuses_failHarness _ RunReport core h.intact _ (by decide)
  | some next =>
      dsimp only
      rw [Exec.run_bind_ok (EStateM.run_set _ _)]
      exact triple_bind (readies_runUntilIdle fuel) (fun last => readies_report _) _ (h.passed next)

end Drives

/-! ## Inputs -/

section Inputs

variable {core : Core}

theorem excuses_send (hok : core.fault = none) {component : TypeId}
    (target : ComponentRef component) (message : Val (RustTypes.componentMessage component)) :
    Excuses ((Controlled.send target message).run core) := by
  unfold Controlled.send
  rw [Exec.run_bind_ok (run_ensureNotFaulted hok), Exec.run_bind_ok (EStateM.run_get _)]
  dsimp only
  split
  · exact excuses_failHarness hok (by decide)
  · trivial

theorem excuses_enqueueSourceEvent (hok : core.fault = none) (source : ActiveSource)
    (terminalType : DescriptorType TypeId) (event : ErasedSourceEvent) :
    Excuses ((enqueueSourceEvent source terminalType event).run core) := by
  unfold enqueueSourceEvent
  split
  · exact excuses_failHarness hok (by decide)
  · trivial

theorem excuses_emitStream (hok : core.fault = none) (streamItem : TypeId)
    (stream : CapabilityToken) (item : Val streamItem) :
    Excuses ((Controlled.emitStream streamItem stream item).run core) := by
  unfold Controlled.emitStream
  rw [Exec.run_bind_ok (run_ensureNotFaulted hok), Exec.run_bind_ok (EStateM.run_get _)]
  split
  · exact excuses_failHarness hok (by decide)
  · split
    · exact excuses_failHarness hok (by decide)
    · split
      · exact excuses_enqueueSourceEvent hok _ _ _
      · exact excuses_failHarness hok (by decide)

theorem excuses_closeStream (hok : core.fault = none) (stream : CapabilityToken) :
    Excuses ((closeStream stream).run core) := by
  unfold closeStream
  rw [Exec.run_bind_ok (run_ensureNotFaulted hok), Exec.run_bind_ok (EStateM.run_get _)]
  split
  · exact excuses_failHarness hok (by decide)
  · split
    · exact excuses_failHarness hok (by decide)
    · split
      · exact excuses_enqueueSourceEvent hok _ _ _
      · exact excuses_failHarness hok (by decide)

theorem excuses_emitSource (hok : core.fault = none) {component : TypeId}
    (target : ComponentRef component) (id : SubscriptionId)
    (descriptorType : DescriptorType TypeId)
    (event : SourceEvent (Val descriptorType.item) descriptorType.error.Val) :
    Excuses ((emitSource target id descriptorType event).run core) := by
  unfold emitSource
  rw [Exec.run_bind_ok (run_ensureNotFaulted hok), Exec.run_bind_ok (EStateM.run_get _)]
  split
  · exact excuses_failHarness hok (by decide)
  · split
    · exact excuses_failHarness hok (by decide)
    · exact excuses_enqueueSourceEvent hok _ _ _

/-- The descriptor of a claimable effect is there, and of the type asked for. -/
theorem excuses_nextEffect (hok : core.fault = none) (htagged : Tagged core)
    (effectType : TypeId) : Excuses ((Controlled.nextEffect effectType).run core) := by
  unfold Controlled.nextEffect
  rw [Exec.run_bind_ok (run_ensureNotFaulted hok), Exec.run_bind_ok (EStateM.run_get _)]
  cases hentry : core.effects.find? (PendingEffectEntry.isClaimable effectType) with
  | none => exact excuses_failHarness hok (by decide)
  | some entry =>
      have hclaimable := List.find?_some hentry
      unfold PendingEffectEntry.isClaimable at hclaimable
      rw [Bool.and_eq_true, decide_eq_true_eq] at hclaimable
      obtain ⟨htype, hsome⟩ := hclaimable
      obtain ⟨descriptor, hdescriptor⟩ := Option.isSome_iff_exists.mp hsome
      have hboxed := htagged.descriptors entry (List.mem_of_find?_eq_some hentry) descriptor hdescriptor
      have hunboxed := ErasedValue.downcast_isSome.mpr (hboxed.trans htype)
      obtain ⟨intent, hintent⟩ := Option.isSome_iff_exists.mp hunboxed
      have hfound : entry.descriptor.bind (·.downcast effectType) = some intent := by
        rw [hdescriptor]
        exact hintent
      dsimp only
      rw [Exec.run_bind_ok (EStateM.run_set _ _), hfound]
      trivial

/-- The mapper of a completed effect is given an outcome of its type. -/
theorem excuses_complete (hok : core.fault = none) (howed : Owed core) {effectType : TypeId}
    (pending : PendingEffect effectType)
    (outcome : EffectOutcome (Val (RustTypes.effectOutput effectType))
      (Val (RustTypes.effectError effectType))) :
    Excuses ((complete pending outcome).run core) := by
  unfold complete
  rw [Exec.run_bind_ok (run_ensureNotFaulted hok), Exec.run_bind_ok (EStateM.run_get _)]
  split
  · exact excuses_failHarness hok (by decide)
  · cases hentry : core.effects.find? (PendingEffectEntry.isPending effectType pending.id) with
    | none => exact excuses_failHarness hok (by decide)
    | some entry =>
        have hpending := List.find?_some hentry
        unfold PendingEffectEntry.isPending at hpending
        rw [Bool.and_eq_true, decide_eq_true_eq, decide_eq_true_eq] at hpending
        have hdeclares := howed entry (List.mem_of_find?_eq_some hentry)
        dsimp only
        rw [Exec.run_bind_ok (EStateM.run_set _ _), Exec.run_bind_ok (run_pushRoot _ _)]
        cases hmapper : entry.mapper with
        | none => trivial
        | some mapper =>
            refine stops_bind (excuses_callback ?_) fun _ _ _ => trivial
            intro panic hpanic
            exact (hdeclares.raises hpending.2 hmapper hpanic).of_eq rfl rfl rfl

end Inputs

/-- An operation of a run that has not faulted stops with an excuse. -/
theorem excuses_perform {builder : ProgramBuilder} {core : Core} (h : Ready builder core)
    (operation : Operation) : Excuses ((perform operation).run core) := by
  have hok := h.intact
  have hreturns {α : Type} {x : Run α} {f : α → Returned} (hx : Excuses (x.run core)) :
      Excuses ((do let value ← x; pure (f value) : Run Returned).run core) :=
    stops_bind hx fun _ _ _ => trivial
  cases operation with
  | send target message => exact hreturns (excuses_send hok target message)
  | emitStream streamItem stream item => exact hreturns (excuses_emitStream hok streamItem stream item)
  | closeStream stream => exact hreturns (excuses_closeStream hok stream)
  | emitSource target id descriptorType event =>
      exact hreturns (excuses_emitSource hok target id descriptorType event)
  | nextEffect effectType => exact hreturns (excuses_nextEffect hok h.upright.tagged effectType)
  | complete pending outcome => exact hreturns (excuses_complete hok h.upright.owed pending outcome)
  | runUntilIdle fuel => exact hreturns ((readies_runUntilIdle fuel).stops h)
  | advance fuel duration => exact hreturns ((readies_advance fuel duration).stops h)
  | advanceToNext fuel => exact hreturns ((readies_advanceToNext fuel).stops h)

/-! ## Initialization -/

section Initialization

variable {builder : ProgramBuilder} {core : Core}

theorem excuses_initializeComponent (hok : core.fault = none) (hupright : Upright builder core)
    (id : ComponentId) (messageType : TypeId) :
    Excuses ((initializeComponent id messageType).run core) := by
  unfold initializeComponent
  rw [Exec.run_bind_ok (run_pushRoot _ _), Exec.run_bind_ok (EStateM.run_get _)]
  have hroot : (core.traced none (.initialization id)).Rooted core.nextTrace id :=
    ⟨_, List.getElem?_concat_length, Or.inl rfl⟩
  have hupright₀ := hupright.action (.initialized id)
  have hok₀ : (core.traced none (.initialization id)).fault = none := hok
  generalize core.traced none (.initialization id) = core₀ at hroot hupright₀ hok₀ ⊢
  cases hkernel : core₀.program.component? id messageType with
  | none => trivial
  | some kernel =>
      refine stops_bind (excuses_reconcileComponent hkernel) ?_
      rintro ⟨outcome, kernel₁⟩ core₁ hreconciled
      have hproceeds₁ := reconcileComponent_proceeds hok₀ hkernel
      rw [hreconciled] at hproceeds₁
      obtain ⟨hpath₁, hok₁, hkernel₁, hwarrants⟩ := hproceeds₁
      let taken : ErasedComponentKernel :=
        { kernel₁ with kernel := { kernel₁.kernel with initialCommand := none } }
      have htaken : ReflTransGen (Acts .projection) core₁ (core₁.withComponent id messageType taken) :=
        .single ⟨hok₁, .commandTaken id messageType kernel₁ hkernel₁⟩
      have hauthor₂ : (core₁.withComponent id messageType taken).Authors core.nextTrace id
          kernel₁.messageType := by
        refine ⟨(hroot.path hpath₁).path htaken, ?_⟩
        rw [(Program.component?_eq_some hkernel₁).2]
        exact Program.Hosts.of_shape (shape_eq_path htaken) ⟨_, hkernel₁⟩
      have hok₂ : (core₁.withComponent id messageType taken).fault = none := hok₁
      have hwarrants₂ := hwarrants.path htaken
      rw [Exec.run_bind_ok (run_onComponent_ok (run_takeInitialCommandErased _))]
      refine stops_bind (excuses_applyReconciled hok₂ hauthor₂.rooted hwarrants₂) ?_
      intro _ core₃ happlied
      have hproceeds₃ := applyReconciled_proceeds hok₂ hauthor₂.rooted hwarrants₂
      rw [happlied] at hproceeds₃
      obtain ⟨hpath₃, hok₃, _⟩ := hproceeds₃
      have hupright₃ := ((hupright₀.acts hpath₁).acts htaken).acts hpath₃
      cases kernel₁.kernel.initialCommand with
      | none => trivial
      | some command =>
          exact excuses_interpretDeclarations _ hok₃ hupright₃ (hauthor₂.path hpath₃)

theorem excuses_initializeComponents (components : List (ComponentId × TypeId))
    (hok : core.fault = none) (hupright : Upright builder core) :
    Excuses ((initializeComponents components).run core) := by
  induction components generalizing core with
  | nil => trivial
  | cons component components ih =>
      unfold initializeComponents
      refine stops_bind (excuses_initializeComponent hok hupright component.1 component.2) ?_
      intro _ core' hrun
      have hproceeds := initializeComponent_proceeds hok component.1 component.2
      rw [hrun] at hproceeds
      obtain ⟨hpath, hok', _⟩ := hproceeds
      exact ih hok' (hupright.path hpath)

end Initialization

/-! ## Runs -/

/-- A fault on record is not that of a Message of another type. -/
def Blameless (core : Core) : Prop := ∀ error, core.fault = some error → ¬ error.Misdelivers

/-- A result that returned, or stopped with an excuse, leaves no such fault. -/
theorem blameless_final {α : Type} {result : EStateM.Result Stop Core α} (hexcuses : Excuses result)
    (hreturns : Returns result) (hok : ∀ value core, result = .ok value core → core.fault = none) :
    Blameless (Exec.final result) := by
  intro error hfault
  cases result with
  | ok value core =>
      have hnone := hok value core rfl
      rw [Exec.final_ok, hnone] at hfault
      cases hfault
  | error stop core =>
      cases hexcuses with
      | panicked => exact hreturns.elim
      | outOfFuel => exact hreturns.elim
      | error hreason hrecorded =>
          rw [Exec.final_error] at hfault
          rcases hrecorded with hnone | hsome
          · rw [hnone] at hfault
            cases hfault
          · rw [hsome] at hfault
            cases hfault
            exact hreason

/-- A runtime comes up with an excuse if it faults while it is assembled. -/
theorem blameless_new {builder : ProgramBuilder} {program : Program} {bindings : Bindings}
    {core : Core} (hupright : Upright builder (Core.fresh program bindings))
    (h : Core.new program bindings = .ok core) : Blameless core := by
  have hexcuses := excuses_initializeComponents (initializationOrder program) rfl hupright
  have hproceeds := @initializeComponents_proceeds _ (Core.fresh program bindings)
    (initializationOrder program) rfl
  unfold Core.new at h
  generalize (initializeComponents (initializationOrder program)).run
    (Core.fresh program bindings) = result at h hexcuses hproceeds
  have hok (value : Unit) (core' : Core) (hresult : result = .ok value core') :
      core'.fault = none := by
    rw [hresult] at hproceeds
    exact hproceeds.2.1
  split at h
  · cases h
    exact blameless_final hexcuses trivial hok
  · cases h
    exact blameless_final hexcuses trivial hok
  · cases h

/-- A runtime that unwinds while it is assembled has met a panic of the
    application. -/
theorem raised_of_new {builder : ProgramBuilder} {program : Program} {bindings : Bindings}
    {panic : Panic} (hupright : Upright builder (Core.fresh program bindings))
    (h : Core.new program bindings = .error (.panicked panic)) :
    ∃ core, (initializeComponents (initializationOrder program)).run (Core.fresh program bindings) =
      .error (.panicked panic) core ∧ Raised core panic := by
  have hexcuses := excuses_initializeComponents (initializationOrder program) rfl hupright
  unfold Core.new at h
  cases hrun : (initializeComponents (initializationOrder program)).run
      (Core.fresh program bindings) with
  | ok value core =>
      rw [hrun] at h
      cases h
  | error stop core =>
      rw [hrun] at h hexcuses
      cases hexcuses with
      | panicked hraised =>
          cases h
          exact ⟨core, rfl, hraised⟩
      | error hreason hfault => cases h
      | outOfFuel => cases h

/-- What a run has come to, faulted or not. -/
structure Erased (builder : ProgramBuilder) (core : Core) : Prop where
  upright : Upright builder core
  fits : AllFit core
  settled : core.fault = none → Fitted core []
  blameless : Blameless core

theorem Erased.ready {builder : ProgramBuilder} {core : Core} (h : Erased builder core)
    (hok : core.fault = none) : Ready builder core := ⟨hok, h.upright, h.settled hok⟩

theorem blameless_launched {core : Core} (h : Launched core) : Blameless core := by
  obtain ⟨builder, program, bindings, hassembled, hbuild, hlaunch⟩ := h
  obtain ⟨hvalid, -, hnew⟩ := launch_eq_ok.mp hlaunch
  exact blameless_new (Upright.fresh hassembled hbuild hvalid) hnew

theorem erased_reachable {start core : Core} (hstart : Launched start) (h : Reachable start core) :
    ∃ builder, Erased builder core := by
  obtain ⟨builder, bindings, hassembled, hbuild, hvalid, hsettled⟩ :=
    settles_fitted.launched hstart fun _ _ hassembled hbuild => fitted_fresh hassembled hbuild _
  have hupright := Upright.fresh hassembled hbuild hvalid
  have hempty : AllFit (Core.fresh builder.blueprint bindings) :=
    fun _ hsource => absurd hsource List.not_mem_nil
  have herased {core : Core} (h : Reachable start core) (hblameless : Blameless core) :
      Erased builder core := by
    have hcore := settles_fitted.reachable h hsettled
    have hpath := ReflTransGen.mono (fun _ _ => And.left) _ _ hcore.1
    exact ⟨hupright.path hpath, allFit_of_settled hempty hcore, hcore.2, hblameless⟩
  refine ⟨builder, herased h ?_⟩
  induction h with
  | refl => exact blameless_launched hstart
  | @operation core operation h hreturns ih =>
      have hbefore := herased h ih
      cases hok : core.fault with
      | some error =>
          rw [perform_faulted hok]
          exact ih
      | none =>
          refine blameless_final (excuses_perform (hbefore.ready hok) operation) hreturns ?_
          intro value core' hrun
          have hproceeds := perform_follows covers_move operation core
          rw [hrun] at hproceeds
          exact hproceeds.2.1

/-! ## Soundness -/

/-- What is boxed in the tables of a runtime has the type that its row records,
    and whoever receives it takes that type. -/
structure Sound (core : Core) : Prop where
  /-- A queued Message is of the Message type of the Component it is for. -/
  messages : ∀ work ∈ core.scheduled, ∀ message, work.kind = .message message →
    message.message.type = message.targetMessageType ∧
      ∃ kernel ∈ core.program.components, kernel.id = message.target ∧
        kernel.messageType = message.targetMessageType
  /-- A queued Source event is of the event type of its terminal descriptor. -/
  events : ∀ work ∈ core.scheduled, ∀ event, work.kind = .sourceEvent event →
    event.event.type = event.terminalType.eventType
  /-- The descriptor and the mapper of a pending effect are of its type. -/
  effects : ∀ entry ∈ core.effects,
    (∀ descriptor, entry.descriptor = some descriptor → descriptor.type = entry.descriptorType) ∧
      ∀ mapper, entry.mapper = some mapper →
        MapsOutcome mapper entry.descriptorType entry.messageType
  /-- The mapper of an outstanding request takes its Reply type. -/
  requests : ∀ request ∈ core.requests,
    MapsReply request.mapper request.replyType request.messageType
  /-- The Layers of a Source are chained from its terminal descriptor to the
      mapper that is installed, and its plan is that of a Subscription. -/
  sources : ∀ source ∈ core.sources,
    FramedLayer.Chains source.plan.terminalType.eventType source.plan.layers
      source.subscription.sourceEventType ∧ source.plan.capability.isSome = true
  /-- An event of the terminal type passes them all, unless a decoder panics, and
      the mapper is given events of its own type. -/
  feeds : ∀ source ∈ core.sources, ∀ event : ErasedSourceEvent,
    event.type = source.plan.terminalType.eventType →
      ChainFed source.plan.terminalType.eventType source.subscription.sourceEventType
        (mapLayers [event] source.plan.layers)

theorem Erased.sound {builder : ProgramBuilder} {core : Core} (h : Erased builder core) :
    Sound core := by
  have hchains {source : ActiveSource} (hsource : source ∈ core.sources) :
      FramedLayer.Chains source.plan.terminalType.eventType source.plan.layers
        source.subscription.sourceEventType := by
    have hproduces := (h.fits source hsource).produces
    rw [hproduces.terminal]
    exact hproduces.chains
  refine ⟨?_, h.upright.tagged.events, ?_, fun _ => h.upright.mapsReply, ?_, ?_⟩
  · intro work hwork message hkind
    obtain ⟨kernel, hkernel⟩ := h.upright.addressed.messages work hwork message hkind
    obtain ⟨hid, htype⟩ := Program.component?_eq_some hkernel
    exact ⟨h.upright.typed.messages work hwork message hkind, kernel,
      List.mem_of_find?_eq_some hkernel, hid, htype⟩
  · intro entry hentry
    exact ⟨h.upright.tagged.descriptors entry hentry, fun _ => h.upright.mapsOutcome hentry⟩
  · intro source hsource
    exact ⟨hchains hsource, (h.fits source hsource).declared⟩
  · intro source hsource event htype
    refine chainFed_mapLayers (hchains hsource) ?_
    intro other hother
    rw [List.mem_singleton.mp hother]
    exact htype

/-- Type erasure is sound: wherever a run comes, every box has the type that its
    receiver takes; and no operation panics but with a panic of the application,
    nor fails because a Message was delivered to a Component of another type. -/
theorem erasure_sound {start core : Core} (hstart : Launched start) (h : Reachable start core) :
    Sound core ∧ ∀ (operation : Operation) (stop : Stop) (core' : Core),
      (perform operation).run core = .error stop core' → Excused stop core' := by
  obtain ⟨builder, herased⟩ := erased_reachable hstart h
  refine ⟨herased.sound, ?_⟩
  intro operation stop core' hrun
  cases hok : core.fault with
  | some error =>
      rw [perform_faulted hok] at hrun
      cases hrun
      exact .error (herased.blameless error hok) (.inr hok)
  | none =>
      have hexcuses := excuses_perform (herased.ready hok) operation
      rw [hrun] at hexcuses
      exact hexcuses

end Controlled

end Samara

namespace Samara.Controlled

attribute [local instance] Sample.types

/-- A Component that leaves an effect pending and its own request unanswered,
    and keeps a framed stream while it changes the mapper of its frames. -/
def reader : Component () where
  init := ((0 : Nat), .batch [
    .declaration (.effect ⟨⟨0, ⟨7⟩⟩, (), .plain 1, some fun _ => .ok (.plain 2)⟩),
    .declaration (.request ⟨(), (), ⟨⟨"reader"⟩, ⟨7⟩⟩, .plain 3, fun _ => .ok (.plain 4)⟩)])
  update := fun (model : Nat) _ => (model + 1, .ok .none)
  subscriptions := fun (model : Nat) => .ok [⟨⟨"frames"⟩, ⟨1, ⟨7⟩⟩, .framed (.stream ()) (),
    ⟨trivial, rfl⟩, ("frames", .plain 0), fun _ => .ok (.plain model)⟩]

def readerBuilder : ProgramBuilder :=
  (((((ProgramBuilder.new ⟨7⟩).effect ()).source (.framed (.stream ()) ())).component ⟨"reader"⟩
    reader).port () ⟨"reader"⟩).bindPort (⟨⟨"reader"⟩, ⟨7⟩⟩ : Port ())
      (⟨⟨"reader"⟩, ⟨7⟩⟩ : ComponentRef ())

theorem readerBuilder_assembled : readerBuilder.Assembled :=
  .bindPort _ _ (.port _ _ (.component _ reader (.source _ (.effect _ (.new ⟨7⟩)))))

def readerCore : Core := (assemble readerBuilder ⟨[()], [.stream ()], []⟩).get rfl

/-- A chunk for the stream below the frames. -/
def readerEmits (number : Nat) : Operation := .emitStream () ⟨1, ⟨7⟩⟩ (.plain number)

def readerSent : Core := Exec.final ((perform (readerEmits 5)).run readerCore)

/-- The reader when it has heard the frames of one chunk. -/
def readerHeard : Core := Exec.final ((perform (.runUntilIdle 20)).run readerSent)

def readerSentAgain : Core := Exec.final ((perform (readerEmits 6)).run readerHeard)

theorem erasure_sound_reader :
    (Sound readerSentAgain ∧ ∀ (operation : Operation) (stop : Stop) (core' : Core),
      (perform operation).run readerSentAgain = .error stop core' → Excused stop core') ∧
    readerSentAgain.effects.length = 1 ∧ readerSentAgain.requests.length = 1 ∧
      readerSentAgain.scheduled.length = 1 ∧
        readerSentAgain.sources.map (·.plan.layers.length) = [1] := by
  have hsent : Reachable readerCore readerSent := .operation (readerEmits 5) .refl (by decide +kernel)
  have hheard : Reachable readerCore readerHeard :=
    .operation (.runUntilIdle 20) hsent (by decide +kernel)
  have hreachable : Reachable readerCore readerSentAgain :=
    .operation (readerEmits 6) hheard (by decide +kernel)
  exact ⟨erasure_sound (launched_of_assemble readerBuilder_assembled (Option.some_get _).symm)
    hreachable, by decide +kernel⟩

end Samara.Controlled
