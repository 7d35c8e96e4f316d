/-
  Samara.Controlled.Emission

  The effects that the controlled runtime issues.  Whatever it does on its own,
  an effect declaration that it accepts pushes one row with the next number, and
  the rows that are pending stay as they are; `next_effect` and `complete` are
  the subject of `Samara.Controlled.Effects`.
-/
import Samara.Controlled.Harness

namespace Samara

open Exec (Leads leads_bind leads_get leads_ite leads_modify leads_pure leads_throw final_bind)

variable [RustTypes]

namespace Controlled

/-! ## Occurrences -/

/-- An effect declaration, the Component that returned it and its record. -/
structure Occurrence where
  component : ComponentId
  work : TraceId
  messageType : TypeId
  command : EffectCommand messageType

namespace Occurrence

abbrev descriptorType (occurrence : Occurrence) : TypeId := occurrence.command.descriptorType

/-- The row that the occurrence of a number pushes. -/
def entry (numbered : Occurrence × Nat) : PendingEffectEntry :=
  pendingEntry numbered.1.component numbered.2 numbered.1.work numbered.1.command

/-- What `next_effect` hands out for the occurrence of a number. -/
def token (occurrence : Occurrence) (program : ProgramId) (id : Nat) :
    PendingEffect occurrence.descriptorType :=
  ⟨occurrence.command.effect, id, program⟩

end Occurrence

/-- The effect declaration that a piece of history records. -/
def Observation.effect? : Observation → Option Occurrence
  | .declared work component _ ⟨messageType, .effect command⟩ =>
      some ⟨component, work, messageType, command⟩
  | _ => none

/-- The effect declarations of a run in the order they were emitted. -/
def Core.emittedEffects (core : Core) : List Occurrence :=
  core.journal.filterMap Observation.effect?

/-! ## What adds pending effects -/

/-- From `core` to `core'` the effects `declared` were declared, and the ones
    `accepted` were pushed: all of them unless the runtime faults. -/
structure Enlisting (core core' : Core) (declared accepted : List Occurrence) : Prop where
  journal : core'.emittedEffects = core.emittedEffects ++ declared
  inOrder : accepted.Sublist declared
  all : core'.fault = none → core.fault = none ∧ accepted = declared
  rows : core'.effects =
    core.effects ++ (accepted.zipIdx core.nextEffect).map Occurrence.entry
  nextEffect : core'.nextEffect = core.nextEffect + accepted.length
  program : core'.program.program = core.program.program

/-- Old rows of the table stay as they are, and new ones are declared effects. -/
def Enlists (core core' : Core) : Prop :=
  ∃ declared accepted, Enlisting core core' declared accepted

namespace Enlists

variable {core core' : Core}

/-- Nothing is declared. -/
theorem quiet (hemitted : core'.emittedEffects = core.emittedEffects)
    (hfault : core'.fault = none → core.fault = none) (heffects : core'.effects = core.effects)
    (hnext : core'.nextEffect = core.nextEffect)
    (hprogram : core'.program.program = core.program.program) : Enlists core core' := by
  refine ⟨[], [], ?_, .refl _, fun hok => ⟨hfault hok, rfl⟩, ?_, hnext, hprogram⟩
  · rw [hemitted, List.append_nil]
  · rw [heffects]
    simp

instance : IsPreorder Core Enlists where
  refl core := quiet rfl id rfl rfl rfl
  trans := by
    rintro first second third ⟨declared, accepted, h⟩ ⟨declared', accepted', h'⟩
    refine ⟨declared ++ declared', accepted ++ accepted', ?_, h.inOrder.append h'.inOrder,
      ?_, ?_, ?_, ?_⟩
    · rw [h'.journal, h.journal, List.append_assoc]
    · intro hok
      obtain ⟨hmiddle, haccepted'⟩ := h'.all hok
      obtain ⟨hfirst, haccepted⟩ := h.all hmiddle
      exact ⟨hfirst, by rw [haccepted, haccepted']⟩
    · rw [h'.rows, h.rows, h.nextEffect, List.zipIdx_append, List.map_append,
        List.append_assoc]
    · rw [h'.nextEffect, h.nextEffect, List.length_append, Nat.add_assoc]
    · rw [h'.program, h.program]

theorem observed {observation : Observation} (h : observation.effect? = none) :
    Enlists core (core.observed observation) := by
  refine quiet ?_ id rfl rfl rfl
  simp [Core.emittedEffects, h]

theorem faulted (component : ComponentId) (descriptorType : Option String) (work : TraceId)
    (reason : String) : Enlists core (core.faulted component descriptorType work reason) :=
  quiet rfl (fun hok => by cases hok) rfl rfl rfl

theorem withActivation (component : ComponentId) (subscription : ErasedRuntimeSubscription) :
    Enlists core (core.withActivation component subscription) := by
  refine quiet ?_ id rfl rfl rfl
  simp [Core.emittedEffects, Observation.effect?]

theorem popped (work : ScheduledWork) : Enlists core (core.popped work) := by
  refine quiet ?_ id rfl rfl rfl
  simp [Core.emittedEffects, Observation.effect?]

end Enlists

/-! ### Primitive methods -/

section Primitives

variable {α : Type}

theorem leads_pushTrace (cause : Option TraceId) (event : TraceEvent) :
    Leads Enlists (pushTrace cause event) := fun _ => .quiet rfl id rfl rfl rfl

theorem leads_pushRoot (event : TraceEvent) : Leads Enlists (pushRoot event) :=
  leads_pushTrace none event

theorem leads_pushChild (cause : TraceId) (event : TraceEvent) :
    Leads Enlists (pushChild cause event) := leads_pushTrace (some cause) event

theorem leads_observe {observation : Observation} (h : observation.effect? = none) :
    Leads Enlists (observe observation) := leads_modify fun _ => .observed h

theorem leads_failWithFault (component : ComponentId) (descriptorType : Option String)
    (work : TraceId) (reason : String) :
    Leads Enlists (failWithFault component descriptorType work reason : Run α) := by
  refine leads_bind ?_ fun error => leads_throw _
  refine leads_get fun core => ?_
  cases core.fault with
  | some error => exact refl core
  | none => exact .faulted component descriptorType work reason

theorem leads_failHarness (reason : String) :
    Leads Enlists (failHarness reason : Run α) := leads_throw _

theorem leads_ensureNotFaulted : Leads Enlists ensureNotFaulted := by
  refine leads_get fun core => ?_
  cases core.fault with
  | some error => exact refl core
  | none => exact refl core

theorem leads_scheduleMessage (message : QueuedMessage) (deadline : Duration) :
    Leads Enlists (scheduleMessage message deadline) :=
  leads_modify fun _ => .quiet rfl id rfl rfl rfl

theorem leads_callback (result : Callback α) : Leads Enlists (callback result : Run α) := by
  unfold callback
  cases result with
  | ok value => exact leads_pure value
  | error panic => exact leads_throw _

theorem leads_withSource (component : ComponentId) (subscription : SubscriptionId)
    (update : ActiveSource → ActiveSource) :
    Leads Enlists (modify (·.withSource component subscription update) : Run PUnit) :=
  leads_modify fun _ => .quiet rfl id rfl rfl rfl

theorem leads_onComponent (id : ComponentId) (messageType : TypeId)
    (kernel : ErasedComponentKernel) (action : EStateM Panic ErasedComponentKernel α) :
    Leads Enlists (onComponent id messageType kernel action) := by
  intro core
  unfold onComponent EStateM.run
  split <;> exact .quiet rfl (fun hok => hok) rfl rfl rfl

end Primitives

/-! ### Declarations -/

section Arms

variable {message : TypeId} (component : ComponentId) (cause : TraceId)

/-- A declaration that is no effect pushes no row. -/
theorem leads_commandTrace {kind : TraceCommandKind} {detailType : String}
    {targetComponent : Option ComponentId} {targetPort : Option PortId}
    {declaration : Declaration message} (h : ∀ command, declaration ≠ .effect command) :
    Leads Enlists
      (commandTrace cause component kind detailType targetComponent targetPort declaration) := by
  refine leads_bind (leads_pushChild _ _) fun work => leads_get fun core => ?_
  refine final_bind (leads_observe ?_ core) fun _ => leads_pure _
  cases declaration with
  | effect command => exact absurd rfl (h command)
  | _ => rfl

/-- An effect declaration pushes one row, unless the runtime faults on it. -/
theorem leads_interpretEffect (command : EffectCommand message) :
    Leads Enlists (interpretEffect component cause command) := by
  intro core
  let occurrence : Occurrence := ⟨component, core.nextTrace, message, command⟩
  let emitted : Core := (core.traced (some cause) (.commandEmitted component .effect
    (typeName command.descriptorType) none none)).observed
      (.declared core.nextTrace component core.now ⟨message, .effect command⟩)
  have hjournal : emitted.emittedEffects = core.emittedEffects ++ [occurrence] := by
    simp [Core.emittedEffects, emitted, Observation.effect?, occurrence]
  have hrefused (reason : String) : Enlists core (Exec.final ((failWithFault component
      (some (typeName command.descriptorType)) core.nextTrace reason : Run Unit).run emitted)) := by
    unfold failWithFault setFault
    have hstays (core' : Core) (heffects : core'.effects = core.effects)
        (hnext : core'.nextEffect = core.nextEffect)
        (hprogram : core'.program.program = core.program.program)
        (hemitted : core'.emittedEffects = emitted.emittedEffects)
        (hfault : core'.fault ≠ none) : Enlists core core' := by
      refine ⟨[occurrence], [], hemitted.trans hjournal, List.nil_sublist _,
        fun hok => absurd hok hfault, ?_, hnext, hprogram⟩
      rw [heffects]
      simp
    simp only [bind_assoc]
    rw [Exec.run_bind_ok (EStateM.run_get emitted)]
    cases hfault : emitted.fault with
    | some error =>
        refine hstays emitted rfl rfl rfl rfl ?_
        simp [hfault]
    | none => exact hstays _ rfl rfl rfl rfl (by simp)
  have hrun : (interpretEffect component cause command).run core = ((do
      let core' ← get
      if !core'.program.declaresEffect command.capability command.descriptorType then
        failWithFault component (some (typeName command.descriptorType)) core.nextTrace
          "Effect capability belongs to another Program"
      else if command.descriptorType ∉ core'.bindings.effects then
        failWithFault component (some (typeName command.descriptorType)) core.nextTrace
          "missing controlled terminal Effect behavior"
      else set (core'.withEffect component core.nextTrace command) : Run Unit)).run emitted := rfl
  rw [hrun, Exec.run_bind_ok (EStateM.run_get emitted)]
  split
  · exact hrefused _
  · split
    · exact hrefused _
    · exact ⟨[occurrence], [occurrence], hjournal, .refl _, fun hok => ⟨hok, rfl⟩, rfl, rfl, rfl⟩

theorem leads_interpretSend (command : SendCommand) :
    Leads Enlists (@interpretSend _ message component cause command) := by
  refine leads_bind (leads_commandTrace component cause (by simp)) fun work =>
    leads_get fun core => ?_
  split
  · exact leads_failWithFault _ _ _ _ core
  · exact leads_scheduleMessage _ _ core

theorem leads_resolvePort {protocol : TypeId} (port : Port protocol) (work : TraceId)
    (noun : String) : Leads Enlists (resolvePort component port work noun) := by
  refine leads_get fun core => ?_
  split
  · exact leads_failWithFault _ _ _ _ core
  · split
    · exact leads_failWithFault _ _ _ _ core
    · exact leads_pure _ core

theorem leads_interpretNotify (command : NotificationCommand) :
    Leads Enlists (@interpretNotify _ message component cause command) := by
  refine leads_bind (leads_commandTrace component cause (by simp)) fun work => ?_
  refine leads_bind (leads_resolvePort component _ _ _) fun binding => ?_
  refine leads_bind (leads_callback _) fun protocolMessage => ?_
  refine leads_bind (leads_callback _) fun converted => leads_get fun core => ?_
  exact leads_scheduleMessage _ _ core

theorem leads_interpretRequest (command : RequestCommand message) :
    Leads Enlists (interpretRequest component cause command) := by
  refine leads_bind (leads_commandTrace component cause (by simp)) fun work => ?_
  refine leads_bind (leads_resolvePort component _ _ _) fun binding => leads_get fun core => ?_
  refine final_bind (R := Enlists) ?_ fun _ => ?_
  · exact .quiet rfl id rfl rfl rfl
  refine leads_bind (leads_callback _) fun protocolMessage => ?_
  refine leads_bind (leads_callback _) fun converted => ?_
  refine leads_bind (leads_modify fun core => .quiet rfl id rfl rfl rfl) fun _ => ?_
  refine leads_bind (leads_observe rfl) fun _ => ?_
  exact leads_scheduleMessage _ _

theorem leads_interpretReply (command : ReplyCommand) :
    Leads Enlists (@interpretReply _ message component cause command) := by
  refine leads_bind (leads_commandTrace component cause (by simp)) fun work =>
    leads_get fun core => ?_
  split
  · exact leads_failWithFault _ _ _ _ core
  · rename_i request _
    refine final_bind (R := Enlists) (.quiet rfl id rfl rfl rfl) fun _ => ?_
    refine leads_ite (fun _ => leads_failWithFault _ _ _ _) fun _ => ?_
    refine leads_bind (leads_pushChild _ _) fun outcome => ?_
    refine leads_bind (leads_callback _) fun mapped => ?_
    refine leads_bind (leads_observe rfl) fun _ => ?_
    exact leads_scheduleMessage _ _

theorem leads_interpretAfter (delay : Duration) (value : Val message) :
    Leads Enlists (interpretAfter component cause delay value) := by
  refine leads_bind (leads_commandTrace component cause (by simp)) fun work =>
    leads_get fun core => ?_
  split
  · exact leads_failWithFault _ _ _ _ core
  · exact leads_scheduleMessage _ _ core

theorem leads_interpretDeclaration (declaration : Declaration message) :
    Leads Enlists (interpretDeclaration component cause declaration) := by
  cases declaration with
  | effect command => exact leads_interpretEffect component cause command
  | send command => exact leads_interpretSend component cause command
  | notify command => exact leads_interpretNotify component cause command
  | request command => exact leads_interpretRequest component cause command
  | reply command => exact leads_interpretReply component cause command
  | after delay value => exact leads_interpretAfter component cause delay value

theorem leads_interpretDeclarations (declarations : List (Declaration message)) :
    Leads Enlists (interpretDeclarations component cause declarations) := by
  induction declarations with
  | nil => exact leads_pure ()
  | cons declaration declarations ih =>
      exact leads_bind (leads_interpretDeclaration component cause declaration) fun _ => ih

theorem leads_interpret (command : ErasedCommand) :
    Leads Enlists (interpret component cause command) :=
  leads_interpretDeclarations component cause _

end Arms

/-! ### Subscription changes -/

section Changes

variable (component : ComponentId) (cause : TraceId)

theorem leads_activateSource (subscription : ErasedRuntimeSubscription) (work : TraceId) :
    Leads Enlists (activateSource component subscription work) := by
  refine leads_get fun core => ?_
  have hfault (reason : String) : Leads Enlists (failWithFault component
      (some subscription.sourcePlan.terminalTypeName) work reason : Run Unit) :=
    leads_failWithFault _ _ _ _
  dsimp only
  split
  · exact hfault _ core
  · split
    · exact hfault _ core
    · split
      · exact hfault _ core
      · exact .withActivation component subscription

theorem leads_applySubscriptionChange (change : ErasedSubscriptionChange) :
    Leads Enlists (applySubscriptionChange component cause change) := by
  cases change with
  | start subscription =>
      exact leads_bind (leads_pushChild _ _) fun work => leads_activateSource component _ work
  | retain subscription =>
      exact leads_bind (leads_pushChild _ _) fun _ => leads_withSource _ _ _
  | replace subscription =>
      refine leads_bind (leads_pushChild _ _) fun work => ?_
      refine leads_bind (leads_modify fun _ => .quiet rfl id rfl rfl rfl) fun _ => ?_
      exact leads_activateSource component _ work
  | cancel subscription =>
      refine leads_get fun core => final_bind (leads_pushChild _ _ core) fun _ => ?_
      exact leads_modify fun _ => .quiet rfl id rfl rfl rfl

theorem leads_applyChanges (changes : List ErasedSubscriptionChange) :
    Leads Enlists (applyChanges component cause changes) := by
  induction changes with
  | nil => exact leads_pure ()
  | cons change changes ih =>
      exact leads_bind (leads_applySubscriptionChange component cause change) fun _ => ih

theorem leads_reconcileComponent (messageType : TypeId) (kernel : ErasedComponentKernel) :
    Leads Enlists (reconcileComponent component messageType kernel) := by
  refine leads_bind (leads_onComponent _ _ _ _) fun result => ?_
  cases kernel.desired with
  | error panic => exact leads_pure result
  | ok desired => exact leads_bind (leads_observe rfl) fun _ => leads_pure result

theorem leads_applyReconciled
    (outcome : Except SubscriptionId (List ErasedSubscriptionChange)) :
    Leads Enlists (applyReconciled component cause outcome) := by
  cases outcome with
  | error duplicate => exact leads_failWithFault _ _ _ _
  | ok changes => exact leads_applyChanges component cause _

end Changes

/-! ### Scheduled work -/

theorem leads_dropStaleWork (stamp : SourceStamp) (cause : TraceId) (mappedMessage : Bool) :
    Leads Enlists (dropStaleWork stamp cause mappedMessage) :=
  leads_bind (leads_pushChild _ _) fun _ => leads_pure 0

theorem leads_scheduleMapped (source : ActiveSource) (cause : TraceId)
    (mapped : List (SourceEventKind × ErasedValue)) :
    Leads Enlists (scheduleMapped source cause mapped) := by
  induction mapped with
  | nil => exact leads_pure ()
  | cons head mapped ih =>
      refine leads_bind (leads_pushChild _ _) fun trace => leads_get fun core => ?_
      exact final_bind (leads_scheduleMessage _ _ core) fun _ => ih

theorem leads_mapTerminalEvent (source : ActiveSource) (event : ErasedSourceEvent) :
    Leads Enlists (mapTerminalEvent source event) := by
  intro core
  unfold mapTerminalEvent EStateM.run
  dsimp only
  split
  · exact .quiet rfl id rfl rfl rfl
  · refine .quiet ?_ id rfl rfl rfl
    simp [Core.emittedEffects, Observation.effect?]

theorem leads_processSourceEvent (event : QueuedSourceEvent) :
    Leads Enlists (processSourceEvent event) := by
  refine leads_get fun core => ?_
  split
  · exact leads_dropStaleWork _ _ _ core
  · rename_i source _
    refine leads_ite (fun _ => leads_dropStaleWork _ _ _) (fun _ => ?_) core
    refine leads_bind (leads_mapTerminalEvent source _) fun outer => ?_
    refine leads_bind (leads_callback _) fun mapped => ?_
    refine leads_bind (leads_observe rfl) fun _ => ?_
    refine leads_bind (leads_withSource _ _ _) fun _ => ?_
    exact leads_bind (leads_scheduleMapped source _ mapped) fun _ => leads_pure 0

theorem leads_fireTimer (message : QueuedMessage) : Leads Enlists (fireTimer message) := by
  unfold fireTimer
  cases message.delivery with
  | message => exact leads_pure _
  | timer => exact leads_pushChild _ _

theorem leads_deliver (message : QueuedMessage) : Leads Enlists (deliver message) := by
  refine leads_bind (leads_fireTimer message) fun deliveryCause => leads_get fun core => ?_
  split
  · exact leads_failWithFault _ _ _ _ core
  · rename_i kernel _
    refine final_bind (leads_onComponent _ _ kernel _ core) fun result => ?_
    obtain ⟨command, kernel'⟩ := result
    cases command with
    | none => exact leads_failHarness _
    | some command =>
        refine leads_bind (leads_pushChild _ _) fun transition => ?_
        refine leads_bind (leads_reconcileComponent _ _ kernel') fun reconciled => ?_
        refine leads_bind (leads_applyReconciled _ _ _) fun _ => ?_
        exact leads_bind (leads_interpret _ _ command) fun _ => leads_pure 1

theorem leads_processMessage (message : QueuedMessage) :
    Leads Enlists (processMessage message) := by
  refine leads_get fun core => ?_
  split
  · exact leads_deliver message core
  · exact leads_ite (fun _ => leads_deliver message) (fun _ => leads_dropStaleWork _ _ _) core

theorem leads_processWork (work : ScheduledWork) : Leads Enlists (processWork work) := by
  unfold processWork
  cases work.kind with
  | message message => exact leads_processMessage message
  | sourceEvent event => exact leads_processSourceEvent event

theorem leads_popNextDue : Leads Enlists popNextDue := by
  refine leads_get fun core => ?_
  cases core.nextDue with
  | none => exact refl core
  | some work => exact .popped work

/-! ### Drives -/

theorem leads_drainInstant (fuel transitions : Nat) :
    Leads Enlists (drainInstant fuel transitions) := by
  induction fuel generalizing transitions with
  | zero => exact leads_throw _
  | succ fuel ih =>
      refine leads_bind leads_popNextDue fun next => ?_
      cases next with
      | none => exact leads_pure transitions
      | some work =>
          refine leads_bind (leads_processWork work) fun more => ?_
          exact leads_bind leads_ensureNotFaulted fun _ => ih (transitions + more)

theorem leads_report (transitions : Nat) : Leads Enlists (report transitions) :=
  leads_get fun core => refl core

theorem leads_runUntilIdle (fuel : Nat) : Leads Enlists (runUntilIdle fuel) := by
  refine leads_bind leads_ensureNotFaulted fun _ => ?_
  exact leads_bind (leads_drainInstant fuel 0) fun transitions => leads_report transitions

theorem leads_advanceLoop (fuel : Nat) (target : Duration) (rounds transitions : Nat) :
    Leads Enlists (advanceLoop fuel target rounds transitions) := by
  induction rounds generalizing transitions with
  | zero => exact leads_throw _
  | succ rounds ih =>
      refine leads_get fun core => ?_
      split
      · exact refl core
      · refine final_bind (R := Enlists) (.quiet rfl id rfl rfl rfl) fun _ => ?_
        exact leads_bind (leads_runUntilIdle fuel) fun drained => ih _

theorem leads_advance (fuel : Nat) (duration : Duration) :
    Leads Enlists (advance fuel duration) := by
  refine leads_bind leads_ensureNotFaulted fun _ => leads_get fun core => ?_
  split
  · exact leads_failHarness _ core
  · refine final_bind (leads_runUntilIdle fuel core) fun first => ?_
    refine leads_bind (leads_advanceLoop fuel _ fuel _) fun transitions => ?_
    refine leads_bind (leads_modify fun _ => .quiet rfl id rfl rfl rfl) fun _ => ?_
    exact leads_bind (leads_runUntilIdle fuel) fun last => leads_report _

theorem leads_advanceToNext (fuel : Nat) : Leads Enlists (advanceToNext fuel) := by
  refine leads_bind leads_ensureNotFaulted fun _ => ?_
  refine leads_bind (leads_runUntilIdle fuel) fun first => leads_get fun core => ?_
  split
  · exact leads_failHarness _ core
  · refine final_bind (R := Enlists) (.quiet rfl id rfl rfl rfl) fun _ => ?_
    exact leads_bind (leads_runUntilIdle fuel) fun last => leads_report _

/-! ### Harness inputs -/

theorem leads_send {component : TypeId} (target : ComponentRef component)
    (message : Val (RustTypes.componentMessage component)) :
    Leads Enlists (Controlled.send target message) := by
  refine leads_bind leads_ensureNotFaulted fun _ => leads_get fun core => ?_
  refine leads_ite (fun _ => leads_failHarness _) (fun _ => ?_) core
  exact leads_bind (leads_pushRoot _) fun cause => leads_scheduleMessage _ _

theorem leads_enqueueSourceEvent (source : ActiveSource) (terminalType : DescriptorType TypeId)
    (event : ErasedSourceEvent) :
    Leads Enlists (enqueueSourceEvent source terminalType event) := by
  refine leads_ite (fun _ => leads_failHarness _) fun _ => ?_
  refine leads_bind (leads_pushRoot _) fun cause => ?_
  refine leads_bind (leads_observe rfl) fun _ => ?_
  exact leads_modify fun _ => .quiet rfl id rfl rfl rfl

theorem leads_emitStream (streamItem : TypeId) (stream : CapabilityToken)
    (item : Val streamItem) : Leads Enlists (emitStream streamItem stream item) := by
  refine leads_bind leads_ensureNotFaulted fun _ => leads_get fun core => ?_
  split
  · exact leads_failHarness _ core
  · refine leads_ite (fun _ => leads_failHarness _) (fun _ => ?_) core
    split
    · exact leads_enqueueSourceEvent _ _ _
    · exact leads_failHarness _

theorem leads_closeStream (stream : CapabilityToken) : Leads Enlists (closeStream stream) := by
  refine leads_bind leads_ensureNotFaulted fun _ => leads_get fun core => ?_
  split
  · exact leads_failHarness _ core
  · refine leads_ite (fun _ => leads_failHarness _) (fun _ => ?_) core
    split
    · exact leads_enqueueSourceEvent _ _ _
    · exact leads_failHarness _

theorem leads_emitSource {component : TypeId} (target : ComponentRef component)
    (id : SubscriptionId) (descriptorType : DescriptorType TypeId)
    (event : SourceEvent (Val descriptorType.item) descriptorType.error.Val) :
    Leads Enlists (emitSource target id descriptorType event) := by
  refine leads_bind leads_ensureNotFaulted fun _ => leads_get fun core => ?_
  refine leads_ite (fun _ => leads_failHarness _) (fun _ => ?_) core
  split
  · exact leads_failHarness _
  · exact leads_enqueueSourceEvent _ _ _

/-! ### Initialization -/

theorem leads_initializeComponent (id : ComponentId) (messageType : TypeId) :
    Leads Enlists (initializeComponent id messageType) := by
  refine leads_bind (leads_pushRoot _) fun initialization => leads_get fun core => ?_
  split
  · exact leads_pure () core
  · rename_i kernel _
    refine final_bind (leads_reconcileComponent id messageType kernel core) fun reconciled => ?_
    refine leads_bind (leads_onComponent _ _ _ _) fun taken => ?_
    refine leads_bind (leads_applyReconciled _ _ _) fun _ => ?_
    split
    · exact leads_pure ()
    · exact leads_interpret _ _ _

theorem leads_initializeComponents (components : List (ComponentId × TypeId)) :
    Leads Enlists (initializeComponents components) := by
  induction components with
  | nil => exact leads_pure ()
  | cons component components ih =>
      exact leads_bind (leads_initializeComponent _ _) fun _ => ih

end Controlled

end Samara
