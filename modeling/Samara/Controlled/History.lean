/-
  Samara.Controlled.History

  What the trace and the history record about each other in every run of the
  controlled runtime.

  `Tick` splits the steps of a run into the changes that matter to time and to
  the schedule: a quiet change, a piece of work scheduled, a piece of work
  executed, logical time passing.
-/
import Samara.Controlled.Drive

namespace Samara

open Relation (ReflTransGen)

variable [RustTypes]

namespace Controlled

/-! ## Declarations in the history -/

/-- The declaration behind the `CommandEmitted` record `work`. -/
structure Declared where
  work : TraceId
  component : ComponentId
  time : Duration
  declaration : ErasedDeclaration

def Observation.declared? : Observation → Option Declared
  | .declared work component now declaration => some ⟨work, component, now, declaration⟩
  | _ => none

/-- The declarations a run has interpreted, in order. -/
def Core.declarations (core : Core) : List Declared :=
  core.journal.filterMap Observation.declared?

/-- The `CommandEmitted` record `work` is the one of this declaration. -/
def Core.Records (core : Core) (declared : Declared) : Prop :=
  ∃ record, core.trace[declared.work]? = some record ∧ record.time = declared.time ∧
    record.event = emission declared.component declared.declaration.declaration

/-- `work` is the Command that armed a timer of `component` for `deadline`. -/
def Core.Armed (core : Core) (work : TraceId) (component : ComponentId) (messageType : TypeId)
    (deadline : Duration) : Prop :=
  ∃ (armed : Duration) (delay : Duration) (value : Val messageType),
    ⟨work, component, armed, ⟨messageType, .after delay value⟩⟩ ∈ core.declarations ∧
      deadline = armed + delay

/-! ## Ticks -/

/-- The change of a schedule that one step of a run makes. -/
inductive Tick (core : Core) : Core → Prop where
  | quiet {core' : Core} (h : Quiet core core') : Tick core core'
  | scheduled (deadline : Duration) (kind : ScheduledKind) (hdeadline : core.now ≤ deadline)
      (harmed : ∀ message, kind = .message message → message.delivery = .timer →
        core.Armed message.cause message.target message.targetMessageType deadline) :
      Tick core (core.scheduledAt deadline kind)
  | executed (work : ScheduledWork) (hdue : core.nextDue = some work) :
      Tick core (core.popped work)
  | fired (work : ScheduledWork) (message : QueuedMessage) (hdue : core.nextDue = some work)
      (hkind : work.kind = .message message) : Tick core ((core.popped work).fired message)
  | passed (time : Duration) (hforward : core.now ≤ time)
      (hdue : ∀ work ∈ core.scheduled, time ≤ work.deadline) :
      Tick core { core with now := time }

namespace Unscheduled

variable {core core' : Core}

theorem ticks (h : Unscheduled core core') : ReflTransGen Tick core core' :=
  ReflTransGen.mono (fun _ _ => Tick.quiet) _ _ h

theorem withComponent (id : ComponentId) (messageType : TypeId)
    (kernel : ErasedComponentKernel) :
    Unscheduled core (core.withComponent id messageType kernel) :=
  of_eq rfl rfl rfl rfl rfl

theorem withSource (component : ComponentId) (subscription : SubscriptionId)
    (update : ActiveSource → ActiveSource) :
    Unscheduled core (core.withSource component subscription update) :=
  of_eq rfl rfl rfl rfl rfl

theorem withoutSource (component : ComponentId) (subscription : SubscriptionId) :
    Unscheduled core (core.withoutSource component subscription) :=
  of_eq rfl rfl rfl rfl rfl

theorem withActivation (component : ComponentId) (subscription : ErasedRuntimeSubscription) :
    Unscheduled core (core.withActivation component subscription) := by
  have htables : Unscheduled core { core with
      nextGeneration := core.nextGeneration + 1
      sources := core.sources ++ [core.activation component subscription] } :=
    of_eq rfl rfl rfl rfl rfl
  exact htables.trans (observed rfl)

theorem withRequest (request : OutstandingRequest) :
    Unscheduled core (core.withRequest request) := by
  have htables : Unscheduled core { core with
      nextCorrelation := core.nextCorrelation + 1
      requests := core.requests ++ [request] } := of_eq rfl rfl rfl rfl rfl
  exact htables.trans (observed rfl)

theorem withEffect {message : TypeId} (component : ComponentId) (work : TraceId)
    (command : EffectCommand message) :
    Unscheduled core (core.withEffect component work command) :=
  of_eq rfl rfl rfl rfl rfl

theorem withoutEffect (effectType : TypeId) (id : Nat) :
    Unscheduled core (core.withoutEffect effectType id) :=
  of_eq rfl rfl rfl rfl rfl

theorem withClaim (effectType : TypeId) : Unscheduled core (core.withClaim effectType) :=
  of_eq rfl rfl rfl rfl rfl

theorem faulted (component : ComponentId) (descriptorType : Option String) (work : TraceId)
    (reason : String) : Unscheduled core (core.faulted component descriptorType work reason) :=
  (traced (some work) (by simp)).trans (of_eq rfl rfl rfl rfl rfl)

end Unscheduled

/-! ## Steps are ticks -/

section Ticks

variable {core : Core}

/-- A Message that is not a timer is scheduled for the current instant. -/
theorem tick_messageScheduled {message : QueuedMessage} (h : message.delivery = .message) :
    Tick core (core.messageScheduled message) := by
  refine .scheduled core.now (.message message) (le_refl _) ?_
  intro timer htimer hdelivery
  cases htimer
  rw [h] at hdelivery
  cases hdelivery

theorem ticks_withMappedEvent (source : ActiveSource) (cause : TraceId)
    (mapped : SourceEventKind × ErasedValue) :
    ReflTransGen Tick core (core.withMappedEvent source cause mapped) :=
  (Unscheduled.ticks (Unscheduled.traced (some cause) (by simp))).tail
    (tick_messageScheduled rfl)

theorem ticks_foldl_withMappedEvent (source : ActiveSource) (cause : TraceId)
    (mapped : List (SourceEventKind × ErasedValue)) (core : Core) :
    ReflTransGen Tick core (mapped.foldl (Core.withMappedEvent · source cause) core) := by
  induction mapped generalizing core with
  | nil => exact ReflTransGen.refl
  | cons event mapped ih =>
      exact (ticks_withMappedEvent source cause event).trans
        (ih (core.withMappedEvent source cause event))

theorem mem_declarations_emitted {message : TypeId} (core : Core) (cause : TraceId)
    (component : ComponentId) (declaration : Declaration message) :
    ⟨core.nextTrace, component, core.now, ⟨message, declaration⟩⟩ ∈
      (core.emitted cause component declaration).declarations :=
  List.mem_filterMap.mpr
    ⟨_, List.mem_append_right _ (List.mem_singleton.mpr rfl), rfl⟩

/-- An action is a path of ticks. -/
theorem Action.ticks {phase : Phase} {core' : Core} (h : Action core phase core') :
    ReflTransGen Tick core core' := by
  have hemitted {message : TypeId} (cause : TraceId) (component : ComponentId)
      (declaration : Declaration message) :
      ReflTransGen Tick core (core.emitted cause component declaration) :=
    (Unscheduled.ticks (Unscheduled.emitted cause component declaration))
  cases h with
  | initialized id => exact (Unscheduled.ticks (Unscheduled.traced none (by simp)))
  | projected id messageType kernel desired changes reconciler _ _ _ =>
      exact Unscheduled.ticks ((Unscheduled.withComponent _ _ _).trans (Unscheduled.observed rfl))
  | duplicated id messageType kernel desired duplicate _ _ _ =>
      exact Unscheduled.ticks ((Unscheduled.withComponent _ _ _).trans (Unscheduled.observed rfl))
  | duplicateFaulted => exact (Unscheduled.ticks (Unscheduled.faulted _ _ _ _))
  | commandTaken => exact (Unscheduled.ticks (Unscheduled.withComponent _ _ _))
  | started =>
      exact Unscheduled.ticks ((Unscheduled.traced _ (by simp [lifecycle])).trans
        (Unscheduled.withActivation _ _))
  | retained =>
      exact Unscheduled.ticks ((Unscheduled.traced _ (by simp [lifecycle])).trans
        (Unscheduled.withSource _ _ _))
  | replaced =>
      exact Unscheduled.ticks (((Unscheduled.traced _ (by simp [lifecycle])).trans
        (Unscheduled.withoutSource _ _)).trans (Unscheduled.withActivation _ _))
  | cancelled =>
      exact Unscheduled.ticks ((Unscheduled.traced _ (by simp [lifecycle])).trans
        (Unscheduled.withoutSource _ _))
  | startFaulted =>
      exact Unscheduled.ticks ((Unscheduled.traced _ (by simp [lifecycle])).trans
        (Unscheduled.faulted _ _ _ _))
  | replaceFaulted =>
      exact Unscheduled.ticks (((Unscheduled.traced _ (by simp [lifecycle])).trans
        (Unscheduled.withoutSource _ _)).trans (Unscheduled.faulted _ _ _ _))
  | effectDeclared component cause command _ _ _ =>
      exact (hemitted cause component _).trans (Unscheduled.ticks (Unscheduled.withEffect _ _ _))
  | sendDeclared component cause command _ _ _ _ =>
      exact (hemitted cause component _).tail (tick_messageScheduled rfl)
  | notifyDeclared component cause command binding protocolMessage converted _ _ _ _ _ =>
      exact (hemitted cause component _).tail (tick_messageScheduled rfl)
  | requestDeclared component cause command binding protocolMessage converted _ _ _ _ _ =>
      have hquiet : Unscheduled core _ := (Unscheduled.emitted cause component (.request command)).trans
        (Unscheduled.withRequest (core.issue component command))
      exact (Unscheduled.ticks hquiet).tail (tick_messageScheduled rfl)
  | replyDeclared component cause command request mapped _ _ _ _ =>
      refine ReflTransGen.tail ?_ (tick_messageScheduled rfl)
      exact Unscheduled.ticks ((Unscheduled.emitted cause component _).trans
        ((Unscheduled.withoutRequest _).trans
          ((Unscheduled.traced _ (by simp)).trans (Unscheduled.observed rfl))))
  | @timerDeclared message component cause delay deadline value _ hdeadline =>
      have heq := Duration.checkedAdd_eq_some hdeadline
      refine (hemitted cause component (.after delay value)).tail (.scheduled _ _ ?_ ?_)
      · rw [heq]
        exact Nat.le_add_right _ _
      · intro timer htimer _
        cases htimer
        exact ⟨core.now, delay, value, mem_declarations_emitted core cause component _, heq⟩
  | declarationFaulted component cause declaration descriptorType reason _ _ =>
      exact (hemitted cause component _).trans (Unscheduled.ticks (Unscheduled.faulted _ _ _ _))
  | replyMistyped component cause command request _ _ _ =>
      exact Unscheduled.ticks (((Unscheduled.emitted cause component _).trans
        (Unscheduled.withoutRequest _)).trans (Unscheduled.faulted _ _ _ _))
  | messageInput target message _ kernel _ =>
      exact (Unscheduled.ticks (Unscheduled.traced none (by simp))).tail (tick_messageScheduled rfl)
  | sourceInput source event _ _ _ =>
      let record : TraceEvent := .controlledSourceInput source.stamp.component
        source.stamp.subscription source.plan.terminalTypeName event.kind
      have htraced : Unscheduled core (core.traced none record) := Unscheduled.traced none (by simp [record])
      have hquiet := htraced.trans (@Unscheduled.observed _ _
        (.accepted source.stamp core.nextTrace event) rfl)
      exact (Unscheduled.ticks hquiet).tail (.scheduled _ _ (le_refl _) (by simp))
  | effectClaimed => exact (Unscheduled.ticks (Unscheduled.withClaim _))
  | effectDiscarded id entry outcome _ _ =>
      exact Unscheduled.ticks ((Unscheduled.withoutEffect _ id).trans
        (Unscheduled.traced none (by simp)))
  | effectMapped id entry outcome mapper message _ _ _ =>
      exact (Unscheduled.ticks ((Unscheduled.withoutEffect _ id).trans
        (Unscheduled.traced none (by simp)))).tail (tick_messageScheduled rfl)
  | sourceEventStale work event hdue _ _ =>
      exact (ReflTransGen.single (Tick.executed work hdue)).trans
        (Unscheduled.ticks (Unscheduled.traced _ (by simp)))
  | sourceEventMapped work event source plan outer mapped hdue _ _ _ _ _ =>
      have hquiet : Unscheduled (core.popped work) _ :=
        ((Unscheduled.withPlan source plan event.event outer).trans
          (@Unscheduled.observed _ _
            (.emitted source.stamp event.cause source.subscription outer mapped) rfl)).trans
            (Unscheduled.withSource source.stamp.component source.stamp.subscription
              fun source => { source with
                running := source.running &&
                  !(event.event.isTerminal || outer.any (·.isTerminal)) })
      exact ((ReflTransGen.single (Tick.executed work hdue)).trans
        (Unscheduled.ticks hquiet)).trans
          (ticks_foldl_withMappedEvent source event.cause mapped _)
  | messageStale work message stamp hdue _ _ _ =>
      exact (ReflTransGen.single (Tick.executed work hdue)).trans
        (Unscheduled.ticks (Unscheduled.traced _ (by simp)))
  | messageDelivered work message kernel kernel' command hdue hkind _ _ _ =>
      exact (ReflTransGen.single (Tick.fired work message hdue hkind)).trans
        (Unscheduled.ticks ((Unscheduled.withComponent _ _ _).trans
          (Unscheduled.traced _ (by simp))))
  | deliveryFaulted work message hdue hkind _ _ =>
      exact (ReflTransGen.single (Tick.fired work message hdue hkind)).trans
        (Unscheduled.ticks (Unscheduled.faulted _ _ _ _))
  | deliveryMismatched work message kernel hdue hkind _ _ _ =>
      exact (ReflTransGen.single (Tick.fired work message hdue hkind)).trans
        (Unscheduled.ticks (Unscheduled.withComponent _ _ _))

theorem Move.ticks {core' : Core} (h : Move core core') : ReflTransGen Tick core core' := by
  rcases h.2 with ⟨_, haction⟩ | ⟨time, hforward, hdue⟩
  · exact haction.ticks
  · exact ReflTransGen.single (.passed time hforward hdue)

theorem Interrupted.ticks {core' : Core} (h : Interrupted core core') :
    ReflTransGen Tick core core' := by
  cases h with
  | outside h => exact h.ticks
  | message work message hdue hkind h =>
      exact (ReflTransGen.single (Tick.fired work message hdue hkind)).trans h.ticks
  | sourceEvent work event hdue _ h =>
      exact (ReflTransGen.single (Tick.executed work hdue)).trans h.ticks

theorem Motion.ticks {core' : Core} (h : Motion core core') : ReflTransGen Tick core core' :=
  h.elim Move.ticks Interrupted.ticks

end Ticks

/-! ## The trace and the declarations -/

/-- What holds of the trace of every run. -/
structure Recorded (core : Core) : Prop where
  /-- The trace is in the order of its times. -/
  clock : core.trace.Pairwise (·.time ≤ ·.time)
  past : ∀ record ∈ core.trace, record.time ≤ core.now
  /-- A record carries its own position. -/
  position : core.trace.map (·.id) = List.range core.trace.length
  records : ∀ declared ∈ core.declarations, core.Records declared
  /-- One record stands for one declaration. -/
  distinct : (core.declarations.map (·.work)).Nodup

theorem Core.Records.later {core core' : Core} {declared : Declared}
    (h : core.Records declared) (htrace : core.trace <+: core'.trace) :
    core'.Records declared := by
  obtain ⟨record, hrecord, hfacts⟩ := h
  obtain ⟨records, hrecords⟩ := htrace
  refine ⟨record, ?_, hfacts⟩
  rw [← hrecords, List.getElem?_append_left (List.getElem?_eq_some_iff.mp hrecord).1]
  exact hrecord

theorem Core.Records.work_lt {core : Core} {declared : Declared} (h : core.Records declared) :
    declared.work < core.trace.length := by
  obtain ⟨record, hrecord, _⟩ := h
  exact (List.getElem?_eq_some_iff.mp hrecord).1

namespace Recorded

variable {core core' : Core}

theorem fresh (program : Program) (bindings : Bindings) :
    Recorded (Core.fresh program bindings) := by
  constructor <;> simp [Core.fresh, Core.declarations]

/-- States that agree on the trace and the declarations. -/
theorem of_eq (h : Recorded core) (hnow : core.now ≤ core'.now)
    (htrace : core'.trace = core.trace) (hdeclarations : core'.declarations = core.declarations) :
    Recorded core' := by
  refine ⟨?_, ?_, ?_, ?_, ?_⟩
  · rw [htrace]
    exact h.clock
  · intro record hrecord
    rw [htrace] at hrecord
    exact (h.past record hrecord).trans hnow
  · rw [htrace]
    exact h.position
  · intro declared hdeclared
    rw [hdeclarations] at hdeclared
    exact (h.records declared hdeclared).later (htrace ▸ List.prefix_rfl)
  · rw [hdeclarations]
    exact h.distinct

theorem traced (h : Recorded core) (cause : Option TraceId) (event : TraceEvent) :
    Recorded (core.traced cause event) := by
  refine ⟨?_, ?_, ?_, ?_, h.distinct⟩
  · refine List.pairwise_append.mpr ⟨h.clock, List.pairwise_singleton _ _, ?_⟩
    intro record hrecord last hlast
    rw [List.mem_singleton.mp hlast]
    exact h.past record hrecord
  · intro record hrecord
    rcases List.mem_append.mp hrecord with hold | hnew
    · exact h.past record hold
    · rw [List.mem_singleton.mp hnew]
      exact le_refl core.now
  · simp [h.position, List.range_succ]
  · intro declared hdeclared
    exact (h.records declared hdeclared).later (List.prefix_append _ _)

theorem declarations_observed {observation : Observation} (h : observation.isAside = true) :
    (core.observed observation).declarations = core.declarations := by
  have hnone : observation.declared? = none := by
    cases observation <;> first | rfl | cases h
  unfold Core.declarations
  rw [Core.observed_journal, List.filterMap_append]
  simp [hnone]

theorem declarations_emitted {message : TypeId} (cause : TraceId) (component : ComponentId)
    (declaration : Declaration message) :
    (core.emitted cause component declaration).declarations = core.declarations ++
      [⟨core.nextTrace, component, core.now, ⟨message, declaration⟩⟩] := by
  simp [Core.declarations, Core.emitted, Observation.declared?]

theorem emitted (h : Recorded core) {message : TypeId} (cause : TraceId)
    (component : ComponentId) (declaration : Declaration message) :
    Recorded (core.emitted cause component declaration) := by
  have htraced := h.traced (some cause) (emission component declaration)
  refine ⟨htraced.clock, htraced.past, htraced.position, ?_, ?_⟩
  · intro declared hdeclared
    rw [declarations_emitted] at hdeclared
    rcases List.mem_append.mp hdeclared with hold | hnew
    · exact (h.records declared hold).later (List.prefix_append _ _)
    · rw [List.mem_singleton.mp hnew]
      exact ⟨_, List.getElem?_concat_length, rfl, rfl⟩
  · rw [declarations_emitted, List.map_append]
    refine List.nodup_append.mpr ⟨h.distinct, List.nodup_singleton _, ?_⟩
    intro work hwork last hlast
    obtain ⟨declared, hdeclared, rfl⟩ := List.mem_map.mp hwork
    rw [List.mem_singleton.mp hlast]
    exact Nat.ne_of_lt (h.records declared hdeclared).work_lt

theorem popped (h : Recorded core) (work : ScheduledWork) : Recorded (core.popped work) := by
  refine h.of_eq (le_refl _) rfl ?_
  simp [Core.declarations, Observation.declared?]

theorem fired (h : Recorded core) (message : QueuedMessage) : Recorded (core.fired message) := by
  unfold Core.fired
  cases message.delivery with
  | message => exact h
  | timer => exact h.traced _ _

theorem quiet (h : Recorded core) (hquiet : Quiet core core') : Recorded core' := by
  cases hquiet with
  | traced cause event _ => exact h.traced cause event
  | observed observation haside => exact h.of_eq (le_refl _) rfl (declarations_observed haside)
  | emitted cause component declaration => exact h.emitted cause component declaration
  | tables hnow _ _ htrace hjournal =>
      refine h.of_eq (le_of_eq hnow.symm) htrace ?_
      unfold Core.declarations
      rw [hjournal]

theorem tick (h : Recorded core) (htick : Tick core core') : Recorded core' := by
  cases htick with
  | quiet hquiet => exact h.quiet hquiet
  | scheduled deadline kind _ _ => exact h.of_eq (le_refl _) rfl rfl
  | executed work _ => exact h.popped work
  | fired work message _ _ => exact (h.popped work).fired message
  | passed time hforward _ => exact h.of_eq hforward rfl rfl

theorem path (h : Recorded core) (hpath : ReflTransGen Tick core core') : Recorded core' :=
  @Exec.path_preserves _ Tick Recorded (fun _ _ hrecorded htick => hrecorded.tick htick) _ _
    hpath h

/-- The declaration behind a record is the only one. -/
theorem eq_of_work (h : Recorded core) {left right : Declared} (hleft : left ∈ core.declarations)
    (hright : right ∈ core.declarations) (hwork : left.work = right.work) : left = right :=
  List.inj_on_of_nodup_map h.distinct hleft hright hwork

end Recorded

end Controlled

end Samara
