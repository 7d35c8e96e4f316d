/-
  Samara.Controlled.Provenance

  Everything a controlled runtime owns originates from values of its own
  Program.  A capability, a reference or a Port of another one faults the run
  when a declaration carries it or a projection desires it, and is turned away
  when a harness passes it in; identities, names and types may all be the same.
-/
import Samara.Controlled.Causes
import Samara.Controlled.Cutover
import Samara.Controlled.Faults
import Samara.Controlled.Pledge
import Samara.Controlled.Time

namespace Samara

open Relation (ReflTransGen)

variable [RustTypes]

/-! ## Foreign values -/

/-- The Program that issued the capability, the reference or the Port that a
    declaration carries.  A Reply and a timer carry none. -/
def ErasedDeclaration.issuer? (erased : ErasedDeclaration) : Option ProgramId :=
  match erased.declaration with
  | .effect command => some command.capability.program
  | .send command => some command.target.program
  | .notify command => some command.port.program
  | .request command => some command.port.program
  | .reply _ | .after _ _ => none

def ErasedDeclaration.IsForeign (program : ProgramId) (erased : ErasedDeclaration) : Prop :=
  ∃ issuer, erased.issuer? = some issuer ∧ issuer ≠ program

theorem Program.own_of_declaresEffect {program : Program} {token : CapabilityToken}
    {descriptor : TypeId} (h : program.declaresEffect token descriptor = true) :
    token.program = program.program := by
  unfold Program.declaresEffect at h
  rw [Bool.and_eq_true] at h
  exact of_decide_eq_true h.1

/-- A declaration that is not foreign carries nothing, or something own. -/
theorem ErasedDeclaration.not_isForeign {program : ProgramId} {erased : ErasedDeclaration}
    (h : ∀ issuer, erased.issuer? = some issuer → issuer = program) : ¬ erased.IsForeign program := by
  rintro ⟨issuer, hissuer, hne⟩
  exact hne (h issuer hissuer)

namespace Controlled

/-- A harness passes a value of another Program to an operation. -/
def Operation.IsForeign (program : ProgramId) : Operation → Prop
  | .send target _ => target.program ≠ program
  | .emitStream _ stream _ => stream.program ≠ program
  | .closeStream stream => stream.program ≠ program
  | .emitSource target _ _ _ => target.program ≠ program
  | .complete pending _ => pending.program ≠ program
  | .nextEffect _ | .runUntilIdle _ | .advance _ _ | .advanceToNext _ => False

/-! ## Origins -/

namespace Core

/-- A declaration of `component` that carries nothing foreign stands behind the
    record `work`. -/
def Authorizes (core : Core) (work : TraceId) (component : ComponentId)
    (erased : ErasedDeclaration) : Prop :=
  (∃ time, ⟨work, component, time, erased⟩ ∈ core.declarations) ∧
    ¬ erased.IsForeign core.program.program

/-- The Effect declaration of a pending effect. -/
def Intends (core : Core) (entry : PendingEffectEntry) : Prop :=
  ∃ command : EffectCommand entry.messageType,
    core.Authorizes entry.requestTrace entry.component ⟨entry.messageType, .effect command⟩ ∧
      entry.descriptorType = command.descriptorType ∧ entry.mapper = command.mapper

/-- The Request declaration of an outstanding request. -/
def Issues (core : Core) (request : OutstandingRequest) : Prop :=
  ∃ (work : TraceId) (command : RequestCommand request.messageType),
    core.Authorizes work request.requester ⟨request.messageType, .request command⟩ ∧
      request.replyType = command.replyType ∧ request.mapper = command.mapper

/-- The realization `stamp` was activated under a capability of the Program. -/
def Realizes (core : Core) (stamp : SourceStamp) : Prop :=
  ∃ subscription, Observation.activated stamp subscription ∈ core.journal ∧
    ¬ subscription.IsForeign core.program.program

/-- Where a queued Message comes from. -/
inductive Emits (core : Core) (message : QueuedMessage) : Prop where
  /-- The harness has sent it. -/
  | input (parent : TraceRecord) (messageType : String)
      (hparent : core.trace[message.cause]? = some parent)
      (hevent : parent.event = .controlledMessageInput message.target messageType)
  | declared (component : ComponentId) (erased : ErasedDeclaration)
      (h : core.Authorizes message.cause component erased)
  | replied (parent : TraceRecord) (request : OutstandingRequest) (h : core.Issues request)
      (hparent : core.trace[message.cause]? = some parent)
      (hevent : parent.event = .requestOutcome message.target (typeName request.replyType))
      (htarget : message.target = request.requester)
  | completed (parent : TraceRecord) (entry : PendingEffectEntry) (outcome : EffectOutcomeKind)
      (h : core.Intends entry) (hparent : core.trace[message.cause]? = some parent)
      (hevent : parent.event = .effectOutcome entry.requestTrace message.target
        (typeName entry.descriptorType) outcome)
  | mapped (stamp : SourceStamp) (h : core.Realizes stamp) (hsource : message.source = some stamp)

/-- Where scheduled work comes from. -/
def Sanctions (core : Core) : ScheduledKind → Prop
  | .message message => core.Emits message
  | .sourceEvent event => core.Realizes event.stamp

/-- The run has faulted on a declaration, and has done nothing after it: the
    history ends with the declaration, the trace with its record and the fault. -/
structure Condemned (core : Core) (declared : Declared) : Prop where
  fault : ∃ descriptorType reason,
    core.fault = some (.fault declared.component descriptorType declared.work reason)
  last : core.journal.getLast? = some
    (.declared declared.work declared.component declared.time declared.declaration)
  stopped : core.trace.length = declared.work + 2

end Core

/-- Whatever a runtime owns or has done originates from its own Program. -/
structure Native (core : Core) : Prop where
  effects : ∀ entry ∈ core.effects, core.Intends entry
  sources : ∀ source ∈ core.sources, core.Realizes source.stamp
  work : ∀ work ∈ core.scheduled, core.Sanctions work.kind
  requests : ∀ request ∈ core.requests, core.Issues request
  /-- Every terminal event that was accepted or has reached a plan. -/
  accepted : ∀ stamp input event, Observation.accepted stamp input event ∈ core.journal →
    core.Realizes stamp
  reached : ∀ stamp event outer, Observation.mapped stamp event outer ∈ core.journal →
    core.Realizes stamp
  /-- Every continuation that was invoked. -/
  continued : ∀ request reply message, Observation.continued request reply message ∈ core.journal →
    core.Issues request
  completed : ∀ record ∈ core.trace, ∀ work, record.event.settles? = some work →
    ∃ entry : PendingEffectEntry, core.Intends entry ∧ entry.requestTrace = work

/-! ## What growth keeps -/

namespace Extends

variable {core core' : Core}

theorem program_eq (h : Extends core core') : core'.program.program = core.program.program :=
  congrArg Program.Shape.program h.shape

theorem authorizes (h : Extends core core') {work : TraceId} {component : ComponentId}
    {erased : ErasedDeclaration} (hauthorizes : core.Authorizes work component erased) :
    core'.Authorizes work component erased := by
  obtain ⟨⟨time, hdeclared⟩, hown⟩ := hauthorizes
  refine ⟨⟨time, h.declarations hdeclared⟩, ?_⟩
  rw [h.program_eq]
  exact hown

theorem intends (h : Extends core core') {entry : PendingEffectEntry}
    (hintends : core.Intends entry) : core'.Intends entry := by
  obtain ⟨command, hauthorizes, hfacts⟩ := hintends
  exact ⟨command, h.authorizes hauthorizes, hfacts⟩

theorem issues (h : Extends core core') {request : OutstandingRequest}
    (hissues : core.Issues request) : core'.Issues request := by
  obtain ⟨work, command, hauthorizes, hfacts⟩ := hissues
  exact ⟨work, command, h.authorizes hauthorizes, hfacts⟩

theorem realizes (h : Extends core core') {stamp : SourceStamp} (hrealizes : core.Realizes stamp) :
    core'.Realizes stamp := by
  obtain ⟨subscription, hactivated, hown⟩ := hrealizes
  refine ⟨subscription, h.journal.subset hactivated, ?_⟩
  rw [h.program_eq]
  exact hown

theorem sanctions (h : Extends core core') {kind : ScheduledKind} (hkind : core.Sanctions kind) :
    core'.Sanctions kind := by
  cases kind with
  | sourceEvent event => exact h.realizes hkind
  | message message =>
      cases hkind with
      | input parent messageType hparent hevent =>
          exact .input parent messageType (h.getElem hparent) hevent
      | declared component erased hauthorizes =>
          exact .declared component erased (h.authorizes hauthorizes)
      | replied parent request hissues hparent hevent htarget =>
          exact .replied parent request (h.issues hissues) (h.getElem hparent) hevent htarget
      | completed parent entry outcome hintends hparent hevent =>
          exact .completed parent entry outcome (h.intends hintends) (h.getElem hparent) hevent
      | mapped stamp hrealizes hsource => exact .mapped stamp (h.realizes hrealizes) hsource

end Extends

/-! ## What one step adds -/

section Steps

variable {phase : Phase} {core core' : Core}

/-- A declaration that was interpreted carries nothing foreign, or the step has
    faulted on it. -/
theorem Action.condemns (h : Action core phase core') {declared : Declared}
    (hmem : declared ∈ core'.declarations)
    (hforeign : declared.declaration.IsForeign core.program.program) :
    declared ∈ core.declarations ∨ core'.Condemned declared := by
  have hlast {message : TypeId} {component : ComponentId} {declaration : Declaration message}
      {observations : List Observation}
      (hjournal : core'.journal = core.journal ++
        .declared core.nextTrace component core.now ⟨message, declaration⟩ :: observations)
      (hobservations : observations.filterMap Observation.declared? = []) :
      declared ∈ core.declarations ∨
        declared = ⟨core.nextTrace, component, core.now, ⟨message, declaration⟩⟩ := by
    unfold Core.declarations at hmem
    rw [hjournal, List.filterMap_append] at hmem
    rcases List.mem_append.mp hmem with hold | hnew
    · exact Or.inl hold
    · rw [List.filterMap_cons] at hnew
      simp only [Observation.declared?, hobservations, List.mem_singleton] at hnew
      exact Or.inr hnew
  obtain ⟨issuer, hissuer, hne⟩ := hforeign
  cases h with
  | effectDeclared component cause command _ hdeclares =>
      rcases hlast rfl rfl with hold | rfl
      · exact Or.inl hold
      · cases hissuer
        exact absurd (Program.own_of_declaresEffect hdeclares) hne
  | sendDeclared component cause command _ hprogram =>
      rcases hlast rfl rfl with hold | rfl
      · exact Or.inl hold
      · cases hissuer
        exact absurd hprogram hne
  | notifyDeclared component cause command binding protocolMessage converted _ hprogram =>
      rcases hlast rfl rfl with hold | rfl
      · exact Or.inl hold
      · cases hissuer
        exact absurd hprogram hne
  | requestDeclared component cause command binding protocolMessage converted _ hprogram =>
      rcases hlast (List.append_assoc _ _ _) rfl with hold | rfl
      · exact Or.inl hold
      · cases hissuer
        exact absurd hprogram hne
  | replyDeclared component cause command request mapped =>
      rcases hlast (List.append_assoc _ _ _) rfl with hold | rfl
      · exact Or.inl hold
      · cases hissuer
  | timerDeclared component cause delay deadline value =>
      rcases hlast rfl rfl with hold | rfl
      · exact Or.inl hold
      · cases hissuer
  | declarationFaulted component cause declaration descriptorType reason =>
      rcases hlast rfl rfl with hold | rfl
      · exact Or.inl hold
      · refine Or.inr ⟨⟨descriptorType, reason, rfl⟩, ?_, ?_⟩
        · simp
        · simp [Core.nextTrace]
  | replyMistyped component cause command request =>
      rcases hlast rfl rfl with hold | rfl
      · exact Or.inl hold
      · cases hissuer
  | sourceEventMapped =>
      left
      simpa [Core.declarations, Core.withPlan, Core.withRunning, Observation.declared?] using hmem
  | _ =>
      left
      simpa [Core.declarations, Observation.declared?] using hmem

/-- What `emitted` records authorizes, unless it carries something foreign. -/
theorem authorizes_emitted {message : TypeId} {cause : TraceId} {component : ComponentId}
    {declaration : Declaration message}
    (hown : ∀ issuer, ErasedDeclaration.issuer? ⟨message, declaration⟩ = some issuer →
      issuer = core.program.program) :
    (core.emitted cause component declaration).Authorizes core.nextTrace component
      ⟨message, declaration⟩ :=
  ⟨⟨core.now, mem_declarations_emitted core cause component declaration⟩,
    ErasedDeclaration.not_isForeign hown⟩

namespace Native

theorem effects_action (h : Native core) (haction : Action core phase core') :
    ∀ entry ∈ core'.effects, core'.Intends entry := by
  have hextends := haction.extends
  intro entry hentry
  have hold (hmem : entry ∈ core.effects) : core'.Intends entry :=
    hextends.intends (h.effects entry hmem)
  cases haction with
  | effectDeclared component cause command _ hdeclares =>
      rcases List.mem_append.mp hentry with hmem | hnew
      · exact hold hmem
      · rw [List.mem_singleton.mp hnew]
        have hauthorizes := @authorizes_emitted _ core _ cause component (.effect command)
          fun issuer hissuer => Option.some.inj hissuer ▸ Program.own_of_declaresEffect hdeclares
        exact ⟨command, hauthorizes, rfl, rfl⟩
  | effectClaimed effectType claimed _ =>
      rcases Table.mem_modifyFirst hentry with hmem | ⟨found, hfound, rfl⟩
      · exact hold hmem
      · exact hextends.intends (h.effects found (List.mem_of_find?_eq_some hfound))
  | effectDiscarded => exact hold (List.mem_of_mem_eraseP hentry)
  | effectMapped => exact hold (List.mem_of_mem_eraseP hentry)
  | sourceEventMapped =>
      refine hold ?_
      simpa [Core.withPlan, Core.withRunning] using hentry
  | _ =>
      refine hold ?_
      simpa using hentry

theorem requests_action (h : Native core) (haction : Action core phase core') :
    ∀ request ∈ core'.requests, core'.Issues request := by
  have hextends := haction.extends
  intro request hrequest
  have hold (hmem : request ∈ core.requests) : core'.Issues request :=
    hextends.issues (h.requests request hmem)
  cases haction with
  | requestDeclared component cause command binding protocolMessage converted _ hprogram =>
      rcases List.mem_append.mp hrequest with hmem | hnew
      · exact hold hmem
      · rw [List.mem_singleton.mp hnew]
        have hauthorizes := @authorizes_emitted _ core _ cause component (.request command)
          fun issuer hissuer => (Option.some.inj hissuer).symm.trans hprogram
        have hrecorded : Extends (core.emitted cause component (.request command))
            (((core.emitted cause component (.request command)).withRequest
              (core.issue component command)).messageScheduled
                (plainMessage binding.provider.id binding.providerMessageType converted
                  core.nextTrace)) :=
          ⟨List.prefix_rfl, List.prefix_append _ _, rfl⟩
        exact ⟨core.nextTrace, command, hrecorded.authorizes hauthorizes, rfl, rfl⟩
  | replyDeclared => exact hold (List.mem_of_mem_eraseP hrequest)
  | replyMistyped => exact hold (List.mem_of_mem_eraseP hrequest)
  | sourceEventMapped =>
      refine hold ?_
      simpa [Core.withPlan, Core.withRunning] using hrequest
  | _ =>
      refine hold ?_
      simpa using hrequest

theorem sources_action (h : Native core) (haction : Action core phase core') :
    ∀ source ∈ core'.sources, core'.Realizes source.stamp := by
  have hextends := haction.extends
  intro source hsource
  have hrealizations := haction.realizations hsource
  have hold {old : ActiveSource} (hmem : old ∈ core.sources) (hstamp : old.stamp = source.stamp) :
      core'.Realizes source.stamp :=
    hstamp ▸ hextends.realizes (h.sources old hmem)
  cases haction with
  | started component cause subscription _ _ hactivatable =>
      rcases List.mem_append.mp hsource with hmem | hnew
      · exact hold hmem rfl
      · rw [List.mem_singleton.mp hnew]
        exact ⟨subscription, List.mem_append_right _ List.mem_cons_self, hactivatable.own⟩
  | replaced component cause subscription _ _ hactivatable =>
      rcases List.mem_append.mp hsource with hmem | hnew
      · exact hold (List.mem_of_mem_eraseP hmem) rfl
      · rw [List.mem_singleton.mp hnew]
        exact ⟨subscription, List.mem_append_right _ List.mem_cons_self, hactivatable.own⟩
  | sourceEventMapped =>
      rcases hrealizations with ⟨old, hmem, hstamp, _⟩ | ⟨_, hgeneration⟩
      · exact hold hmem hstamp
      · simp [Core.withPlan, Core.withRunning] at hgeneration
  | _ =>
      rcases hrealizations with ⟨old, hmem, hstamp, _⟩ | ⟨_, hgeneration⟩
      · exact hold hmem hstamp
      · simp at hgeneration

theorem work_action (h : Native core) (haction : Action core phase core') :
    ∀ work ∈ core'.scheduled, core'.Sanctions work.kind := by
  have hextends := haction.extends
  intro work hwork
  have hold (hmem : work ∈ core.scheduled) : core'.Sanctions work.kind :=
    hextends.sanctions (h.work work hmem)
  have hadded {added : ScheduledWork} (hmem : work ∈ core.scheduled ++ [added])
      (hsanctions : core'.Sanctions added.kind) : core'.Sanctions work.kind := by
    rcases List.mem_append.mp hmem with hmem | hnew
    · exact hold hmem
    · rw [List.mem_singleton.mp hnew]
      exact hsanctions
  have hpopped {popped : ScheduledWork} (hmem : work ∈ (core.popped popped).scheduled) :
      core'.Sanctions work.kind := hold (List.mem_of_mem_eraseP hmem)
  cases haction with
  | @sendDeclared message component cause command _ hprogram =>
      refine hadded hwork (.declared component ⟨message, .send command⟩ ?_)
      exact authorizes_emitted fun issuer hissuer =>
        (Option.some.inj hissuer).symm.trans hprogram
  | @notifyDeclared message component cause command binding protocolMessage converted _ hprogram =>
      refine hadded hwork (.declared component ⟨message, .notify command⟩ ?_)
      exact authorizes_emitted fun issuer hissuer =>
        (Option.some.inj hissuer).symm.trans hprogram
  | @requestDeclared message component cause command binding protocolMessage converted _ hprogram =>
      refine hadded hwork (.declared component ⟨message, .request command⟩ ?_)
      have hauthorizes := @authorizes_emitted _ core _ cause component (.request command)
        fun issuer hissuer => (Option.some.inj hissuer).symm.trans hprogram
      have hrecorded : Extends (core.emitted cause component (.request command))
          (((core.emitted cause component (.request command)).withRequest
            (core.issue component command)).messageScheduled
              (plainMessage binding.provider.id binding.providerMessageType converted
                core.nextTrace)) :=
        ⟨List.prefix_rfl, List.prefix_append _ _, rfl⟩
      exact hrecorded.authorizes hauthorizes
  | @replyDeclared message component cause command request mapped _ hrequest =>
      have hissues := h.requests request (List.mem_of_find?_eq_some hrequest)
      have hparent := Grammar.last_traced ((core.emitted cause component
        (.reply command : Declaration message)).withoutRequest command.replyTo.correlation)
        (some core.nextTrace) (.requestOutcome request.requester (typeName request.replyType))
      rw [Core.withoutRequest_nextTrace, Core.emitted_nextTrace] at hparent
      exact hadded hwork (.replied _ request (hextends.issues hissues) hparent rfl rfl)
  | @timerDeclared message component cause delay deadline value =>
      refine hadded hwork (.declared component ⟨message, .after delay value⟩ ?_)
      exact authorizes_emitted fun issuer hissuer => by cases hissuer
  | messageInput target message =>
      exact hadded hwork (.input _ _ (Grammar.last_traced core _ _) rfl)
  | sourceInput source event hsource =>
      exact hadded hwork (hextends.realizes (h.sources source hsource))
  | effectMapped id entry outcome mapper message hentry =>
      have hintends := h.effects entry (List.mem_of_find?_eq_some hentry)
      exact hadded hwork (.completed _ entry _ (hextends.intends hintends)
        (Grammar.last_traced core _ _) rfl)
  | sourceEventStale => exact hpopped hwork
  | messageStale => exact hpopped hwork
  | sourceEventMapped popped event source plan outer mapped _ _ hsource =>
      have hrealizes := hextends.realizes (h.sources source (List.mem_of_find?_eq_some hsource))
      obtain ⟨records, works, heq, _, _, _, hkinds⟩ :=
        Core.foldl_withMappedEvent source event.cause mapped
          ((((core.popped popped).withPlan source plan event.event outer).withEmission source
            event.cause outer mapped).withRunning source
              (event.event.isTerminal || outer.any (·.isTerminal)))
      rw [heq] at hwork
      rcases List.mem_append.mp hwork with hmem | hnew
      · exact hpopped hmem
      · obtain ⟨_, _, cause, hkind⟩ := hkinds work hnew
        rw [hkind]
        exact .mapped source.stamp hrealizes rfl
  | messageDelivered => exact hpopped (by simpa using hwork)
  | deliveryFaulted => exact hpopped (by simpa using hwork)
  | deliveryMismatched => exact hpopped (by simpa using hwork)
  | _ =>
      refine hold ?_
      simpa using hwork

theorem accepted_action (h : Native core) (haction : Action core phase core') :
    ∀ stamp input event, Observation.accepted stamp input event ∈ core'.journal →
      core'.Realizes stamp := by
  have hextends := haction.extends
  intro stamp input event hmem
  have hold (hmem : Observation.accepted stamp input event ∈ core.journal) : core'.Realizes stamp :=
    hextends.realizes (h.accepted _ _ _ hmem)
  cases haction with
  | sourceInput source accepted hsource =>
      rcases List.mem_append.mp hmem with hmem | hnew
      · exact hold hmem
      · cases List.mem_singleton.mp hnew
        exact hextends.realizes (h.sources source hsource)
  | sourceEventMapped =>
      refine hold ?_
      simpa [Core.withPlan, Core.withRunning] using hmem
  | _ =>
      refine hold ?_
      simpa using hmem

theorem reached_action (h : Native core) (haction : Action core phase core') :
    ∀ stamp event outer, Observation.mapped stamp event outer ∈ core'.journal →
      core'.Realizes stamp := by
  have hextends := haction.extends
  intro stamp event outer hmem
  have hold (hmem : Observation.mapped stamp event outer ∈ core.journal) : core'.Realizes stamp :=
    hextends.realizes (h.reached _ _ _ hmem)
  cases haction with
  | sourceEventMapped work accepted source plan made mapped _ _ hsource =>
      have hreached : Observation.mapped stamp event outer ∈ core.journal ∨
          (stamp = source.stamp ∧ event = accepted.event ∧ outer = made) := by
        simpa [Core.withPlan, Core.withRunning] using hmem
      rcases hreached with hmem | ⟨rfl, _⟩
      · exact hold hmem
      · exact hextends.realizes (h.sources source (List.mem_of_find?_eq_some hsource))
  | _ =>
      refine hold ?_
      simpa using hmem

theorem continued_action (h : Native core) (haction : Action core phase core') :
    ∀ request reply message, Observation.continued request reply message ∈ core'.journal →
      core'.Issues request := by
  have hextends := haction.extends
  intro request reply message hmem
  have hold (hmem : Observation.continued request reply message ∈ core.journal) :
      core'.Issues request := hextends.issues (h.continued _ _ _ hmem)
  cases haction with
  | replyDeclared component cause command answered mapped _ hrequest =>
      have hcontinued : Observation.continued request reply message ∈ core.journal ∨
          (request = answered ∧ reply = ⟨command.replyType, command.reply⟩ ∧ message = mapped) := by
        simpa using hmem
      rcases hcontinued with hmem | ⟨rfl, _⟩
      · exact hold hmem
      · exact hextends.issues (h.requests request (List.mem_of_find?_eq_some hrequest))
  | sourceEventMapped =>
      refine hold ?_
      simpa [Core.withPlan, Core.withRunning] using hmem
  | _ =>
      refine hold ?_
      simpa using hmem

/-- No step brings in anything foreign. -/
theorem action (h : Native core) (haction : Action core phase core') : Native core' where
  effects := h.effects_action haction
  sources := h.sources_action haction
  work := h.work_action haction
  requests := h.requests_action haction
  accepted := h.accepted_action haction
  reached := h.reached_action haction
  continued := h.continued_action haction
  completed := by
    intro record hrecord work hsettles
    rcases haction.settles hrecord hsettles with hold | ⟨_, entry, hentry, rfl⟩
    · obtain ⟨entry, hintends, hwork⟩ := h.completed record hold work hsettles
      exact ⟨entry, haction.extends.intends hintends, hwork⟩
    · exact ⟨entry, haction.extends.intends (h.effects entry hentry), rfl⟩

theorem passage (h : Native core) (time : Duration) : Native { core with now := time } := by
  have hextends : Extends core { core with now := time } := .of_eq rfl rfl rfl
  constructor
  · exact fun entry hentry => hextends.intends (h.effects entry hentry)
  · exact fun source hsource => hextends.realizes (h.sources source hsource)
  · exact fun work hwork => hextends.sanctions (h.work work hwork)
  · exact fun request hrequest => hextends.issues (h.requests request hrequest)
  · exact fun _ _ _ hmem => hextends.realizes (h.accepted _ _ _ hmem)
  · exact fun _ _ _ hmem => hextends.realizes (h.reached _ _ _ hmem)
  · exact fun _ _ _ hmem => hextends.issues (h.continued _ _ _ hmem)
  · intro record hrecord work hsettles
    obtain ⟨entry, hintends, hwork⟩ := h.completed record hrecord work hsettles
    exact ⟨entry, hextends.intends hintends, hwork⟩

theorem fresh (program : Program) (bindings : Bindings) : Native (Core.fresh program bindings) := by
  constructor <;> simp [Core.fresh]

end Native

/-- Every foreign declaration has made the run fault at once. -/
def Judged (core : Core) : Prop :=
  ∀ declared ∈ core.declarations, declared.declaration.IsForeign core.program.program →
    core.Condemned declared

/-- A runtime that owns nothing foreign, and that has faulted on all that is. -/
structure Guarded (core : Core) : Prop where
  native : Native core
  judged : Judged core
  requirements : ∀ requirement ∈ core.program.sourceRequirements,
    requirement.token.program = core.program.program

namespace Guarded

theorem fresh {builder : ProgramBuilder} (hassembled : builder.Assembled) (bindings : Bindings) :
    Guarded (Core.fresh builder.blueprint bindings) := by
  refine ⟨Native.fresh _ _, fun _ hmem => absurd hmem List.not_mem_nil, ?_⟩
  exact fun requirement hrequirement => (hassembled.numbered.sources requirement hrequirement).1

theorem action (h : Guarded core) (hok : core.fault = none) (haction : Action core phase core') :
    Guarded core' := by
  have hextends := haction.extends
  refine ⟨h.native.action haction, ?_, ?_⟩
  · intro declared hmem hforeign
    rw [hextends.program_eq] at hforeign
    rcases haction.condemns hmem hforeign with hold | hnew
    · -- A runtime that acts has not faulted before.
      obtain ⟨_, _, hfault⟩ := (h.judged declared hold hforeign).fault
      rw [hok] at hfault
      cases hfault
    · exact hnew
  · have hrequirements : core'.program.sourceRequirements = core.program.sourceRequirements :=
      congrArg Program.Shape.sourceRequirements hextends.shape
    rw [hrequirements, hextends.program_eq]
    exact h.requirements

theorem move (h : Guarded core) (hmove : Move core core') : Guarded core' := by
  obtain ⟨hok, ⟨phase, haction⟩ | hpassage⟩ := hmove
  · exact h.action hok haction
  · cases hpassage with
    | mk time =>
        refine ⟨h.native.passage time, ?_, h.requirements⟩
        intro declared hmem hforeign
        obtain ⟨_, _, hfault⟩ := (h.judged declared hmem hforeign).fault
        rw [hok] at hfault
        cases hfault

theorem path (h : Guarded core) (hpath : ReflTransGen Move core core') : Guarded core' :=
  @Exec.path_preserves _ Move Guarded (fun _ _ hguarded hmove => hguarded.move hmove) _ _ hpath h

/-- The requirements of a Program say nothing about a foreign capability. -/
theorem sourceRequirement_eq_none (h : Guarded core) {token : CapabilityToken}
    (hforeign : token.program ≠ core.program.program) :
    core.program.sourceRequirement token = none := by
  by_contra hfound
  obtain ⟨requirement, hrequirement⟩ := Option.ne_none_iff_exists'.mp hfound
  unfold Program.sourceRequirement at hrequirement
  have hfoundSame := List.find?_some hrequirement
  have hsame : requirement.token = token := CapabilityToken.sameAs_iff.mp hfoundSame
  have hown := h.requirements requirement (List.mem_of_find?_eq_some hrequirement)
  rw [hsame] at hown
  exact hforeign hown

end Guarded

end Steps

/-! ## What is refused -/

section Refusal

variable {core : Core}

/-- A foreign Port is turned away before any binding is looked up. -/
theorem run_resolvePort_foreign {component : ComponentId} (hok : core.fault = none)
    {protocol : TypeId} {port : Port protocol} (hforeign : port.program ≠ core.program.program)
    {work : TraceId} {noun : String} :
    (resolvePort component port work noun).run core =
      .error (.error (.fault component none work (noun ++ " Port belongs to another Program")))
        (core.faulted component none work (noun ++ " Port belongs to another Program")) := by
  unfold resolvePort
  rw [Exec.run_bind_ok (EStateM.run_get core), if_pos hforeign]
  exact run_failWithFault hok _ _ _ _

/-- A foreign declaration makes the run fault before anything of it is used: the
    state left depends on no conversion and no mapper. -/
theorem run_interpretDeclaration_foreign {message : TypeId} (component : ComponentId)
    (cause : TraceId) (declaration : Declaration message) (hok : core.fault = none)
    (hforeign : ErasedDeclaration.IsForeign core.program.program ⟨message, declaration⟩) :
    ∃ descriptorType reason, (interpretDeclaration component cause declaration).run core =
      .error (.error (.fault component descriptorType core.nextTrace reason))
        ((core.emitted cause component declaration).faulted component descriptorType
          core.nextTrace reason) := by
  have hok' : (core.emitted cause component declaration).fault = none := hok
  obtain ⟨issuer, hissuer, hne⟩ := hforeign
  cases declaration with
  | effect command =>
      cases hissuer
      have hundeclared : core.program.declaresEffect command.capability command.descriptorType =
          false := by
        by_contra hdeclared
        exact hne (Program.own_of_declaresEffect (Bool.eq_true_of_not_eq_false hdeclared))
      refine ⟨some (typeName command.descriptorType),
        "Effect capability belongs to another Program", ?_⟩
      show (interpretEffect component cause command).run core = _
      unfold interpretEffect
      rw [EStateM.run_bind, run_commandTrace core rfl]
      simp only [EStateM.run_bind, EStateM.run_get, Core.emitted_program, hundeclared]
      exact run_failWithFault hok' _ _ _ _
  | send command =>
      cases hissuer
      refine ⟨none, "direct send target " ++ command.target.id.debug ++
        " is absent from the Program", ?_⟩
      show (@interpretSend _ message component cause command).run core = _
      unfold interpretSend
      rw [EStateM.run_bind, run_commandTrace core rfl]
      simp only [EStateM.run_bind, EStateM.run_get]
      split
      · exact run_failWithFault hok' _ _ _ _
      · rename_i hpresent
        refine absurd ?_ hpresent
        rw [Bool.or_eq_true, decide_eq_true_eq]
        exact Or.inl hne
  | notify command =>
      cases hissuer
      refine ⟨none, "notification" ++ " Port belongs to another Program", ?_⟩
      show (@interpretNotify _ message component cause command).run core = _
      unfold interpretNotify
      rw [EStateM.run_bind, run_commandTrace core rfl]
      simp only [EStateM.run_bind]
      rw [run_resolvePort_foreign hok' hne]
  | request command =>
      cases hissuer
      refine ⟨none, "request" ++ " Port belongs to another Program", ?_⟩
      show (interpretRequest component cause command).run core = _
      unfold interpretRequest
      rw [EStateM.run_bind, run_commandTrace core rfl]
      simp only [EStateM.run_bind]
      rw [run_resolvePort_foreign hok' hne]
  | reply command => cases hissuer
  | after delay value => cases hissuer

/-- The declarations of a Command are not all interpreted when one is foreign:
    the run faults on it or on an earlier one, unless a callback of an earlier
    one panics. -/
theorem interpretDeclarations_foreign {message : TypeId} {component : ComponentId}
    {cause : TraceId} {declarations : List (Declaration message)} (hok : core.fault = none)
    (hauthor : core.Authors cause component message)
    (hforeign : ∃ declaration ∈ declarations,
      ErasedDeclaration.IsForeign core.program.program ⟨message, declaration⟩) :
    ∃ stop core', (interpretDeclarations component cause declarations).run core =
      .error stop core' ∧ ∀ error, stop = .error error → core'.fault = some error := by
  have hfaithful := faithful_interpretDeclarations hok component cause declarations
  suffices hstops : ∃ stop core', (interpretDeclarations component cause declarations).run core =
      .error stop core' by
    obtain ⟨stop, core', hrun⟩ := hstops
    refine ⟨stop, core', hrun, ?_⟩
    rintro error rfl
    rw [hrun] at hfaithful
    exact hfaithful
  clear hfaithful
  obtain ⟨foreign, hmem, hforeign⟩ := hforeign
  induction declarations generalizing core with
  | nil => cases hmem
  | cons declaration declarations ih =>
      unfold interpretDeclarations
      rw [EStateM.run_bind]
      have hproceeds := interpretDeclaration_proceeds hok hauthor declaration
      cases hrun : (interpretDeclaration component cause declaration).run core with
      | error stop core' => exact ⟨stop, core', rfl⟩
      | ok value core' =>
          rw [hrun] at hproceeds
          obtain ⟨hpath, hok', _⟩ := hproceeds
          rcases List.mem_cons.mp hmem with rfl | hrest
          · obtain ⟨_, _, hfaults⟩ :=
              run_interpretDeclaration_foreign component cause foreign hok hforeign
            rw [hrun] at hfaults
            cases hfaults
          · have hprogram : core'.program.program = core.program.program :=
              congrArg Program.Shape.program (shape_eq_path hpath)
            exact ih hok' (hauthor.path hpath) hrest (hprogram ▸ hforeign)

/-- So does the activation of a foreign Subscription. -/
theorem run_activateSource_foreign (component : ComponentId)
    (subscription : ErasedRuntimeSubscription) (work : TraceId) (hok : core.fault = none)
    (hforeign : subscription.IsForeign core.program.program) :
    ∃ descriptorType reason, (activateSource component subscription work).run core =
      .error (.error (.fault component descriptorType work reason))
        (core.faulted component descriptorType work reason) := by
  rcases activateSource_cases hok component subscription work with
    ⟨_, descriptorType, reason, hrun⟩ | ⟨hactivatable, _⟩
  · exact ⟨descriptorType, reason, hrun⟩
  · exact absurd hforeign hactivatable.own

/-- A harness that passes in a foreign value gets an error, and has done nothing. -/
theorem perform_foreign (h : Guarded core) {operation : Operation}
    (hforeign : operation.IsForeign core.program.program) :
    ∃ error, (perform operation).run core = .error (.error error) core := by
  cases hok : core.fault with
  | some error => exact ⟨error, perform_faulted hok operation⟩
  | none =>
      have hensure := run_ensureNotFaulted hok
      cases operation with
      | send target message =>
          have hrun : (Controlled.send target message).run core = .error (.error (.harness
              "controlled Message target is not part of this Program")) core := by
            unfold Controlled.send
            rw [Exec.run_bind_ok hensure, Exec.run_bind_ok (EStateM.run_get core)]
            dsimp only
            rw [if_pos (by simp [show target.program ≠ core.program.program from hforeign])]
            rfl
          exact ⟨_, run_bind_error hrun⟩
      | emitStream streamItem stream item =>
          have hrun : (Controlled.emitStream streamItem stream item).run core = .error (.error
              (.harness "controlled stream capability belongs to another Program")) core := by
            unfold Controlled.emitStream
            rw [Exec.run_bind_ok hensure, Exec.run_bind_ok (EStateM.run_get core),
              h.sourceRequirement_eq_none hforeign]
            rfl
          exact ⟨_, run_bind_error hrun⟩
      | closeStream stream =>
          have hrun : (Controlled.closeStream stream).run core = .error (.error
              (.harness "controlled stream capability belongs to another Program")) core := by
            unfold Controlled.closeStream
            rw [Exec.run_bind_ok hensure, Exec.run_bind_ok (EStateM.run_get core),
              h.sourceRequirement_eq_none hforeign]
            rfl
          exact ⟨_, run_bind_error hrun⟩
      | emitSource target id descriptorType event =>
          have hrun : (Controlled.emitSource target id descriptorType event).run core = .error
              (.error (.harness "controlled Source target is not part of this Program")) core := by
            unfold Controlled.emitSource
            rw [Exec.run_bind_ok hensure, Exec.run_bind_ok (EStateM.run_get core)]
            rw [if_pos (show target.program ≠ core.program.program from hforeign)]
            rfl
          exact ⟨_, run_bind_error hrun⟩
      | complete pending outcome =>
          have hrun : (Controlled.complete pending outcome).run core = .error (.error
              (.harness "pending effect belongs to another controlled runtime")) core := by
            unfold Controlled.complete
            rw [Exec.run_bind_ok hensure, Exec.run_bind_ok (EStateM.run_get core)]
            rw [if_pos (show pending.program ≠ core.program.program from hforeign)]
            rfl
          exact ⟨_, run_bind_error hrun⟩
      | nextEffect effectType => exact hforeign.elim
      | runUntilIdle fuel => exact hforeign.elim
      | advance fuel duration => exact hforeign.elim
      | advanceToNext fuel => exact hforeign.elim

end Refusal

/-! ## Provenance -/

/-- How a runtime answers to foreign values, in this state. -/
structure Refuses (core : Core) : Prop where
  /-- A foreign declaration faults before its conversions and its mapper run. -/
  declaration : ∀ {message : TypeId} (component : ComponentId) (cause : TraceId)
    (declaration : Declaration message), core.fault = none →
    ErasedDeclaration.IsForeign core.program.program ⟨message, declaration⟩ →
    ∃ descriptorType reason, (interpretDeclaration component cause declaration).run core =
      .error (.error (.fault component descriptorType core.nextTrace reason))
        ((core.emitted cause component declaration).faulted component descriptorType
          core.nextTrace reason)
  /-- A Command with a foreign declaration is never interpreted to its end. -/
  command : ∀ {message : TypeId} (component : ComponentId) (cause : TraceId)
    (command : Command message), core.fault = none → core.Authors cause component message →
    (∃ declaration ∈ command.intoDeclarations,
      ErasedDeclaration.IsForeign core.program.program ⟨message, declaration⟩) →
    ∃ stop core', (interpretCommand component cause command).run core = .error stop core' ∧
      ∀ error, stop = .error error → core'.fault = some error
  /-- A foreign Subscription faults before it is realized. -/
  activation : ∀ (component : ComponentId) (subscription : ErasedRuntimeSubscription)
    (work : TraceId), core.fault = none → subscription.IsForeign core.program.program →
    ∃ descriptorType reason, (activateSource component subscription work).run core =
      .error (.error (.fault component descriptorType work reason))
        (core.faulted component descriptorType work reason)

/-- What a run has come to as far as foreign values are concerned. -/
structure Provenance (core : Core) : Prop where
  native : Native core
  devoted : Devoted core
  judged : Judged core
  desired : ∀ id projection, Observation.projected id projection ∈ core.journal →
    projection.IsForeign core.program.program → core.fault ≠ none
  operation : ∀ operation : Operation, operation.IsForeign core.program.program →
    ∃ error, (perform operation).run core = .error (.error error) core
  inspection : ∀ {component : TypeId} (target : ComponentRef component),
    target.program ≠ core.program.program → (∃ error, core.state target = .error error) ∧
      ∀ id descriptorType, ∃ error, core.sourceDescriptor target id descriptorType = .error error

/-- Program provenance is enforced everywhere: nothing that a run owns or does
    originates from a foreign value, a foreign value in a declaration or a
    projection faults it, and one that a harness passes in changes nothing. -/
theorem program_provenance {start core : Core} (hstart : Launched start) (h : Reachable start core) :
    Provenance core ∧ ∀ middle : Core, Refuses middle := by
  obtain ⟨builder, bindings, hassembled, _, _, hinOrder⟩ := hstart.inOrder
  have hpath : ReflTransGen Move (Core.fresh builder.blueprint bindings) core :=
    (ReflTransGen.mono (fun _ _ => And.left) _ _ hinOrder.1).trans h.path
  have hguarded := (Guarded.fresh hassembled bindings).path hpath
  obtain ⟨hdevoted, hloyal⟩ := devoted_of_reachable hstart h
  refine ⟨⟨hguarded.native, hdevoted, hguarded.judged, ?_, fun _ => perform_foreign hguarded, ?_⟩,
    fun middle => ⟨run_interpretDeclaration_foreign,
      fun _ _ _ => interpretDeclarations_foreign, run_activateSource_foreign⟩⟩
  · exact fun id projection hprojected hforeign hok =>
      (hloyal hok).projected id projection hprojected hforeign
  · intro component target hforeign
    constructor
    · unfold Core.state
      rw [if_pos hforeign]
      exact ⟨_, rfl⟩
    · intro id descriptorType
      unfold Core.sourceDescriptor
      rw [if_pos hforeign]
      exact ⟨_, rfl⟩

end Controlled

end Samara

namespace Samara.Controlled

attribute [local instance] Sample.types

/-- A Component that uses a capability of another Program, with the number of one
    that its own Program has declared. -/
def trespasser : Component () where
  init := ((0 : Nat), .none)
  update := fun (model : Nat) _ =>
    (model + 1, .ok (.declaration (.effect ⟨⟨0, ⟨8⟩⟩, (), .plain 1, none⟩)))
  subscriptions _ := .ok []

def trespasserBuilder : ProgramBuilder :=
  ((ProgramBuilder.new ⟨7⟩).effect ()).component ⟨"trespasser"⟩ trespasser

def trespasserCore : Core := (assemble trespasserBuilder ⟨[()], [], []⟩).get rfl

def trespasserSent : Core := Exec.final
  ((perform (.send (⟨⟨"trespasser"⟩, ⟨7⟩⟩ : ComponentRef ()) (.plain 1))).run trespasserCore)

/-- The trespasser when it has made its run fault. -/
def trespasserCaught : Core := Exec.final ((perform (.runUntilIdle 20)).run trespasserSent)

theorem program_provenance_trespasser :
    Provenance trespasserCaught ∧ trespasserCaught.declarations.length = 1 ∧
      trespasserCaught.fault.isSome = true ∧ trespasserCaught.effects.length = 0 := by
  have hassembled : trespasserBuilder.Assembled := .component _ trespasser (.effect _ (.new ⟨7⟩))
  have hlaunched : Launched trespasserCore :=
    launched_of_assemble hassembled (Option.some_get _).symm
  have hreachable : Reachable trespasserCore trespasserCaught :=
    .operation (.runUntilIdle 20) (.operation (.send _ _) .refl (by decide +kernel))
      (by decide +kernel)
  exact ⟨(program_provenance hlaunched hreachable).1, by decide +kernel⟩

end Samara.Controlled
