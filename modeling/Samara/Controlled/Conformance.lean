/-
  Samara.Controlled.Conformance

  A Program whose Components use only what its builder and its runtime issued
  never faults.  What the two validators check once, at assembly, is a matter
  of the Program's shape; the rest is an invariant of the tables.
-/
import Samara.Controlled.Requests

namespace Samara

open Relation (ReflTransGen)

variable [RustTypes]

namespace Controlled

namespace Bindings

/-- Every declared capability has a controlled behaviour. -/
structure Complete (bindings : Bindings) (builder : ProgramBuilder) : Prop where
  effects : ∀ requirement ∈ builder.effectRequirements,
    requirement.descriptorType ∈ bindings.effects
  sources : ∀ requirement ∈ builder.sourceRequirements,
    requirement.terminalType ∈ bindings.sources ∨
      ∃ capability ∈ bindings.exactSources, capability = requirement.token

theorem validateEffects_ok {bindings : Bindings} {requirements : List EffectRequirement}
    (h : bindings.validateEffects requirements = .ok ()) :
    ∀ requirement ∈ requirements, requirement.descriptorType ∈ bindings.effects := by
  induction requirements with
  | nil => simp
  | cons requirement requirements ih =>
      unfold validateEffects at h
      split at h
      · rename_i hmem
        exact List.forall_mem_cons.mpr ⟨hmem, ih h⟩
      · cases h

theorem validateSources_ok {bindings : Bindings} {requirements : List SourceRequirement}
    (h : bindings.validateSources requirements = .ok ()) :
    ∀ requirement ∈ requirements, requirement.terminalType ∈ bindings.sources ∨
      ∃ capability ∈ bindings.exactSources, capability = requirement.token := by
  induction requirements with
  | nil => simp
  | cons requirement requirements ih =>
      unfold validateSources at h
      split at h
      · rename_i hcontrolled
        refine List.forall_mem_cons.mpr ⟨?_, ih h⟩
        simpa [CapabilityToken.sameAs_iff] using hcontrolled
      · cases h

theorem validate_ok {bindings : Bindings} {builder : ProgramBuilder}
    (h : bindings.validate builder.blueprint = .ok ()) : bindings.Complete builder := by
  unfold validate at h
  cases hexact : bindings.validateExacts builder.blueprint bindings.exactSources with
  | error error =>
      rw [hexact] at h
      cases h
  | ok _ =>
      cases heffects : bindings.validateEffects builder.blueprint.effectRequirements with
      | error error =>
          rw [hexact, heffects] at h
          cases h
      | ok _ =>
          rw [hexact, heffects] at h
          exact ⟨validateEffects_ok heffects, validateSources_ok h⟩

end Bindings

/-! ## Shape -/

/-- `core` runs the Program that `builder` built, under complete bindings. -/
structure Founded (builder : ProgramBuilder) (core : Core) : Prop where
  numbered : builder.Numbered
  wired : builder.Wired
  complete : core.bindings.Complete builder
  shape : core.program.shape = builder.blueprint.shape

namespace Founded

variable {builder : ProgramBuilder} {core core' : Core}

theorem action (h : Founded builder core) {phase : Phase} (haction : Action core phase core') :
    Founded builder core' :=
  ⟨h.numbered, h.wired, haction.bindings_eq ▸ h.complete, haction.shape_eq.trans h.shape⟩

theorem program_eq (h : Founded builder core) : core.program.program = builder.program :=
  congrArg Program.Shape.program h.shape

theorem bindings_eq (h : Founded builder core) : core.program.bindings = builder.bindings :=
  congrArg Program.Shape.bindings h.shape

theorem effectRequirements_eq (h : Founded builder core) :
    core.program.effectRequirements = builder.effectRequirements :=
  congrArg Program.Shape.effectRequirements h.shape

theorem sourceRequirements_eq (h : Founded builder core) :
    core.program.sourceRequirements = builder.sourceRequirements :=
  congrArg Program.Shape.sourceRequirements h.shape

/-- A Component registered with the builder is registered in the runtime. -/
theorem hosts (h : Founded builder core) {component : ErasedComponentKernel}
    (hcomponent : component ∈ builder.components) :
    core.program.Hosts component.id (RustTypes.componentMessage component.componentType) := by
  rw [Program.hosts_iff, h.shape]
  exact ⟨_, List.mem_map_of_mem hcomponent, rfl, rfl⟩

theorem hosts_provider (h : Founded builder core) {binding : PortBinding}
    (hbinding : binding ∈ core.program.bindings) :
    core.program.Hosts binding.provider.id binding.providerMessageType := by
  rw [h.bindings_eq] at hbinding
  obtain ⟨component, hcomponent, hid, htype⟩ := h.wired.providers binding hbinding
  have hhosts := h.hosts hcomponent
  rw [hid, htype] at hhosts
  exact hhosts

/-- The requirement found under an issued token is the one issued. -/
theorem sourceRequirement (h : Founded builder core) {requirement : SourceRequirement}
    (hrequirement : requirement ∈ builder.sourceRequirements) :
    core.program.sourceRequirement requirement.token = some requirement := by
  have hfound := Table.find?_of_nodup h.numbered.sourcesDistinct hrequirement
  unfold Program.sourceRequirement
  rw [h.sourceRequirements_eq]
  simp only [CapabilityToken.sameAs_eq]
  exact hfound

theorem effectRequirement (h : Founded builder core) {requirement : EffectRequirement}
    (hrequirement : requirement ∈ builder.effectRequirements) :
    core.program.effectRequirement requirement.token = some requirement := by
  have hfound := Table.find?_of_nodup h.numbered.effectsDistinct hrequirement
  unfold Program.effectRequirement
  rw [h.effectRequirements_eq]
  simp only [CapabilityToken.sameAs_eq]
  exact hfound

theorem declaresEffect (h : Founded builder core) {token : CapabilityToken}
    {descriptorType : TypeId} (hissued : builder.IssuesEffect token descriptorType) :
    core.program.declaresEffect token descriptorType = true := by
  obtain ⟨requirement, hrequirement, rfl, rfl⟩ := hissued
  unfold Program.declaresEffect
  rw [h.effectRequirement hrequirement, h.program_eq]
  simp [CapabilityToken.belongsTo, (h.numbered.effects _ hrequirement).1]

theorem declaresSourcePlan (h : Founded builder core) {token : CapabilityToken}
    {descriptorType : DescriptorType TypeId}
    (hissued : builder.IssuesSource token descriptorType) :
    core.program.declaresSourcePlan token descriptorType descriptorType.terminalType = true := by
  obtain ⟨requirement, hrequirement, rfl, rfl⟩ := hissued
  unfold Program.declaresSourcePlan Program.declaresSource
  rw [h.sourceRequirement hrequirement, h.program_eq]
  simp [CapabilityToken.belongsTo, (h.numbered.sources _ hrequirement).1,
    h.numbered.terminals _ hrequirement]

theorem binding (h : Founded builder core) {protocol : TypeId} {port : Port protocol}
    (hissued : builder.IssuesPort port) :
    core.program.binding? protocol port.id ≠ none := by
  obtain ⟨_, declared, hdeclared, hid, hprotocol⟩ := hissued
  obtain ⟨binding, hbinding, hbindingProtocol, hbindingId⟩ := h.wired.ports declared hdeclared
  unfold Program.binding?
  rw [h.bindings_eq]
  refine Option.isSome_iff_ne_none.mp (List.find?_isSome.mpr ⟨binding, hbinding, ?_⟩)
  simp [hbindingProtocol, hprotocol, hbindingId, hid]

/-- The realization of an authorized Subscription passes every check. -/
theorem activatable (h : Founded builder core) {subscription : ErasedRuntimeSubscription}
    (hissued : builder.IssuesSource subscription.capability subscription.descriptorType) :
    core.Activatable subscription := by
  have hterminal : subscription.sourcePlan.terminalType =
      subscription.descriptorType.terminalType := subscription.subscription.sourcePlan_terminalType
  refine ⟨subscription.subscription.sourcePlan_accepts, ?_, ?_⟩
  · rw [hterminal]
    exact h.declaresSourcePlan hissued
  · obtain ⟨requirement, hrequirement, htoken, htype⟩ := hissued
    unfold Core.terminalIsControlled
    rw [hterminal, ← htype, ← h.numbered.terminals requirement hrequirement]
    rcases h.complete.sources requirement hrequirement with htypeWide | ⟨capability, hmem, hexact⟩
    · simp [htypeWide]
    · rw [Bool.or_eq_true]
      refine Or.inr (List.any_eq_true.mpr ⟨capability, hmem, ?_⟩)
      rw [hexact, htoken]
      exact decide_eq_true rfl

/-- An authorized declaration does not fault. -/
theorem no_fault (h : Founded builder core) {message : TypeId} {declaration : Declaration message}
    (hauthorizes : builder.Authorizes core.now declaration)
    (hentrusts : ∀ command, declaration = .reply command → core.requests.find?
      (·.correlation = command.replyTo.correlation) ≠ none)
    {descriptorType : Option String} {reason : String} :
    ¬ DeclarationFault core declaration descriptorType reason := by
  intro hfault
  cases hfault with
  | effectForeign hforeign =>
      rw [h.declaresEffect hauthorizes] at hforeign
      cases hforeign
  | effectUncontrolled huncontrolled =>
      obtain ⟨requirement, hrequirement, _, htype⟩ := hauthorizes
      exact huncontrolled (htype ▸ h.complete.effects requirement hrequirement)
  | sendAbsent habsent =>
      obtain ⟨hprogram, component, hcomponent, hid, htype⟩ := hauthorizes
      rcases habsent with hforeign | hnone
      · exact hforeign (hprogram.trans h.program_eq.symm)
      · obtain ⟨kernel, hkernel⟩ := h.hosts hcomponent
        rw [hid, htype, hnone] at hkernel
        cases hkernel
  | notifyForeign hforeign => exact hforeign (hauthorizes.1.trans h.program_eq.symm)
  | notifyUnbound hunbound => exact h.binding hauthorizes hunbound
  | requestForeign hforeign => exact hforeign (hauthorizes.1.trans h.program_eq.symm)
  | requestUnbound hunbound => exact h.binding hauthorizes hunbound
  | @replyUnknown command hunknown => exact hentrusts command rfl hunknown
  | timerOverflow hoverflow =>
      have hwithin : core.now + _ ≤ Duration.max := hauthorizes
      unfold Duration.checkedAdd at hoverflow
      rw [if_pos hwithin] at hoverflow
      cases hoverflow

end Founded

/-! ## Targets -/

/-- Every row names a Component of the Message type that it delivers. -/
structure Addressed (core : Core) : Prop where
  messages : ∀ work ∈ core.scheduled, ∀ message, work.kind = .message message →
    core.program.Hosts message.target message.targetMessageType
  effects : ∀ entry ∈ core.effects, core.program.Hosts entry.component entry.messageType
  requests : ∀ request ∈ core.requests, core.program.Hosts request.requester request.messageType
  sources : ∀ source ∈ core.sources,
    core.program.Hosts source.stamp.component source.subscription.messageType
  projections : ∀ id desired, Observation.projected id desired ∈ core.journal →
    core.program.Hosts id desired.messageType

namespace Addressed

variable {builder : ProgramBuilder} {core core' : Core}

theorem enqueued (h : Addressed core) (hfounded : Founded builder core) {message : QueuedMessage}
    (henqueued : Enqueued core message) :
    core.program.Hosts message.target message.targetMessageType := by
  cases henqueued with
  | sent target message cause hosted => exact hosted
  | converted binding protocolMessage message cause hbinding _ =>
      exact hfounded.hosts_provider hbinding
  | replied request reply message cause hrequest _ => exact h.requests request hrequest
  | completed entry mapper outcome message cause hentry _ _ => exact h.effects entry hentry
  | armed component message cause hosted => exact hosted
  | mapped source event message cause hsource _ => exact h.sources source hsource

theorem action (h : Addressed core) (hfounded : Founded builder core) {phase : Phase}
    (haction : Action core phase core') : Addressed core' := by
  have hkeep {id : ComponentId} {messageType : TypeId} (hhosts : core.program.Hosts id messageType) :
      core'.program.Hosts id messageType := hhosts.of_shape haction.shape_eq
  constructor
  · intro work hwork message hkind
    rcases haction.scheduled hwork hkind with hold | hnew
    · exact hkeep (h.messages work hold message hkind)
    · exact hkeep (h.enqueued hfounded hnew)
  · intro entry hentry
    rcases haction.effects hentry with ⟨old, hold, rfl | rfl⟩ | ⟨_, _, _, rfl, hhosts, _⟩
    · exact hkeep (h.effects _ hold)
    · exact hkeep (h.effects old hold)
    · exact hkeep hhosts
  · intro request hrequest
    rcases haction.requests hrequest with hold | ⟨_, _, _, rfl, hhosts, _⟩
    · exact hkeep (h.requests request hold)
    · exact hkeep hhosts
  · intro source hsource
    rcases haction.sources hsource with ⟨old, hold, hstamp, hsubscription⟩ | hdesires
    · rw [← hstamp, ← hsubscription]
      exact hkeep (h.sources old hold)
    · obtain ⟨desired, hprojected, subscription, _, heq⟩ := hdesires
      rw [heq]
      exact hkeep (h.projections _ _ hprojected)
  · intro id desired hprojected
    rcases haction.projections hprojected with hold | hhosts
    · exact hkeep (h.projections id desired hold)
    · exact hkeep hhosts

end Addressed

/-! ## Runs -/

/-- The Subscriptions that projections of Models have desired, in order. -/
def Observation.projection? : Observation → Option ErasedProjection
  | .projected _ desired => some desired
  | _ => none

def Core.projections (core : Core) : List ErasedProjection :=
  core.journal.filterMap Observation.projection?

/-- The Components of a run have used only capabilities, references and Ports
    that the builder issued, and tokens that the runtime issued, each once; no
    Model has desired a Subscription twice, and every timer ends in time. -/
structure Conforms (builder : ProgramBuilder) (core : Core) : Prop where
  declarations : ∀ declared ∈ core.declarations,
    builder.Authorizes declared.time declared.declaration.declaration
  projections : ∀ desired ∈ core.projections, builder.AuthorizesDesired desired.subscriptions
  replies : core.LinearReplies

theorem mem_projections {core : Core} {id : ComponentId} {desired : ErasedProjection}
    (h : Observation.projected id desired ∈ core.journal) : desired ∈ core.projections :=
  List.mem_filterMap.mpr ⟨_, h, rfl⟩

/-- What a run has conformed to so far. -/
theorem Conforms.earlier {builder : ProgramBuilder} {core core' : Core}
    (h : Conforms builder core') (hjournal : core.journal <+: core'.journal) :
    Conforms builder core where
  declarations declared hdeclared :=
    h.declarations declared ((hjournal.filterMap _).subset hdeclared)
  projections desired hdesired := h.projections desired ((hjournal.filterMap _).subset hdesired)
  replies := h.replies.earlier (hjournal.filterMap _)

/-- The run of a conforming Program, before anything has gone wrong. -/
structure Harmless (builder : ProgramBuilder) (core : Core) : Prop where
  fault : core.fault = none
  founded : Founded builder core
  addressed : Addressed core
  requests : RequestLaw core

theorem linear_reply {message : TypeId} {core core' : Core} {component : ComponentId}
    {command : ReplyCommand} (hlinear : core'.LinearReplies)
    (hjournal : core'.journal = core.journal ++
      [.declared core.nextTrace component core.now ⟨message, .reply command⟩]) :
    core.Entrusts command := by
  refine Correlation.Linear.last ?_
  have hcorrelations : core'.correlations = core.correlations ++
      [.answered command.replyTo.correlation command.replyType] := by
    unfold Core.correlations
    rw [hjournal, List.filterMap_append]
    rfl
  exact hcorrelations ▸ hlinear

/-- No step of a conforming run faults. -/
theorem Harmless.action_ok {builder : ProgramBuilder} {core core' : Core}
    (h : Harmless builder core) {phase : Phase} (haction : Action core phase core')
    (hconforms : Conforms builder core') : core'.fault = none := by
  have hwanted {component : ComponentId} {subscription : ErasedRuntimeSubscription}
      (hdesires : core.Desires component subscription) (hjournal : core.journal <+: core'.journal) :
      core.Activatable subscription := by
    obtain ⟨desired, hprojected, wanted, hmem, rfl⟩ := hdesires
    have hauthorized := hconforms.projections desired
      (mem_projections (hjournal.subset hprojected))
    exact h.founded.activatable (hauthorized.2 wanted hmem)
  have hgrows := haction.journal_grows
  cases haction with
  | duplicateFaulted id work desired duplicate _ hprojected hduplicate =>
      have hauthorized := hconforms.projections desired
        (mem_projections (hgrows.subset hprojected))
      exact absurd hauthorized.1 hduplicate
  | startFaulted component cause subscription _ _ _ hdesires hinactive =>
      exact absurd (hwanted hdesires hgrows) hinactive
  | replaceFaulted component cause subscription _ _ _ hdesires hinactive =>
      exact absurd (hwanted hdesires hgrows) hinactive
  | @declarationFaulted message component cause declaration descriptorType reason _ hfault =>
      have hauthorizes : builder.Authorizes core.now declaration :=
        hconforms.declarations _ (mem_declarations_emitted core cause component declaration)
      refine absurd hfault (h.founded.no_fault hauthorizes ?_)
      rintro command rfl hnone
      have hentrusts := @linear_reply _ message core _ component command hconforms.replies rfl
      obtain ⟨request, _, _, _, hfound⟩ := h.requests.table.redeemed hentrusts
      exact Option.some_ne_none request (hfound.symm.trans hnone)
  | @replyMistyped message component cause command request _ hrequest htype =>
      have hentrusts := @linear_reply _ message core _ component command hconforms.replies rfl
      obtain ⟨found, _, _, hfoundType, hfound⟩ := h.requests.table.redeemed hentrusts
      have heq : request = found := Option.some.inj (hrequest.symm.trans hfound)
      exact absurd (heq ▸ hfoundType) htype
  | deliveryFaulted work message hdue hkind _ hkernel =>
      obtain ⟨kernel, hhosts⟩ :=
        h.addressed.messages work (nextDue_eq_some hdue).1 message hkind
      rw [hkernel] at hhosts
      cases hhosts
  | sourceEventMapped => simpa [Core.withPlan, Core.withRunning] using h.fault
  | _ => simpa using h.fault

theorem Harmless.fresh {builder : ProgramBuilder} {program : Program} {bindings : Bindings}
    (hassembled : builder.Assembled) (hbuild : builder.build = .ok program)
    (hvalid : bindings.validate program = .ok ()) :
    Harmless builder (Core.fresh program bindings) := by
  obtain ⟨rfl, hwired⟩ := ProgramBuilder.build_ok hbuild
  refine ⟨rfl, ⟨hassembled.numbered, hwired, Bindings.validate_ok hvalid, rfl⟩, ?_,
    RequestLaw.fresh _ _⟩
  constructor <;> simp [Core.fresh]

theorem Move.journal_grows {core core' : Core} (h : Move core core') :
    core.journal <+: core'.journal := by
  rcases h with ⟨_, ⟨phase, haction⟩ | ⟨time, _, _⟩⟩
  · exact haction.journal_grows
  · exact List.prefix_rfl

theorem Harmless.path {builder : ProgramBuilder} {core core' : Core} (h : Harmless builder core)
    (hpath : ReflTransGen Move core core') (hconforms : Conforms builder core') :
    Harmless builder core' := by
  induction hpath with
  | refl => exact h
  | tail _ hmove ih =>
      have hharmless := ih (hconforms.earlier hmove.journal_grows)
      have hrequests {core'' : Core} (hok : core''.fault = none)
          (hmove : Move _ core'') : RequestLaw core'' :=
        hharmless.requests.path hok (ReflTransGen.single hmove)
      rcases hmove with ⟨hok, ⟨phase, haction⟩ | ⟨time, hforward, hdue, hlimit⟩⟩
      · have hok' := hharmless.action_ok haction hconforms
        exact ⟨hok', hharmless.founded.action haction,
          hharmless.addressed.action hharmless.founded haction,
          hrequests hok' ⟨hok, Or.inl ⟨phase, haction⟩⟩⟩
      · obtain ⟨hmessages, heffects, hrows, hsources, hprojections⟩ := hharmless.addressed
        obtain ⟨hnumbered, hwired, hcomplete, hshape⟩ := hharmless.founded
        exact ⟨hok, ⟨hnumbered, hwired, hcomplete, hshape⟩,
          ⟨hmessages, heffects, hrows, hsources, hprojections⟩,
          hrequests hok ⟨hok, Or.inr (.mk time hforward hdue hlimit)⟩⟩

/-- A Program that both builders accept never faults, as long as its run uses
    only what the builder and the runtime issued. -/
theorem conforming_never_faults {builder : ProgramBuilder} {program : Program}
    {bindings : Bindings} {start core : Core} (hassembled : builder.Assembled)
    (hbuild : builder.build = .ok program) (hlaunch : launch program bindings = .ok start)
    (h : Reachable start core) (hconforms : Conforms builder core) : core.fault = none := by
  obtain ⟨hvalid, hpath⟩ := launch_path hlaunch
  have hfresh := Harmless.fresh hassembled hbuild hvalid
  exact (hfresh.path (hpath.trans h.path) hconforms).fault

end Controlled

end Samara

namespace Samara.Controlled

attribute [local instance] Sample.types

/-- A Component that uses an effect, a stream, a request to itself and a timer. -/
def station : Component () where
  init := ((0 : Nat), .batch [
    .declaration (.effect ⟨⟨0, ⟨7⟩⟩, (), .plain 1, some fun _ => .ok (.plain 2)⟩),
    .declaration (.request ⟨(), (), ⟨⟨"station"⟩, ⟨7⟩⟩, .plain 3, fun _ => .ok (.plain 4)⟩),
    .declaration (.after 5 (.plain 6))])
  update := fun (model : Nat) message => (model + 1, .ok (match message with
    | .asking number correlation => .declaration (.reply ⟨(), ⟨correlation⟩, .plain number⟩)
    | .plain _ => .none))
  subscriptions _ := .ok [⟨⟨"lines"⟩, ⟨1, ⟨7⟩⟩, .stream (), trivial, "lines", fun _ => .ok (.plain 8)⟩]

def stationBuilder : ProgramBuilder :=
  (((((ProgramBuilder.new ⟨7⟩).effect ()).source (.stream ())).component ⟨"station"⟩ station).port ()
    ⟨"station"⟩).bindPort (⟨⟨"station"⟩, ⟨7⟩⟩ : Port ()) (⟨⟨"station"⟩, ⟨7⟩⟩ : ComponentRef ())

def stationBindings : Bindings := ⟨[()], [.stream ()], []⟩

def stationCore : Core := (assemble stationBuilder stationBindings).get rfl

/-- The station when it has answered its own request. -/
def stationAnswered : Core := Exec.final ((perform (.runUntilIdle 20)).run stationCore)

theorem conforming_never_faults_station :
    stationAnswered.fault = none ∧ stationAnswered.sources.length = 1 ∧
      stationAnswered.continuations.length = 1 := by
  have hconforms : Conforms stationBuilder stationAnswered :=
    ⟨by decide +kernel, by decide +kernel, by decide +kernel⟩
  have hassembled : stationBuilder.Assembled :=
    .bindPort _ _ (.port _ _ (.component _ station (.source _ (.effect _ (.new ⟨7⟩)))))
  exact ⟨@conforming_never_faults _ stationBuilder stationBuilder.blueprint stationBindings
    stationCore stationAnswered hassembled rfl rfl
    (.operation (.runUntilIdle 20) .refl (by decide +kernel)) hconforms, by decide +kernel⟩

end Samara.Controlled
