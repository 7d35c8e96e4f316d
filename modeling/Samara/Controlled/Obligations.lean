/-
  Samara.Controlled.Obligations

  Where the rows of the runtime's tables come from: every piece of scheduled
  work, pending effect, outstanding request and active Source is an old row or
  one that a step accounts for.  From this follow the facts that every run
  keeps about the types of what its tables hold.
-/
import Samara.Controlled.Schedule

namespace Samara

open Relation (ReflTransGen)

variable [RustTypes]

namespace Controlled

/-! ## Scheduled Messages -/

/-- The Messages that a step can schedule. -/
inductive Enqueued (core : Core) : QueuedMessage → Prop where
  | sent {messageType : TypeId} (target : ComponentId) (message : Val messageType)
      (cause : TraceId) (hosted : core.program.Hosts target messageType) :
      Enqueued core (plainMessage target messageType ⟨messageType, message⟩ cause)
  | converted (binding : PortBinding) (protocolMessage message : ErasedValue) (cause : TraceId)
      (hbinding : binding ∈ core.program.bindings)
      (h : binding.convert protocolMessage = .ok message) :
      Enqueued core (plainMessage binding.provider.id binding.providerMessageType message cause)
  | replied (request : OutstandingRequest) (reply message : ErasedValue) (cause : TraceId)
      (hrequest : request ∈ core.requests) (h : request.mapper reply = .ok message) :
      Enqueued core (plainMessage request.requester request.messageType message cause)
  | completed (entry : PendingEffectEntry) (mapper : ErasedOutcomeMapper)
      (outcome : ErasedOutcome) (message : ErasedValue) (cause : TraceId)
      (hentry : entry ∈ core.effects) (hmapper : entry.mapper = some mapper)
      (h : mapper outcome = .ok message) :
      Enqueued core (plainMessage entry.component entry.messageType message cause)
  | armed {messageType : TypeId} (component : ComponentId) (message : Val messageType)
      (cause : TraceId) (hosted : core.program.Hosts component messageType) :
      Enqueued core ⟨component, messageType, ⟨messageType, message⟩, cause, none, .timer⟩
  | mapped (source : ActiveSource) (event : ErasedSourceEvent) (message : ErasedValue)
      (cause : TraceId) (hsource : source ∈ core.sources)
      (h : source.subscription.mapEvent event = .ok message) :
      Enqueued core (mappedMessage source message cause)

theorem mem_mapOuterEvents {subscription : ErasedRuntimeSubscription}
    {outer : List ErasedSourceEvent} {mapped : List (SourceEventKind × ErasedValue)}
    (h : mapOuterEvents subscription outer = .ok mapped) {event : SourceEventKind × ErasedValue}
    (hmem : event ∈ mapped) :
    ∃ original ∈ outer, subscription.mapEvent original = .ok event.2 := by
  induction outer generalizing mapped with
  | nil =>
      cases h
      cases hmem
  | cons head outer ih =>
      unfold mapOuterEvents at h
      cases hhead : subscription.mapEvent head with
      | error panic =>
          rw [hhead] at h
          cases h
      | ok message =>
          cases hrest : mapOuterEvents subscription outer with
          | error panic =>
              rw [hhead, hrest] at h
              cases h
          | ok rest =>
              rw [hhead, hrest] at h
              cases h
              rcases List.mem_cons.mp hmem with rfl | hrestMem
              · exact ⟨head, List.mem_cons_self, hhead⟩
              · obtain ⟨original, horiginal, hmapped⟩ := ih hrest hrestMem
                exact ⟨original, List.mem_cons_of_mem _ horiginal, hmapped⟩

section Origins

variable {phase : Phase} {core core' : Core}

/-- A scheduled Message was scheduled before, or the step scheduled it. -/
theorem Action.scheduled (h : Action core phase core') {work : ScheduledWork}
    {message : QueuedMessage} (hwork : work ∈ core'.scheduled)
    (hkind : work.kind = .message message) :
    work ∈ core.scheduled ∨ Enqueued core message := by
  have hadded {base : List ScheduledWork} {added : ScheduledWork}
      (hmem : work ∈ base ++ [added]) (hbase : base = core.scheduled)
      (henqueued : ∀ message, added.kind = .message message → Enqueued core message) :
      work ∈ core.scheduled ∨ Enqueued core message := by
    rcases List.mem_append.mp hmem with hold | hnew
    · exact Or.inl (hbase ▸ hold)
    · rw [List.mem_singleton.mp hnew] at hkind
      exact Or.inr (henqueued message hkind)
  have hpopped {popped : ScheduledWork} (hmem : work ∈ (core.popped popped).scheduled) :
      work ∈ core.scheduled ∨ Enqueued core message :=
    Or.inl (List.mem_of_mem_eraseP hmem)
  cases h with
  | sendDeclared component cause command hauthor hprogram kernel htarget =>
      refine hadded hwork (by simp) ?_
      rintro _ ⟨⟩
      exact .sent _ _ _ ⟨kernel, htarget⟩
  | notifyDeclared component cause command binding protocolMessage converted _ _ hbinding _
      hconverted =>
      refine hadded hwork (by simp) ?_
      rintro _ ⟨⟩
      exact .converted binding protocolMessage converted _ (List.mem_of_find?_eq_some hbinding)
        hconverted
  | requestDeclared component cause command binding protocolMessage converted _ _ hbinding _
      hconverted =>
      refine hadded hwork (by simp) ?_
      rintro _ ⟨⟩
      exact .converted binding protocolMessage converted _ (List.mem_of_find?_eq_some hbinding)
        hconverted
  | replyDeclared component cause command request mapped _ hrequest _ hmapped =>
      refine hadded hwork (by simp) ?_
      rintro _ ⟨⟩
      exact .replied request _ mapped _ (List.mem_of_find?_eq_some hrequest) hmapped
  | timerDeclared component cause delay deadline value hauthor _ =>
      refine hadded hwork (by simp) ?_
      rintro _ ⟨⟩
      exact .armed component value _ hauthor.hosted
  | messageInput target message _ kernel htarget =>
      refine hadded hwork (by simp) ?_
      rintro _ ⟨⟩
      exact .sent _ _ _ ⟨kernel, htarget⟩
  | sourceInput =>
      refine hadded hwork (by simp) ?_
      rintro _ ⟨⟩
  | effectMapped id entry outcome mapper mapped hentry hmapper hmapped =>
      refine hadded hwork (by simp) ?_
      rintro _ ⟨⟩
      exact .completed entry mapper _ mapped _ (List.mem_of_find?_eq_some hentry) hmapper hmapped
  | sourceEventStale => exact hpopped hwork
  | messageStale => exact hpopped hwork
  | sourceEventMapped popped event source plan outer mapped _ _ hsource _ _ hmapped =>
      obtain ⟨records, works, heq, _, _, _, hkinds⟩ :=
        Core.foldl_withMappedEvent source event.cause mapped
          ((((core.popped popped).withPlan source plan event.event outer).withEmission source
            event.cause outer mapped).withRunning source
              (event.event.isTerminal || outer.any (·.isTerminal)))
      rw [heq] at hwork
      rcases List.mem_append.mp hwork with hold | hnew
      · exact hpopped hold
      · obtain ⟨mappedEvent, hmem, cause, hnewKind⟩ := hkinds work hnew
        obtain ⟨original, _, hmessage⟩ := mem_mapOuterEvents hmapped hmem
        rw [hnewKind] at hkind
        cases hkind
        exact Or.inr (.mapped source original mappedEvent.2 cause
          (List.mem_of_find?_eq_some hsource) hmessage)
  | messageDelivered => exact hpopped (by simpa using hwork)
  | deliveryFaulted => exact hpopped (by simpa using hwork)
  | deliveryMismatched => exact hpopped (by simpa using hwork)
  | _ =>
      refine Or.inl ?_
      simpa using hwork

/-- A pending effect was pending before, or the step declared it. -/
theorem Action.effects (h : Action core phase core') {entry : PendingEffectEntry}
    (hentry : entry ∈ core'.effects) :
    (∃ old ∈ core.effects, entry = old ∨ entry = { old with descriptor := none }) ∨
      ∃ (message : TypeId) (component : ComponentId) (command : EffectCommand message),
        entry = pendingEntry component core.nextEffect core.nextTrace command ∧
          core.program.Hosts component message ∧
          ⟨core.nextTrace, component, core.now, ⟨message, .effect command⟩⟩ ∈
            core'.declarations := by
  have hold (hmem : entry ∈ core.effects) :
      ∃ old ∈ core.effects, entry = old ∨ entry = { old with descriptor := none } :=
    ⟨entry, hmem, Or.inl rfl⟩
  cases h with
  | @effectDeclared message component cause command hauthor _ _ =>
      rcases List.mem_append.mp hentry with hmem | hnew
      · exact Or.inl (hold hmem)
      · exact Or.inr ⟨message, component, command, List.mem_singleton.mp hnew, hauthor.hosted,
          mem_declarations_emitted core cause component (.effect command)⟩
  | effectClaimed effectType claimed _ =>
      rcases Table.mem_modifyFirst hentry with hmem | ⟨found, hfound, hnew⟩
      · exact Or.inl (hold hmem)
      · exact Or.inl ⟨found, List.mem_of_find?_eq_some hfound, Or.inr hnew⟩
  | effectDiscarded => exact Or.inl (hold (List.mem_of_mem_eraseP hentry))
  | effectMapped => exact Or.inl (hold (List.mem_of_mem_eraseP hentry))
  | sourceEventMapped =>
      refine Or.inl (hold ?_)
      simpa [Core.withPlan, Core.withRunning] using hentry
  | _ =>
      refine Or.inl (hold ?_)
      simpa using hentry

/-- An outstanding request was outstanding before, or the step issued it. -/
theorem Action.requests (h : Action core phase core') {request : OutstandingRequest}
    (hrequest : request ∈ core'.requests) :
    request ∈ core.requests ∨
      ∃ (message : TypeId) (component : ComponentId) (command : RequestCommand message),
        request = core.issue component command ∧ core.program.Hosts component message ∧
          Observation.requested request ∈ core'.journal := by
  cases h with
  | @requestDeclared message component cause command _ _ _ hauthor _ _ _ _ =>
      rcases List.mem_append.mp hrequest with hmem | hnew
      · exact Or.inl hmem
      · refine Or.inr ⟨message, component, command, List.mem_singleton.mp hnew, hauthor.hosted, ?_⟩
        rw [List.mem_singleton.mp hnew]
        simp
  | replyDeclared => exact Or.inl (List.mem_of_mem_eraseP hrequest)
  | replyMistyped => exact Or.inl (List.mem_of_mem_eraseP hrequest)
  | sourceEventMapped =>
      refine Or.inl ?_
      simpa [Core.withPlan, Core.withRunning] using hrequest
  | _ =>
      refine Or.inl ?_
      simpa using hrequest

/-- An active Source is one that was active, or serves a desired Subscription. -/
theorem Action.sources (h : Action core phase core') {source : ActiveSource}
    (hsource : source ∈ core'.sources) :
    (∃ old ∈ core.sources, old.stamp = source.stamp ∧ old.subscription = source.subscription) ∨
      core.Desires source.stamp.component source.subscription := by
  have hold {old : ActiveSource} (hmem : old ∈ core.sources) :
      ∃ other ∈ core.sources, other.stamp = old.stamp ∧ other.subscription = old.subscription :=
    ⟨old, hmem, rfl, rfl⟩
  have hactivated {base : List ActiveSource} {component : ComponentId}
      {subscription : ErasedRuntimeSubscription}
      (hmem : source ∈ base ++ [core.activation component subscription])
      (hbase : base ⊆ core.sources) (hdesires : core.Desires component subscription) :
      (∃ old ∈ core.sources,
        old.stamp = source.stamp ∧ old.subscription = source.subscription) ∨
        core.Desires source.stamp.component source.subscription := by
    rcases List.mem_append.mp hmem with hmem | hnew
    · exact Or.inl (hold (hbase hmem))
    · rw [List.mem_singleton.mp hnew]
      exact Or.inr hdesires
  cases h with
  | started component cause subscription _ hdesires _ =>
      exact hactivated hsource (List.Subset.refl _) hdesires
  | replaced component cause subscription _ hdesires _ =>
      exact hactivated hsource List.eraseP_subset hdesires
  | retained component cause subscription _ hdesires =>
      rcases Table.mem_modifyFirst hsource with hmem | ⟨found, hfound, rfl⟩
      · exact Or.inl (hold hmem)
      · have hcomponent := List.find?_some hfound
        simp only [ActiveSource.isOf, Bool.and_eq_true, decide_eq_true_eq] at hcomponent
        exact Or.inr (hcomponent.1 ▸ hdesires)
  | cancelled => exact Or.inl (hold (List.mem_of_mem_eraseP hsource))
  | replaceFaulted => exact Or.inl (hold (List.mem_of_mem_eraseP hsource))
  | sourceEventMapped work event active plan outer mapped _ _ _ _ _ _ =>
      rw [Core.foldl_withMappedEvent_sources] at hsource
      rcases Table.mem_modifyFirst hsource with hmem | ⟨found, hfound, rfl⟩
      · rcases Table.mem_modifyFirst hmem with hmem | ⟨found, hfound, rfl⟩
        · exact Or.inl (hold hmem)
        · exact Or.inl ⟨found, List.mem_of_find?_eq_some hfound, rfl, rfl⟩
      · rcases Table.mem_modifyFirst (List.mem_of_find?_eq_some hfound) with
          hmem | ⟨inner, hinner, rfl⟩
        · exact Or.inl ⟨found, hmem, rfl, rfl⟩
        · exact Or.inl ⟨inner, List.mem_of_find?_eq_some hinner, rfl, rfl⟩
  | _ =>
      refine Or.inl (hold ?_)
      simpa using hsource

/-- A projection on record was there before, or it is that of a Component. -/
theorem Action.projections (h : Action core phase core') {id : ComponentId}
    {desired : ErasedProjection} (hprojected : Observation.projected id desired ∈ core'.journal) :
    Observation.projected id desired ∈ core.journal ∨ core.program.Hosts id desired.messageType := by
  have hadded {messageType : TypeId} {other : ComponentId} {kernel : ErasedComponentKernel}
      {subscriptions : List (Subscription (RustTypes.componentMessage kernel.componentType))}
      (hmem : Observation.projected id desired ∈ core.journal ++ [.projected other ⟨_, subscriptions⟩])
      (hkernel : core.program.component? other messageType = some kernel) :
      Observation.projected id desired ∈ core.journal ∨
        core.program.Hosts id desired.messageType := by
    rcases List.mem_append.mp hmem with hold | hnew
    · exact Or.inl hold
    · cases List.mem_singleton.mp hnew
      have htype : kernel.messageType = messageType := (Program.component?_eq_some hkernel).2
      rw [← htype] at hkernel
      exact Or.inr ⟨kernel, hkernel⟩
  cases h with
  | projected other messageType kernel subscriptions changes reconciler hkernel _ _ =>
      exact hadded hprojected hkernel
  | duplicated other messageType kernel subscriptions duplicate hkernel _ _ =>
      exact hadded hprojected hkernel
  | sourceEventMapped =>
      refine Or.inl ?_
      simpa [Core.withPlan, Core.withRunning] using hprojected
  | _ =>
      refine Or.inl ?_
      simpa using hprojected

end Origins

/-! ## Types of what the tables hold -/

/-- Every boxed Message has the type its row says. -/
structure Typed (core : Core) : Prop where
  messages : ∀ work ∈ core.scheduled, ∀ message, work.kind = .message message →
    message.message.type = message.targetMessageType
  /-- A timer is never stamped with a Source. -/
  stamped : ∀ work ∈ core.scheduled, ∀ message, work.kind = .message message →
    ∀ stamp, message.source = some stamp → message.delivery = .message
  effects : ∀ entry ∈ core.effects, ∀ mapper, entry.mapper = some mapper →
    ∀ outcome message, mapper outcome = .ok message → message.type = entry.messageType
  requests : ∀ request ∈ core.requests,
    ∀ reply message, request.mapper reply = .ok message → message.type = request.messageType

theorem Enqueued.typed {core : Core} (htyped : Typed core) {message : QueuedMessage}
    (h : Enqueued core message) : message.message.type = message.targetMessageType := by
  cases h with
  | sent => rfl
  | converted binding protocolMessage converted cause _ hconverted =>
      exact PortBinding.convert_type hconverted
  | replied request reply mapped cause hrequest hmapped =>
      exact htyped.requests request hrequest reply mapped hmapped
  | completed entry mapper outcome mapped cause hentry hmapper hmapped =>
      exact htyped.effects entry hentry mapper hmapper outcome mapped hmapped
  | armed => rfl
  | mapped source event mapped cause _ hmapped => exact ErasedValue.type_of_map hmapped

theorem Enqueued.stamped {core : Core} {message : QueuedMessage} (h : Enqueued core message)
    {stamp : SourceStamp} (hstamp : message.source = some stamp) :
    message.delivery = .message := by
  cases h with
  | armed => cases hstamp
  | _ => rfl

theorem Typed.action {phase : Phase} {core core' : Core} (h : Typed core)
    (haction : Action core phase core') : Typed core' := by
  constructor
  · intro work hwork message hkind
    rcases haction.scheduled hwork hkind with hold | hnew
    · exact h.messages work hold message hkind
    · exact hnew.typed h
  · intro work hwork message hkind stamp hstamp
    rcases haction.scheduled hwork hkind with hold | hnew
    · exact h.stamped work hold message hkind stamp hstamp
    · exact hnew.stamped hstamp
  · intro entry hentry mapper hmapper outcome message hmessage
    rcases haction.effects hentry with ⟨old, hold, rfl | rfl⟩ |
        ⟨messageType, component, command, rfl, _⟩
    · exact h.effects entry hold mapper hmapper outcome message hmessage
    · exact h.effects old hold mapper hmapper outcome message hmessage
    · exact EffectCommand.mapper_type hmapper hmessage
  · intro request hrequest reply message hmessage
    rcases haction.requests hrequest with hold | ⟨messageType, component, command, rfl, _⟩
    · exact h.requests request hold reply message hmessage
    · exact RequestCommand.mapper_type hmessage

/-- A property of states that actions keep, and that does not look at the time,
    holds in every state that moves reach. -/
theorem move_preserves {P : Core → Prop}
    (haction : ∀ core core' phase, P core → Acts phase core core' → P core')
    (hpassage : ∀ core time, P core → P { core with now := time }) {core core' : Core}
    (hpath : ReflTransGen Move core core') (h : P core) : P core' := by
  refine Exec.path_preserves ?_ hpath h
  intro core core' hcore hmove
  rcases hmove with ⟨hok, ⟨phase, hstep⟩ | ⟨time, _, _⟩⟩
  · exact haction core core' phase hcore ⟨hok, hstep⟩
  · exact hpassage core time hcore

theorem Typed.path {core core' : Core} (h : Typed core) (hpath : ReflTransGen Move core core') :
    Typed core' :=
  move_preserves (fun _ _ _ htyped hacts => htyped.action hacts.2)
    (fun _ _ htyped => ⟨htyped.messages, htyped.stamped, htyped.effects, htyped.requests⟩) hpath h

theorem Typed.fresh (program : Program) (bindings : Bindings) :
    Typed (Core.fresh program bindings) := by
  constructor <;> simp [Core.fresh]

/-- No queued Message is refused by the kernel it is delivered to. -/
theorem Typed.accepted {core : Core} (h : Typed core) {work : ScheduledWork}
    {message : QueuedMessage} {kernel : ErasedComponentKernel}
    (hdue : core.nextDue = some work) (hkind : work.kind = .message message)
    (hkernel : core.program.component? message.target message.targetMessageType = some kernel) :
    message.message.downcast kernel.messageType ≠ none := by
  have htype := h.messages work (nextDue_eq_some hdue).1 message hkind
  rw [(Program.component?_eq_some hkernel).2]
  exact Option.isSome_iff_ne_none.mp (ErasedValue.downcast_isSome.mpr htype)

/-! ## Pending effects -/

/-- The declaration behind a pending effect. -/
def Core.Declares (core : Core) (entry : PendingEffectEntry) : Prop :=
  ∃ (message : TypeId) (command : EffectCommand message) (time : Duration),
    ⟨entry.requestTrace, entry.component, time, ⟨message, .effect command⟩⟩ ∈
        core.declarations ∧
      entry.mapper = command.mapper ∧ entry.descriptorType = command.descriptorType ∧
      entry.messageType = message

theorem declarations_grow {phase : Phase} {core core' : Core} (h : Action core phase core') :
    core.declarations ⊆ core'.declarations := by
  obtain ⟨observations, hobservations⟩ := h.journal_grows
  unfold Core.declarations
  rw [← hobservations, List.filterMap_append]
  exact List.subset_append_left _ _

/-- Every pending effect has been declared. -/
def Owed (core : Core) : Prop := ∀ entry ∈ core.effects, core.Declares entry

theorem Owed.action {phase : Phase} {core core' : Core} (h : Owed core)
    (haction : Action core phase core') : Owed core' := by
  have hgrow := declarations_grow haction
  intro entry hentry
  rcases haction.effects hentry with ⟨old, hold, hentryEq⟩ |
      ⟨messageType, component, command, rfl, _, hdeclared⟩
  · obtain ⟨message, command, time, hdeclared, hfields⟩ := h old hold
    rcases hentryEq with rfl | rfl
    · exact ⟨message, command, time, hgrow hdeclared, hfields⟩
    · exact ⟨message, command, time, hgrow hdeclared, hfields⟩
  · exact ⟨messageType, command, core.now, hdeclared, rfl, rfl, rfl⟩

theorem Owed.path {core core' : Core} (h : Owed core) (hpath : ReflTransGen Move core core') :
    Owed core' :=
  move_preserves (fun _ _ _ howed hacts => howed.action hacts.2) (fun _ _ howed => howed) hpath h

theorem Owed.fresh (program : Program) (bindings : Bindings) :
    Owed (Core.fresh program bindings) := by
  intro entry hentry
  cases hentry

end Controlled

end Samara
