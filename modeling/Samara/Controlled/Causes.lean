/-
  Samara.Controlled.Causes

  The trace of the controlled runtime is a causal forest: which records are
  roots, which record a record of each kind can be a child of, and that no
  record causes two transitions.

  A cause can be carried for a long time inside queued work, so the grammar of
  the trace is proved together with that of the queue.
-/
import Samara.Controlled.Ledger

namespace Samara

open Relation (ReflTransGen)

variable [RustTypes]

/-- The records that have no cause. -/
def TraceEvent.isRoot : TraceEvent → Bool
  | .initialization _ => true
  | .controlledMessageInput _ _ => true
  | .controlledSourceInput _ _ _ _ => true
  | .effectOutcome _ _ _ _ => true
  | _ => false

/-- The Port that a Notify or a Request is addressed to. -/
def ErasedDeclaration.port? (erased : ErasedDeclaration) : Option (TypeId × PortId) :=
  match erased.declaration with
  | .notify command => some (command.protocol, command.port.id)
  | .request command => some (command.protocol, command.port.id)
  | _ => none

namespace Controlled

/-! ## The grammar -/

/-- `parent` is the record of a Message for `component`. -/
inductive Core.Delivers (core : Core) (component : ComponentId) (parent : TraceRecord) : Prop where
  | input (messageType : String)
      (h : parent.event = .controlledMessageInput component messageType)
  | outcome (effect : TraceId) (effectType : String) (outcome : EffectOutcomeKind)
      (h : parent.event = .effectOutcome effect component effectType outcome)
  | mapped (subscription : SubscriptionId) (descriptorType : String) (kind : SourceEventKind)
      (h : parent.event = .sourceEventMapped component subscription descriptorType kind)
  | replied (replyType : String) (h : parent.event = .requestOutcome component replyType)
  | fired (messageType : String) (h : parent.event = .timerFired component messageType)
  | sent (sender : ComponentId) (messageType : String)
      (h : parent.event = .commandEmitted sender .send messageType (some component) none)
  /-- A Notify or a Request whose Port is bound to `component`. -/
  | bound (sender : ComponentId) (kind : TraceCommandKind) (name : String) (binding : PortBinding)
      (hkind : kind = .notify ∨ kind = .request)
      (h : parent.event = .commandEmitted sender kind name none (some binding.port.id))
      (hport : ∃ declared ∈ core.declarations, declared.work = parent.id ∧
        declared.declaration.port? = some (binding.protocol, binding.port.id))
      (hbinding : core.program.binding? binding.protocol binding.port.id = some binding)
      (hprovider : binding.provider.id = component)

/-- `parent` is the record of a Reply to a request that `component` issued. -/
def Core.Replies (core : Core) (component : ComponentId) (parent : TraceRecord) : Prop :=
  (∃ sender replyType, parent.event = .commandEmitted sender .reply replyType none none) ∧
    ∃ (declared : Declared) (command : ReplyCommand) (messageType : TypeId)
      (request : OutstandingRequest),
      declared ∈ core.declarations ∧ declared.work = parent.id ∧
        declared.declaration = ⟨messageType, .reply command⟩ ∧
        Observation.requested request ∈ core.journal ∧
        request.correlation = command.replyTo.correlation ∧ request.requester = component

/-- A record of `event` can be a child of `parent`. -/
def Core.Begets (core : Core) (parent : TraceRecord) : TraceEvent → Prop
  | .commandEmitted component _ _ _ _ | .subscriptionLifecycle component _ _ _ =>
      parent.event = .initialization component ∨
        ∃ messageType, parent.event = .transition component messageType
  | .sourceEventMapped component subscription _ _ =>
      ∃ name kind, parent.event = .controlledSourceInput component subscription name kind
  | .timerFired component messageType =>
      parent.event = .commandEmitted component .timer messageType (some component) none
  | .requestOutcome component _ => core.Replies component parent
  | .staleSourceWorkDropped component subscription false =>
      ∃ name kind, parent.event = .controlledSourceInput component subscription name kind
  | .staleSourceWorkDropped component subscription true =>
      ∃ name kind, parent.event = .sourceEventMapped component subscription name kind
  | .transition component _ => core.Delivers component parent
  | .runtimeFault _ work _ _ => parent.id = work
  | _ => False

/-- A record is a root, or the child of an earlier record that can beget it. -/
inductive Core.Caused (core : Core) (record : TraceRecord) : Prop where
  | root (hcause : record.cause = none) (hroot : record.event.isRoot = true)
  | child (cause : TraceId) (parent : TraceRecord) (hcause : record.cause = some cause)
      (hroot : record.event.isRoot = false) (hearlier : cause < record.id)
      (hparent : core.trace[cause]? = some parent) (hbegets : core.Begets parent record.event)

/-- The cause that queued work carries is the record of what it stands for. -/
def Core.Justifies (core : Core) : ScheduledKind → Prop
  | .sourceEvent event => ∃ parent name kind, core.trace[event.cause]? = some parent ∧
      parent.event =
        .controlledSourceInput event.stamp.component event.stamp.subscription name kind
  | .message message => ∃ parent, core.trace[message.cause]? = some parent ∧
      match message.delivery with
      | .timer => parent.event =
          .commandEmitted message.target .timer message.messageTypeName (some message.target) none
      | .message => core.Delivers message.target parent ∧
          ∀ stamp, message.source = some stamp → ∃ name kind,
            parent.event = .sourceEventMapped stamp.component stamp.subscription name kind

/-! ## Growth -/

/-- What of a state the grammar looks at, and how it can change. -/
structure Extends (core core' : Core) : Prop where
  trace : core.trace <+: core'.trace
  journal : core.journal <+: core'.journal
  shape : core'.program.shape = core.program.shape

theorem Action.extends {phase : Phase} {core core' : Core} (h : Action core phase core') :
    Extends core core' :=
  ⟨h.trace_grows, h.journal_grows, h.shape_eq⟩

namespace Extends

variable {core core' : Core}

theorem getElem (h : Extends core core') {index : TraceId} {record : TraceRecord}
    (hrecord : core.trace[index]? = some record) : core'.trace[index]? = some record := by
  obtain ⟨records, hrecords⟩ := h.trace
  rw [← hrecords, List.getElem?_append_left (List.getElem?_eq_some_iff.mp hrecord).1]
  exact hrecord

theorem declarations (h : Extends core core') : core.declarations ⊆ core'.declarations :=
  (h.journal.filterMap _).subset

theorem binding (h : Extends core core') {protocol : TypeId} {port : PortId} :
    core'.program.binding? protocol port = core.program.binding? protocol port := by
  have hbindings : core'.program.bindings = core.program.bindings :=
    congrArg Program.Shape.bindings h.shape
  unfold Program.binding?
  rw [hbindings]

theorem delivers (h : Extends core core') {component : ComponentId} {parent : TraceRecord}
    (hdelivers : core.Delivers component parent) : core'.Delivers component parent := by
  cases hdelivers with
  | input messageType hevent => exact .input messageType hevent
  | outcome effect effectType outcome hevent => exact .outcome effect effectType outcome hevent
  | mapped subscription name kind hevent => exact .mapped subscription name kind hevent
  | replied replyType hevent => exact .replied replyType hevent
  | fired messageType hevent => exact .fired messageType hevent
  | sent sender messageType hevent => exact .sent sender messageType hevent
  | bound sender kind name binding hkind hevent hport hbinding hprovider =>
      obtain ⟨declared, hdeclared, hfacts⟩ := hport
      exact .bound sender kind name binding hkind hevent
        ⟨declared, h.declarations hdeclared, hfacts⟩ (h.binding.trans hbinding) hprovider

theorem begets (h : Extends core core') {parent : TraceRecord} {event : TraceEvent}
    (hbegets : core.Begets parent event) : core'.Begets parent event := by
  cases event with
  | transition component messageType => exact h.delivers hbegets
  | requestOutcome component replyType =>
      obtain ⟨hreply, declared, command, messageType, request, hdeclared, hwork, heq, hrequested,
        hfacts⟩ := hbegets
      exact ⟨hreply, declared, command, messageType, request, h.declarations hdeclared, hwork, heq,
        h.journal.subset hrequested, hfacts⟩
  | staleSourceWorkDropped component subscription mapped => cases mapped <;> exact hbegets
  | _ => exact hbegets

theorem caused (h : Extends core core') {record : TraceRecord} (hcaused : core.Caused record) :
    core'.Caused record := by
  cases hcaused with
  | root hcause hroot => exact .root hcause hroot
  | child cause parent hcause hroot hearlier hparent hbegets =>
      exact .child cause parent hcause hroot hearlier (h.getElem hparent) (h.begets hbegets)

theorem justifies (h : Extends core core') {kind : ScheduledKind} (hkind : core.Justifies kind) :
    core'.Justifies kind := by
  cases kind with
  | sourceEvent event =>
      obtain ⟨parent, name, kind, hparent, hevent⟩ := hkind
      exact ⟨parent, name, kind, h.getElem hparent, hevent⟩
  | message message =>
      obtain ⟨parent, hparent, hmessage⟩ := hkind
      refine ⟨parent, h.getElem hparent, ?_⟩
      cases hdelivery : message.delivery with
      | timer =>
          rw [hdelivery] at hmessage
          exact hmessage
      | message =>
          rw [hdelivery] at hmessage
          exact ⟨h.delivers hmessage.1, hmessage.2⟩

theorem of_eq (htrace : core'.trace = core.trace) (hjournal : core'.journal = core.journal)
    (hprogram : core'.program.shape = core.program.shape) : Extends core core' :=
  ⟨htrace ▸ List.prefix_rfl, hjournal ▸ List.prefix_rfl, hprogram⟩

theorem traced (core : Core) (cause : Option TraceId) (event : TraceEvent) :
    Extends core (core.traced cause event) := ⟨List.prefix_append _ _, List.prefix_rfl, rfl⟩

theorem observed (core : Core) (observation : Observation) :
    Extends core (core.observed observation) := ⟨List.prefix_rfl, List.prefix_append _ _, rfl⟩

end Extends

/-! ## What the changes of a step keep -/

/-- The grammar of the trace and of the queue. -/
structure Grammar (core : Core) : Prop where
  position : ∀ (index : TraceId) (record : TraceRecord),
    core.trace[index]? = some record → record.id = index
  records : ∀ record ∈ core.trace, core.Caused record
  queue : ∀ work ∈ core.scheduled, core.Justifies work.kind

/-- `cause` is on record, and can beget `event`. -/
def Core.Causes (core : Core) (cause : TraceId) (event : TraceEvent) : Prop :=
  ∃ parent, core.trace[cause]? = some parent ∧ core.Begets parent event

namespace Grammar

variable {core core' : Core}

theorem fresh (program : Program) (bindings : Bindings) :
    Grammar (Core.fresh program bindings) := by
  constructor <;> simp [Core.fresh]

/-- A change that neither appends a record nor schedules work. -/
theorem kept (h : Grammar core) (hextends : Extends core core')
    (htrace : core'.trace = core.trace) (hscheduled : core'.scheduled ⊆ core.scheduled) :
    Grammar core' := by
  refine ⟨?_, ?_, ?_⟩
  · rw [htrace]
    exact h.position
  · intro record hrecord
    rw [htrace] at hrecord
    exact hextends.caused (h.records record hrecord)
  · exact fun work hwork => hextends.justifies (h.queue work (hscheduled hwork))

theorem observed (h : Grammar core) (observation : Observation) :
    Grammar (core.observed observation) :=
  h.kept (Extends.observed core observation) rfl (List.Subset.refl _)

theorem traced_of (h : Grammar core) (cause : Option TraceId) (event : TraceEvent)
    (hcaused : (core.traced cause event).Caused ⟨core.trace.length, core.now, cause, event⟩) :
    Grammar (core.traced cause event) := by
  have hextends := Extends.traced core cause event
  refine ⟨?_, ?_, fun work hwork => hextends.justifies (h.queue work hwork)⟩
  · intro index record hrecord
    rw [Core.traced_trace] at hrecord
    by_cases hindex : index < core.trace.length
    · rw [List.getElem?_append_left hindex] at hrecord
      exact h.position index record hrecord
    · have hlast : index = core.trace.length := by
        have hlt := (List.getElem?_eq_some_iff.mp hrecord).1
        rw [List.length_append, List.length_singleton] at hlt
        exact Nat.le_antisymm (Nat.lt_succ_iff.mp hlt) (Nat.not_lt.mp hindex)
      rw [hlast, List.getElem?_concat_length] at hrecord
      cases hrecord
      exact hlast.symm
  · intro record hrecord
    rcases List.mem_append.mp hrecord with hold | hnew
    · exact hextends.caused (h.records record hold)
    · rw [List.mem_singleton.mp hnew]
      exact hcaused

theorem root (h : Grammar core) {event : TraceEvent} (hroot : event.isRoot = true) :
    Grammar (core.traced none event) := h.traced_of none event (.root rfl hroot)

theorem child (h : Grammar core) {cause : TraceId} {event : TraceEvent}
    (hcauses : core.Causes cause event) (hroot : event.isRoot = false) :
    Grammar (core.traced (some cause) event) := by
  obtain ⟨parent, hparent, hbegets⟩ := hcauses
  have hextends := Extends.traced core (some cause) event
  exact h.traced_of (some cause) event (.child cause parent rfl hroot
    (List.getElem?_eq_some_iff.mp hparent).1 (hextends.getElem hparent) (hextends.begets hbegets))

theorem scheduledAt (h : Grammar core) (deadline : Duration) {kind : ScheduledKind}
    (hkind : core.Justifies kind) : Grammar (core.scheduledAt deadline kind) := by
  have hextends : Extends core (core.scheduledAt deadline kind) := .of_eq rfl rfl rfl
  refine ⟨h.position, fun record hrecord => hextends.caused (h.records record hrecord), ?_⟩
  intro work hwork
  rcases List.mem_append.mp hwork with hold | hnew
  · exact hextends.justifies (h.queue work hold)
  · rw [List.mem_singleton.mp hnew]
    exact hextends.justifies hkind

/-- The record that a fault appends names the work that caused it. -/
theorem faulted (h : Grammar core) {component : ComponentId} {descriptorType : Option String}
    {work : TraceId} {reason : String} (hwork : work < core.trace.length) :
    Grammar (core.faulted component descriptorType work reason) := by
  have hparent : core.trace[work]? = some core.trace[work] := List.getElem?_eq_getElem hwork
  have hcauses : core.Causes work
      (.runtimeFault component work (descriptorType.getD "<none>") reason) :=
    ⟨core.trace[work], hparent, h.position work _ hparent⟩
  exact (h.child hcauses rfl).kept (.of_eq rfl rfl rfl) rfl (List.Subset.refl _)

theorem popped (h : Grammar core) (work : ScheduledWork) : Grammar (core.popped work) :=
  h.kept ⟨List.prefix_rfl, List.prefix_append _ _, rfl⟩ rfl List.eraseP_subset

theorem rooted {cause : TraceId} {component : ComponentId} (hroot : core.Rooted cause component)
    {event : TraceEvent} (hevent : ∀ parent, (parent.event = .initialization component ∨
      ∃ messageType, parent.event = .transition component messageType) →
        core.Begets parent event) : core.Causes cause event := by
  obtain ⟨parent, hparent, hkind⟩ := hroot
  exact ⟨parent, hparent, hevent parent hkind⟩

/-- What `traced` appends is on record. -/
theorem last_traced (core : Core) (cause : Option TraceId) (event : TraceEvent) :
    (core.traced cause event).trace[core.nextTrace]? =
      some ⟨core.nextTrace, core.now, cause, event⟩ := List.getElem?_concat_length

theorem emitted (h : Grammar core) {message : TypeId} {cause : TraceId} {component : ComponentId}
    (declaration : Declaration message) (hroot : core.Rooted cause component) :
    Grammar (core.emitted cause component declaration) := by
  refine (h.child (rooted hroot ?_) ?_).observed _
  · intro parent hkind
    cases declaration <;> exact hkind
  · cases declaration <;> rfl

theorem lifecycle (h : Grammar core) {cause : TraceId} {component : ComponentId}
    (subscription : SubscriptionId) (descriptorType : String) (action : SubscriptionAction)
    (hroot : core.Rooted cause component) :
    Grammar (core.traced (some cause)
      (Controlled.lifecycle component subscription descriptorType action)) :=
  h.child (rooted hroot fun _ hkind => hkind) rfl

/-- One mapped event of a Source, and then all of them. -/
theorem withMappedEvent (h : Grammar core) {source : ActiveSource} {cause : TraceId}
    (mapped : SourceEventKind × ErasedValue)
    (hcause : ∃ parent name kind, core.trace[cause]? = some parent ∧ parent.event =
      .controlledSourceInput source.stamp.component source.stamp.subscription name kind) :
    Grammar (core.withMappedEvent source cause mapped) := by
  obtain ⟨parent, name, kind, hparent, hevent⟩ := hcause
  have hcauses : core.Causes cause (.sourceEventMapped source.stamp.component
      source.stamp.subscription source.subscription.descriptorTypeName mapped.1) :=
    ⟨parent, hparent, name, kind, hevent⟩
  refine (h.child hcauses rfl).scheduledAt _ ⟨_, last_traced core _ _, ?_, ?_⟩
  · exact .mapped _ _ _ rfl
  · intro stamp hstamp
    cases hstamp
    exact ⟨_, _, rfl⟩

theorem foldl_withMappedEvent (h : Grammar core) {source : ActiveSource} {cause : TraceId}
    (mapped : List (SourceEventKind × ErasedValue))
    (hcause : ∃ parent name kind, core.trace[cause]? = some parent ∧ parent.event =
      .controlledSourceInput source.stamp.component source.stamp.subscription name kind) :
    Grammar (mapped.foldl (Core.withMappedEvent · source cause) core) := by
  induction mapped generalizing core with
  | nil => exact h
  | cons event mapped ih =>
      refine ih (h.withMappedEvent event hcause) ?_
      obtain ⟨parent, name, kind, hparent, hevent⟩ := hcause
      exact ⟨parent, name, kind, (Extends.traced core _ _).getElem hparent, hevent⟩

/-- A timer that fires is a child of the Command that armed it, and what is
    delivered next is a child of what delivers it. -/
theorem fired (h : Grammar core) {message : QueuedMessage}
    (hmessage : core.Justifies (.message message)) :
    Grammar (core.fired message) ∧
      ∃ parent, (core.fired message).trace[core.deliveryCause message]? = some parent ∧
        (core.fired message).Delivers message.target parent := by
  obtain ⟨parent, hparent, hkind⟩ := hmessage
  unfold Core.fired Core.deliveryCause
  cases hdelivery : message.delivery with
  | message =>
      rw [hdelivery] at hkind
      exact ⟨h, parent, hparent, hkind.1⟩
  | timer =>
      rw [hdelivery] at hkind
      exact ⟨h.child ⟨parent, hparent, hkind⟩ rfl, _, last_traced core _ _, .fired _ rfl⟩

end Grammar

/-! ## Steps -/

/-- Every outstanding request was issued by this run. -/
def Remembered (core : Core) : Prop :=
  ∀ request ∈ core.requests, Observation.requested request ∈ core.journal

theorem Remembered.action {phase : Phase} {core core' : Core} (h : Remembered core)
    (haction : Action core phase core') : Remembered core' := by
  intro request hrequest
  rcases haction.requests hrequest with hold | ⟨_, _, _, _, _, hrequested⟩
  · exact haction.journal_grows.subset (h request hold)
  · exact hrequested

section Steps

variable {phase : Phase} {core core' : Core}

theorem extends_popped (core : Core) (work : ScheduledWork) : Extends core (core.popped work) :=
  ⟨List.prefix_rfl, List.prefix_append _ _, rfl⟩

theorem nextTrace_lt_traced (core : Core) (cause : Option TraceId) (event : TraceEvent) :
    core.nextTrace < (core.traced cause event).trace.length := by
  rw [Core.traced_trace, List.length_append]
  exact Nat.lt_succ_self _

/-- A Message that a declaration sends is justified by its record. -/
theorem justifies_emitted {message : TypeId} {cause : TraceId} {component : ComponentId}
    {declaration : Declaration message} {target : ComponentId} {targetMessageType : TypeId}
    {value : ErasedValue}
    (hdelivers : (core.emitted cause component declaration).Delivers target
      ⟨core.nextTrace, core.now, some cause, emission component declaration⟩) :
    (core.emitted cause component declaration).Justifies
      (.message (plainMessage target targetMessageType value core.nextTrace)) :=
  ⟨_, Grammar.last_traced core _ _, hdelivers, fun _ hstamp => by cases hstamp⟩

/-- A Message addressed to a Port is delivered to the Component it is bound to. -/
theorem delivers_bound {message : TypeId} {cause : TraceId} {component : ComponentId}
    {declaration : Declaration message} {kind : TraceCommandKind} {name : String}
    {protocol : TypeId} {port : PortId} {binding : PortBinding}
    (hkind : kind = .notify ∨ kind = .request)
    (hevent : emission component declaration = .commandEmitted component kind name none (some port))
    (hport : ErasedDeclaration.port? ⟨message, declaration⟩ = some (protocol, port))
    (hbinding : core.program.binding? protocol port = some binding) :
    (core.emitted cause component declaration).Delivers binding.provider.id
      ⟨core.nextTrace, core.now, some cause, emission component declaration⟩ := by
  have hkey := List.find?_some hbinding
  simp only [Bool.and_eq_true, decide_eq_true_eq] at hkey
  obtain ⟨rfl, rfl⟩ := hkey
  exact .bound component kind name binding hkind hevent
    ⟨_, mem_declarations_emitted core cause component declaration, rfl, hport⟩ hbinding rfl

theorem Grammar.action (h : Grammar core) (hremembered : Remembered core) (htyped : Typed core)
    (haction : Action core phase core') : Grammar core' := by
  have hkept {base base' : Core} (hbase : Grammar base) (htrace : base'.trace = base.trace)
      (hjournal : base'.journal = base.journal) (hprogram : base'.program.shape = base.program.shape)
      (hscheduled : base'.scheduled ⊆ base.scheduled) : Grammar base' :=
    hbase.kept (.of_eq htrace hjournal hprogram) htrace hscheduled
  have hsame (list : List ScheduledWork) : list ⊆ list := List.Subset.refl list
  have hfired {work : ScheduledWork} {message : QueuedMessage} (hdue : core.nextDue = some work)
      (hkind : work.kind = .message message) :
      Grammar ((core.popped work).fired message) ∧ ∃ parent,
        ((core.popped work).fired message).trace[core.deliveryCause message]? = some parent ∧
          ((core.popped work).fired message).Delivers message.target parent := by
    have hjustified := h.queue work (nextDue_eq_some hdue).1
    rw [hkind] at hjustified
    exact (h.popped work).fired ((extends_popped core work).justifies hjustified)
  have hshape := haction.shape_eq
  have hextends := haction.extends
  cases haction with
  | initialized id => exact h.root rfl
  | projected => exact h.kept hextends rfl (hsame _)
  | duplicated => exact h.kept hextends rfl (hsame _)
  | duplicateFaulted id work desired duplicate hroot _ _ =>
      obtain ⟨parent, hparent, _⟩ := hroot
      exact h.faulted (List.getElem?_eq_some_iff.mp hparent).1
  | commandTaken => exact hkept h rfl rfl hshape (hsame _)
  | started component cause subscription hroot _ _ =>
      have htraced := h.lifecycle subscription.id subscription.descriptorTypeName .started hroot
      exact htraced.kept ⟨List.prefix_rfl, List.prefix_append _ _, rfl⟩ rfl (hsame _)
  | retained component cause subscription hroot _ =>
      exact hkept (h.lifecycle _ _ _ hroot) rfl rfl rfl (hsame _)
  | replaced component cause subscription hroot _ _ =>
      have htraced := h.lifecycle subscription.id subscription.descriptorTypeName .replaced hroot
      exact htraced.kept ⟨List.prefix_rfl, List.prefix_append _ _, rfl⟩ rfl (hsame _)
  | cancelled component cause id descriptorType hroot =>
      exact hkept (h.lifecycle _ _ _ hroot) rfl rfl rfl (hsame _)
  | startFaulted component cause subscription _ _ hroot _ _ =>
      exact (h.lifecycle _ _ _ hroot).faulted (nextTrace_lt_traced core _ _)
  | replaceFaulted component cause subscription _ _ hroot _ _ =>
      have htraced := h.lifecycle subscription.id subscription.descriptorTypeName .replaced hroot
      have hremoved := @hkept _ ((core.traced (some cause) (Controlled.lifecycle component
        subscription.id subscription.descriptorTypeName .replaced)).withoutSource component
          subscription.id) htraced rfl rfl rfl (hsame _)
      exact hremoved.faulted (nextTrace_lt_traced core _ _)
  | effectDeclared component cause command hauthor _ _ =>
      exact hkept (h.emitted (.effect command) hauthor.rooted) rfl rfl rfl (hsame _)
  | @sendDeclared message component cause command hauthor _ _ _ =>
      exact (h.emitted (.send command : Declaration message) hauthor.rooted).scheduledAt _
        (justifies_emitted (.sent component _ rfl))
  | @notifyDeclared message component cause command binding _ _ hauthor _ hbinding _ _ =>
      exact (h.emitted (.notify command : Declaration message) hauthor.rooted).scheduledAt _
        (justifies_emitted (delivers_bound (Or.inl rfl) rfl rfl hbinding))
  | requestDeclared component cause command binding _ converted hauthor _ hbinding _ _ =>
      have hjustified := @justifies_emitted _ core _ cause component (.request command)
        binding.provider.id binding.providerMessageType converted
        (delivers_bound (Or.inr rfl) rfl rfl hbinding)
      have hissued : Extends (core.emitted cause component (.request command))
          ((core.emitted cause component (.request command)).withRequest
            (core.issue component command)) :=
        ⟨List.prefix_rfl, List.prefix_append _ _, rfl⟩
      exact ((h.emitted (.request command) hauthor.rooted).kept hissued rfl (hsame _)).scheduledAt _
        (hissued.justifies hjustified)
  | @replyDeclared message component cause command request mapped hauthor hrequest _ _ =>
      have hemitted := h.emitted (.reply command : Declaration message) hauthor.rooted
      have hremoved := @hkept _ ((core.emitted cause component
        (.reply command : Declaration message)).withoutRequest command.replyTo.correlation)
        hemitted rfl rfl rfl (hsame _)
      have hmem := List.mem_of_find?_eq_some hrequest
      have hcorrelation : request.correlation = command.replyTo.correlation := by
        simpa using List.find?_some hrequest
      have hcauses : ((core.emitted cause component
          (.reply command : Declaration message)).withoutRequest
            command.replyTo.correlation).Causes core.nextTrace
              (.requestOutcome request.requester (typeName request.replyType)) := by
        refine ⟨_, Grammar.last_traced core _ _, ⟨component, _, rfl⟩, _, command, message, request,
          mem_declarations_emitted core cause component (.reply command), rfl, rfl, ?_,
          hcorrelation, rfl⟩
        exact List.mem_append_left _ (hremembered request hmem)
      refine ((hremoved.child hcauses rfl).observed _).scheduledAt _
        ⟨⟨core.nextTrace + 1, core.now, some core.nextTrace,
          .requestOutcome request.requester (typeName request.replyType)⟩, ?_, ?_⟩
      · have hlast := Grammar.last_traced ((core.emitted cause component
          (.reply command : Declaration message)).withoutRequest command.replyTo.correlation)
            (some core.nextTrace)
            (.requestOutcome request.requester (typeName request.replyType))
        rw [Core.withoutRequest_nextTrace, Core.emitted_nextTrace] at hlast
        exact hlast
      · exact ⟨.replied _ rfl, fun _ hstamp => by cases hstamp⟩
  | timerDeclared component cause delay deadline value hauthor _ =>
      exact (h.emitted (.after delay value) hauthor.rooted).scheduledAt _
        ⟨_, Grammar.last_traced core _ _, rfl⟩
  | declarationFaulted component cause declaration _ _ hauthor _ =>
      exact (h.emitted declaration hauthor.rooted).faulted (nextTrace_lt_traced core _ _)
  | @replyMistyped message component cause command _ hauthor _ _ =>
      have hemitted := h.emitted (.reply command : Declaration message) hauthor.rooted
      exact (@hkept _ ((core.emitted cause component
        (.reply command : Declaration message)).withoutRequest command.replyTo.correlation)
        hemitted rfl rfl rfl (hsame _)).faulted (nextTrace_lt_traced core _ _)
  | @messageInput component target message _ _ _ =>
      have hrecord := @Grammar.root _ core h (.controlledMessageInput target.id
        (typeName (RustTypes.componentMessage component))) rfl
      exact hrecord.scheduledAt _ ⟨_, Grammar.last_traced core _ _, .input _ rfl,
        fun _ hstamp => by cases hstamp⟩
  | sourceInput source event _ _ _ =>
      have hrecord := @Grammar.root _ core h (.controlledSourceInput source.stamp.component
        source.stamp.subscription source.plan.terminalTypeName event.kind) rfl
      have haccepted := hrecord.observed (.accepted source.stamp core.nextTrace event)
      exact haccepted.scheduledAt _ ⟨_, _, _, Grammar.last_traced core _ _, rfl⟩
  | effectClaimed => exact hkept h rfl rfl rfl (hsame _)
  | @effectDiscarded effectType id entry outcome _ _ =>
      have hremoved := @hkept _ (core.withoutEffect effectType id) h rfl rfl rfl (hsame _)
      exact hremoved.root rfl
  | @effectMapped effectType id entry outcome mapper message _ _ _ =>
      have hremoved := @hkept _ (core.withoutEffect effectType id) h rfl rfl rfl (hsame _)
      have hrecord := @Grammar.root _ _ hremoved (.effectOutcome entry.requestTrace
        entry.component (typeName entry.descriptorType) (.of outcome)) rfl
      exact hrecord.scheduledAt _ ⟨_, Grammar.last_traced (core.withoutEffect effectType id) _ _,
        .outcome _ _ _ rfl, fun _ hstamp => by cases hstamp⟩
  | sourceEventStale work event hdue hkind _ =>
      have hjustified := h.queue work (nextDue_eq_some hdue).1
      rw [hkind] at hjustified
      obtain ⟨parent, name, kind, hparent, hevent⟩ := hjustified
      exact (h.popped work).child ⟨parent, hparent, name, kind, hevent⟩ rfl
  | sourceEventMapped work event source plan outer mapped hdue hkind hsource haccepts _ _ =>
      have hjustified := h.queue work (nextDue_eq_some hdue).1
      rw [hkind] at hjustified
      have hstored := List.find?_some hsource
      simp only [ActiveSource.isOf, Bool.and_eq_true, decide_eq_true_eq] at hstored
      have hplan := (@hkept _ ((core.popped work).withSource source.stamp.component
        source.stamp.subscription ({ · with plan })) (h.popped work) rfl rfl rfl
        (hsame _)).observed (.mapped source.stamp event.event outer)
      have hemission := hplan.observed
        (.emitted source.stamp event.cause source.subscription outer mapped)
      have hrunning := @hkept _ ((((core.popped work).withPlan source plan event.event
        outer).withEmission source event.cause outer mapped).withRunning source
          (event.event.isTerminal || outer.any (·.isTerminal))) hemission rfl rfl rfl (hsame _)
      refine hrunning.foldl_withMappedEvent mapped ?_
      obtain ⟨parent, name, kind, hparent, hevent⟩ := hjustified
      rw [← hstored.1, ← hstored.2] at hevent
      exact ⟨parent, name, kind, hparent, hevent⟩
  | messageStale work message stamp hdue hkind hsource _ =>
      have hjustified := h.queue work (nextDue_eq_some hdue).1
      rw [hkind] at hjustified
      obtain ⟨parent, hparent, hmessage⟩ := hjustified
      rw [htyped.stamped work (nextDue_eq_some hdue).1 message hkind stamp hsource] at hmessage
      exact (h.popped work).child ⟨parent, hparent, hmessage.2 stamp hsource⟩ rfl
  | messageDelivered work message kernel kernel' command hdue hkind _ _ _ =>
      obtain ⟨hgrammar, parent, hparent, hdelivers⟩ := hfired hdue hkind
      have hstored : Extends ((core.popped work).fired message)
          (((core.popped work).fired message).withComponent message.target
            message.targetMessageType kernel') := by
        refine .of_eq rfl rfl ?_
        rw [Core.fired_program]
        exact hshape
      exact (hgrammar.kept hstored rfl (hsame _)).child
        ⟨parent, hparent, hstored.delivers hdelivers⟩ rfl
  | deliveryFaulted work message hdue hkind _ _ =>
      obtain ⟨hgrammar, parent, hparent, _⟩ := hfired hdue hkind
      exact hgrammar.faulted (List.getElem?_eq_some_iff.mp hparent).1
  | deliveryMismatched work message kernel hdue hkind _ _ _ =>
      obtain ⟨hgrammar, _⟩ := hfired hdue hkind
      refine hkept hgrammar rfl rfl ?_ (hsame _)
      rw [Core.fired_program]
      exact hshape

end Steps

/-! ## One transition for one cause -/

/-- The causes of the transitions on record. -/
def Core.spent (core : Core) : List TraceId :=
  core.trace.filterMap fun record => if record.event.isTransition then record.cause else none

def ScheduledWork.cause? (work : ScheduledWork) : Option TraceId :=
  match work.kind with
  | .message message => some message.cause
  | .sourceEvent _ => none

/-- The causes that queued Messages carry. -/
def Core.carried (core : Core) : List TraceId := core.scheduled.filterMap ScheduledWork.cause?

/-- No cause has begun two transitions, and none that has is still carried. -/
structure Unique (core : Core) : Prop where
  distinct : (core.spent ++ core.carried).Nodup
  below : ∀ cause ∈ core.spent ++ core.carried, cause < core.trace.length

section Unique

variable {phase : Phase} {core core' : Core}

theorem spent_traced (cause : Option TraceId) {event : TraceEvent}
    (h : event.isTransition = false) : (core.traced cause event).spent = core.spent := by
  unfold Core.spent
  rw [Core.traced_trace, List.filterMap_append]
  simp [h]

namespace Unique

theorem fresh (program : Program) (bindings : Bindings) : Unique (Core.fresh program bindings) := by
  constructor <;> simp [Core.fresh, Core.spent, Core.carried]

/-- A change that neither records a transition nor schedules a Message. -/
theorem kept (h : Unique core) (hlength : core.trace.length ≤ core'.trace.length)
    (hspent : core'.spent = core.spent) (hscheduled : core'.scheduled = core.scheduled) :
    Unique core' := by
  have hcarried : core'.carried = core.carried := by
    unfold Core.carried
    rw [hscheduled]
  refine ⟨?_, ?_⟩
  · rw [hspent, hcarried]
    exact h.distinct
  · rw [hspent, hcarried]
    exact fun cause hcause => lt_of_lt_of_le (h.below cause hcause) hlength

theorem traced (h : Unique core) (cause : Option TraceId) {event : TraceEvent}
    (hevent : event.isTransition = false) : Unique (core.traced cause event) :=
  h.kept (by simp) (spent_traced cause hevent) rfl

/-- Work that is not a Message carries no cause. -/
theorem scheduledEvent (h : Unique core) (deadline : Duration) (event : QueuedSourceEvent) :
    Unique (core.scheduledAt deadline (.sourceEvent event)) := by
  have hcarried : (core.scheduledAt deadline (.sourceEvent event)).carried = core.carried := by
    simp [Core.carried, ScheduledWork.cause?]
  refine ⟨?_, ?_⟩
  · rw [hcarried]
    exact h.distinct
  · rw [hcarried]
    exact h.below

/-- A Message is scheduled under a record that nothing carries yet. -/
theorem scheduledMessage (h : Unique core) (deadline : Duration) (message : QueuedMessage)
    (hlt : message.cause < core.trace.length)
    (hnew : ∀ cause ∈ core.spent ++ core.carried, cause ≠ message.cause) :
    Unique (core.scheduledAt deadline (.message message)) := by
  have hcarried : (core.scheduledAt deadline (.message message)).carried =
      core.carried ++ [message.cause] := List.filterMap_append
  have hspent : (core.scheduledAt deadline (.message message)).spent = core.spent := rfl
  refine ⟨?_, ?_⟩
  · rw [hspent, hcarried, ← List.append_assoc]
    refine List.nodup_append.mpr ⟨h.distinct, List.nodup_singleton _, ?_⟩
    intro cause hcause last hlast
    rw [List.mem_singleton.mp hlast]
    exact hnew cause hcause
  · rw [hspent, hcarried, ← List.append_assoc]
    intro cause hcause
    rcases List.mem_append.mp hcause with hold | hlast
    · exact h.below cause hold
    · rw [List.mem_singleton.mp hlast]
      exact hlt

/-- A record is appended, and a Message scheduled under it. -/
theorem tracedMessage (h : Unique core) (cause : Option TraceId) {event : TraceEvent}
    (hevent : event.isTransition = false) {between : Core} (deadline : Duration)
    (message : QueuedMessage) (hmessage : message.cause = core.nextTrace)
    (htrace : between.trace = (core.traced cause event).trace)
    (hscheduled : between.scheduled = core.scheduled) :
    Unique (between.scheduledAt deadline (.message message)) := by
  have hspent : between.spent = core.spent := by
    have hquiet := @spent_traced _ core cause event hevent
    unfold Core.spent at hquiet ⊢
    rw [htrace]
    exact hquiet
  have hcarried : between.carried = core.carried := by
    unfold Core.carried
    rw [hscheduled]
  have hlength : between.trace.length = core.trace.length + 1 := by
    rw [htrace, Core.traced_trace, List.length_append, List.length_singleton]
  refine (h.kept (by omega) hspent hscheduled).scheduledMessage deadline message ?_ ?_
  · rw [hmessage, hlength]
    exact Nat.lt_succ_self _
  · rw [hspent, hcarried, hmessage]
    exact fun other hother => Nat.ne_of_lt (h.below other hother)

theorem carried_popped (hlaw : Scheduler.Law core.scheduler) {work : ScheduledWork}
    (hdue : core.nextDue = some work) :
    core.carried.Perm (work.cause?.toList ++ (core.popped work).carried) := by
  have hperm := (popped_perm hlaw hdue).filterMap ScheduledWork.cause?
  unfold Core.carried
  refine hperm.trans ?_
  rw [List.filterMap_cons]
  cases work.cause? <;> exact List.Perm.refl _

theorem popped (h : Unique core) (hlaw : Scheduler.Law core.scheduler) {work : ScheduledWork}
    (hdue : core.nextDue = some work) : Unique (core.popped work) := by
  have hperm := carried_popped hlaw hdue
  have hsub : (core.spent ++ (core.popped work).carried).Sublist
      (core.spent ++ (work.cause?.toList ++ (core.popped work).carried)) :=
    (List.sublist_append_right _ _).append_left _
  have hwhole := hperm.append_left core.spent
  refine ⟨(hwhole.nodup_iff.mp h.distinct).sublist hsub, ?_⟩
  intro cause hcause
  exact h.below cause (hwhole.mem_iff.mpr (hsub.subset hcause))

/-- The transition that a Message begins spends the cause that the Message
    carried, or the new record of its timer. -/
theorem delivered (h : Unique core) (hlaw : Scheduler.Law core.scheduler) {work : ScheduledWork}
    {message : QueuedMessage} (hdue : core.nextDue = some work)
    (hkind : work.kind = .message message) {between : Core} {name : String}
    (htrace : between.trace = ((core.popped work).fired message).trace)
    (hscheduled : between.scheduled = (core.popped work).scheduled) :
    Unique (between.traced (some (core.deliveryCause message))
      (.transition message.target name)) := by
  have hperm := carried_popped hlaw hdue
  have hcause : work.cause? = some message.cause := by
    unfold ScheduledWork.cause?
    rw [hkind]
  have hcarried : between.carried = (core.popped work).carried := by
    unfold Core.carried
    rw [hscheduled]
  have hfired : between.spent = core.spent := by
    unfold Core.spent
    rw [htrace]
    unfold Core.fired
    cases message.delivery with
    | message => rfl
    | timer => simp [TraceEvent.isTransition]
  have hspent : (between.traced (some (core.deliveryCause message))
      (.transition message.target name)).spent = core.spent ++ [core.deliveryCause message] := by
    unfold Core.spent at hfired ⊢
    rw [Core.traced_trace, List.filterMap_append, hfired]
    simp [TraceEvent.isTransition]
  have hlength : (core.popped work).trace.length ≤ between.trace.length := by
    rw [htrace]
    obtain ⟨records, heq, _⟩ := (core.popped work).fired_eq message
    rw [heq]
    simp
  rw [hcause] at hperm
  have hwhole : (core.spent ++ core.carried).Perm
      (core.spent ++ (message.cause :: (core.popped work).carried)) := hperm.append_left _
  have hdistinct := hwhole.nodup_iff.mp h.distinct
  have hbelow : ∀ cause ∈ core.spent ++ (message.cause :: (core.popped work).carried),
      cause < core.trace.length := fun cause hmem => h.below cause (hwhole.mem_iff.mpr hmem)
  have hclaims : (between.traced (some (core.deliveryCause message))
      (.transition message.target name)).spent ++ between.carried =
        core.spent ++ (core.deliveryCause message :: (core.popped work).carried) := by
    rw [hspent, hcarried, List.append_assoc]
    rfl
  refine ⟨?_, ?_⟩
  · show ((between.traced _ _).spent ++ between.carried).Nodup
    rw [hclaims]
    unfold Core.deliveryCause
    cases hdelivery : message.delivery with
    | message => exact hdistinct
    | timer =>
        have hrest := hdistinct.sublist ((List.sublist_cons_self _ _).append_left core.spent)
        refine (List.perm_middle.nodup_iff).mpr (List.nodup_cons.mpr ⟨?_, hrest⟩)
        intro hmem
        have hlt := hbelow core.nextTrace ((List.Sublist.append_left
          (List.sublist_cons_self _ _) core.spent).subset hmem)
        exact Nat.lt_irrefl _ hlt
  · show ∀ cause ∈ (between.traced _ _).spent ++ between.carried, _
    rw [hclaims]
    have hgrown : core.trace.length < (between.traced (some (core.deliveryCause message))
        (.transition message.target name)).trace.length := by
      rw [Core.traced_trace, List.length_append, List.length_singleton]
      exact Nat.lt_succ_of_le hlength
    intro cause hmem
    rcases List.mem_append.mp hmem with hold | hrest
    · exact (hbelow cause (List.mem_append_left _ hold)).trans hgrown
    · rcases List.mem_cons.mp hrest with rfl | hcarry
      · have hcauseLe : core.deliveryCause message ≤ core.trace.length := by
          unfold Core.deliveryCause
          cases message.delivery with
          | message =>
              exact Nat.le_of_lt (hbelow _ (List.mem_append_right _ List.mem_cons_self))
          | timer => exact Nat.le_refl _
        exact lt_of_le_of_lt hcauseLe hgrown
      · exact (hbelow cause (List.mem_append_right _ (List.mem_cons_of_mem _ hcarry))).trans hgrown

/-- The Messages of one Source event are scheduled one after another, each under
    its own record. -/
theorem foldl_withMappedEvent (h : Unique core) (source : ActiveSource) (cause : TraceId)
    (mapped : List (SourceEventKind × ErasedValue)) :
    Unique (mapped.foldl (Core.withMappedEvent · source cause) core) := by
  induction mapped generalizing core with
  | nil => exact h
  | cons event mapped ih =>
      let record : TraceEvent := .sourceEventMapped source.stamp.component
        source.stamp.subscription source.subscription.descriptorTypeName event.1
      have hrecord : record.isTransition = false := rfl
      exact ih (h.tracedMessage (some cause) hrecord core.now
        (mappedMessage source event.2 core.nextTrace) rfl rfl rfl)

theorem faulted (h : Unique core) (component : ComponentId) (descriptorType : Option String)
    (work : TraceId) (reason : String) :
    Unique (core.faulted component descriptorType work reason) := by
  let record : TraceEvent := .runtimeFault component work (descriptorType.getD "<none>") reason
  have hrecord : record.isTransition = false := rfl
  exact (h.traced (some work) hrecord).kept (Nat.le_refl _) rfl rfl

theorem emitted (h : Unique core) {message : TypeId} (cause : TraceId) (component : ComponentId)
    (declaration : Declaration message) : Unique (core.emitted cause component declaration) := by
  have hrecord : (emission component declaration).isTransition = false := by
    cases declaration <;> rfl
  exact (h.traced (some cause) hrecord).kept (Nat.le_refl _) rfl rfl

theorem lifecycle (h : Unique core) (cause : TraceId) (component : ComponentId)
    (subscription : SubscriptionId) (descriptorType : String) (action : SubscriptionAction) :
    Unique (core.traced (some cause)
      (Controlled.lifecycle component subscription descriptorType action)) :=
  h.traced (some cause) rfl

/-- A declaration schedules a Message under its own record. -/
theorem emittedMessage (h : Unique core) {message : TypeId} (cause : TraceId)
    (component : ComponentId) (declaration : Declaration message) (deadline : Duration)
    (queued : QueuedMessage) (hqueued : queued.cause = core.nextTrace) {between : Core}
    (htrace : between.trace = (core.emitted cause component declaration).trace)
    (hscheduled : between.scheduled = core.scheduled) :
    Unique (between.scheduledAt deadline (.message queued)) := by
  have hrecord : (emission component declaration).isTransition = false := by
    cases declaration <;> rfl
  exact h.tracedMessage (some cause) hrecord deadline queued hqueued htrace hscheduled

theorem fired (h : Unique core) (message : QueuedMessage) : Unique (core.fired message) := by
  unfold Core.fired
  cases message.delivery with
  | message => exact h
  | timer =>
      let record : TraceEvent := .timerFired message.target message.messageTypeName
      have hrecord : record.isTransition = false := rfl
      exact h.traced (some message.cause) hrecord

theorem action (h : Unique core) (hlaw : Scheduler.Law core.scheduler)
    (haction : Action core phase core') : Unique core' := by
  cases haction with
  | initialized id => exact @traced _ core h none (.initialization id) rfl
  | projected => exact h.kept (Nat.le_refl _) rfl rfl
  | duplicated => exact h.kept (Nat.le_refl _) rfl rfl
  | duplicateFaulted => exact h.faulted _ _ _ _
  | commandTaken => exact h.kept (Nat.le_refl _) rfl rfl
  | started => exact (h.lifecycle _ _ _ _ _).kept (Nat.le_refl _) rfl rfl
  | retained => exact (h.lifecycle _ _ _ _ _).kept (Nat.le_refl _) rfl rfl
  | replaced => exact (h.lifecycle _ _ _ _ _).kept (Nat.le_refl _) rfl rfl
  | cancelled => exact (h.lifecycle _ _ _ _ _).kept (Nat.le_refl _) rfl rfl
  | startFaulted => exact (h.lifecycle _ _ _ _ _).faulted _ _ _ _
  | replaceFaulted component cause subscription =>
      have hremoved := @kept _ _ ((core.traced (some cause) (Controlled.lifecycle component
        subscription.id subscription.descriptorTypeName .replaced)).withoutSource component
          subscription.id) (h.lifecycle cause component _ _ .replaced) (Nat.le_refl _) rfl rfl
      exact hremoved.faulted _ _ _ _
  | effectDeclared component cause command =>
      exact (h.emitted cause component (.effect command)).kept (Nat.le_refl _) rfl rfl
  | @sendDeclared message component cause command =>
      exact h.emittedMessage cause component (.send command : Declaration message) _ _ rfl rfl rfl
  | @notifyDeclared message component cause command =>
      exact h.emittedMessage cause component (.notify command : Declaration message) _ _ rfl rfl rfl
  | requestDeclared component cause command =>
      exact h.emittedMessage cause component (.request command) _ _ rfl rfl rfl
  | @replyDeclared message component cause command request =>
      let record : TraceEvent := .requestOutcome request.requester (typeName request.replyType)
      have hrecord : record.isTransition = false := rfl
      have hemitted := h.emitted cause component (.reply command : Declaration message)
      exact hemitted.tracedMessage (some core.nextTrace) hrecord _ _
        (core.emitted_nextTrace cause component _).symm rfl rfl
  | timerDeclared component cause delay deadline value =>
      exact h.emittedMessage cause component (.after delay value) _ _ rfl rfl rfl
  | declarationFaulted => exact (h.emitted _ _ _).faulted _ _ _ _
  | @replyMistyped message component cause command =>
      have hremoved := @kept _ _ ((core.emitted cause component
        (.reply command : Declaration message)).withoutRequest command.replyTo.correlation)
        (h.emitted cause component _) (Nat.le_refl _) rfl rfl
      exact hremoved.faulted _ _ _ _
  | @messageInput component target =>
      let record : TraceEvent :=
        .controlledMessageInput target.id (typeName (RustTypes.componentMessage component))
      have hrecord : record.isTransition = false := rfl
      exact h.tracedMessage none hrecord _ _ rfl rfl rfl
  | sourceInput source event =>
      let record : TraceEvent := .controlledSourceInput source.stamp.component
        source.stamp.subscription source.plan.terminalTypeName event.kind
      have hrecord : record.isTransition = false := rfl
      have haccepted := @kept _ _ ((core.traced none record).observed
        (.accepted source.stamp core.nextTrace event)) (h.traced none hrecord) (Nat.le_refl _) rfl rfl
      exact haccepted.scheduledEvent _ _
  | effectClaimed => exact h.kept (Nat.le_refl _) rfl rfl
  | @effectDiscarded effectType id entry outcome =>
      let record : TraceEvent := .effectOutcome entry.requestTrace entry.component
        (typeName entry.descriptorType) outcome
      have hrecord : record.isTransition = false := rfl
      exact (h.traced none hrecord).kept (Nat.le_refl _) rfl rfl
  | @effectMapped effectType id entry outcome =>
      let record : TraceEvent := .effectOutcome entry.requestTrace entry.component
        (typeName entry.descriptorType) (.of outcome)
      have hrecord : record.isTransition = false := rfl
      exact h.tracedMessage none hrecord _ _ rfl rfl rfl
  | sourceEventStale work event hdue =>
      let record : TraceEvent := .staleSourceWorkDropped event.stamp.component
        event.stamp.subscription false
      have hrecord : record.isTransition = false := rfl
      exact (h.popped hlaw hdue).traced (some event.cause) hrecord
  | sourceEventMapped work event source plan outer mapped hdue =>
      have hpopped := h.popped hlaw hdue
      have hrunning := @kept _ _ ((((core.popped work).withPlan source plan event.event
        outer).withEmission source event.cause outer mapped).withRunning source
          (event.event.isTerminal || outer.any (·.isTerminal))) hpopped (Nat.le_refl _) rfl rfl
      exact hrunning.foldl_withMappedEvent source event.cause mapped
  | messageStale work message stamp hdue =>
      let record : TraceEvent := .staleSourceWorkDropped stamp.component stamp.subscription true
      have hrecord : record.isTransition = false := rfl
      exact (h.popped hlaw hdue).traced (some message.cause) hrecord
  | messageDelivered work message kernel kernel' command hdue hkind =>
      exact h.delivered hlaw hdue hkind rfl ((core.popped work).fired_scheduled message)
  | deliveryFaulted work message hdue => exact ((h.popped hlaw hdue).fired message).faulted _ _ _ _
  | deliveryMismatched work message kernel hdue =>
      exact ((h.popped hlaw hdue).fired message).kept (Nat.le_refl _) rfl rfl

end Unique

end Unique

/-! ## Runs -/

/-- What the forest of a state rests on. -/
structure Rooting (core : Core) : Prop where
  law : Scheduler.Law core.scheduler
  recorded : Recorded core
  typed : Typed core
  remembered : Remembered core
  grammar : Grammar core
  unique : Unique core

namespace Rooting

variable {core core' : Core}

theorem fresh (program : Program) (bindings : Bindings) :
    Rooting (Core.fresh program bindings) where
  law := Scheduler.Law.idle 0
  recorded := Recorded.fresh program bindings
  typed := Typed.fresh program bindings
  remembered _ hrequest := absurd hrequest List.not_mem_nil
  grammar := Grammar.fresh program bindings
  unique := Unique.fresh program bindings

theorem move (h : Rooting core) (hmove : Move core core') : Rooting core' := by
  have hlaw := h.law.path (scheduler_path hmove.ticks)
  have hrecorded := h.recorded.path hmove.ticks
  have htyped := h.typed.path (ReflTransGen.single hmove)
  rcases hmove with ⟨_, ⟨phase, haction⟩ | ⟨time, _, _⟩⟩
  · exact ⟨hlaw, hrecorded, htyped, h.remembered.action haction, h.grammar.action h.remembered h.typed haction,
      h.unique.action h.law haction⟩
  · exact ⟨hlaw, hrecorded, htyped, h.remembered, h.grammar.kept (.of_eq rfl rfl rfl) rfl (List.Subset.refl _),
      h.unique.kept (Nat.le_refl _) rfl rfl⟩

theorem path (h : Rooting core) (hpath : ReflTransGen Move core core') : Rooting core' :=
  @Exec.path_preserves _ Move Rooting (fun _ _ hrooting hmove => hrooting.move hmove) _ _ hpath h

end Rooting

/-- The trace is a well-formed causal forest. -/
structure Forest (core : Core) : Prop where
  position : ∀ (index : TraceId) (record : TraceRecord),
    core.trace[index]? = some record → record.id = index
  clock : core.trace.Pairwise (·.time ≤ ·.time)
  roots : ∀ record ∈ core.trace, record.cause = none ↔ record.event.isRoot = true
  children : ∀ record ∈ core.trace, ∀ cause, record.cause = some cause →
    cause < record.id ∧ ∃ parent, core.trace[cause]? = some parent ∧
      core.Begets parent record.event
  /-- No record is the cause of two transitions. -/
  once : core.trace.Pairwise fun first second =>
    first.event.isTransition = true → second.event.isTransition = true →
      first.cause ≠ second.cause

theorem Rooting.forest {core : Core} (h : Rooting core) : Forest core := by
  have hroots : ∀ record ∈ core.trace, record.cause = none ↔ record.event.isRoot = true := by
    intro record hrecord
    cases h.grammar.records record hrecord with
    | root hcause hroot => simp [hcause, hroot]
    | child cause parent hcause hroot => simp [hcause, hroot]
  refine ⟨h.grammar.position, h.recorded.clock, hroots, ?_, ?_⟩
  · intro record hrecord cause hcause
    cases h.grammar.records record hrecord with
    | root hnone _ =>
        rw [hnone] at hcause
        cases hcause
    | child cause' parent hcause' _ hearlier hparent hbegets =>
        rw [hcause'] at hcause
        cases hcause
        exact ⟨hearlier, parent, hparent, hbegets⟩
  · have hspent : core.spent.Nodup := (List.nodup_append.mp h.unique.distinct).1
    unfold Core.spent List.Nodup at hspent
    rw [List.pairwise_filterMap] at hspent
    refine hspent.imp_of_mem ?_
    intro first second hfirst hsecond hdistinct htransition htransition' heq
    have hrooted : second.cause ≠ none := by
      intro hnone
      have hroot := (hroots second hsecond).mp hnone
      cases hevent : second.event <;> simp [hevent, TraceEvent.isTransition, TraceEvent.isRoot] at *
    obtain ⟨cause, hcause⟩ := Option.ne_none_iff_exists'.mp hrooted
    refine hdistinct cause ?_ cause ?_ rfl
    · simp [htransition, heq, hcause]
    · simp [htransition', hcause]

/-- In every run of every Program, faulted or not, the trace is a well-formed
    causal forest. -/
theorem causal_forest {start core : Core} (hstart : Launched start) (h : Reachable start core) :
    Forest core := by
  obtain ⟨program, bindings, hlaunch⟩ := hstart.path
  exact ((Rooting.fresh program bindings).path (hlaunch.trans h.path)).forest

end Controlled

end Samara

namespace Samara.Controlled

attribute [local instance] Sample.types

theorem causal_forest_desk :
    Forest deskAnswered ∧ deskAnswered.count TraceEvent.isTransition = 2 ∧
      deskAnswered.spent = [2, 6] :=
  ⟨causal_forest (launched_of_assemble deskBuilder_assembled (Option.some_get _).symm)
    (.operation (.runUntilIdle 20) .refl (by decide +kernel)), by decide +kernel,
    by decide +kernel⟩

end Samara.Controlled
