/-
  Samara.Controlled.Lanes

  The work of one Source realization, from its acceptance to its end: what was
  accepted for it, what its plan and mapper made of that, and which of the
  Messages began a transition or were dropped.  Each stage is read off the
  history, in order, by the realization's stamp.
-/
import Samara.Controlled.Rows
import Samara.Controlled.Causes
import Samara.Controlled.Conformance

namespace Samara

open Relation (ReflTransGen)

/-- The kind of the event that a `SourceEventMapped` stands for. -/
def TraceEvent.sourceKind? : TraceEvent → Option SourceEventKind
  | .sourceEventMapped _ _ _ kind => some kind
  | _ => none

/-- A `StaleSourceWorkDropped` without `mapped_message`. -/
def TraceEvent.isStaleEvent : TraceEvent → Bool
  | .staleSourceWorkDropped _ _ mappedMessage => !mappedMessage
  | _ => false

/-- The records of Source work after its acceptance, and of all transitions. -/
def TraceEvent.isFate (event : TraceEvent) : Bool :=
  event.isSourceMapped || event.isStaleEvent || event.isStaleMessage || event.isTransition

/-- The cause of a record of some kind, when it is one of `causes`. -/
def TraceRecord.ends? (p : TraceEvent → Bool) (causes : List TraceId) (record : TraceRecord) :
    Option TraceId :=
  if p record.event then record.cause.filter (· ∈ causes) else none

/-- A record of an event mapped from one of `inputs`. -/
def TraceRecord.isMappedFrom (inputs : List TraceId) (record : TraceRecord) : Bool :=
  record.event.isSourceMapped && record.cause.any (· ∈ inputs)

theorem isFate_eq_false {event : TraceEvent} (h : event.isFate = false) :
    event.isSourceMapped = false ∧ event.isStaleEvent = false ∧ event.isStaleMessage = false ∧
      event.isTransition = false := by
  simpa [TraceEvent.isFate, and_assoc] using h

theorem TraceRecord.ends?_of_not {p : TraceEvent → Bool} {causes : List TraceId} {record : TraceRecord}
    (h : p record.event = false) : record.ends? p causes = none := by
  unfold TraceRecord.ends?
  rw [h]
  rfl

theorem TraceRecord.ends?_of_notMem {p : TraceEvent → Bool} {causes : List TraceId} {record : TraceRecord}
    (h : ∀ cause, record.cause = some cause → cause ∉ causes) : record.ends? p causes = none := by
  unfold TraceRecord.ends?
  split
  · cases hcause : record.cause with
    | none => rfl
    | some cause => simp [Option.filter, h cause hcause]
  · rfl

theorem TraceRecord.ends?_of_mem {p : TraceEvent → Bool} {causes : List TraceId} {record : TraceRecord}
    {cause : TraceId} (hp : p record.event = true) (hcause : record.cause = some cause)
    (hmem : cause ∈ causes) : record.ends? p causes = some cause := by
  unfold TraceRecord.ends?
  simp [hp, hcause, Option.filter, hmem]

variable [RustTypes]

namespace Controlled

/-! ## Stages -/

/-- What was made of one accepted event. -/
structure Emission where
  stamp : SourceStamp
  input : TraceId
  subscription : ErasedRuntimeSubscription
  outer : List ErasedSourceEvent
  messages : List (SourceEventKind × ErasedValue)

/-- The stamp and the record of an acceptance. -/
def Observation.acceptance? : Observation → Option (SourceStamp × TraceId)
  | .accepted stamp input _ => some (stamp, input)
  | _ => none

def Observation.emission? : Observation → Option Emission
  | .emitted stamp input subscription outer messages =>
      some ⟨stamp, input, subscription, outer, messages⟩
  | _ => none

/-- An accepted event or a Message mapped from one. -/
def ScheduledWork.isSourced (work : ScheduledWork) : Bool :=
  match work.kind with
  | .sourceEvent _ => true
  | .message message => message.source.isSome

def ScheduledWork.input? (stamp : SourceStamp) (work : ScheduledWork) : Option TraceId :=
  match work.kind with
  | .sourceEvent event => if event.stamp = stamp then some event.cause else none
  | .message _ => none

def ScheduledWork.mapped? (stamp : SourceStamp) (work : ScheduledWork) : Option TraceId :=
  match work.kind with
  | .sourceEvent _ => none
  | .message message => if message.source = some stamp then some message.cause else none

namespace Core

variable (core : Core) (stamp : SourceStamp)

/-- Every acceptance, of any realization. -/
def acceptances : List (SourceStamp × TraceId) := core.journal.filterMap Observation.acceptance?

/-- The inputs accepted for `stamp`. -/
def inputs : List TraceId :=
  core.acceptances.filterMap fun accepted => if accepted.1 = stamp then some accepted.2 else none

/-- What the plan and the mapper of `stamp` have made of its inputs. -/
def emissions : List Emission :=
  (core.journal.filterMap Observation.emission?).filter (·.stamp = stamp)

/-- Scheduled Source work. -/
def sourced : List ScheduledWork := core.scheduled.filter (·.isSourced)

def pendingInputs : List TraceId := core.sourced.filterMap (·.input? stamp)

def pendingMessages : List TraceId := core.sourced.filterMap (·.mapped? stamp)

/-- The causes, among `causes`, of the records of some kind. -/
def ended (p : TraceEvent → Bool) (causes : List TraceId) : List TraceId :=
  core.trace.filterMap (TraceRecord.ends? p causes)

/-- The inputs of `stamp` that were dropped. -/
def staleInputs : List TraceId := core.ended TraceEvent.isStaleEvent (core.inputs stamp)

/-- The records of the Messages mapped from the inputs of `stamp`. -/
def mappedRecords : List TraceRecord :=
  core.trace.filter (TraceRecord.isMappedFrom (core.inputs stamp))

/-- The Messages mapped from the inputs of `stamp`. -/
def messages : List TraceId := (core.mappedRecords stamp).map (·.id)

/-- The Messages of `stamp` that began a transition. -/
def begun : List TraceId := core.ended TraceEvent.isTransition (core.messages stamp)

/-- The Messages of `stamp` that were dropped. -/
def staleMessages : List TraceId := core.ended TraceEvent.isStaleMessage (core.messages stamp)

/-- `stamp` is the realization in place for its Subscription. -/
def Installed : Prop := ∃ source ∈ core.sources, source.stamp = stamp

/-- `stamp` is in place and has not ended. -/
def Serving : Prop := ∃ source ∈ core.sources, source.stamp = stamp ∧ source.running = true

end Core

/-! ## Growth of the stages -/

section Stages

variable {core core' : Core} {stamp : SourceStamp}

theorem ended_append {p : TraceEvent → Bool} {causes : List TraceId} {records : List TraceRecord}
    (htrace : core'.trace = core.trace ++ records) :
    core'.ended p causes = core.ended p causes ++ records.filterMap (TraceRecord.ends? p causes) := by
  unfold Core.ended
  rw [htrace, List.filterMap_append]

theorem ended_fresh {p : TraceEvent → Bool} {causes added : List TraceId}
    (h : ∀ record ∈ core.trace, ∀ cause, record.cause = some cause → cause ∉ added) :
    core.ended p (causes ++ added) = core.ended p causes := by
  unfold Core.ended
  refine List.filterMap_congr ?_
  intro record hrecord
  unfold TraceRecord.ends?
  split
  · cases hcause : record.cause with
    | none => rfl
    | some cause => simp [Option.filter, h record hrecord cause hcause]
  · rfl

theorem mappedRecords_append {records : List TraceRecord}
    (htrace : core'.trace = core.trace ++ records) (hinputs : core'.inputs stamp = core.inputs stamp) :
    core'.mappedRecords stamp =
      core.mappedRecords stamp ++ records.filter (TraceRecord.isMappedFrom (core.inputs stamp)) := by
  unfold Core.mappedRecords
  rw [htrace, hinputs, List.filter_append]

/-- Work that is neither Source work nor a transition of it. -/
structure Aside (core core' : Core) : Prop where
  records : ∃ records, core'.trace = core.trace ++ records ∧
    ∀ record ∈ records, record.event.isFate = false
  observations : ∃ observations, core'.journal = core.journal ++ observations ∧
    ∀ observation ∈ observations,
      Observation.acceptance? observation = none ∧ Observation.emission? observation = none
  sourced : core'.sourced = core.sourced
  /-- What is newly scheduled stands under a record of its own. -/
  plain : ∀ work ∈ core'.scheduled, work ∈ core.scheduled ∨ ∃ message record,
    work.kind = .message message ∧ message.source = none ∧
      core'.trace[message.cause]? = some record ∧ record.event.isSourceMapped = false

namespace Aside

theorem acceptances (h : Aside core core') : core'.acceptances = core.acceptances := by
  obtain ⟨observations, hjournal, hnone⟩ := h.observations
  unfold Core.acceptances
  rw [hjournal, List.filterMap_append, List.filterMap_eq_nil_iff.mpr fun o ho => (hnone o ho).1, List.append_nil]

theorem inputs (h : Aside core core') : core'.inputs stamp = core.inputs stamp := by
  unfold Core.inputs
  rw [h.acceptances]

theorem emissions (h : Aside core core') : core'.emissions stamp = core.emissions stamp := by
  obtain ⟨observations, hjournal, hnone⟩ := h.observations
  unfold Core.emissions
  rw [hjournal, List.filterMap_append, List.filterMap_eq_nil_iff.mpr fun o ho => (hnone o ho).2, List.append_nil]

theorem ended (h : Aside core core') {p : TraceEvent → Bool} {causes : List TraceId}
    (hp : ∀ event : TraceEvent, event.isFate = false → p event = false) :
    core'.ended p causes = core.ended p causes := by
  obtain ⟨records, htrace, hfates⟩ := h.records
  rw [ended_append htrace, List.filterMap_eq_nil_iff.mpr fun record hrecord =>
    TraceRecord.ends?_of_not (hp _ (hfates record hrecord)), List.append_nil]

theorem staleInputs (h : Aside core core') :
    core'.staleInputs stamp = core.staleInputs stamp := by
  unfold Core.staleInputs
  rw [h.inputs]
  exact h.ended fun _ hfate => (isFate_eq_false hfate).2.1

theorem mappedRecords (h : Aside core core') :
    core'.mappedRecords stamp = core.mappedRecords stamp := by
  obtain ⟨records, htrace, hfates⟩ := h.records
  rw [mappedRecords_append htrace h.inputs]
  have hnone : records.filter (TraceRecord.isMappedFrom (core.inputs stamp)) = [] := by
    rw [List.filter_eq_nil_iff]
    intro record hrecord
    simp [TraceRecord.isMappedFrom, (isFate_eq_false (hfates record hrecord)).1]
  rw [hnone, List.append_nil]

theorem messages (h : Aside core core') : core'.messages stamp = core.messages stamp := by
  unfold Core.messages
  rw [h.mappedRecords]

theorem begun (h : Aside core core') : core'.begun stamp = core.begun stamp := by
  unfold Core.begun
  rw [h.messages]
  exact h.ended fun _ hfate => (isFate_eq_false hfate).2.2.2

theorem staleMessages (h : Aside core core') :
    core'.staleMessages stamp = core.staleMessages stamp := by
  unfold Core.staleMessages
  rw [h.messages]
  exact h.ended fun _ hfate => (isFate_eq_false hfate).2.2.1

theorem pendingInputs (h : Aside core core') :
    core'.pendingInputs stamp = core.pendingInputs stamp := by
  unfold Core.pendingInputs
  rw [h.sourced]

theorem pendingMessages (h : Aside core core') :
    core'.pendingMessages stamp = core.pendingMessages stamp := by
  unfold Core.pendingMessages
  rw [h.sourced]

end Aside

/-- A Message that no Source stamped is no Source work. -/
theorem sourced_plain {between : Core} {deadline : Duration} {message : QueuedMessage}
    (hscheduled : between.scheduled = core.scheduled) (hsource : message.source = none) :
    (between.scheduledAt deadline (.message message)).sourced = core.sourced := by
  unfold Core.sourced
  rw [Core.scheduledAt_scheduled, hscheduled, List.filter_append]
  simp [ScheduledWork.isSourced, hsource]

end Stages

/-! ## The queue -/

section Queue

variable {core core' : Core} {work : ScheduledWork}

/-- Source work waits for the current instant, in the order of its tickets. -/
structure Queued (core : Core) : Prop where
  due : ∀ work ∈ core.sourced, work.deadline ≤ core.now
  ordered : core.sourced.Pairwise (·.ticket < ·.ticket)
  below : ∀ work ∈ core.sourced, work.ticket < core.nextTicket

theorem scheduled_keys_nodup (hlaw : Scheduler.Law core.scheduler) :
    (core.scheduled.map ScheduledWork.key).Nodup := by
  have hnodup := hlaw.keys_nodup
  unfold Core.scheduler at hnodup
  rw [List.map_map] at hnodup
  exact hnodup

theorem popped_sourced_plain (hlaw : Scheduler.Law core.scheduler)
    (hdue : core.nextDue = some work) (hwork : work.isSourced = false) :
    (core.popped work).sourced = core.sourced := by
  have hperm := popped_perm hlaw hdue
  have hqueued := (nextDue_eq_some hdue).1
  have hkeys := scheduled_keys_nodup hlaw
  unfold Core.sourced
  rw [Core.popped_scheduled, Table.eraseP_eq_filter hkeys, List.filter_filter]
  refine List.filter_congr ?_
  intro other hother
  by_cases hkey : other.key = work.key
  · rw [List.inj_on_of_nodup_map hkeys hother hqueued hkey, hwork]
    rfl
  · simp [hkey]

/-- The Source work that runs next is the first in the queue. -/
theorem popped_sourced (h : Queued core) (hlaw : Scheduler.Law core.scheduler)
    (hdue : core.nextDue = some work) (hwork : work.isSourced = true) :
    core.sourced = work :: (core.popped work).sourced := by
  obtain ⟨hqueued, hnow, hleast⟩ := nextDue_eq_some hdue
  have hkeys := scheduled_keys_nodup hlaw
  have hmem : work ∈ core.sourced := List.mem_filter.mpr ⟨hqueued, hwork⟩
  have hinstant (other : ScheduledWork) (hother : other ∈ core.sourced) :
      other.deadline = core.now := by
    have htimely := hlaw.timely other.entry (List.mem_map_of_mem (List.mem_filter.mp hother).1)
    exact le_antisymm (h.due other hother) htimely
  have hfirst (other : ScheduledWork) (hother : other ∈ core.sourced) :
      work.ticket ≤ other.ticket := by
    have hkey := hleast other (List.mem_filter.mp hother).1 (h.due other hother)
    unfold ScheduledWork.key at hkey
    rw [hinstant work hmem, hinstant other hother] at hkey
    rcases Prod.Lex.toLex_le_toLex.mp hkey with hlt | ⟨_, hle⟩
    · exact absurd hlt (lt_irrefl _)
    · exact hle
  have hpopped : (core.popped work).sourced = core.sourced.filter (·.key ≠ work.key) := by
    unfold Core.sourced
    rw [Core.popped_scheduled, Table.eraseP_eq_filter hkeys, List.filter_filter, List.filter_filter]
    refine List.filter_congr fun other _ => ?_
    exact Bool.and_comm _ _
  rw [hpopped]
  cases hsourced : core.sourced with
  | nil =>
      rw [hsourced] at hmem
      cases hmem
  | cons head rest =>
      have hordered := h.ordered
      rw [hsourced, List.pairwise_cons] at hordered
      have hhead : head = work := by
        rw [hsourced] at hmem
        rcases List.mem_cons.mp hmem with heq | hrest
        · exact heq.symm
        · have hlt := hordered.1 work hrest
          have hle := hfirst head (hsourced ▸ List.mem_cons_self)
          omega
      have hothers : rest.filter (·.key ≠ work.key) = rest := by
        rw [List.filter_eq_self]
        intro other hother
        have hlt := hordered.1 other hother
        have hne : other.key ≠ work.key := by
          intro heq
          have hticket : other.ticket = work.ticket := congrArg (fun key => (ofLex key).2) heq
          rw [hhead] at hlt
          omega
        simpa using hne
      rw [hhead, List.filter_cons_of_neg (by simp), hothers]

end Queue

/-! ## What an action does to Source work -/

section Actions

variable {core core' : Core}

/-- What `process_source_event` adds, as the stages of a realization see it. -/
structure Mapped (core : Core) (source : ActiveSource) (cause : TraceId)
    (mapped : List (SourceEventKind × ErasedValue)) (records : List TraceRecord)
    (works : List ScheduledWork) : Prop where
  causes : records.map (fun record => (record.cause, record.event.sourceKind?)) =
    mapped.map fun message => (some cause, some message.1)
  fresh : ∀ record ∈ records, record.event.isSourceMapped = true ∧ record.cause = some cause ∧
    core.trace.length ≤ record.id
  messages : works.filterMap (·.mapped? source.stamp) = records.map (·.id)
  others : ∀ stamp, stamp ≠ source.stamp → works.filterMap (·.mapped? stamp) = []
  events : ∀ work ∈ works, ∃ message, work.kind = .message message ∧
    message.source = some source.stamp ∧ work.deadline = core.now ∧ core.nextTicket ≤ work.ticket ∧
      work.ticket < core.nextTicket + mapped.length
  ordered : works.Pairwise (·.ticket < ·.ticket)

theorem foldl_mapped (source : ActiveSource) (cause : TraceId)
    (mapped : List (SourceEventKind × ErasedValue)) (core : Core) :
    ∃ records works, mapped.foldl (Core.withMappedEvent · source cause) core =
        { core with
          trace := core.trace ++ records
          scheduled := core.scheduled ++ works
          nextTicket := core.nextTicket + mapped.length } ∧
      Mapped core source cause mapped records works := by
  induction mapped generalizing core with
  | nil => exact ⟨[], [], by simp, rfl, by simp, rfl, by simp, by simp, List.Pairwise.nil⟩
  | cons event mapped ih =>
      obtain ⟨records, works, heq, hmapped⟩ := ih (core.withMappedEvent source cause event)
      let record : TraceRecord := ⟨core.trace.length, core.now, some cause,
        .sourceEventMapped source.stamp.component source.stamp.subscription
          source.subscription.descriptorTypeName event.1⟩
      let work : ScheduledWork := ⟨core.now, core.nextTicket,
        .message (mappedMessage source event.2 core.nextTrace)⟩
      have hlength : (core.withMappedEvent source cause event).trace.length =
          core.trace.length + 1 := List.length_append
      refine ⟨record :: records, work :: works, ?_, ?_, ?_, ?_, ?_, ?_, ?_⟩
      · rw [List.foldl_cons, heq]
        simp [Core.withMappedEvent, Core.messageScheduled, record, work, Nat.add_assoc,
          Nat.add_comm 1]
      · rw [List.map_cons, List.map_cons, hmapped.causes]
        rfl
      · intro other hother
        rcases List.mem_cons.mp hother with rfl | hmem
        · exact ⟨rfl, rfl, Nat.le_refl _⟩
        · obtain ⟨hevent, hcause, hid⟩ := hmapped.fresh other hmem
          exact ⟨hevent, hcause, by omega⟩
      · have hwork : work.mapped? source.stamp = some record.id := if_pos rfl
        rw [List.filterMap_cons_some hwork, hmapped.messages]
        rfl
      · intro stamp hstamp
        have hwork : work.mapped? stamp = none :=
          if_neg fun heq => hstamp (Option.some.inj heq).symm
        rw [List.filterMap_cons_none hwork]
        exact hmapped.others stamp hstamp
      · intro other hother
        rcases List.mem_cons.mp hother with rfl | hmem
        · exact ⟨_, rfl, rfl, rfl, Nat.le_refl _, by simp [work]⟩
        · obtain ⟨message, hkind, hsource, hdeadline, hlow, hhigh⟩ := hmapped.events other hmem
          have hnow : (core.withMappedEvent source cause event).nextTicket =
            core.nextTicket + 1 := rfl
          refine ⟨message, hkind, hsource, hdeadline, by omega, ?_⟩
          rw [List.length_cons]
          omega
      · refine List.pairwise_cons.mpr ⟨?_, hmapped.ordered⟩
        intro other hother
        obtain ⟨_, _, _, _, hlow, _⟩ := hmapped.events other hother
        exact hlow

/-- The state after an event was accepted for `source`. -/
def Core.accepting (core : Core) (source : ActiveSource) (event : ErasedSourceEvent) : Core :=
  ((core.traced none (.controlledSourceInput source.stamp.component source.stamp.subscription
    source.plan.terminalTypeName event.kind)).observed
      (.accepted source.stamp core.nextTrace event)).scheduledAt core.now
        (.sourceEvent ⟨source.stamp, source.plan.terminalType, event, core.nextTrace⟩)

/-- The state after the event of `work` was mapped. -/
def Core.mapping (core : Core) (work : ScheduledWork) (event : QueuedSourceEvent)
    (source : ActiveSource) (plan : SourcePlan) (outer : List ErasedSourceEvent)
    (mapped : List (SourceEventKind × ErasedValue)) : Core :=
  mapped.foldl (Core.withMappedEvent · source event.cause)
    ((((core.popped work).withPlan source plan event.event outer).withEmission source
      event.cause outer mapped).withRunning source
        (event.event.isTerminal || outer.any (·.isTerminal)))

/-- What a step is to Source work. -/
inductive Carriage (core core' : Core) : Prop where
  | aside (h : Aside core core')
  | accepted (source : ActiveSource) (event : ErasedSourceEvent) (hsource : source ∈ core.sources)
      (hrunning : source.running = true) (heq : core' = core.accepting source event)
  | eventStale (work : ScheduledWork) (event : QueuedSourceEvent)
      (hdue : core.nextDue = some work) (hkind : work.kind = .sourceEvent event)
      (hstale : ∀ source, core.source? event.stamp.component event.stamp.subscription =
        some source → ¬ Core.Accepts source event)
      (heq : core' = (core.popped work).traced (some event.cause)
        (.staleSourceWorkDropped event.stamp.component event.stamp.subscription false))
  | eventMapped (work : ScheduledWork) (event : QueuedSourceEvent) (source : ActiveSource)
      (plan : SourcePlan) (outer : List ErasedSourceEvent)
      (mapped : List (SourceEventKind × ErasedValue)) (hdue : core.nextDue = some work)
      (hkind : work.kind = .sourceEvent event)
      (hsource : core.source? event.stamp.component event.stamp.subscription = some source)
      (haccepts : Core.Accepts source event)
      (hplan : (SourcePlan.mapEvent event.event).run source.plan = .ok outer plan)
      (hmapped : mapOuterEvents source.subscription outer = .ok mapped)
      (heq : core' = core.mapping work event source plan outer mapped)
  | messageStale (work : ScheduledWork) (message : QueuedMessage) (stamp : SourceStamp)
      (hdue : core.nextDue = some work) (hkind : work.kind = .message message)
      (hsource : message.source = some stamp) (hstale : core.sourceStampIsCurrent stamp = false)
      (heq : core' = (core.popped work).traced (some message.cause)
        (.staleSourceWorkDropped stamp.component stamp.subscription true))
  | delivered (work : ScheduledWork) (message : QueuedMessage) (kernel : ErasedComponentKernel)
      (hdue : core.nextDue = some work) (hkind : work.kind = .message message)
      (hcurrent : ∀ stamp, message.source = some stamp → core.sourceStampIsCurrent stamp = true)
      (heq : core' = (((core.popped work).fired message).withComponent message.target
        message.targetMessageType kernel).traced (some (core.deliveryCause message))
          (.transition message.target message.messageTypeName))

variable {phase : Phase}

/-- A record of no interest to Sources, and perhaps a Message under it. -/
theorem Aside.mk' {records : List TraceRecord} {observations : List Observation}
    (htrace : core'.trace = core.trace ++ records)
    (hjournal : core'.journal = core.journal ++ observations)
    (hrecords : ∀ record ∈ records, record.event.isFate = false)
    (hobservations : ∀ observation ∈ observations,
      Observation.acceptance? observation = none ∧ Observation.emission? observation = none)
    (hsourced : core'.sourced = core.sourced) (hscheduled : core'.scheduled ⊆ core.scheduled) :
    Aside core core' :=
  ⟨⟨records, htrace, hrecords⟩, ⟨observations, hjournal, hobservations⟩, hsourced,
    fun _ hwork => Or.inl (hscheduled hwork)⟩

theorem Aside.scheduling {between : Core} {records : List TraceRecord} (record : TraceRecord)
    {observations : List Observation} {deadline : Duration} {message : QueuedMessage}
    (htrace : between.trace = core.trace ++ records)
    (hjournal : between.journal = core.journal ++ observations)
    (hrecords : ∀ record ∈ records, record.event.isFate = false)
    (hobservations : ∀ observation ∈ observations,
      Observation.acceptance? observation = none ∧ Observation.emission? observation = none)
    (hscheduled : between.scheduled = core.scheduled) (hsource : message.source = none)
    (hcause : between.trace[message.cause]? = some record) (hrecord : record ∈ records) :
    Aside core (between.scheduledAt deadline (.message message)) := by
  refine ⟨⟨records, htrace, hrecords⟩, ⟨observations, hjournal, hobservations⟩,
    sourced_plain hscheduled hsource, ?_⟩
  intro work hwork
  rw [Core.scheduledAt_scheduled, hscheduled] at hwork
  rcases List.mem_append.mp hwork with hold | hnew
  · exact Or.inl hold
  · rw [List.mem_singleton.mp hnew]
    exact Or.inr ⟨message, record, rfl, hsource, hcause, (isFate_eq_false (hrecords _ hrecord)).1⟩

theorem isFate_emission {message : TypeId} (component : ComponentId)
    (declaration : Declaration message) : (emission component declaration).isFate = false := by
  cases declaration <;> rfl

/-- A declaration schedules a Message under its own record. -/
theorem Aside.emitting {message : TypeId} {cause : TraceId} {component : ComponentId}
    {declaration : Declaration message} {observations : List Observation} {between : Core}
    {deadline : Duration} {queued : QueuedMessage}
    (htrace : between.trace = (core.emitted cause component declaration).trace)
    (hjournal : between.journal =
      (core.emitted cause component declaration).journal ++ observations)
    (hobservations : ∀ observation ∈ observations,
      Observation.acceptance? observation = none ∧ Observation.emission? observation = none)
    (hscheduled : between.scheduled = core.scheduled) (hsource : queued.source = none)
    (hcause : queued.cause = core.nextTrace) :
    Aside core (between.scheduledAt deadline (.message queued)) := by
  refine Aside.scheduling ⟨core.nextTrace, core.now, some cause, emission component declaration⟩
    htrace (hjournal.trans (List.append_assoc _ _ _)) ?_ ?_ hscheduled hsource ?_
    List.mem_cons_self
  · intro record hrecord
    rw [List.mem_singleton.mp hrecord]
    exact isFate_emission component declaration
  · intro observation hobservation
    rcases List.mem_append.mp hobservation with hdeclared | hmem
    · rw [List.mem_singleton.mp hdeclared]
      exact ⟨rfl, rfl⟩
    · exact hobservations observation hmem
  · rw [htrace, hcause]
    exact List.getElem?_concat_length

/-- A Reply schedules a Message under the record of the request's outcome. -/
theorem Aside.replied {message : TypeId} {cause : TraceId} {component : ComponentId}
    {correlation : Nat} (declaration : Declaration message) (request : OutstandingRequest)
    (reply mapped : ErasedValue) :
    Aside core (((((core.emitted cause component declaration).withoutRequest correlation).traced
      (some core.nextTrace) (.requestOutcome request.requester (typeName request.replyType))).observed
        (.continued request reply mapped)).scheduledAt core.now (.message (plainMessage
          request.requester request.messageType mapped (core.nextTrace + 1)))) := by
  let emitted := core.emitted cause component declaration
  let last : TraceRecord := ⟨emitted.nextTrace, core.now, some core.nextTrace,
    .requestOutcome request.requester (typeName request.replyType)⟩
  let first : TraceRecord := ⟨core.nextTrace, core.now, some cause, emission component declaration⟩
  let observations : List Observation := [.declared core.nextTrace component core.now
    ⟨message, declaration⟩, .continued request reply mapped]
  refine @Aside.scheduling _ core _ [first, last] last observations _ _ ?_ ?_ ?_ ?_ rfl rfl ?_
    (List.mem_cons_of_mem _ List.mem_cons_self)
  · show core.trace ++ [first] ++ [last] = _
    rw [List.append_assoc]
    rfl
  · show core.journal ++ [_] ++ [_] = _
    rw [List.append_assoc]
    rfl
  · intro record hrecord
    rcases List.mem_cons.mp hrecord with rfl | hlast
    · exact isFate_emission component declaration
    · rw [List.mem_singleton.mp hlast]
      rfl
  · intro observation hobservation
    rcases List.mem_cons.mp hobservation with rfl | hlast
    · exact ⟨rfl, rfl⟩
    · rw [List.mem_singleton.mp hlast]
      exact ⟨rfl, rfl⟩
  · have hcause : core.nextTrace + 1 = emitted.trace.length :=
      (core.emitted_nextTrace cause component _).symm
    show (emitted.trace ++ [last])[core.nextTrace + 1]? = some last
    rw [hcause]
    exact List.getElem?_concat_length

theorem Action.carriage (htyped : Typed core) (haddressed : Addressed core)
    (h : Action core phase core') : Carriage core core' := by
  have hquiet {event : TraceEvent} (cause : Option TraceId) (hevent : event.isFate = false) :
      ∀ record ∈ [(⟨core.trace.length, core.now, cause, event⟩ : TraceRecord)],
        record.event.isFate = false := by
    intro record hrecord
    rw [List.mem_singleton.mp hrecord]
    exact hevent
  have hnothing : ∀ observation ∈ ([] : List Observation),
      Observation.acceptance? observation = none ∧ Observation.emission? observation = none :=
    fun _ hobservation => absurd hobservation List.not_mem_nil
  have hnone {observation : Observation} (haccepted : observation.acceptance? = none)
      (hemitted : observation.emission? = none) : ∀ other ∈ [observation],
      Observation.acceptance? other = none ∧ Observation.emission? other = none := by
    intro other hother
    rw [List.mem_singleton.mp hother]
    exact ⟨haccepted, hemitted⟩
  have hnil : core.journal = core.journal ++ [] := (List.append_nil _).symm
  have hnorecord : ∀ record ∈ ([] : List TraceRecord), record.event.isFate = false :=
    fun _ hrecord => absurd hrecord List.not_mem_nil
  have htraced : core.trace = core.trace ++ [] := (List.append_nil _).symm
  cases h with
  | initialized id =>
      exact .aside (.mk' rfl hnil (hquiet none rfl) hnothing rfl (List.Subset.refl _))
  | projected id messageType kernel desired changes reconciler =>
      exact .aside (.mk' htraced rfl hnorecord (hnone rfl rfl) rfl (List.Subset.refl _))
  | duplicated id messageType kernel desired duplicate =>
      exact .aside (.mk' htraced rfl hnorecord (hnone rfl rfl) rfl (List.Subset.refl _))
  | duplicateFaulted id work desired duplicate =>
      exact .aside (.mk' rfl hnil (hquiet (some work) rfl) hnothing rfl (List.Subset.refl _))
  | commandTaken id messageType kernel =>
      exact .aside (.mk' htraced hnil hnorecord hnothing rfl (List.Subset.refl _))
  | started component cause subscription =>
      exact .aside (.mk' rfl rfl (hquiet (some cause) rfl) (hnone rfl rfl) rfl
        (List.Subset.refl _))
  | retained component cause subscription =>
      exact .aside (.mk' rfl hnil (hquiet (some cause) rfl) hnothing rfl (List.Subset.refl _))
  | replaced component cause subscription =>
      exact .aside (.mk' rfl rfl (hquiet (some cause) rfl) (hnone rfl rfl) rfl
        (List.Subset.refl _))
  | cancelled component cause id descriptorType =>
      exact .aside (.mk' rfl hnil (hquiet (some cause) rfl) hnothing rfl (List.Subset.refl _))
  | startFaulted component cause subscription =>
      exact .aside (.mk' (List.append_assoc _ _ _) hnil (by simp [lifecycle, TraceEvent.isFate,
        TraceEvent.isSourceMapped, TraceEvent.isStaleEvent, TraceEvent.isStaleMessage,
        TraceEvent.isTransition]) hnothing rfl (List.Subset.refl _))
  | replaceFaulted component cause subscription =>
      exact .aside (.mk' (List.append_assoc _ _ _) hnil (by simp [lifecycle, TraceEvent.isFate,
        TraceEvent.isSourceMapped, TraceEvent.isStaleEvent, TraceEvent.isStaleMessage,
        TraceEvent.isTransition]) hnothing rfl (List.Subset.refl _))
  | effectDeclared component cause command =>
      exact .aside (.mk' rfl rfl (hquiet (some cause) rfl) (hnone rfl rfl) rfl
        (List.Subset.refl _))
  | sendDeclared component cause command =>
      exact .aside (.emitting rfl (List.append_nil _).symm hnothing rfl rfl rfl)
  | notifyDeclared component cause command =>
      exact .aside (.emitting rfl (List.append_nil _).symm hnothing rfl rfl rfl)
  | requestDeclared component cause command =>
      exact .aside (.emitting rfl rfl (hnone rfl rfl) rfl rfl rfl)
  | timerDeclared component cause delay deadline value =>
      exact .aside (.emitting rfl (List.append_nil _).symm hnothing rfl rfl rfl)
  | @replyDeclared message component cause command request mapped =>
      exact .aside (Aside.replied (.reply command : Declaration message) request _ mapped)
  | declarationFaulted component cause declaration =>
      refine .aside (.mk' (List.append_assoc _ _ _) rfl ?_ (hnone rfl rfl) rfl
        (List.Subset.refl _))
      intro record hrecord
      rcases List.mem_cons.mp hrecord with rfl | hlast
      · exact isFate_emission component declaration
      · rw [List.mem_singleton.mp hlast]
        rfl
  | replyMistyped component cause command =>
      refine .aside (.mk' (List.append_assoc _ _ _) rfl ?_ (hnone rfl rfl) rfl
        (List.Subset.refl _))
      intro record hrecord
      rcases List.mem_cons.mp hrecord with rfl | hlast
      · rfl
      · rw [List.mem_singleton.mp hlast]
        rfl
  | @messageInput component target message =>
      refine .aside (.scheduling ⟨core.trace.length, core.now, none, .controlledMessageInput target.id
        (typeName (RustTypes.componentMessage component))⟩ rfl hnil (hquiet none rfl) hnothing rfl rfl
          ?_ List.mem_cons_self)
      exact List.getElem?_concat_length
  | sourceInput source event hsource hrunning htype =>
      exact .accepted source event hsource hrunning rfl
  | effectClaimed =>
      exact .aside (.mk' htraced hnil hnorecord hnothing rfl (List.Subset.refl _))
  | effectDiscarded id entry outcome =>
      exact .aside (.mk' rfl hnil (hquiet none rfl) hnothing rfl (List.Subset.refl _))
  | effectMapped id entry outcome mapper message =>
      refine .aside (.scheduling ⟨core.trace.length, core.now, none, .effectOutcome
        entry.requestTrace entry.component (typeName entry.descriptorType) (.of outcome)⟩ rfl hnil
          (hquiet none rfl) hnothing rfl rfl ?_ List.mem_cons_self)
      exact List.getElem?_concat_length
  | sourceEventStale work event hdue hkind hstale =>
      exact .eventStale work event hdue hkind hstale rfl
  | sourceEventMapped work event source plan outer mapped hdue hkind hsource haccepts hplan
      hmapped =>
      exact .eventMapped work event source plan outer mapped hdue hkind hsource haccepts hplan
        hmapped rfl
  | messageStale work message stamp hdue hkind hsource hstale =>
      exact .messageStale work message stamp hdue hkind hsource hstale rfl
  | messageDelivered work message kernel kernel' command hdue hkind hcurrent hkernel htransition =>
      exact .delivered work message kernel' hdue hkind hcurrent rfl
  | deliveryFaulted work message hdue hkind hcurrent hkernel =>
      obtain ⟨kernel, hhosts⟩ := haddressed.messages work (nextDue_eq_some hdue).1 message hkind
      rw [hkernel] at hhosts
      cases hhosts
  | deliveryMismatched work message kernel hdue hkind hcurrent hkernel hmismatch =>
      exact absurd hmismatch (htyped.accepted hdue hkind hkernel)

end Actions

end Controlled

end Samara
