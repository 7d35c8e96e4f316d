/-
  Samara.Controlled.Cutover

  The fate of Source input: whatever was accepted for a realization is mapped
  once or dropped once, in the order of acceptance, and from the moment that
  the realization is withdrawn none of it begins a transition.

  The invariant keeps, for every stamp, each stage of its work as the next
  stage, what was dropped before it, and what is still queued.
-/
import Samara.Controlled.Lanes

namespace Samara

open Relation (ReflTransGen)

theorem Controlled.stamp_eq {stamp other : SourceStamp} (hcomponent : stamp.component = other.component)
    (hsubscription : stamp.subscription = other.subscription)
    (hgeneration : stamp.generation = other.generation) : stamp = other := by
  cases stamp
  cases other
  simp_all

theorem isSourceMapped_others {event : TraceEvent} (h : event.isSourceMapped = true) :
    event.isStaleEvent = false ∧ event.isStaleMessage = false ∧ event.isTransition = false := by
  cases event with
  | sourceEventMapped => exact ⟨rfl, rfl, rfl⟩
  | _ => cases h

variable [RustTypes]

/-- Mapping an event does not change what a plan takes in. -/
theorem SourcePlan.terminalType_mapEvent {plan plan' : SourcePlan} {event : ErasedSourceEvent}
    {outer : List ErasedSourceEvent} (h : (mapEvent event).run plan = .ok outer plan') :
    plan'.terminalType = plan.terminalType := by
  simp only [mapEvent, EStateM.run] at h
  split at h
  · cases h
    rfl
  · cases h

namespace Controlled

/-! ## Rows -/

section Rows

variable {core core' : Core} {phase : Phase} {stamp : SourceStamp}

/-- `source` continues a row, which ran if `source` does. -/
def Core.Continues (core : Core) (source : ActiveSource) : Prop :=
  ∃ old ∈ core.sources, old.stamp = source.stamp ∧
    old.plan.terminalType = source.plan.terminalType ∧ (source.running = true → old.running = true)

theorem continues_self {source : ActiveSource} (hsource : source ∈ core.sources) :
    core.Continues source := ⟨source, hsource, rfl, rfl, id⟩

theorem source?_eq_some {component : ComponentId} {subscription : SubscriptionId}
    {source : ActiveSource} (h : core.source? component subscription = some source) :
    source ∈ core.sources ∧ source.stamp.component = component ∧
      source.stamp.subscription = subscription := by
  have hrow := List.find?_some h
  simp only [ActiveSource.isOf, Bool.and_eq_true, decide_eq_true_eq] at hrow
  exact ⟨List.mem_of_find?_eq_some h, hrow⟩

theorem source?_of_mem (hkeyed : core.keys.Nodup) {source : ActiveSource}
    (hsource : source ∈ core.sources) :
    core.source? source.stamp.component source.stamp.subscription = some source := by
  unfold Core.source?
  rw [isOf_eq]
  exact Table.find?_of_nodup hkeyed hsource

/-- A stamp is current exactly as long as its realization is in place. -/
theorem isCurrent_iff (hkeyed : core.keys.Nodup) :
    core.sourceStampIsCurrent stamp = true ↔ core.Installed stamp := by
  unfold Core.sourceStampIsCurrent
  rw [Option.any_eq_true]
  constructor
  · rintro ⟨source, hsource, hgeneration⟩
    obtain ⟨hmem, hcomponent, hsubscription⟩ := source?_eq_some hsource
    exact ⟨source, hmem, stamp_eq hcomponent hsubscription (of_decide_eq_true hgeneration)⟩
  · rintro ⟨source, hmem, rfl⟩
    exact ⟨source, source?_of_mem hkeyed hmem, decide_eq_true rfl⟩

/-- A row continues an old one, or it is that of a new realization. -/
theorem Action.realizations (h : Action core phase core') {source : ActiveSource}
    (hsource : source ∈ core'.sources) :
    core.Continues source ∨ (source.stamp.generation = core.nextGeneration ∧
      core'.nextGeneration = core.nextGeneration + 1) := by
  have hactivated {base : List ActiveSource} {component : ComponentId}
      {subscription : ErasedRuntimeSubscription}
      (hmem : source ∈ base ++ [core.activation component subscription])
      (hbase : base ⊆ core.sources) :
      core.Continues source ∨ source.stamp.generation = core.nextGeneration := by
    rcases List.mem_append.mp hmem with hmem | hnew
    · exact Or.inl (continues_self (hbase hmem))
    · rw [List.mem_singleton.mp hnew]
      exact Or.inr rfl
  cases h with
  | started => exact (hactivated hsource (List.Subset.refl _)).imp_right fun heq => ⟨heq, rfl⟩
  | replaced => exact (hactivated hsource List.eraseP_subset).imp_right fun heq => ⟨heq, rfl⟩
  | retained =>
      rcases Table.mem_modifyFirst hsource with hmem | ⟨found, hfound, rfl⟩
      · exact Or.inl (continues_self hmem)
      · exact Or.inl ⟨found, List.mem_of_find?_eq_some hfound, rfl, rfl, id⟩
  | cancelled => exact Or.inl (continues_self (List.mem_of_mem_eraseP hsource))
  | replaceFaulted => exact Or.inl (continues_self (List.mem_of_mem_eraseP hsource))
  | sourceEventMapped work event active plan outer mapped _ _ hactive _ hplan _ =>
      left
      rw [Core.foldl_withMappedEvent_sources] at hsource
      have hmapped {row : ActiveSource} (hrow : row ∈ ((((core.popped work).withPlan active plan
          event.event outer).withEmission active event.cause outer mapped)).sources) :
          core.Continues row := by
        rcases Table.mem_modifyFirst hrow with hmem | ⟨found, hfound, rfl⟩
        · exact continues_self hmem
        · obtain ⟨_, hcomponent, hsubscription⟩ := source?_eq_some hactive
          have hsame : core.source? active.stamp.component active.stamp.subscription =
              some active := by
            rw [hcomponent, hsubscription]
            exact hactive
          have heq : found = active := Option.some.inj (hfound.symm.trans hsame)
          refine ⟨found, List.mem_of_find?_eq_some hfound, rfl, ?_, id⟩
          rw [heq]
          exact (SourcePlan.terminalType_mapEvent hplan).symm
      rcases Table.mem_modifyFirst hsource with hmem | ⟨found, hfound, rfl⟩
      · exact hmapped hmem
      · obtain ⟨old, hold, hstamp, htype, hrunning⟩ := hmapped (List.mem_of_find?_eq_some hfound)
        refine ⟨old, hold, hstamp, htype, ?_⟩
        intro hruns
        rw [Bool.and_eq_true] at hruns
        exact hrunning hruns.1
  | _ =>
      refine Or.inl (continues_self ?_)
      simpa using hsource

theorem Action.nextGeneration_le (h : Action core phase core') :
    core.nextGeneration ≤ core'.nextGeneration := by
  cases h with
  | sourceEventMapped => simp [Core.withPlan, Core.withRunning]
  | _ => simp

/-- What came before does not come back. -/
theorem installed_before (h : Action core phase core')
    (hstamp : stamp.generation < core.nextGeneration) (hinstalled : core'.Installed stamp) :
    core.Installed stamp := by
  obtain ⟨source, hsource, rfl⟩ := hinstalled
  rcases h.realizations hsource with ⟨old, hold, heq, _, _⟩ | ⟨hnew, _⟩
  · exact ⟨old, hold, heq⟩
  · omega

theorem serving_before (h : Action core phase core')
    (hstamp : stamp.generation < core.nextGeneration) (hserving : core'.Serving stamp) :
    core.Serving stamp := by
  obtain ⟨source, hsource, rfl, hruns⟩ := hserving
  rcases h.realizations hsource with ⟨old, hold, heq, _, hrunning⟩ | ⟨hnew, _⟩
  · exact ⟨old, hold, heq, hrunning hruns⟩
  · omega

end Rows

/-! ## Records -/

section Records

variable {core core' : Core} {stamp : SourceStamp}

theorem cause_lt (h : Rooting core) {record : TraceRecord} (hrecord : record ∈ core.trace)
    {cause : TraceId} (hcause : record.cause = some cause) : cause < core.trace.length := by
  obtain ⟨_, parent, hparent, _⟩ := h.forest.children record hrecord cause hcause
  exact (List.getElem?_eq_some_iff.mp hparent).1

theorem id_lt (h : Rooting core) {record : TraceRecord} (hrecord : record ∈ core.trace) :
    record.id < core.trace.length := by
  obtain ⟨index, hindex⟩ := List.mem_iff_getElem?.mp hrecord
  rw [h.grammar.position index record hindex]
  exact (List.getElem?_eq_some_iff.mp hindex).1

theorem ids_nodup (h : Rooting core) : (core.trace.map (·.id)).Nodup := by
  unfold List.Nodup
  rw [List.pairwise_map, List.pairwise_iff_getElem]
  intro first second hfirst hsecond hlt heq
  rw [h.grammar.position first _ (List.getElem?_eq_getElem hfirst),
    h.grammar.position second _ (List.getElem?_eq_getElem hsecond)] at heq
  exact Nat.ne_of_lt hlt heq

theorem mem_inputs {input : TraceId} : input ∈ core.inputs stamp ↔ (stamp, input) ∈ core.acceptances := by
  unfold Core.inputs
  rw [List.mem_filterMap]
  constructor
  · rintro ⟨⟨other, found⟩, hmem, heq⟩
    simp only [Option.ite_none_right_eq_some, Option.some.injEq] at heq
    rw [← heq.1, ← heq.2]
    exact hmem
  · intro hmem
    exact ⟨(stamp, input), hmem, if_pos rfl⟩

theorem mem_mappedRecords {record : TraceRecord} : record ∈ core.mappedRecords stamp ↔
    record ∈ core.trace ∧ record.event.isSourceMapped = true ∧
      ∃ input ∈ core.inputs stamp, record.cause = some input := by
  unfold Core.mappedRecords TraceRecord.isMappedFrom
  rw [List.mem_filter, Bool.and_eq_true, Option.any_eq_true]
  refine and_congr_right fun _ => and_congr_right fun _ => ?_
  constructor
  · rintro ⟨input, hcause, hmem⟩
    exact ⟨input, of_decide_eq_true hmem, hcause⟩
  · rintro ⟨input, hmem, hcause⟩
    exact ⟨input, hcause, decide_eq_true hmem⟩

theorem inputs_sublist : (core.inputs stamp).Sublist (core.acceptances.map Prod.snd) := by
  unfold Core.inputs
  induction core.acceptances with
  | nil => exact List.Sublist.refl _
  | cons first rest ih =>
      by_cases hstamp : first.1 = stamp
      · simpa [hstamp] using ih
      · simpa [hstamp] using ih.cons first.2

/-- The stages that one record adds to. -/
structure Marks (core core' : Core) (record : TraceRecord) : Prop where
  trace : core'.trace = core.trace ++ [record]
  acceptances : core'.acceptances = core.acceptances
  emissions : ∀ stamp, core'.emissions stamp = core.emissions stamp
  unmapped : record.event.isSourceMapped = false

namespace Marks

variable {record : TraceRecord}

theorem inputs (h : Marks core core' record) : core'.inputs stamp = core.inputs stamp := by
  unfold Core.inputs
  rw [h.acceptances]

theorem mappedRecords (h : Marks core core' record) :
    core'.mappedRecords stamp = core.mappedRecords stamp := by
  rw [mappedRecords_append h.trace h.inputs]
  have hnone : [record].filter (TraceRecord.isMappedFrom (core.inputs stamp)) = [] := by
    rw [List.filter_eq_nil_iff]
    intro other hother
    rw [List.mem_singleton.mp hother]
    simp [TraceRecord.isMappedFrom, h.unmapped]
  rw [hnone, List.append_nil]

theorem messages (h : Marks core core' record) : core'.messages stamp = core.messages stamp := by
  unfold Core.messages
  rw [h.mappedRecords]

theorem ended (h : Marks core core' record) (p : TraceEvent → Bool) (causes : List TraceId) :
    core'.ended p causes = core.ended p causes ++ (record.ends? p causes).toList := by
  rw [ended_append h.trace, List.filterMap_cons]
  cases record.ends? p causes <;> rfl

theorem staleInputs (h : Marks core core' record) : core'.staleInputs stamp = core.staleInputs stamp ++
    (record.ends? TraceEvent.isStaleEvent (core.inputs stamp)).toList := by
  unfold Core.staleInputs
  rw [h.inputs]
  exact h.ended _ _

theorem begun (h : Marks core core' record) : core'.begun stamp = core.begun stamp ++
    (record.ends? TraceEvent.isTransition (core.messages stamp)).toList := by
  unfold Core.begun
  rw [h.messages]
  exact h.ended _ _

theorem staleMessages (h : Marks core core' record) :
    core'.staleMessages stamp = core.staleMessages stamp ++
      (record.ends? TraceEvent.isStaleMessage (core.messages stamp)).toList := by
  unfold Core.staleMessages
  rw [h.messages]
  exact h.ended _ _

end Marks

end Records

/-! ## Lanes -/

/-- The stages of one realization: each is the next one, what was dropped on
    the way, and what is still queued, in this order. -/
structure Lane (core : Core) (stamp : SourceStamp) : Prop where
  events : core.inputs stamp = (core.emissions stamp).map (·.input) ++ core.staleInputs stamp ++
    core.pendingInputs stamp
  /-- One record for each Message that the mapper made, under the event it came from. -/
  children : (core.mappedRecords stamp).map (fun record => (record.cause, record.event.sourceKind?)) =
    (core.emissions stamp).flatMap fun emission =>
      emission.messages.map fun message => (some emission.input, some message.1)
  messages : core.messages stamp = core.begun stamp ++ core.staleMessages stamp ++
    core.pendingMessages stamp
  ended : core.staleInputs stamp ≠ [] → ¬ core.Serving stamp
  withdrawn : core.staleMessages stamp ≠ [] → ¬ core.Installed stamp

namespace Lane

variable {core core' : Core} {stamp : SourceStamp}

theorem aside (h : Lane core stamp) (haside : Aside core core')
    (hserving : core.staleInputs stamp ≠ [] → core'.Serving stamp → core.Serving stamp)
    (hinstalled : core.staleMessages stamp ≠ [] → core'.Installed stamp → core.Installed stamp) :
    Lane core' stamp := by
  constructor
  · rw [haside.inputs, haside.emissions, haside.staleInputs, haside.pendingInputs]
    exact h.events
  · rw [haside.mappedRecords, haside.emissions]
    exact h.children
  · rw [haside.messages, haside.begun, haside.staleMessages, haside.pendingMessages]
    exact h.messages
  · rw [haside.staleInputs]
    exact fun hstale hserves => h.ended hstale (hserving hstale hserves)
  · rw [haside.staleMessages]
    exact fun hstale hinstalls => h.withdrawn hstale (hinstalled hstale hinstalls)

/-- A record that a realization has nothing to do with. -/
theorem unmarked (h : Lane core stamp) {record : TraceRecord} (hmarks : Marks core core' record)
    (hsources : core'.sources = core.sources)
    (hinputs : core'.pendingInputs stamp = core.pendingInputs stamp)
    (hmessages : core'.pendingMessages stamp = core.pendingMessages stamp)
    (hevent : record.ends? TraceEvent.isStaleEvent (core.inputs stamp) = none)
    (hmessage : record.ends? TraceEvent.isStaleMessage (core.messages stamp) = none)
    (htransition : record.ends? TraceEvent.isTransition (core.messages stamp) = none) :
    Lane core' stamp := by
  constructor
  · rw [hmarks.inputs, hmarks.emissions, hmarks.staleInputs, hevent, hinputs, Option.toList_none,
      List.append_nil]
    exact h.events
  · rw [hmarks.mappedRecords, hmarks.emissions]
    exact h.children
  · rw [hmarks.messages, hmarks.begun, hmarks.staleMessages, hmessage, htransition, hmessages,
      Option.toList_none, List.append_nil, List.append_nil]
    exact h.messages
  · rw [hmarks.staleInputs, hevent, Option.toList_none, List.append_nil]
    unfold Core.Serving
    rw [hsources]
    exact h.ended
  · rw [hmarks.staleMessages, hmessage, Option.toList_none, List.append_nil]
    unfold Core.Installed
    rw [hsources]
    exact h.withdrawn

end Lane

/-! ## The invariant -/

theorem Action.nextTicket_le {core core' : Core} {phase : Phase} (h : Action core phase core') :
    core.nextTicket ≤ core'.nextTicket := by
  have hfired (core : Core) (message : QueuedMessage) :
      (core.fired message).nextTicket = core.nextTicket := by
    obtain ⟨records, heq, _⟩ := core.fired_eq message
    rw [heq]
  cases h with
  | sourceEventMapped work event source plan outer mapped _ _ _ _ _ _ =>
      obtain ⟨records, works, heq, _⟩ := foldl_mapped source event.cause mapped
        ((((core.popped work).withPlan source plan event.event outer).withEmission source
          event.cause outer mapped).withRunning source
            (event.event.isTerminal || outer.any (·.isTerminal)))
      rw [heq]
      exact Nat.le_add_right _ _
  | messageDelivered work message => exact (hfired (core.popped work) message).ge
  | deliveryFaulted work message => exact (hfired (core.popped work) message).ge
  | deliveryMismatched work message => exact (hfired (core.popped work) message).ge
  | _ => simp

/-- The queue loses work at its front and gains work at its end. -/
theorem Queued.advance {core core' : Core} {kept works : List ScheduledWork} (h : Queued core)
    (hkept : kept.Sublist core.sourced) (hsourced : core'.sourced = kept ++ works)
    (hnow : core.now ≤ core'.now) (hticket : core.nextTicket ≤ core'.nextTicket)
    (hworks : ∀ work ∈ works, work.deadline ≤ core'.now ∧ core.nextTicket ≤ work.ticket ∧
      work.ticket < core'.nextTicket)
    (hordered : works.Pairwise (·.ticket < ·.ticket)) : Queued core' := by
  refine ⟨?_, ?_, ?_⟩
  · rw [hsourced]
    intro work hwork
    rcases List.mem_append.mp hwork with hold | hnew
    · exact le_trans (h.due work (hkept.subset hold)) hnow
    · exact (hworks work hnew).1
  · rw [hsourced]
    refine List.pairwise_append.mpr ⟨h.ordered.sublist hkept, hordered, ?_⟩
    intro old hold new hnew
    exact lt_of_lt_of_le (h.below old (hkept.subset hold)) (hworks new hnew).2.1
  · rw [hsourced]
    intro work hwork
    rcases List.mem_append.mp hwork with hold | hnew
    · exact lt_of_lt_of_le (h.below work (hkept.subset hold)) hticket
    · exact (hworks work hnew).2.2

/-- The work of every realization is in its stages. -/
structure Bench (core : Core) : Prop where
  recent : ∀ source ∈ core.sources, source.stamp.generation < core.nextGeneration
  known : ∀ accepted ∈ core.acceptances,
    accepted.1.generation < core.nextGeneration ∧ accepted.2 < core.trace.length
  distinct : (core.acceptances.map Prod.snd).Nodup
  /-- What is queued for a row is of the type that the row takes in. -/
  terminals : ∀ work ∈ core.sourced, ∀ event, work.kind = .sourceEvent event →
    ∀ source ∈ core.sources, source.stamp = event.stamp →
      source.plan.terminalType = event.terminalType
  plain : ∀ work ∈ core.scheduled, ∀ message, work.kind = .message message →
    message.source = none → ∃ record, core.trace[message.cause]? = some record ∧
      record.event.isSourceMapped = false
  queued : Queued core
  lanes : ∀ stamp, Lane core stamp

namespace Bench

variable {core core' : Core} {phase : Phase} {stamp : SourceStamp} {work : ScheduledWork}

theorem fresh (program : Program) (bindings : Bindings) :
    Bench (Core.fresh program bindings) := by
  refine ⟨?_, ?_, List.nodup_nil, ?_, ?_, ⟨?_, List.Pairwise.nil, ?_⟩, fun stamp => ?_⟩
  all_goals first
    | exact fun _ hmem => absurd hmem List.not_mem_nil
    | exact ⟨rfl, rfl, rfl, fun hne => absurd rfl hne, fun hne => absurd rfl hne⟩

theorem input_known (h : Bench core) {input : TraceId} (hinput : input ∈ core.inputs stamp) :
    stamp.generation < core.nextGeneration ∧ input < core.trace.length :=
  h.known _ (mem_inputs.mp hinput)

theorem input_stamp (h : Bench core) {input : TraceId} {other : SourceStamp}
    (hinput : input ∈ core.inputs stamp) (hother : input ∈ core.inputs other) : stamp = other :=
  congrArg Prod.fst (List.inj_on_of_nodup_map h.distinct (mem_inputs.mp hinput)
    (mem_inputs.mp hother) rfl)

/-- A Message was mapped from an input of one stamp only. -/
theorem message_stamp (h : Bench core) (hrooting : Rooting core) {message : TraceId}
    {other : SourceStamp} (hmessage : message ∈ core.messages stamp)
    (hother : message ∈ core.messages other) : stamp = other := by
  obtain ⟨record, hrecord, rfl⟩ := List.mem_map.mp hmessage
  obtain ⟨found, hfound, hid⟩ := List.mem_map.mp hother
  obtain ⟨hmem, _, input, hinput, hcause⟩ := mem_mappedRecords.mp hrecord
  obtain ⟨hmem', _, input', hinput', hcause'⟩ := mem_mappedRecords.mp hfound
  rw [List.inj_on_of_nodup_map (ids_nodup hrooting) hmem' hmem hid, hcause] at hcause'
  cases hcause'
  exact h.input_stamp hinput hinput'

theorem known_of_inputs (h : Bench core) (hinputs : core.inputs stamp ≠ []) :
    stamp.generation < core.nextGeneration := by
  obtain ⟨input, hinput⟩ := List.exists_mem_of_ne_nil _ hinputs
  exact (h.input_known hinput).1

theorem known_of_staleInputs (h : Bench core) (hstale : core.staleInputs stamp ≠ []) :
    stamp.generation < core.nextGeneration := by
  refine h.known_of_inputs ?_
  rw [(h.lanes stamp).events]
  simp [hstale]

theorem known_of_messages (h : Bench core) (hmessages : core.messages stamp ≠ []) :
    stamp.generation < core.nextGeneration := by
  obtain ⟨message, hmessage⟩ := List.exists_mem_of_ne_nil _ hmessages
  obtain ⟨record, hrecord, _⟩ := List.mem_map.mp hmessage
  obtain ⟨_, _, input, hinput, _⟩ := mem_mappedRecords.mp hrecord
  exact (h.input_known hinput).1

theorem known_of_staleMessages (h : Bench core) (hstale : core.staleMessages stamp ≠ []) :
    stamp.generation < core.nextGeneration := by
  refine h.known_of_messages ?_
  rw [(h.lanes stamp).messages]
  simp [hstale]

theorem input_of_queued (h : Bench core) (hwork : work ∈ core.sourced) {event : QueuedSourceEvent}
    (hkind : work.kind = .sourceEvent event) : event.cause ∈ core.inputs event.stamp := by
  have hpending : event.cause ∈ core.pendingInputs event.stamp := by
    refine List.mem_filterMap.mpr ⟨work, hwork, ?_⟩
    unfold ScheduledWork.input?
    rw [hkind]
    exact if_pos rfl
  rw [(h.lanes _).events]
  exact List.mem_append_right _ hpending

theorem message_of_queued (h : Bench core) (hwork : work ∈ core.sourced) {message : QueuedMessage}
    (hkind : work.kind = .message message) (hsource : message.source = some stamp) :
    message.cause ∈ core.messages stamp := by
  have hpending : message.cause ∈ core.pendingMessages stamp := by
    refine List.mem_filterMap.mpr ⟨work, hwork, ?_⟩
    unfold ScheduledWork.mapped?
    rw [hkind]
    exact if_pos hsource
  rw [(h.lanes _).messages]
  exact List.mem_append_right _ hpending

/-- A step that accepts nothing keeps all but the queue and the lanes. -/
theorem carried (h : Bench core) (haction : Action core phase core')
    (hacceptances : core'.acceptances = core.acceptances)
    (hsourced : ∀ work ∈ core'.sourced, work ∈ core.sourced ∨
      ∃ message, work.kind = .message message)
    (hplain : ∀ work ∈ core'.scheduled, work ∈ core.scheduled ∨ ∀ message,
      work.kind = .message message → message.source = none →
        ∃ record, core'.trace[message.cause]? = some record ∧ record.event.isSourceMapped = false)
    (hqueued : Queued core') (hlanes : ∀ stamp, Lane core' stamp) : Bench core' := by
  have hlater := haction.nextGeneration_le
  refine ⟨?_, ?_, ?_, ?_, ?_, hqueued, hlanes⟩
  · intro source hsource
    rcases haction.realizations hsource with ⟨old, hold, hstamp, _, _⟩ | ⟨hnew, heq⟩
    · rw [← hstamp]
      exact lt_of_lt_of_le (h.recent old hold) hlater
    · omega
  · rw [hacceptances]
    intro accepted haccepted
    obtain ⟨hgeneration, hlt⟩ := h.known accepted haccepted
    exact ⟨lt_of_lt_of_le hgeneration hlater, lt_of_lt_of_le hlt haction.trace_grows.length_le⟩
  · rw [hacceptances]
    exact h.distinct
  · intro work hwork event hkind source hsource hstamp
    rcases hsourced work hwork with hold | ⟨message, hmessage⟩
    · rcases haction.realizations hsource with ⟨old, hrow, hsame, htype, _⟩ | ⟨hnew, _⟩
      · rw [← htype]
        exact h.terminals work hold event hkind old hrow (hsame.trans hstamp)
      · have hgeneration := (h.input_known (h.input_of_queued hold hkind)).1
        rw [← hstamp] at hgeneration
        omega
    · rw [hmessage] at hkind
      cases hkind
  · intro work hwork message hkind hsource
    rcases hplain work hwork with hold | hnew
    · obtain ⟨record, hrecord, hunmapped⟩ := h.plain work hold message hkind hsource
      exact ⟨record, haction.extends.getElem hrecord, hunmapped⟩
    · exact hnew message hkind hsource

theorem aside (h : Bench core) (haction : Action core phase core') (haside : Aside core core') :
    Bench core' := by
  refine h.carried haction haside.acceptances ?_ ?_ ?_ ?_
  · rw [haside.sourced]
    exact fun work hwork => Or.inl hwork
  · intro work hwork
    rcases haside.plain work hwork with hold | ⟨message, record, hkind, _, hrecord, hunmapped⟩
    · exact Or.inl hold
    · refine Or.inr fun other hother _ => ?_
      rw [hkind] at hother
      cases hother
      exact ⟨record, hrecord, hunmapped⟩
  · refine @Queued.advance _ core core' core.sourced [] h.queued (List.Sublist.refl _) ?_ ?_
      haction.nextTicket_le ?_ List.Pairwise.nil
    · rw [haside.sourced, List.append_nil]
    · rw [haction.now_eq]
    · exact fun _ hmem => absurd hmem List.not_mem_nil
  · intro stamp
    refine (h.lanes stamp).aside haside ?_ ?_
    · exact fun hstale => serving_before haction (h.known_of_staleInputs hstale)
    · exact fun hstale => installed_before haction (h.known_of_staleMessages hstale)

/-! ### Acceptance -/

theorem accepted (h : Bench core) (hrooting : Rooting core) (hkeyed : core.keys.Nodup)
    {source : ActiveSource} {event : ErasedSourceEvent} (hsource : source ∈ core.sources) :
    Bench (core.accepting source event) := by
  let record : TraceRecord := ⟨core.trace.length, core.now, none,
    .controlledSourceInput source.stamp.component source.stamp.subscription
      source.plan.terminalTypeName event.kind⟩
  let queued : QueuedSourceEvent :=
    ⟨source.stamp, source.plan.terminalType, event, core.nextTrace⟩
  let work : ScheduledWork := ⟨core.now, core.nextTicket, .sourceEvent queued⟩
  have htrace : (core.accepting source event).trace = core.trace ++ [record] := rfl
  have hacceptances : (core.accepting source event).acceptances =
      core.acceptances ++ [(source.stamp, core.nextTrace)] := List.filterMap_append
  have hinputs (stamp : SourceStamp) : (core.accepting source event).inputs stamp =
      core.inputs stamp ++ if source.stamp = stamp then [core.nextTrace] else [] := by
    unfold Core.inputs
    rw [hacceptances, List.filterMap_append]
    by_cases hstamp : source.stamp = stamp
    · simp [hstamp]
    · simp [hstamp]
  have hsourced : (core.accepting source event).sourced = core.sourced ++ [work] := by
    unfold Core.sourced Core.accepting
    rw [Core.scheduledAt_scheduled, List.filter_append]
    rfl
  have hemissions (stamp : SourceStamp) :
      (core.accepting source event).emissions stamp = core.emissions stamp := by
    have hjournal : (core.accepting source event).journal =
        core.journal ++ [.accepted source.stamp core.nextTrace event] := rfl
    unfold Core.emissions
    rw [hjournal, List.filterMap_append]
    simp [Observation.emission?]
  -- The new input is the cause of no record yet.
  have hunused (added : List TraceId) (hadded : ∀ input ∈ added, input = core.nextTrace) :
      ∀ other ∈ core.trace, ∀ cause, other.cause = some cause → cause ∉ added := by
    intro other hother cause hcause hmem
    rw [hadded cause hmem] at hcause
    exact Nat.lt_irrefl _ (cause_lt hrooting hother hcause)
  have hended (p : TraceEvent → Bool) (causes : List TraceId) :
      (core.accepting source event).ended p causes = core.ended p causes := by
    rw [ended_append htrace, List.filterMap_cons_none, List.filterMap_nil, List.append_nil]
    exact TraceRecord.ends?_of_notMem fun cause hcause => by cases hcause
  have hnew (stamp : SourceStamp) (input : TraceId)
      (hinput : input ∈ if source.stamp = stamp then [core.nextTrace] else []) :
      input = core.nextTrace := by
    split at hinput
    · exact List.mem_singleton.mp hinput
    · cases hinput
  have hmappedRecords (stamp : SourceStamp) :
      (core.accepting source event).mappedRecords stamp = core.mappedRecords stamp := by
    unfold Core.mappedRecords
    rw [htrace, hinputs, List.filter_append]
    have hlast : [record].filter (TraceRecord.isMappedFrom (core.inputs stamp ++
        if source.stamp = stamp then [core.nextTrace] else [])) = [] := rfl
    rw [hlast, List.append_nil]
    refine List.filter_congr fun other hother => ?_
    unfold TraceRecord.isMappedFrom
    cases hcause : other.cause with
    | none => rfl
    | some cause =>
        have hfresh := hunused _ (hnew stamp) other hother cause hcause
        simp only [Option.any_some, List.mem_append, or_iff_left hfresh]
  have hmessages (stamp : SourceStamp) :
      (core.accepting source event).messages stamp = core.messages stamp :=
    congrArg (List.map _) (hmappedRecords stamp)
  have hstaleInputs (stamp : SourceStamp) :
      (core.accepting source event).staleInputs stamp = core.staleInputs stamp := by
    unfold Core.staleInputs
    rw [hinputs, hended]
    exact ended_fresh (hunused _ (hnew stamp))
  have hstaleMessages (stamp : SourceStamp) :
      (core.accepting source event).staleMessages stamp = core.staleMessages stamp := by
    unfold Core.staleMessages
    rw [hmessages, hended]
  have hbegun (stamp : SourceStamp) :
      (core.accepting source event).begun stamp = core.begun stamp := by
    unfold Core.begun
    rw [hmessages, hended]
  refine ⟨h.recent, ?_, ?_, ?_, ?_, ?_, ?_⟩
  · rw [hacceptances]
    have hlength : (core.accepting source event).trace.length = core.trace.length + 1 :=
      List.length_append
    intro accepted haccepted
    rcases List.mem_append.mp haccepted with hold | hlast
    · obtain ⟨hgeneration, hlt⟩ := h.known accepted hold
      exact ⟨hgeneration, hlength ▸ Nat.lt_succ_of_lt hlt⟩
    · rw [List.mem_singleton.mp hlast]
      exact ⟨h.recent source hsource, hlength ▸ Nat.lt_succ_self _⟩
  · rw [hacceptances, List.map_append]
    refine List.nodup_append.mpr ⟨h.distinct, List.nodup_singleton _, ?_⟩
    intro input hinput last hlast heq
    obtain ⟨accepted, haccepted, rfl⟩ := List.mem_map.mp hinput
    have hlt := (h.known accepted haccepted).2
    rw [heq, List.mem_singleton.mp hlast] at hlt
    exact Nat.lt_irrefl _ hlt
  · rw [hsourced]
    intro other hother found hkind row hrow hstamp
    rcases List.mem_append.mp hother with hold | hlast
    · exact h.terminals other hold found hkind row hrow hstamp
    · rw [List.mem_singleton.mp hlast] at hkind
      cases hkind
      have hkey : row.key = source.key := by
        unfold ActiveSource.key
        rw [hstamp]
      rw [List.inj_on_of_nodup_map hkeyed hrow hsource hkey]
  · intro other hother message hkind hplain
    rcases List.mem_append.mp hother with hold | hlast
    · obtain ⟨found, hfound, hunmapped⟩ := h.plain other hold message hkind hplain
      refine ⟨found, ?_, hunmapped⟩
      rw [htrace, List.getElem?_append_left (List.getElem?_eq_some_iff.mp hfound).1]
      exact hfound
    · rw [List.mem_singleton.mp hlast] at hkind
      cases hkind
  · refine h.queued.advance (List.Sublist.refl _) hsourced (le_refl _) (Nat.le_succ _) ?_
      (List.pairwise_singleton _ _)
    intro other hother
    rw [List.mem_singleton.mp hother]
    exact ⟨le_refl _, Nat.le_refl _, Nat.lt_succ_self _⟩
  · intro stamp
    have hlane := h.lanes stamp
    have hpendingInputs : (core.accepting source event).pendingInputs stamp =
        core.pendingInputs stamp ++ if source.stamp = stamp then [core.nextTrace] else [] := by
      unfold Core.pendingInputs
      rw [hsourced, List.filterMap_append]
      by_cases hstamp : source.stamp = stamp
      · simp [work, queued, ScheduledWork.input?, hstamp]
      · simp [work, queued, ScheduledWork.input?, hstamp]
    have hpendingMessages : (core.accepting source event).pendingMessages stamp =
        core.pendingMessages stamp := by
      unfold Core.pendingMessages
      rw [hsourced, List.filterMap_append]
      simp [work, ScheduledWork.mapped?]
    constructor
    · rw [hinputs, hemissions, hstaleInputs, hpendingInputs, hlane.events, List.append_assoc]
    · rw [hmappedRecords, hemissions]
      exact hlane.children
    · rw [hmessages, hbegun, hstaleMessages, hpendingMessages]
      exact hlane.messages
    · rw [hstaleInputs]
      exact hlane.ended
    · rw [hstaleMessages]
      exact hlane.withdrawn

/-! ### Ends -/

theorem marks_popped (work : ScheduledWork) (cause : TraceId) {event : TraceEvent}
    (hunmapped : event.isSourceMapped = false) :
    Marks core ((core.popped work).traced (some cause) event)
      ⟨core.trace.length, core.now, some cause, event⟩ := by
  refine ⟨rfl, ?_, fun stamp => ?_, hunmapped⟩
  · unfold Core.acceptances
    rw [Core.traced_journal, Core.popped_journal, List.filterMap_append]
    simp [Observation.acceptance?]
  · unfold Core.emissions
    rw [Core.traced_journal, Core.popped_journal, List.filterMap_append]
    simp [Observation.emission?]

/-- A step that only takes work from the queue. -/
theorem taken (h : Bench core) (haction : Action core phase core') {record : TraceRecord}
    (hmarks : Marks core core' record) (hsourced : core'.sourced.Sublist core.sourced)
    (hscheduled : core'.scheduled ⊆ core.scheduled) (hlanes : ∀ stamp, Lane core' stamp) :
    Bench core' := by
  refine h.carried haction hmarks.acceptances ?_ ?_ ?_ hlanes
  · exact fun work hwork => Or.inl (hsourced.subset hwork)
  · exact fun work hwork => Or.inl (hscheduled hwork)
  · exact h.queued.advance hsourced (List.append_nil _).symm (haction.now_eq ▸ le_refl _)
      haction.nextTicket_le (fun _ hmem => absurd hmem List.not_mem_nil) List.Pairwise.nil

theorem pendingInputs_cons (hsourced : core.sourced = work :: core'.sourced) :
    core.pendingInputs stamp = (work.input? stamp).toList ++ core'.pendingInputs stamp := by
  unfold Core.pendingInputs
  rw [hsourced, List.filterMap_cons]
  cases work.input? stamp <;> rfl

theorem pendingMessages_cons (hsourced : core.sourced = work :: core'.sourced) :
    core.pendingMessages stamp = (work.mapped? stamp).toList ++ core'.pendingMessages stamp := by
  unfold Core.pendingMessages
  rw [hsourced, List.filterMap_cons]
  cases work.mapped? stamp <;> rfl

/-- An event dropped at the front of the queue. -/
theorem eventStale (h : Bench core) (hrooting : Rooting core) (hkeyed : core.keys.Nodup)
    {event : QueuedSourceEvent} (hdue : core.nextDue = some work)
    (hkind : work.kind = .sourceEvent event)
    (hstale : ∀ source, core.source? event.stamp.component event.stamp.subscription =
      some source → ¬ Core.Accepts source event) :
    ¬ core.Serving event.stamp ∧ (Action core phase ((core.popped work).traced (some event.cause)
      (.staleSourceWorkDropped event.stamp.component event.stamp.subscription false)) →
        Bench ((core.popped work).traced (some event.cause)
          (.staleSourceWorkDropped event.stamp.component event.stamp.subscription false))) := by
  have hisSourced : work.isSourced = true := by
    unfold ScheduledWork.isSourced
    rw [hkind]
  have hsourced := popped_sourced h.queued hrooting.law hdue hisSourced
  have hmem : work ∈ core.sourced := by
    rw [hsourced]
    exact List.mem_cons_self
  have hinput := h.input_of_queued hmem hkind
  have hidle : ¬ core.Serving event.stamp := by
    rintro ⟨source, hsource, hstamp, hrunning⟩
    have hfound := source?_of_mem hkeyed hsource
    rw [hstamp] at hfound
    refine hstale source hfound ⟨congrArg SourceStamp.generation hstamp, hrunning, ?_⟩
    exact h.terminals work hmem event hkind source hsource hstamp
  refine ⟨hidle, fun haction => ?_⟩
  have hmarks := @marks_popped _ core work event.cause
    (.staleSourceWorkDropped event.stamp.component event.stamp.subscription false) rfl
  refine h.taken haction hmarks ?_ List.eraseP_subset fun stamp => ?_
  · rw [hsourced]
    exact List.sublist_cons_self _ _
  have hlane := h.lanes stamp
  have hmessages : core.pendingMessages stamp = (core.popped work).pendingMessages stamp := by
    rw [pendingMessages_cons hsourced]
    simp [ScheduledWork.mapped?, hkind]
  have hinputs := @pendingInputs_cons _ _ _ stamp _ hsourced
  by_cases hstamp : stamp = event.stamp
  · rw [hstamp] at hlane hinputs hmessages ⊢
    have hfirst : work.input? event.stamp = some event.cause := by
      unfold ScheduledWork.input?
      rw [hkind]
      exact if_pos rfl
    have hends := @TraceRecord.ends?_of_mem TraceEvent.isStaleEvent (core.inputs event.stamp)
      ⟨core.trace.length, core.now, some event.cause, .staleSourceWorkDropped event.stamp.component
        event.stamp.subscription false⟩ _ rfl rfl hinput
    rw [hfirst] at hinputs
    constructor
    · rw [hmarks.inputs, hmarks.emissions, hmarks.staleInputs, hends, hlane.events, hinputs]
      simp only [Option.toList_some, List.append_assoc]
      rfl
    · rw [hmarks.mappedRecords, hmarks.emissions]
      exact hlane.children
    · rw [hmarks.messages, hmarks.begun, hmarks.staleMessages, TraceRecord.ends?_of_not rfl,
        TraceRecord.ends?_of_not rfl, Option.toList_none, List.append_nil, List.append_nil,
        hlane.messages, hmessages]
      rfl
    · exact fun _ => hidle
    · rw [hmarks.staleMessages, TraceRecord.ends?_of_not rfl, Option.toList_none, List.append_nil]
      exact hlane.withdrawn
  · refine hlane.unmarked hmarks rfl ?_ hmessages.symm ?_ (TraceRecord.ends?_of_not rfl)
      (TraceRecord.ends?_of_not rfl)
    · have hother : work.input? stamp = none := by
        unfold ScheduledWork.input?
        rw [hkind]
        exact if_neg (Ne.symm hstamp)
      rw [hother] at hinputs
      exact hinputs.symm
    · refine TraceRecord.ends?_of_notMem fun cause hcause hmem => hstamp ?_
      cases hcause
      exact h.input_stamp hmem hinput

/-- How a Message of `origin` can end. -/
def Ends (core : Core) (origin : SourceStamp) (event : TraceEvent) : Prop :=
  (event.isTransition = true ∧ event.isStaleMessage = false ∧ core.Installed origin) ∨
    (event.isTransition = false ∧ event.isStaleMessage = true ∧ ¬ core.Installed origin)

/-- The Message at the front of the queue ends. -/
theorem messageEnds (h : Bench core) (hrooting : Rooting core) {record : TraceRecord}
    {message : QueuedMessage} {origin : SourceStamp} (hmarks : Marks core core' record)
    (hcause : record.cause = some message.cause) (hkind : work.kind = .message message)
    (hsource : message.source = some origin) (hsourced : core.sourced = work :: core'.sourced)
    (hsources : core'.sources = core.sources) (hevent : record.event.isStaleEvent = false)
    (hends : Ends core origin record.event) (stamp : SourceStamp) : Lane core' stamp := by
  have hmem : work ∈ core.sourced := by
    rw [hsourced]
    exact List.mem_cons_self
  have hmessage := h.message_of_queued hmem hkind hsource
  have hlane := h.lanes stamp
  have hinputs : core.pendingInputs stamp = core'.pendingInputs stamp := by
    rw [pendingInputs_cons hsourced]
    simp [ScheduledWork.input?, hkind]
  have hmessages := @pendingMessages_cons _ _ _ stamp _ hsourced
  by_cases hstamp : stamp = origin
  · rw [hstamp] at hlane hinputs hmessages ⊢
    have hfirst : work.mapped? origin = some message.cause := by
      unfold ScheduledWork.mapped?
      rw [hkind]
      exact if_pos hsource
    rw [hfirst] at hmessages
    have hevents : core'.inputs origin = (core'.emissions origin).map (·.input) ++
        core'.staleInputs origin ++ core'.pendingInputs origin := by
      rw [hmarks.inputs, hmarks.emissions, hmarks.staleInputs, TraceRecord.ends?_of_not hevent,
        Option.toList_none, List.append_nil, hlane.events, hinputs]
    have hchildren := hlane.children
    rw [← hmarks.mappedRecords, ← hmarks.emissions] at hchildren
    have hserving : core'.staleInputs origin ≠ [] → ¬ core'.Serving origin := by
      rw [hmarks.staleInputs, TraceRecord.ends?_of_not hevent, Option.toList_none, List.append_nil]
      unfold Core.Serving
      rw [hsources]
      exact hlane.ended
    have hinstalled : core'.Installed origin ↔ core.Installed origin := by
      unfold Core.Installed
      rw [hsources]
    rcases hends with ⟨htransition, hstale, hinstalls⟩ | ⟨htransition, hstale, hgone⟩
    · -- None was dropped while the realization was in place.
      have hnone : core.staleMessages origin = [] :=
        by_contra fun hne => hlane.withdrawn hne hinstalls
      refine ⟨hevents, hchildren, ?_, hserving, ?_⟩
      · rw [hmarks.messages, hmarks.begun, hmarks.staleMessages, TraceRecord.ends?_of_not hstale,
          TraceRecord.ends?_of_mem htransition hcause hmessage, hlane.messages, hmessages, hnone]
        simp
      · rw [hmarks.staleMessages, TraceRecord.ends?_of_not hstale, hnone]
        exact fun hne => absurd rfl hne
    · refine ⟨hevents, hchildren, ?_, hserving, ?_⟩
      · rw [hmarks.messages, hmarks.begun, hmarks.staleMessages,
          TraceRecord.ends?_of_not htransition, TraceRecord.ends?_of_mem hstale hcause hmessage,
          hlane.messages, hmessages]
        simp
      · exact fun _ hinstalls => hgone (hinstalled.mp hinstalls)
  · have hforeign (p : TraceEvent → Bool) : record.ends? p (core.messages stamp) = none := by
      refine TraceRecord.ends?_of_notMem fun cause hother hmem => hstamp ?_
      rw [hcause] at hother
      cases hother
      exact h.message_stamp hrooting hmem hmessage
    refine hlane.unmarked hmarks hsources hinputs.symm ?_ (TraceRecord.ends?_of_not hevent)
      (hforeign _) (hforeign _)
    have hother : work.mapped? stamp = none := by
      unfold ScheduledWork.mapped?
      rw [hkind]
      refine if_neg fun heq => hstamp ?_
      rw [hsource] at heq
      exact (Option.some.inj heq).symm
    rw [hother] at hmessages
    exact hmessages.symm

theorem isSourced_message {message : QueuedMessage} (hkind : work.kind = .message message) :
    work.isSourced = message.source.isSome := by
  unfold ScheduledWork.isSourced
  rw [hkind]

theorem messageStale (h : Bench core) (hrooting : Rooting core) (hkeyed : core.keys.Nodup)
    {message : QueuedMessage} {origin : SourceStamp} (hdue : core.nextDue = some work)
    (hkind : work.kind = .message message) (hsource : message.source = some origin)
    (hstale : core.sourceStampIsCurrent origin = false)
    (haction : Action core phase ((core.popped work).traced (some message.cause)
      (.staleSourceWorkDropped origin.component origin.subscription true))) :
    Bench ((core.popped work).traced (some message.cause)
      (.staleSourceWorkDropped origin.component origin.subscription true)) := by
  have hsourced := popped_sourced h.queued hrooting.law hdue
    ((isSourced_message hkind).trans (hsource ▸ rfl))
  have hgone : ¬ core.Installed origin := by
    rw [← isCurrent_iff hkeyed, hstale]
    exact Bool.false_ne_true
  have hmarks := @marks_popped _ core work message.cause
    (.staleSourceWorkDropped origin.component origin.subscription true) rfl
  refine h.taken haction hmarks ?_ List.eraseP_subset ?_
  · rw [hsourced]
    exact List.sublist_cons_self _ _
  · exact h.messageEnds hrooting hmarks rfl hkind hsource hsourced rfl rfl
      (Or.inr ⟨rfl, rfl, hgone⟩)

/-- The transition of a plain Message is no transition of Source work. -/
theorem deliveryCause_notMem (h : Bench core) (hrooting : Rooting core) {message : QueuedMessage}
    (hwork : work ∈ core.scheduled) (hkind : work.kind = .message message)
    (hplain : message.source = none) : core.deliveryCause message ∉ core.messages stamp := by
  intro hmem
  obtain ⟨record, hrecord, hid⟩ := List.mem_map.mp hmem
  obtain ⟨htrace, hmapped, _⟩ := mem_mappedRecords.mp hrecord
  unfold Core.deliveryCause at hid
  cases hdelivery : message.delivery with
  | timer =>
      rw [hdelivery] at hid
      exact Nat.ne_of_lt (id_lt hrooting htrace) hid
  | message =>
      rw [hdelivery] at hid
      obtain ⟨parent, hparent, hunmapped⟩ := h.plain work hwork message hkind hplain
      obtain ⟨index, hindex⟩ := List.mem_iff_getElem?.mp htrace
      have hposition := hrooting.grammar.position index record hindex
      rw [← hposition, hid, hparent] at hindex
      cases hindex
      rw [hmapped] at hunmapped
      cases hunmapped

theorem delivered (h : Bench core) (hrooting : Rooting core) (hkeyed : core.keys.Nodup)
    {message : QueuedMessage} {kernel : ErasedComponentKernel} (hdue : core.nextDue = some work)
    (hkind : work.kind = .message message)
    (hcurrent : ∀ stamp, message.source = some stamp → core.sourceStampIsCurrent stamp = true)
    (haction : Action core phase ((((core.popped work).fired message).withComponent message.target
      message.targetMessageType kernel).traced (some (core.deliveryCause message))
        (.transition message.target message.messageTypeName))) :
    Bench ((((core.popped work).fired message).withComponent message.target
      message.targetMessageType kernel).traced (some (core.deliveryCause message))
        (.transition message.target message.messageTypeName)) := by
  have hqueued := (nextDue_eq_some hdue).1
  have hbegins := @marks_popped _ core work (core.deliveryCause message)
    (.transition message.target message.messageTypeName) rfl
  cases hsource : message.source with
  | some origin =>
      have hdelivery := hrooting.typed.stamped work hqueued message hkind origin hsource
      have hfired : (core.popped work).fired message = core.popped work := by
        unfold Core.fired
        rw [hdelivery]
      have hcause : core.deliveryCause message = message.cause := by
        unfold Core.deliveryCause
        rw [hdelivery]
      have hsourced := popped_sourced h.queued hrooting.law hdue
        ((isSourced_message hkind).trans (hsource ▸ rfl))
      have hinstalled := (isCurrent_iff hkeyed).mp (hcurrent origin hsource)
      rw [hfired] at haction ⊢
      have hmarks : Marks core (((core.popped work).withComponent message.target
          message.targetMessageType kernel).traced (some (core.deliveryCause message))
            (.transition message.target message.messageTypeName)) _ :=
        ⟨hbegins.trace, hbegins.acceptances, hbegins.emissions, rfl⟩
      refine h.taken haction hmarks ?_ List.eraseP_subset ?_
      · rw [hsourced]
        exact List.sublist_cons_self _ _
      · exact h.messageEnds hrooting hmarks (congrArg some hcause) hkind hsource hsourced rfl rfl
          (Or.inl ⟨rfl, rfl, hinstalled⟩)
  | none =>
      have hsourced : ((core.popped work).fired message).sourced = core.sourced := by
        have hpopped := popped_sourced_plain hrooting.law hdue
          ((isSourced_message hkind).trans (hsource ▸ rfl))
        unfold Core.sourced at hpopped ⊢
        rw [Core.fired_scheduled]
        exact hpopped
      -- A timer first records that it fired.
      have haside : Aside core ((core.popped work).fired message) := by
        obtain ⟨records, heq, hrecords⟩ := (core.popped work).fired_eq message
        refine ⟨⟨records, congrArg Core.trace heq, ?_⟩,
          ⟨[.popped work.deadline work.ticket core.now], congrArg Core.journal heq, ?_⟩, hsourced, ?_⟩
        · intro record hrecord
          rw [hrecords record hrecord]
          rfl
        · intro observation hobservation
          rw [List.mem_singleton.mp hobservation]
          exact ⟨rfl, rfl⟩
        · intro other hother
          rw [Core.fired_scheduled] at hother
          exact Or.inl (List.eraseP_subset hother)
      let between := (core.popped work).fired message
      have hsources : between.sources = core.sources := Core.fired_sources _ _
      have hmarks : Marks between ((between.withComponent message.target message.targetMessageType
          kernel).traced (some (core.deliveryCause message))
            (.transition message.target message.messageTypeName)) _ := ⟨rfl, rfl, fun _ => rfl, rfl⟩
      refine h.carried haction (hmarks.acceptances.trans haside.acceptances) ?_ ?_ ?_ ?_
      · exact fun other hother => Or.inl (hsourced ▸ hother)
      · intro other hother
        refine Or.inl ?_
        have hmem : other ∈ between.scheduled := hother
        rw [show between.scheduled = (core.popped work).scheduled from Core.fired_scheduled _ _] at hmem
        exact List.eraseP_subset hmem
      · refine @Queued.advance _ core _ core.sourced [] h.queued (List.Sublist.refl _) ?_
          (haction.now_eq ▸ le_refl _) haction.nextTicket_le
          (fun _ hmem => absurd hmem List.not_mem_nil) List.Pairwise.nil
        rw [List.append_nil]
        exact hsourced
      · intro stamp
        have hlane : Lane between stamp := by
          refine (h.lanes stamp).aside haside ?_ ?_
          · unfold Core.Serving
            rw [hsources]
            exact fun _ hserves => hserves
          · unfold Core.Installed
            rw [hsources]
            exact fun _ hinstalls => hinstalls
        refine hlane.unmarked hmarks rfl rfl rfl (TraceRecord.ends?_of_not rfl)
          (TraceRecord.ends?_of_not rfl) (TraceRecord.ends?_of_notMem fun cause hcause => ?_)
        cases hcause
        rw [haside.messages]
        exact h.deliveryCause_notMem hrooting hqueued hkind hsource

/-! ### Mapping -/

/-- What mapping the event of `work` adds to the stages. -/
theorem eventMapped (h : Bench core) (hrooting : Rooting core) {event : QueuedSourceEvent}
    {source : ActiveSource} {plan : SourcePlan} {outer : List ErasedSourceEvent}
    {mapped : List (SourceEventKind × ErasedValue)} (hdue : core.nextDue = some work)
    (hkind : work.kind = .sourceEvent event)
    (hsource : core.source? event.stamp.component event.stamp.subscription = some source)
    (haccepts : Core.Accepts source event)
    (haction : Action core phase (core.mapping work event source plan outer mapped)) :
    Bench (core.mapping work event source plan outer mapped) := by
  obtain ⟨hrow, hcomponent, hsubscription⟩ := source?_eq_some hsource
  have horigin : source.stamp = event.stamp := stamp_eq hcomponent hsubscription haccepts.1
  have hserving : core.Serving event.stamp := ⟨source, hrow, horigin, haccepts.2.1⟩
  have hpopped := popped_sourced h.queued hrooting.law hdue (by
    unfold ScheduledWork.isSourced
    rw [hkind])
  have hmem : work ∈ core.sourced := by
    rw [hpopped]
    exact List.mem_cons_self
  have hinput := h.input_of_queued hmem hkind
  let base := (((core.popped work).withPlan source plan event.event outer).withEmission source
    event.cause outer mapped).withRunning source (event.event.isTerminal || outer.any (·.isTerminal))
  let emission : Emission := ⟨source.stamp, event.cause, source.subscription, outer, mapped⟩
  obtain ⟨records, works, heq, hmapped⟩ := foldl_mapped source event.cause mapped base
  have hstate : core.mapping work event source plan outer mapped = { base with
      trace := base.trace ++ records
      scheduled := base.scheduled ++ works
      nextTicket := base.nextTicket + mapped.length } := heq
  generalize core.mapping work event source plan outer mapped = core' at hstate haction ⊢
  have htrace : core'.trace = core.trace ++ records := congrArg Core.trace hstate
  have hjournal : core'.journal = core.journal ++ [.popped work.deadline work.ticket core.now] ++
      [.mapped source.stamp event.event outer] ++
        [.emitted source.stamp event.cause source.subscription outer mapped] :=
    congrArg Core.journal hstate
  have hscheduled : core'.scheduled = (core.popped work).scheduled ++ works :=
    congrArg Core.scheduled hstate
  have hticket : core'.nextTicket = core.nextTicket + mapped.length :=
    congrArg Core.nextTicket hstate
  have hworks : ∀ other ∈ works, other.isSourced = true := by
    intro other hother
    obtain ⟨message, hmessage, hstamp, _⟩ := hmapped.events other hother
    rw [isSourced_message hmessage, hstamp]
    rfl
  have hsourced : core'.sourced = (core.popped work).sourced ++ works := by
    unfold Core.sourced
    rw [hscheduled, List.filter_append, List.filter_eq_self.mpr hworks]
  have hacceptances : core'.acceptances = core.acceptances := by
    unfold Core.acceptances
    rw [hjournal]
    simp [Observation.acceptance?]
  have hemissions (stamp : SourceStamp) : core'.emissions stamp = core.emissions stamp ++
      if source.stamp = stamp then [emission] else [] := by
    have hobserved : core'.journal.filterMap Observation.emission? =
        core.journal.filterMap Observation.emission? ++ [emission] := by
      rw [hjournal, List.filterMap_append, List.filterMap_append, List.filterMap_append,
        List.append_assoc, List.append_assoc]
      rfl
    unfold Core.emissions
    rw [hobserved, List.filter_append]
    congr 1
    by_cases hstamp : source.stamp = stamp
    · have hkept : [emission].filter (·.stamp = stamp) = [emission] := by simp [emission, hstamp]
      rw [hkept, if_pos hstamp]
    · have hdropped : [emission].filter (·.stamp = stamp) = [] := by simp [emission, hstamp]
      rw [hdropped, if_neg hstamp]
  have hinputs (stamp : SourceStamp) : core'.inputs stamp = core.inputs stamp := by
    unfold Core.inputs
    rw [hacceptances]
  have hrecords (stamp : SourceStamp) : core'.mappedRecords stamp = core.mappedRecords stamp ++
      if source.stamp = stamp then records else [] := by
    rw [mappedRecords_append htrace (hinputs stamp)]
    congr 1
    by_cases hstamp : source.stamp = stamp
    · rw [if_pos hstamp, List.filter_eq_self]
      intro record hrecord
      obtain ⟨hevent, hcause, _⟩ := hmapped.fresh record hrecord
      rw [← hstamp, horigin]
      simp [TraceRecord.isMappedFrom, hevent, hcause, hinput]
    · rw [if_neg hstamp, List.filter_eq_nil_iff]
      intro record hrecord
      obtain ⟨_, hcause, _⟩ := hmapped.fresh record hrecord
      have hforeign : event.cause ∉ core.inputs stamp := fun hmem =>
        hstamp (horigin.trans (h.input_stamp hinput hmem))
      simp [TraceRecord.isMappedFrom, hcause, hforeign]
  have hmessages (stamp : SourceStamp) : core'.messages stamp = core.messages stamp ++
      if source.stamp = stamp then records.map (·.id) else [] := by
    unfold Core.messages
    rw [hrecords, List.map_append]
    split <;> rfl
  have hquiet {p : TraceEvent → Bool} (causes : List TraceId)
      (hp : ∀ event : TraceEvent, event.isSourceMapped = true → p event = false) :
      core'.ended p causes = core.ended p causes := by
    rw [ended_append htrace, List.filterMap_eq_nil_iff.mpr fun record hrecord =>
      TraceRecord.ends?_of_not (hp _ (hmapped.fresh record hrecord).1), List.append_nil]
  -- No record is caused by one of the new ones.
  have hfresh (p : TraceEvent → Bool) (stamp : SourceStamp) :
      core.ended p (core.messages stamp ++ if source.stamp = stamp then records.map (·.id) else []) =
        core.ended p (core.messages stamp) := by
    refine ended_fresh fun record hrecord cause hcause hnew => ?_
    have hlt := cause_lt hrooting hrecord hcause
    split at hnew
    · obtain ⟨added, hadded, rfl⟩ := List.mem_map.mp hnew
      have hle := (hmapped.fresh added hadded).2.2
      exact Nat.lt_irrefl _ (lt_of_lt_of_le hlt hle)
    · cases hnew
  have hstaleInputs (stamp : SourceStamp) : core'.staleInputs stamp = core.staleInputs stamp := by
    unfold Core.staleInputs
    rw [hinputs]
    exact hquiet _ fun _ hevent => (isSourceMapped_others hevent).1
  have hstaleMessages (stamp : SourceStamp) :
      core'.staleMessages stamp = core.staleMessages stamp := by
    unfold Core.staleMessages
    rw [hmessages, hquiet _ fun _ hevent => (isSourceMapped_others hevent).2.1]
    exact hfresh _ stamp
  have hbegun (stamp : SourceStamp) : core'.begun stamp = core.begun stamp := by
    unfold Core.begun
    rw [hmessages, hquiet _ fun _ hevent => (isSourceMapped_others hevent).2.2]
    exact hfresh _ stamp
  have hpendingMessages (stamp : SourceStamp) : core'.pendingMessages stamp =
      core.pendingMessages stamp ++ if source.stamp = stamp then records.map (·.id) else [] := by
    rw [pendingMessages_cons hpopped]
    unfold Core.pendingMessages
    rw [hsourced, List.filterMap_append]
    have hnone : work.mapped? stamp = none := by
      unfold ScheduledWork.mapped?
      rw [hkind]
    rw [hnone, Option.toList_none, List.nil_append]
    congr 1
    by_cases hstamp : source.stamp = stamp
    · rw [if_pos hstamp, ← hstamp]
      exact hmapped.messages
    · rw [if_neg hstamp]
      exact hmapped.others stamp (Ne.symm hstamp)
  have hpendingInputs (stamp : SourceStamp) :
      core'.pendingInputs stamp = (core.popped work).pendingInputs stamp := by
    have hnone : works.filterMap (·.input? stamp) = [] := by
      refine List.filterMap_eq_nil_iff.mpr fun other hother => ?_
      obtain ⟨message, hmessage, _⟩ := hmapped.events other hother
      unfold ScheduledWork.input?
      rw [hmessage]
    unfold Core.pendingInputs
    rw [hsourced, List.filterMap_append, hnone, List.append_nil]
  refine h.carried haction hacceptances ?_ ?_ ?_ fun stamp => ?_
  · rw [hsourced]
    intro other hother
    rcases List.mem_append.mp hother with hold | hnew
    · rw [hpopped]
      exact Or.inl (List.mem_cons_of_mem _ hold)
    · obtain ⟨message, hmessage, _⟩ := hmapped.events other hnew
      exact Or.inr ⟨message, hmessage⟩
  · rw [hscheduled]
    intro other hother
    rcases List.mem_append.mp hother with hold | hnew
    · exact Or.inl (List.eraseP_subset hold)
    · obtain ⟨message, hmessage, hstamp, _⟩ := hmapped.events other hnew
      refine Or.inr fun found hfound hplain => ?_
      rw [hmessage] at hfound
      cases hfound
      rw [hstamp] at hplain
      cases hplain
  · refine h.queued.advance ?_ hsourced (haction.now_eq ▸ le_refl _) haction.nextTicket_le ?_
      hmapped.ordered
    · rw [hpopped]
      exact List.sublist_cons_self _ _
    · intro other hother
      obtain ⟨_, _, _, hdeadline, hlow, hhigh⟩ := hmapped.events other hother
      rw [hdeadline, hticket, haction.now_eq]
      exact ⟨le_refl _, hlow, hhigh⟩
  · have hlane := h.lanes stamp
    have hwithdrawn : core'.staleMessages stamp ≠ [] → ¬ core'.Installed stamp := by
      rw [hstaleMessages]
      exact fun hne hinstalls => hlane.withdrawn hne
        (installed_before haction (h.known_of_staleMessages hne) hinstalls)
    have hended : core'.staleInputs stamp ≠ [] → ¬ core'.Serving stamp := by
      rw [hstaleInputs]
      exact fun hne hserves => hlane.ended hne
        (serving_before haction (h.known_of_staleInputs hne) hserves)
    refine ⟨?_, ?_, ?_, hended, hwithdrawn⟩
    · rw [hinputs, hemissions, hstaleInputs, hpendingInputs, hlane.events,
        pendingInputs_cons hpopped]
      by_cases hstamp : source.stamp = stamp
      · -- None was dropped while the realization served.
        have hnone : core.staleInputs stamp = [] := by_contra fun hne => by
          rw [← hstamp, horigin] at hne
          exact (h.lanes event.stamp).ended hne hserving
        have hfirst : work.input? stamp = some event.cause := by
          unfold ScheduledWork.input?
          rw [hkind]
          exact if_pos (horigin.symm.trans hstamp)
        rw [if_pos hstamp, hnone, hfirst]
        simp [emission]
      · have hfirst : work.input? stamp = none := by
          unfold ScheduledWork.input?
          rw [hkind]
          exact if_neg fun heq => hstamp (horigin.trans heq)
        rw [if_neg hstamp, hfirst]
        simp
    · rw [hrecords, hemissions, List.map_append, List.flatMap_append, hlane.children]
      congr 1
      by_cases hstamp : source.stamp = stamp
      · rw [if_pos hstamp, if_pos hstamp, hmapped.causes]
        simp [emission]
      · rw [if_neg hstamp, if_neg hstamp]
        rfl
    · rw [hmessages, hbegun, hstaleMessages, hpendingMessages, hlane.messages, List.append_assoc]

end Bench

/-! ## Withdrawal -/

section Withdrawal

variable {core core' : Core} {phase : Phase} {stamp : SourceStamp}

theorem Action.acceptances (h : Action core phase core') : core'.acceptances = core.acceptances ∨
    ∃ stamp, core'.acceptances = core.acceptances ++ [(stamp, core.nextTrace)] := by
  cases h with
  | sourceInput source event => exact Or.inr ⟨source.stamp, List.filterMap_append⟩
  | sourceEventMapped =>
      left
      simp [Core.acceptances, Observation.acceptance?, Core.withPlan, Core.withRunning]
  | _ =>
      left
      simp [Core.acceptances, Observation.acceptance?]

/-- Only the delivery of a Message begins a transition. -/
theorem Action.begins (h : Action core phase core') (hphase : phase.transitions ≠ 0) :
    ∃ work message kernel, core.nextDue = some work ∧ work.kind = .message message ∧
      (∀ origin, message.source = some origin → core.sourceStampIsCurrent origin = true) ∧
      core' = (((core.popped work).fired message).withComponent message.target
        message.targetMessageType kernel).traced (some (core.deliveryCause message))
          (.transition message.target message.messageTypeName) := by
  cases h with
  | messageDelivered work message kernel kernel' command hdue hkind hcurrent =>
      exact ⟨work, message, kernel', hdue, hkind, hcurrent, rfl⟩
  | _ => exact absurd rfl hphase

/-- Old records keep their place among the Messages of a realization. -/
theorem mem_messages_before (hrooting : Rooting core) (hrooting' : Rooting core')
    (haction : Action core phase core') {message : TraceId} (hlt : message < core.trace.length) :
    message ∈ core'.messages stamp ↔ message ∈ core.messages stamp := by
  obtain ⟨added, htrace⟩ := haction.trace_grows
  have hinput {input : TraceId} (hinput : input < core.trace.length) :
      input ∈ core'.inputs stamp ↔ input ∈ core.inputs stamp := by
    rw [mem_inputs, mem_inputs]
    rcases haction.acceptances with heq | ⟨other, heq⟩
    · rw [heq]
    · rw [heq, List.mem_append, or_iff_left]
      intro hlast
      cases List.mem_singleton.mp hlast
      exact Nat.lt_irrefl _ hinput
  constructor
  · intro hmem
    obtain ⟨record, hrecord, hid⟩ := List.mem_map.mp hmem
    obtain ⟨hmem', hmapped, input, hin, hcause⟩ := mem_mappedRecords.mp hrecord
    obtain ⟨index, hindex⟩ := List.mem_iff_getElem?.mp hmem'
    have hposition := hrooting'.grammar.position index record hindex
    rw [← hposition, hid, ← htrace, List.getElem?_append_left hlt] at hindex
    have hold := List.mem_of_getElem? hindex
    refine List.mem_map.mpr ⟨record, mem_mappedRecords.mpr ⟨hold, hmapped, input, ?_, hcause⟩, hid⟩
    exact (hinput (cause_lt hrooting hold hcause)).mp hin
  · intro hmem
    obtain ⟨record, hrecord, hid⟩ := List.mem_map.mp hmem
    obtain ⟨hold, hmapped, input, hin, hcause⟩ := mem_mappedRecords.mp hrecord
    refine List.mem_map.mpr ⟨record, mem_mappedRecords.mpr ⟨?_, hmapped, input, ?_, hcause⟩, hid⟩
    · rw [← htrace]
      exact List.mem_append_left _ hold
    · exact (hinput (cause_lt hrooting hold hcause)).mpr hin

theorem begun_same (hrooting : Rooting core) (hrooting' : Rooting core')
    (haction : Action core phase core') {records : List TraceRecord}
    (htrace : core'.trace = core.trace ++ records)
    (hrecords : ∀ record ∈ records,
      record.ends? TraceEvent.isTransition (core'.messages stamp) = none) :
    core'.begun stamp = core.begun stamp := by
  have hold : core.ended TraceEvent.isTransition (core'.messages stamp) =
      core.ended TraceEvent.isTransition (core.messages stamp) := by
    unfold Core.ended
    refine List.filterMap_congr fun record hrecord => ?_
    unfold TraceRecord.ends?
    cases hcause : record.cause with
    | none => rfl
    | some cause =>
        have hmem := @mem_messages_before _ core core' phase stamp hrooting hrooting' haction cause
          (cause_lt hrooting hrecord hcause)
        simp only [Option.filter, hmem]
  unfold Core.begun
  rw [ended_append htrace, List.filterMap_eq_nil_iff.mpr hrecords, List.append_nil]
  exact hold

/-- No Message of a realization that is not in place begins a transition. -/
theorem Bench.begun_withdrawn (h : Bench core) (hrooting : Rooting core)
    (hrooting' : Rooting core') (hkeyed : core.keys.Nodup) (haction : Action core phase core')
    (hgone : ¬ core.Installed stamp) : core'.begun stamp = core.begun stamp := by
  by_cases hphase : phase.transitions = 0
  · obtain ⟨records, htrace⟩ := haction.trace_grows
    have hcount := haction.transitions
    unfold Core.count at hcount
    rw [← htrace, List.countP_append, hphase, Nat.add_zero, Nat.add_eq_left,
      List.countP_eq_zero] at hcount
    refine begun_same hrooting hrooting' haction htrace.symm fun record hrecord => ?_
    exact TraceRecord.ends?_of_not (Bool.eq_false_iff.mpr (hcount record hrecord))
  · obtain ⟨work, message, kernel, hdue, hkind, hcurrent, heq⟩ := haction.begins hphase
    have hqueued := (nextDue_eq_some hdue).1
    obtain ⟨records, hfired, hevents⟩ := (core.popped work).fired_eq message
    have htrace : core'.trace = core.trace ++ (records ++
        [⟨((core.popped work).fired message).trace.length, ((core.popped work).fired message).now,
          some (core.deliveryCause message),
            .transition message.target message.messageTypeName⟩]) := by
      have hbetween : ((core.popped work).fired message).trace = core.trace ++ records :=
        congrArg Core.trace hfired
      rw [← List.append_assoc, ← hbetween, heq]
      rfl
    refine begun_same hrooting hrooting' haction htrace fun record hrecord => ?_
    rcases List.mem_append.mp hrecord with hrecord | hlast
    · refine TraceRecord.ends?_of_not ?_
      rw [hevents record hrecord]
      rfl
    · rw [List.mem_singleton.mp hlast]
      refine TraceRecord.ends?_of_notMem fun cause hcause hmem => ?_
      cases hcause
      by_cases hlt : core.deliveryCause message < core.trace.length
      · have hbefore := (mem_messages_before hrooting hrooting' haction hlt).mp hmem
        cases hsource : message.source with
        | none => exact h.deliveryCause_notMem hrooting hqueued hkind hsource hbefore
        | some origin =>
            have hdelivery := hrooting.typed.stamped work hqueued message hkind origin hsource
            have hcause : core.deliveryCause message = message.cause := by
              unfold Core.deliveryCause
              rw [hdelivery]
            have hsourced : work ∈ core.sourced := by
              refine List.mem_filter.mpr ⟨hqueued, ?_⟩
              rw [Bench.isSourced_message hkind, hsource]
              rfl
            have hmessage := h.message_of_queued hsourced hkind hsource
            rw [hcause] at hbefore
            rw [h.message_stamp hrooting hbefore hmessage] at hgone
            exact hgone ((isCurrent_iff hkeyed).mp (hcurrent origin hsource))
      · -- The record of the timer itself.
        obtain ⟨found, hfound, hid⟩ := List.mem_map.mp hmem
        obtain ⟨hfound', hmapped, _⟩ := mem_mappedRecords.mp hfound
        rw [htrace] at hfound'
        rcases List.mem_append.mp hfound' with hold | hnew
        · exact hlt (hid ▸ id_lt hrooting hold)
        · rcases List.mem_append.mp hnew with hrecord | hlast
          · rw [hevents found hrecord] at hmapped
            cases hmapped
          · rw [List.mem_singleton.mp hlast] at hmapped
            cases hmapped

end Withdrawal

/-! ## Runs -/

/-- What one step does to Source work. -/
inductive Fate (core core' : Core) : Prop where
  | passage (h : Passage core core')
  | aside (h : Aside core core')
  | accepted (source : ActiveSource) (event : ErasedSourceEvent) (hsource : source ∈ core.sources)
      (hrunning : source.running = true) (heq : core' = core.accepting source event)
  | eventDropped (work : ScheduledWork) (event : QueuedSourceEvent)
      (hdue : core.nextDue = some work) (hkind : work.kind = .sourceEvent event)
      (hended : ¬ core.Serving event.stamp)
      (heq : core' = (core.popped work).traced (some event.cause)
        (.staleSourceWorkDropped event.stamp.component event.stamp.subscription false))
  /-- The plan and the mapper are those of the row at this moment. -/
  | eventMapped (work : ScheduledWork) (event : QueuedSourceEvent) (source : ActiveSource)
      (plan : SourcePlan) (outer : List ErasedSourceEvent)
      (mapped : List (SourceEventKind × ErasedValue)) (hdue : core.nextDue = some work)
      (hkind : work.kind = .sourceEvent event) (hsource : source ∈ core.sources)
      (hstamp : source.stamp = event.stamp) (hrunning : source.running = true)
      (hplan : (SourcePlan.mapEvent event.event).run source.plan = .ok outer plan)
      (hmapped : mapOuterEvents source.subscription outer = .ok mapped)
      (heq : core' = core.mapping work event source plan outer mapped)
  | messageDropped (work : ScheduledWork) (message : QueuedMessage) (stamp : SourceStamp)
      (hdue : core.nextDue = some work) (hkind : work.kind = .message message)
      (hsource : message.source = some stamp) (hwithdrawn : ¬ core.Installed stamp)
      (heq : core' = (core.popped work).traced (some message.cause)
        (.staleSourceWorkDropped stamp.component stamp.subscription true))
  | delivered (work : ScheduledWork) (message : QueuedMessage) (kernel : ErasedComponentKernel)
      (hdue : core.nextDue = some work) (hkind : work.kind = .message message)
      (hinstalled : ∀ stamp, message.source = some stamp → core.Installed stamp)
      (heq : core' = (((core.popped work).fired message).withComponent message.target
        message.targetMessageType kernel).traced (some (core.deliveryCause message))
          (.transition message.target message.messageTypeName))

/-- A step of a runtime that has not faulted. -/
structure Fated (core core' : Core) : Prop where
  move : KeyedMove core core'
  fate : Fate core core'

/-- What the stages of a state rest on. -/
structure Grounds (builder : ProgramBuilder) (core : Core) : Prop where
  rooting : Rooting core
  founded : Founded builder core
  addressed : Addressed core
  bench : Bench core

namespace Grounds

variable {builder : ProgramBuilder} {core core' : Core} {phase : Phase}

theorem fresh {bindings : Bindings} (hassembled : builder.Assembled)
    (hbuild : builder.build = .ok builder.blueprint)
    (hvalid : bindings.validate builder.blueprint = .ok ()) :
    Grounds builder (Core.fresh builder.blueprint bindings) := by
  have hharmless := Harmless.fresh hassembled hbuild hvalid
  exact ⟨Rooting.fresh _ _, hharmless.founded, hharmless.addressed, Bench.fresh _ _⟩

theorem action (h : Grounds builder core) (hkeyed : core.keys.Nodup)
    (haction : Action core phase core') : Bench core' ∧ Fate core core' := by
  cases haction.carriage h.rooting.typed h.addressed with
  | aside haside => exact ⟨h.bench.aside haction haside, .aside haside⟩
  | accepted source event hsource hrunning heq =>
      subst heq
      exact ⟨h.bench.accepted h.rooting hkeyed hsource, .accepted source event hsource hrunning rfl⟩
  | eventStale work event hdue hkind hstale heq =>
      subst heq
      obtain ⟨hended, hbench⟩ :=
        @Bench.eventStale _ core phase work h.bench h.rooting hkeyed event hdue hkind hstale
      exact ⟨hbench haction, .eventDropped work event hdue hkind hended rfl⟩
  | eventMapped work event source plan outer mapped hdue hkind hsource haccepts hplan hmapped heq =>
      subst heq
      obtain ⟨hrow, hcomponent, hsubscription⟩ := source?_eq_some hsource
      have hstamp := stamp_eq hcomponent hsubscription haccepts.1
      exact ⟨h.bench.eventMapped h.rooting hdue hkind hsource haccepts haction,
        .eventMapped work event source plan outer mapped hdue hkind hrow hstamp haccepts.2.1 hplan
          hmapped rfl⟩
  | messageStale work message stamp hdue hkind hsource hstale heq =>
      subst heq
      have hwithdrawn : ¬ core.Installed stamp := by
        rw [← isCurrent_iff hkeyed, hstale]
        exact Bool.false_ne_true
      exact ⟨h.bench.messageStale h.rooting hkeyed hdue hkind hsource hstale haction,
        .messageDropped work message stamp hdue hkind hsource hwithdrawn rfl⟩
  | delivered work message kernel hdue hkind hcurrent heq =>
      subst heq
      refine ⟨h.bench.delivered h.rooting hkeyed hdue hkind hcurrent haction,
        .delivered work message kernel hdue hkind ?_ rfl⟩
      exact fun stamp hsource => (isCurrent_iff hkeyed).mp (hcurrent stamp hsource)

theorem move (h : Grounds builder core) (hmove : KeyedMove core core') :
    Grounds builder core' ∧ Fated core core' := by
  obtain ⟨hmoves, hkeyed⟩ := hmove
  have hrooting := h.rooting.move hmoves
  rcases id hmoves with ⟨hok, ⟨phase, haction⟩ | ⟨time, hforward, hdue, hlimit⟩⟩
  · obtain ⟨hbench, hfate⟩ := h.action hkeyed haction
    exact ⟨⟨hrooting, h.founded.action haction, h.addressed.action h.founded haction, hbench⟩,
      ⟨hmoves, hkeyed⟩, hfate⟩
  · obtain ⟨hnumbered, hwired, hcomplete, hshape⟩ := h.founded
    obtain ⟨hmessages, heffects, hrequests, hsources, hprojections⟩ := h.addressed
    obtain ⟨hrecent, hknown, hdistinct, hterminals, hplain, hqueued, hlanes⟩ := h.bench
    refine ⟨⟨hrooting, ⟨hnumbered, hwired, hcomplete, hshape⟩,
      ⟨hmessages, heffects, hrequests, hsources, hprojections⟩,
      hrecent, hknown, hdistinct, hterminals, hplain, ?_, fun stamp => ?_⟩,
      ⟨hmoves, hkeyed⟩, .passage (.mk time hforward hdue hlimit)⟩
    · exact ⟨fun work hwork => le_trans (hqueued.due work hwork) hforward, hqueued.ordered,
        hqueued.below⟩
    · obtain ⟨hevents, hchildren, hmessages, hended, hwithdrawn⟩ := hlanes stamp
      exact ⟨hevents, hchildren, hmessages, hended, hwithdrawn⟩

/-- Every step of a run is one of those that `Fate` lists. -/
theorem path (h : Grounds builder core) (hpath : ReflTransGen KeyedMove core core') :
    Grounds builder core' ∧ ReflTransGen Fated core core' := by
  induction hpath with
  | refl => exact ⟨h, .refl⟩
  | tail _ hmove ih =>
      obtain ⟨hgrounds, hfated⟩ := ih
      obtain ⟨hgrounds', hstep⟩ := hgrounds.move hmove
      exact ⟨hgrounds', hfated.tail hstep⟩

theorem withdrawn_step (h : Grounds builder core) (hmove : KeyedMove core core')
    {stamp : SourceStamp} (hstamp : stamp.generation < core.nextGeneration)
    (hgone : ¬ core.Installed stamp) : stamp.generation < core'.nextGeneration ∧
      ¬ core'.Installed stamp ∧ core'.begun stamp = core.begun stamp := by
  have hrooting := h.rooting.move hmove.1
  rcases hmove.1.2 with ⟨phase, haction⟩ | ⟨time, _, _, _⟩
  · refine ⟨lt_of_lt_of_le hstamp haction.nextGeneration_le, ?_, ?_⟩
    · exact fun hinstalls => hgone (installed_before haction hstamp hinstalls)
    · exact h.bench.begun_withdrawn h.rooting hrooting hmove.2 haction hgone
  · exact ⟨hstamp, hgone, rfl⟩

/-- A realization that was withdrawn stays withdrawn, and begins nothing more. -/
theorem withdrawn (h : Grounds builder core) (hpath : ReflTransGen KeyedMove core core')
    {stamp : SourceStamp} (hstamp : stamp.generation < core.nextGeneration)
    (hgone : ¬ core.Installed stamp) :
    ¬ core'.Installed stamp ∧ core'.begun stamp = core.begun stamp := by
  have hkept : stamp.generation < core'.nextGeneration ∧ ¬ core'.Installed stamp ∧
      core'.begun stamp = core.begun stamp := by
    induction hpath with
    | refl => exact ⟨hstamp, hgone, rfl⟩
    | tail hpath hmove ih =>
        obtain ⟨hstamp', hgone', hbegun⟩ := ih
        obtain ⟨hnext, hgone'', hsame⟩ := ((h.path hpath).1).withdrawn_step hmove hstamp' hgone'
        exact ⟨hnext, hgone'', hsame.trans hbegun⟩
  exact hkept.2

end Grounds

/-- What has become of everything that was accepted so far. -/
structure Cutover (core : Core) : Prop where
  lanes : ∀ stamp, Lane core stamp
  inputs : ∀ stamp, (core.inputs stamp).Nodup
  messages : ∀ stamp, (core.messages stamp).Nodup
  begun : ∀ stamp, core.begun stamp <+: core.messages stamp

theorem Grounds.cutover {builder : ProgramBuilder} {core : Core} (h : Grounds builder core) :
    Cutover core := by
  refine ⟨h.bench.lanes, fun stamp => ?_, fun stamp => ?_, fun stamp => ?_⟩
  · exact h.bench.distinct.sublist inputs_sublist
  · exact (ids_nodup h.rooting).sublist (List.filter_sublist.map _)
  · rw [(h.bench.lanes stamp).messages, List.append_assoc]
    exact List.prefix_append _ _

/-- In every run, each input that a Source realization accepted is mapped once,
    by the plan and the mapper of that realization while it serves, or dropped
    once, in the order of acceptance; each Message mapped from one begins one
    transition while the realization is in place, or is dropped once; and a
    realization that was withdrawn begins no transition any more, in the same
    operation or in any later one. -/
theorem generation_cutover {start core : Core} (hstart : Launched start)
    (h : Reachable start core) :
    Cutover core ∧
      (∃ (program : Program) (bindings : Bindings),
        ReflTransGen Fated (Core.fresh program bindings) core ∧
          ∀ middle, ReflTransGen Fated (Core.fresh program bindings) middle →
            ReflTransGen Fated middle core → ∀ stamp, stamp.generation < middle.nextGeneration →
              ¬ middle.Installed stamp →
                ¬ core.Installed stamp ∧ core.begun stamp = middle.begun stamp) ∧
      ∀ later, Reachable core later → ∀ stamp, stamp.generation < core.nextGeneration →
        ¬ core.Installed stamp → ¬ later.Installed stamp ∧ later.begun stamp = core.begun stamp := by
  obtain ⟨builder, bindings, hassembled, hbuild, hvalid, hlaunched⟩ := hstart.inOrder
  have hfresh := Grounds.fresh hassembled hbuild hvalid
  have hinOrder := h.inOrder hlaunched
  obtain ⟨hgrounds, hfated⟩ := hfresh.path hinOrder.1
  have hmoves {first last : Core} (hpath : ReflTransGen Fated first last) :
      ReflTransGen KeyedMove first last :=
    hpath.lift id fun _ _ hstep => hstep.move
  refine ⟨hgrounds.cutover, ⟨builder.blueprint, bindings, hfated, ?_⟩, ?_⟩
  · intro middle hbefore hafter stamp hstamp hgone
    exact (hfresh.path (hmoves hbefore)).1.withdrawn (hmoves hafter) hstamp hgone
  · intro later hlater stamp hstamp hgone
    have hpath := hlater.inOrder (⟨.refl, hinOrder.2⟩ : InOrder core core)
    exact hgrounds.withdrawn hpath.1 hstamp hgone

end Controlled

end Samara

namespace Samara.Controlled

attribute [local instance] Sample.types

/-- A Component that listens to a stream until it has heard one item. -/
def tuner : Component () where
  init := ((0 : Nat), .none)
  update := fun (model : Nat) _ => (model + 1, .ok .none)
  subscriptions := fun (model : Nat) => .ok (if model = 0 then
    [⟨⟨"lines"⟩, ⟨0, ⟨7⟩⟩, .stream (), trivial, "lines", fun _ => .ok (.plain 8)⟩] else [])

def tunerBuilder : ProgramBuilder :=
  ((ProgramBuilder.new ⟨7⟩).source (.stream ())).component ⟨"tuner"⟩ tuner

def tunerCore : Core := (assemble tunerBuilder ⟨[], [.stream ()], []⟩).get rfl

/-- An item for the stream that the tuner listens to. -/
def tunerEmits (number : Nat) : Operation := .emitStream () ⟨0, ⟨7⟩⟩ (.plain number)

def tunerSent : Core := Exec.final ((perform (tunerEmits 1)).run tunerCore)

def tunerSentTwice : Core := Exec.final ((perform (tunerEmits 2)).run tunerSent)

/-- The tuner when it has been sent two items, and heard one. -/
def tunerHeard : Core := Exec.final ((perform (.runUntilIdle 20)).run tunerSentTwice)

theorem generation_cutover_tuner :
    Cutover tunerHeard ∧ (tunerHeard.inputs ⟨⟨"tuner"⟩, ⟨"lines"⟩, 0⟩).length = 2 ∧
      (tunerHeard.begun ⟨⟨"tuner"⟩, ⟨"lines"⟩, 0⟩).length = 1 ∧
        (tunerHeard.staleMessages ⟨⟨"tuner"⟩, ⟨"lines"⟩, 0⟩).length = 1 := by
  have hassembled : tunerBuilder.Assembled := .component _ tuner (.source _ (.new ⟨7⟩))
  have hsent : Reachable tunerCore tunerSent := .operation (tunerEmits 1) .refl (by decide +kernel)
  have hsentTwice : Reachable tunerCore tunerSentTwice :=
    .operation (tunerEmits 2) hsent (by decide +kernel)
  have hreachable : Reachable tunerCore tunerHeard :=
    .operation (.runUntilIdle 20) hsentTwice (by decide +kernel)
  exact ⟨(generation_cutover (launched_of_assemble hassembled (Option.some_get _).symm)
    hreachable).1, by decide +kernel, by decide +kernel, by decide +kernel⟩

end Samara.Controlled
