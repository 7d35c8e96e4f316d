/-
  Samara.Controlled.Accounts

  The columns of the obligation ledger of the controlled runtime, and how each
  step balances them: an obligation leaves one column only to enter another.
-/
import Samara.Controlled.Obligations

namespace Samara

open Relation (ReflTransGen)

variable [RustTypes]

namespace Controlled

/-! ## Columns -/

/-- The effects whose outcome the trace records, in order. -/
def Core.settled (core : Core) : List TraceId := core.trace.filterMap (·.event.settles?)

/-- The effects whose declaration the trace records, in order. -/
def Core.effectWorks (core : Core) : List TraceId :=
  core.trace.filterMap fun record => if record.event.emits .effect then some record.id else none

/-- The effect `work` was declared with a mapper. -/
def Core.keepsMapper (core : Core) (work : TraceId) : Bool :=
  core.declarations.any fun declared => declared.work = work && declared.declaration.keepsMapper

/-- The number of recorded outcomes of effects that keep a mapper. -/
def Core.mappedOutcomes (core : Core) : Nat := core.settled.countP core.keepsMapper

/-- A scheduled Message of this delivery kind. -/
def ScheduledWork.delivers (delivery : DeliveryKind) (work : ScheduledWork) : Bool :=
  match work.kind with
  | .message message => message.delivery = delivery
  | .sourceEvent _ => false

/-- The number of scheduled Messages of a delivery kind. -/
def Core.queued (core : Core) (delivery : DeliveryKind) : Nat :=
  core.scheduled.countP (·.delivers delivery)

/-! ## Effects -/

section Effects

variable {core : Core}

@[simp] theorem settled_traced (cause : Option TraceId) (event : TraceEvent) :
    (core.traced cause event).settled = core.settled ++ event.settles?.toList := by
  unfold Core.settled
  rw [Core.traced_trace, List.filterMap_append]
  cases h : event.settles? <;> simp [h]

@[simp] theorem settled_foldl_withMappedEvent (source : ActiveSource) (cause : TraceId)
    (mapped : List (SourceEventKind × ErasedValue)) (core : Core) :
    (mapped.foldl (Core.withMappedEvent · source cause) core).settled = core.settled := by
  induction mapped generalizing core with
  | nil => rfl
  | cons event mapped ih =>
      have hhead : (core.withMappedEvent source cause event).settled = core.settled := by
        show (core.traced _ _).settled = core.settled
        simp [TraceEvent.settles?]
      rw [List.foldl_cons, ih, hhead]

@[simp] theorem effectWorks_traced (cause : Option TraceId) (event : TraceEvent) :
    (core.traced cause event).effectWorks =
      core.effectWorks ++ if event.emits .effect then [core.nextTrace] else [] := by
  unfold Core.effectWorks
  rw [Core.traced_trace, List.filterMap_append]
  cases h : event.emits .effect <;> simp [h, Core.nextTrace]

@[simp] theorem effectWorks_foldl_withMappedEvent (source : ActiveSource) (cause : TraceId)
    (mapped : List (SourceEventKind × ErasedValue)) (core : Core) :
    (mapped.foldl (Core.withMappedEvent · source cause) core).effectWorks =
      core.effectWorks := by
  induction mapped generalizing core with
  | nil => rfl
  | cons event mapped ih =>
      have hhead : (core.withMappedEvent source cause event).effectWorks = core.effectWorks := by
        show (core.traced _ _).effectWorks = core.effectWorks
        simp [TraceEvent.emits]
      rw [List.foldl_cons, ih, hhead]

/-- The record that a timer fired settles and declares nothing. -/
theorem settled_fired (message : QueuedMessage) : (core.fired message).settled = core.settled := by
  unfold Core.fired
  cases message.delivery with
  | message => rfl
  | timer => exact (settled_traced _ _).trans (List.append_nil _)

theorem effectWorks_fired (message : QueuedMessage) :
    (core.fired message).effectWorks = core.effectWorks := by
  unfold Core.fired
  cases message.delivery with
  | message => rfl
  | timer => exact (effectWorks_traced _ _).trans (List.append_nil _)

/-- What a step does to the columns of the effects. -/
inductive EffectEntry (core core' : Core) : Prop where
  | none (hsettled : core'.settled = core.settled)
      (hworks : core'.effectWorks = core.effectWorks)
      (heffects : core'.effects.map (·.requestTrace) = core.effects.map (·.requestTrace))
  | declared (hsettled : core'.settled = core.settled)
      (hworks : core'.effectWorks = core.effectWorks ++ [core.nextTrace])
      (heffects : core'.effects.map (·.requestTrace) =
        core.effects.map (·.requestTrace) ++ [core.nextTrace])
  | settled (entry : PendingEffectEntry) (hentry : entry ∈ core.effects)
      (hsettled : core'.settled = core.settled ++ [entry.requestTrace])
      (hworks : core'.effectWorks = core.effectWorks)
      (heffects : core.effects.Perm (entry :: core'.effects))

/-- A step that appends one record and leaves the effects alone. -/
theorem effectEntry_traced {core' : Core} {cause : Option TraceId} {event : TraceEvent}
    (htrace : core'.trace = (core.traced cause event).trace) (hsettles : event.settles? = none)
    (hemits : event.emits .effect = false) (heffects : core'.effects = core.effects) :
    EffectEntry core core' := by
  have hsettled : core'.settled = (core.traced cause event).settled := by
    unfold Core.settled
    rw [htrace]
  have hworks : core'.effectWorks = (core.traced cause event).effectWorks := by
    unfold Core.effectWorks
    rw [htrace]
  refine .none ?_ ?_ (by rw [heffects])
  · rw [hsettled, settled_traced, hsettles]
    exact List.append_nil _
  · rw [hworks, effectWorks_traced, hemits]
    exact List.append_nil _

theorem Action.effectEntry {phase : Phase} {core' : Core} (h : Action core phase core')
    (hok : core'.fault = none) : EffectEntry core core' := by
  cases h with
  | effectDeclared component cause command _ _ _ =>
      refine .declared ?_ ?_ ?_
      · simp [Core.settled, emission, TraceEvent.settles?]
      · simp [Core.effectWorks, emission, TraceEvent.emits]
      · simp [pendingEntry]
  | effectClaimed effectType entry _ =>
      have hcolumn := @Table.map_modifyFirst _ _ (PendingEffectEntry.isClaimable effectType)
        ({ · with descriptor := none }) (·.requestTrace) (fun _ _ => rfl) core.effects
      exact .none rfl rfl hcolumn
  | effectDiscarded id entry outcome hentry _ =>
      refine .settled entry (List.mem_of_find?_eq_some hentry) ?_ ?_ ?_
      · simp [Core.settled, TraceEvent.settles?]
      · simp [Core.effectWorks, TraceEvent.emits]
      · exact Table.perm_cons_eraseP hentry
  | effectMapped id entry outcome mapper message hentry _ _ =>
      refine .settled entry (List.mem_of_find?_eq_some hentry) ?_ ?_ ?_
      · simp [Core.settled, TraceEvent.settles?]
      · simp [Core.effectWorks, TraceEvent.emits]
      · exact Table.perm_cons_eraseP hentry
  | declarationFaulted => simp at hok
  | sourceEventMapped work event source plan outer mapped _ _ _ _ _ _ =>
      refine .none ?_ ?_ (by simp [Core.withPlan, Core.withRunning])
      · rw [settled_foldl_withMappedEvent]
        rfl
      · rw [effectWorks_foldl_withMappedEvent]
        rfl
  | messageDelivered work message _ _ _ _ _ _ _ _ =>
      refine .none ?_ ?_ (congrArg (List.map _) (Core.fired_effects _ message))
      · exact (settled_traced _ _).trans ((List.append_nil _).trans (settled_fired message))
      · exact (effectWorks_traced _ _).trans ((List.append_nil _).trans (effectWorks_fired message))
  | deliveryFaulted => simp at hok
  | deliveryMismatched work message _ _ _ _ _ _ =>
      exact .none (settled_fired message) (effectWorks_fired message)
        (congrArg (List.map _) (Core.fired_effects _ message))
  | replyDeclared component cause command request mapped _ _ _ _ =>
      refine .none ?_ ?_ (by simp)
      · simp [Core.settled, emission, TraceEvent.settles?]
      · simp [Core.effectWorks, emission, TraceEvent.emits]
  | projected => exact .none rfl rfl rfl
  | duplicated => exact .none rfl rfl rfl
  | commandTaken => exact .none rfl rfl rfl
  | duplicateFaulted => simp at hok
  | startFaulted => simp at hok
  | replaceFaulted => simp at hok
  | replyMistyped => simp at hok
  | _ => exact effectEntry_traced rfl rfl rfl rfl

/-- Each declared effect is settled or pending, once. -/
def EffectsBalanced (core : Core) : Prop :=
  (core.settled ++ core.effects.map (·.requestTrace)).Perm core.effectWorks

theorem EffectsBalanced.action {phase : Phase} {core' : Core} (h : EffectsBalanced core)
    (haction : Action core phase core') (hok : core'.fault = none) : EffectsBalanced core' := by
  unfold EffectsBalanced at h ⊢
  cases haction.effectEntry hok with
  | none hsettled hworks heffects =>
      rw [hsettled, hworks, heffects]
      exact h
  | declared hsettled hworks heffects =>
      rw [hsettled, hworks, heffects, ← List.append_assoc]
      exact h.append_right _
  | settled entry _ hsettled hworks heffects =>
      have hmoved := heffects.map (·.requestTrace)
      rw [List.map_cons] at hmoved
      rw [hsettled, hworks, List.append_assoc]
      exact (hmoved.symm.append_left _).trans h

end Effects

/-! ## Mapped outcomes -/

section Outcomes

variable {phase : Phase} {core core' : Core}

/-- A step adds at most the declaration of the record it appends. -/
theorem Action.declarations (h : Action core phase core') :
    core'.declarations = core.declarations ∨
      ∃ declared, core'.declarations = core.declarations ++ [declared] ∧
        declared.work = core.nextTrace := by
  have hemitted {message : TypeId} (component : ComponentId) (declaration : Declaration message)
      (observations : List Observation)
      (hjournal : core'.journal = core.journal ++
        .declared core.nextTrace component core.now ⟨message, declaration⟩ :: observations)
      (hobservations : observations.filterMap Observation.declared? = []) :
      ∃ declared, core'.declarations = core.declarations ++ [declared] ∧
        declared.work = core.nextTrace := by
    refine ⟨⟨core.nextTrace, component, core.now, ⟨message, declaration⟩⟩, ?_, rfl⟩
    unfold Core.declarations
    rw [hjournal, List.filterMap_append]
    simp [Observation.declared?, hobservations]
  cases h with
  | @effectDeclared message component cause command _ _ _ =>
      exact Or.inr (hemitted component (.effect command) [] (by simp) rfl)
  | @sendDeclared message component cause command _ _ _ _ =>
      exact Or.inr (hemitted component (.send command : Declaration message) [] (by simp) rfl)
  | @notifyDeclared message component cause command _ _ _ _ _ _ _ _ =>
      exact Or.inr (hemitted component (.notify command : Declaration message) [] (by simp) rfl)
  | @requestDeclared message component cause command _ _ _ _ _ _ _ _ =>
      exact Or.inr (hemitted component (.request command)
        [.requested (core.issue component command)] (by simp) rfl)
  | @replyDeclared message component cause command request mapped _ _ _ _ =>
      exact Or.inr (hemitted component (.reply command : Declaration message)
        [.continued request ⟨command.replyType, command.reply⟩ mapped] (by simp) rfl)
  | @timerDeclared message component cause delay deadline value _ _ =>
      exact Or.inr (hemitted component (.after delay value) [] (by simp) rfl)
  | @declarationFaulted message component cause declaration _ _ _ _ =>
      exact Or.inr (hemitted component declaration [] (by simp) rfl)
  | @replyMistyped message component cause command _ _ _ _ =>
      exact Or.inr (hemitted component (.reply command : Declaration message) [] (by simp) rfl)
  | sourceEventMapped =>
      refine Or.inl ?_
      simp [Core.declarations, Core.withPlan, Core.withRunning, Observation.declared?]
  | _ =>
      refine Or.inl ?_
      simp [Core.declarations, Observation.declared?]

/-- Whether an effect keeps a mapper is settled by its declaration. -/
theorem Action.keepsMapper (h : Action core phase core') {work : TraceId}
    (hwork : work < core.nextTrace) : core'.keepsMapper work = core.keepsMapper work := by
  unfold Core.keepsMapper
  rcases h.declarations with heq | ⟨declared, heq, hnew⟩
  · rw [heq]
  · have hne : declared.work ≠ work := by
      rw [hnew]
      exact Nat.ne_of_gt hwork
    rw [heq, List.any_append]
    simp [hne]

theorem Recorded.effectWorks_lt (h : Recorded core) {work : TraceId}
    (hwork : work ∈ core.effectWorks) : work < core.nextTrace := by
  unfold Core.effectWorks at hwork
  obtain ⟨record, hrecord, hid⟩ := List.mem_filterMap.mp hwork
  have hmem : record.id ∈ core.trace.map (·.id) := List.mem_map_of_mem hrecord
  rw [h.position, List.mem_range] at hmem
  split at hid
  · rw [← Option.some.inj hid]
    exact hmem
  · cases hid

theorem Action.mappedOutcomes (h : Action core phase core') (hrecorded : Recorded core)
    (hbalanced : EffectsBalanced core) (hsettled : core'.settled = core.settled) :
    core'.mappedOutcomes = core.mappedOutcomes := by
  unfold Core.mappedOutcomes
  rw [hsettled]
  refine List.countP_congr ?_
  intro work hwork
  have hmem := hbalanced.mem_iff.mp (List.mem_append_left _ hwork)
  rw [h.keepsMapper (hrecorded.effectWorks_lt hmem)]

/-- The declaration of a pending effect says whether its outcome is mapped. -/
theorem Core.Declares.keepsMapper (hrecorded : Recorded core) {entry : PendingEffectEntry}
    (h : core.Declares entry) : core.keepsMapper entry.requestTrace = entry.mapper.isSome := by
  obtain ⟨message, command, time, hdeclared, hmapper, _⟩ := h
  have hcommand : command.mapper.isSome = command.map.isSome := by
    unfold EffectCommand.mapper
    cases command.map <;> rfl
  rw [hmapper, hcommand, Bool.eq_iff_iff]
  unfold Core.keepsMapper
  rw [List.any_eq_true]
  constructor
  · rintro ⟨declared, hmem, hkeeps⟩
    rw [Bool.and_eq_true, decide_eq_true_eq] at hkeeps
    have heq := hrecorded.eq_of_work hmem hdeclared hkeeps.1
    rw [heq] at hkeeps
    exact hkeeps.2
  · intro hkeeps
    exact ⟨_, hdeclared, by simpa [ErasedDeclaration.keepsMapper] using hkeeps⟩

/-- A step that settles an effect settles one that keeps its mapper or not. -/
theorem Action.mappedOutcomes_settled (h : Action core phase core') (hrecorded : Recorded core)
    (hbalanced : EffectsBalanced core) (howed : Owed core) {entry : PendingEffectEntry}
    (hentry : entry ∈ core.effects)
    (hsettled : core'.settled = core.settled ++ [entry.requestTrace]) :
    core'.mappedOutcomes = core.mappedOutcomes + entry.mapper.isSome.toNat := by
  have hlt {work : TraceId} (hmem : work ∈ core.settled ++ core.effects.map (·.requestTrace)) :
      work < core.nextTrace := hrecorded.effectWorks_lt (hbalanced.mem_iff.mp hmem)
  have hold : core.settled.countP core'.keepsMapper = core.settled.countP core.keepsMapper := by
    refine List.countP_congr ?_
    intro work hwork
    rw [h.keepsMapper (hlt (List.mem_append_left _ hwork))]
  have hnew : core'.keepsMapper entry.requestTrace = entry.mapper.isSome := by
    rw [h.keepsMapper (hlt (List.mem_append_right _ (List.mem_map_of_mem hentry))),
      (howed entry hentry).keepsMapper hrecorded]
  unfold Core.mappedOutcomes
  rw [hsettled, List.countP_append, List.countP_singleton, hold, hnew]
  cases entry.mapper <;> rfl

end Outcomes

/-! ## Requests, timers and Messages -/

section Balances

variable {phase : Phase} {core core' : Core}

/-- The work that an execution removes is the work it executes. -/
theorem popped_perm (hlaw : Scheduler.Law core.scheduler) {work : ScheduledWork}
    (hdue : core.nextDue = some work) :
    core.scheduled.Perm (work :: (core.popped work).scheduled) := by
  have hnodup : (core.scheduled.map ScheduledWork.key).Nodup := by
    have hkeys := hlaw.keys_nodup
    rw [Core.scheduler, List.map_map] at hkeys
    exact hkeys
  exact Table.perm_cons_eraseP (Table.find?_of_nodup hnodup (nextDue_eq_some hdue).1)

theorem queued_popped (hlaw : Scheduler.Law core.scheduler) {work : ScheduledWork}
    (hdue : core.nextDue = some work) (delivery : DeliveryKind) :
    core.queued delivery =
      (core.popped work).queued delivery + (work.delivers delivery).toNat := by
  unfold Core.queued
  rw [(popped_perm hlaw hdue).countP_eq, List.countP_cons]
  cases work.delivers delivery <;> rfl

theorem queued_foldl_withMappedEvent (source : ActiveSource) (cause : TraceId)
    (mapped : List (SourceEventKind × ErasedValue)) (core : Core) (delivery : DeliveryKind) :
    (mapped.foldl (Core.withMappedEvent · source cause) core).queued delivery =
      core.queued delivery + if delivery = .message then mapped.length else 0 := by
  obtain ⟨records, works, heq, _, hlength, _, hkinds⟩ :=
    Core.foldl_withMappedEvent source cause mapped core
  have hdelivers : ∀ work ∈ works, work.delivers delivery = decide (delivery = .message) := by
    intro work hwork
    obtain ⟨event, _, mappedCause, hkind⟩ := hkinds work hwork
    unfold ScheduledWork.delivers
    rw [hkind]
    cases delivery <;> rfl
  have hcount : works.countP (·.delivers delivery) =
      if delivery = .message then mapped.length else 0 := by
    rw [List.countP_congr (fun work hwork => by rw [hdelivers work hwork])]
    cases delivery
    · simpa using hlength
    · simp
  rw [heq]
  show (core.scheduled ++ works).countP _ = _
  rw [List.countP_append, hcount]
  rfl

/-- Each Request is answered or outstanding, and each Reply had its outcome. -/
structure RequestsBalanced (core : Core) : Prop where
  requests : core.count (TraceEvent.emits .request) =
    core.count (TraceEvent.emits .reply) + core.requests.length
  replies : core.count (TraceEvent.emits .reply) = core.count TraceEvent.isRequestOutcome

theorem RequestsBalanced.action (h : RequestsBalanced core) (haction : Action core phase core')
    (hok : core'.fault = none) : RequestsBalanced core' := by
  obtain ⟨hrequests, hreplies⟩ := h
  cases haction with
  | requestDeclared component cause command _ _ _ _ _ _ _ _ =>
      constructor
      · simp [emission, TraceEvent.emits, hrequests]
        omega
      · simpa [emission, TraceEvent.emits, TraceEvent.isRequestOutcome] using hreplies
  | replyDeclared component cause command request mapped _ hrequest _ _ =>
      have hlength := (Table.perm_cons_eraseP hrequest).length_eq
      rw [List.length_cons] at hlength
      constructor
      · simp [emission, TraceEvent.emits, hrequests]
        omega
      · simp [emission, TraceEvent.emits, TraceEvent.isRequestOutcome, hreplies]
  | declarationFaulted => simp at hok
  | replyMistyped => simp at hok
  | sourceEventMapped =>
      constructor
      · simpa [TraceEvent.emits, Core.withPlan, Core.withRunning] using hrequests
      · simpa [TraceEvent.emits, TraceEvent.isRequestOutcome] using hreplies
  | _ =>
      constructor
      · simpa [emission, lifecycle, TraceEvent.emits] using hrequests
      · simpa [emission, lifecycle, TraceEvent.emits, TraceEvent.isRequestOutcome] using hreplies

/-- Each timer has fired or is scheduled. -/
def TimersBalanced (core : Core) : Prop :=
  core.count (TraceEvent.emits .timer) = core.count TraceEvent.isTimerFired + core.queued .timer

theorem delivers_of_kind {work : ScheduledWork} {message : QueuedMessage}
    (hkind : work.kind = .message message) (delivery : DeliveryKind) :
    work.delivers delivery = decide (message.delivery = delivery) := by
  unfold ScheduledWork.delivers
  rw [hkind]

theorem delivers_sourceEvent {work : ScheduledWork} {event : QueuedSourceEvent}
    (hkind : work.kind = .sourceEvent event) (delivery : DeliveryKind) :
    work.delivers delivery = false := by
  unfold ScheduledWork.delivers
  rw [hkind]

theorem TimersBalanced.action (h : TimersBalanced core) (hlaw : Scheduler.Law core.scheduler)
    (htyped : Typed core) (haction : Action core phase core') (hok : core'.fault = none) :
    TimersBalanced core' := by
  have hpopped {work : ScheduledWork} (hdue : core.nextDue = some work)
      (hdelivers : work.delivers .timer = false) :
      core.queued .timer = (core.popped work).queued .timer := by
    have hqueued := queued_popped hlaw hdue .timer
    rw [hdelivers] at hqueued
    exact hqueued
  unfold TimersBalanced at h ⊢
  cases haction with
  | timerDeclared component cause delay deadline value _ _ =>
      simp [Core.queued, emission, TraceEvent.emits, TraceEvent.isTimerFired,
        ScheduledWork.delivers] at h ⊢
      omega
  | declarationFaulted => simp at hok
  | deliveryFaulted => simp at hok
  | sourceEventStale work event hdue hkind _ =>
      rw [hpopped hdue (delivers_sourceEvent hkind .timer)] at h
      simpa [Core.queued, TraceEvent.emits, TraceEvent.isTimerFired] using h
  | sourceEventMapped work event source plan outer mapped hdue hkind _ _ _ _ =>
      rw [hpopped hdue (delivers_sourceEvent hkind .timer)] at h
      rw [queued_foldl_withMappedEvent]
      simpa [Core.queued, Core.withPlan, Core.withRunning, TraceEvent.emits,
        TraceEvent.isTimerFired] using h
  | messageStale work message stamp hdue hkind hsource _ =>
      have hplain := htyped.stamped work (nextDue_eq_some hdue).1 message hkind stamp hsource
      rw [hpopped hdue (by rw [delivers_of_kind hkind, hplain]; rfl)] at h
      simpa [Core.queued, TraceEvent.emits, TraceEvent.isTimerFired] using h
  | messageDelivered work message kernel kernel' command hdue hkind _ _ _ =>
      have hqueued := queued_popped hlaw hdue .timer
      rw [delivers_of_kind hkind] at hqueued
      cases hdelivery : message.delivery <;>
        simp [hdelivery, Core.queued, TraceEvent.emits, TraceEvent.isTimerFired] at h hqueued ⊢ <;>
        omega
  | deliveryMismatched work message kernel hdue hkind _ hkernel hmismatch =>
      exact absurd hmismatch (htyped.accepted hdue hkind hkernel)
  | _ =>
      simpa [Core.queued, emission, lifecycle, TraceEvent.emits, TraceEvent.isTimerFired,
        ScheduledWork.delivers, plainMessage] using h

/-- Each Message that something caused was delivered, dropped as stale, or is
    still queued. -/
def MessagesBalanced (core : Core) : Prop :=
  core.count TraceEvent.causesMessage + core.mappedOutcomes =
    core.count TraceEvent.endsMessage + core.queued .message

theorem MessagesBalanced.action (h : MessagesBalanced core)
    (hlaw : Scheduler.Law core.scheduler) (htyped : Typed core) (hrecorded : Recorded core)
    (heffects : EffectsBalanced core) (howed : Owed core) (haction : Action core phase core')
    (hok : core'.fault = none) : MessagesBalanced core' := by
  have hpopped {work : ScheduledWork} (hdue : core.nextDue = some work)
      (hdelivers : work.delivers .message = false) :
      core.queued .message = (core.popped work).queued .message := by
    have hqueued := queued_popped hlaw hdue .message
    rw [hdelivers] at hqueued
    exact hqueued
  have houtcomes := haction.mappedOutcomes hrecorded heffects
  have houtcomes' := @Action.mappedOutcomes_settled _ _ _ _ haction hrecorded heffects howed
  unfold MessagesBalanced at h ⊢
  cases haction with
  | effectDiscarded id entry outcome hentry hmapper =>
      rw [houtcomes' (List.mem_of_find?_eq_some hentry)
        (by simp [Core.settled, TraceEvent.settles?]), hmapper]
      simpa [Core.queued, TraceEvent.causesMessage, TraceEvent.endsMessage,
        TraceEvent.isTransition, TraceEvent.isStaleMessage] using h
  | effectMapped id entry outcome mapper message hentry hmapper _ =>
      rw [houtcomes' (List.mem_of_find?_eq_some hentry)
        (by simp [Core.settled, TraceEvent.settles?]), hmapper]
      simp [Core.queued, TraceEvent.causesMessage, TraceEvent.endsMessage,
        TraceEvent.isTransition, TraceEvent.isStaleMessage, ScheduledWork.delivers,
        plainMessage] at h ⊢
      omega
  | declarationFaulted => simp at hok
  | replyMistyped => simp at hok
  | deliveryFaulted => simp at hok
  | sourceEventStale work event hdue hkind _ =>
      rw [hpopped hdue (delivers_sourceEvent hkind .message)] at h
      rw [houtcomes (by simp [Core.settled, TraceEvent.settles?])]
      simpa [Core.queued, TraceEvent.causesMessage, TraceEvent.endsMessage,
        TraceEvent.isTransition, TraceEvent.isStaleMessage] using h
  | sourceEventMapped work event source plan outer mapped hdue hkind _ _ _ _ =>
      rw [hpopped hdue (delivers_sourceEvent hkind .message)] at h
      rw [houtcomes (by rw [settled_foldl_withMappedEvent]; rfl), queued_foldl_withMappedEvent]
      simp [Core.queued, Core.withPlan, Core.withRunning, TraceEvent.causesMessage,
        TraceEvent.endsMessage, TraceEvent.isTransition, TraceEvent.isStaleMessage] at h ⊢
      omega
  | messageStale work message stamp hdue hkind hsource _ =>
      have hqueued := queued_popped hlaw hdue .message
      have hplain := htyped.stamped work (nextDue_eq_some hdue).1 message hkind stamp hsource
      rw [delivers_of_kind hkind, hplain] at hqueued
      rw [houtcomes (by simp [Core.settled, TraceEvent.settles?])]
      simp [Core.queued, TraceEvent.causesMessage, TraceEvent.endsMessage,
        TraceEvent.isTransition, TraceEvent.isStaleMessage] at h hqueued ⊢
      omega
  | messageDelivered work message kernel kernel' command hdue hkind _ _ _ =>
      have hqueued := queued_popped hlaw hdue .message
      rw [delivers_of_kind hkind] at hqueued
      cases hdelivery : message.delivery
      · rw [houtcomes (by simp [Core.settled, Core.fired, hdelivery, TraceEvent.settles?])]
        simp [hdelivery, Core.queued, TraceEvent.causesMessage, TraceEvent.endsMessage,
          TraceEvent.isTransition, TraceEvent.isStaleMessage] at h hqueued ⊢
        omega
      · rw [houtcomes (by simp [Core.settled, Core.fired, hdelivery, TraceEvent.settles?])]
        simp [hdelivery, Core.queued, TraceEvent.causesMessage, TraceEvent.endsMessage,
          TraceEvent.isTransition, TraceEvent.isStaleMessage] at h hqueued ⊢
        omega
  | deliveryMismatched work message kernel hdue hkind _ hkernel hmismatch =>
      exact absurd hmismatch (htyped.accepted hdue hkind hkernel)
  | sendDeclared =>
      rw [houtcomes (by simp [Core.settled, emission, TraceEvent.settles?])]
      simp [Core.queued, emission, TraceEvent.causesMessage, TraceEvent.endsMessage,
        TraceEvent.isTransition, TraceEvent.isStaleMessage, ScheduledWork.delivers,
        plainMessage] at h ⊢
      omega
  | notifyDeclared =>
      rw [houtcomes (by simp [Core.settled, emission, TraceEvent.settles?])]
      simp [Core.queued, emission, TraceEvent.causesMessage, TraceEvent.endsMessage,
        TraceEvent.isTransition, TraceEvent.isStaleMessage, ScheduledWork.delivers,
        plainMessage] at h ⊢
      omega
  | requestDeclared =>
      rw [houtcomes (by simp [Core.settled, emission, TraceEvent.settles?])]
      simp [Core.queued, emission, TraceEvent.causesMessage, TraceEvent.endsMessage,
        TraceEvent.isTransition, TraceEvent.isStaleMessage, ScheduledWork.delivers,
        plainMessage] at h ⊢
      omega
  | replyDeclared =>
      rw [houtcomes (by simp [Core.settled, emission, TraceEvent.settles?])]
      simp [Core.queued, emission, TraceEvent.causesMessage, TraceEvent.endsMessage,
        TraceEvent.isTransition, TraceEvent.isStaleMessage, ScheduledWork.delivers,
        plainMessage] at h ⊢
      omega
  | messageInput =>
      rw [houtcomes (by simp [Core.settled, TraceEvent.settles?])]
      simp [Core.queued, TraceEvent.causesMessage, TraceEvent.endsMessage,
        TraceEvent.isTransition, TraceEvent.isStaleMessage, ScheduledWork.delivers,
        plainMessage] at h ⊢
      omega
  | _ =>
      rw [houtcomes (by simp [Core.settled, emission, lifecycle, TraceEvent.settles?])]
      simpa [Core.queued, emission, lifecycle, TraceEvent.causesMessage,
        TraceEvent.endsMessage, TraceEvent.isTransition, TraceEvent.isStaleMessage,
        ScheduledWork.delivers] using h

end Balances

/-! ## Outcomes and their declarations -/

section Settling

variable {phase : Phase} {core core' : Core}

/-- An outcome on record was there before, or it is that of a pending effect. -/
theorem Action.settles (h : Action core phase core') {record : TraceRecord}
    (hrecord : record ∈ core'.trace) {work : TraceId}
    (hsettles : record.event.settles? = some work) :
    record ∈ core.trace ∨
      record.id = core.nextTrace ∧ ∃ entry ∈ core.effects, work = entry.requestTrace := by
  have hadded {base records : List TraceRecord} (hmem : record ∈ base ++ records)
      (hquiet : ∀ record ∈ records, record.event.settles? = none) : record ∈ base := by
    rcases List.mem_append.mp hmem with hold | hnew
    · exact hold
    · rw [hquiet record hnew] at hsettles
      cases hsettles
  have hfired {base : Core} {message : QueuedMessage} (hmem : record ∈ (base.fired message).trace) :
      record ∈ base.trace := by
    obtain ⟨records, heq, hevents⟩ := base.fired_eq message
    rw [heq] at hmem
    refine hadded hmem ?_
    intro new hnew
    rw [hevents new hnew]
    rfl
  have houtcome {entry : PendingEffectEntry} {p : PendingEffectEntry → Bool}
      {outcome : EffectOutcomeKind} (hentry : core.effects.find? p = some entry)
      (hmem : record ∈ core.trace ++ [⟨core.nextTrace, core.now, none, .effectOutcome
        entry.requestTrace entry.component (typeName entry.descriptorType) outcome⟩]) :
      record ∈ core.trace ∨
        record.id = core.nextTrace ∧ ∃ entry ∈ core.effects, work = entry.requestTrace := by
    rcases List.mem_append.mp hmem with hold | hnew
    · exact Or.inl hold
    · rw [List.mem_singleton.mp hnew] at hsettles ⊢
      cases hsettles
      exact Or.inr ⟨rfl, entry, List.mem_of_find?_eq_some hentry, rfl⟩
  cases h with
  | effectDiscarded id entry outcome hentry _ => exact houtcome hentry hrecord
  | effectMapped id entry outcome mapper message hentry _ _ => exact houtcome hentry hrecord
  | sourceEventMapped popped event source plan outer mapped _ _ _ _ _ _ =>
      obtain ⟨records, works, heq, _, _, hevents, _⟩ := Core.foldl_withMappedEvent source
        event.cause mapped ((((core.popped popped).withPlan source plan event.event
          outer).withEmission source event.cause outer mapped).withRunning source
            (event.event.isTerminal || outer.any (·.isTerminal)))
      rw [heq] at hrecord
      refine Or.inl (hadded hrecord ?_)
      intro new hnew
      obtain ⟨kind, hevent⟩ := hevents new hnew
      rw [hevent]
      rfl
  | messageDelivered popped message _ _ _ _ _ _ _ _ =>
      exact Or.inl (@hfired (core.popped popped) message
        (hadded hrecord (by simp [TraceEvent.settles?])))
  | deliveryFaulted popped message _ _ _ _ =>
      exact Or.inl (@hfired (core.popped popped) message
        (hadded hrecord (by simp [TraceEvent.settles?])))
  | deliveryMismatched popped message _ _ _ _ _ _ =>
      exact Or.inl (@hfired (core.popped popped) message hrecord)
  | declarationFaulted component cause declaration =>
      refine Or.inl (hadded (hadded hrecord ?_) ?_)
      · simp [TraceEvent.settles?]
      · cases declaration <;> simp [emission, TraceEvent.settles?]
  | replyDeclared =>
      refine Or.inl (hadded (hadded hrecord ?_) ?_)
      · simp [TraceEvent.settles?]
      · simp [emission, TraceEvent.settles?]
  | replyMistyped =>
      refine Or.inl (hadded (hadded hrecord ?_) ?_)
      · simp [TraceEvent.settles?]
      · simp [emission, TraceEvent.settles?]
  | startFaulted =>
      refine Or.inl (hadded (hadded hrecord ?_) ?_)
      · simp [TraceEvent.settles?]
      · simp [lifecycle, TraceEvent.settles?]
  | replaceFaulted =>
      refine Or.inl (hadded (hadded hrecord ?_) ?_)
      · simp [TraceEvent.settles?]
      · simp [lifecycle, TraceEvent.settles?]
  | projected => exact Or.inl hrecord
  | duplicated => exact Or.inl hrecord
  | commandTaken => exact Or.inl hrecord
  | effectClaimed => exact Or.inl hrecord
  | _ => exact Or.inl (hadded hrecord (by simp [emission, lifecycle, TraceEvent.settles?]))

/-- Outcomes come after the declarations they settle. -/
def SettlesLater (core : Core) : Prop :=
  ∀ record ∈ core.trace, ∀ work, record.event.settles? = some work → work < record.id

theorem SettlesLater.action (h : SettlesLater core) (haction : Action core phase core')
    (hrecorded : Recorded core) (hbalanced : EffectsBalanced core) : SettlesLater core' := by
  intro record hrecord work hsettles
  rcases haction.settles hrecord hsettles with hold | ⟨hid, entry, hentry, rfl⟩
  · exact h record hold work hsettles
  · rw [hid]
    exact hrecorded.effectWorks_lt (hbalanced.mem_iff.mp
      (List.mem_append_right _ (List.mem_map_of_mem hentry)))

theorem Recorded.effectWorks_nodup (h : Recorded core) : core.effectWorks.Nodup := by
  have hids : (core.trace.map (·.id)).Nodup := by
    rw [h.position]
    exact List.nodup_range
  have hwhole : core.effectWorks =
      (core.trace.filter (·.event.emits .effect)).map (·.id) := by
    unfold Core.effectWorks
    induction core.trace with
    | nil => rfl
    | cons record trace ih => cases hkind : record.event.emits .effect <;> simp [hkind, ih]
  rw [hwhole]
  exact hids.sublist (List.filter_sublist.map _)

end Settling

end Controlled

end Samara
