/-
  Samara.Controlled.Schedule

  The schedule law of the controlled runtime: the schedule of a run refines
  the logical-time scheduler of `Samara.Logic.Scheduler`, and a timer fires
  its declared delay after the Command that armed it.
-/
import Samara.Controlled.History
import Samara.Logic.Scheduler

namespace Samara

open Relation (ReflTransGen)

variable [RustTypes]

namespace Controlled

/-! ## Refinement of the scheduler -/

def ScheduledWork.entry (work : ScheduledWork) : Scheduler.Entry Duration :=
  ⟨work.deadline, work.ticket⟩

def Observation.execution? : Observation → Option (Scheduler.Execution Duration)
  | .popped deadline ticket now => some ⟨⟨deadline, ticket⟩, now⟩
  | _ => none

/-- What `pop_next_due` has removed for execution, in order. -/
def Core.executions (core : Core) : List (Scheduler.Execution Duration) :=
  core.journal.filterMap Observation.execution?

/-- The schedule of the runtime, without the payloads of its work. -/
def Core.scheduler (core : Core) : Scheduler.Machine Duration where
  now := core.now
  nextTicket := core.nextTicket
  queue := core.scheduled.map ScheduledWork.entry
  executed := core.executions

section Refinement

variable {core core' : Core}

theorem nextDue_eq_some {work : ScheduledWork} (h : core.nextDue = some work) :
    work ∈ core.scheduled ∧ work.deadline ≤ core.now ∧
      ∀ other ∈ core.scheduled, other.deadline ≤ core.now → work.key ≤ other.key := by
  have hmem := List.mem_filter.mp (List.argmin_mem h)
  refine ⟨hmem.1, by simpa using hmem.2, ?_⟩
  intro other hother hdue
  exact List.le_of_mem_argmin (List.mem_filter.mpr ⟨hother, by simpa using hdue⟩) h

theorem scheduler_of_eq (hnow : core'.now = core.now) (hticket : core'.nextTicket = core.nextTicket)
    (hscheduled : core'.scheduled = core.scheduled)
    (hexecutions : core'.executions = core.executions) : core'.scheduler = core.scheduler := by
  unfold Core.scheduler
  rw [hnow, hticket, hscheduled, hexecutions]

theorem executions_observed {observation : Observation} (h : observation.execution? = none) :
    (core.observed observation).executions = core.executions := by
  unfold Core.executions
  rw [Core.observed_journal, List.filterMap_append]
  simp [h]

theorem fired_scheduler (core : Core) (message : QueuedMessage) :
    (core.fired message).scheduler = core.scheduler := by
  unfold Core.fired
  cases message.delivery <;> rfl

/-- A quiet change is none for the scheduler. -/
theorem Quiet.scheduler (h : Quiet core core') : core'.scheduler = core.scheduler := by
  cases h with
  | traced => rfl
  | observed observation haside =>
      refine scheduler_of_eq rfl rfl rfl (executions_observed ?_)
      cases observation <;> first | rfl | cases haside
  | emitted => exact scheduler_of_eq rfl rfl rfl (executions_observed rfl)
  | tables hnow hticket hscheduled _ hjournal =>
      refine scheduler_of_eq hnow hticket hscheduled ?_
      unfold Core.executions
      rw [hjournal]

theorem scheduler_scheduledAt (deadline : Duration) (kind : ScheduledKind) :
    (core.scheduledAt deadline kind).scheduler =
      { core.scheduler with
        nextTicket := core.nextTicket + 1
        queue := core.scheduler.queue ++ [⟨deadline, core.nextTicket⟩] } := by
  have hqueue : (core.scheduled ++ [ScheduledWork.mk deadline core.nextTicket kind]).map ScheduledWork.entry =
      core.scheduled.map ScheduledWork.entry ++ [Scheduler.Entry.mk deadline core.nextTicket] :=
    List.map_append
  exact congrArg (Scheduler.Machine.mk core.now (core.nextTicket + 1) · core.executions) hqueue

theorem scheduler_popped (work : ScheduledWork) :
    (core.popped work).scheduler =
      { core.scheduler with
        queue := core.scheduler.queue.eraseP (·.key = work.entry.key)
        executed := core.scheduler.executed ++ [⟨work.entry, core.now⟩] } := by
  have hqueue : (core.scheduled.eraseP (·.key = work.key)).map ScheduledWork.entry =
      (core.scheduled.map ScheduledWork.entry).eraseP (·.key = work.entry.key) := by
    rw [List.eraseP_map]
    rfl
  have hexecuted : (core.popped work).executions =
      core.executions ++ [⟨work.entry, core.now⟩] := List.filterMap_append
  exact congrArg₂ (Scheduler.Machine.mk core.now core.nextTicket) hqueue hexecuted

theorem scheduler_step_popped {work : ScheduledWork} (hdue : core.nextDue = some work) :
    Scheduler.Step core.scheduler (core.popped work).scheduler := by
  obtain ⟨hqueued, hnow, hleast⟩ := nextDue_eq_some hdue
  rw [scheduler_popped]
  refine .execute work.entry (List.mem_map_of_mem hqueued) hnow ?_
  intro other hother hdeadline
  obtain ⟨queued, hmem, rfl⟩ := List.mem_map.mp hother
  exact hleast queued hmem hdeadline

/-- Every tick is a step of the scheduler, or none. -/
theorem Tick.scheduler (h : Tick core core') :
    ReflTransGen Scheduler.Step core.scheduler core'.scheduler := by
  cases h with
  | quiet hquiet => rw [hquiet.scheduler]
  | scheduled deadline kind hdeadline _ =>
      rw [scheduler_scheduledAt]
      exact ReflTransGen.single (.schedule deadline hdeadline)
  | executed work hdue => exact ReflTransGen.single (scheduler_step_popped hdue)
  | fired work message hdue _ =>
      rw [fired_scheduler]
      exact ReflTransGen.single (scheduler_step_popped hdue)
  | passed time hforward hdue =>
      refine ReflTransGen.single (.pass time hforward ?_)
      intro entry hentry
      obtain ⟨work, hwork, rfl⟩ := List.mem_map.mp hentry
      exact hdue work hwork

theorem scheduler_path (h : ReflTransGen Tick core core') :
    ReflTransGen Scheduler.Step core.scheduler core'.scheduler :=
  ReflTransGen.lift' Core.scheduler (fun _ _ => Tick.scheduler) _ _ h

end Refinement

/-! ## Timers -/

/-- What a run keeps true of its timers. -/
structure Timed (core : Core) : Prop where
  /-- A scheduled timer is armed for its deadline. -/
  scheduled : ∀ work ∈ core.scheduled, ∀ message, work.kind = .message message →
    message.delivery = .timer →
      core.Armed message.cause message.target message.targetMessageType work.deadline
  /-- A timer that fired did so at the deadline it was armed for. -/
  fired : ∀ record ∈ core.trace, ∀ component name, record.event = .timerFired component name →
    ∃ work messageType, record.cause = some work ∧ name = typeName messageType ∧
      core.Armed work component messageType record.time

theorem Core.Armed.mono {core core' : Core} {work : TraceId} {component : ComponentId}
    {messageType : TypeId} {deadline : Duration}
    (h : core.Armed work component messageType deadline)
    (hdeclarations : core.declarations ⊆ core'.declarations) :
    core'.Armed work component messageType deadline := by
  obtain ⟨armed, delay, value, hmem, hdeadline⟩ := h
  exact ⟨armed, delay, value, hdeclarations hmem, hdeadline⟩

namespace Timed

variable {core core' : Core}

theorem fresh (program : Program) (bindings : Bindings) : Timed (Core.fresh program bindings) := by
  constructor <;> simp [Core.fresh]

/-- A change that fires no timer and schedules nothing new. -/
theorem of_subset (h : Timed core) (hscheduled : core'.scheduled ⊆ core.scheduled)
    (hdeclarations : core.declarations ⊆ core'.declarations)
    (htrace : ∀ record ∈ core'.trace, record ∈ core.trace ∨
      ∀ component name, record.event ≠ .timerFired component name) : Timed core' := by
  constructor
  · intro work hwork message hkind hdelivery
    exact (h.scheduled work (hscheduled hwork) message hkind hdelivery).mono hdeclarations
  · intro record hrecord component name hevent
    rcases htrace record hrecord with hold | hquiet
    · obtain ⟨work, messageType, hcause, hname, harmed⟩ := h.fired record hold component name hevent
      exact ⟨work, messageType, hcause, hname, harmed.mono hdeclarations⟩
    · exact absurd hevent (hquiet component name)

theorem traced (h : Timed core) (cause : Option TraceId) {event : TraceEvent}
    (hevent : ∀ component name, event ≠ .timerFired component name) :
    Timed (core.traced cause event) := by
  refine h.of_subset (List.Subset.refl _) (List.Subset.refl _) ?_
  intro record hrecord
  rcases List.mem_append.mp hrecord with hold | hnew
  · exact Or.inl hold
  · rw [List.mem_singleton.mp hnew]
    exact Or.inr hevent

theorem observed (h : Timed core) (observation : Observation) :
    Timed (core.observed observation) := by
  refine h.of_subset (List.Subset.refl _) ?_ (fun _ => Or.inl)
  unfold Core.declarations
  rw [Core.observed_journal, List.filterMap_append]
  exact List.subset_append_left _ _

theorem quiet (h : Timed core) (hquiet : Quiet core core') : Timed core' := by
  cases hquiet with
  | traced cause event hevent => exact h.traced cause hevent
  | observed observation _ => exact h.observed observation
  | emitted cause component declaration =>
      exact (h.traced (some cause) (by cases declaration <;> simp [emission])).observed _
  | tables _ _ hscheduled htrace hjournal =>
      refine h.of_subset (fun work hwork => hscheduled ▸ hwork) ?_ ?_
      · unfold Core.declarations
        rw [hjournal]
        exact List.Subset.refl _
      · intro record hrecord
        exact Or.inl (htrace ▸ hrecord)

theorem scheduledAt (h : Timed core) {deadline : Duration} {kind : ScheduledKind}
    (harmed : ∀ message, kind = .message message → message.delivery = .timer →
      core.Armed message.cause message.target message.targetMessageType deadline) :
    Timed (core.scheduledAt deadline kind) := by
  refine ⟨?_, h.fired⟩
  intro work hwork message hkind hdelivery
  rcases List.mem_append.mp hwork with hold | hnew
  · exact h.scheduled work hold message hkind hdelivery
  · rw [List.mem_singleton.mp hnew] at hkind ⊢
    exact harmed message hkind hdelivery

theorem popped (h : Timed core) (work : ScheduledWork) : Timed (core.popped work) := by
  refine h.of_subset List.eraseP_subset ?_ (fun _ => Or.inl)
  unfold Core.declarations
  rw [Core.popped_journal, List.filterMap_append]
  exact List.subset_append_left _ _

/-- A timer that is due has reached its deadline, because none is overdue. -/
theorem fired_popped (h : Timed core) (hlaw : Scheduler.Law core.scheduler)
    {work : ScheduledWork} {message : QueuedMessage} (hdue : core.nextDue = some work)
    (hkind : work.kind = .message message) : Timed ((core.popped work).fired message) := by
  have hpopped := h.popped work
  unfold Core.fired
  cases hdelivery : message.delivery with
  | message => exact hpopped
  | timer =>
      obtain ⟨hqueued, hnow, _⟩ := nextDue_eq_some hdue
      have htime : work.deadline = core.now :=
        le_antisymm hnow (hlaw.timely work.entry (List.mem_map_of_mem hqueued))
      have harmed := h.scheduled work hqueued message hkind hdelivery
      rw [htime] at harmed
      refine ⟨hpopped.scheduled, ?_⟩
      intro record hrecord component name hevent
      rcases List.mem_append.mp hrecord with hold | hnew
      · exact hpopped.fired record hold component name hevent
      · rw [List.mem_singleton.mp hnew] at hevent ⊢
        cases hevent
        refine ⟨message.cause, message.targetMessageType, rfl, rfl, harmed.mono ?_⟩
        unfold Core.declarations
        exact fun declared hmem => List.filterMap_append ▸ List.mem_append_left _ hmem

theorem tick (h : Timed core) (hlaw : Scheduler.Law core.scheduler) (htick : Tick core core') :
    Timed core' := by
  cases htick with
  | quiet hquiet => exact h.quiet hquiet
  | scheduled deadline kind _ harmed => exact h.scheduledAt harmed
  | executed work _ => exact h.popped work
  | fired work message hdue hkind => exact h.fired_popped hlaw hdue hkind
  | passed time _ _ => exact h.of_subset (List.Subset.refl _) (List.Subset.refl _) fun _ => Or.inl

theorem path (h : Timed core) (hlaw : Scheduler.Law core.scheduler)
    (hpath : ReflTransGen Tick core core') : Timed core' :=
  @Exec.path_preserves_of_inv _ Tick (fun core => Scheduler.Law core.scheduler) Timed
    (fun _ _ hlaw htick => hlaw.path htick.scheduler)
    (fun _ _ hlaw htimed htick => htimed.tick hlaw htick) _ _ hpath hlaw h

end Timed

/-! ## Runs -/

/-- A run is a path of ticks from the fresh state of its Program. -/
theorem Attained.ticks {start core : Core} (hstart : Launched start) (h : Attained start core) :
    ∃ program bindings, ReflTransGen Tick (Core.fresh program bindings) core := by
  obtain ⟨program, bindings, hlaunch⟩ := hstart.path
  have hmoves : ReflTransGen Tick (Core.fresh program bindings) start :=
    ReflTransGen.lift' id (fun _ _ => Move.ticks) _ _ hlaunch
  have hmotions : ReflTransGen Tick start core :=
    ReflTransGen.lift' id (fun _ _ => Motion.ticks) _ _ h.path
  exact ⟨program, bindings, hmoves.trans hmotions⟩

/-- A timer record fired at the time its Command was emitted plus the delay
    that the Command declared. -/
def Core.FiredOnTime (core : Core) (record : TraceRecord) (component : ComponentId) : Prop :=
  ∃ (work : TraceId) (armed : TraceRecord) (messageType : TypeId) (delay : Duration)
    (value : Val messageType),
    record.cause = some work ∧ core.trace[work]? = some armed ∧
      armed.event = emission component (.after delay value : Declaration messageType) ∧
      ⟨work, component, armed.time, ⟨messageType, .after delay value⟩⟩ ∈ core.declarations ∧
      (∀ declared ∈ core.declarations, declared.work = work →
        declared = ⟨work, component, armed.time, ⟨messageType, .after delay value⟩⟩) ∧
      record.time = armed.time + delay

theorem Recorded.firedOnTime {core : Core} (h : Recorded core) (htimed : Timed core)
    {record : TraceRecord} (hrecord : record ∈ core.trace) {component : ComponentId}
    {name : String} (hevent : record.event = .timerFired component name) :
    core.FiredOnTime record component := by
  obtain ⟨work, messageType, hcause, _, time, delay, value, hdeclared, htime⟩ :=
    htimed.fired record hrecord component name hevent
  obtain ⟨armed, harmed, harmedTime, harmedEvent⟩ := h.records _ hdeclared
  dsimp only at harmed harmedTime harmedEvent
  subst harmedTime
  refine ⟨work, armed, messageType, delay, value, hcause, harmed, harmedEvent, hdeclared, ?_,
    htime⟩
  intro other hother hwork
  exact h.eq_of_work hother hdeclared hwork

/-- The schedule law of a state that a run can reach. -/
structure ScheduleLaw (core : Core) : Prop where
  /-- Work is executed in the strict order of its deadlines and tickets. -/
  ordered : core.executions.Pairwise (·.entry.key < ·.entry.key)
  /-- Work is executed at its deadline. -/
  punctual : ∀ execution ∈ core.executions, execution.time = execution.entry.deadline
  timers : ∀ record ∈ core.trace, ∀ component name, record.event = .timerFired component name →
    core.FiredOnTime record component
  /-- Time never goes back between two records, or after the last. -/
  clock : core.trace.Pairwise (·.time ≤ ·.time) ∧ ∀ record ∈ core.trace, record.time ≤ core.now
  /-- Every ticket issued was executed or is scheduled, once. -/
  tickets : (core.executions.map (·.entry.ticket) ++ core.scheduled.map (·.ticket)).Perm
    (List.range core.nextTicket)

theorem scheduleLaw_of_ticks {program : Program} {bindings : Bindings} {core : Core}
    (h : ReflTransGen Tick (Core.fresh program bindings) core) : ScheduleLaw core := by
  have hidle : Scheduler.Law (Core.fresh program bindings).scheduler :=
    Scheduler.Law.idle 0
  have hlaw := hidle.path (scheduler_path h)
  have hrecorded := (Recorded.fresh program bindings).path h
  have htimed := (Timed.fresh program bindings).path hidle h
  refine ⟨hlaw.ordered, hlaw.punctual, ?_, ⟨hrecorded.clock, hrecorded.past⟩, ?_⟩
  · intro record hrecord component name hevent
    exact hrecorded.firedOnTime htimed hrecord hevent
  · have htickets := hlaw.tickets
    rw [Core.scheduler, List.map_map] at htickets
    exact htickets

/-- In every run of every Program, whatever its operations did, the schedule
    law holds and the next operation does not turn time back. -/
theorem schedule_law {start core : Core} (hstart : Launched start) (h : Attained start core) :
    ScheduleLaw core ∧ ∀ operation, core.now ≤ (Exec.final ((perform operation).run core)).now := by
  obtain ⟨program, bindings, hticks⟩ := h.ticks hstart
  refine ⟨scheduleLaw_of_ticks hticks, ?_⟩
  intro operation
  have hmotions : ReflTransGen Motion core (Exec.final ((perform operation).run core)) :=
    (Attained.operation operation Attained.refl).path
  have hnext : ReflTransGen Tick core (Exec.final ((perform operation).run core)) :=
    ReflTransGen.lift' id (fun _ _ => Motion.ticks) _ _ hmotions
  exact Scheduler.now_le_of_path (scheduler_path hnext)

end Controlled

end Samara

namespace Samara.Controlled

attribute [local instance] Sample.types

/-- A Component that arms a timer at its initialization and on every Message. -/
def metronome : Component () where
  init := ((0 : Nat), .declaration (.after 5 (.plain 0)))
  update := fun (model : Nat) _ => (model + 1, .ok (.declaration (.after (3 * model) (.plain 1))))
  subscriptions _ := .ok []

def metronomeBuilder : ProgramBuilder :=
  (ProgramBuilder.new ⟨7⟩).component ⟨"metronome"⟩ metronome

def metronomeCore : Core := (assemble metronomeBuilder ⟨[], [], []⟩).get rfl

/-- The metronome after eight units of time. -/
def metronomeAdvanced : Core := Exec.final ((perform (.advance 20 8)).run metronomeCore)

theorem schedule_law_metronome :
    ScheduleLaw metronomeAdvanced ∧ metronomeAdvanced.executions.map (·.time) = [5, 5, 8] :=
  ⟨(schedule_law
    (launched_of_assemble (.component _ metronome (.new ⟨7⟩)) (Option.some_get _).symm)
    (Attained.operation (.advance 20 8) Attained.refl)).1, by decide +kernel⟩

end Samara.Controlled
