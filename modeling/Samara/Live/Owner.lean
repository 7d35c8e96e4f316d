/-
  Samara.Live.Owner

  The rule for the loop of the owner: what has to be shown of the steps, of the
  events and of the ends of the owner for an invariant to hold over every run,
  whatever happens beside the owner.
-/
import Samara.Live.Cutoff

namespace Samara

open Relation (ReflTransGen)
open Exec (Triple)

variable [RustTypes]

namespace Live

/-! ## The scope while the owner runs -/

/-- Only ordinary things have happened to the scope. -/
def Beats (core core' : Core) : Prop := ReflTransGen Scope.Beat core.scope core'.scope

namespace Beats

variable {core core' : Core}

theorem refl (core : Core) : Beats core core := ReflTransGen.refl

theorem trans {first second third : Core} (h : Beats first second) (h' : Beats second third) :
    Beats first third := ReflTransGen.trans h h'

theorem called {core core' : Core} (call : ScopeCall) (hcall : call.Ordinary)
    (hscope : core'.scope = core.scope.called call) : Beats core core' := by
  unfold Beats
  rw [hscope]
  exact .single (.called hcall)

theorem of_eq (h : core'.scope = core.scope) : Beats core core' := by
  unfold Beats
  rw [h]

theorem alive (h : Beats core core') (halive : core.scope.Alive) : core'.scope.Alive :=
  Exec.path_preserves (fun _ _ halive hbeat => halive.beat hbeat) h halive

theorem recorded (h : Beats core core') (hrecorded : core.scope.Recorded) :
    core'.scope.Recorded :=
  Exec.path_preserves (fun _ _ hrecorded hbeat => hrecorded.beat hbeat) h hrecorded

/-- A cutoff, a fault and the end are final under ordinary calls. -/
theorem phase_eq (h : Beats core core') (hphase : core.scope.phase ≠ .running) :
    core'.scope.phase = core.scope.phase :=
  @Exec.path_preserves _ _ (fun scope => scope.phase = core.scope.phase)
    (fun scope scope' heq hbeat => by
      rw [hbeat.phase_eq (by rw [heq]; exact hphase), heq]) _ _ h rfl

end Beats

theorem discard_scope (core : Core) (completion : Option Nat) :
    (core.discard completion).scope = core.scope := by
  cases completion <;> rfl

theorem emit_beats (core : Core) (generation : Nat) (event : ErasedSourceEvent) :
    Beats core (core.emit generation event) := by
  unfold Core.emit
  split
  · exact .refl core
  · split
    · exact .refl core
    · dsimp only
      split <;> exact .called (.source (.sourceEvent _ _ _)) rfl rfl

theorem complete_beats (core : Core) (task : Nat) (outcome : ErasedOutcome) :
    Beats core (core.complete task outcome) := by
  unfold Core.complete
  split
  · exact .refl core
  · split
    · split
      · exact .called (.finite (.effectOutcome _ _)) rfl rfl
      · exact .refl core
    · exact .refl core

theorem fire_beats (core : Core) (task : Nat) : Beats core (core.fire task) := by
  unfold Core.fire
  split
  · exact .refl core
  · split
    · exact .called (.finite (.timerFired _ _)) rfl rfl
    · exact .refl core

theorem installStopHook_scope (core : Core) (generation : Nat) (result : Except String Unit) :
    (core.installStopHook generation result).scope = core.scope := by
  unfold Core.installStopHook
  split
  · rfl
  · split <;> rfl

theorem exit_scope (core : Core) (task : Nat) (outcome : TaskOutcome) :
    (core.exit task outcome).scope = core.scope := by
  unfold Core.exit
  split
  · rfl
  · split <;> rfl

theorem act_beats (core : Core) (activity : Activity) : Beats core (core.act activity) := by
  cases activity with
  | send target message => exact .called (.ingress (.message _)) rfl rfl
  | notify ingress => exact .called (.ingress (.portIngress _)) rfl rfl
  | request protocol requestType port request => exact .called (.ingress (.portIngress _)) rfl rfl
  | poll waiter => exact .refl core
  | beginShutdown mode => exact .called (.shutdown mode) trivial rfl
  | emit generation event => exact emit_beats core generation event
  | installStopHook generation result => exact .of_eq (installStopHook_scope core generation result)
  | complete task outcome => exact complete_beats core task outcome
  | fire task => exact fire_beats core task
  | exit task outcome => exact .of_eq (exit_scope core task outcome)

theorem turn_beats (core : Core) : Beats core core.turn :=
  @turn_preserves _ (Beats core) (fun core activity h => h.trans (act_beats core activity))
    (fun _ _ h => h) core (.refl core)

theorem Step.beats {core core' : Core} (h : Step core core') : Beats core core' := by
  cases h with
  | turned => exact turn_beats core
  | privately h => exact .of_eq (congrArg Core.scope h :)
  | sent hplain => exact .called (.finite (.message _)) rfl rfl
  | activated component subscription context =>
      exact turn_beats (core.realized component subscription)
  | mistyped hrequest => exact .of_eq (discard_scope _ _)
  | popped => exact .of_eq (discard_scope _ _)
  | discarded completion => exact .of_eq (discard_scope _ _)
  | _ => exact .refl _

theorem Advance.beats {core core' : Core} (h : Advance core core') : Beats core core' := by
  cases h with
  | step h => exact h.beats
  | sentMapped message => exact .called (.finite (.message _)) rfl rfl
  | _ => exact .refl _

theorem discard_draining (core : Core) (completion : Option Nat) :
    (core.discard completion).draining = core.draining := by
  cases completion <;> rfl

/-- The owner starts to drain only once the scope does. -/
theorem Step.draining {core core' : Core} (h : Step core core') (hdraining : core'.draining = true) :
    core.draining = true ∨ core'.scope.phase = .draining := by
  cases h with
  | turned =>
      rw [(turn_beside core).draining] at hdraining
      exact .inl hdraining
  | privately h =>
      rw [(congrArg Core.draining h :)] at hdraining
      exact .inl hdraining
  | drained hphase => exact .inr hphase
  | activated component subscription context =>
      have hturn := (turn_beside (core.realized component subscription)).draining
      exact .inl (hturn.symm.trans hdraining)
  | mistyped hrequest =>
      rw [discard_draining] at hdraining
      exact .inl hdraining
  | popped =>
      unfold Core.popRequest at hdraining
      rw [discard_draining] at hdraining
      exact .inl hdraining
  | discarded completion => exact .inl ((discard_draining _ _).symm.trans hdraining)
  | _ => exact .inl hdraining

theorem Advance.draining {core core' : Core} (h : Advance core core')
    (hdraining : core'.draining = true) : core.draining = true ∨ core'.scope.phase = .draining := by
  cases h with
  | step h => exact h.draining hdraining
  | _ => exact .inl hdraining

/-! ## The owner between events -/

/-- What holds of the scope while the owner has `hand` off the channel. -/
structure Base (hand : Option LiveEvent) (core : Core) : Prop where
  alive : core.scope.Alive
  draining : core.draining = true → core.scope.phase = .draining
  marker : ∀ mode, hand = some (.shutdown mode) → core.scope.phase = Scope.shutdownPhase mode

omit [RustTypes] in
theorem shutdownPhase_ne_running (mode : Shutdown) : Scope.shutdownPhase mode ≠ .running := by
  cases mode <;> simp [Scope.shutdownPhase]

namespace Base

variable {hand : Option LiveEvent} {core core' : Core}

theorem beats (h : Base hand core) (hbeats : Beats core core')
    (hdraining : core'.draining = true → core.draining = true ∨ core'.scope.phase = .draining) :
    Base hand core' := by
  refine ⟨hbeats.alive h.alive, ?_, ?_⟩
  · intro hnow
    rcases hdraining hnow with hbefore | hphase
    · have hphase := h.draining hbefore
      rw [hbeats.phase_eq (by rw [hphase]; simp)]
      exact hphase
    · exact hphase
  · intro mode hmode
    have hphase := h.marker mode hmode
    rw [hbeats.phase_eq (by rw [hphase]; exact shutdownPhase_ne_running mode)]
    exact hphase

theorem advance (h : Base hand core) (hadvance : Advance core core') : Base hand core' :=
  h.beats hadvance.beats hadvance.draining

theorem step (h : Base hand core) (hstep : Step core core') : Base hand core' :=
  h.advance (.step hstep)

theorem rest (h : Base hand core) : Base none core := ⟨h.alive, h.draining, by simp⟩

/-- The owner takes an event. -/
theorem taken (h : Base none core) {event : LiveEvent} {channel : List LiveEvent}
    (hchannel : core.scope.channel = event :: channel) :
    Base (some event)
      ((core.withScope { core.scope with channel }).observed (.received event)) := by
  have hsublist : channel.Sublist core.scope.channel := by
    rw [hchannel]
    exact List.sublist_cons_self event channel
  have hbase : Base none ((core.withScope { core.scope with channel }).observed
      (.received event)) := h.beats (.single (.taken hsublist)) .inl
  refine ⟨hbase.alive, hbase.draining, ?_⟩
  intro mode hmode
  cases hmode
  exact h.alive.marker mode (by rw [hchannel]; exact List.mem_cons_self)

end Base

theorem Exit.ne_outOfFuel {stop : Stop} {core core' : Core} (h : Exit stop core core') :
    stop ≠ .outOfFuel := by
  cases h <;> simp

theorem Exit.ne_joining {stop : Stop} {core core' : Core} (h : Exit stop core core') :
    stop ≠ .joining := by
  cases h <;> simp

/-- A failure leaves the scope as it was. -/
theorem Exit.scope {stop : Stop} {core core' : Core} (h : Exit stop core core') :
    core'.scope = core.scope := by
  cases h <;> rfl

/-- Every event but a Cancel marker is processed in steps; a Drain marker only
    once the scope is draining. -/
theorem dispatch_follows {event : LiveEvent} {core : Core} (hevent : event ≠ .shutdown .cancel)
    (hbase : Base (some event) core) :
    Exec.Follows Advance Exit core ((dispatch event).run core) fun _ _ => True := by
  cases event with
  | shutdown mode =>
      cases mode with
      | cancel => exact absurd rfl hevent
      | drain =>
          exact Exec.follows_mono (fun _ _ => .step) (fun _ _ _ => id)
            (beginDrain_follows (hbase.marker .drain rfl))
  | _ => exact moves_dispatch (by simp) core

/-! ## The end of the owner -/

/-- What `cleanup_abort` does, bit by bit. -/
inductive Ending (core : Core) : Core → Prop
  | turned : Ending core core.turn
  | gateStopped {generation : Nat} {gate : SourceGate}
      (hgate : core.gates[generation]? = some gate) :
      Ending core (core.gateStopped generation gate)
  | cleared : Ending core { core with
      tasks := core.tasks.map ({ · with aborted := true })
      sources := []
      effects := []
      timers := [] }
  | requestsDropped : Ending core (({ core with requests := [] } : Core).dropRequests core.requests)
  | joined {exit : TaskExit} {finished : List TaskExit} (hfinished : core.finished = exit :: finished) :
      Ending core { core with finished }
  | channelDropped :
      Ending core ((core.withScope { core.scope with channel := [] }).dropEvents core.scope.channel)

theorem stopGates_run (sources : List ActiveSource) (core : Core) :
    ∃ core', (stopGates sources).run core = .ok () core' ∧ ReflTransGen Ending core core' := by
  induction sources generalizing core with
  | nil => exact ⟨core, rfl, .refl⟩
  | cons source sources ih =>
      have hgate : ∃ stopped core₁, (stopGate source.stamp.generation).run core =
          .ok stopped core₁ ∧ ReflTransGen Ending core core₁ := by
        unfold stopGate
        rw [Exec.run_bind_ok (show turn.run core = .ok () core.turn from rfl),
          Exec.run_bind_ok (EStateM.run_get core.turn)]
        cases hfound : core.turn.gates[source.stamp.generation]? with
        | none => exact ⟨_, _, rfl, .single .turned⟩
        | some gate => exact ⟨_, _, rfl, .tail (.single .turned) (.gateStopped hfound)⟩
      obtain ⟨stopped, core₁, hrun, hpath⟩ := hgate
      obtain ⟨core', hrest, hpath'⟩ := ih core₁
      refine ⟨core', ?_, hpath.trans hpath'⟩
      unfold stopGates
      rw [Exec.run_bind_ok hrun]
      exact hrest

/-- What `try_join_next` returns, after what has happened before it. -/
theorem tryJoinNext_run (core : Core) :
    (core.turn.finished = [] ∧ tryJoinNext.run core = .ok none core.turn) ∨
      ∃ exit finished, core.turn.finished = exit :: finished ∧
        tryJoinNext.run core = .ok (some exit) { core.turn with finished } := by
  unfold tryJoinNext
  rw [Exec.run_bind_ok (show turn.run core = .ok () core.turn from rfl),
    Exec.run_bind_ok (EStateM.run_get core.turn)]
  cases hfinished : core.turn.finished with
  | nil => exact .inl ⟨rfl, rfl⟩
  | cons exit finished => exact .inr ⟨exit, finished, rfl, rfl⟩

/-- The owner waits for tasks that it has aborted, and nothing that is going to
    happen ends one of them. -/
structure Core.Stalled (core : Core) : Prop where
  schedule : core.schedule = []
  finished : core.finished = []
  waits : core.tasks ≠ []
  aborted : core.AllAborted

/-- Nothing happens any more. -/
theorem Core.Stalled.turn {core : Core} (h : core.Stalled) : core.turn = core := by
  unfold Core.turn
  rw [h.schedule]

/-- A round in which no task is joined uses up what happens in it. -/
theorem patience_turn {core : Core} {activities : List Activity} {schedule : List (List Activity)}
    (hleft : core.schedule = activities :: schedule) : core.turn.patience + 1 = core.patience := by
  have hschedule := turn_schedule core
  have hload := load_turn core
  unfold Core.patience
  unfold Core.load at hload
  rw [hschedule, hload, hleft, List.tail_cons, List.length_cons]
  omega

/-- A round in which a task is joined uses up the task. -/
theorem patience_joined {core : Core} {exit : TaskExit} {finished : List TaskExit}
    (hfinished : core.turn.finished = exit :: finished) :
    ({ core.turn with finished } : Core).patience < core.patience := by
  have hload := load_turn core
  have hshorter : core.turn.schedule.length ≤ core.schedule.length := by
    rw [turn_schedule core, List.length_tail]
    exact Nat.sub_le _ _
  unfold Core.patience
  unfold Core.load at hload
  rw [hfinished, List.length_cons] at hload
  dsimp only
  omega

/-- The loop over the aborted tasks joins them all; short of that it has seen
    everything that happens. -/
theorem joinAborted_run (rounds : Nat) (core : Core) (haborted : core.AllAborted)
    (hpatience : core.patience ≤ rounds ∨ core.Stalled) :
    ∃ core', ReflTransGen Ending core core' ∧
      ((joinAborted rounds).run core = .ok () core' ∧ core'.load = 0 ∨
        (joinAborted rounds).run core = .error .joining core' ∧ core'.Stalled) := by
  induction rounds generalizing core with
  | zero =>
      have hstalled : core.Stalled := hpatience.resolve_left (Nat.not_succ_le_zero _)
      exact ⟨core, .refl, .inr ⟨rfl, hstalled⟩⟩
  | succ rounds ih =>
      unfold joinAborted
      rcases tryJoinNext_run core with ⟨hfinished, hrun⟩ | ⟨exit, finished, hfinished, hrun⟩
      · rw [Exec.run_bind_ok hrun]
        dsimp only
        rw [Exec.run_bind_ok (EStateM.run_get core.turn)]
        by_cases htasks : core.turn.tasks.isEmpty = true
        · rw [if_pos htasks]
          refine ⟨core.turn, .single .turned, .inl ⟨rfl, ?_⟩⟩
          unfold Core.load
          rw [List.isEmpty_iff.mp htasks, hfinished]
          rfl
        · -- No task has ended: something happens, or nothing is going to.
          rw [if_neg htasks]
          have hwaits : core.turn.tasks ≠ [] := fun hnil => htasks (List.isEmpty_iff.mpr hnil)
          have hnext : core.turn.patience ≤ rounds ∨ core.turn.Stalled := by
            cases hleft : core.schedule with
            | nil =>
                refine .inr ⟨?_, hfinished, hwaits, haborted.turn⟩
                rw [turn_schedule core, hleft]
                rfl
            | cons activities schedule =>
                refine .inl ?_
                have hless := patience_turn hleft
                rcases hpatience with hpatience | hstalled
                · omega
                · rw [hstalled.schedule] at hleft
                  cases hleft
          obtain ⟨core', hpath, hrest⟩ := ih core.turn haborted.turn hnext
          exact ⟨core', .head .turned hpath, hrest⟩
      · -- A task is joined, which an owner that waits for ever does not see.
        rw [Exec.run_bind_ok hrun]
        have hnext : ({ core.turn with finished } : Core).patience ≤ rounds := by
          rcases hpatience with hpatience | hstalled
          · exact Nat.le_of_lt_succ ((patience_joined hfinished).trans_le hpatience)
          · rw [hstalled.turn, hstalled.finished] at hfinished
            cases hfinished
        obtain ⟨core', hpath, hrest⟩ := ih { core.turn with finished } haborted.turn (.inl hnext)
        exact ⟨core', .head .turned (.head (.joined hfinished) hpath), hrest⟩

/-- The tables of the owner are empty. -/
structure Core.Cleared (core : Core) : Prop where
  sources : core.sources = []
  effects : core.effects = []
  timers : core.timers = []
  requests : core.requests = []

namespace Core.Cleared

variable {core core' : Core}

theorem beside (h : core.Cleared) (hbeside : Beside core core') : core'.Cleared :=
  ⟨hbeside.sources.trans h.sources, hbeside.effects.trans h.effects, hbeside.timers.trans h.timers,
    hbeside.requests.trans h.requests⟩

theorem waits (h : core.Cleared) (hwaits : Waits core core') : core'.Cleared :=
  ⟨(congrArg Core.sources hwaits :).trans h.sources, (congrArg Core.effects hwaits :).trans h.effects,
    (congrArg Core.timers hwaits :).trans h.timers, (congrArg Core.requests hwaits :).trans h.requests⟩

theorem ending (h : core.Cleared) (hending : Ending core core') : core'.Cleared := by
  cases hending with
  | turned => exact h.beside (turn_beside core)
  | gateStopped hgate => exact ⟨h.sources, h.effects, h.timers, h.requests⟩
  | cleared => exact ⟨rfl, rfl, rfl, h.requests⟩
  | requestsDropped =>
      have hdropped : ({ core with requests := [] } : Core).Cleared :=
        ⟨h.sources, h.effects, h.timers, rfl⟩
      exact hdropped.waits (waits_dropRequests _ _)
  | joined hfinished => exact ⟨h.sources, h.effects, h.timers, h.requests⟩
  | channelDropped =>
      have hdropped : (core.withScope { core.scope with channel := [] }).Cleared :=
        ⟨h.sources, h.effects, h.timers, h.requests⟩
      exact hdropped.waits (waits_dropEvents _ _)

theorem endings (h : core.Cleared) (hpath : ReflTransGen Ending core core') : core'.Cleared :=
  @Exec.path_preserves _ Ending Core.Cleared (fun _ _ h hending => h.ending hending) _ _ hpath h

end Core.Cleared

/-- Nothing is left running, and nothing can be accepted. -/
structure Core.Vacant (core : Core) : Prop where
  cleared : core.Cleared
  tasks : core.tasks = []
  finished : core.finished = []
  channel : core.scope.channel = []

/-- What `cleanup_abort` does before it waits for the tasks. -/
theorem cleanupAbort_joins (core : Core) :
    ∃ core', ReflTransGen Ending core core' ∧ core'.AllAborted ∧ core'.Cleared ∧
      cleanupAbort.run core = (do
        joinAborted core'.patience
        turn
        modify fun core =>
          (core.withScope { core.scope with channel := [] }).dropEvents core.scope.channel :
            Owner Unit).run core' := by
  obtain ⟨core₁, hrun, hpath⟩ := stopGates_run core.sources core
  unfold cleanupAbort
  rw [Exec.run_bind_ok (EStateM.run_get core), Exec.run_bind_ok hrun]
  refine ⟨_, ((hpath.tail .turned).tail .cleared).tail .requestsDropped, ?_, ?_, rfl⟩
  · refine Core.AllAborted.waits (waits_dropRequests _ _) fun task hmem => ?_
    obtain ⟨before, _, rfl⟩ := List.mem_map.mp hmem
    rfl
  · exact Core.Cleared.waits ⟨rfl, rfl, rfl, rfl⟩ (waits_dropRequests _ _)

/-- `cleanup_abort` comes to its end, or still waits for a task. -/
theorem cleanupAbort_run (core : Core) :
    ∃ core', ReflTransGen Ending core core' ∧
      (cleanupAbort.run core = .ok () core' ∧ core'.Vacant ∨
        cleanupAbort.run core = .error .joining core' ∧ core'.Stalled) := by
  obtain ⟨core₁, hpath, haborted, hcleared, hjoins⟩ := cleanupAbort_joins core
  obtain ⟨core₂, hpath', ⟨hjoined, hload⟩ | ⟨hwaits, hstalled⟩⟩ :=
    joinAborted_run core₁.patience core₁ haborted (.inl le_rfl)
  · have hwaited := waits_dropEvents
      (core₂.turn.withScope { core₂.turn.scope with channel := [] }) core₂.turn.scope.channel
    obtain ⟨htasks, hfinished⟩ := Nat.add_eq_zero_iff.mp ((load_turn core₂).trans hload)
    refine ⟨_, ((hpath.trans hpath').tail .turned).tail .channelDropped, .inl ⟨?_, ?_, ?_, ?_, ?_⟩⟩
    · rw [hjoins, Exec.run_bind_ok hjoined]
      rfl
    · exact hcleared.endings ((hpath'.tail .turned).tail .channelDropped)
    · exact (congrArg Core.tasks hwaited :).trans (List.length_eq_zero_iff.mp htasks)
    · exact (congrArg Core.finished hwaited :).trans (List.length_eq_zero_iff.mp hfinished)
    · exact (congrArg (·.scope.channel) hwaited :)
  · refine ⟨core₂, hpath.trans hpath', .inr ⟨?_, hstalled⟩⟩
    rw [hjoins, EStateM.run_bind, hwaits]

theorem cleanupAbort_path (core : Core) :
    ReflTransGen Ending core (Exec.final (cleanupAbort.run core)) := by
  obtain ⟨core', hpath, ⟨hrun, _⟩ | ⟨hrun, _⟩⟩ := cleanupAbort_run core <;> rw [hrun] <;> exact hpath

theorem waits_scope {core core' : Core} (h : Waits core core') : core'.scope = core.scope :=
  (congrArg Core.scope h :)

theorem Ending.beats {core core' : Core} (h : Ending core core') : Beats core core' := by
  cases h with
  | turned => exact turn_beats core
  | gateStopped hgate => exact .refl _
  | cleared => exact .refl _
  | requestsDropped =>
      have hwaits := waits_dropRequests ({ core with requests := [] } : Core) core.requests
      exact .of_eq (by rw [waits_scope hwaits])
  | joined hfinished => exact .refl _
  | channelDropped =>
      unfold Beats
      rw [waits_scope (waits_dropEvents _ _)]
      exact .single (.taken (List.nil_sublist _))

/-! ## The rule -/

/-- The state after `close`. -/
def Core.closed (core : Core) : Core :=
  core.turn.withScope (core.turn.scope.called .close)

/-- The state after `fault`. -/
def Core.faulted (core : Core) (error : RuntimeError) : Core :=
  core.turn.withScope (core.turn.scope.called (.fault error))

/-- The phase in which the owner cleans up, after a fault or after a Cancel. -/
def cleanupPhase : Option RuntimeError → ScopePhase
  | none => .cancelling
  | some error => .faulted error

/-- `I` holds while the owner runs, with the event it has off the channel; `X`
    where a computation has failed; `A` while the owner cleans up, after a fault
    or after a Cancel; `Z` at the end. -/
structure Rule (I : Option LiveEvent → Core → Prop) (X : Stop → Core → Prop)
    (A : Option RuntimeError → Core → Prop) (Z : Except Stop Unit → Core → Prop) : Prop where
  step : ∀ {hand core core'}, Base hand core → I hand core → Step core core' → I hand core'
  exit : ∀ {core core' stop}, Base none core → I none core → Exit stop core core' → X stop core'
  taken : ∀ {core event channel}, Base none core → I none core →
    core.scope.channel = event :: channel →
      I (some event) ((core.withScope { core.scope with channel }).observed (.received event))
  joined : ∀ {core exit finished}, Base none core → I none core →
    core.finished = exit :: finished → I none { core with finished }
  dispatched : ∀ event, event ≠ .shutdown .cancel →
    Triple (fun core => Base (some event) core ∧ I (some event) core) (dispatch event)
      (fun _ => I none) X
  retained : ∀ event,
    Triple (fun core => Base (some event) core ∧ core.scope.phase = .cancelling ∧
        I (some event) core)
      (retainPreCancelEffectOutcome event) (fun _ => I none) X
  /-- The marker of a Cancel is dropped. -/
  marker : ∀ {core}, I (some (.shutdown .cancel)) core → I none core
  halted : ∀ {core generation}, Base none core → core.scope.phase = .cancelling → I none core →
    I none (core.halted generation false)
  drained : ∀ {core}, Base none core → I none core → core.draining = true →
    core.scope.channel = [] → core.requests = [] →
      Z (.ok ()) (({ core with sources := [] } : Core).closed)
  cancelled : ∀ {core}, Base none core → core.scope.phase = .cancelling → I none core → A none core
  faulted : ∀ {core error}, core.scope.Alive → X (.error error) core →
    A (some error) (core.faulted error)
  ending : ∀ {error core core'}, A error core → Ending core core' → A error core'
  closed : ∀ {core}, core.scope.phase = .cancelling → A none core → Z (.ok ()) core.closed
  failed : ∀ {core error}, A (some error) core → Z (.error (.error error)) core
  panicked : ∀ {core panic}, X (.panicked panic) core → Z (.error (.panicked panic)) core
  joining : ∀ {fault core}, core.scope.phase = cleanupPhase fault → A fault core →
    Z (.error .joining) core
  running : ∀ {hand core}, Base hand core → I hand core → Z (.error .outOfFuel) core

/-- How the scope looks when the owner has ended with `result`. -/
structure Ended (result : Except Stop Unit) (core : Core) : Prop where
  recorded : core.scope.Recorded
  faulted : ∀ error, result = .error (.error error) → core.scope.phase = .faulted error
  closed : result = .ok () → core.scope.phase = .closed
  joining : result = .error .joining → core.Stalled ∧ ∃ fault, core.scope.phase = cleanupPhase fault
  alive : ∀ stop, result = .error stop → (∀ error, stop ≠ .error error) → stop ≠ .joining →
    core.scope.Alive

namespace Rule

variable {I : Option LiveEvent → Core → Prop} {X : Stop → Core → Prop}
  {A : Option RuntimeError → Core → Prop} {Z : Except Stop Unit → Core → Prop}

/-- What the rule proves of a computation that ends the owner. -/
def Ends (Z : Except Stop Unit → Core → Prop) (result : Except Stop Unit) (core : Core) : Prop :=
  Ended result core ∧ Z result core

/-- The state that a computation fails in, before the owner reacts. -/
def Fails (X : Stop → Core → Prop) (stop : Stop) (core : Core) : Prop :=
  core.scope.Alive ∧ X stop core ∧ stop ≠ .outOfFuel ∧ stop ≠ .joining

/-- What holds while the owner runs; `cancel` says that it is in Cancel. -/
structure Holds (I : Option LiveEvent → Core → Prop) (cancel : Prop) (hand : Option LiveEvent)
    (core : Core) : Prop where
  base : Base hand core
  inv : I hand core
  phase : cancel → core.scope.phase = .cancelling

theorem Holds.step (h : Rule I X A Z) {cancel : Prop} {hand : Option LiveEvent} {core core' : Core}
    (hholds : Holds I cancel hand core) (hstep : Step core core') : Holds I cancel hand core' := by
  refine ⟨hholds.base.step hstep, h.step hholds.base hholds.inv hstep, ?_⟩
  intro hcancel
  have hphase := hholds.phase hcancel
  rw [hstep.beats.phase_eq (by rw [hphase]; simp)]
  exact hphase

theorem fails_of_exit (h : Rule I X A Z) {cancel : Prop} {core core' : Core} {stop : Stop}
    (hholds : Holds I cancel none core)
    (hexit : Exit stop core core') : Fails X stop core' := by
  refine ⟨?_, h.exit hholds.base hholds.inv hexit, ?_⟩
  · rw [hexit.scope]
    exact hholds.base.alive
  · exact ⟨hexit.ne_outOfFuel, hexit.ne_joining⟩

theorem follows (h : Rule I X A Z) {α : Type} {x : Owner α} (hx : Moves Step x) (cancel : Prop) :
    Triple (Holds I cancel none) x (fun _ => Holds I cancel none) (Fails X) :=
  Exec.triple_of_follows (fun core _ => hx core) (fun _ _ hholds hstep => hholds.step h hstep)
    fun _ _ _ hholds hexit => fails_of_exit h hholds hexit

/-- Computations that only look. -/
theorem looks (h : Rule I X A Z) {α : Type} {x : Owner α} (hx : Moves Step x)
    (hok : ∀ core, ∃ value core', x.run core = .ok value core') (cancel : Prop)
    {E : Stop → Core → Prop} :
    Triple (Holds I cancel none) x (fun _ => Holds I cancel none) E := by
  intro core hholds
  have hrun := h.follows hx cancel core hholds
  obtain ⟨value, core', hvalue⟩ := hok core
  rw [hvalue] at hrun ⊢
  exact hrun

/-- The loops of `run` run out of fuel, or end. -/
abbrev Result (Z : Except Stop Unit → Core → Prop) (stop : Stop) (core : Core) : Prop :=
  Ends Z (.error stop) core

theorem cleanup_path (h : Rule I X A Z) {error : Option RuntimeError} {core core' : Core}
    (hpath : ReflTransGen Ending core core') (hA : A error core) : A error core' :=
  @Exec.path_preserves _ _ (A error) (fun _ _ hA hending => h.ending hA hending) _ _ hpath hA

theorem ending_beats {core core' : Core} (hpath : ReflTransGen Ending core core') :
    Beats core core' :=
  Exec.path_relates Beats.refl (fun _ _ _ => Beats.trans) (fun _ _ => Ending.beats) hpath

/-- `scope.fault(error)`, then `cleanup_abort`, then `return Err(error)`. -/
theorem failing (h : Rule I X A Z) {P : Core → Prop} {action : Owner Unit}
    {Q : Unit → Core → Prop} (haction : Triple P action Q (Fails X)) :
    Triple P (Live.failing action) Q (Result Z) := by
  intro core hcore
  have hrun := haction core hcore
  have hunfold : (Live.failing action).run core = Live.failing action core := rfl
  rw [hunfold]
  unfold Live.failing
  cases hres : action.run core with
  | ok value core₁ =>
      rw [hres] at hrun
      exact hrun
  | error stop core₁ =>
      rw [hres] at hrun
      obtain ⟨halive, hX, hfuel, hjoining⟩ := hrun
      cases stop with
      | outOfFuel => exact absurd rfl hfuel
      | joining => exact absurd rfl hjoining
      | panicked panic =>
          exact ⟨⟨halive.recorded, nofun, nofun, nofun, fun _ _ _ _ => halive⟩, h.panicked hX⟩
      | error error =>
          have hfault : (faultScope error).run core₁ = .ok () (core₁.faulted error) := rfl
          obtain ⟨core', hpath, hcleanup⟩ := cleanupAbort_run (core₁.faulted error)
          dsimp only
          rw [Exec.run_bind_ok hfault]
          have hA := h.cleanup_path hpath (h.faulted halive hX)
          have hturned := (turn_beats core₁).alive halive
          have hphase : (core₁.faulted error).scope.phase = .faulted error := by
            show (core₁.turn.scope.fault error).phase = _
            unfold Scope.fault
            rw [hturned.notFinal]
            rfl
          have hlegal : ScopeCall.Legal core₁.turn.scope.phase (.fault error) := trivial
          have hrecorded : (core₁.faulted error).scope.Recorded := hturned.recorded.called hlegal
          have hrecorded' := (ending_beats hpath).recorded hrecorded
          have hphase' : core'.scope.phase = .faulted error := by
            rw [(ending_beats hpath).phase_eq (by rw [hphase]; simp)]
            exact hphase
          rcases hcleanup with ⟨hcleanup, _⟩ | ⟨hwaits, hstalled⟩
          · rw [Exec.run_bind_ok hcleanup]
            refine ⟨⟨hrecorded', ?_, nofun, nofun, ?_⟩, h.failed hA⟩
            · rintro _ ⟨⟩
              exact hphase'
            · rintro _ ⟨⟩ hne _
              exact absurd rfl (hne error)
          · rw [EStateM.run_bind, hwaits]
            refine ⟨⟨hrecorded', nofun, nofun, fun _ => ⟨hstalled, some error, hphase'⟩, ?_⟩,
              h.joining (show core'.scope.phase = cleanupPhase (some error) from hphase') hA⟩
            rintro _ ⟨⟩ _ hne
            exact absurd rfl hne

/-- An owner that has not ended when the fuel is gone. -/
theorem outOfFuel (h : Rule I X A Z) {cancel : Prop} {hand : Option LiveEvent} {α : Type}
    {Q : α → Core → Prop} :
    Triple (Holds I cancel hand) (throw .outOfFuel : Owner α) Q (Result Z) := by
  exact Exec.triple_throw fun core hholds => ⟨⟨hholds.base.alive.recorded, nofun, nofun, nofun,
    fun _ _ _ _ => hholds.base.alive⟩, h.running hholds.base hholds.inv⟩

/-- `is_cancelling`, with what it says. -/
theorem isCancelling_triple (h : Rule I X A Z) (hand : Option LiveEvent) {E : Stop → Core → Prop} :
    Triple (Holds I False hand) isCancelling
      (fun cancelling => Holds I (cancelling = true) hand) E := by
  intro core hholds
  have hturned := hholds.step h .turned
  exact ⟨hturned.base, hturned.inv, fun hcancel => of_decide_eq_true hcancel⟩

theorem tryRecv_triple (h : Rule I X A Z) (cancel : Prop) {E : Stop → Core → Prop} :
    Triple (Holds I cancel none) tryRecv (fun event => Holds I cancel event) E := by
  intro core hholds
  have hturned := hholds.step h .turned
  unfold tryRecv
  rw [Exec.run_bind_ok (show turn.run core = .ok () core.turn from rfl),
    Exec.run_bind_ok (EStateM.run_get core.turn)]
  cases hchannel : core.turn.scope.channel with
  | nil => exact hturned
  | cons event channel =>
      exact ⟨hturned.base.taken hchannel, h.taken hturned.base hturned.inv hchannel, hturned.phase⟩

theorem tryJoinNext_triple (h : Rule I X A Z) (cancel : Prop) {E : Stop → Core → Prop} :
    Triple (Holds I cancel none) tryJoinNext (fun _ => Holds I cancel none) E := by
  intro core hholds
  have hturned := hholds.step h .turned
  unfold tryJoinNext
  rw [Exec.run_bind_ok (show turn.run core = .ok () core.turn from rfl),
    Exec.run_bind_ok (EStateM.run_get core.turn)]
  cases hfinished : core.turn.finished with
  | nil => exact hturned
  | cons exit finished =>
      refine ⟨?_, h.joined hturned.base hturned.inv hfinished, hturned.phase⟩
      exact ⟨hturned.base.alive, hturned.base.draining, hturned.base.marker⟩

theorem joinTask_triple (h : Rule I X A Z) (cancel : Prop) (exit : TaskExit) :
    Triple (Holds I cancel none) (Live.failing (joinTask exit)) (fun _ => Holds I cancel none)
      (Result Z) :=
  h.failing (h.follows (moves_joinTask exit) cancel)

/-! ### Cancel -/

theorem retain_triple (h : Rule I X A Z) (event : LiveEvent) :
    Triple (Holds I True (some event)) (Live.failing (retainPreCancelEffectOutcome event))
      (fun _ => Holds I True none) (Result Z) := by
  refine h.failing ?_
  have hfollows : Triple (fun core => Base (some event) core ∧ core.scope.phase = .cancelling)
      (retainPreCancelEffectOutcome event)
      (fun _ core => Base (some event) core ∧ core.scope.phase = .cancelling)
      (fun stop core => core.scope.Alive ∧ stop ≠ .outOfFuel ∧ stop ≠ .joining) := by
    refine Exec.triple_of_follows
      (fun core _ => moves_retainPreCancelEffectOutcome event core) ?_ ?_
    · rintro core core' ⟨hbase, hphase⟩ hstep
      refine ⟨hbase.step hstep, ?_⟩
      rw [hstep.beats.phase_eq (by rw [hphase]; simp)]
      exact hphase
    · rintro stop core core' ⟨hbase, _⟩ hexit
      refine ⟨?_, hexit.ne_outOfFuel, hexit.ne_joining⟩
      rw [hexit.scope]
      exact hbase.alive
  refine Exec.triple_conseq (Exec.triple_and hfollows (h.retained event)) ?_ ?_ ?_
  · exact fun core hholds => ⟨⟨hholds.base, hholds.phase trivial⟩, hholds.base,
      hholds.phase trivial, hholds.inv⟩
  · exact fun _ core hboth => ⟨hboth.1.1.rest, hboth.2, fun _ => hboth.1.2⟩
  · exact fun stop core hboth => ⟨hboth.1.1, hboth.2, hboth.1.2⟩

theorem retainQueued_triple (h : Rule I X A Z) (fuel : Nat) :
    Triple (Holds I True none) (retainQueued fuel) (fun _ => Holds I True none) (Result Z) := by
  induction fuel with
  | zero => exact h.outOfFuel
  | succ fuel ih =>
      refine Exec.triple_bind (h.tryRecv_triple True) ?_
      intro event
      cases event with
      | none => exact Exec.triple_pure fun _ hholds => hholds
      | some event => exact Exec.triple_bind (h.retain_triple event) fun _ => ih

theorem joinFinished_triple (h : Rule I X A Z) (fuel : Nat) :
    Triple (Holds I True none) (joinFinished fuel) (fun _ => Holds I True none) (Result Z) := by
  induction fuel with
  | zero => exact h.outOfFuel
  | succ fuel ih =>
      refine Exec.triple_bind (h.tryJoinNext_triple True) ?_
      intro exit
      cases exit with
      | none => exact Exec.triple_pure fun _ hholds => hholds
      | some exit => exact Exec.triple_bind (h.joinTask_triple True exit) fun _ => ih

/-- In Cancel a Source is stopped for good. -/
theorem stopSource_triple (h : Rule I X A Z) (source : ActiveSource) (work : TraceId) :
    Triple (Holds I True none) (Live.failing (stopSource source false work))
      (fun _ => Holds I True none) (Result Z) := by
  refine h.failing ?_
  intro core hholds
  obtain ⟨reached, hpath, hrun⟩ := stopSource_reaches source false work core
  have hreached := @Exec.path_preserves _ _ (Holds I True none)
    (fun _ _ hholds hstep => hholds.step h hstep) _ _ hpath hholds
  rcases hrun with hok | ⟨error, herror⟩
  · rw [hok]
    refine ⟨?_, h.halted hreached.base (hreached.phase trivial) hreached.inv, hreached.phase⟩
    exact ⟨hreached.base.alive, hreached.base.draining, hreached.base.marker⟩
  · rw [herror]
    exact fails_of_exit h hreached (.halted error reached _)

theorem stopSourcesForCancel_triple (h : Rule I X A Z) (sources : List ActiveSource) :
    Triple (Holds I True none) (stopSourcesForCancel sources) (fun _ => Holds I True none)
      (Result Z) := by
  induction sources with
  | nil => exact Exec.triple_pure fun _ hholds => hholds
  | cons source sources ih =>
      refine Exec.triple_bind (h.looks moves_nextWork (fun _ => ⟨_, _, rfl⟩) True) ?_
      intro work
      exact Exec.triple_bind (h.stopSource_triple source work) fun _ => ih

/-- The end of a Cancel that met no fault. -/
theorem cleanupClose_triple (h : Rule I X A Z) :
    Triple (Holds I True none) (do cleanupAbort; closeScope) (fun _ => Ends Z (.ok ()))
      (Result Z) := by
  intro core hholds
  obtain ⟨core', hpath, hcleanup⟩ := cleanupAbort_run core
  have hbeats := ending_beats hpath
  have hphase := hholds.phase trivial
  have hphase' : core'.scope.phase = .cancelling := by
    rw [hbeats.phase_eq (by rw [hphase]; simp)]
    exact hphase
  have hturned : core'.turn.scope.phase = .cancelling := by
    rw [(turn_beats core').phase_eq (by rw [hphase']; simp)]
    exact hphase'
  have hA := h.cleanup_path hpath (h.cancelled hholds.base hphase hholds.inv)
  have hrecorded := hbeats.recorded hholds.base.alive.recorded
  rcases hcleanup with ⟨hcleanup, _⟩ | ⟨hwaits, hstalled⟩
  · rw [Exec.run_bind_ok hcleanup]
    refine ⟨⟨?_, nofun, fun _ => rfl, nofun, nofun⟩, h.closed hphase' hA⟩
    exact ((turn_beats core').recorded hrecorded).called
      (show ScopeCall.Legal _ .close from .inr hturned)
  · rw [EStateM.run_bind, hwaits]
    refine ⟨⟨hrecorded, nofun, nofun, fun _ => ⟨hstalled, none, hphase'⟩, ?_⟩,
      h.joining (show core'.scope.phase = cleanupPhase none from hphase') hA⟩
    rintro _ ⟨⟩ _ hne
    exact absurd rfl hne

theorem finishCancel_triple (h : Rule I X A Z) (fuel : Nat) (event : Option LiveEvent) :
    Triple (Holds I True event) (finishCancel fuel event) (fun _ => Ends Z (.ok ())) (Result Z) := by
  have hrest : Triple (Holds I True none) (do
      retainQueued fuel
      joinFinished fuel
      let core ← get
      stopSourcesForCancel core.sources
      cleanupAbort
      closeScope) (fun _ => Ends Z (.ok ())) (Result Z) := by
    refine Exec.triple_bind (h.retainQueued_triple fuel) fun _ => ?_
    refine Exec.triple_bind (h.joinFinished_triple fuel) fun _ => ?_
    refine Exec.triple_bind (h.looks moves_get (fun core => ⟨core, core, rfl⟩) True) ?_
    intro core
    exact Exec.triple_bind (h.stopSourcesForCancel_triple core.sources) fun _ =>
      h.cleanupClose_triple
  cases event with
  | none => exact hrest
  | some event => exact Exec.triple_bind (h.retain_triple event) fun _ => hrest

/-! ### The loop -/

theorem dispatch_triple (h : Rule I X A Z) {event : LiveEvent} (hevent : event ≠ .shutdown .cancel) :
    Triple (Holds I False (some event)) (Live.failing (dispatch event))
      (fun _ => Holds I False none) (Result Z) := by
  refine h.failing ?_
  have hbase : Triple (Base (some event)) (dispatch event) (fun _ => Base (some event))
      (fun stop core => core.scope.Alive ∧ stop ≠ .outOfFuel ∧ stop ≠ .joining) := by
    refine Exec.triple_of_follows (fun core hbase => dispatch_follows hevent hbase)
      (fun _ _ hbase hadvance => hbase.advance hadvance) ?_
    intro stop core core' hbase hexit
    refine ⟨?_, hexit.ne_outOfFuel, hexit.ne_joining⟩
    rw [hexit.scope]
    exact hbase.alive
  refine Exec.triple_conseq (Exec.triple_and hbase (h.dispatched event hevent)) ?_ ?_ ?_
  · exact fun core hholds => ⟨hholds.base, hholds.base, hholds.inv⟩
  · exact fun _ core hboth => ⟨hboth.1.rest, hboth.2, False.elim⟩
  · exact fun stop core hboth => ⟨hboth.1.1, hboth.2, hboth.1.2⟩

theorem drainFinished_triple (h : Rule I X A Z) {E : Stop → Core → Prop} :
    Triple (Holds I False none) drainFinished (fun finished core => Holds I False none core ∧
      (finished = true → core.draining = true ∧ core.scope.channel = [] ∧ core.requests = [])) E := by
  intro core hholds
  refine ⟨hholds.step h .turned, ?_⟩
  intro hfinished
  simp only [Bool.and_eq_true, List.isEmpty_iff] at hfinished
  exact ⟨hfinished.1.1.1.1.1.1, hfinished.1.1.2, hfinished.1.1.1.1.2⟩

theorem drainClose_triple (h : Rule I X A Z) :
    Triple (fun core => Holds I False none core ∧ core.draining = true ∧
        core.scope.channel = [] ∧ core.requests = [])
      (do modify fun core => { core with sources := [] }
          closeScope) (fun _ => Ends Z (.ok ())) (Result Z) := by
  rintro core ⟨hholds, hdraining, hchannel, hrequests⟩
  have hphase := hholds.base.draining hdraining
  have hturned : ({ core with sources := [] } : Core).turn.scope.phase = .draining := by
    rw [(turn_beats { core with sources := [] }).phase_eq (by
      show core.scope.phase ≠ .running
      rw [hphase]
      simp)]
    exact hphase
  refine ⟨⟨?_, nofun, fun _ => rfl, nofun, nofun⟩,
    h.drained hholds.base hholds.inv hdraining hchannel hrequests⟩
  exact ((turn_beats { core with sources := [] }).recorded hholds.base.alive.recorded).called
    (show ScopeCall.Legal _ .close from .inl hturned)

theorem Holds.cancel {cancelling : Bool} {hand : Option LiveEvent} {core : Core}
    (hholds : Holds I (cancelling = true) hand core) (hcancelling : cancelling = true) :
    Holds I True hand core :=
  ⟨hholds.base, hholds.inv, fun _ => hholds.phase hcancelling⟩

theorem Holds.relax {cancel : Prop} {hand : Option LiveEvent} {core : Core}
    (hholds : Holds I cancel hand core) : Holds I False hand core :=
  ⟨hholds.base, hholds.inv, False.elim⟩

/-- The event that `select!` has taken. -/
theorem event_triple (h : Rule I X A Z) (fuel : Nat) (event : LiveEvent)
    (ih : Triple (Holds I False none) (ownerLoop fuel) (fun _ => Ends Z (.ok ())) (Result Z)) :
    Triple (Holds I False (some event)) (do
      if ← isCancelling then finishCancel fuel (some event)
      else
        match event with
        | .shutdown .cancel => finishCancel fuel none
        | event => do
            Live.failing (dispatch event)
            ownerLoop fuel) (fun _ => Ends Z (.ok ())) (Result Z) := by
  refine Exec.triple_bind (h.isCancelling_triple (some event)) fun cancelling => ?_
  refine Exec.triple_ite ?_ ?_
  · intro hcancelling
    exact Exec.triple_conseq (h.finishCancel_triple fuel (some event))
      (fun core hholds => hholds.cancel hcancelling) (fun _ _ => id) fun _ _ => id
  · intro _
    by_cases hevent : event = .shutdown .cancel
    · subst hevent
      refine Exec.triple_conseq (h.finishCancel_triple fuel none) ?_ (fun _ _ => id) fun _ _ => id
      intro core hholds
      have hphase := hholds.base.marker .cancel rfl
      exact ⟨hholds.base.rest, h.marker hholds.inv, fun _ => hphase⟩
    · have hdispatch : Triple (Holds I (cancelling = true) (some event)) (do
          Live.failing (dispatch event)
          ownerLoop fuel) (fun _ => Ends Z (.ok ())) (Result Z) :=
        Exec.triple_bind (Exec.triple_conseq (h.dispatch_triple hevent)
          (fun core hholds => hholds.relax) (fun _ _ => id) fun _ _ => id) fun _ => ih
      cases event with
      | shutdown mode =>
          cases mode with
          | cancel => exact absurd rfl hevent
          | drain => exact hdispatch
      | _ => exact hdispatch

theorem ownerLoop_triple (h : Rule I X A Z) (fuel : Nat) :
    Triple (Holds I False none) (ownerLoop fuel) (fun _ => Ends Z (.ok ())) (Result Z) := by
  induction fuel with
  | zero => exact h.outOfFuel
  | succ fuel ih =>
      refine Exec.triple_bind (h.isCancelling_triple none) fun cancelling => ?_
      refine Exec.triple_ite ?_ ?_
      · intro hcancelling
        exact Exec.triple_conseq (h.finishCancel_triple fuel none)
          (fun core hholds => hholds.cancel hcancelling) (fun _ _ => id) fun _ _ => id
      · intro _
        have hcutoff := h.failing (h.follows moves_observeDrainCutoff (cancelling = true))
        refine Exec.triple_bind hcutoff fun _ => ?_
        have hfinish := Exec.triple_conseq (@drainFinished_triple _ I X A Z h (Result Z))
          (fun core (hholds : Holds I (cancelling = true) none core) => hholds.relax)
          (fun _ _ => id) fun _ _ => id
        refine Exec.triple_bind hfinish fun finished => ?_
        refine Exec.triple_ite ?_ ?_
        · intro hfinished
          exact Exec.triple_conseq h.drainClose_triple
            (fun core hholds => ⟨hholds.1, hholds.2 hfinished⟩) (fun _ _ => id) fun _ _ => id
        · intro _
          refine @Exec.triple_conseq _ _ _ (Holds I False none) _ _ _ _ _ _ ?_
            (fun core hholds => hholds.1) (fun _ _ => id) fun _ _ => id
          refine Exec.triple_bind (h.tryJoinNext_triple False) fun exit => ?_
          cases exit with
          | some exit => exact Exec.triple_bind (h.joinTask_triple False exit) fun _ => ih
          | none =>
              refine Exec.triple_bind (h.tryRecv_triple False) fun event => ?_
              cases event with
              | none => exact ih
              | some event => exact h.event_triple fuel event ih

/-- The rule: from a state in which `I` holds, every run of the owner ends as
    `Z` says. -/
theorem run_triple (h : Rule I X A Z) (fuel : Nat) :
    Triple (fun core => Base none core ∧ I none core) (run fuel) (fun _ => Ends Z (.ok ()))
      (Result Z) := by
  have hstart : Triple (Holds I False none) (run fuel) (fun _ => Ends Z (.ok ())) (Result Z) := by
    refine Exec.triple_bind (h.isCancelling_triple none) fun cancelling => ?_
    refine Exec.triple_ite ?_ ?_
    · intro hcancelling
      exact Exec.triple_conseq (h.finishCancel_triple fuel none)
        (fun core hholds => hholds.cancel hcancelling) (fun _ _ => id) fun _ _ => id
    · intro _
      have hinitialize := h.failing (h.follows moves_initializeProgram (cancelling = true))
      refine Exec.triple_bind hinitialize fun _ => ?_
      exact Exec.triple_conseq (h.ownerLoop_triple fuel) (fun core hholds => hholds.relax)
        (fun _ _ => id) fun _ _ => id
  exact Exec.triple_conseq hstart (fun core hcore => ⟨hcore.1, hcore.2, False.elim⟩)
    (fun _ _ => id) fun _ _ => id

end Rule

theorem Base.fresh (program : Program) (bindings : Bindings) (schedule : List (List Activity)) :
    Base none (Core.fresh program bindings schedule) where
  alive := .new
  draining h := by cases h
  marker mode h := by cases h

/-- What a computation of the owner came to. -/
def outcome {α : Type} : EStateM.Result Stop Core α → Except Stop Unit
  | .ok _ _ => .ok ()
  | .error stop _ => .error stop

/-- The owner waits for a task that it has aborted and that does not end. -/
def Hangs (result : EStateM.Result Stop Core Unit) : Prop :=
  outcome result = .error .joining ∧ (Exec.final result).Stalled

/-- A run of the owner from its start, with everything that happens beside it. -/
def launch (program : Program) (bindings : Bindings) (schedule : List (List Activity))
    (fuel : Nat) : EStateM.Result Stop Core Unit :=
  (run fuel).run (Core.fresh program bindings schedule)

/-- What the rule says of a whole run. -/
theorem Rule.launch {I : Option LiveEvent → Core → Prop} {X : Stop → Core → Prop}
    {A : Option RuntimeError → Core → Prop} {Z : Except Stop Unit → Core → Prop}
    (h : Rule I X A Z) {program : Program} {bindings : Bindings}
    {schedule : List (List Activity)} (hI : I none (Core.fresh program bindings schedule))
    (fuel : Nat) : Rule.Ends Z (outcome (launch program bindings schedule fuel))
      (Exec.final (launch program bindings schedule fuel)) := by
  have hrun := h.run_triple fuel _ ⟨.fresh program bindings schedule, hI⟩
  unfold Live.launch
  cases hres : (run fuel).run (Core.fresh program bindings schedule) with
  | ok value core =>
      rw [hres] at hrun
      exact hrun
  | error stop core =>
      rw [hres] at hrun
      exact hrun

end Live

end Samara
