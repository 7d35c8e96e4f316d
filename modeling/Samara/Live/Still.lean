/-
  Samara.Live.Still

  What an owner does once its scope is shut.  Nothing is accepted any more, so
  the channel only gets shorter and no task is left to be joined that was not
  there before; nothing is issued, and no transition begins.
-/
import Samara.Live.Ledger
import Samara.Logic.Loop

namespace Samara

open Exec (Triple Traces traces_pure traces_bind traces_look traces_get traces_step traces_ite)
open Relation (ReflTransGen)

variable [RustTypes]

namespace Live

/-! ## A shut scope -/

/-- In these phases something can be accepted. -/
def ScopePhase.admits : ScopePhase → Bool
  | .running | .draining => true
  | .cancelling | .faulted _ | .closed => false

theorem ScopeCall.OpenIn.admits {call : ScopeCall} {phase : ScopePhase} (h : call.OpenIn phase) :
    phase.admits = true := by
  cases call with
  | ingress event =>
      cases h
      rfl
  | source event =>
      cases h
      rfl
  | finite event => rcases h with rfl | rfl <;> rfl
  | shutdown mode =>
      cases h
      rfl
  | fault error => cases h
  | close => cases h

/-- A shut scope accepts nothing and stays shut, whatever is called. -/
theorem Scope.called_shut {scope : Scope} (hshut : scope.phase.admits = false) (call : ScopeCall) :
    (scope.called call).phase.admits = false ∧ (scope.called call).channel = scope.channel ∧
      (scope.called call).sent = scope.sent := by
  obtain ⟨phase, connected, channel, log⟩ := scope
  have hphase : (Scope.called ⟨phase, connected, channel, log⟩ call).phase.admits = false := by
    cases phase with
    | running => cases hshut
    | draining => cases hshut
    | cancelling => cases call <;> rfl
    | faulted error => cases call <;> rfl
    | closed => cases call <;> rfl
  rcases Scope.called_appends ⟨phase, connected, channel, log⟩ call with
    ⟨hok, hchannel, hsent⟩ | ⟨_, hchannel, hsent⟩
  · -- What succeeds on a shut scope appends nothing.
    have hnone : call.appends = [] := by
      by_contra hne
      have hopen := Scope.method_open _ call hok hne
      have hadmits : phase.admits = true := hopen.admits
      rw [hshut] at hadmits
      cases hadmits
    rw [hnone, List.append_nil] at hchannel hsent
    exact ⟨hphase, hchannel, hsent⟩
  · exact ⟨hphase, hchannel, hsent⟩

omit [RustTypes] in
/-- Cancel shuts the scope. -/
theorem admits_of_cancelling {phase : ScopePhase} (h : phase = .cancelling) :
    phase.admits = false := by
  rw [h]
  rfl

/-! ## What stays -/

/-- What the owner observes while it does nothing but clean up. -/
def Observation.isCleanup : Observation → Bool
  | .received _ | .discarded _ | .panicked _ => true
  | _ => false

/-- What `core`, which has come from `base`, has not done. -/
structure Still (base core : Core) : Prop where
  shut : core.scope.phase.admits = false
  sent : core.scope.sent = base.scope.sent
  channel : core.scope.channel <:+ base.scope.channel
  journal : ∃ later, core.journal = base.journal ++ later ∧
    ∀ observation ∈ later, observation.isCleanup = true
  issued : core.nextEffect = base.nextEffect ∧ core.nextTimer = base.nextTimer ∧
    core.nextRequest = base.nextRequest ∧ core.nextGeneration = base.nextGeneration
  load : core.load ≤ base.load

namespace Still

variable {base core core' : Core}

theorem refl (hshut : core.scope.phase.admits = false) : Still core core :=
  ⟨hshut, rfl, List.suffix_rfl, ⟨[], (List.append_nil _).symm, nofun⟩, ⟨rfl, rfl, rfl, rfl⟩, le_rfl⟩

theorem trans (h : Still base core) (h' : Still core core') : Still base core' := by
  obtain ⟨later, hlater, hcleanup⟩ := h.journal
  obtain ⟨last, hlast, hcleanup'⟩ := h'.journal
  refine ⟨h'.shut, h'.sent.trans h.sent, h'.channel.trans h.channel, ⟨later ++ last, ?_, ?_⟩, ?_,
    h'.load.trans h.load⟩
  · rw [hlast, hlater, List.append_assoc]
  · intro observation hmem
    exact (List.mem_append.mp hmem).elim (hcleanup observation) (hcleanup' observation)
  · obtain ⟨heffect, htimer, hrequest, hgeneration⟩ := h.issued
    obtain ⟨heffect', htimer', hrequest', hgeneration'⟩ := h'.issued
    exact ⟨heffect'.trans heffect, htimer'.trans htimer, hrequest'.trans hrequest,
      hgeneration'.trans hgeneration⟩

/-- A step that touches neither scope nor history. -/
theorem frame (h : Still base core) (hscope : core'.scope = core.scope)
    (hjournal : core'.journal = core.journal)
    (hissued : core'.nextEffect = core.nextEffect ∧ core'.nextTimer = core.nextTimer ∧
      core'.nextRequest = core.nextRequest ∧ core'.nextGeneration = core.nextGeneration)
    (hload : core'.load ≤ core.load) : Still base core' := by
  refine h.trans ⟨?_, ?_, ?_, ⟨[], ?_, nofun⟩, hissued, hload⟩
  · rw [hscope]
    exact h.shut
  · rw [hscope]
  · exact hscope.symm ▸ List.suffix_rfl
  · rw [hjournal, List.append_nil]

/-- A step that calls the scope. -/
theorem called (h : Still base core) (call : ScopeCall) (hscope : core'.scope = core.scope.called call)
    (hjournal : core'.journal = core.journal)
    (hissued : core'.nextEffect = core.nextEffect ∧ core'.nextTimer = core.nextTimer ∧
      core'.nextRequest = core.nextRequest ∧ core'.nextGeneration = core.nextGeneration)
    (hload : core'.load ≤ core.load) : Still base core' := by
  obtain ⟨hphase, hchannel, hsent⟩ := core.scope.called_shut h.shut call
  rw [← hscope] at hphase hchannel hsent
  refine h.trans ⟨hphase, hsent, ?_, ⟨[], ?_, nofun⟩, hissued, hload⟩
  · exact hchannel.symm ▸ List.suffix_rfl
  · rw [hjournal, List.append_nil]

theorem observed (h : Still base core) {observation : Observation}
    (hcleanup : observation.isCleanup = true) : Still base (core.observed observation) := by
  refine h.trans ⟨h.shut, rfl, List.suffix_rfl, ⟨[observation], rfl, ?_⟩, ⟨rfl, rfl, rfl, rfl⟩, le_rfl⟩
  intro other hmem
  rw [List.mem_singleton.mp hmem]
  exact hcleanup

theorem waits (h : Still base core) (hwaits : Waits core core') : Still base core' := by
  refine h.frame (waits_scope hwaits) (waits_journal hwaits) ?_ ?_
  · exact ⟨(congrArg Core.nextEffect hwaits :), (congrArg Core.nextTimer hwaits :),
      (congrArg Core.nextRequest hwaits :), (congrArg Core.nextGeneration hwaits :)⟩
  · exact (congrArg Core.load hwaits :).le

theorem discard (h : Still base core) (completion : Option Nat) :
    Still base (core.discard completion) := by
  cases completion with
  | none => exact h
  | some completion => exact (h.waits (waits_dropCompletion core completion)).observed rfl

/-! ### Activities -/

theorem act (h : Still base core) (activity : Activity) : Still base (core.act activity) := by
  have hbeside := act_beside core activity
  have hissued : (core.act activity).nextEffect = core.nextEffect ∧
      (core.act activity).nextTimer = core.nextTimer ∧
      (core.act activity).nextRequest = core.nextRequest ∧
      (core.act activity).nextGeneration = core.nextGeneration :=
    ⟨(congrArg Core.nextEffect hbeside :), (congrArg Core.nextTimer hbeside :),
      (congrArg Core.nextRequest hbeside :), hbeside.nextGeneration⟩
  have hload := (load_act core activity).le
  rcases act_called core activity with hscope | ⟨call, hscope, _⟩
  · exact h.frame hscope hbeside.journal hissued hload
  · exact h.called call hscope hbeside.journal hissued hload

theorem turn (h : Still base core) : Still base core.turn :=
  @turn_preserves _ (Still base) (fun _ activity h => h.act activity)
    (fun _ _ h => h.frame rfl rfl ⟨rfl, rfl, rfl, rfl⟩ le_rfl) core h

/-- The clean-up leaves everything still. -/
theorem ending (h : Still base core) (hending : Ending core core') : Still base core' := by
  cases hending with
  | turned => exact h.turn
  | gateStopped hgate => exact h.frame rfl rfl ⟨rfl, rfl, rfl, rfl⟩ le_rfl
  | cleared =>
      refine h.frame rfl rfl ⟨rfl, rfl, rfl, rfl⟩ ?_
      show (core.tasks.map _).length + _ ≤ _
      rw [List.length_map]
      exact le_rfl
  | requestsDropped =>
      have hcleared : Still base ({ core with requests := [] } : Core) :=
        h.frame rfl rfl ⟨rfl, rfl, rfl, rfl⟩ le_rfl
      exact hcleared.waits (waits_dropRequests _ _)
  | @joined exit finished hfinished =>
      refine h.frame rfl rfl ⟨rfl, rfl, rfl, rfl⟩ ?_
      show core.tasks.length + finished.length ≤ core.tasks.length + core.finished.length
      rw [hfinished, List.length_cons]
      omega
  | channelDropped =>
      have hdropped : Still base (core.withScope { core.scope with channel := [] }) :=
        h.trans ⟨h.shut, rfl, List.nil_suffix, ⟨[], (List.append_nil _).symm, nofun⟩,
          ⟨rfl, rfl, rfl, rfl⟩, le_rfl⟩
      exact hdropped.waits (waits_dropEvents _ _)

/-- What is observed of nothing but clean-up is nothing. -/
theorem filterMap_journal {α : Type} (h : Still base core) {part : Observation → Option α}
    (hpart : ∀ observation, observation.isCleanup = true → part observation = none) :
    core.journal.filterMap part = base.journal.filterMap part := by
  obtain ⟨later, hlater, hcleanup⟩ := h.journal
  have hnone : later.filterMap part = [] :=
    List.filterMap_eq_nil_iff.mpr fun observation hmem => hpart observation (hcleanup observation hmem)
  rw [hlater, List.filterMap_append, hnone, List.append_nil]

theorem begun (h : Still base core) : core.begun = base.begun :=
  h.filterMap_journal fun observation hcleanup => by
    cases observation with
    | transition message => cases hcleanup
    | _ => rfl

end Still

/-! ## Steps of a shut owner -/

/-- What the owner does to its state in Cancel, but for the events, the rows and
    the tasks that it takes. -/
inductive Wind (core : Core) : Core → Prop
  | turned : Wind core core.turn
  | counted : Wind core { core with nextWork := core.nextWork + 1 }
  /-- The Message of an outcome goes nowhere. -/
  | refused {message : QueuedMessage} (hplain : message.source = none) :
      Wind core (core.accepted (.message message))
  | aborted (task : Nat) : Wind core (core.taskAborted task)
  | gateStopped {generation : Nat} {gate : SourceGate}
      (hgate : core.gates[generation]? = some gate) : Wind core (core.gateStopped generation gate)
  | halted (generation : Nat) : Wind core (core.halted generation false)

theorem Still.wind {base core core' : Core} (h : Still base core) (hwind : Wind core core') :
    Still base core' := by
  cases hwind with
  | turned => exact h.turn
  | refused hplain => exact h.called (.finite (.message _)) rfl rfl ⟨rfl, rfl, rfl, rfl⟩ le_rfl
  | aborted task =>
      refine h.frame rfl rfl ⟨rfl, rfl, rfl, rfl⟩ ?_
      show (Table.modifyFirst _ _ core.tasks).length + _ ≤ _
      rw [Table.length_modifyFirst]
      exact le_rfl
  | _ => exact h.frame rfl rfl ⟨rfl, rfl, rfl, rfl⟩ le_rfl

theorem Still.exit {base core core' : Core} {stop : Stop} (h : Still base core)
    (hexit : Exit stop core core') : Still base core' := by
  cases hexit with
  | fault error => exact h
  | halted error core generation => exact h.frame rfl rfl ⟨rfl, rfl, rfl, rfl⟩ le_rfl
  | caught error => exact h.observed rfl
  | unwound panic => exact h.observed rfl

theorem winds_turn : Moves Wind turn := moves_step (fun _ => rfl) fun _ => .turned

theorem winds_nextWork : Moves Wind nextWork := moves_step (fun _ => rfl) fun _ => .counted

theorem winds_stopSource (source : ActiveSource) (work : TraceId) :
    Moves Wind (stopSource source false work) := by
  refine moves_bind ?_ fun stopped => moves_bind ?_ fun _ => moves_bind ?_ fun _ => ?_
  · refine moves_bind winds_turn fun _ => ?_
    intro core
    rw [Exec.run_bind_ok (EStateM.run_get core)]
    cases hgate : core.gates[source.stamp.generation]? with
    | none => exact ⟨.refl, trivial⟩
    | some gate => exact ⟨.single (.gateStopped hgate), trivial⟩
  · exact moves_bind winds_turn fun _ => moves_step (fun _ => rfl) fun _ => .aborted source.task
  · exact moves_step (fun _ => rfl) fun _ => .halted source.stamp.generation
  · cases stopped with
    | ok value => exact moves_pure ()
    | error reason => exact moves_fault _ _ _ _

theorem winds_deliverOutcome (effect : PendingEffect) (outcome : ErasedOutcome) :
    Moves Wind (deliverOutcome effect outcome) := by
  unfold deliverOutcome
  cases effect.mapper with
  | none => exact moves_pure ()
  | some mapper =>
      refine moves_bind winds_nextWork fun work => moves_bind (moves_caught _ _ _ _ _) fun message => ?_
      refine moves_bind (fun core => ?_) fun _ => moves_pure ()
      exact ⟨.tail (.single .turned) (.refused rfl), trivial⟩

theorem winds_taskFault (context : TaskContext) (panicked : Bool) (reason : String) :
    Moves Wind (taskFault context panicked reason) := by
  cases context with
  | effect id component descriptorType work => exact moves_fault _ _ _ _
  | source stamp descriptorType work =>
      exact moves_bind moves_get fun _ => moves_ite (moves_fault _ _ _ _) (moves_pure ())
  | timer component work => exact moves_fault _ _ _ _

theorem winds_joinTask (exit : TaskExit) : Moves Wind (joinTask exit) := by
  unfold joinTask
  cases exit.outcome with
  | returned => exact moves_pure _
  | cancelled => exact moves_pure _
  | failed reason => exact winds_taskFault _ _ _
  | panicked => exact winds_taskFault _ _ _
  | lost => exact moves_bind winds_nextWork fun _ => moves_fault _ _ _ _

end Live

end Samara
