/-
  Samara.Live.Rounds

  The loop of the owner, round by round, and a rule for what its deeds keep.

  `Rule` lets an invariant rely on what `Step` tells apart.  `Conduct` is the
  finer rule: one invariant holds from round to round until the owner is in
  Cancel or has failed, and a weaker one holds of whatever comes after that.
-/
import Samara.Live.Deeds
import Samara.Logic.Loop

namespace Samara

open Exec (Leads Triple bind_cut)
open Relation (ReflTransGen)

variable [RustTypes]

namespace Live

/-! ## Rounds -/

/-- How the loop of `run` is left. -/
inductive Finish where
  | cancel (first : Option LiveEvent)
  | drained

/-- One round of the loop of `run`. -/
def ownerRound : Owner (Option Finish) := do
  if ← isCancelling then pure (some (.cancel none))
  else do
    failing observeDrainCutoff
    if ← drainFinished then do
      modify fun core => { core with sources := [] }
      closeScope
      pure (some .drained)
    else do
      match ← tryJoinNext with
      | some exit => do
          failing (joinTask exit)
          pure none
      | none =>
          match ← tryRecv with
          | none => pure none
          | some event => do
              if ← isCancelling then pure (some (.cancel (some event)))
              else
                match event with
                | .shutdown .cancel => pure (some (.cancel none))
                | event => do
                    failing (dispatch event)
                    pure none

/-- What comes after the loop. -/
def Finish.rest (fuel : Nat) : Finish → Owner Unit
  | .cancel first => finishCancel fuel first
  | .drained => pure ()

/-- What comes after a round. -/
def afterRound (fuel : Nat) : Option Finish → Owner Unit
  | none => ownerLoop fuel
  | some finish => finish.rest fuel

theorem ownerLoop_succ (fuel : Nat) : ownerLoop (fuel + 1) = ownerRound >>= afterRound fuel := by
  have hagain (action : Owner Unit) : (do
      failing action
      ownerLoop fuel) = (do
        failing action
        pure none) >>= afterRound fuel := bind_cut fun _ => rfl
  -- Both sides take the same looks in the same order.
  refine bind_cut fun cancelling => ?_
  cases cancelling with
  | true => rfl
  | false =>
      refine bind_cut fun _ => bind_cut fun finished => ?_
      cases finished with
      | true => rfl
      | false =>
          refine bind_cut fun exit => ?_
          cases exit with
          | some exit => exact hagain _
          | none =>
              refine bind_cut fun event => ?_
              cases event with
              | none => rfl
              | some event =>
                  refine bind_cut fun cancelling => ?_
                  cases cancelling with
                  | true => rfl
                  | false =>
                      cases event with
                      | shutdown mode =>
                          cases mode with
                          | cancel => rfl
                          | drain => exact hagain _
                      | _ => exact hagain _

/-- The loop of `run` is a loop of such rounds. -/
theorem ownerLoop_eq (fuel : Nat) : ownerLoop fuel =
    Exec.loop .outOfFuel ownerRound fuel >>= fun result => result.1.rest result.2 := by
  induction fuel with
  | zero => rfl
  | succ fuel ih =>
      rw [ownerLoop_succ]
      unfold Exec.loop
      rw [bind_assoc]
      refine bind_congr fun finish => ?_
      cases finish with
      | none => exact ih
      | some finish => rfl

/-- What `run` does until its loop is left. -/
def runRounds (fuel : Nat) : Owner (Finish × Nat) := do
  if ← isCancelling then pure (.cancel none, fuel)
  else do
    failing initializeProgram
    Exec.loop .outOfFuel ownerRound fuel

theorem run_eq (fuel : Nat) :
    run fuel = runRounds fuel >>= fun result => result.1.rest result.2 := by
  refine bind_cut fun cancelling => ?_
  cases cancelling with
  | true => rfl
  | false => exact bind_cut fun _ => ownerLoop_eq fuel

/-- Nothing is left for the owner to wait for. -/
structure Core.Spent (core : Core) : Prop where
  draining : core.draining = true
  effects : core.effects = []
  requests : core.requests = []
  timers : core.timers = []
  channel : core.scope.channel = []
  tasks : core.tasks = []
  finished : core.finished = []

theorem drainFinished_spent {core core' : Core} (h : drainFinished.run core = .ok true core') :
    core' = core.turn ∧ core'.Spent := by
  have hrun : drainFinished.run core = .ok (core.turn.draining && core.turn.effects.isEmpty &&
      core.turn.requests.isEmpty && core.turn.timers.isEmpty && core.turn.scope.channel.isEmpty &&
      core.turn.tasks.isEmpty && core.turn.finished.isEmpty) core.turn := rfl
  rw [hrun] at h
  injection h with hvalue hcore
  subst hcore
  simp only [Bool.and_eq_true, List.isEmpty_iff] at hvalue
  obtain ⟨⟨⟨⟨⟨⟨hdraining, heffects⟩, hrequests⟩, htimers⟩, hchannel⟩, htasks⟩, hfinished⟩ := hvalue
  exact ⟨rfl, hdraining, heffects, hrequests, htimers, hchannel, htasks, hfinished⟩

/-! ## Whatever the owner does -/

/-- Every change that the owner ever makes to what it has in its hand and to its
    state, as far as it abates what is going on: a deed, a failure, a bit of the
    end, an event that is taken, settled or dropped, or a row that is dropped. -/
inductive Abates : Option LiveEvent × Core → Option LiveEvent × Core → Prop
  | deed {core core' : Core} (h : Deed core core') : Abates (none, core) (none, core')
  | failed {stop : Stop} {core core' : Core} (h : Failure stop core core') :
      Abates (none, core) (none, core')
  | ending {core core' : Core} (h : Ending core core') : Abates (none, core) (none, core')
  | halted (core : Core) (generation : Nat) :
      Abates (none, core) (none, core.halted generation false)
  | received {core : Core} {event : LiveEvent} {channel : List LiveEvent}
      (hchannel : core.scope.channel = event :: channel) : Abates (none, core)
        (some event, (core.withScope { core.scope with channel }).observed (.received event))
  | settled {core : Core} {id : Nat} {effect : PendingEffect} (outcome : ErasedOutcome)
      (heffect : core.effects.find? (·.id = id) = some effect) :
      Abates (some (.effectOutcome id outcome), core)
        (none, { core with effects := core.effects.eraseP (·.id = id) })
  /-- An event is dropped, with the completion it may hold. -/
  | dropped (event : LiveEvent) (core : Core) :
      Abates (some event, core) (none, core.discard event.completion?)
  | joined {core : Core} {exit : TaskExit} {finished : List TaskExit}
      (hfinished : core.finished = exit :: finished) :
      Abates (none, core) (none, { core with finished })
  | cleared (core : Core) : Abates (none, core) (none, { core with sources := [] })
  | called (core : Core) {call : ScopeCall} (hsilent : call.appends = []) :
      Abates (none, core) (none, core.withScope (core.scope.called call))

/-- From one state to another with nothing in hand. -/
def Abated (core core' : Core) : Prop := ReflTransGen Abates (none, core) (none, core')

/-- The state is never left but by changes that abate. -/
abbrev Abating {α : Type} (x : Owner α) : Prop := Leads Abated x

instance : IsPreorder Core Abated where
  refl _ := .refl
  trans _ _ _ := .trans

section Abating

theorem abated_of {R : Core → Core → Prop}
    (h : ∀ core core', R core core' → Abates (none, core) (none, core')) {core core' : Core}
    (hpath : ReflTransGen R core core') : Abated core core' :=
  ReflTransGen.lift (Prod.mk none) h _ _ hpath

theorem Does.abating {α : Type} {x : Owner α} (h : Does x) : Abating x := by
  intro core
  have hrun := h core
  cases hres : x.run core with
  | ok value core' =>
      rw [hres] at hrun
      exact abated_of (fun _ _ => .deed) hrun.1
  | error stop core' =>
      rw [hres] at hrun
      obtain ⟨reached, hpath, hfailure⟩ := hrun
      exact (abated_of (fun _ _ => .deed) hpath).tail (.failed hfailure)

/-- A computation that is one such change. -/
theorem abating_step {α : Type} {x : Owner α} {value : Core → α} {next : Core → Core}
    (hrun : ∀ core, x.run core = .ok (value core) (next core))
    (h : ∀ core, Abates (none, core) (none, next core)) : Abating x := by
  intro core
  rw [hrun core]
  exact .single (h core)

theorem abating_cleanupAbort : Abating cleanupAbort :=
  fun core => abated_of (fun _ _ => .ending) (cleanupAbort_path core)

/-- A call of the scope that appends nothing. -/
theorem abating_called {call : ScopeCall} (hsilent : call.appends = []) : Abating (do
    turn
    modify fun core => core.withScope (core.scope.called call)) :=
  Exec.leads_bind (Does.abating does_turn) fun _ =>
    abating_step (fun _ => rfl) fun core => .called core hsilent

/-- The clean-up after an action leaves nothing in hand that the action has left. -/
theorem abated_failing {hand : Option LiveEvent} {action : Owner Unit} {core : Core}
    (h : ReflTransGen Abates (hand, core) (none, Exec.final (action.run core))) :
    ReflTransGen Abates (hand, core) (none, Exec.final ((failing action).run core)) := by
  have hunfold : (failing action).run core = failing action core := rfl
  rw [hunfold]
  unfold failing
  cases hres : action.run core with
  | ok value core₁ =>
      rw [hres] at h
      exact h
  | error stop core₁ =>
      rw [hres] at h
      cases stop with
      | outOfFuel | joining => exact h
      | panicked panic => exact h
      | error error =>
          have hend : Abating (do
              faultScope error
              cleanupAbort
              throw (.error error) : Owner Unit) :=
            Exec.leads_bind (abating_called rfl) fun _ =>
              Exec.leads_bind abating_cleanupAbort fun _ => Exec.leads_throw _
          exact h.trans (hend core₁)

theorem abating_failing {action : Owner Unit} (h : Abating action) : Abating (failing action) :=
  fun core => abated_failing (h core)

theorem abated_retain (event : LiveEvent) (core : Core) : ReflTransGen Abates (some event, core)
    (none, Exec.final ((retainPreCancelEffectOutcome event).run core)) := by
  cases event with
  | effectOutcome id outcome =>
      show ReflTransGen Abates _ (none, Exec.final ((processEffect id outcome).run core))
      cases hfound : core.effects.find? (·.id = id) with
      | none =>
          rw [processEffect_none hfound]
          exact .single (.dropped _ core)
      | some effect =>
          rw [processEffect_some hfound]
          exact (ReflTransGen.single (.settled outcome hfound)).trans
            ((does_deliverOutcome effect outcome).abating _)
  | _ => exact .single (.dropped _ core)

theorem abating_tryJoinNext : Abating tryJoinNext := by
  refine Exec.leads_bind (Does.abating does_turn) fun _ => Exec.leads_get fun core => ?_
  cases hfinished : core.finished with
  | nil => exact .refl
  | cons exit finished => exact .single (.joined hfinished)

theorem abated_bind {α β : Type} {hand : Option LiveEvent} {core : Core} {x : Owner α}
    {f : α → Owner β} (hx : ReflTransGen Abates (hand, core) (none, Exec.final (x.run core)))
    (hf : ∀ value, Abating (f value)) :
    ReflTransGen Abates (hand, core) (none, Exec.final ((x >>= f).run core)) := by
  rw [EStateM.run_bind]
  cases hres : x.run core with
  | ok value core' =>
      rw [hres] at hx
      exact hx.trans (hf value core')
  | error stop core' =>
      rw [hres] at hx
      exact hx

/-- What `try_recv` returns, after what has happened before it. -/
theorem tryRecv_run (core : Core) :
    (core.turn.scope.channel = [] ∧ tryRecv.run core = .ok none core.turn) ∨
      ∃ event channel, core.turn.scope.channel = event :: channel ∧
        tryRecv.run core = .ok (some event)
          ((core.turn.withScope { core.turn.scope with channel }).observed (.received event)) := by
  unfold tryRecv
  rw [Exec.run_bind_ok (show turn.run core = .ok () core.turn from rfl),
    Exec.run_bind_ok (EStateM.run_get core.turn)]
  cases hchannel : core.turn.scope.channel with
  | nil => exact .inl ⟨rfl, rfl⟩
  | cons event channel => exact .inr ⟨event, channel, rfl, rfl⟩

/-- What is taken off the channel is dropped or settled at once. -/
theorem abating_retainQueued (fuel : Nat) : Abating (retainQueued fuel) := by
  induction fuel with
  | zero => exact Exec.leads_throw _
  | succ fuel ih =>
      intro core
      unfold retainQueued
      refine ReflTransGen.head (.deed .turned) ?_
      rcases tryRecv_run core with ⟨_, hrun⟩ | ⟨event, channel, hchannel, hrun⟩
      · rw [Exec.run_bind_ok hrun]
        exact .refl
      · rw [Exec.run_bind_ok hrun]
        refine ReflTransGen.head (.received hchannel) ?_
        exact abated_bind (abated_failing (abated_retain event _)) fun _ => ih

theorem abating_joinFinished (fuel : Nat) : Abating (joinFinished fuel) := by
  induction fuel with
  | zero => exact Exec.leads_throw _
  | succ fuel ih =>
      refine Exec.leads_bind abating_tryJoinNext fun exit => ?_
      cases exit with
      | none => exact Exec.leads_pure ()
      | some exit =>
          exact Exec.leads_bind (abating_failing (does_joinTask exit).abating) fun _ => ih

theorem abating_stopSource (source : ActiveSource) (work : TraceId) :
    Abating (stopSource source false work) := by
  intro core
  obtain ⟨reached, hpath, _, hok | ⟨error, herror⟩⟩ := stopSource_deeds source false work core
  · rw [hok]
    exact (abated_of (fun _ _ => .deed) hpath).tail (.halted _ _)
  · rw [herror]
    exact (abated_of (fun _ _ => .deed) hpath).tail (.halted _ _)

theorem abating_stopSourcesForCancel (sources : List ActiveSource) :
    Abating (stopSourcesForCancel sources) := by
  induction sources with
  | nil => exact Exec.leads_pure ()
  | cons source sources ih =>
      exact Exec.leads_bind does_nextWork.abating fun work =>
        Exec.leads_bind (abating_failing (abating_stopSource source work)) fun _ => ih

theorem abated_finishCancel (fuel : Nat) (first : Option LiveEvent) (core : Core) :
    ReflTransGen Abates (first, core) (none, Exec.final ((finishCancel fuel first).run core)) := by
  have hrest : Abating (do
      retainQueued fuel
      joinFinished fuel
      let core ← get
      stopSourcesForCancel core.sources
      cleanupAbort
      closeScope) := by
    refine Exec.leads_bind (abating_retainQueued fuel) fun _ => ?_
    refine Exec.leads_bind (abating_joinFinished fuel) fun _ => Exec.leads_get fun core => ?_
    refine Exec.leads_bind (abating_stopSourcesForCancel _) (fun _ => ?_) core
    exact Exec.leads_bind abating_cleanupAbort fun _ => abating_called rfl
  cases first with
  | none => exact hrest core
  | some event => exact abated_bind (abated_failing (abated_retain event core)) fun _ => hrest

theorem Failure.scope {stop : Stop} {core core' : Core} (h : Failure stop core core') :
    core'.scope = core.scope := by
  cases h with
  | mistyped => exact discard_scope _ _
  | _ => rfl

/-- What has been accepted stays accepted, whatever the owner does. -/
theorem sent_of_abates {hand hand' : Option LiveEvent} {core core' : Core}
    (h : ReflTransGen Abates (hand, core) (hand', core')) : core.scope.sent <+: core'.scope.sent := by
  refine Exec.path_relates
    (R := fun holding holding' : Option LiveEvent × Core =>
      holding.2.scope.sent <+: holding'.2.scope.sent)
    (fun _ => List.prefix_rfl) (fun _ _ _ hfirst hlast => hfirst.trans hlast) ?_ h
  rintro _ _ habates
  cases habates with
  | deed hdeed => exact sent_of_beats hdeed.beats
  | failed hfailure =>
      exact ⟨[], (List.append_nil _).trans (congrArg Scope.sent hfailure.scope.symm)⟩
  | ending hending => exact sent_of_beats hending.beats
  | dropped event core =>
      exact ⟨[], (List.append_nil _).trans (congrArg Scope.sent (discard_scope core _).symm)⟩
  | @called core call _ =>
      rcases core.scope.called_appends call with ⟨_, _, hsent⟩ | ⟨_, _, hsent⟩
      · exact ⟨call.appends, hsent.symm⟩
      · exact ⟨[], (List.append_nil _).trans hsent.symm⟩
  | _ => exact List.prefix_rfl

end Abating

/-! ## The scope of a running owner -/

/-- The owner has its receiver, and a cutoff has its marker.  Nothing is accepted
    after that of a Cancel. -/
structure Scope.Open (scope : Scope) : Prop where
  connected : scope.connected = true
  announced : ∀ mode, scope.phase = shutdownPhase mode ↔ .shutdown mode ∈ scope.sent
  last : scope.phase = .cancelling → ∃ earlier, scope.sent = earlier ++ [.shutdown .cancel]

namespace Scope.Open

theorem new : Scope.new.Open := by
  refine ⟨rfl, fun mode => ⟨fun h => ?_, nofun⟩, nofun⟩
  cases mode <;> cases h

theorem called_connected (scope : Scope) (call : ScopeCall) :
    (scope.called call).connected = scope.connected := by
  obtain ⟨phase, connected, channel, log⟩ := scope
  cases call with
  | shutdown mode => cases phase <;> cases connected <;> rfl
  | fault error => cases phase <;> rfl
  | close => rfl
  | _ => cases phase <;> cases connected <;> rfl

/-- A call begins a cutoff, with its marker, or it leaves the phase as it is and
    appends no marker; in Cancel it appends nothing. -/
theorem called_cases {scope : Scope} {call : ScopeCall} (hcall : call.Ordinary)
    (hconnected : scope.connected = true) :
    (∃ mode, (scope.called call).phase = shutdownPhase mode ∧ scope.phase = .running ∧
        (scope.called call).sent = scope.sent ++ [.shutdown mode]) ∨
      (scope.called call).phase = scope.phase ∧ ∃ events,
        (scope.called call).sent = scope.sent ++ events ∧
        (∀ event ∈ events, event.isMarker = false) ∧ (scope.phase = .cancelling → events = []) := by
  obtain ⟨phase, connected, channel, log⟩ := scope
  cases hconnected
  have hplain {event : LiveEvent} (haccepts : call.accepts = some event) :
      ∀ other ∈ [event], other.isMarker = false := by
    intro other hother
    rw [List.mem_singleton.mp hother]
    exact (hcall.legal phase).isMarker haccepts
  rcases called_appends ⟨phase, true, channel, log⟩ call with
    ⟨hok, _, hsent⟩ | ⟨⟨error, hrefused⟩, _, hsent⟩
  · cases call with
    | ingress event =>
        refine .inr ⟨by cases phase <;> rfl, [event], hsent, hplain rfl, fun hphase => ?_⟩
        cases hphase
        cases hok
    | source event =>
        refine .inr ⟨by cases phase <;> rfl, [event], hsent, hplain rfl, fun hphase => ?_⟩
        cases hphase
        cases hok
    | finite event =>
        refine .inr ⟨by cases phase <;> rfl, [event], hsent, hplain rfl, fun hphase => ?_⟩
        cases hphase
        cases hok
    | shutdown mode =>
        cases phase with
        | running => exact .inl ⟨mode, rfl, rfl, hsent⟩
        | _ => cases hok
    | fault error => cases hcall
    | close => cases hcall
  · refine .inr ⟨?_, [], hsent.trans (List.append_nil _).symm, nofun, fun _ => rfl⟩
    cases call with
    | shutdown mode =>
        cases phase with
        | running => cases hrefused
        | _ => rfl
    | fault error => cases hcall
    | close => cases hcall
    | _ => cases phase <;> rfl

omit [RustTypes] in
theorem shutdownPhase_inj {mode mode' : Shutdown} (h : shutdownPhase mode = shutdownPhase mode') :
    mode = mode' := by
  cases mode <;> cases mode' <;> first | rfl | cases h

theorem beat {scope scope' : Scope} (h : scope.Open) (hbeat : Beat scope scope') : scope'.Open := by
  cases hbeat with
  | @called call hcall =>
      have hconnected := (called_connected scope call).trans h.connected
      rcases called_cases hcall h.connected with
        ⟨begun, hphase, hrunning, hsent⟩ | ⟨hphase, events, hsent, hplain, hnone⟩
      · refine ⟨hconnected, fun mode => ?_, fun hafter => ⟨scope.sent, ?_⟩⟩
        · have hbefore : .shutdown mode ∉ scope.sent := by
            intro hmem
            rw [← h.announced mode, hrunning] at hmem
            cases mode <;> cases hmem
          rw [hphase, hsent, List.mem_append, List.mem_singleton]
          constructor
          · intro hmode
            rw [shutdownPhase_inj hmode]
            exact .inr rfl
          · rintro (hmem | hmem)
            · exact absurd hmem hbefore
            · cases hmem
              rfl
        · rw [hsent, @shutdownPhase_inj begun .cancel (hphase.symm.trans hafter)]
      · refine ⟨hconnected, fun mode => ?_, fun hafter => ?_⟩
        · rw [hphase, hsent, h.announced mode, List.mem_append]
          constructor
          · exact .inl
          · rintro (hmem | hmem)
            · exact hmem
            · cases hplain _ hmem
        · rw [hphase] at hafter
          rw [hsent, hnone hafter, List.append_nil]
          exact h.last hafter
  | taken hsublist => exact ⟨h.connected, h.announced, h.last⟩

theorem beats {core core' : Core} (h : core.scope.Open) (hbeats : Beats core core') :
    core'.scope.Open :=
  @Exec.path_preserves _ Scope.Beat Scope.Open (fun _ _ hopen hbeat => hopen.beat hbeat) _ _ hbeats h

end Scope.Open

/-! ## The rule -/

/-- `scope.fault(error)`, then `cleanup_abort`, then `return Err(error)`, where an
    action has failed. -/
theorem failing_triple {P : Core → Prop} {action : Owner Unit} {Q : Unit → Core → Prop}
    {E : Stop → Core → Prop} (haction : Triple P action Q E)
    (hend : ∀ error, Triple (E (.error error)) (do
      faultScope error
      cleanupAbort
      throw (.error error) : Owner Unit) Q E) : Triple P (failing action) Q E := by
  intro core hcore
  have hrun := haction core hcore
  have hunfold : (failing action).run core = failing action core := rfl
  rw [hunfold]
  unfold failing
  cases hres : action.run core with
  | ok value core₁ =>
      rw [hres] at hrun
      exact hrun
  | error stop core₁ =>
      rw [hres] at hrun
      cases stop with
      | outOfFuel | joining => exact hrun
      | panicked panic => exact hrun
      | error error => exact hend error core₁ hrun

/-- `I` holds while the owner runs and is not in Cancel, with the event it has
    off the channel; `L` holds in every state. -/
structure Conduct (I L : Option LiveEvent → Core → Prop) : Prop where
  lasts : ∀ {hand core}, Base hand core → I hand core → L hand core
  abates : ∀ {hand hand' core core'}, L hand core → Abates (hand, core) (hand', core') →
    L hand' core'
  deed : ∀ {hand core core'}, Base hand core → I hand core → Deed core core' → I hand core'
  received : ∀ {core event channel}, Base none core → I none core →
    core.scope.channel = event :: channel →
      I (some event) ((core.withScope { core.scope with channel }).observed (.received event))
  joined : ∀ {core exit finished}, Base none core → I none core →
    core.finished = exit :: finished → I none { core with finished }
  dispatched : ∀ event, event ≠ .shutdown .cancel →
    Triple (fun core => Base (some event) core ∧ core.scope.Open ∧ I (some event) core)
      (dispatch event) (fun _ => I none) (fun stop core => L none core ∧ stop ≠ .outOfFuel)

namespace Conduct

variable {I L : Option LiveEvent → Core → Prop}

/-- What holds while the owner runs. -/
structure Held (I : Option LiveEvent → Core → Prop) (hand : Option LiveEvent) (core : Core) :
    Prop where
  base : Base hand core
  opened : core.scope.Open
  inv : I hand core

/-- What holds where a computation has failed. -/
def Fails (L : Option LiveEvent → Core → Prop) (stop : Stop) (core : Core) : Prop :=
  L none core ∧ stop ≠ .outOfFuel

/-- What is left of what the owner has in its hand when it turns to Cancel. -/
inductive Lays : Option LiveEvent → Option LiveEvent → Prop
  | holds (hand : Option LiveEvent) : Lays hand hand
  | marker : Lays (some (.shutdown .cancel)) none

/-- What holds when the owner turns to Cancel. -/
def Cancelled (I : Option LiveEvent → Core → Prop) (first : Option LiveEvent) (core : Core) : Prop :=
  ∃ hand, Lays hand first ∧ Held I hand core ∧ core.scope.phase = .cancelling

/-- What holds when the owner has drained. -/
def Drained (I : Option LiveEvent → Core → Prop) (core : Core) : Prop :=
  ∃ reached, Held I none reached ∧ reached.Spent ∧
    core = ({ reached with sources := [] } : Core).closed

/-- How the loop leaves the owner. -/
def Comes (I L : Option LiveEvent → Core → Prop) : Finish → Core → Prop
  | .cancel first, core => Cancelled I first core
  | .drained, core => L none core ∧ Drained I core

variable {hand : Option LiveEvent} {core core' : Core}

theorem Held.deed (h : Conduct I L) (hheld : Held I hand core) (hdeed : Deed core core') :
    Held I hand core' :=
  ⟨hheld.base.deed hdeed, hheld.opened.beats hdeed.beats, h.deed hheld.base hheld.inv hdeed⟩

theorem Held.lasts (h : Conduct I L) (hheld : Held I hand core) : L hand core :=
  h.lasts hheld.base hheld.inv

theorem path (h : Conduct I L) {hand' : Option LiveEvent} (hL : L hand core)
    (hpath : ReflTransGen Abates (hand, core) (hand', core')) : L hand' core' :=
  @Exec.path_preserves _ _ (fun holding : Option LiveEvent × Core => L holding.1 holding.2)
    (fun _ _ hL habates => h.abates hL habates) _ _ hpath hL

theorem does (h : Conduct I L) {α : Type} {x : Owner α} (hx : Does x) :
    Triple (Held I none) x (fun _ => Held I none) (Fails L) :=
  hx.triple (fun _ _ hheld hdeed => hheld.deed h hdeed)
    fun _ _ _ hheld hfailure =>
      ⟨h.abates (hheld.lasts h) (.failed hfailure), hfailure.ne_outOfFuel⟩

theorem failing (h : Conduct I L) {P : Core → Prop} {action : Owner Unit} {Q : Unit → Core → Prop}
    (haction : Triple P action Q (Fails L)) : Triple P (Live.failing action) Q (Fails L) := by
  refine failing_triple haction fun error => ?_
  refine Exec.triple_bind (Q := fun _ => L none) ?_ fun _ =>
    Exec.triple_bind (Q := fun _ => L none) ?_ fun _ =>
      Exec.triple_throw fun _ hL => ⟨hL, by simp⟩
  · exact fun core hfails => h.path hfails.1 (@abating_called _ (.fault error) rfl core)
  · intro core hL
    have hend := h.path hL (abating_cleanupAbort core)
    obtain ⟨core', _, ⟨hcleanup, _⟩ | ⟨hcleanup, _⟩⟩ := cleanupAbort_run core
    · rw [hcleanup] at hend ⊢
      exact hend
    · rw [hcleanup] at hend ⊢
      exact ⟨hend, by simp⟩

/-- `is_cancelling`, with what it says. -/
theorem isCancelling_triple (h : Conduct I L) :
    Triple (Held I hand) isCancelling
      (fun cancelling core => Held I hand core ∧ (cancelling = true ↔ core.scope.phase = .cancelling))
      (Fails L) :=
  fun _ hheld => ⟨hheld.deed h .turned, decide_eq_true_iff⟩

theorem tryJoinNext_triple (h : Conduct I L) :
    Triple (Held I none) tryJoinNext (fun _ => Held I none) (Fails L) := by
  intro core hheld
  have hturned := hheld.deed h .turned
  unfold tryJoinNext
  rw [Exec.run_bind_ok (show turn.run core = .ok () core.turn from rfl),
    Exec.run_bind_ok (EStateM.run_get core.turn)]
  cases hfinished : core.turn.finished with
  | nil => exact hturned
  | cons exit finished =>
      refine ⟨?_, hturned.opened, h.joined hturned.base hturned.inv hfinished⟩
      exact ⟨hturned.base.alive, hturned.base.draining, hturned.base.marker⟩

theorem tryRecv_triple (h : Conduct I L) :
    Triple (Held I none) tryRecv (fun event => Held I event) (Fails L) := by
  intro core hheld
  have hturned := hheld.deed h .turned
  rcases tryRecv_run core with ⟨_, hrun⟩ | ⟨event, channel, hchannel, hrun⟩
  · rw [hrun]
    exact hturned
  · rw [hrun]
    exact ⟨hturned.base.taken hchannel, ⟨hturned.opened.connected, hturned.opened.announced, hturned.opened.last⟩,
      h.received hturned.base hturned.inv hchannel⟩

theorem dispatch_triple (h : Conduct I L) {event : LiveEvent} (hevent : event ≠ .shutdown .cancel) :
    Triple (Held I (some event)) (dispatch event) (fun _ => Held I none) (Fails L) := by
  have hbase : Triple (fun core => Base (some event) core ∧ core.scope.Open) (dispatch event)
      (fun _ core => Base (some event) core ∧ core.scope.Open) (fun _ _ => True) :=
    Exec.triple_of_follows (fun core hcore => dispatch_follows hevent hcore.1)
      (fun _ _ hcore hadvance => ⟨hcore.1.advance hadvance, hcore.2.beats hadvance.beats⟩)
      fun _ _ _ _ _ => trivial
  refine Exec.triple_conseq (Exec.triple_and hbase (h.dispatched event hevent)) ?_ ?_ ?_
  · exact fun core hheld => ⟨⟨hheld.base, hheld.opened⟩, hheld.base, hheld.opened, hheld.inv⟩
  · exact fun _ core hboth => ⟨hboth.1.1.rest, hboth.1.2, hboth.2⟩
  · exact fun _ core hboth => hboth.2

theorem Cancelled.lasts (h : Conduct I L) {first : Option LiveEvent}
    (hcancelled : Cancelled I first core) : L first core := by
  obtain ⟨hand, hlays, hheld, _⟩ := hcancelled
  cases hlays with
  | holds hand => exact hheld.lasts h
  | marker => exact h.abates (hheld.lasts h) (.dropped (.shutdown .cancel) core)

/-- A round leaves the owner to the next one, to Cancel, or at its end. -/
theorem ownerRound_triple (h : Conduct I L) :
    Triple (Held I none) ownerRound (Exec.After (Held I none) (Comes I L)) (Fails L) := by
  have hagain {hand : Option LiveEvent} {action : Owner Unit}
      (haction : Triple (Held I hand) action (fun _ => Held I none) (Fails L)) :
      Triple (Held I hand) (do
        Live.failing action
        pure none) (Exec.After (Held I none) (Comes I L)) (Fails L) :=
    Exec.triple_bind (h.failing haction) fun _ => Exec.triple_pure fun _ hheld => hheld
  refine Exec.triple_bind h.isCancelling_triple fun cancelling => ?_
  refine Exec.triple_ite (fun hcancelling => ?_) fun _ => ?_
  · exact Exec.triple_pure fun core hcore => ⟨none, .holds none, hcore.1, hcore.2.mp hcancelling⟩
  · refine Exec.triple_bind (Exec.triple_conseq (h.failing (h.does does_observeDrainCutoff))
      (fun _ hcore => hcore.1) (fun _ _ hheld => hheld) fun _ _ hL => hL) fun _ => ?_
    have hfinish : Triple (Held I none) drainFinished
        (fun finished core => Held I none core ∧ (finished = true → core.Spent)) (Fails L) := by
      intro core hheld
      refine ⟨hheld.deed h .turned, fun hfinished => ?_⟩
      exact (@drainFinished_spent _ core _ (congrArg (EStateM.Result.ok · core.turn) hfinished)).2
    refine Exec.triple_bind hfinish fun finished => Exec.triple_ite (fun hfinished => ?_) fun _ => ?_
    · -- Drain is over: the rows go, and the scope is closed.
      rintro core ⟨hheld, hspent⟩
      refine ⟨?_, core, hheld, hspent hfinished, rfl⟩
      exact h.path (h.abates (hheld.lasts h) (.cleared core)) (@abating_called _ .close rfl _)
    · -- A task that has ended goes before an event.
      refine Exec.triple_conseq (P := Held I none) ?_ (fun _ hcore => hcore.1)
        (fun _ _ hcomes => hcomes) fun _ _ hL => hL
      refine Exec.triple_bind h.tryJoinNext_triple fun exit => ?_
      cases exit with
      | some exit => exact hagain (h.does (does_joinTask exit))
      | none =>
          refine Exec.triple_bind h.tryRecv_triple fun event => ?_
          cases event with
          | none => exact Exec.triple_pure fun _ hheld => hheld
          | some event =>
              refine Exec.triple_bind h.isCancelling_triple fun cancelling => ?_
              refine Exec.triple_ite (fun hcancelling => ?_) fun _ => ?_
              · exact Exec.triple_pure fun core hcore =>
                  ⟨some event, .holds _, hcore.1, hcore.2.mp hcancelling⟩
              · have hdispatch (hevent : event ≠ .shutdown .cancel) :
                    Triple (fun core => Held I (some event) core ∧
                        (cancelling = true ↔ core.scope.phase = .cancelling)) (do
                      Live.failing (dispatch event)
                      pure none) (Exec.After (Held I none) (Comes I L)) (Fails L) :=
                  Exec.triple_conseq (hagain (h.dispatch_triple hevent))
                    (fun _ hcore => hcore.1) (fun _ _ hcomes => hcomes) fun _ _ hL => hL
                cases event with
                | shutdown mode =>
                    cases mode with
                    | cancel =>
                        exact Exec.triple_pure fun core hcore =>
                          ⟨_, .marker, hcore.1, hcore.1.base.marker .cancel rfl⟩
                    | drain => exact hdispatch (by simp)
                | _ => exact hdispatch (by simp)

/-- How a run leaves the owner: still running or in Cancel, done in either way, or
    failed. -/
structure Ends (I L : Option LiveEvent → Core → Prop) (result : Except Stop Unit) (core : Core) :
    Prop where
  lasts : L none core
  running : result = .error .outOfFuel → Held I none core ∨ .shutdown .cancel ∈ core.scope.sent
  done : result = .ok () → Drained I core ∨ ∃ fuel first reached,
    Cancelled I first reached ∧ (finishCancel fuel first).run reached = .ok () core

/-- What Cancel has been called on has its marker to the end. -/
theorem Cancelled.announced {first : Option LiveEvent} (hcancelled : Cancelled I first core)
    (fuel : Nat) :
    .shutdown .cancel ∈ (Exec.final ((finishCancel fuel first).run core)).scope.sent := by
  obtain ⟨hand, _, hheld, hphase⟩ := hcancelled
  exact (sent_of_abates (abated_finishCancel fuel first core)).subset
    ((hheld.opened.announced .cancel).mp hphase)

/-- Nobody has cancelled the run. -/
theorem Ends.undisturbed {result : Except Stop Unit} (hends : Ends I L result core)
    (hcancel : .shutdown .cancel ∉ core.scope.sent) :
    (result = .error .outOfFuel → Held I none core) ∧ (result = .ok () → Drained I core) := by
  refine ⟨fun hresult => (hends.running hresult).resolve_right hcancel, fun hresult => ?_⟩
  rcases hends.done hresult with hdrained | ⟨fuel, first, reached, hcancelled, hrun⟩
  · exact hdrained
  · have hannounced := hcancelled.announced fuel
    rw [hrun] at hannounced
    exact absurd hannounced hcancel

theorem finishCancel_triple (h : Conduct I L) (fuel : Nat) (first : Option LiveEvent) :
    Triple (Cancelled I first) (finishCancel fuel first) (fun _ => Ends I L (.ok ()))
      (fun stop => Ends I L (.error stop)) := by
  intro core hcancelled
  have hlater := h.path (hcancelled.lasts h) (abated_finishCancel fuel first core)
  have hstill := hcancelled.announced fuel
  cases hres : (finishCancel fuel first).run core with
  | ok value core' =>
      rw [hres] at hlater
      exact ⟨hlater, nofun, fun _ => .inr ⟨fuel, first, core, hcancelled, hres⟩⟩
  | error stop core' =>
      rw [hres] at hlater hstill
      exact ⟨hlater, fun _ => .inr hstill, nofun⟩

theorem Fails.ends {stop : Stop} (hfails : Fails L stop core) : Ends I L (.error stop) core :=
  ⟨hfails.1, fun hstop => absurd (by injection hstop) hfails.2, nofun⟩

/-- The loop of `run` is left to Cancel, or at its end. -/
theorem runRounds_triple (h : Conduct I L) (fuel : Nat) :
    Triple (Held I none) (runRounds fuel) (fun result => Comes I L result.1)
      (fun stop => Ends I L (.error stop)) := by
  refine Exec.triple_bind (Exec.triple_conseq h.isCancelling_triple (fun _ hheld => hheld)
    (fun _ _ hcore => hcore) fun _ _ hfails => hfails.ends) fun cancelling => ?_
  refine Exec.triple_ite (fun hcancelling => ?_) fun _ => ?_
  · exact Exec.triple_pure fun core hcore => ⟨none, .holds none, hcore.1, hcore.2.mp hcancelling⟩
  · refine Exec.triple_bind (Exec.triple_conseq (h.failing (h.does does_initializeProgram))
      (fun _ hcore => hcore.1) (fun _ _ hheld => hheld) fun _ _ hfails => hfails.ends) fun _ => ?_
    refine Exec.triple_loop (Exec.triple_conseq h.ownerRound_triple
      (fun _ hheld => hheld) (fun _ _ hafter => hafter) fun _ _ hfails => hfails.ends) ?_ fuel
    exact fun core hheld => ⟨hheld.lasts h, fun _ => .inl hheld, nofun⟩

theorem Held.fresh {program : Program} {bindings : Bindings} {schedule : List (List Activity)}
    (hI : I none (Core.fresh program bindings schedule)) :
    Held I none (Core.fresh program bindings schedule) :=
  ⟨.fresh program bindings schedule, .new, hI⟩

/-- What the rule says of a whole run. -/
theorem launch (h : Conduct I L) {program : Program} {bindings : Bindings}
    {schedule : List (List Activity)} (hI : I none (Core.fresh program bindings schedule))
    (fuel : Nat) : Ends I L (outcome (Live.launch program bindings schedule fuel))
      (Exec.final (Live.launch program bindings schedule fuel)) := by
  have hrun : Triple (Held I none) (run fuel) (fun _ => Ends I L (.ok ()))
      (fun stop => Ends I L (.error stop)) := by
    rw [run_eq]
    refine Exec.triple_bind (h.runRounds_triple fuel) fun result => ?_
    cases result.1 with
    | cancel first => exact h.finishCancel_triple result.2 first
    | drained =>
        exact Exec.triple_pure fun core hcomes => ⟨hcomes.1, nofun, fun _ => .inl hcomes.2⟩
  have hlaunch := hrun (Core.fresh program bindings schedule) (.fresh hI)
  unfold Live.launch
  cases hres : (run fuel).run (Core.fresh program bindings schedule) with
  | ok value core =>
      rw [hres] at hlaunch
      exact hlaunch
  | error stop core =>
      rw [hres] at hlaunch
      exact hlaunch

end Conduct

/-! ## Invariants of the tables -/

/-- `P` outlasts deeds and failures, transitions that begin and rows that are
    settled. -/
structure Upkeep (P : Core → Prop) : Prop where
  deed : ∀ {core core'}, P core → Deed core core' → P core'
  failed : ∀ {stop core core'}, P core → Failure stop core core' → P core'
  begun : ∀ {core} message, P core → P (core.observed (.transition message))
  settled : ∀ {core} effects timers, P core → P { core with effects, timers }

namespace Upkeep

variable {P : Core → Prop}

theorem does (h : Upkeep P) {α : Type} {x : Owner α} (hx : Does x) :
    Triple P x (fun _ => P) (Conduct.Fails fun _ => P) :=
  hx.triple (fun _ _ hP hdeed => h.deed hP hdeed)
    fun _ _ _ hP hfailure => ⟨h.failed hP hfailure, hfailure.ne_outOfFuel⟩

theorem deliverMessage_triple (h : Upkeep P) (message : QueuedMessage) :
    Triple P (deliverMessage message) (fun _ => P) (Conduct.Fails fun _ => P) := by
  refine Exec.triple_bind (h.does does_nextWork) fun work => ?_
  intro core hP
  rw [Exec.run_bind_ok (EStateM.run_get core)]
  cases core.program.component? message.target message.targetMessageType with
  | none => exact ⟨hP, by simp⟩
  | some kernel => exact h.does (does_transition message work kernel) _ (h.begun message hP)

theorem processMessage_triple (h : Upkeep P) (message : QueuedMessage) :
    Triple P (processMessage message) (fun _ => P) (Conduct.Fails fun _ => P) := by
  intro core hP
  unfold processMessage
  rw [Exec.run_bind_ok (EStateM.run_get core)]
  cases message.source with
  | none => exact h.deliverMessage_triple message core hP
  | some stamp =>
      exact Exec.triple_ite (fun _ => h.deliverMessage_triple message)
        (fun _ => Exec.triple_pure fun _ hP => hP) core hP

theorem processEffect_triple (h : Upkeep P) (id : Nat) (outcome : ErasedOutcome) :
    Triple P (processEffect id outcome) (fun _ => P) (Conduct.Fails fun _ => P) := by
  intro core hP
  cases hfound : core.effects.find? (·.id = id) with
  | none =>
      rw [processEffect_none hfound]
      exact hP
  | some effect =>
      rw [processEffect_some hfound]
      exact h.does (does_deliverOutcome effect outcome) _ (h.settled _ _ hP)

theorem processTimer_triple (h : Upkeep P) (timer : Nat) (message : QueuedMessage) :
    Triple P (processTimer timer message) (fun _ => P) (Conduct.Fails fun _ => P) := by
  intro core hP
  cases hfound : core.timers.find? (·.id = timer) with
  | none =>
      rw [processTimer_none hfound]
      exact hP
  | some row =>
      rw [processTimer_some hfound]
      exact h.processMessage_triple message _ (h.settled _ _ hP)

/-- Every event but a request of the host and a Cancel marker. -/
theorem dispatch_triple (h : Upkeep P) {event : LiveEvent} (hevent : event ≠ .shutdown .cancel)
    (hrequest : ∀ ingress, event ≠ .portIngress (.request ingress)) :
    Triple (fun core => Base (some event) core ∧ P core) (dispatch event) (fun _ => P)
      (Conduct.Fails fun _ => P) := by
  have hinner {x : Owner Unit} (hx : Triple P x (fun _ => P) (Conduct.Fails fun _ => P)) :
      Triple (fun core => Base (some event) core ∧ P core) x (fun _ => P)
        (Conduct.Fails fun _ => P) :=
    Exec.triple_conseq hx (fun _ hcore => hcore.2) (fun _ _ hP => hP) fun _ _ hP => hP
  cases event with
  | message message => exact hinner (h.processMessage_triple message)
  | portIngress ingress =>
      cases ingress with
      | notification ingress => exact hinner (h.does (does_processPortNotification ingress))
      | request ingress => exact absurd rfl (hrequest ingress)
  | sourceEvent stamp terminalType event =>
      exact hinner (h.does (does_processSourceEvent stamp terminalType event))
  | effectOutcome id outcome => exact hinner (h.processEffect_triple id outcome)
  | timerFired timer message => exact hinner (h.processTimer_triple timer message)
  | shutdown mode =>
      cases mode with
      | cancel => exact absurd rfl hevent
      | drain =>
          exact Exec.triple_conseq (Exec.triple_of_follows
            (fun core hcore => beginDrain_deeds (hcore.1.marker .drain rfl))
            (fun core core' (hcore : Base (some (.shutdown .drain)) core ∧ P core) hdeed =>
              ⟨hcore.1.deed hdeed, h.deed hcore.2 hdeed⟩)
            fun _ _ _ hcore hfailure =>
              ⟨h.failed hcore.2 hfailure, hfailure.ne_outOfFuel⟩)
            (fun _ hcore => hcore) (fun _ _ hcore => hcore.2) fun _ _ hP => hP

end Upkeep

end Live

end Samara
