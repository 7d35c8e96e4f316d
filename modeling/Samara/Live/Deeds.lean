/-
  Samara.Live.Deeds

  What the owner of a live runtime does to its private tables, deed by deed.

  `Step` tells the changes of shared state apart and lumps the private tables
  together.  A `Deed` says which row enters which table, and under which
  number; every computation of the owner follows deeds as long as the event in
  its hand is not what the deed is about.
-/
import Samara.Live.Queue

namespace Samara

open Exec (Follows Traces traces_pure traces_throw traces_bind traces_look traces_get traces_step
  traces_ite)
open Relation (ReflTransGen)

variable [RustTypes]

namespace Live

/-! ## Deeds -/

namespace Core

/-- The state after an effect has been issued: its task and its row. -/
def performed (core : Core) (effect : PendingEffect) (context : TaskContext) : Core :=
  { core with
    nextEffect := core.nextEffect + 1
    nextTask := core.nextTask + 1
    tasks := core.tasks ++
      [Task.mk core.nextTask context (.effect effect.id effect.descriptorType) false]
    effects := core.effects ++ [effect] }

/-- The state after a timer has been issued. -/
def delayed (core : Core) (timer : PendingTimer) (message : QueuedMessage)
    (context : TaskContext) : Core :=
  { core with
    nextTimer := core.nextTimer + 1
    nextTask := core.nextTask + 1
    tasks := core.tasks ++ [Task.mk core.nextTask context (.timer timer.id message) false]
    timers := core.timers ++ [timer] }

/-- The state after a request has been issued. -/
def asked (core : Core) (request : OutstandingRequest) : Core :=
  ({ core with nextRequest := core.nextRequest + 1 } : Core).requested request

end Core

inductive Deed (core : Core) : Core → Prop
  | turned : Deed core core.turn
  | counted : Deed core { core with nextWork := core.nextWork + 1 }
  /-- The kernel of a Component is stored. -/
  | stored (program : Program) : Deed core { core with program }
  | sent {message : QueuedMessage} (hplain : message.source = none) :
      Deed core (core.accepted (.message message))
  | performed {effect : PendingEffect} (context : TaskContext) (hid : effect.id = core.nextEffect) :
      Deed core (core.performed effect context)
  | delayed {timer : PendingTimer} {message : QueuedMessage} (context : TaskContext)
      (hid : timer.id = core.nextTimer) (hplain : message.source = none) :
      Deed core (core.delayed timer message context)
  | asked {request : OutstandingRequest} (hcorrelation : request.correlation = core.nextRequest)
      (hcomponent : request.completion? = none) : Deed core (core.asked request)
  | continued {correlation : Nat} {request : OutstandingRequest} {reply : ErasedValue}
      (hrequest : core.requests.find? (·.correlation = correlation) = some request)
      (hcomponent : request.completion? = none) (htype : reply.type = request.replyType) :
      Deed core ((core.withoutRequest correlation).observed (.continued request reply))
  | replied {correlation : Nat} {request : OutstandingRequest} {completion : Nat}
      {reply : ErasedValue}
      (hrequest : core.requests.find? (·.correlation = correlation) = some request)
      (hhost : request.completion? = some completion) (htype : reply.type = request.replyType) :
      Deed core (((core.withoutRequest correlation).observed
        (.continued request reply)).withReply completion reply)
  | aborted (task : Nat) : Deed core (core.taskAborted task)
  | gateStopped {generation : Nat} {gate : SourceGate}
      (hgate : core.gates[generation]? = some gate) : Deed core (core.gateStopped generation gate)
  | drained (hphase : core.scope.phase = .draining) : Deed core { core with draining := true }
  | halted (generation : Nat) : Deed core (core.halted generation true)
  | withdrawn {source : ActiveSource} (hsource : core.source? source.stamp.component
      source.stamp.subscription = some source) : Deed core (core.withdrawn source.stamp)
  | retained {source : ActiveSource} (hsource : source ∈ core.sources)
      (subscription : ErasedRuntimeSubscription) :
      Deed core ((core.withSource source.stamp.generation ({ · with subscription })).observed
        (.retained source.stamp subscription))
  /-- The gate of a realization whose Driver then panics. -/
  | realized (component : ComponentId) (subscription : ErasedRuntimeSubscription) :
      Deed core (core.realized component subscription)
  | activated (component : ComponentId) (subscription : ErasedRuntimeSubscription)
      (context : TaskContext) : Deed core (core.activated component subscription context)
  | planned (generation : Nat) (plan : SourcePlan) :
      Deed core (core.withSource generation ({ · with plan }))
  | mapped (stamp : SourceStamp) (event : ErasedSourceEvent)
      (subscription : ErasedRuntimeSubscription) (outer : List ErasedSourceEvent)
      (messages : List ErasedValue) :
      Deed core (core.observed (.mapped stamp event subscription outer messages))
  | finished (generation : Nat) :
      Deed core (core.withSource generation
        ({ · with terminalObserved := true, running := false }))
  | sentMapped {message : QueuedMessage} {stamp : SourceStamp} (hstamp : message.source = some stamp) :
      Deed core (core.accepted (.message message))

/-- The state a computation leaves when it fails. -/
inductive Failure : Stop → Core → Core → Prop
  | fault (error : RuntimeError) (core : Core) : Failure (.error error) core core
  | halted (error : RuntimeError) (core : Core) (generation : Nat) :
      Failure (.error error) core (core.halted generation false)
  | caught (error : RuntimeError) (core : Core) :
      Failure (.error error) core (core.observed (.panicked true))
  | unwound (panic : Panic) (core : Core) :
      Failure (.panicked panic) core (core.observed (.panicked false))
  /-- The conversion of a request panics, whose number is taken already. -/
  | converted (panic : Panic) (core : Core) :
      Failure (.panicked panic) core (({ core with nextRequest := core.nextRequest + 1 } :
        Core).observed (.panicked false))
  | mistyped (error : RuntimeError) {core : Core} {correlation : Nat} {request : OutstandingRequest}
      (hrequest : core.requests.find? (·.correlation = correlation) = some request) :
      Failure (.error error) core ((core.withoutRequest correlation).discard request.completion?)

theorem Failure.ne_outOfFuel {stop : Stop} {core core' : Core} (h : Failure stop core core') :
    stop ≠ .outOfFuel := by
  cases h <;> simp

/-- Whatever state it starts in, `action` follows deeds. -/
abbrev Does {α : Type} (action : Owner α) : Prop := Traces Deed Failure action

/-- A deed is made of what `Step` and `Advance` tell apart. -/
theorem Deed.advances {core core' : Core} (h : Deed core core') : ReflTransGen Advance core core' := by
  have hsteps {core' : Core} (hpath : ReflTransGen Step core core') : ReflTransGen Advance core core' :=
    ReflTransGen.mono (fun _ _ => .step) _ _ hpath
  cases h with
  | planned generation plan => exact .single (.planned generation plan)
  | mapped stamp event subscription outer messages => exact .single (.mapped _ _ _ _ _)
  | finished generation => exact .single (.finished generation)
  | sentMapped hstamp => exact .single (.sentMapped _)
  | turned => exact hsteps (.single .turned)
  | counted => exact hsteps (.single (.privately rfl))
  | stored program => exact hsteps (.single (.privately rfl))
  | sent hplain => exact hsteps (.single (.sent hplain))
  | performed context hid =>
      exact hsteps (.tail (.single (.spawned context _ fun _ _ h => by cases h)) (.privately rfl))
  | delayed context hid hplain =>
      refine hsteps (.tail (.single (.spawned context _ ?_)) (.privately rfl))
      rintro id message ⟨⟩
      exact hplain
  | asked hcorrelation hcomponent =>
      have hnumbered : Step core { core with nextRequest := core.nextRequest + 1 } := .privately rfl
      exact hsteps (.tail (.single hnumbered) .requested)
  | continued hrequest hcomponent htype => exact hsteps (.single (.continued hrequest hcomponent _))
  | replied hrequest hhost htype => exact hsteps (.single (.replied hrequest hhost _))
  | aborted task => exact hsteps (.single (.aborted task))
  | gateStopped hgate => exact hsteps (.single (.gateStopped hgate))
  | drained hphase => exact hsteps (.single (.drained hphase))
  | halted generation => exact hsteps (.single (.halted generation))
  | withdrawn hsource => exact hsteps (.single (.withdrawn _))
  | retained hsource subscription => exact hsteps (.single (.retained hsource subscription))
  | realized component subscription => exact hsteps (.single (.realized component subscription))
  | activated component subscription context => exact hsteps (.single (.activated component subscription context))

theorem Base.deed {hand : Option LiveEvent} {core core' : Core} (h : Base hand core)
    (hdeed : Deed core core') : Base hand core' :=
  Exec.path_preserves (fun _ _ hbase hadvance => hbase.advance hadvance) hdeed.advances h

theorem Queued.deed {core core' : Core} (h : Queued core) (hdeed : Deed core core') : Queued core' :=
  Exec.path_preserves (fun _ _ hqueued hadvance => hqueued.advance hadvance) hdeed.advances h

theorem Deed.beats {core core' : Core} (h : Deed core core') : Beats core core' :=
  Exec.path_relates Beats.refl (fun _ _ _ => Beats.trans) (fun _ _ hadvance => hadvance.beats)
    h.advances

/-- A cutoff, once begun, is for good. -/
theorem Deed.phase {core core' : Core} (h : Deed core core') {phase : ScopePhase}
    (hphase : core.scope.phase = phase) (hrunning : phase ≠ .running) : core'.scope.phase = phase := by
  rw [h.beats.phase_eq (by rw [hphase]; exact hrunning)]
  exact hphase

/-- What has been accepted stays accepted. -/
theorem sent_of_beats {core core' : Core} (h : Beats core core') : core.scope.sent <+: core'.scope.sent := by
  refine Exec.path_relates (R := fun scope scope' : Scope => scope.sent <+: scope'.sent)
    (fun scope => List.prefix_rfl) (fun _ _ _ hfirst hlast => hfirst.trans hlast) ?_ h
  intro scope scope' hbeat
  cases hbeat with
  | @called call hordinary =>
      rcases scope.called_appends call with ⟨_, _, hsent⟩ | ⟨_, _, hsent⟩
      · rw [hsent]
        exact List.prefix_append _ _
      · exact ⟨[], (List.append_nil _).trans hsent.symm⟩
  | taken hsublist => exact List.prefix_rfl

/-! ## Numbers and turns -/

/-- The numbers of effects and timers are nothing to what happens beside the
    owner. -/
theorem act_numbered (core : Core) (nextEffect nextTimer : Nat) (activity : Activity) :
    ({ core with nextEffect, nextTimer } : Core).act activity =
      { core.act activity with nextEffect, nextTimer } := by
  cases activity with
  | send target message => rfl
  | notify ingress => rfl
  | request protocol requestType port request => rfl
  | poll waiter => rfl
  | beginShutdown mode => rfl
  | emit generation event =>
      show Core.emit _ generation event = { core.emit generation event with nextEffect, nextTimer }
      unfold Core.emit
      cases core.gates[generation]? with
      | none => rfl
      | some gate =>
          dsimp only
          split
          · rfl
          · split <;> rfl
  | installStopHook generation result =>
      show Core.installStopHook _ generation result =
        { core.installStopHook generation result with nextEffect, nextTimer }
      unfold Core.installStopHook
      cases core.gates[generation]? with
      | none => rfl
      | some gate =>
          dsimp only
          split <;> rfl
  | complete task outcome =>
      show Core.complete _ task outcome = { core.complete task outcome with nextEffect, nextTimer }
      unfold Core.complete Core.task?
      cases core.tasks.find? (·.id = task) with
      | none => rfl
      | some found =>
          dsimp only
          cases found.delivery with
          | effect id descriptorType =>
              dsimp only
              split <;> rfl
          | timer id message => rfl
          | none => rfl
  | fire task =>
      show Core.fire _ task = { core.fire task with nextEffect, nextTimer }
      unfold Core.fire Core.task?
      cases core.tasks.find? (·.id = task) with
      | none => rfl
      | some found =>
          dsimp only
          cases found.delivery <;> rfl
  | exit task outcome =>
      show Core.exit _ task outcome = { core.exit task outcome with nextEffect, nextTimer }
      unfold Core.exit Core.task?
      cases core.tasks.find? (·.id = task) with
      | none => rfl
      | some found =>
          dsimp only
          split <;> rfl

theorem turn_numbered (core : Core) (nextEffect nextTimer : Nat) :
    ({ core with nextEffect, nextTimer } : Core).turn =
      { core.turn with nextEffect, nextTimer } := by
  have hacts (activities : List Activity) (core : Core) :
      activities.foldl Core.act { core with nextEffect, nextTimer } =
        { activities.foldl Core.act core with nextEffect, nextTimer } := by
    induction activities generalizing core with
    | nil => rfl
    | cons activity activities ih =>
        rw [List.foldl_cons, List.foldl_cons, act_numbered, ih]
  unfold Core.turn
  cases hschedule : core.schedule with
  | nil => simp only [hschedule]
  | cons activities schedule =>
      dsimp only
      exact hacts activities { core with schedule }

theorem turn_numbers (core : Core) : core.turn.nextEffect = core.nextEffect ∧
    core.turn.nextTimer = core.nextTimer :=
  ⟨(congrArg Core.nextEffect (turn_beside core) :), (congrArg Core.nextTimer (turn_beside core) :)⟩

/-! ## Access to shared state -/

section Shared

variable {α : Type}

theorem does_fault (component : ComponentId) (descriptorType : Option String) (work : TraceId)
    (reason : String) : Does (runtimeFault component descriptorType work reason : Owner α) :=
  traces_throw fun core => .fault _ core

theorem does_caught (result : Callback α) (component : ComponentId)
    (descriptorType : Option String) (work : TraceId) (reason : String) :
    Does (caught result component descriptorType work reason) := by
  intro core
  cases result with
  | ok value => exact ⟨.refl, trivial⟩
  | error panic => exact ⟨core, .refl, .caught _ core⟩

theorem does_uncaught (result : Callback α) : Does (uncaught result) := by
  intro core
  cases result with
  | ok value => exact ⟨.refl, trivial⟩
  | error panic => exact ⟨core, .refl, .unwound _ core⟩

theorem does_turn : Does turn := traces_step (fun _ => rfl) fun _ => .turned

theorem does_scopePhase : Does scopePhase :=
  traces_bind does_turn fun _ => traces_look fun _ => traces_pure _

theorem does_isRunning : Does isRunning := traces_bind does_scopePhase fun _ => traces_pure _

theorem does_isCancelling : Does isCancelling := traces_bind does_scopePhase fun _ => traces_pure _

/-- What `is_draining` returns still holds when it returns. -/
theorem isDraining_deeds (core : Core) :
    Follows Deed Failure core (isDraining.run core) fun draining core' =>
      draining = true → core'.scope.phase = .draining :=
  ⟨.single .turned, fun h => of_decide_eq_true h⟩

theorem does_acceptPlain (target : ComponentId) (messageType : TypeId) (message : ErasedValue) :
    Does (acceptFinite (plainMessage target messageType message)) :=
  fun _ => ⟨.tail (.single .turned) (.sent rfl), trivial⟩

theorem does_stopGate (generation : Nat) : Does (stopGate generation) := by
  refine traces_bind does_turn fun _ => traces_get fun core => ?_
  cases hgate : core.gates[generation]? with
  | none => exact ⟨.refl, trivial⟩
  | some gate => exact ⟨.single (.gateStopped hgate), trivial⟩

theorem does_abort (task : Nat) : Does (abort task) :=
  traces_bind does_turn fun _ => traces_step (fun _ => rfl) fun _ => .aborted task

theorem does_nextWork : Does nextWork := traces_step (fun _ => rfl) fun _ => .counted

end Shared

/-! ## Sources -/

section Sources

/-- `stop_source` reaches a state with the same rows, marks its row there, and
    fails only after that. -/
theorem stopSource_deeds (source : ActiveSource) (retainForDrain : Bool) (work : TraceId)
    (core : Core) :
    ∃ reached, ReflTransGen Deed core reached ∧ reached.sources = core.sources ∧
      ((stopSource source retainForDrain work).run core =
          .ok () (reached.halted source.stamp.generation retainForDrain) ∨
        ∃ error, (stopSource source retainForDrain work).run core =
          .error (.error error) (reached.halted source.stamp.generation retainForDrain)) := by
  have hgate : ∃ stopped stoppedCore, (stopGate source.stamp.generation).run core =
      .ok stopped stoppedCore ∧ ReflTransGen Deed core stoppedCore ∧
        stoppedCore.sources = core.sources := by
    have hturned : core.turn.sources = core.sources := (turn_beside core).sources
    unfold stopGate
    rw [Exec.run_bind_ok (show turn.run core = .ok () core.turn from rfl),
      Exec.run_bind_ok (EStateM.run_get core.turn)]
    cases hfound : core.turn.gates[source.stamp.generation]? with
    | none => exact ⟨_, _, rfl, .single .turned, hturned⟩
    | some gate => exact ⟨_, _, rfl, .tail (.single .turned) (.gateStopped hfound), hturned⟩
  obtain ⟨stopped, stoppedCore, hrun, hpath, hsources⟩ := hgate
  refine ⟨stoppedCore.turn.taskAborted source.task,
    .tail (.tail hpath .turned) (.aborted source.task),
    ((turn_beside stoppedCore).sources).trans hsources, ?_⟩
  unfold stopSource
  rw [Exec.run_bind_ok hrun]
  cases stopped with
  | ok value => exact .inl rfl
  | error reason => exact .inr ⟨_, rfl⟩

theorem does_stopForDrain (source : ActiveSource) (work : TraceId) :
    Does (stopSource source true work) := by
  intro core
  obtain ⟨reached, hpath, _, hok | ⟨error, herror⟩⟩ := stopSource_deeds source true work core
  · rw [hok]
    exact ⟨.tail hpath (.halted _), trivial⟩
  · rw [herror]
    exact ⟨_, .tail hpath (.halted _), .fault _ _⟩

theorem does_stopSourcesForDrain (sources : List ActiveSource) :
    Does (stopSourcesForDrain sources) := by
  induction sources with
  | nil => exact traces_pure ()
  | cons source sources ih =>
      exact traces_bind does_nextWork fun work =>
        traces_bind (does_stopForDrain source work) fun _ => ih

/-- Drain begins only once the scope is draining. -/
theorem beginDrain_deeds {core : Core} (hphase : core.scope.phase = .draining) :
    Follows Deed Failure core (beginDrain.run core) fun _ _ => True := by
  unfold beginDrain
  rw [Exec.run_bind_ok (EStateM.run_get core)]
  by_cases hdraining : core.draining = true
  · rw [if_pos hdraining]
    exact Exec.follows_pure .refl trivial
  · rw [if_neg hdraining]
    exact Exec.follows_of_path (.single (.drained hphase))
      (does_stopSourcesForDrain core.sources { core with draining := true })

theorem does_observeDrainCutoff : Does observeDrainCutoff := by
  refine traces_get fun core => ?_
  by_cases hdraining : core.draining = true
  · rw [if_pos hdraining]
    exact Exec.follows_pure .refl trivial
  · rw [if_neg hdraining]
    refine Exec.follows_bind (isDraining_deeds core) ?_
    intro draining reached _ hphase
    by_cases h : draining = true
    · rw [if_pos h]
      exact beginDrain_deeds (hphase h)
    · rw [if_neg h]
      exact Exec.follows_pure .refl trivial

theorem does_activateSource (component : ComponentId)
    (subscription : ErasedRuntimeSubscription) (work : TraceId) :
    Does (activateSource component subscription work) := by
  refine traces_look fun core => traces_ite (fun _ => traces_pure ()) fun _ => ?_
  refine traces_bind does_isRunning fun running => traces_ite (fun _ => traces_pure ()) fun _ => ?_
  refine traces_bind (does_uncaught _) fun _ => traces_ite (fun _ => does_fault _ _ _ _) fun _ =>
    traces_ite (fun _ => does_fault _ _ _ _) fun _ => ?_
  cases core.bindings.source subscription.sourcePlan with
  | error reason => exact does_fault _ _ _ _
  | ok binding =>
      intro start
      have hrealized : (newRealization component subscription).run start =
          .ok (start.nextStamp component subscription) (start.realized component subscription) := rfl
      dsimp only
      rw [Exec.run_bind_ok hrealized]
      cases hstart : binding.start (start.nextStamp component subscription) with
      | error panic =>
          -- The Driver panics while it starts: the realization has no row.
          exact ⟨start.realized component subscription, .single (.realized _ _), .caught _ _⟩
      | ok value => exact ⟨.single (.activated component subscription _), trivial⟩

theorem does_withdrawSource (component : ComponentId) (id : SubscriptionId) (work : TraceId) :
    Does (withdrawSource component id work) := by
  refine traces_get fun core => ?_
  cases hsource : core.source? component id with
  | none => exact ⟨.refl, trivial⟩
  | some source =>
      dsimp only
      split
      · exact ⟨.refl, trivial⟩
      · obtain ⟨reached, hpath, hsources, hok | ⟨error, herror⟩⟩ :=
          stopSource_deeds source false work core
        · -- Stopping the gate has left the rows alone, so the row is still found.
          have hkey := List.find?_some hsource
          have hfound : reached.source? source.stamp.component source.stamp.subscription =
              some source := by
            obtain ⟨hcomponent, hid⟩ := Bool.and_eq_true_iff.mp hkey
            rw [of_decide_eq_true hcomponent, of_decide_eq_true hid]
            unfold Core.source? at hsource ⊢
            rw [hsources]
            exact hsource
          rw [Exec.run_bind_ok hok]
          exact ⟨.tail hpath (.withdrawn hfound), trivial⟩
        · rw [EStateM.run_bind, herror]
          exact ⟨reached, hpath, .halted _ reached _⟩

theorem does_retain (component : ComponentId) (work : TraceId)
    (subscription : ErasedRuntimeSubscription) :
    Does (applySubscriptionChange component work (.retain subscription)) := by
  refine traces_get fun core => ?_
  cases hsource : core.source? component subscription.id with
  | none => exact ⟨.refl, trivial⟩
  | some source =>
      exact ⟨.single (.retained (List.mem_of_find?_eq_some hsource) subscription), trivial⟩

theorem does_applySubscriptionChange (component : ComponentId) (work : TraceId)
    (change : ErasedSubscriptionChange) :
    Does (applySubscriptionChange component work change) := by
  cases change with
  | start subscription => exact does_activateSource component subscription work
  | retain subscription => exact does_retain component work subscription
  | replace subscription =>
      exact traces_bind (does_withdrawSource component subscription.id work) fun _ =>
        traces_ite (fun _ => does_activateSource component subscription work) fun _ => traces_pure ()
  | cancel id =>
      exact traces_bind (does_withdrawSource component id work) fun _ => traces_pure ()

theorem does_applyChanges (component : ComponentId) (work : TraceId)
    (changes : List ErasedSubscriptionChange) : Does (applyChanges component work changes) := by
  induction changes with
  | nil => exact traces_pure ()
  | cons change changes ih =>
      exact traces_bind does_observeDrainCutoff fun _ =>
        traces_bind (does_applySubscriptionChange component work change) fun _ => ih

end Sources

/-! ## Command interpretation -/

section Arms

variable {message : TypeId} (component : ComponentId) (work : TraceId)

/-- What happens while the task of an effect is spawned comes before the effect
    has a number. -/
theorem issueEffect_run (core : Core) (context : TaskContext) (descriptorType : TypeId)
    (row : Nat → PendingEffect) :
    (do
      modify fun core' => { core' with nextEffect := core.nextEffect + 1 }
      let task ← spawnOwned context (.effect core.nextEffect descriptorType)
      modify fun core' => { core' with effects := core'.effects ++ [row task] } : Owner Unit).run core =
    .ok () { core.turn with
      nextEffect := core.turn.nextEffect + 1
      nextTask := core.turn.nextTask + 1
      tasks := core.turn.tasks ++
        [Task.mk core.turn.nextTask context (.effect core.turn.nextEffect descriptorType) false]
      effects := core.turn.effects ++ [row core.turn.nextTask] } := by
  -- The number is written before the task is spawned, but nothing beside the
  -- owner looks at it.
  obtain ⟨heffect, htimer⟩ := turn_numbers core
  have hturned := turn_numbered core (core.nextEffect + 1) core.turn.nextTimer
  rw [htimer] at hturned
  have hissued (turned : Core) (h : ({ core with nextEffect := core.nextEffect + 1 } : Core).turn =
      turned) : (do
      modify fun core' => { core' with nextEffect := core.nextEffect + 1 }
      let task ← spawnOwned context (.effect core.nextEffect descriptorType)
      modify fun core' => { core' with effects := core'.effects ++ [row task] } : Owner Unit).run core =
      .ok () { turned with
        nextTask := turned.nextTask + 1
        tasks := turned.tasks ++
          [Task.mk turned.nextTask context (.effect core.nextEffect descriptorType) false]
        effects := turned.effects ++ [row turned.nextTask] } := by
    subst h
    rfl
  rw [hissued _ hturned, heffect, ← htimer]

theorem does_interpretEffect (command : EffectCommand message) :
    Does (interpretEffect component work command) := by
  refine traces_get fun core => ?_
  by_cases hdeclares : (!core.program.declaresEffect command.capability command.descriptorType) = true
  · rw [if_pos hdeclares]
    exact does_fault _ _ _ _ core
  · rw [if_neg hdeclares]
    by_cases hbound : command.descriptorType ∉ core.bindings.effects
    · rw [if_pos hbound]
      exact does_fault _ _ _ _ core
    · rw [if_neg hbound]
      have hnumber := (turn_numbers core).1
      have hissued := issueEffect_run core (.effect core.nextEffect component
        (typeName command.descriptorType) work) command.descriptorType
        fun task => ⟨core.nextEffect, component, command.descriptorType, command.mapper, message, task⟩
      rw [hissued]
      refine ⟨.tail (.single .turned) ?_, trivial⟩
      have hdeed := @Deed.performed _ core.turn ⟨core.nextEffect, component, command.descriptorType,
        command.mapper, message, core.turn.nextTask⟩ (.effect core.nextEffect component
        (typeName command.descriptorType) work) hnumber.symm
      unfold Core.performed at hdeed
      dsimp only at hdeed
      rw [← hnumber] at hdeed ⊢
      exact hdeed

/-- The same for the task of a timer. -/
theorem issueTimer_run (core : Core) (context : TaskContext) (queued : QueuedMessage) :
    (do
      set { core with nextTimer := core.nextTimer + 1 }
      let task ← spawnOwned context (.timer core.nextTimer queued)
      modify fun core' => { core' with
        timers := core'.timers ++ [PendingTimer.mk core.nextTimer task] } : Owner Unit).run core =
    .ok () (core.turn.delayed ⟨core.turn.nextTimer, core.turn.nextTask⟩ queued context) := by
  obtain ⟨heffect, htimer⟩ := turn_numbers core
  have hturned := turn_numbered core core.turn.nextEffect (core.nextTimer + 1)
  rw [heffect] at hturned
  have hissued (turned : Core) (h : ({ core with nextTimer := core.nextTimer + 1 } : Core).turn =
      turned) : (do
      set { core with nextTimer := core.nextTimer + 1 }
      let task ← spawnOwned context (.timer core.nextTimer queued)
      modify fun core' => { core' with
        timers := core'.timers ++ [PendingTimer.mk core.nextTimer task] } : Owner Unit).run core =
      .ok () { turned with
        nextTask := turned.nextTask + 1
        tasks := turned.tasks ++ [Task.mk turned.nextTask context (.timer core.nextTimer queued) false]
        timers := turned.timers ++ [⟨core.nextTimer, turned.nextTask⟩] } := by
    subst h
    rfl
  unfold Core.delayed
  rw [hissued _ hturned, htimer, ← heffect]

theorem does_interpretAfter (value : Val message) :
    Does (interpretAfter component work value) := by
  refine traces_get fun core => ?_
  have hissued := issueTimer_run core (.timer component work)
    ⟨component, message, ⟨message, value⟩, none⟩
  dsimp only
  rw [hissued]
  exact ⟨.tail (.single .turned) (.delayed _ rfl rfl), trivial⟩

theorem does_interpretSend (command : SendCommand) :
    Does (interpretSend component work command) := by
  refine traces_look fun core => traces_ite (fun _ => does_fault _ _ _ _) fun _ => ?_
  exact traces_bind (does_acceptPlain _ _ _) fun _ => traces_pure ()

theorem does_resolvePort {protocol : TypeId} (port : Port protocol) (noun : String) :
    Does (resolvePort component work port noun) := by
  refine traces_look fun core => traces_ite (fun _ => does_fault _ _ _ _) fun _ => ?_
  cases core.program.binding? protocol port.id with
  | none => exact does_fault _ _ _ _
  | some binding => exact traces_pure binding

theorem does_interpretNotify (command : NotificationCommand) :
    Does (interpretNotify component work command) := by
  refine traces_bind (does_resolvePort component work command.port _) fun binding => ?_
  refine traces_bind (does_uncaught _) fun _ => traces_bind (does_uncaught _) fun _ => ?_
  exact traces_bind (does_acceptPlain _ _ _) fun _ => traces_pure ()

theorem does_interpretRequest (command : RequestCommand message) :
    Does (interpretRequest component work command) := by
  refine traces_bind (does_resolvePort component work command.port _) fun binding => ?_
  refine traces_get fun core => ?_
  dsimp only
  rw [Exec.run_bind_ok (EStateM.run_set _ _)]
  -- A conversion that panics leaves the number taken, and no row.
  cases hmessage : command.intoMessage core.nextRequest with
  | error panic => exact ⟨core, .refl, .converted _ core⟩
  | ok protocolMessage =>
      cases hconverted : binding.convert protocolMessage with
      | error panic =>
          have hrun : (uncaught (.ok protocolMessage) >>= fun protocolMessage => do
              let converted ← uncaught (binding.convert protocolMessage)
              pushRequest ⟨core.nextRequest, command.replyType,
                .component component command.mapper message⟩
              let _ ← acceptFinite (plainMessage binding.provider.id
                binding.providerMessageType converted) : Owner Unit).run
              { core with nextRequest := core.nextRequest + 1 } = .error (.panicked panic)
                (({ core with nextRequest := core.nextRequest + 1 } : Core).observed
                  (.panicked false)) := by
            rw [Exec.run_bind_ok (show (uncaught (.ok protocolMessage)).run _ = .ok protocolMessage _
              from rfl), hconverted]
            rfl
          rw [hrun]
          exact ⟨core, .refl, .converted _ core⟩
      | ok converted =>
          rw [Exec.run_bind_ok (show (uncaught (.ok protocolMessage)).run _ = .ok protocolMessage _
            from rfl), hconverted,
            Exec.run_bind_ok (show (uncaught (.ok converted)).run _ = .ok converted _ from rfl)]
          refine Exec.follows_of_path (.single (@Deed.asked _ core ⟨core.nextRequest,
            command.replyType, .component component command.mapper message⟩ rfl rfl)) ?_
          exact (traces_bind (does_acceptPlain _ _ _) fun _ => traces_pure () : Does _) _

theorem does_interpretReply (command : ReplyCommand) :
    Does (interpretReply component work command) := by
  refine traces_get fun core => ?_
  cases hrequest : core.requests.find? (·.correlation = command.replyTo.correlation) with
  | none => exact does_fault _ _ _ _ core
  | some request =>
      dsimp only
      rw [Exec.run_bind_ok (EStateM.run_modify _ _)]
      by_cases htype : request.replyType ≠ command.replyType
      · rw [if_pos htype]
        exact ⟨core, .refl, .mistyped _ hrequest⟩
      · rw [if_neg htype]
        have hreply : (⟨command.replyType, command.reply⟩ : ErasedValue).type = request.replyType :=
          (not_not.mp htype).symm
        cases hcontinuation : request.continuation with
        | host completion =>
            exact ⟨.single (.replied hrequest
              (by simp [OutstandingRequest.completion?, hcontinuation]) hreply), trivial⟩
        | component requester mapper messageType =>
            refine Exec.follows_of_path (.single (.continued hrequest
              (by simp [OutstandingRequest.completion?, hcontinuation]) hreply)) ?_
            refine (traces_bind (does_caught _ _ _ _ _) fun mapped => ?_ : Does _) _
            exact traces_bind (does_acceptPlain _ _ _) fun _ => traces_pure ()

theorem does_interpretDeclaration (declaration : Declaration message) :
    Does (interpretDeclaration component work declaration) := by
  cases declaration with
  | effect command => exact does_interpretEffect component work command
  | send command => exact does_interpretSend component work command
  | notify command => exact does_interpretNotify component work command
  | request command => exact does_interpretRequest component work command
  | reply command => exact does_interpretReply component work command
  | after delay value => exact does_interpretAfter component work value

end Arms

theorem does_interpret (component : ComponentId) (command : ErasedCommand) :
    Does (interpret component command) := by
  unfold interpret
  generalize command.command.intoDeclarations = declarations
  induction declarations with
  | nil => exact traces_pure ()
  | cons declaration declarations ih =>
      refine traces_bind does_isCancelling fun _ => traces_ite (fun _ => traces_pure ()) fun _ => ?_
      refine traces_bind does_observeDrainCutoff fun _ => traces_bind does_nextWork fun work => ?_
      exact traces_bind (does_interpretDeclaration component work declaration) fun _ => ih

/-! ## Components -/

theorem does_onComponent {α : Type} (id : ComponentId) (messageType : TypeId)
    (kernel : ErasedComponentKernel) (action : EStateM Panic ErasedComponentKernel α) :
    Does (onComponent id messageType kernel action) := by
  intro core
  unfold onComponent EStateM.run
  cases action kernel with
  | error panic kernel => exact ⟨.single (.stored _), trivial⟩
  | ok value kernel => exact ⟨.single (.stored _), trivial⟩

theorem does_requireChanges (component : ComponentId) (work : TraceId)
    (changes : Except SubscriptionId (List ErasedSubscriptionChange)) :
    Does (requireChanges component work changes) := by
  cases changes with
  | error duplicate => exact does_fault _ _ _ _
  | ok changes => exact traces_pure changes

theorem does_initializeComponents (components : List (ComponentId × TypeId)) :
    Does (initializeComponents components) := by
  induction components with
  | nil => exact traces_pure ()
  | cons component components ih =>
      refine traces_bind does_isCancelling fun _ => traces_ite (fun _ => traces_pure ()) fun _ => ?_
      refine traces_bind does_nextWork fun work => traces_look fun core => ?_
      cases core.program.component? component.1 component.2 with
      | none => exact ih
      | some kernel =>
          refine traces_bind (does_uncaught _) fun _ => ?_
          refine traces_bind (does_onComponent _ _ _ _) fun reconciled => ?_
          refine traces_bind (does_uncaught _) fun result => ?_
          refine traces_bind (does_onComponent _ _ _ _) fun initial => ?_
          refine traces_bind (does_requireChanges _ _ _) fun changes => ?_
          refine traces_bind does_isCancelling fun _ =>
            traces_ite (fun _ => traces_pure ()) fun _ => ?_
          refine traces_bind does_observeDrainCutoff fun _ => ?_
          refine traces_bind (does_applyChanges _ _ _) fun _ => ?_
          obtain ⟨command, kernel'⟩ := initial
          match command with
          | .ok (some command) =>
              refine traces_bind does_isCancelling fun _ =>
                traces_ite (fun _ => traces_pure ()) fun _ => ?_
              exact traces_bind (does_interpret _ _) fun _ => ih
          | .ok none => exact ih
          | .error panic => exact ih

theorem does_initializeProgram : Does initializeProgram :=
  traces_bind does_observeDrainCutoff fun _ => traces_look fun _ => does_initializeComponents _

theorem does_finishTransition (target : ComponentId) (messageType : TypeId)
    (kernel : ErasedComponentKernel) (work : TraceId) (command : ErasedCommand) :
    Does (finishTransition target messageType kernel work command) := by
  refine traces_bind does_isCancelling fun _ => traces_ite (fun _ => traces_pure ()) fun _ => ?_
  refine traces_bind does_observeDrainCutoff fun _ => ?_
  refine traces_bind (does_uncaught _) fun _ => ?_
  refine traces_bind (does_onComponent _ _ _ _) fun reconciled => ?_
  refine traces_bind (does_uncaught _) fun result => ?_
  refine traces_bind (does_requireChanges _ _ _) fun changes => ?_
  refine traces_bind does_isCancelling fun _ => traces_ite (fun _ => traces_pure ()) fun _ => ?_
  refine traces_bind does_observeDrainCutoff fun _ => ?_
  refine traces_bind (does_applyChanges _ _ _) fun _ => ?_
  exact traces_bind does_isCancelling fun _ =>
    traces_ite (fun _ => traces_pure ()) fun _ => does_interpret _ _

theorem does_transition (message : QueuedMessage) (work : TraceId)
    (kernel : ErasedComponentKernel) : Does (transition message work kernel) := by
  refine traces_bind (does_onComponent _ _ _ _) fun transitioned => ?_
  refine traces_bind (does_caught _ _ _ _ _) fun command => ?_
  cases command with
  | none => exact traces_throw fun core => .fault _ core
  | some command => exact does_finishTransition _ _ _ _ _

/-! ## Events -/

theorem does_processPortNotification (ingress : NotificationCommand) :
    Does (processPortNotification ingress) := by
  refine traces_bind does_nextWork fun work => ?_
  refine traces_bind (does_resolvePort _ _ _ _) fun binding => ?_
  refine traces_bind (does_caught _ _ _ _ _) fun protocolMessage => ?_
  refine traces_bind (does_caught _ _ _ _ _) fun converted => ?_
  exact traces_bind (does_acceptPlain _ _ _) fun _ => traces_pure ()

theorem does_sendMapped (source : ActiveSource) (messages : List ErasedValue) :
    Does (sendMapped source messages) := by
  induction messages with
  | nil => exact traces_pure ()
  | cons message messages ih =>
      refine traces_bind ?_ fun _ => ih
      exact fun core => ⟨.tail (.single .turned) (.sentMapped rfl), trivial⟩

theorem does_endSource (source : ActiveSource) (work : TraceId) : Does (endSource source work) := by
  refine traces_bind (traces_step (fun _ => rfl) fun _ => .finished _) fun _ => ?_
  refine traces_ite (fun _ => traces_pure ()) fun _ => ?_
  refine traces_bind (does_stopGate _) fun stopped => ?_
  refine traces_bind (does_abort _) fun _ => ?_
  cases stopped with
  | ok value => exact traces_pure ()
  | error reason => exact does_fault _ _ _ _

theorem does_mapTerminalEvent (source : ActiveSource) (event : ErasedSourceEvent) :
    Does (mapTerminalEvent source event) := by
  intro core
  unfold mapTerminalEvent EStateM.run
  dsimp only
  cases SourcePlan.mapEvent event source.plan with
  | error panic plan => exact ⟨.single (.planned _ plan), trivial⟩
  | ok outer plan => exact ⟨.single (.planned _ plan), trivial⟩

theorem does_processSourceEvent (stamp : SourceStamp) (terminalType : DescriptorType TypeId)
    (event : ErasedSourceEvent) : Does (processSourceEvent stamp terminalType event) := by
  refine traces_look fun core => ?_
  cases core.source? stamp.component stamp.subscription with
  | none => exact traces_pure ()
  | some source =>
      refine traces_ite (fun _ => traces_pure ()) fun _ => traces_bind does_nextWork fun work => ?_
      refine traces_bind (does_mapTerminalEvent source event) fun mapped => ?_
      refine traces_bind (does_caught _ _ _ _ _) fun outer => ?_
      refine traces_bind (does_caught _ _ _ _ _) fun messages => ?_
      refine traces_bind (traces_step (fun _ => rfl) fun _ => .mapped _ _ _ _ _) fun _ => ?_
      refine traces_ite (fun _ => ?_) fun _ => does_sendMapped source messages
      exact traces_bind (does_endSource source work) fun _ => does_sendMapped source messages

/-- What `process_effect` does with the row that it has removed. -/
def deliverOutcome (effect : PendingEffect) (outcome : ErasedOutcome) : Owner Unit :=
  match effect.mapper with
  | none => pure ()
  | some mapper => do
      let work ← nextWork
      let message ← caught (mapper outcome) effect.component
        (some (typeName effect.descriptorType)) work "Effect outcome mapper panicked"
      let _ ← acceptFinite (plainMessage effect.component effect.messageType message)

theorem processEffect_none {id : Nat} {core : Core}
    (hnone : core.effects.find? (·.id = id) = none) (outcome : ErasedOutcome) :
    (processEffect id outcome).run core = .ok () core := by
  unfold processEffect
  rw [Exec.run_bind_ok (EStateM.run_get core), hnone]
  rfl

theorem processEffect_some {id : Nat} {core : Core} {effect : PendingEffect}
    (hfound : core.effects.find? (·.id = id) = some effect) (outcome : ErasedOutcome) :
    (processEffect id outcome).run core = (deliverOutcome effect outcome).run
      { core with effects := core.effects.eraseP (·.id = id) } := by
  unfold processEffect
  rw [Exec.run_bind_ok (EStateM.run_get core), hfound]
  rfl

theorem does_deliverOutcome (effect : PendingEffect) (outcome : ErasedOutcome) :
    Does (deliverOutcome effect outcome) := by
  unfold deliverOutcome
  cases effect.mapper with
  | none => exact traces_pure ()
  | some mapper =>
      refine traces_bind does_nextWork fun work => traces_bind (does_caught _ _ _ _ _) fun message => ?_
      exact traces_bind (does_acceptPlain _ _ _) fun _ => traces_pure ()

theorem processTimer_none {timer : Nat} {core : Core}
    (hnone : core.timers.find? (·.id = timer) = none) (message : QueuedMessage) :
    (processTimer timer message).run core = .ok () core := by
  unfold processTimer
  rw [Exec.run_bind_ok (EStateM.run_get core), hnone]
  rfl

theorem processTimer_some {timer : Nat} {core : Core} {row : PendingTimer}
    (hfound : core.timers.find? (·.id = timer) = some row) (message : QueuedMessage) :
    (processTimer timer message).run core = (processMessage message).run
      { core with timers := core.timers.eraseP (·.id = timer) } := by
  unfold processTimer
  rw [Exec.run_bind_ok (EStateM.run_get core), hfound]
  rfl

/-! ## Tasks and the cutoff of Drain -/

theorem does_taskFault (context : TaskContext) (panicked : Bool) (reason : String) :
    Does (taskFault context panicked reason) := by
  cases context with
  | effect id component descriptorType work => exact does_fault _ _ _ _
  | source stamp descriptorType work =>
      exact traces_look fun _ => traces_ite (fun _ => does_fault _ _ _ _) fun _ => traces_pure ()
  | timer component work => exact does_fault _ _ _ _

theorem does_joinTask (exit : TaskExit) : Does (joinTask exit) := by
  unfold joinTask
  cases exit.outcome with
  | returned => exact traces_pure _
  | cancelled => exact traces_pure _
  | failed reason => exact does_taskFault _ _ _
  | panicked => exact does_taskFault _ _ _
  | lost => exact traces_bind does_nextWork fun _ => does_fault _ _ _ _

end Live

end Samara
