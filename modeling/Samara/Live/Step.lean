/-
  Samara.Live.Step

  What the owner of a live runtime can do between two accesses to shared state,
  as a relation on its states.

  `Step` has one constructor for each way the state changes while the owner
  interprets commands and applies Subscription changes; `Advance` adds what it
  does to an event that it has taken off the channel.  Every computation below
  the loop follows these steps, and ends in an `Exit` when it fails.
-/
import Samara.Logic.Exec
import Samara.Live.Beside

namespace Samara

open Relation (ReflTransGen)

variable [RustTypes]

namespace Live

/-! ## The states that steps leave -/

namespace Core

/-- The state after `spawn_owned`. -/
def spawned (core : Core) (context : TaskContext) (delivery : TaskDelivery) : Core :=
  { core with
    nextTask := core.nextTask + 1
    tasks := core.tasks ++ [Task.mk core.nextTask context delivery false] }

/-- The state after an `AbortHandle` has been used. -/
def taskAborted (core : Core) (task : Nat) : Core :=
  { core with tasks := Table.modifyFirst (·.id = task) ({ · with aborted := true }) core.tasks }

/-- The state after the gate of a realization has been stopped. -/
def gateStopped (core : Core) (generation : Nat) (gate : SourceGate) : Core :=
  { core with
    gates := core.gates.set generation { gate with state := .stopped, stopHook := none } }

/-- The state after the row of a stopped Source has been marked. -/
def halted (core : Core) (generation : Nat) (retainForDrain : Bool) : Core :=
  core.withSource generation fun source =>
    { source with running := false, drainRetained := source.drainRetained || retainForDrain }

/-- The state after Replace or Cancel has removed a realization. -/
def withdrawn (core : Core) (stamp : SourceStamp) : Core :=
  ((core.halted stamp.generation false).withoutSource stamp.generation).observed (.withdrawn stamp)

/-- The stamp of the next realization. -/
def nextStamp (core : Core) (component : ComponentId)
    (subscription : ErasedRuntimeSubscription) : SourceStamp :=
  ⟨component, subscription.id, core.nextGeneration⟩

/-- The state with the gate of a new realization. -/
def realized (core : Core) (component : ComponentId) (subscription : ErasedRuntimeSubscription) :
    Core :=
  { core with
    nextGeneration := core.nextGeneration + 1
    gates := core.gates ++ [SourceGate.mk (core.nextStamp component subscription)
      subscription.sourcePlan.terminalType .active none] }

/-- The state with the row of a new realization, whose task is `task`. -/
def installed (core : Core) (stamp : SourceStamp) (subscription : ErasedRuntimeSubscription)
    (task : Nat) : Core :=
  ({ core with
    sources := core.sources ++
      [ActiveSource.mk stamp true false false subscription subscription.sourcePlan task] } :
    Core).observed (.activated stamp subscription)

/-- The state after `activate_source`: the gate first, the task next, with what
    happens before it is spawned, and the row last. -/
def activated (core : Core) (component : ComponentId) (subscription : ErasedRuntimeSubscription)
    (context : TaskContext) : Core :=
  let started := (core.realized component subscription).turn
  (started.spawned context .none).installed (core.nextStamp component subscription) subscription
    started.nextTask

/-- The state after `requests.push`. -/
def requested (core : Core) (request : OutstandingRequest) : Core :=
  ({ core with requests := core.requests ++ [request] } : Core).observed (.requested request)

/-- The state after a Reply has removed the request it names. -/
def withoutRequest (core : Core) (correlation : Nat) : Core :=
  { core with requests := core.requests.eraseP (·.correlation = correlation) }

/-- The state after a call of `accept_finite`. -/
def accepted (core : Core) (event : LiveEvent) : Core :=
  core.withScope (core.scope.called (.finite event))

end Core

/-- Only tables that no other module of the runtime looks at differ. -/
def Privately (core core' : Core) : Prop :=
  core' = { core with
    program := core'.program
    effects := core'.effects
    timers := core'.timers
    nextEffect := core'.nextEffect
    nextRequest := core'.nextRequest
    nextTimer := core'.nextTimer
    nextWork := core'.nextWork }

/-! ## Steps -/

inductive Step (core : Core) : Core → Prop
  | turned : Step core core.turn
  | privately {core' : Core} (h : Privately core core') : Step core core'
  | sent {message : QueuedMessage} (hplain : message.source = none) :
      Step core (core.accepted (.message message))
  | spawned (context : TaskContext) (delivery : TaskDelivery)
      (hplain : ∀ id message, delivery = .timer id message → message.source = none) :
      Step core (core.spawned context delivery)
  | aborted (task : Nat) : Step core (core.taskAborted task)
  | gateStopped {generation : Nat} {gate : SourceGate}
      (hgate : core.gates[generation]? = some gate) : Step core (core.gateStopped generation gate)
  | drained (hphase : core.scope.phase = .draining) : Step core { core with draining := true }
  | halted (generation : Nat) : Step core (core.halted generation true)
  | withdrawn (stamp : SourceStamp) : Step core (core.withdrawn stamp)
  | retained {source : ActiveSource} (hsource : source ∈ core.sources)
      (subscription : ErasedRuntimeSubscription) :
      Step core ((core.withSource source.stamp.generation ({ · with subscription })).observed
        (.retained source.stamp subscription))
  | realized (component : ComponentId) (subscription : ErasedRuntimeSubscription) :
      Step core (core.realized component subscription)
  | activated (component : ComponentId) (subscription : ErasedRuntimeSubscription)
      (context : TaskContext) : Step core (core.activated component subscription context)
  | requested {request : OutstandingRequest} : Step core (core.requested request)
  | mistyped {correlation : Nat} {request : OutstandingRequest}
      (hrequest : core.requests.find? (·.correlation = correlation) = some request) :
      Step core ((core.withoutRequest correlation).discard request.completion?)
  | continued {correlation : Nat} {request : OutstandingRequest}
      (hrequest : core.requests.find? (·.correlation = correlation) = some request)
      (hcomponent : request.completion? = none) (reply : ErasedValue) :
      Step core ((core.withoutRequest correlation).observed (.continued request reply))
  | replied {correlation : Nat} {request : OutstandingRequest} {completion : Nat}
      (hrequest : core.requests.find? (·.correlation = correlation) = some request)
      (hhost : request.completion? = some completion) (reply : ErasedValue) :
      Step core (((core.withoutRequest correlation).observed
        (.continued request reply)).withReply completion reply)
  | popped : Step core core.popRequest
  | discarded (completion : Option Nat) : Step core (core.discard completion)

/-- What else the owner does with an event. -/
inductive Advance (core : Core) : Core → Prop
  | step {core' : Core} (h : Step core core') : Advance core core'
  | transitioned (message : QueuedMessage) : Advance core (core.observed (.transition message))
  | planned (generation : Nat) (plan : SourcePlan) :
      Advance core (core.withSource generation ({ · with plan }))
  | mapped (stamp : SourceStamp) (event : ErasedSourceEvent)
      (subscription : ErasedRuntimeSubscription) (outer : List ErasedSourceEvent)
      (messages : List ErasedValue) :
      Advance core (core.observed (.mapped stamp event subscription outer messages))
  | finished (generation : Nat) :
      Advance core (core.withSource generation
        ({ · with terminalObserved := true, running := false }))
  | sentMapped (message : QueuedMessage) : Advance core (core.accepted (.message message))

/-- How a computation fails. -/
inductive Exit : Stop → Core → Core → Prop
  | fault (error : RuntimeError) (core : Core) : Exit (.error error) core core
  /-- The stop hook of a Source failed before its row was removed. -/
  | halted (error : RuntimeError) (core : Core) (generation : Nat) :
      Exit (.error error) core (core.halted generation false)
  | caught (error : RuntimeError) (core : Core) :
      Exit (.error error) core (core.observed (.panicked true))
  | unwound (panic : Panic) (core : Core) :
      Exit (.panicked panic) core (core.observed (.panicked false))

/-! ## Computations that follow steps -/

/-- Whatever `action` is run on, it follows `R`. -/
def Moves {α : Type} (R : Core → Core → Prop) (action : Owner α) : Prop :=
  ∀ core, Exec.Follows R Exit core (action.run core) fun _ _ => True

section Moves

variable {α β : Type} {R : Core → Core → Prop}

theorem moves_pure (value : α) : Moves R (pure value) := fun _ => Exec.follows_pure .refl trivial

theorem moves_get : Moves R get := fun _ => ⟨.refl, trivial⟩

theorem moves_bind {x : Owner α} {f : α → Owner β} (hx : Moves R x) (hf : ∀ value, Moves R (f value)) :
    Moves R (x >>= f) :=
  fun core => Exec.follows_bind (hx core) fun value core' _ _ => hf value core'

/-- A computation that is one step. -/
theorem moves_step {x : Owner α} {value : Core → α} {next : Core → Core}
    (hrun : ∀ core, x.run core = .ok (value core) (next core)) (hstep : ∀ core, R core (next core)) :
    Moves R x := by
  intro core
  rw [hrun core]
  exact ⟨.single (hstep core), trivial⟩

theorem moves_fault (component : ComponentId) (descriptorType : Option String) (work : TraceId)
    (reason : String) : Moves R (runtimeFault component descriptorType work reason : Owner α) :=
  fun core => ⟨core, .refl, .fault _ core⟩

theorem moves_throw (error : RuntimeError) : Moves R (throw (.error error) : Owner α) :=
  fun core => ⟨core, .refl, .fault error core⟩

theorem moves_caught (result : Callback α) (component : ComponentId)
    (descriptorType : Option String) (work : TraceId) (reason : String) :
    Moves R (caught result component descriptorType work reason) := by
  intro core
  cases result with
  | ok value => exact ⟨.refl, trivial⟩
  | error panic => exact ⟨core, .refl, .caught _ core⟩

theorem moves_uncaught (result : Callback α) : Moves R (uncaught result) := by
  intro core
  cases result with
  | ok value => exact ⟨.refl, trivial⟩
  | error panic => exact ⟨core, .refl, .unwound panic core⟩

theorem moves_ite {p : Prop} [Decidable p] {x y : Owner α} (hx : Moves R x) (hy : Moves R y) :
    Moves R (if p then x else y) := by
  split
  · exact hx
  · exact hy

theorem Moves.mono {S : Core → Core → Prop} {x : Owner α} (h : Moves R x)
    (hsub : ∀ core core', R core core' → S core core') : Moves S x :=
  fun core => Exec.follows_mono hsub (fun _ _ _ => id) (h core)

end Moves

/-! ## Access to shared state -/

section Shared

theorem moves_turn : Moves Step turn := moves_step (fun _ => rfl) fun _ => .turned

theorem moves_scopePhase : Moves Step scopePhase :=
  moves_bind moves_turn fun _ => moves_bind moves_get fun _ => moves_pure _

theorem moves_isRunning : Moves Step isRunning := moves_bind moves_scopePhase fun _ => moves_pure _

theorem moves_isCancelling : Moves Step isCancelling :=
  moves_bind moves_scopePhase fun _ => moves_pure _

/-- What `is_draining` returns still holds when it returns. -/
theorem isDraining_follows (core : Core) :
    Exec.Follows Step Exit core (isDraining.run core) fun draining core' =>
      draining = true → core'.scope.phase = .draining :=
  ⟨.single .turned, fun h => of_decide_eq_true h⟩

/-- A change of the private tables after a look at the state. -/
theorem moves_private {α : Type} {x : Owner α} {value : Core → α} {next : Core → Core}
    (hrun : ∀ core, x.run core = .ok (value core) (next core))
    (h : ∀ core, Privately core (next core)) : Moves Step x :=
  moves_step hrun fun core => .privately (h core)

/-- The private tables are read and written, and the computation goes on. -/
theorem moves_update {α : Type} {next : Core → Core} {rest : Core → Owner α}
    (h : ∀ core, Privately core (next core)) (hrest : ∀ core, Moves Step (rest core)) :
    Moves Step (do
      let core ← get
      set (next core)
      rest core) :=
  fun core => Exec.follows_of_path (.single (.privately (h core))) (hrest core (next core))

theorem moves_acceptFinite {message : QueuedMessage} (hplain : message.source = none) :
    Moves Step (acceptFinite (.message message)) := by
  intro core
  exact ⟨.tail (.single .turned) (.sent hplain), trivial⟩

theorem moves_acceptPlain (target : ComponentId) (messageType : TypeId) (message : ErasedValue) :
    Moves Step (acceptFinite (plainMessage target messageType message)) :=
  moves_acceptFinite rfl

theorem moves_stopGate (generation : Nat) : Moves Step (stopGate generation) := by
  refine moves_bind moves_turn fun _ => ?_
  intro core
  rw [Exec.run_bind_ok (EStateM.run_get core)]
  cases hgate : core.gates[generation]? with
  | none => exact ⟨.refl, trivial⟩
  | some gate => exact ⟨.single (.gateStopped hgate), trivial⟩

theorem moves_abort (task : Nat) : Moves Step (abort task) :=
  moves_bind moves_turn fun _ => moves_step (fun _ => rfl) fun _ => .aborted task

theorem moves_spawnOwned (context : TaskContext) {delivery : TaskDelivery}
    (hplain : ∀ id message, delivery = .timer id message → message.source = none) :
    Moves Step (spawnOwned context delivery) :=
  moves_bind moves_turn fun _ =>
    @moves_step _ _ _ _ Core.nextTask _ (fun _ => rfl) fun _ => .spawned context delivery hplain

theorem moves_nextWork : Moves Step nextWork := moves_private (fun _ => rfl) fun _ => rfl

end Shared

/-! ## Sources -/

section Sources

/-- `stop_source` reaches a state whose row it then marks, and fails only after
    that. -/
theorem stopSource_reaches (source : ActiveSource) (retainForDrain : Bool) (work : TraceId)
    (core : Core) :
    ∃ reached, ReflTransGen Step core reached ∧
      ((stopSource source retainForDrain work).run core =
          .ok () (reached.halted source.stamp.generation retainForDrain) ∨
        ∃ error, (stopSource source retainForDrain work).run core =
          .error (.error error) (reached.halted source.stamp.generation retainForDrain)) := by
  have hstop := moves_stopGate source.stamp.generation core
  unfold stopSource
  rw [EStateM.run_bind]
  cases hrun : (stopGate source.stamp.generation).run core with
  | error stop core₁ =>
      -- The gate itself never fails.
      exfalso
      unfold stopGate turn at hrun
      rw [EStateM.run_bind, EStateM.run_modify] at hrun
      simp only [EStateM.run_bind, EStateM.run_get] at hrun
      split at hrun <;> cases hrun
  | ok stopped core₁ =>
      rw [hrun] at hstop
      refine ⟨core₁.turn.taskAborted source.task,
        .tail (.tail hstop.1 .turned) (.aborted source.task), ?_⟩
      cases stopped with
      | ok value => exact .inl rfl
      | error reason => exact .inr ⟨_, rfl⟩

theorem moves_stopForDrain (source : ActiveSource) (work : TraceId) :
    Moves Step (stopSource source true work) := by
  intro core
  obtain ⟨reached, hpath, hok | ⟨error, herror⟩⟩ := stopSource_reaches source true work core
  · rw [hok]
    exact ⟨.tail hpath (.halted _), trivial⟩
  · rw [herror]
    exact ⟨_, .tail hpath (.halted _), .fault error _⟩

theorem moves_stopSourcesForDrain (sources : List ActiveSource) :
    Moves Step (stopSourcesForDrain sources) := by
  induction sources with
  | nil => exact moves_pure ()
  | cons source sources ih =>
      exact moves_bind moves_nextWork fun work => moves_bind (moves_stopForDrain source work) fun _ => ih

/-- Drain begins only once the scope is draining. -/
theorem beginDrain_follows {core : Core} (hphase : core.scope.phase = .draining) :
    Exec.Follows Step Exit core (beginDrain.run core) fun _ _ => True := by
  unfold beginDrain
  rw [Exec.run_bind_ok (EStateM.run_get core)]
  by_cases hdraining : core.draining = true
  · rw [if_pos hdraining]
    exact Exec.follows_pure .refl trivial
  · rw [if_neg hdraining]
    exact Exec.follows_of_path (.single (.drained hphase))
      (moves_stopSourcesForDrain core.sources { core with draining := true })

theorem moves_observeDrainCutoff : Moves Step observeDrainCutoff := by
  intro core
  unfold observeDrainCutoff
  rw [Exec.run_bind_ok (EStateM.run_get core)]
  by_cases hdraining : core.draining = true
  · rw [if_pos hdraining]
    exact Exec.follows_pure .refl trivial
  · rw [if_neg hdraining]
    refine Exec.follows_bind (isDraining_follows core) ?_
    intro draining core₁ _ hphase
    by_cases h : draining = true
    · rw [if_pos h]
      exact beginDrain_follows (hphase h)
    · rw [if_neg h]
      exact Exec.follows_pure .refl trivial

theorem moves_activateSource (component : ComponentId)
    (subscription : ErasedRuntimeSubscription) (work : TraceId) :
    Moves Step (activateSource component subscription work) := by
  refine moves_bind moves_get fun core => moves_ite (moves_pure ()) ?_
  refine moves_bind moves_isRunning fun running => moves_ite (moves_pure ()) ?_
  refine moves_bind (moves_uncaught _) fun _ => ?_
  refine moves_ite (moves_fault _ _ _ _) (moves_ite (moves_fault _ _ _ _) ?_)
  cases core.bindings.source subscription.sourcePlan with
  | error reason => exact moves_fault _ _ _ _
  | ok binding =>
      intro start
      have hrealized : (newRealization component subscription).run start =
          .ok (start.nextStamp component subscription) (start.realized component subscription) := rfl
      dsimp only
      rw [Exec.run_bind_ok hrealized]
      cases hstart : binding.start (start.nextStamp component subscription) with
      | error panic =>
          -- The Driver panics while it starts: the realization has no row.
          exact ⟨start.realized component subscription, .single (.realized _ _), .caught _ _⟩
      | ok value =>
          exact ⟨.single (.activated component subscription _), trivial⟩

theorem moves_withdrawSource (component : ComponentId) (id : SubscriptionId) (work : TraceId) :
    Moves Step (withdrawSource component id work) := by
  intro core
  unfold withdrawSource
  rw [Exec.run_bind_ok (EStateM.run_get core)]
  cases core.source? component id with
  | none => exact ⟨.refl, trivial⟩
  | some source =>
      dsimp only
      split
      · exact ⟨.refl, trivial⟩
      · obtain ⟨reached, hpath, hok | ⟨error, herror⟩⟩ := stopSource_reaches source false work core
        · rw [Exec.run_bind_ok hok]
          exact ⟨.tail hpath (.withdrawn source.stamp), trivial⟩
        · rw [EStateM.run_bind, herror]
          exact ⟨reached, hpath, .halted error reached _⟩

theorem moves_retain (component : ComponentId) (work : TraceId)
    (subscription : ErasedRuntimeSubscription) :
    Moves Step (applySubscriptionChange component work (.retain subscription)) := by
  intro core
  unfold applySubscriptionChange
  dsimp only
  rw [Exec.run_bind_ok (EStateM.run_get core)]
  cases hsource : core.source? component subscription.id with
  | none => exact ⟨.refl, trivial⟩
  | some source =>
      exact ⟨.single (.retained (List.mem_of_find?_eq_some hsource) subscription), trivial⟩

theorem moves_applySubscriptionChange (component : ComponentId) (work : TraceId)
    (change : ErasedSubscriptionChange) :
    Moves Step (applySubscriptionChange component work change) := by
  cases change with
  | start subscription => exact moves_activateSource component subscription work
  | retain subscription => exact moves_retain component work subscription
  | replace subscription =>
      exact moves_bind (moves_withdrawSource component subscription.id work) fun _ =>
        moves_ite (moves_activateSource component subscription work) (moves_pure ())
  | cancel id =>
      exact moves_bind (moves_withdrawSource component id work) fun _ => moves_pure ()

theorem moves_applyChanges (component : ComponentId) (work : TraceId)
    (changes : List ErasedSubscriptionChange) :
    Moves Step (applyChanges component work changes) := by
  induction changes with
  | nil => exact moves_pure ()
  | cons change changes ih =>
      exact moves_bind moves_observeDrainCutoff fun _ =>
        moves_bind (moves_applySubscriptionChange component work change) fun _ => ih

end Sources

/-! ## Command interpretation -/

section Arms

variable {message : TypeId} (component : ComponentId) (work : TraceId)

theorem moves_interpretEffect (command : EffectCommand message) :
    Moves Step (interpretEffect component work command) := by
  refine moves_bind moves_get fun core => moves_ite (moves_fault _ _ _ _)
    (moves_ite (moves_fault _ _ _ _) ?_)
  refine moves_bind (moves_private (fun _ => rfl) fun _ => rfl) fun _ => ?_
  refine moves_bind (moves_spawnOwned _ (by simp)) fun task => ?_
  exact moves_private (fun _ => rfl) fun _ => rfl

theorem moves_interpretSend (command : SendCommand) :
    Moves Step (interpretSend component work command) := by
  refine moves_bind moves_get fun core => moves_ite (moves_fault _ _ _ _) ?_
  exact moves_bind (moves_acceptPlain _ _ _) fun _ => moves_pure ()

theorem moves_resolvePort {protocol : TypeId} (port : Port protocol) (noun : String) :
    Moves Step (resolvePort component work port noun) := by
  refine moves_bind moves_get fun core => moves_ite (moves_fault _ _ _ _) ?_
  cases core.program.binding? protocol port.id with
  | none => exact moves_fault _ _ _ _
  | some binding => exact moves_pure binding

theorem moves_interpretNotify (command : NotificationCommand) :
    Moves Step (interpretNotify component work command) := by
  refine moves_bind (moves_resolvePort component work command.port _) fun binding => ?_
  refine moves_bind (moves_uncaught _) fun _ => moves_bind (moves_uncaught _) fun _ => ?_
  exact moves_bind (moves_acceptPlain _ _ _) fun _ => moves_pure ()

theorem moves_pushRequest (request : OutstandingRequest) : Moves Step (pushRequest request) :=
  fun _ => ⟨.single .requested, trivial⟩

theorem moves_interpretRequest (command : RequestCommand message) :
    Moves Step (interpretRequest component work command) := by
  refine moves_bind (moves_resolvePort component work command.port _) fun binding => ?_
  refine moves_update (fun _ => rfl) fun core => ?_
  refine moves_bind (moves_uncaught _) fun _ => moves_bind (moves_uncaught _) fun _ => ?_
  refine moves_bind (moves_pushRequest _) fun _ => ?_
  exact moves_bind (moves_acceptPlain _ _ _) fun _ => moves_pure ()

theorem moves_interpretReply (command : ReplyCommand) :
    Moves Step (interpretReply component work command) := by
  intro core
  unfold interpretReply
  rw [Exec.run_bind_ok (EStateM.run_get core)]
  cases hrequest : core.requests.find? (·.correlation = command.replyTo.correlation) with
  | none => exact moves_fault _ _ _ _ core
  | some request =>
      dsimp only
      rw [Exec.run_bind_ok (EStateM.run_modify _ _)]
      by_cases htype : request.replyType ≠ command.replyType
      · rw [if_pos htype]
        exact ⟨_, .single (.mistyped hrequest), .fault _ _⟩
      · rw [if_neg htype]
        cases hcontinuation : request.continuation with
        | host completion =>
            exact ⟨.single (.replied hrequest
              (by simp [OutstandingRequest.completion?, hcontinuation]) _), trivial⟩
        | component requester mapper messageType =>
            refine Exec.follows_of_path (.single (.continued hrequest
              (by simp [OutstandingRequest.completion?, hcontinuation])
              ⟨command.replyType, command.reply⟩)) ?_
            refine (moves_bind (moves_caught _ _ _ _ _) fun mapped => ?_) _
            exact moves_bind (moves_acceptPlain _ _ _) fun _ => moves_pure ()

theorem moves_interpretAfter (value : Val message) :
    Moves Step (interpretAfter component work value) := by
  refine moves_update (fun _ => rfl) fun core => moves_bind (moves_spawnOwned _ ?_) fun task => ?_
  · intro id queued hdelivery
    cases hdelivery
    rfl
  · exact moves_private (fun _ => rfl) fun _ => rfl

theorem moves_interpretDeclaration (declaration : Declaration message) :
    Moves Step (interpretDeclaration component work declaration) := by
  cases declaration with
  | effect command => exact moves_interpretEffect component work command
  | send command => exact moves_interpretSend component work command
  | notify command => exact moves_interpretNotify component work command
  | request command => exact moves_interpretRequest component work command
  | reply command => exact moves_interpretReply component work command
  | after delay value => exact moves_interpretAfter component work value

end Arms

theorem moves_interpretDeclarations {message : TypeId} (component : ComponentId)
    (declarations : List (Declaration message)) :
    Moves Step (interpretDeclarations component declarations) := by
  induction declarations with
  | nil => exact moves_pure ()
  | cons declaration declarations ih =>
      refine moves_bind moves_isCancelling fun _ => moves_ite (moves_pure ()) ?_
      refine moves_bind moves_observeDrainCutoff fun _ => moves_bind moves_nextWork fun work => ?_
      exact moves_bind (moves_interpretDeclaration component work declaration) fun _ => ih

theorem moves_interpret (component : ComponentId) (command : ErasedCommand) :
    Moves Step (interpret component command) :=
  moves_interpretDeclarations component _

/-! ## Components -/

theorem moves_onComponent {α : Type} (id : ComponentId) (messageType : TypeId)
    (kernel : ErasedComponentKernel) (action : EStateM Panic ErasedComponentKernel α) :
    Moves Step (onComponent id messageType kernel action) := by
  intro core
  unfold onComponent EStateM.run
  cases action kernel with
  | error panic kernel => exact ⟨.single (.privately rfl), trivial⟩
  | ok value kernel => exact ⟨.single (.privately rfl), trivial⟩

theorem moves_requireChanges (component : ComponentId) (work : TraceId)
    (changes : Except SubscriptionId (List ErasedSubscriptionChange)) :
    Moves Step (requireChanges component work changes) := by
  cases changes with
  | error duplicate => exact moves_fault _ _ _ _
  | ok changes => exact moves_pure changes

theorem moves_initializeComponents (components : List (ComponentId × TypeId)) :
    Moves Step (initializeComponents components) := by
  induction components with
  | nil => exact moves_pure ()
  | cons component components ih =>
      refine moves_bind moves_isCancelling fun _ => moves_ite (moves_pure ()) ?_
      refine moves_bind moves_nextWork fun work => moves_bind moves_get fun core => ?_
      cases core.program.component? component.1 component.2 with
      | none => exact ih
      | some kernel =>
          refine moves_bind (moves_uncaught _) fun _ => ?_
          refine moves_bind (moves_onComponent _ _ _ _) fun reconciled => ?_
          refine moves_bind (moves_uncaught _) fun result => ?_
          refine moves_bind (moves_onComponent _ _ _ _) fun initial => ?_
          refine moves_bind (moves_requireChanges _ _ _) fun changes => ?_
          refine moves_bind moves_isCancelling fun _ => moves_ite (moves_pure ()) ?_
          refine moves_bind moves_observeDrainCutoff fun _ => ?_
          refine moves_bind (moves_applyChanges _ _ _) fun _ => ?_
          obtain ⟨command, kernel'⟩ := initial
          match command with
          | .ok (some command) =>
              refine moves_bind moves_isCancelling fun _ => moves_ite (moves_pure ()) ?_
              exact moves_bind (moves_interpret _ _) fun _ => ih
          | .ok none => exact ih
          | .error panic => exact ih

theorem moves_initializeProgram : Moves Step initializeProgram :=
  moves_bind moves_observeDrainCutoff fun _ => moves_bind moves_get fun _ =>
    moves_initializeComponents _

theorem moves_finishTransition (target : ComponentId) (messageType : TypeId)
    (kernel : ErasedComponentKernel) (work : TraceId) (command : ErasedCommand) :
    Moves Step (finishTransition target messageType kernel work command) := by
  refine moves_bind moves_isCancelling fun _ => moves_ite (moves_pure ()) ?_
  refine moves_bind moves_observeDrainCutoff fun _ => ?_
  refine moves_bind (moves_uncaught _) fun _ => ?_
  refine moves_bind (moves_onComponent _ _ _ _) fun reconciled => ?_
  refine moves_bind (moves_uncaught _) fun result => ?_
  refine moves_bind (moves_requireChanges _ _ _) fun changes => ?_
  refine moves_bind moves_isCancelling fun _ => moves_ite (moves_pure ()) ?_
  refine moves_bind moves_observeDrainCutoff fun _ => ?_
  refine moves_bind (moves_applyChanges _ _ _) fun _ => ?_
  exact moves_bind moves_isCancelling fun _ => moves_ite (moves_pure ()) (moves_interpret _ _)

/-- What `deliver_message` does once the transition has begun. -/
def transition (message : QueuedMessage) (work : TraceId) (kernel : ErasedComponentKernel) :
    Owner Unit := do
  let (transitioned, kernel) ← onComponent message.target message.targetMessageType kernel
    (ErasedComponentKernel.transitionErased message.message)
  let command ← caught transitioned message.target none work "Component transition panicked"
  match command with
  | none => throw (.error (.harness "internal typed Message delivery mismatch"))
  | some command => finishTransition message.target message.targetMessageType kernel work command

theorem moves_transition (message : QueuedMessage) (work : TraceId)
    (kernel : ErasedComponentKernel) : Moves Step (transition message work kernel) := by
  refine moves_bind (moves_onComponent _ _ _ _) fun transitioned => ?_
  refine moves_bind (moves_caught _ _ _ _ _) fun command => ?_
  cases command with
  | none => exact moves_throw _
  | some command => exact moves_finishTransition _ _ _ _ _

/-! ## Events -/

section Events

theorem Moves.advance {α : Type} {x : Owner α} (h : Moves Step x) : Moves Advance x :=
  h.mono fun _ _ => .step

theorem moves_deliverMessage (message : QueuedMessage) : Moves Advance (deliverMessage message) := by
  refine moves_bind moves_nextWork.advance fun work => moves_bind moves_get fun core => ?_
  cases core.program.component? message.target message.targetMessageType with
  | none => exact moves_fault _ _ _ _
  | some kernel =>
      refine moves_bind (moves_step (fun _ => rfl) fun _ => .transitioned message) fun _ => ?_
      exact (moves_transition message work kernel).advance

theorem moves_processMessage (message : QueuedMessage) : Moves Advance (processMessage message) := by
  refine moves_bind moves_get fun core => ?_
  cases message.source with
  | none => exact moves_deliverMessage message
  | some stamp => exact moves_ite (moves_deliverMessage message) (moves_pure ())

theorem moves_sendMapped (source : ActiveSource) (messages : List ErasedValue) :
    Moves Advance (sendMapped source messages) := by
  induction messages with
  | nil => exact moves_pure ()
  | cons message messages ih =>
      refine moves_bind ?_ fun _ => ih
      exact fun core => ⟨.tail (.single (.step .turned)) (.sentMapped _), trivial⟩

theorem moves_endSource (source : ActiveSource) (work : TraceId) :
    Moves Advance (endSource source work) := by
  refine moves_bind (moves_step (fun _ => rfl) fun _ => .finished _) fun _ => ?_
  refine moves_ite (moves_pure ()) ?_
  refine moves_bind (moves_stopGate _).advance fun stopped => ?_
  refine moves_bind (moves_abort _).advance fun _ => ?_
  cases stopped with
  | ok value => exact moves_pure ()
  | error reason => exact moves_fault _ _ _ _

theorem moves_mapTerminalEvent (source : ActiveSource) (event : ErasedSourceEvent) :
    Moves Advance (mapTerminalEvent source event) := by
  intro core
  unfold mapTerminalEvent EStateM.run
  dsimp only
  cases SourcePlan.mapEvent event source.plan with
  | error panic plan => exact ⟨.single (.planned _ plan), trivial⟩
  | ok outer plan => exact ⟨.single (.planned _ plan), trivial⟩

theorem moves_processSourceEvent (stamp : SourceStamp) (terminalType : DescriptorType TypeId)
    (event : ErasedSourceEvent) : Moves Advance (processSourceEvent stamp terminalType event) := by
  refine moves_bind moves_get fun core => ?_
  cases core.source? stamp.component stamp.subscription with
  | none => exact moves_pure ()
  | some source =>
      refine moves_ite (moves_pure ()) (moves_bind moves_nextWork.advance fun work => ?_)
      refine moves_bind (moves_mapTerminalEvent source event) fun mapped => ?_
      refine moves_bind (moves_caught _ _ _ _ _) fun outer => ?_
      refine moves_bind (moves_caught _ _ _ _ _) fun messages => ?_
      refine moves_bind (moves_step (fun _ => rfl) fun _ => .mapped _ _ _ _ _) fun _ => ?_
      refine moves_ite (moves_bind (moves_endSource source work) fun _ => ?_) ?_
      · exact moves_sendMapped source messages
      · exact moves_sendMapped source messages

theorem moves_processEffect (id : Nat) (outcome : ErasedOutcome) :
    Moves Step (processEffect id outcome) := by
  intro core
  unfold processEffect
  rw [Exec.run_bind_ok (EStateM.run_get core)]
  cases core.effects.find? (·.id = id) with
  | none => exact ⟨.refl, trivial⟩
  | some effect =>
      have hprivate : Privately core { core with effects := core.effects.eraseP (·.id = id) } := rfl
      dsimp only
      rw [EStateM.run_bind, EStateM.run_set]
      refine Exec.follows_of_path (.single (.privately hprivate)) ?_
      cases effect.mapper with
      | none => exact ⟨.refl, trivial⟩
      | some mapper =>
          refine (moves_bind moves_nextWork fun work => ?_) _
          refine moves_bind (moves_caught _ _ _ _ _) fun message => ?_
          exact moves_bind (moves_acceptPlain _ _ _) fun _ => moves_pure ()

theorem moves_processPortNotification (ingress : NotificationCommand) :
    Moves Step (processPortNotification ingress) := by
  refine moves_bind moves_nextWork fun work => ?_
  refine moves_bind (moves_resolvePort _ _ _ _) fun binding => ?_
  refine moves_bind (moves_caught _ _ _ _ _) fun protocolMessage => ?_
  refine moves_bind (moves_caught _ _ _ _ _) fun converted => ?_
  exact moves_bind (moves_acceptPlain _ _ _) fun _ => moves_pure ()

/-- The Port checks change nothing. -/
theorem resolvePort_run {protocol : TypeId} (component : ComponentId) (work : TraceId)
    (port : Port protocol) (noun : String) (core : Core) :
    (∃ binding, (resolvePort component work port noun).run core = .ok binding core) ∨
      ∃ error, (resolvePort component work port noun).run core = .error (.error error) core := by
  unfold resolvePort
  rw [Exec.run_bind_ok (EStateM.run_get core)]
  split
  · exact .inr ⟨_, rfl⟩
  · cases core.program.binding? protocol port.id with
    | none => exact .inr ⟨_, rfl⟩
    | some binding => exact .inl ⟨binding, rfl⟩

theorem resolveRequestPort_run (ingress : PortRequest) (work : TraceId) (core : Core) :
    (∃ binding, (resolveRequestPort ingress work).run core = .ok binding core) ∨
      ∃ error, (resolveRequestPort ingress work).run core =
        .error (.error error) (core.discard (some ingress.completion)) := by
  have hrun := resolvePort_run externalPort work ingress.port "request" core
  unfold resolveRequestPort
  unfold EStateM.run at hrun ⊢
  dsimp only
  rcases hrun with ⟨binding, hrun⟩ | ⟨error, hrun⟩
  · rw [hrun]
    exact .inl ⟨binding, rfl⟩
  · rw [hrun]
    exact .inr ⟨error, rfl⟩

theorem moves_resolveRequestPort (ingress : PortRequest) (work : TraceId) :
    Moves Step (resolveRequestPort ingress work) := by
  intro core
  rcases resolveRequestPort_run ingress work core with ⟨binding, hrun⟩ | ⟨error, hrun⟩
  · rw [hrun]
    exact ⟨.refl, trivial⟩
  · rw [hrun]
    exact ⟨_, .single (.discarded _), .fault error _⟩

/-- What `process_port_ingress` does once a host request is outstanding. -/
def convertRequest (ingress : PortRequest) (correlation : Nat) (binding : PortBinding)
    (work : TraceId) : Owner Unit := do
  let protocolMessage ← caught (ingress.intoMessage correlation) binding.provider.id none work
    "external Request protocol conversion panicked"
  let converted ← caught (binding.convert protocolMessage) binding.provider.id none work
    "external Request binding conversion panicked"
  if ← acceptFinite (plainMessage binding.provider.id binding.providerMessageType converted) then
    pure ()
  else modify Core.popRequest

theorem moves_convertRequest (ingress : PortRequest) (correlation : Nat) (binding : PortBinding)
    (work : TraceId) : Moves Step (convertRequest ingress correlation binding work) := by
  refine moves_bind (moves_caught _ _ _ _ _) fun protocolMessage => ?_
  refine moves_bind (moves_caught _ _ _ _ _) fun converted => ?_
  refine moves_bind (moves_acceptPlain _ _ _) fun accepted => moves_ite (moves_pure _) ?_
  exact moves_step (fun _ => rfl) fun _ => .popped

theorem moves_processPortRequest (ingress : PortRequest) :
    Moves Step (processPortRequest ingress) := by
  refine moves_bind moves_nextWork fun work => ?_
  refine moves_bind (moves_resolveRequestPort ingress work) fun binding => ?_
  refine moves_update (fun _ => rfl) fun core => ?_
  refine moves_bind (moves_pushRequest _) fun _ => ?_
  exact moves_convertRequest ingress core.nextRequest binding work

theorem moves_processTimer (timer : Nat) (message : QueuedMessage) :
    Moves Advance (processTimer timer message) := by
  intro core
  unfold processTimer
  rw [Exec.run_bind_ok (EStateM.run_get core)]
  cases core.timers.find? (·.id = timer) with
  | none => exact ⟨.refl, trivial⟩
  | some found =>
      have hprivate : Privately core { core with timers := core.timers.eraseP (·.id = timer) } := rfl
      exact Exec.follows_of_path (.single (.step (.privately hprivate)))
        (moves_processMessage message _)

/-- Every event other than a Drain marker. -/
theorem moves_dispatch {event : LiveEvent} (hevent : ∀ mode, event ≠ .shutdown mode) :
    Moves Advance (dispatch event) := by
  cases event with
  | message message => exact moves_processMessage message
  | portIngress ingress =>
      cases ingress with
      | notification ingress => exact (moves_processPortNotification ingress).advance
      | request ingress => exact (moves_processPortRequest ingress).advance
  | sourceEvent stamp terminalType event => exact moves_processSourceEvent stamp terminalType event
  | effectOutcome effect outcome => exact (moves_processEffect effect outcome).advance
  | timerFired timer message => exact moves_processTimer timer message
  | shutdown mode => exact absurd rfl (hevent mode)

theorem moves_taskFault (context : TaskContext) (panicked : Bool) (reason : String) :
    Moves Step (taskFault context panicked reason) := by
  cases context with
  | effect id component descriptorType work => exact moves_fault _ _ _ _
  | source stamp descriptorType work =>
      exact moves_bind moves_get fun _ => moves_ite (moves_fault _ _ _ _) (moves_pure _)
  | timer component work => exact moves_fault _ _ _ _

theorem moves_joinTask (exit : TaskExit) : Moves Step (joinTask exit) := by
  unfold joinTask
  cases exit.outcome with
  | returned => exact moves_pure _
  | cancelled => exact moves_pure _
  | failed reason => exact moves_taskFault _ _ _
  | panicked => exact moves_taskFault _ _ _
  | lost => exact moves_bind moves_nextWork fun _ => moves_fault _ _ _ _

theorem moves_retainPreCancelEffectOutcome (event : LiveEvent) :
    Moves Step (retainPreCancelEffectOutcome event) := by
  cases event with
  | effectOutcome effect outcome => exact moves_processEffect effect outcome
  | _ => exact moves_step (fun _ => rfl) fun _ => .discarded _

end Events

end Live

end Samara
