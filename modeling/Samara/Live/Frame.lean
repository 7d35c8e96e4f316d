/-
  Samara.Live.Frame

  What leaves the kernels and the installed Subscriptions of a live runtime
  alone: everything the owner does, but for transitions, reconciliations and
  the changes that those make.
-/
import Samara.Chains
import Samara.Live.Owner

namespace Samara

variable [RustTypes]

namespace Live

/-- What a row realizes and what it has installed. -/
def ActiveSource.seat (source : ActiveSource) : SourceStamp × ErasedRuntimeSubscription :=
  (source.stamp, source.subscription)

/-- History of the Subscriptions that are installed, used and withdrawn. -/
def Observation.isInstallation : Observation → Bool
  | .activated _ _ | .retained _ _ | .withdrawn _ | .mapped _ _ _ _ _ => true
  | _ => false

/-- `source` is a row of `core` later on: retained for Drain if that was. -/
def Core.Continued (core : Core) (source : ActiveSource) : Prop :=
  ∃ old ∈ core.sources, source.seat = old.seat ∧ old.plan.Resumes source.plan ∧
    (old.drainRetained = true → source.drainRetained = true)

/-- The kernels are the same, and what is installed in the rows that are left. -/
structure Unmoved (core core' : Core) : Prop where
  program : core'.program = core.program
  nextGeneration : core.nextGeneration ≤ core'.nextGeneration
  installations : core'.journal.filter (·.isInstallation) =
    core.journal.filter (·.isInstallation)
  seats : (core'.sources.map ActiveSource.seat).Sublist (core.sources.map ActiveSource.seat)
  rows : ∀ source ∈ core'.sources, core.Continued source
  cutoff : core.scope.phase = .cancelling → core'.scope.phase = .cancelling

namespace Unmoved

variable {core core' : Core}

/-- Everything but tables that no row is kept in is the same. -/
theorem of_eq (hprogram : core'.program = core.program)
    (hnextGeneration : core.nextGeneration ≤ core'.nextGeneration)
    (hinstallations : core'.journal.filter (·.isInstallation) =
      core.journal.filter (·.isInstallation))
    (hsources : core'.sources = core.sources)
    (hcutoff : core.scope.phase = .cancelling → core'.scope.phase = .cancelling) :
    Unmoved core core' := by
  refine ⟨hprogram, hnextGeneration, hinstallations, by rw [hsources], ?_, hcutoff⟩
  intro source hsource
  rw [hsources] at hsource
  exact ⟨source, hsource, rfl, refl source.plan, id⟩

instance : IsPreorder Core Unmoved where
  refl core := of_eq rfl le_rfl rfl rfl id
  trans first second third h h' := by
    refine ⟨h'.program.trans h.program, h.nextGeneration.trans h'.nextGeneration,
      h'.installations.trans h.installations, h'.seats.trans h.seats, ?_,
      fun hphase => h'.cutoff (h.cutoff hphase)⟩
    intro source hsource
    obtain ⟨middle, hmiddle, hseat, hplan, hkept⟩ := h'.rows source hsource
    obtain ⟨old, hold, hseat', hplan', hkept'⟩ := h.rows middle hmiddle
    exact ⟨old, hold, hseat.trans hseat', IsTrans.trans _ _ _ hplan' hplan,
      fun hretained => hkept (hkept' hretained)⟩

/-- A change of the private tables, of the tasks and of the gates. -/
theorem of_rest (h : core' = { core with
      effects := core'.effects
      requests := core'.requests
      timers := core'.timers
      nextGeneration := core'.nextGeneration
      nextEffect := core'.nextEffect
      nextRequest := core'.nextRequest
      nextTimer := core'.nextTimer
      nextWork := core'.nextWork
      nextTask := core'.nextTask
      draining := core'.draining
      gates := core'.gates
      tasks := core'.tasks
      finished := core'.finished
      waiters := core'.waiters })
    (hnextGeneration : core.nextGeneration ≤ core'.nextGeneration) : Unmoved core core' := by
  refine of_eq ?_ hnextGeneration ?_ ?_ ?_
  · rw [h]
  · rw [h]
  · rw [h]
  · rw [h]
    exact id

theorem observed {observation : Observation} (h : observation.isInstallation = false) :
    Unmoved core (core.observed observation) := by
  refine of_eq rfl le_rfl ?_ rfl id
  rw [Core.observed_journal, List.filter_append, List.filter_cons_of_neg (by simp [h]),
    List.filter_nil, List.append_nil]

theorem turned (core : Core) : Unmoved core core.turn := by
  have hbeside := turn_beside core
  refine of_eq hbeside.program hbeside.nextGeneration.ge (by rw [hbeside.journal])
    hbeside.sources ?_
  intro hphase
  rw [(turn_beats core).phase_eq (by rw [hphase]; simp)]
  exact hphase

theorem accepted (core : Core) (event : LiveEvent) : Unmoved core (core.accepted event) := by
  refine of_eq rfl le_rfl rfl rfl ?_
  intro hphase
  simp [Core.accepted, Scope.called, Scope.method, Scope.acceptFinite, hphase]

/-- An assignment to the flags or the plan of a row. -/
theorem withSource (core : Core) (generation : Nat) {update : ActiveSource → ActiveSource}
    (hseat : ∀ source, (update source).seat = source.seat)
    (hplan : ∀ source, core.sources.find? (·.stamp.generation = generation) = some source →
      source.plan.Resumes (update source).plan)
    (hkept : ∀ source, source.drainRetained = true → (update source).drainRetained = true) :
    Unmoved core (core.withSource generation update) := by
  refine ⟨rfl, le_rfl, rfl, ?_, ?_, id⟩
  · have hsame : (core.withSource generation update).sources.map ActiveSource.seat =
        core.sources.map ActiveSource.seat :=
      Table.map_modifyFirst (fun source _ => hseat source) core.sources
    rw [hsame]
  · intro source hsource
    rcases Table.mem_modifyFirst hsource with hmem | ⟨old, hold, rfl⟩
    · exact ⟨source, hmem, rfl, refl source.plan, id⟩
    · exact ⟨old, List.mem_of_find?_eq_some hold, hseat old, hplan old hold, hkept old⟩

theorem halted (core : Core) (generation : Nat) (retainForDrain : Bool) :
    Unmoved core (core.halted generation retainForDrain) := by
  refine withSource core generation (fun _ => rfl) (fun source _ => refl source.plan) ?_
  intro source hretained
  exact Bool.or_eq_true_iff.mpr (.inl hretained)

theorem withoutSource (core : Core) (generation : Nat) :
    Unmoved core (core.withoutSource generation) := by
  refine ⟨rfl, le_rfl, rfl, List.eraseP_sublist.map _, ?_, id⟩
  intro source hsource
  exact ⟨source, List.mem_of_mem_eraseP hsource, rfl, refl source.plan, id⟩

theorem discard (core : Core) (completion : Option Nat) : Unmoved core (core.discard completion) := by
  cases completion with
  | none => exact refl core
  | some completion =>
      have hwaits : Unmoved core (core.dropCompletion completion) := of_eq rfl le_rfl rfl rfl id
      exact IsTrans.trans _ _ _ hwaits (observed rfl)

end Unmoved

/-! ## Frames -/

open Exec (leads_pure leads_throw leads_modify leads_get leads_bind leads_ite)

/-- Whatever `action` comes to, it leaves the kernels and the installed
    Subscriptions alone. -/
abbrev Keeps {α : Type} (action : Owner α) : Prop := Exec.Leads Unmoved action

section Frames

variable {α : Type}

/-- The state is read and written, and the computation goes on. -/
theorem keeps_update {next : Core → Core} {rest : Core → Owner α}
    (h : ∀ core, Unmoved core (next core)) (hrest : ∀ core, Keeps (rest core)) :
    Keeps (do
      let core ← get
      set (next core)
      rest core) :=
  fun core => IsTrans.trans _ _ _ (h core) (hrest core (next core))

theorem keeps_get : Keeps get := fun core => refl core

/-- The state is only looked at. -/
theorem keeps_look {rest : Core → Owner α} (h : ∀ core, Keeps (rest core)) : Keeps (get >>= rest) :=
  leads_get fun core => h core core

theorem keeps_fault (component : ComponentId) (descriptorType : Option String) (work : TraceId)
    (reason : String) : Keeps (runtimeFault component descriptorType work reason : Owner α) :=
  leads_throw _

theorem keeps_caught (result : Callback α) (component : ComponentId)
    (descriptorType : Option String) (work : TraceId) (reason : String) :
    Keeps (caught result component descriptorType work reason) := by
  cases result with
  | ok value => exact leads_pure value
  | error panic => exact fun core => .observed rfl

theorem keeps_uncaught (result : Callback α) : Keeps (uncaught result) := by
  cases result with
  | ok value => exact leads_pure value
  | error panic => exact fun core => .observed rfl

/-- Tables that no row is kept in are changed. -/
theorem keeps_rest {next : Core → Core} (h : ∀ core, next core = { core with
      effects := (next core).effects
      requests := (next core).requests
      timers := (next core).timers
      nextGeneration := core.nextGeneration
      nextEffect := (next core).nextEffect
      nextRequest := (next core).nextRequest
      nextTimer := (next core).nextTimer
      nextWork := (next core).nextWork
      nextTask := (next core).nextTask
      draining := (next core).draining
      gates := (next core).gates
      tasks := (next core).tasks
      finished := (next core).finished
      waiters := (next core).waiters }) : Keeps (modify next : Owner Unit) := by
  refine leads_modify fun core => ?_
  have hnext : (next core).nextGeneration = core.nextGeneration :=
    (congrArg Core.nextGeneration (h core) :)
  refine .of_rest ?_ hnext.ge
  rw [hnext]
  exact h core

theorem keeps_turn : Keeps turn := Unmoved.turned

theorem keeps_scopePhase : Keeps scopePhase :=
  leads_bind keeps_turn fun _ => keeps_look fun _ => leads_pure _

theorem keeps_isRunning : Keeps isRunning := leads_bind keeps_scopePhase fun _ => leads_pure _

theorem keeps_isCancelling : Keeps isCancelling := leads_bind keeps_scopePhase fun _ => leads_pure _

theorem keeps_isDraining : Keeps isDraining := leads_bind keeps_scopePhase fun _ => leads_pure _

theorem keeps_acceptFinite (event : LiveEvent) : Keeps (acceptFinite event) :=
  leads_bind keeps_turn fun _ => keeps_update (fun core => .accepted core event) fun _ =>
    leads_pure _

theorem keeps_stopGate (generation : Nat) : Keeps (stopGate generation) := by
  refine leads_bind keeps_turn fun _ => leads_get fun core => ?_
  cases core.gates[generation]? with
  | none => exact refl core
  | some gate => exact .of_rest rfl le_rfl

theorem keeps_abort (task : Nat) : Keeps (abort task) :=
  leads_bind keeps_turn fun _ => keeps_rest fun _ => rfl

theorem keeps_spawnOwned (context : TaskContext) (delivery : TaskDelivery) :
    Keeps (spawnOwned context delivery) :=
  leads_bind keeps_turn fun _ => keeps_update (fun _ => .of_rest rfl le_rfl) fun _ => leads_pure _

theorem keeps_nextWork : Keeps nextWork :=
  keeps_update (fun _ => .of_rest rfl le_rfl) fun _ => leads_pure _

/-! ### Drain -/

theorem keeps_stopSource (source : ActiveSource) (retainForDrain : Bool) (work : TraceId) :
    Keeps (stopSource source retainForDrain work) := by
  refine leads_bind (keeps_stopGate _) fun stopped => leads_bind (keeps_abort _) fun _ => ?_
  refine leads_bind (leads_modify fun core => .halted core _ retainForDrain) fun _ => ?_
  cases stopped with
  | ok value => exact leads_pure ()
  | error reason => exact keeps_fault _ _ _ _

theorem keeps_stopSourcesForDrain (sources : List ActiveSource) :
    Keeps (stopSourcesForDrain sources) := by
  induction sources with
  | nil => exact leads_pure ()
  | cons source sources ih =>
      exact leads_bind keeps_nextWork fun work =>
        leads_bind (keeps_stopSource source true work) fun _ => ih

theorem keeps_beginDrain : Keeps beginDrain := by
  refine leads_get fun core => ?_
  by_cases hdraining : core.draining = true
  · rw [if_pos hdraining]
    exact refl core
  · rw [if_neg hdraining]
    have hset : Unmoved core { core with draining := true } := .of_rest rfl le_rfl
    exact IsTrans.trans _ _ _ hset (keeps_stopSourcesForDrain core.sources _)

theorem keeps_observeDrainCutoff : Keeps observeDrainCutoff := by
  refine keeps_look fun core => leads_ite (fun _ => leads_pure ()) fun _ => ?_
  exact leads_bind keeps_isDraining fun _ =>
    leads_ite (fun _ => keeps_beginDrain) fun _ => leads_pure ()

/-! ### Commands -/

section Arms

variable {message : TypeId} (component : ComponentId) (work : TraceId)

theorem keeps_interpretEffect (command : EffectCommand message) :
    Keeps (interpretEffect component work command) := by
  refine keeps_look fun core => leads_ite (fun _ => keeps_fault _ _ _ _) fun _ => ?_
  refine leads_ite (fun _ => keeps_fault _ _ _ _) fun _ => ?_
  refine leads_bind (keeps_rest fun _ => rfl) fun _ => ?_
  refine leads_bind (keeps_spawnOwned _ _) fun task => ?_
  exact keeps_rest fun _ => rfl

theorem keeps_interpretSend (command : SendCommand) :
    Keeps (interpretSend component work command) := by
  refine keeps_look fun core => leads_ite (fun _ => keeps_fault _ _ _ _) fun _ => ?_
  exact leads_bind (keeps_acceptFinite _) fun _ => leads_pure ()

theorem keeps_resolvePort {protocol : TypeId} (port : Port protocol) (noun : String) :
    Keeps (resolvePort component work port noun) := by
  refine keeps_look fun core => leads_ite (fun _ => keeps_fault _ _ _ _) fun _ => ?_
  cases core.program.binding? protocol port.id with
  | none => exact keeps_fault _ _ _ _
  | some binding => exact leads_pure binding

theorem keeps_interpretNotify (command : NotificationCommand) :
    Keeps (interpretNotify component work command) := by
  refine leads_bind (keeps_resolvePort component work command.port _) fun binding => ?_
  refine leads_bind (keeps_uncaught _) fun _ => leads_bind (keeps_uncaught _) fun _ => ?_
  exact leads_bind (keeps_acceptFinite _) fun _ => leads_pure ()

theorem keeps_pushRequest (request : OutstandingRequest) : Keeps (pushRequest request) :=
  leads_bind (keeps_rest fun _ => rfl) fun _ => fun _ => .observed rfl

theorem keeps_interpretRequest (command : RequestCommand message) :
    Keeps (interpretRequest component work command) := by
  refine leads_bind (keeps_resolvePort component work command.port _) fun binding => ?_
  refine keeps_update (fun _ => .of_rest rfl le_rfl) fun core => ?_
  refine leads_bind (keeps_uncaught _) fun _ => leads_bind (keeps_uncaught _) fun _ => ?_
  refine leads_bind (keeps_pushRequest _) fun _ => ?_
  exact leads_bind (keeps_acceptFinite _) fun _ => leads_pure ()

theorem keeps_interpretReply (command : ReplyCommand) :
    Keeps (interpretReply component work command) := by
  refine keeps_look fun core => ?_
  cases core.requests.find? (·.correlation = command.replyTo.correlation) with
  | none => exact keeps_fault _ _ _ _
  | some request =>
      refine leads_bind (keeps_rest fun _ => rfl) fun _ => leads_ite (fun _ => ?_) fun _ => ?_
      · exact leads_bind (leads_modify fun core => .discard core _) fun _ => keeps_fault _ _ _ _
      · refine leads_bind (leads_modify fun _ => .observed rfl) fun _ => ?_
        cases request.continuation with
        | host completion => exact keeps_rest fun _ => rfl
        | component requester mapper messageType =>
            refine leads_bind (keeps_caught _ _ _ _ _) fun mapped => ?_
            exact leads_bind (keeps_acceptFinite _) fun _ => leads_pure ()

theorem keeps_interpretAfter (value : Val message) :
    Keeps (interpretAfter component work value) := by
  refine keeps_update (fun _ => .of_rest rfl le_rfl) fun core => ?_
  refine leads_bind (keeps_spawnOwned _ _) fun task => ?_
  exact keeps_rest fun _ => rfl

theorem keeps_interpretDeclaration (declaration : Declaration message) :
    Keeps (interpretDeclaration component work declaration) := by
  cases declaration with
  | effect command => exact keeps_interpretEffect component work command
  | send command => exact keeps_interpretSend component work command
  | notify command => exact keeps_interpretNotify component work command
  | request command => exact keeps_interpretRequest component work command
  | reply command => exact keeps_interpretReply component work command
  | after delay value => exact keeps_interpretAfter component work value

end Arms

theorem keeps_interpret (component : ComponentId) (command : ErasedCommand) :
    Keeps (interpret component command) := by
  unfold interpret
  generalize command.command.intoDeclarations = declarations
  induction declarations with
  | nil => exact leads_pure ()
  | cons declaration declarations ih =>
      refine leads_bind keeps_isCancelling fun _ => leads_ite (fun _ => leads_pure ()) fun _ => ?_
      refine leads_bind keeps_observeDrainCutoff fun _ => leads_bind keeps_nextWork fun work => ?_
      exact leads_bind (keeps_interpretDeclaration component work declaration) fun _ => ih

/-! ### Events -/

theorem keeps_sendMapped (source : ActiveSource) (messages : List ErasedValue) :
    Keeps (sendMapped source messages) := by
  induction messages with
  | nil => exact leads_pure ()
  | cons message messages ih => exact leads_bind (keeps_acceptFinite _) fun _ => ih

theorem keeps_endSource (source : ActiveSource) (work : TraceId) :
    Keeps (endSource source work) := by
  refine leads_bind (leads_modify fun core =>
    .withSource core _ (fun _ => rfl) (fun source _ => refl source.plan) fun _ => id) fun _ => ?_
  refine leads_ite (fun _ => leads_pure ()) fun _ => ?_
  refine leads_bind (keeps_stopGate _) fun stopped => leads_bind (keeps_abort _) fun _ => ?_
  cases stopped with
  | ok value => exact leads_pure ()
  | error reason => exact keeps_fault _ _ _ _

theorem keeps_processEffect (id : Nat) (outcome : ErasedOutcome) :
    Keeps (processEffect id outcome) := by
  refine leads_get fun core => ?_
  cases core.effects.find? (·.id = id) with
  | none => exact refl core
  | some effect =>
      have htaken : Unmoved core { core with effects := core.effects.eraseP (·.id = id) } :=
        .of_rest rfl le_rfl
      dsimp only
      rw [Exec.run_bind_ok (EStateM.run_set _ _)]
      refine IsTrans.trans _ _ _ htaken ?_
      cases effect.mapper with
      | none => exact (leads_pure () : Keeps (pure ())) _
      | some mapper =>
          refine (leads_bind keeps_nextWork fun work => ?_ : Keeps _) _
          refine leads_bind (keeps_caught _ _ _ _ _) fun message => ?_
          exact leads_bind (keeps_acceptFinite _) fun _ => leads_pure ()

theorem keeps_processPortNotification (ingress : NotificationCommand) :
    Keeps (processPortNotification ingress) := by
  refine leads_bind keeps_nextWork fun work => ?_
  refine leads_bind (keeps_resolvePort _ _ _ _) fun binding => ?_
  refine leads_bind (keeps_caught _ _ _ _ _) fun protocolMessage => ?_
  refine leads_bind (keeps_caught _ _ _ _ _) fun converted => ?_
  exact leads_bind (keeps_acceptFinite _) fun _ => leads_pure ()

theorem keeps_resolveRequestPort (ingress : PortRequest) (work : TraceId) :
    Keeps (resolveRequestPort ingress work) := by
  intro core
  rcases resolveRequestPort_run ingress work core with ⟨binding, hrun⟩ | ⟨error, hrun⟩
  · rw [hrun]
    exact refl core
  · rw [hrun]
    exact .discard core (some ingress.completion)

theorem keeps_popRequest : Keeps (modify Core.popRequest) := by
  refine leads_modify fun core => ?_
  have hpopped : Unmoved core { core with requests := core.requests.dropLast } :=
    .of_rest rfl le_rfl
  exact IsTrans.trans _ _ _ hpopped (.discard _ _)

theorem keeps_processPortRequest (ingress : PortRequest) : Keeps (processPortRequest ingress) := by
  refine leads_bind keeps_nextWork fun work => ?_
  refine leads_bind (keeps_resolveRequestPort ingress work) fun binding => ?_
  refine keeps_update (fun _ => .of_rest rfl le_rfl) fun core => ?_
  refine leads_bind (keeps_pushRequest _) fun _ => ?_
  refine leads_bind (keeps_caught _ _ _ _ _) fun protocolMessage => ?_
  refine leads_bind (keeps_caught _ _ _ _ _) fun converted => ?_
  exact leads_bind (keeps_acceptFinite _) fun accepted =>
    leads_ite (fun _ => leads_pure ()) fun _ => keeps_popRequest

theorem keeps_taskFault (context : TaskContext) (panicked : Bool) (reason : String) :
    Keeps (taskFault context panicked reason) := by
  cases context with
  | effect id component descriptorType work => exact keeps_fault _ _ _ _
  | source stamp descriptorType work =>
      exact keeps_look fun _ => leads_ite (fun _ => keeps_fault _ _ _ _) fun _ => leads_pure ()
  | timer component work => exact keeps_fault _ _ _ _

theorem keeps_joinTask (exit : TaskExit) : Keeps (joinTask exit) := by
  unfold joinTask
  cases exit.outcome with
  | returned => exact leads_pure _
  | cancelled => exact leads_pure _
  | failed reason => exact keeps_taskFault _ _ _
  | panicked => exact keeps_taskFault _ _ _
  | lost => exact leads_bind keeps_nextWork fun _ => keeps_fault _ _ _ _

end Frames

end Live

end Samara
