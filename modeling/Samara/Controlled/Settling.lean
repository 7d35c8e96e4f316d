/-
  Samara.Controlled.Settling

  Between two items of work a runtime has settled: no change of a
  reconciliation is left to be applied.  Facts that only hold there are followed
  through the runs of a harness together with the changes still to come, once
  for all of them.
-/
import Samara.Controlled.Likeness
import Samara.Controlled.Drive

namespace Samara

open Exec (Follows)
open Relation (ReflTransGen)

variable [RustTypes]

namespace Controlled

/-- The changes that are still to be applied, with the Components they are for. -/
abbrev Pending := List (ComponentId × ErasedSubscriptionChange)

/-- The checks that a change has passed when it was applied. -/
def Core.Admits (core : Core) : ErasedSubscriptionChange → Prop
  | .start subscription | .replace subscription => core.Activatable subscription
  | .retain _ | .cancel _ => True

/-- `I` holds at the points where changes are pending, and `A` throughout. -/
structure Settles (A : Core → Prop) (I : Core → Pending → Prop) : Prop where
  always : ∀ {core : Core} {pending : Pending}, I core pending → A core
  perm : ∀ {core : Core} {pending pending' : Pending}, I core pending →
    pending.Perm pending' → I core pending'
  action : ∀ {phase : Phase} {core core' : Core}, I core [] → Action core phase core' →
    phase ≠ .projection → I core' []
  initialized : ∀ {core : Core} (id : ComponentId), I core [] →
    I (core.traced none (.initialization id)) []
  passed : ∀ {core : Core} (time : Duration), I core [] → I { core with now := time } []
  projected : ∀ {core : Core} {id : ComponentId} {messageType : TypeId}
    {kernel : ErasedComponentKernel}
    {desired : List (Subscription (RustTypes.componentMessage kernel.componentType))}
    {changes : List (SubscriptionChange (RustTypes.componentMessage kernel.componentType))}
    {reconciler : SubscriptionReconciler}, I core [] →
    core.program.component? id messageType = some kernel →
    kernel.kernel.subscriptions.reconcile desired = .ok (changes, reconciler) →
    I ((core.withComponent id messageType
      { kernel with kernel := { kernel.kernel with subscriptions := reconciler } }).observed
        (.projected id ⟨_, desired⟩)) ((changes.map eraseSubscriptionChange).map (id, ·))
  /-- A projection that is refused is not applied any more. -/
  duplicated : ∀ {core : Core} {id : ComponentId} {messageType : TypeId}
    {kernel : ErasedComponentKernel} (desired : ErasedProjection), I core [] →
    core.program.component? id messageType = some kernel →
    A ((core.withComponent id messageType kernel).observed (.projected id desired))
  changed : ∀ {core : Core} {component : ComponentId} {change : ErasedSubscriptionChange}
    {pending : Pending} (cause : TraceId), I core ((component, change) :: pending) →
    core.Admits change → I (core.changed component cause change) pending
  /-- The initial Command is taken between a projection and its changes. -/
  taken : ∀ {core : Core} {id : ComponentId} {messageType : TypeId}
    {kernel : ErasedComponentKernel} {pending : Pending}, I core pending →
    core.program.component? id messageType = some kernel → I (core.withComponent id messageType
      { kernel with kernel := { kernel.kernel with initialCommand := none } }) pending
  stored : ∀ {core : Core} (id : ComponentId) (messageType : TypeId)
    (kernel : ErasedComponentKernel), A core → A (core.withComponent id messageType kernel)

/-- A move from a state that has `A`. -/
def MoveIn (A : Core → Prop) (core core' : Core) : Prop := Move core core' ∧ A core

section Settles

variable {A : Core → Prop} {I : Core → Pending → Prop} {α : Type} {Q : α → Core → Prop}
  {phase : Phase} {core core' : Core}

/-- An operation that returns an error has faulted, or everything has settled. -/
def Tidy (I : Core → Pending → Prop) : Stop → Core → Core → Prop
  | .error _, core, core' => core' = core ∧ (core.fault = none → I core [])
  | .outOfFuel, core, core' => core' = core ∧ (core.fault = none → I core [])
  | .panicked _, _, _ => True

/-- A computation started at `core` moves in `A`, and returns with no fault
    recorded. -/
def Tidies {α : Type} (A : Core → Prop) (I : Core → Pending → Prop) (core : Core)
    (result : EStateM.Result Stop Core α) (Q : α → Core → Prop) : Prop :=
  Follows (MoveIn A) (Tidy I) core result fun value core' => core'.fault = none ∧ Q value core'

theorem tidies_step (halways : A core) (hacts : Acts phase core core')
    (hok : core'.fault = none) {value : α} (hQ : Q value core') :
    Tidies A I core (.ok value core') Q :=
  ⟨ReflTransGen.single ⟨hacts.move, halways⟩, hok, hQ⟩

theorem tidies_faulted (halways : A core) (hacts : Acts phase core core')
    {error fault : RuntimeError} (hfault : core'.fault = some fault) :
    Tidies A I core (.error (.error error) core') Q := by
  refine ⟨core', ReflTransGen.single ⟨hacts.move, halways⟩, rfl, ?_⟩
  intro hok
  rw [hfault] at hok
  cases hok

theorem tidies_panicked {panic : Panic} : Tidies A I core (.error (.panicked panic) core') Q :=
  ⟨core, ReflTransGen.refl, trivial⟩

theorem tidies_bind {β : Type} {x : Run α} {f : α → Run β} {Q' : β → Core → Prop}
    {core₀ : Core} (hx : Tidies A I core (x.run core₀) Q)
    (hf : ∀ value core', core'.fault = none → Q value core' →
      Tidies A I core' ((f value).run core') Q') :
    Tidies A I core ((x >>= f).run core₀) Q' :=
  Exec.follows_bind hx fun value core' _ hafter => hf value core' hafter.1 hafter.2

theorem Tidies.conseq {result : EStateM.Result Stop Core α} {Q' : α → Core → Prop}
    (h : Tidies A I core result Q) (hQ : ∀ value core', Q value core' → Q' value core') :
    Tidies A I core result Q' :=
  Exec.follows_conseq h fun value core' _ hafter => ⟨hafter.1, hQ value core' hafter.2⟩

namespace Settles

/-- A path that is no projection keeps everything settled all along. -/
theorem path (hI : Settles A I) (h : I core []) (hphase : phase ≠ .projection)
    (hpath : ReflTransGen (Acts phase) core core') :
    ReflTransGen (MoveIn A) core core' ∧ I core' [] := by
  induction hpath with
  | refl => exact ⟨ReflTransGen.refl, h⟩
  | tail _ hlast ih =>
      obtain ⟨hpath, hsettled⟩ := ih
      exact ⟨hpath.tail ⟨hlast.move, hI.always hsettled⟩, hI.action hsettled hlast.2 hphase⟩

theorem tidies {Unwound : Core → Core → Prop} {result : EStateM.Result Stop Core α}
    (hI : Settles A I) (h : Proceeds (Acts phase) Unwound core result Q) (hsettled : I core [])
    (hphase : phase ≠ .projection) :
    Tidies A I core result fun value core' => I core' [] ∧ Q value core' := by
  cases result with
  | ok value core' =>
      obtain ⟨hpath, hsettled'⟩ := hI.path hsettled hphase h.1
      exact ⟨hpath, h.2.1, hsettled', h.2.2⟩
  | error stop core' =>
      obtain ⟨last, hactsPath, hexit⟩ := h
      obtain ⟨hpath, hsettled'⟩ := hI.path hsettled hphase hactsPath
      refine ⟨last, hpath, ?_⟩
      cases stop with
      | error error => exact ⟨hexit, fun _ => hsettled'⟩
      | panicked panic => trivial
      | outOfFuel => exact ⟨hexit, fun _ => hsettled'⟩

end Settles

end Settles

/-! ## Reconciliation -/

section Reconciliation

variable {A : Core → Prop} {I : Core → Pending → Prop} {core : Core} {id : ComponentId}
  {messageType : TypeId} {kernel : ErasedComponentKernel} {cause : TraceId}

/-- A change that was applied has passed its checks. -/
theorem admits_of_applied (hok : core.fault = none) {change : ErasedSubscriptionChange}
    {core' : Core} (h : (applySubscriptionChange id cause change).run core = .ok () core') :
    core.Admits change := by
  cases change with
  | start subscription =>
      unfold applySubscriptionChange at h
      simp only [EStateM.run_bind, run_pushChild] at h
      have hok' : (core.traced (some cause) (lifecycle id subscription.id
        subscription.descriptorTypeName .started)).fault = none := hok
      rcases activateSource_cases hok' id subscription core.nextTrace with
        ⟨_, _, _, hrun⟩ | ⟨hactivatable, _⟩
      · rw [hrun] at h
        cases h
      · exact hactivatable
  | retain subscription => trivial
  | replace subscription =>
      unfold applySubscriptionChange at h
      simp only [EStateM.run_bind, run_pushChild, EStateM.run_modify] at h
      have hok' : ((core.traced (some cause) (lifecycle id subscription.id
        subscription.descriptorTypeName .replaced)).withoutSource id subscription.id).fault =
          none := hok
      rcases activateSource_cases hok' id subscription core.nextTrace with
        ⟨_, _, _, hrun⟩ | ⟨hactivatable, _⟩
      · rw [hrun] at h
        cases h
      · exact hactivatable
  | cancel subscription => trivial

namespace Settles

theorem applyChanges (hI : Settles A I) (changes : List ErasedSubscriptionChange)
    (hok : core.fault = none) (hroot : core.Rooted cause id)
    (hwants : ∀ change ∈ changes, core.Wants id change) (hpending : I core (changes.map (id, ·))) :
    Tidies A I core ((applyChanges id cause changes).run core)
      fun _ core' => I core' [] ∧ ReflTransGen (Acts .projection) core core' := by
  induction changes generalizing core with
  | nil => exact ⟨ReflTransGen.refl, hok, hpending, ReflTransGen.refl⟩
  | cons change changes ih =>
      unfold Controlled.applyChanges
      rcases applySubscriptionChange_cases hok hroot (hwants change List.mem_cons_self) with
        ⟨error, core', hrun, hfault, hacts⟩ | ⟨hrun, hacts⟩
      · rw [EStateM.run_bind, hrun]
        exact tidies_faulted (hI.always hpending) hacts hfault
      · rw [Exec.run_bind_ok hrun]
        have hpath := ReflTransGen.single hacts
        have hrest := ih ((Core.changed_fault change).trans hok) (hroot.path hpath)
          (fun later hlater => (hwants later (List.mem_cons_of_mem _ hlater)).path hpath)
          (hI.changed cause hpending (admits_of_applied hok hrun))
        refine Exec.follows_of_path
          (ReflTransGen.single ⟨hacts.move, hI.always hpending⟩) ?_
        exact hrest.conseq fun _ core' hafter => ⟨hafter.1, hpath.trans hafter.2⟩

/-- What a reconciliation has left to do: its changes, or to fault. -/
def Due (A : Core → Prop) (I : Core → Pending → Prop) (core : Core) (id : ComponentId) :
    Except SubscriptionId (List ErasedSubscriptionChange) → Prop
  | .error _ => A core
  | .ok changes => I core (changes.map (id, ·))

theorem due_always (hI : Settles A I)
    {outcome : Except SubscriptionId (List ErasedSubscriptionChange)}
    (h : Due A I core id outcome) : A core := by
  cases outcome with
  | error duplicate => exact h
  | ok changes => exact hI.always h

theorem applyReconciled (hI : Settles A I) (hok : core.fault = none)
    (hroot : core.Rooted cause id)
    {outcome : Except SubscriptionId (List ErasedSubscriptionChange)}
    (hwarrants : core.Warrants id outcome) (hdue : Due A I core id outcome) :
    Tidies A I core ((applyReconciled id cause outcome).run core)
      fun _ core' => I core' [] ∧ ReflTransGen (Acts .projection) core core' := by
  cases outcome with
  | error duplicate =>
      obtain ⟨desired, hprojected, hduplicate⟩ := hwarrants
      have hacts : Acts .projection core (core.faulted id none cause
          ("duplicate desired Subscription identity " ++ duplicate.debug)) :=
        ⟨hok, .duplicateFaulted id cause desired duplicate hroot hprojected hduplicate⟩
      unfold Controlled.applyReconciled
      rw [run_failWithFault hok]
      exact tidies_faulted hdue hacts rfl
  | ok changes =>
      refine hI.applyChanges (sortChanges changes) hok hroot ?_ ?_
      · intro change hchange
        exact hwarrants change ((List.mem_insertionSort _).mp hchange)
      · exact hI.perm hdue ((List.perm_insertionSort _ changes).symm.map _)

theorem reconcileComponent (hI : Settles A I) (hok : core.fault = none) (hsettled : I core [])
    (hkernel : core.program.component? id messageType = some kernel) :
    Tidies A I core ((reconcileComponent id messageType kernel).run core) fun result core' =>
      Reconciled id messageType result core' ∧ Due A I core' id result.1 ∧
        ReflTransGen (Acts .projection) core core' := by
  have hproceeds := reconcileComponent_proceeds hok hkernel
  unfold Controlled.reconcileComponent onComponent
    ErasedComponentKernel.reconcileSubscriptionsErased at *
  cases hdesired : kernel.desired with
  | error panic =>
      simp only [EStateM.run, hdesired]
      exact tidies_panicked
  | ok desired =>
      cases hreconcile : kernel.kernel.subscriptions.reconcile desired with
      | error duplicate =>
          simp only [EStateM.run, hdesired, hreconcile] at hproceeds ⊢
          have hacts : Acts .projection core _ :=
            ⟨hok, .duplicated id messageType kernel desired duplicate hkernel hdesired hreconcile⟩
          exact tidies_step (hI.always hsettled) hacts hok
            ⟨hproceeds.2.2, hI.duplicated _ hsettled hkernel, ReflTransGen.single hacts⟩
      | ok reconciled =>
          obtain ⟨changes, reconciler⟩ := reconciled
          simp only [EStateM.run, hdesired, hreconcile] at hproceeds ⊢
          have hacts : Acts .projection core _ := ⟨hok, .projected id messageType kernel desired
            changes reconciler hkernel hdesired hreconcile⟩
          exact tidies_step (hI.always hsettled) hacts hok
            ⟨hproceeds.2.2, hI.projected hsettled hkernel hreconcile, ReflTransGen.single hacts⟩

/-- Everything has settled again at the end of a transition. -/
theorem settle (hI : Settles A I) {command : ErasedCommand} (hok : core.fault = none)
    (hsettled : I core []) (hkernel : core.program.component? id messageType = some kernel)
    (hauthor : core.Authors cause id command.messageType) :
    Tidies A I core ((do
      let (changes, _) ← Controlled.reconcileComponent id messageType kernel
      Controlled.applyReconciled id cause changes
      interpret id cause command
      pure 1 : Run Nat).run core) fun _ core' => I core' [] := by
  refine tidies_bind (hI.reconcileComponent hok hsettled hkernel) ?_
  rintro ⟨outcome, kernel'⟩ core₁ hok₁ ⟨hreconciled, hdue, hpath₁⟩
  have hauthor₁ := hauthor.path hpath₁
  refine tidies_bind (hI.applyReconciled hok₁ hauthor₁.rooted hreconciled.2 hdue) ?_
  rintro _ core₂ hok₂ ⟨hsettled₂, hpath₂⟩
  have hauthor₂ := hauthor₁.path hpath₂
  refine tidies_bind (hI.tidies (interpret_proceeds hok₂ hauthor₂) hsettled₂ (by simp)) ?_
  rintro _ core₃ hok₃ ⟨hsettled₃, _⟩
  exact ⟨ReflTransGen.refl, hok₃, hsettled₃⟩

end Settles

end Reconciliation

/-! ## Work -/

namespace Settles

section Work

variable {A : Core → Prop} {I : Core → Pending → Prop} {core : Core} {work : ScheduledWork}

theorem deliver (hI : Settles A I) (hok : core.fault = none) (hsettled : I core [])
    {message : QueuedMessage} (hdue : core.nextDue = some work) (hkind : work.kind = .message message)
    (hcurrent : ∀ stamp, message.source = some stamp → core.sourceStampIsCurrent stamp = true) :
    Tidies A I core ((deliver message).run (core.popped work)) fun _ core' => I core' [] := by
  have halways := hI.always hsettled
  have hfired : ((core.popped work).fired message).fault = none := by
    rw [Core.fired_fault]
    exact hok
  unfold Controlled.deliver
  rw [Exec.run_bind_ok (run_fireTimer _ _), Exec.run_bind_ok (EStateM.run_get _)]
  dsimp only
  rw [Core.fired_program, Core.popped_program]
  cases hkernel : core.program.component? message.target message.targetMessageType with
  | none =>
      have hacts : Acts (.execution 0) core _ :=
        ⟨hok, .deliveryFaulted work message hdue hkind hcurrent hkernel⟩
      dsimp only
      rw [run_failWithFault hfired]
      exact tidies_faulted halways hacts rfl
  | some kernel =>
      dsimp only
      cases htransition :
          (ErasedComponentKernel.transitionErased message.message).run kernel with
      | error panic kernel' =>
          rw [EStateM.run_bind, run_onComponent_error htransition]
          exact tidies_panicked
      | ok command kernel' =>
          rw [Exec.run_bind_ok (run_onComponent_ok htransition)]
          cases command with
          | none =>
              obtain ⟨hmismatch, rfl⟩ := ErasedComponentKernel.transitionErased_none htransition
              have hacts : Acts (.execution 0) core _ :=
                ⟨hok, .deliveryMismatched work message _ hdue hkind hcurrent hkernel hmismatch⟩
              refine ⟨_, ReflTransGen.single ⟨hacts.move, halways⟩, rfl, fun _ => ?_⟩
              exact hI.action hsettled hacts.2 (by simp)
          | some command =>
              obtain ⟨hid, htype⟩ := ErasedComponentKernel.transitionErased_ok htransition
              have hacts : Acts (.execution 1) core _ := ⟨hok, .messageDelivered work message
                kernel kernel' command hdue hkind hcurrent hkernel htransition⟩
              refine Exec.follows_of_path (ReflTransGen.single ⟨hacts.move, halways⟩) ?_
              dsimp only
              rw [Exec.run_bind_ok (run_pushChild _ _ _)]
              have hfound : ((core.popped work).fired message).program.component?
                  message.target message.targetMessageType = some kernel := by
                rw [Core.fired_program]
                exact hkernel
              have hstored := Program.component?_setComponent hfound hid
                (congrArg RustTypes.componentMessage htype)
              refine hI.settle ?_ (hI.action hsettled hacts.2 (by simp)) hstored
                ⟨rooted_traced_transition _ _ _ _, ?_⟩
              · exact hfired
              · rw [ErasedComponentKernel.transitionErased_command htransition,
                  (Program.component?_eq_some hkernel).2]
                exact ⟨kernel', hstored⟩

theorem processWork (hI : Settles A I) (hok : core.fault = none) (hsettled : I core [])
    (hdue : core.nextDue = some work) :
    Tidies A I core ((processWork work).run (core.popped work)) fun _ core' => I core' [] := by
  unfold Controlled.processWork
  cases hkind : work.kind with
  | sourceEvent event =>
      have hproceeds := processSourceEvent_proceeds hok hdue hkind
      exact (hI.tidies hproceeds hsettled (by simp)).conseq fun _ _ hafter => hafter.1
  | message message =>
      show Tidies A I core ((processMessage message).run (core.popped work)) _
      unfold processMessage
      rw [Exec.run_bind_ok (EStateM.run_get _)]
      cases hsource : message.source with
      | none => exact hI.deliver hok hsettled hdue hkind (by simp [hsource])
      | some stamp =>
          dsimp only
          split
          · rename_i hcurrent
            refine hI.deliver hok hsettled hdue hkind fun other hother => ?_
            rw [hsource] at hother
            cases hother
            exact hcurrent
          · rename_i hstale
            have hacts : Acts (.execution 0) core _ := ⟨hok, .messageStale work message stamp hdue
              hkind hsource (Bool.eq_false_iff.mpr hstale)⟩
            exact tidies_step (hI.always hsettled) hacts hok
              (hI.action hsettled hacts.2 (by simp))

end Work

/-! ## Initialization -/

section Initialization

variable {A : Core → Prop} {I : Core → Pending → Prop} {core : Core}

theorem initializeComponent (hI : Settles A I) (hok : core.fault = none) (hsettled : I core [])
    (id : ComponentId) (messageType : TypeId) :
    Tidies A I core ((initializeComponent id messageType).run core) fun _ core' => I core' [] := by
  unfold Controlled.initializeComponent
  rw [Exec.run_bind_ok (run_pushRoot _ _), Exec.run_bind_ok (EStateM.run_get _)]
  have hinitialized : Acts .projection core (core.traced none (.initialization id)) :=
    ⟨hok, .initialized id⟩
  refine Exec.follows_of_path
    (ReflTransGen.single ⟨hinitialized.move, hI.always hsettled⟩) ?_
  have hroot : (core.traced none (.initialization id)).Rooted core.nextTrace id :=
    ⟨_, List.getElem?_concat_length, Or.inl rfl⟩
  have hsettled₀ := hI.initialized id hsettled
  have hok₀ : (core.traced none (.initialization id)).fault = none := hok
  generalize core.traced none (.initialization id) = core₀ at hroot hsettled₀ hok₀ ⊢
  cases hkernel : core₀.program.component? id messageType with
  | none => exact ⟨ReflTransGen.refl, hok₀, hsettled₀⟩
  | some kernel =>
      refine tidies_bind (hI.reconcileComponent hok₀ hsettled₀ hkernel) ?_
      rintro ⟨outcome, kernel₁⟩ core₁ hok₁ ⟨hreconciled, hdue, hpath₁⟩
      let taken : ErasedComponentKernel :=
        { kernel₁ with kernel := { kernel₁.kernel with initialCommand := none } }
      have htaken : Acts .projection core₁ (core₁.withComponent id messageType taken) :=
        ⟨hok₁, .commandTaken id messageType kernel₁ hreconciled.1⟩
      have htakenPath := ReflTransGen.single htaken
      rw [Exec.run_bind_ok (run_onComponent_ok (run_takeInitialCommandErased _))]
      refine Exec.follows_of_path
        (ReflTransGen.single ⟨htaken.move, hI.due_always hdue⟩) ?_
      have hdue₂ : Due A I (core₁.withComponent id messageType taken) id outcome := by
        cases outcome with
        | error duplicate => exact hI.stored _ _ _ hdue
        | ok changes => exact hI.taken hdue hreconciled.1
      have hauthor₂ : (core₁.withComponent id messageType taken).Authors core.nextTrace id
          kernel₁.messageType := by
        refine ⟨(hroot.path hpath₁).path htakenPath, ?_⟩
        rw [(Program.component?_eq_some hreconciled.1).2]
        exact Program.Hosts.of_shape (shape_eq_path htakenPath) ⟨_, hreconciled.1⟩
      have htakenOk : (core₁.withComponent id messageType taken).fault = none := hok₁
      refine tidies_bind (hI.applyReconciled htakenOk hauthor₂.rooted
        (hreconciled.2.path htakenPath) hdue₂) ?_
      rintro _ core₃ hok₃ ⟨hsettled₃, hpath₃⟩
      cases kernel₁.kernel.initialCommand with
      | none => exact ⟨ReflTransGen.refl, hok₃, hsettled₃⟩
      | some command =>
          exact (hI.tidies (interpret_proceeds hok₃ (hauthor₂.path hpath₃)) hsettled₃
            (by simp)).conseq fun _ _ hafter => hafter.1

theorem initializeComponents (hI : Settles A I) (components : List (ComponentId × TypeId))
    (hok : core.fault = none) (hsettled : I core []) :
    Tidies A I core ((initializeComponents components).run core) fun _ core' => I core' [] := by
  induction components generalizing core with
  | nil => exact ⟨ReflTransGen.refl, hok, hsettled⟩
  | cons component components ih =>
      unfold Controlled.initializeComponents
      refine tidies_bind (hI.initializeComponent hok hsettled component.1 component.2) ?_
      intro _ core' hok' hsettled'
      exact ih hok' hsettled'

end Initialization

end Settles

/-! ## Runs -/

/-- A runtime that has come this far has moved in `A` from its fresh state, and
    has settled unless it faulted. -/
def Settled (A : Core → Prop) (I : Core → Pending → Prop) (origin core : Core) : Prop :=
  ReflTransGen (MoveIn A) origin core ∧ (core.fault = none → I core [])

namespace Settles

variable {A : Core → Prop} {I : Core → Pending → Prop}

theorem launched (hI : Settles A I) {core : Core} (h : Launched core)
    (hfresh : ∀ (builder : ProgramBuilder) (bindings : Bindings), builder.Assembled →
      builder.build = .ok builder.blueprint → I (Core.fresh builder.blueprint bindings) []) :
    ∃ (builder : ProgramBuilder) (bindings : Bindings), builder.Assembled ∧
      builder.build = .ok builder.blueprint ∧ bindings.validate builder.blueprint = .ok () ∧
        Settled A I (Core.fresh builder.blueprint bindings) core := by
  obtain ⟨builder, program, bindings, hassembled, hbuild, hlaunch⟩ := h
  obtain ⟨rfl, -⟩ := ProgramBuilder.build_ok hbuild
  obtain ⟨hvalidate, -, hnew⟩ := launch_eq_ok.mp hlaunch
  refine ⟨builder, bindings, hassembled, hbuild, hvalidate, ?_⟩
  have htidies := @initializeComponents _ A I (Core.fresh builder.blueprint bindings) hI
    (initializationOrder builder.blueprint) rfl (hfresh builder bindings hassembled hbuild)
  unfold Core.new at hnew
  split at hnew
  · rename_i core' hrun
    cases hnew
    rw [hrun] at htidies
    exact ⟨htidies.1, fun _ => htidies.2.2⟩
  · rename_i error core' hrun
    cases hnew
    rw [hrun] at htidies
    obtain ⟨last, hpath, rfl, hsettled⟩ := htidies
    exact ⟨hpath, hsettled⟩
  · cases hnew

/-- What a run does between two items of work. -/
def Round (A : Core → Prop) (I : Core → Pending → Prop) (core core' : Core) : Prop :=
  core.fault = none ∧ (I core [] → Settled A I core core')

theorem covers_round (hI : Settles A I) : Covers (Round A I) (fun _ _ => True) where
  input core core' hacts := by
    refine ⟨hacts.1, fun hsettled => ⟨?_, fun _ => ?_⟩⟩
    · exact ReflTransGen.single ⟨hacts.move, hI.always hsettled⟩
    · exact hI.action hsettled hacts.2 (by simp)
  passage core core' hok hpassage := by
    refine ⟨hok, fun hsettled => ⟨?_, fun _ => ?_⟩⟩
    · exact ReflTransGen.single ⟨⟨hok, Or.inr hpassage⟩, hI.always hsettled⟩
    · cases hpassage
      exact hI.passed _ hsettled
  work core work hok hdue := by
    have hworked := processWork_proceeds hok hdue
    have htidies := fun hsettled => hI.processWork hok hsettled hdue
    cases hrun : (Controlled.processWork work).run (core.popped work) with
    | ok value core' =>
        rw [hrun] at hworked htidies
        exact ⟨ReflTransGen.single ⟨hok, fun hsettled => ⟨(htidies hsettled).1, fun _ =>
          (htidies hsettled).2.2⟩⟩, hworked.2⟩
    | error stop core' =>
        rw [hrun] at htidies
        have hround (hstop : I core [] → ∃ last, ReflTransGen (MoveIn A) core last ∧
            core' = last ∧ (last.fault = none → I last [])) : Round A I core core' := by
          refine ⟨hok, fun hsettled => ?_⟩
          obtain ⟨last, hpath, rfl, hlast⟩ := hstop hsettled
          exact ⟨hpath, hlast⟩
        cases stop with
        | error error => exact ⟨core', ReflTransGen.single (hround htidies), rfl⟩
        | outOfFuel => exact ⟨core', ReflTransGen.single (hround htidies), rfl⟩
        | panicked panic => exact ⟨core, ReflTransGen.refl, trivial⟩
  unwound _ _ _ := trivial

/-- Operations that return leave everything settled. -/
theorem reachable (hI : Settles A I) {origin start core : Core} (h : Reachable start core)
    (hstart : Settled A I origin start) : Settled A I origin core := by
  refine @Exec.path_preserves _ (Round A I) (Settled A I origin) ?_ _ _
    (h.path_of_covers hI.covers_round) hstart
  intro core core' hsettled hround
  obtain ⟨hpath, hlast⟩ := hround.2 (hsettled.2 hround.1)
  exact ⟨hsettled.1.trans hpath, hlast⟩

end Settles

end Controlled

end Samara
