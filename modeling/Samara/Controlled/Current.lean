/-
  Samara.Controlled.Current

  Between two items of work, what every Component desired at its last
  projection is what its current Model desires: a Model changes only in a
  transition, and every transition is followed by a projection.
-/
import Samara.Controlled.Mirror
import Samara.Controlled.Startup
import Samara.Controlled.Time

namespace Samara

open Relation (ReflTransGen)

variable [RustTypes]

/-- What the current Model of a Component desires, as a projection. -/
def ErasedComponentKernel.projection (kernel : ErasedComponentKernel) : Callback ErasedProjection :=
  kernel.desired.map (ErasedProjection.mk _)

namespace Controlled

/-- The last projections are up to date, but for the Component that moved; and
    the Components `done` have been projected. -/
structure CaughtUp (program : Program) (done : List ComponentId) (moved : Option ComponentId)
    (core : Core) : Prop where
  shape : core.program.shape = program.shape
  distinct : (core.program.components.map (·.id)).Nodup
  current : ∀ kernel ∈ core.program.components, moved ≠ some kernel.id → ∀ desired,
    core.latest kernel.id = some desired → kernel.projection = .ok desired
  projected : ∀ id ∈ done, ∃ desired, core.latest id = some desired

namespace CaughtUp

variable {program : Program} {done : List ComponentId} {moved : Option ComponentId}
  {core core' : Core} {id : ComponentId} {messageType : TypeId}
  {kernel kernel' : ErasedComponentKernel}

theorem of_eq (h : CaughtUp program done moved core) (hprogram : core'.program = core.program)
    (hprojections : core'.journal.filter (·.isProjection) = core.journal.filter (·.isProjection)) :
    CaughtUp program done moved core' := by
  have hlatest := latest_of_filter hprojections
  refine ⟨?_, ?_, ?_, ?_⟩
  · rw [hprogram]
    exact h.shape
  · rw [hprogram]
    exact h.distinct
  · rw [hprogram]
    intro kernel hkernel hmoved desired hdesired
    exact h.current kernel hkernel hmoved desired ((hlatest kernel.id).symm.trans hdesired)
  · intro id hid
    rw [hlatest]
    exact h.projected id hid

theorem distinct_withComponent (hdistinct : (core.program.components.map (·.id)).Nodup)
    (hkernel : core.program.component? id messageType = some kernel) (hid : kernel'.id = kernel.id) :
    ((core.withComponent id messageType kernel').program.components.map (·.id)).Nodup := by
  have hids := @Table.map_modifyFirst_found _ _ _ (fun _ => kernel')
    (fun component : ErasedComponentKernel => component.id) _ _ hkernel hid
  show ((core.program.setComponent id messageType kernel').components.map _).Nodup
  unfold Program.setComponent
  rw [hids]
  exact hdistinct

theorem shape_withComponent (hshape : core.program.shape = program.shape)
    (hkernel : core.program.component? id messageType = some kernel) (hid : kernel'.id = kernel.id)
    (htype : kernel'.componentType = kernel.componentType) :
    (core.withComponent id messageType kernel').program.shape = program.shape :=
  (Program.shape_setComponent hkernel hid htype).trans hshape

/-- A kernel is stored whose Model desires the same. -/
theorem withComponent (h : CaughtUp program done moved core)
    (hkernel : core.program.component? id messageType = some kernel) (hid : kernel'.id = kernel.id)
    (htype : kernel'.componentType = kernel.componentType)
    (hprojection : kernel'.projection = kernel.projection) :
    CaughtUp program done moved (core.withComponent id messageType kernel') := by
  refine ⟨shape_withComponent h.shape hkernel hid htype,
    distinct_withComponent h.distinct hkernel hid, ?_, h.projected⟩
  intro other hother
  rcases Program.mem_setComponent h.distinct hkernel hother with rfl | ⟨hother, _⟩
  · rw [hid, hprojection]
    exact h.current kernel (List.mem_of_find?_eq_some hkernel)
  · exact h.current other hother

/-- The Model of one Component has moved on. -/
theorem moving (h : CaughtUp program done none core)
    (hkernel : core.program.component? id messageType = some kernel) (hid : kernel'.id = kernel.id)
    (htype : kernel'.componentType = kernel.componentType) :
    CaughtUp program done (some id) (core.withComponent id messageType kernel') := by
  have hkernelId := (Program.component?_eq_some hkernel).1
  refine ⟨shape_withComponent h.shape hkernel hid htype,
    distinct_withComponent h.distinct hkernel hid, ?_, h.projected⟩
  intro other hother hmoved
  rcases Program.mem_setComponent h.distinct hkernel hother with rfl | ⟨hother, _⟩
  · rw [hid, hkernelId] at hmoved
    exact absurd rfl hmoved
  · exact h.current other hother (by simp)

/-- A projection brings the Component that moved up to date. -/
theorem projects (h : CaughtUp program done moved core)
    (hkernel : core.program.component? id messageType = some kernel) (hid : kernel'.id = kernel.id)
    (htype : kernel'.componentType = kernel.componentType) {desired : ErasedProjection}
    (hprojection : kernel'.projection = .ok desired) (hmoved : moved = none ∨ moved = some id) :
    CaughtUp program (id :: done) none
      ((core.withComponent id messageType kernel').observed (.projected id desired)) := by
  have hkernelId := (Program.component?_eq_some hkernel).1
  have hlatest := latest_projected (core.withComponent id messageType kernel') id desired
  have hothers {other : ComponentId} (hne : other ≠ id) :
      ((core.withComponent id messageType kernel').observed (.projected id desired)).latest other =
        core.latest other :=
    latest_projected_of_ne (core.withComponent id messageType kernel') _ (Ne.symm hne)
  refine ⟨shape_withComponent h.shape hkernel hid htype,
    distinct_withComponent h.distinct hkernel hid, ?_, ?_⟩
  · intro other hother _ last hlast
    rcases Program.mem_setComponent h.distinct hkernel hother with rfl | ⟨hother, hne⟩
    · rw [hid, hkernelId, hlatest] at hlast
      cases hlast
      exact hprojection
    · rw [hothers hne] at hlast
      refine h.current other hother ?_ last hlast
      rcases hmoved with rfl | rfl
      · simp
      · simpa using Ne.symm hne
  · intro other hother
    by_cases hsame : other = id
    · rw [hsame]
      exact ⟨desired, hlatest⟩
    · rw [hothers hsame]
      exact h.projected other ((List.mem_cons.mp hother).resolve_left hsame)

theorem weaken {done' : List ComponentId} (h : CaughtUp program done moved core)
    (hdone : done' ⊆ done) : CaughtUp program done' moved core :=
  ⟨h.shape, h.distinct, h.current, fun id hid => h.projected id (hdone hid)⟩

theorem projection_of_desired {desired : List (Subscription
    (RustTypes.componentMessage kernel.componentType))} (h : kernel.desired = .ok desired) :
    kernel.projection = .ok ⟨_, desired⟩ := by
  unfold ErasedComponentKernel.projection
  rw [h]
  rfl

/-- No action but a transition leaves a Component behind. -/
theorem action {phase : Phase} (h : CaughtUp program done none core)
    (haction : Action core phase core') (hphase : phase.transitions = 0) :
    CaughtUp program done none core' := by
  have hpopped (work : ScheduledWork) (message : QueuedMessage) :
      CaughtUp program done none ((core.popped work).fired message) := by
    refine h.of_eq (Core.fired_program _ message) ?_
    simp [Observation.isProjection]
  cases haction with
  | projected id messageType kernel desired changes reconciler hkernel hdesired hreconcile =>
      have hprojection := projection_of_desired hdesired
      exact (@projects _ program done none core id messageType kernel
        { kernel with kernel := { kernel.kernel with subscriptions := reconciler } } h hkernel rfl
          rfl _ hprojection (Or.inl rfl)).weaken (List.subset_cons_self _ _)
  | duplicated id messageType kernel desired duplicate hkernel hdesired hreconcile =>
      exact (h.projects hkernel rfl rfl (projection_of_desired hdesired)
        (Or.inl rfl)).weaken (List.subset_cons_self _ _)
  | commandTaken id messageType kernel hkernel => exact h.withComponent hkernel rfl rfl rfl
  | messageDelivered => cases hphase
  | deliveryMismatched work message kernel _ _ _ hkernel _ =>
      refine (hpopped work message).withComponent ?_ rfl rfl rfl
      rw [Core.fired_program]
      exact hkernel
  | deliveryFaulted work message => exact (hpopped work message).of_eq rfl rfl
  | sourceEventMapped =>
      exact h.of_eq (by simp [Core.withPlan, Core.withRunning])
        (by simp [Core.withPlan, Core.withRunning, Observation.isProjection])
  | _ => exact h.of_eq (by simp) (by simp [Observation.isProjection])

end CaughtUp

/-! ## Upkeep -/

/-- A part of a run after which everything is caught up again. -/
def Upkeep (program : Program) (core core' : Core) : Prop :=
  ∀ done, CaughtUp program done none core → CaughtUp program done none core'

section Upkeep

variable {program : Program} {core core' base : Core} {id : ComponentId} {messageType : TypeId}
  {kernel : ErasedComponentKernel} {work : ScheduledWork}

/-- A computation that keeps everything caught up between its steps. -/
abbrev Maintains {α : Type} (program : Program) :
    Core → EStateM.Result Stop Core α → (α → Core → Prop) → Prop :=
  Proceeds (Upkeep program) fun _ _ => True

theorem upkeep_of_acts {phase : Phase} (h : Acts phase core core')
    (hphase : phase.transitions = 0) : Upkeep program core core' :=
  fun _ hcaught => hcaught.action h.2 hphase

theorem Proceeds.maintains {α : Type} {phase : Phase} {Unwound : Core → Core → Prop}
    {result : EStateM.Result Stop Core α} {Q : α → Core → Prop}
    (h : Proceeds (Acts phase) Unwound core result Q) (hphase : phase.transitions = 0) :
    Maintains program core result Q :=
  h.mono (fun _ _ hacts => upkeep_of_acts hacts hphase) fun _ _ _ => trivial

/-- A projection ends with the Component caught up, whether or not it moved. -/
theorem reconcileComponent_catches (hok : core.fault = none)
    (hkernel : core.program.component? id messageType = some kernel) :
    (∃ panic core', (reconcileComponent id messageType kernel).run core =
        .error (.panicked panic) core') ∨
      ∃ outcome core', (reconcileComponent id messageType kernel).run core = .ok outcome core' ∧
        core'.fault = none ∧ Reconciled id messageType outcome core' ∧
        Acts .projection core core' ∧ ∀ done moved, CaughtUp program done moved core →
          moved = none ∨ moved = some id → CaughtUp program (id :: done) none core' := by
  have hproceeds := reconcileComponent_proceeds hok hkernel
  unfold reconcileComponent onComponent ErasedComponentKernel.reconcileSubscriptionsErased at *
  cases hdesired : kernel.desired with
  | error panic =>
      left
      simp only [EStateM.run, hdesired]
      exact ⟨panic, _, rfl⟩
  | ok desired =>
      right
      have hprojection := CaughtUp.projection_of_desired hdesired
      cases hreconcile : kernel.kernel.subscriptions.reconcile desired with
      | error duplicate =>
          simp only [EStateM.run, hdesired, hreconcile] at hproceeds ⊢
          refine ⟨_, _, rfl, hok, hproceeds.2.2, ⟨hok, .duplicated id messageType kernel desired
            duplicate hkernel hdesired hreconcile⟩, ?_⟩
          intro done moved hcaught hmoved
          exact hcaught.projects hkernel rfl rfl hprojection hmoved
      | ok reconciled =>
          obtain ⟨changes, reconciler⟩ := reconciled
          simp only [EStateM.run, hdesired, hreconcile] at hproceeds ⊢
          refine ⟨_, _, rfl, hok, hproceeds.2.2, ⟨hok, .projected id messageType kernel desired
            changes reconciler hkernel hdesired hreconcile⟩, ?_⟩
          intro done moved hcaught hmoved
          let stored : ErasedComponentKernel :=
            { kernel with kernel := { kernel.kernel with subscriptions := reconciler } }
          exact @CaughtUp.projects _ program done moved core id messageType kernel stored hcaught
            hkernel rfl rfl _ hprojection hmoved

/-- The end of a transition: the Component that moved is projected. -/
theorem settle_maintains {command : ErasedCommand} {cause : TraceId} (hok : core.fault = none)
    (hmoving : ∀ done, CaughtUp program done none base → CaughtUp program done (some id) core)
    (hkernel : core.program.component? id messageType = some kernel)
    (hauthor : core.Authors cause id command.messageType) :
    Maintains program base ((do
      let (changes, _) ← reconcileComponent id messageType kernel
      applyReconciled id cause changes
      interpret id cause command
      pure 1 : Run Nat).run core) fun _ _ => True := by
  rcases @reconcileComponent_catches _ program _ _ _ _ hok hkernel with
    ⟨panic, core', hrun⟩ | ⟨⟨outcome, kernel'⟩, core₁, hrun, hok₁, hreconciled, hacts, hcatches⟩
  · rw [EStateM.run_bind, hrun]
    exact proceeds_panicked trivial
  · rw [Exec.run_bind_ok hrun]
    have hauthor₁ := hauthor.path (ReflTransGen.single hacts)
    have hstep : Upkeep program base core₁ := by
      intro done hcaught
      have hcaught₁ := hcatches done (some id) (hmoving done hcaught) (Or.inr rfl)
      exact hcaught₁.weaken (List.subset_cons_self _ _)
    refine Exec.follows_of_path (ReflTransGen.single hstep) ?_
    have happlied : Maintains program core₁ ((applyReconciled id cause outcome).run core₁)
        fun _ core₂ => core₂.Authors cause id command.messageType :=
      ((applyReconciled_proceeds hok₁ hauthor₁.rooted hreconciled.2).conseq fun _ _ hpath _ =>
        hauthor₁.path hpath).maintains rfl
    refine proceeds_bind happlied ?_
    intro _ core₂ _ hok₂ hauthor₂
    refine proceeds_bind ((interpret_proceeds hok₂ hauthor₂).maintains rfl) ?_
    intro _ core₃ _ hok₃ _
    exact proceeds_refl hok₃ trivial

theorem deliver_maintains (hok : core.fault = none) {message : QueuedMessage}
    (hdue : core.nextDue = some work) (hkind : work.kind = .message message)
    (hcurrent : ∀ stamp, message.source = some stamp → core.sourceStampIsCurrent stamp = true) :
    Maintains program core ((deliver message).run (core.popped work)) fun _ _ => True := by
  have hfired : ((core.popped work).fired message).fault = none := by
    rw [Core.fired_fault]
    exact hok
  unfold deliver
  rw [Exec.run_bind_ok (run_fireTimer _ _), Exec.run_bind_ok (EStateM.run_get _)]
  dsimp only
  rw [Core.fired_program, Core.popped_program]
  cases hkernel : core.program.component? message.target message.targetMessageType with
  | none =>
      dsimp only
      rw [run_failWithFault hfired]
      have hacts : Acts (.execution 0) core _ :=
        ⟨hok, .deliveryFaulted work message hdue hkind hcurrent hkernel⟩
      exact proceeds_error_step (upkeep_of_acts hacts rfl)
  | some kernel =>
      dsimp only
      cases htransition :
          (ErasedComponentKernel.transitionErased message.message).run kernel with
      | error panic kernel' =>
          rw [EStateM.run_bind, run_onComponent_error htransition]
          exact proceeds_panicked trivial
      | ok command kernel' =>
          rw [Exec.run_bind_ok (run_onComponent_ok htransition)]
          cases command with
          | none =>
              obtain ⟨hmismatch, rfl⟩ := ErasedComponentKernel.transitionErased_none htransition
              have hacts : Acts (.execution 0) core _ :=
                ⟨hok, .deliveryMismatched work message _ hdue hkind hcurrent hkernel hmismatch⟩
              exact proceeds_error_step (upkeep_of_acts hacts rfl)
          | some command =>
              obtain ⟨hid, htype⟩ := ErasedComponentKernel.transitionErased_ok htransition
              dsimp only
              rw [Exec.run_bind_ok (run_pushChild _ _ _)]
              have hfound : ((core.popped work).fired message).program.component?
                  message.target message.targetMessageType = some kernel := by
                rw [Core.fired_program]
                exact hkernel
              have hstored := Program.component?_setComponent hfound hid
                (congrArg RustTypes.componentMessage htype)
              refine settle_maintains ?_ ?_ hstored ⟨rooted_traced_transition _ _ _ _, ?_⟩
              · exact hfired
              · -- The transition has moved its Component, and no other.
                intro done hcaught
                have hpopped : CaughtUp program done none ((core.popped work).fired message) := by
                  refine hcaught.of_eq (Core.fired_program _ message) ?_
                  simp [Observation.isProjection]
                exact (hpopped.moving hfound hid htype).of_eq rfl rfl
              · rw [ErasedComponentKernel.transitionErased_command htransition,
                  (Program.component?_eq_some hkernel).2]
                exact ⟨kernel', hstored⟩

theorem processWork_maintains (hok : core.fault = none) (hdue : core.nextDue = some work) :
    Maintains program core ((processWork work).run (core.popped work)) fun _ _ => True := by
  unfold processWork
  cases hkind : work.kind with
  | sourceEvent event =>
      exact ((processSourceEvent_proceeds hok hdue hkind).maintains rfl).conseq
        fun _ _ _ _ => trivial
  | message message =>
      show Maintains program core ((processMessage message).run (core.popped work)) _
      unfold processMessage
      rw [Exec.run_bind_ok (EStateM.run_get _)]
      cases hsource : message.source with
      | none => exact deliver_maintains hok hdue hkind (by simp [hsource])
      | some stamp =>
          dsimp only
          split
          · rename_i hcurrent
            refine deliver_maintains hok hdue hkind fun other hother => ?_
            rw [hsource] at hother
            cases hother
            exact hcurrent
          · rename_i hstale
            have hacts : Acts (.execution 0) core _ := ⟨hok, .messageStale work message stamp hdue
              hkind hsource (Bool.eq_false_iff.mpr hstale)⟩
            exact proceeds_step (upkeep_of_acts hacts rfl) hok trivial

theorem covers_upkeep (program : Program) : Covers (Upkeep program) fun _ _ => True where
  input _ _ hacts := upkeep_of_acts hacts rfl
  passage core core' hok hpassage done hcaught := by
    cases hpassage
    exact hcaught.of_eq rfl rfl
  work core work hok hdue := by
    have hworked := processWork_proceeds hok hdue
    have hmaintains := @processWork_maintains _ program core work hok hdue
    cases hrun : (processWork work).run (core.popped work) with
    | ok value core' =>
        rw [hrun] at hworked hmaintains
        exact ⟨hmaintains.1, hworked.2⟩
    | error stop core' =>
        rw [hrun] at hmaintains
        exact hmaintains
  unwound _ _ _ := trivial

end Upkeep

/-! ## Startup -/

section Startup

variable {program : Program} {done : List ComponentId} {core : Core}

theorem initializeComponent_catches (hok : core.fault = none)
    (hcaught : CaughtUp program done none core) {id : ComponentId} {messageType : TypeId}
    (hhosts : program.Hosts id messageType) :
    Maintains program core ((initializeComponent id messageType).run core)
      fun _ core' => CaughtUp program (id :: done) none core' := by
  unfold initializeComponent
  rw [Exec.run_bind_ok (run_pushRoot _ _), Exec.run_bind_ok (EStateM.run_get _)]
  have hinitialized : Acts .projection core (core.traced none (.initialization id)) :=
    ⟨hok, .initialized id⟩
  refine Exec.follows_of_path (ReflTransGen.single (upkeep_of_acts hinitialized rfl)) ?_
  have hroot : (core.traced none (.initialization id)).Rooted core.nextTrace id :=
    ⟨_, List.getElem?_concat_length, Or.inl rfl⟩
  have hcaught₀ := hcaught.action hinitialized.2 rfl
  have hok₀ : (core.traced none (.initialization id)).fault = none := hok
  generalize core.traced none (.initialization id) = core₀ at hroot hcaught₀ hok₀ ⊢
  obtain ⟨kernel, hkernel⟩ := hhosts.of_shape hcaught₀.shape
  dsimp only
  rw [hkernel]
  dsimp only
  rcases @reconcileComponent_catches _ program _ _ _ _ hok₀ hkernel with
    ⟨panic, core', hrun⟩ | ⟨⟨outcome, kernel₁⟩, core₁, hrun, hok₁, hreconciled, hacts, hcatches⟩
  · rw [EStateM.run_bind, hrun]
    exact proceeds_panicked trivial
  · rw [Exec.run_bind_ok hrun]
    let taken : ErasedComponentKernel :=
      { kernel₁ with kernel := { kernel₁.kernel with initialCommand := none } }
    have htaken : Acts .projection core₁ (core₁.withComponent id messageType taken) :=
      ⟨hok₁, .commandTaken id messageType kernel₁ hreconciled.1⟩
    have hpath : ReflTransGen (Acts .projection) core₀ (core₁.withComponent id messageType taken) :=
      (ReflTransGen.single hacts).tail htaken
    have hcaught₂ := (hcatches done none hcaught₀ (Or.inl rfl)).action htaken.2 rfl
    have hstep : Upkeep program core₀ (core₁.withComponent id messageType taken) := by
      intro earlier hearlier
      have hprojected := hcatches earlier none hearlier (Or.inl rfl)
      exact (hprojected.action htaken.2 rfl).weaken (List.subset_cons_self _ _)
    rw [Exec.run_bind_ok (run_onComponent_ok (run_takeInitialCommandErased _))]
    refine Exec.follows_of_path (ReflTransGen.single hstep) ?_
    have hauthor₂ : (core₁.withComponent id messageType taken).Authors core.nextTrace id
        kernel₁.messageType := by
      refine ⟨hroot.path hpath, ?_⟩
      rw [(Program.component?_eq_some hreconciled.1).2]
      exact Program.Hosts.of_shape (shape_eq_path (ReflTransGen.single htaken))
        ⟨_, hreconciled.1⟩
    have htakenOk : (core₁.withComponent id messageType taken).fault = none := hok₁
    have happlied : Maintains program (core₁.withComponent id messageType taken)
        ((applyReconciled id core.nextTrace outcome).run _)
        fun _ core₃ => core₃.Authors core.nextTrace id kernel₁.messageType :=
      ((applyReconciled_proceeds htakenOk hauthor₂.rooted
        (hreconciled.2.path (ReflTransGen.single htaken))).conseq fun _ _ hpath _ =>
          hauthor₂.path hpath).maintains rfl
    refine (proceeds_bind happlied ?_).conseq fun _ core' hpath (_ : True) =>
      Exec.path_preserves (fun _ _ h hupkeep => hupkeep _ h) hpath hcaught₂
    intro _ core₃ _ hok₃ hauthor₃
    cases kernel₁.kernel.initialCommand with
    | none => exact proceeds_refl hok₃ trivial
    | some command => exact (interpret_proceeds hok₃ hauthor₃).maintains rfl

theorem initializeComponents_catches (components : List (ComponentId × TypeId))
    (hok : core.fault = none) (hcaught : CaughtUp program done none core)
    (hhosts : ∀ component ∈ components, program.Hosts component.1 component.2) :
    Maintains program core ((initializeComponents components).run core)
      fun _ core' => CaughtUp program (components.map Prod.fst ++ done) none core' := by
  induction components generalizing core done with
  | nil => exact proceeds_refl hok hcaught
  | cons component components ih =>
      unfold initializeComponents
      refine proceeds_bind
        (initializeComponent_catches hok hcaught (hhosts component List.mem_cons_self)) ?_
      intro _ core' _ hok' hcaught'
      refine (ih hok' hcaught' fun later hlater =>
        hhosts later (List.mem_cons_of_mem _ hlater)).conseq ?_
      intro _ core'' _ hrest
      refine hrest.weaken ?_
      intro id hid
      simpa [or_left_comm] using hid

/-- An initialization that returns an error has faulted. -/
theorem faithful_initializeComponents (components : List (ComponentId × TypeId))
    (hok : core.fault = none) : Faithful ((initializeComponents components).run core) := by
  induction components generalizing core with
  | nil => exact hok
  | cons component components ih =>
      refine faithful_bind ?_ fun _ _ hok => ih hok
      unfold initializeComponent
      refine faithful_bind hok fun work core₁ hok => ?_
      rw [Exec.run_bind_ok (EStateM.run_get _)]
      cases core₁.program.component? component.1 component.2 with
      | none => exact hok
      | some kernel =>
          refine faithful_bind (faithful_reconcileComponent hok _ _ _) fun result _ hok => ?_
          refine faithful_bind (faithful_onComponent hok _ _ _ _) fun command _ hok => ?_
          refine faithful_bind (faithful_applyReconciled hok _ _ _) fun _ _ hok => ?_
          cases command.1 with
          | none => exact hok
          | some command => exact faithful_interpretDeclarations hok _ _ _

end Startup

/-- A runtime that has faulted stays so. -/
theorem Reachable.faulted {start core : Core} (h : Reachable start core) {error : RuntimeError}
    (hfault : start.fault = some error) : core.fault = some error := by
  induction h with
  | refl => exact hfault
  | operation operation _ _ ih =>
      rw [perform_faulted ih operation]
      exact ih

/-- Whenever a run has settled, every Component desired last what its current
    Model desires. -/
theorem caughtUp_of_reachable {start core : Core} (hstart : Launched start)
    (h : Reachable start core) (hok : core.fault = none) :
    ∃ program : Program, CaughtUp program (program.components.map (·.id)) none core := by
  obtain ⟨builder, program, bindings, hassembled, hbuild, hlaunch⟩ := hstart
  obtain ⟨rfl, -⟩ := ProgramBuilder.build_ok hbuild
  obtain ⟨-, -, hnew⟩ := launch_eq_ok.mp hlaunch
  have hcheck := (ProgramBuilder.build_eq_ok.mp hbuild).1
  have hdistinct := (ProgramBuilder.checkComponents_eq_ok.mp hcheck).1
  obtain ⟨-, hfound, hall⟩ := @mem_initializationOrder _ builder.blueprint hdistinct
  have hfresh : CaughtUp builder.blueprint [] none (Core.fresh builder.blueprint bindings) := by
    refine ⟨rfl, hdistinct, ?_, ?_⟩
    · intro kernel _ _ desired hdesired
      cases hdesired
    · intro id hid
      cases hid
  have hcatches := initializeComponents_catches (initializationOrder builder.blueprint) rfl hfresh
    fun entry hentry => ⟨_, (hfound entry hentry).choose_spec.2⟩
  have hfaithful := @faithful_initializeComponents _ (Core.fresh builder.blueprint bindings)
    (initializationOrder builder.blueprint) rfl
  have hpath := h.path_of_covers (covers_upkeep builder.blueprint)
  refine ⟨builder.blueprint, ?_⟩
  unfold Core.new at hnew
  split at hnew
  · rename_i core' hrun
    cases hnew
    rw [hrun] at hcatches
    have hdone : builder.blueprint.components.map (·.id) ⊆
        (initializationOrder builder.blueprint).map Prod.fst ++ [] := by
      intro id hid
      obtain ⟨kernel, hkernel, rfl⟩ := List.mem_map.mp hid
      exact List.mem_append_left _ (List.mem_map.mpr ⟨_, (hall kernel hkernel).1, rfl⟩)
    exact Exec.path_preserves (fun _ _ h hupkeep => hupkeep _ h) hpath
      (hcatches.2.2.weaken hdone)
  · rename_i error core' hrun
    cases hnew
    rw [hrun] at hfaithful
    rw [h.faulted hfaithful] at hok
    cases hok
  · cases hnew

/-! ## Generations -/

/-- Every row has a generation of its own, which was handed out before. -/
structure Generations (core : Core) : Prop where
  distinct : (core.sources.map (·.stamp.generation)).Nodup
  recent : ∀ source ∈ core.sources, source.stamp.generation < core.nextGeneration

/-- No row that has stopped in `core` runs in `core'`. -/
def Core.Rests (core core' : Core) : Prop :=
  ∀ source ∈ core.sources, source.running = false → ∀ other ∈ core'.sources,
    other.stamp.generation = source.stamp.generation → other.running = false

namespace Generations

variable {core core' : Core} {phase : Phase}

theorem fresh (program : Program) (bindings : Bindings) :
    Generations (Core.fresh program bindings) :=
  ⟨List.nodup_nil, fun _ hsource => absurd hsource List.not_mem_nil⟩

theorem generations_withSource (core : Core) (component : ComponentId)
    (subscription : SubscriptionId) {update : ActiveSource → ActiveSource}
    (h : ∀ source, (update source).stamp = source.stamp) :
    (core.withSource component subscription update).sources.map (·.stamp.generation) =
      core.sources.map (·.stamp.generation) := by
  refine Table.map_modifyFirst ?_ core.sources
  intro source _
  rw [h]

/-- The generation of a new row is the next one. -/
theorem nodup_activated (h : Generations core) {base : List ActiveSource} (component : ComponentId)
    (subscription : ErasedRuntimeSubscription) (hbase : base.Sublist core.sources) :
    ((base ++ [core.activation component subscription]).map (·.stamp.generation)).Nodup := by
  rw [List.map_append]
  refine List.nodup_append.mpr ⟨h.distinct.sublist (hbase.map _), List.nodup_singleton _, ?_⟩
  intro generation hgeneration last hlast heq
  obtain ⟨source, hsource, rfl⟩ := List.mem_map.mp hgeneration
  have hrecent := h.recent source (hbase.subset hsource)
  rw [List.mem_singleton.mp hlast] at heq
  exact absurd heq (ne_of_lt hrecent)

theorem action (h : Generations core) (haction : Action core phase core') : Generations core' := by
  refine ⟨?_, ?_⟩
  · cases haction with
    | started => exact h.nodup_activated _ _ (List.Sublist.refl _)
    | replaced => exact h.nodup_activated _ _ List.eraseP_sublist
    | retained =>
        rw [generations_withSource]
        · exact h.distinct
        · exact fun _ => rfl
    | cancelled => exact h.distinct.sublist (List.eraseP_sublist.map _)
    | replaceFaulted => exact h.distinct.sublist (List.eraseP_sublist.map _)
    | sourceEventMapped =>
        rw [Core.foldl_withMappedEvent_sources]
        unfold Core.withRunning
        rw [generations_withSource, Core.withEmission_sources]
        · unfold Core.withPlan
          rw [Core.observed_sources, generations_withSource]
          · exact h.distinct
          · exact fun _ => rfl
        · exact fun _ => rfl
    | _ => simpa using h.distinct
  · intro source hsource
    rcases haction.realizations hsource with ⟨old, hold, heq, _⟩ | ⟨hnew, hnext⟩
    · rw [← heq]
      exact lt_of_lt_of_le (h.recent old hold) haction.nextGeneration_le
    · omega

theorem move (h : Generations core) (hmove : Move core core') : Generations core' := by
  rcases hmove with ⟨_, ⟨phase, haction⟩ | hpassage⟩
  · exact h.action haction
  · cases hpassage
    exact ⟨h.distinct, h.recent⟩

theorem nextGeneration_le_path (hpath : ReflTransGen Move core core') :
    core.nextGeneration ≤ core'.nextGeneration := by
  induction hpath with
  | refl => exact le_refl _
  | tail _ hmove ih =>
      refine le_trans ih ?_
      rcases hmove with ⟨_, ⟨phase, haction⟩ | hpassage⟩
      · exact haction.nextGeneration_le
      · cases hpassage
        exact le_refl _

theorem path (h : Generations core) (hpath : ReflTransGen Move core core') : Generations core' :=
  Exec.path_preserves (fun _ _ hgenerations hmove => hgenerations.move hmove) hpath h

/-- A row of an old generation continues the row that had it. -/
theorem continues (hpath : ReflTransGen Move core core')
    {source : ActiveSource} (hsource : source ∈ core'.sources)
    (hold : source.stamp.generation < core.nextGeneration) :
    ∃ old ∈ core.sources, old.stamp = source.stamp ∧
      (source.running = true → old.running = true) := by
  induction hpath generalizing source with
  | refl => exact ⟨source, hsource, rfl, id⟩
  | @tail before after hpath hmove ih =>
      have hnext := nextGeneration_le_path hpath
      rcases hmove with ⟨_, ⟨phase, haction⟩ | hpassage⟩
      · rcases haction.realizations hsource with ⟨row, hrow, heq, _, hruns⟩ | ⟨hnew, _⟩
        · obtain ⟨old, hmem, hstamp, hruns'⟩ := ih hrow (heq ▸ hold)
          exact ⟨old, hmem, hstamp.trans heq, fun hrunning => hruns' (hruns hrunning)⟩
        · omega
      · cases hpassage
        exact ih hsource hold

theorem rests (h : Generations core) (hpath : ReflTransGen Move core core') : core.Rests core' := by
  intro source hsource hstopped other hother hgeneration
  have hrecent : other.stamp.generation < core.nextGeneration := by
    rw [hgeneration]
    exact h.recent source hsource
  obtain ⟨old, hold, hstamp, hruns⟩ := continues hpath hother hrecent
  have hsame : old = source := by
    refine List.inj_on_of_nodup_map h.distinct hold hsource ?_
    rw [hstamp]
    exact hgeneration
  rw [← Bool.not_eq_true]
  intro hrunning
  rw [← hsame, hruns hrunning] at hstopped
  cases hstopped

end Generations

/-! ## The table of Sources -/

/-- The rows of one Component. -/
def Core.sourcesOf (core : Core) (id : ComponentId) : List ActiveSource :=
  core.sources.filter fun source => source.stamp.component = id

/-- The rows of a Component are those of what it desires, each realized for an
    equal descriptor and with the mapper that is desired now. -/
structure Tabulates (core : Core) (id : ComponentId) {message : TypeId}
    (desired : List (Subscription message)) : Prop where
  distinct : ((core.sourcesOf id).map (·.stamp.subscription)).Nodup
  ids : ∀ subscription, subscription ∈ (core.sourcesOf id).map (·.stamp.subscription) ↔
    subscription ∈ desired.map (·.id)
  installed : ∀ source ∈ core.sourcesOf id, ∃ wanted ∈ desired,
    wanted.id = source.stamp.subscription ∧ source.subscription = ⟨message, wanted⟩
  lowered : ∀ source ∈ core.sourcesOf id, core.Lowered source

section Table

variable {core : Core} {kernel : ErasedComponentKernel}

theorem mem_sourcesOf {id : ComponentId} {source : ActiveSource} :
    source ∈ core.sourcesOf id ↔ source ∈ core.sources ∧ source.stamp.component = id := by
  unfold Core.sourcesOf
  rw [List.mem_filter, decide_eq_true_eq]

theorem mem_ids_sourcesOf {id : ComponentId} {subscription : SubscriptionId} :
    subscription ∈ (core.sourcesOf id).map (·.stamp.subscription) ↔
      (id, subscription) ∈ core.keys := by
  unfold Core.keys
  rw [List.mem_map, List.mem_map]
  constructor
  · rintro ⟨source, hsource, rfl⟩
    obtain ⟨hmem, rfl⟩ := mem_sourcesOf.mp hsource
    exact ⟨source, hmem, rfl⟩
  · rintro ⟨source, hsource, hkey⟩
    obtain ⟨hcomponent, hsubscription⟩ := Prod.ext_iff.mp hkey
    exact ⟨source, mem_sourcesOf.mpr ⟨hsource, hcomponent⟩, hsubscription⟩

theorem nodup_ids_sourcesOf (hkeyed : core.keys.Nodup) (id : ComponentId) :
    ((core.sourcesOf id).map (·.stamp.subscription)).Nodup := by
  have hkeys : ((core.sourcesOf id).map ActiveSource.key).Nodup :=
    hkeyed.sublist (List.filter_sublist.map _)
  refine (List.nodup_map_iff_inj_on hkeys.of_map).mpr ?_
  intro first hfirst second hsecond heq
  refine List.inj_on_of_nodup_map hkeys hfirst hsecond ?_
  have hcomponents : first.stamp.component = second.stamp.component :=
    (mem_sourcesOf.mp hfirst).2.trans (mem_sourcesOf.mp hsecond).2.symm
  unfold ActiveSource.key
  rw [hcomponents, heq]

/-- Once everything has settled, the mirror shows every Component as it is. -/
theorem Mirrored.tabulates (h : Mirrored core []) (hkernel : kernel ∈ core.program.components)
    {message : TypeId} {desired : List (Subscription message)}
    (hlatest : core.latest kernel.id = some ⟨message, desired⟩) :
    Tabulates core kernel.id desired := by
  refine ⟨nodup_ids_sourcesOf h.rows.keyed _, ?_, ?_, ?_⟩
  · intro id
    rw [mem_ids_sourcesOf]
    refine Iff.trans ?_ ((h.reflects kernel hkernel).ids _ hlatest id)
    constructor
    · intro hkey
      rcases h.rows.covered kernel hkernel id hkey with hactive | hcancel
      · exact hactive
      · cases hcancel
    · intro hactive
      rcases h.complete kernel hkernel id hactive with hkey | ⟨_, hstart, _⟩
      · exact hkey
      · cases hstart
  · intro source hsource
    obtain ⟨hmem, hcomponent⟩ := mem_sourcesOf.mp hsource
    obtain ⟨last, hlast, wanted, hwanted, heq⟩ := h.current source hmem fun _ hchange => by
      cases hchange
    rw [hcomponent, hlatest] at hlast
    cases hlast
    refine ⟨wanted, hwanted, ?_, heq⟩
    rw [← h.named source hmem, heq]
    rfl
  · intro source hsource
    exact h.lowered source (mem_sourcesOf.mp hsource).1

theorem desired_of_projection {projection : ErasedProjection}
    (h : kernel.projection = .ok projection) :
    ∃ desired, kernel.desired = .ok desired ∧ projection = ⟨_, desired⟩ := by
  unfold ErasedComponentKernel.projection at h
  cases hdesired : kernel.desired with
  | error panic =>
      rw [hdesired] at h
      cases h
  | ok desired =>
      rw [hdesired] at h
      cases h
      exact ⟨desired, rfl, rfl⟩

end Table

/-- Between two operations of a runtime that has not faulted, the table of
    Sources is the projection of the current Models: every Component has the
    rows of what its Model desires now, and no others; no two rows are of one
    generation; and no row that has stopped runs again. -/
theorem sources_project_models (hlawful : LawfulDescriptors) {start core : Core}
    (hstart : Launched start) (h : Reachable start core) (hok : core.fault = none) :
    (∀ kernel ∈ core.program.components, ∃ desired, kernel.desired = .ok desired ∧
      core.latest kernel.id = some ⟨_, desired⟩ ∧ Tabulates core kernel.id desired) ∧
      (∀ source ∈ core.sources, ∃ kernel ∈ core.program.components,
        kernel.id = source.stamp.component) ∧
      Generations core ∧ ∃ program bindings, ReflTransGen Move (Core.fresh program bindings) core ∧
        ∀ before after, ReflTransGen Move (Core.fresh program bindings) before →
          ReflTransGen Move before after → before.Rests after := by
  have hmirrored := mirrored_of_reachable hlawful hstart h hok
  obtain ⟨origin, hcaught⟩ := caughtUp_of_reachable hstart h hok
  obtain ⟨builder, bindings, hassembled, hbuild, hvalid, hlaunched⟩ := hstart.inOrder
  have hkeyed := (h.inOrder hlaunched).1
  obtain ⟨hgrounds, hfated⟩ := (Grounds.fresh hassembled hbuild hvalid).path hkeyed
  have hfresh := Generations.fresh builder.blueprint bindings
  have hpath : ReflTransGen Move (Core.fresh builder.blueprint bindings) core :=
    hkeyed.lift id fun _ _ hmove => hmove.1
  refine ⟨?_, ?_, hfresh.path hpath, builder.blueprint, bindings, hpath, ?_⟩
  · intro kernel hkernel
    have hroster : (core.program.components.map (·.id)) = origin.components.map (·.id) := by
      have hsame := congrArg (fun shape => shape.roster.map Prod.fst) hcaught.shape
      unfold Program.shape at hsame
      rwa [List.map_map, List.map_map] at hsame
    have hid : kernel.id ∈ origin.components.map (·.id) := by
      rw [← hroster]
      exact List.mem_map_of_mem hkernel
    obtain ⟨projection, hlatest⟩ := hcaught.projected kernel.id hid
    have hcurrent := hcaught.current kernel hkernel (by simp) projection hlatest
    obtain ⟨desired, hdesired, rfl⟩ := desired_of_projection hcurrent
    exact ⟨desired, hdesired, hlatest, hmirrored.tabulates hkernel hlatest⟩
  · intro source hsource
    obtain ⟨kernel, hkernel⟩ := hgrounds.addressed.sources source hsource
    exact ⟨kernel, List.mem_of_find?_eq_some hkernel, (Program.component?_eq_some hkernel).1⟩
  · intro before after hbefore hafter
    exact (hfresh.path hbefore).rests hafter

end Controlled

end Samara

namespace Samara.Controlled

attribute [local instance] Sample.types

theorem sources_project_tuner :
    (∀ kernel ∈ tunerSentTwice.program.components, ∃ desired, kernel.desired = .ok desired ∧
      tunerSentTwice.latest kernel.id = some ⟨_, desired⟩ ∧
        Tabulates tunerSentTwice kernel.id desired) ∧
      Generations tunerSentTwice ∧
        tunerSentTwice.sources.map (·.stamp) = [⟨⟨"tuner"⟩, ⟨"lines"⟩, 0⟩] := by
  have hassembled : tunerBuilder.Assembled := .component _ tuner (.source _ (.new ⟨7⟩))
  have hsent : Reachable tunerCore tunerSent := .operation (tunerEmits 1) .refl (by decide +kernel)
  have hreachable : Reachable tunerCore tunerSentTwice :=
    .operation (tunerEmits 2) hsent (by decide +kernel)
  have hprojects := sources_project_models Sample.lawfulDescriptors
    (launched_of_assemble hassembled (Option.some_get _).symm) hreachable (by decide +kernel)
  exact ⟨hprojects.1, hprojects.2.2.1, by decide +kernel⟩

end Samara.Controlled
