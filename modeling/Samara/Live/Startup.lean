/-
  Samara.Live.Startup

  The initialization of a live runtime whose Components the validators accept.
  While the scope is running, only a Driver that panics while it starts makes it
  fail: every check of the owner has been made before.
-/
import Samara.Controlled.Erasure
import Samara.Controlled.Startup
import Samara.Live.Lease
import Samara.Profile

namespace Samara

open Relation (ReflTransGen)

variable [RustTypes]

namespace Live

/-- The fault of a Driver that panics while it starts. -/
def StartPanic (error : RuntimeError) : Prop :=
  ∃ component descriptorType work,
    error = .fault component descriptorType work "SourceDriver panicked while starting"

/-! ## Arms that cannot fail -/

/-- All that an initialization relies on is as before. -/
structure Calm (core core' : Core) : Prop where
  program : core'.program = core.program
  bindings : core'.bindings = core.bindings
  draining : core'.draining = core.draining

/-- `result` leaves the state calm, or is a panic. -/
def Sound {α : Type} (core : Core) : EStateM.Result Stop Core α → Prop
  | .ok _ core' => Calm core core'
  | .error (.error error) _ => StartPanic error
  | .error _ _ => True

section Sound

variable {core core' : Core}

theorem Calm.refl (core : Core) : Calm core core := ⟨rfl, rfl, rfl⟩

theorem Calm.trans {first second third : Core} (h : Calm first second) (h' : Calm second third) :
    Calm first third :=
  ⟨h'.program.trans h.program, h'.bindings.trans h.bindings, h'.draining.trans h.draining⟩

theorem Beside.calm (h : Beside core core') : Calm core core' :=
  ⟨h.program, (congrArg Core.bindings h :), h.draining⟩

theorem sound_bind {α β : Type} {x : Owner α} {f : α → Owner β} (hx : Sound core (x.run core))
    (hf : ∀ value core', Calm core core' → Sound core' ((f value).run core')) :
    Sound core ((x >>= f).run core) := by
  rw [EStateM.run_bind]
  cases hrun : x.run core with
  | ok value core' =>
      rw [hrun] at hx
      have hrest := hf value core' hx
      show Sound core ((f value).run core')
      cases hlast : (f value).run core' with
      | ok last core'' =>
          rw [hlast] at hrest
          exact Calm.trans hx hrest
      | error stop core'' =>
          rw [hlast] at hrest
          cases stop <;> exact hrest
  | error stop core' =>
      rw [hrun] at hx
      cases stop <;> exact hx

/-- One access that returns and leaves the state calm. -/
theorem sound_step {α : Type} {x : Owner α} {value : α} (hrun : x.run core = .ok value core')
    (hcalm : Calm core core') : Sound core (x.run core) := by
  rw [hrun]
  exact hcalm

theorem sound_turn : Sound core (turn.run core) := (turn_beside core).calm

theorem sound_uncaught {α : Type} (result : Callback α) :
    Sound core ((uncaught result : Owner α).run core) := by
  cases result with
  | ok value => exact .refl core
  | error panic => trivial

theorem sound_acceptFinite (event : LiveEvent) : Sound core ((acceptFinite event).run core) :=
  sound_bind sound_turn fun _ _ _ => (sound_step rfl ⟨rfl, rfl, rfl⟩)

theorem sound_spawnOwned (context : TaskContext) (delivery : TaskDelivery) :
    Sound core ((spawnOwned context delivery).run core) :=
  sound_bind sound_turn fun _ _ _ => (sound_step rfl ⟨rfl, rfl, rfl⟩)

end Sound

/-! ## Validated bindings -/

/-- The state of an initialization: the kernels of `ids` have not started yet. -/
structure Starting (builder : ProgramBuilder) (bindings : Bindings) (ids : List ComponentId)
    (core : Core) : Prop where
  draining : core.draining = false
  bindings : core.bindings = bindings
  shape : core.program.shape = builder.blueprint.shape
  kernels : ∀ id ∈ ids, ∀ messageType,
    core.program.component? id messageType = builder.blueprint.component? id messageType

/-- What the owner looks up for a Program is there. -/
structure Bindings.Serves (bindings : Bindings) (program : Program) : Prop where
  effects : ∀ token descriptorType, program.declaresEffect token descriptorType = true →
    descriptorType ∈ bindings.effects
  sources : ∀ subscription : ErasedRuntimeSubscription,
    program.declaresSourcePlan subscription.capability subscription.descriptorType
      subscription.sourcePlan.terminalType = true →
        ∃ binding, bindings.source subscription.sourcePlan = .ok binding

theorem LiveBindings.serves {stdinLines : TypeId} {bindings : LiveBindings} {program : Program}
    (h : validate stdinLines bindings program = .ok ()) :
    (erase stdinLines bindings).Serves program := by
  have hresolves := resolves h
  constructor
  · intro token descriptorType hdeclares
    unfold Program.declaresEffect at hdeclares
    obtain ⟨-, hany⟩ := Bool.and_eq_true_iff.mp hdeclares
    cases hfound : program.effectRequirement token with
    | none =>
        rw [hfound] at hany
        cases hany
    | some requirement =>
        rw [hfound] at hany
        have htype : requirement.descriptorType = descriptorType := of_decide_eq_true hany
        have heffect := (hresolves.effect requirement (List.mem_of_find?_eq_some hfound)).1
        rw [← htype]
        exact List.mem_of_find?_eq_some heffect
  · intro subscription hdeclares
    unfold Program.declaresSourcePlan at hdeclares
    obtain ⟨-, hany⟩ := Bool.and_eq_true_iff.mp hdeclares
    cases hfound : program.sourceRequirement subscription.capability with
    | none =>
        rw [hfound] at hany
        cases hany
    | some requirement =>
        rw [hfound] at hany
        have hterminal : requirement.terminalType = subscription.sourcePlan.terminalType :=
          of_decide_eq_true hany
        have hmem : requirement ∈ program.sourceRequirements := List.mem_of_find?_eq_some hfound
        unfold Program.sourceRequirement at hfound
        have hsame := List.find?_some hfound
        have htoken : requirement.token = subscription.capability := CapabilityToken.sameAs_iff.mp hsame
        obtain ⟨binding, _, hsource⟩ := hresolves.source requirement hmem
        refine ⟨_, hsource subscription.sourcePlan hterminal.symm ?_⟩
        rw [htoken]
        exact decide_eq_true rfl

section Initialization

variable {builder : ProgramBuilder} {bindings : Bindings} {ids : List ComponentId}
  {core core' : Core} {component : ComponentId} {work : TraceId}

namespace Starting

theorem calm (h : Starting builder bindings ids core) (hcalm : Calm core core') :
    Starting builder bindings ids core' := by
  refine ⟨hcalm.draining.trans h.draining, hcalm.bindings.trans h.bindings, ?_, ?_⟩
  · rw [hcalm.program]
    exact h.shape
  · rw [hcalm.program]
    exact h.kernels

theorem declaresAlike (h : Starting builder bindings ids core) :
    builder.blueprint.DeclaresAlike core.program :=
  Program.declaresAlike_of_shape h.shape

theorem resolvePort (h : Starting builder bindings ids core) {protocol : TypeId}
    {port : Port protocol}
    (hdeclares : builder.blueprint.declaresPortTarget port.program port.id protocol = true)
    (noun : String) :
    Sound core ((resolvePort component work port noun).run core) := by
  rw [← h.declaresAlike.port] at hdeclares
  unfold Program.declaresPortTarget at hdeclares
  obtain ⟨hprogram, hany⟩ := Bool.and_eq_true_iff.mp hdeclares
  obtain ⟨binding, hmem, hkey⟩ := List.any_eq_true.mp hany
  unfold Live.resolvePort
  rw [Exec.run_bind_ok (EStateM.run_get core), if_neg (not_not.mpr (of_decide_eq_true hprogram))]
  cases hfound : core.program.binding? protocol port.id with
  | some found => exact .refl core
  | none =>
      unfold Program.binding? at hfound
      rw [List.find?_eq_none] at hfound
      exact absurd (by rw [Bool.and_comm]; exact hkey) (hfound binding hmem)

/-- An accepted initial declaration is carried out. -/
theorem interpretDeclaration (h : Starting builder bindings ids core)
    (hserves : bindings.Serves builder.blueprint) {message : TypeId}
    {declaration : Declaration message} (haccepts : Accepts builder.blueprint declaration)
    (hinitial : declaration.Initial) :
    Sound core ((interpretDeclaration component work declaration).run core) := by
  cases declaration with
  | effect command =>
      have hdeclares : builder.blueprint.declaresEffect command.capability command.descriptorType =
        true := haccepts
      have hbound : command.descriptorType ∈ core.bindings.effects := by
        rw [h.bindings]
        exact hserves.effects _ _ hdeclares
      rw [← h.declaresAlike.effect] at hdeclares
      show Sound core ((interpretEffect component work command).run core)
      unfold interpretEffect
      rw [Exec.run_bind_ok (EStateM.run_get core), if_neg (by rw [hdeclares]; decide),
        if_neg (not_not.mpr hbound)]
      refine sound_bind (sound_step rfl ⟨rfl, rfl, rfl⟩) fun _ core₁ _ => ?_
      exact sound_bind (sound_spawnOwned _ _) fun _ core₂ _ => (sound_step rfl ⟨rfl, rfl, rfl⟩)
  | send command =>
      have hdeclares : builder.blueprint.declaresComponentTarget command.target.program
        command.target.id (RustTypes.componentMessage command.component) = true := haccepts
      rw [← h.declaresAlike.target] at hdeclares
      obtain ⟨hprogram, hany⟩ := Bool.and_eq_true_iff.mp hdeclares
      show Sound core ((interpretSend component work command).run core)
      unfold interpretSend
      rw [Exec.run_bind_ok (EStateM.run_get core)]
      dsimp only
      rw [if_neg]
      · exact sound_bind (sound_acceptFinite _) fun _ core₁ _ => Calm.refl core₁
      · rw [Bool.not_eq_true, Bool.or_eq_false_iff]
        refine ⟨decide_eq_false (not_not.mpr (of_decide_eq_true hprogram)), ?_⟩
        rw [← List.isSome_find?] at hany
        rw [← Option.not_isSome, Bool.not_eq_false']
        exact hany
  | notify command =>
      refine sound_bind (h.resolvePort haccepts _) fun binding core₁ _ => ?_
      refine sound_bind (sound_uncaught _) fun _ core₂ _ => ?_
      refine sound_bind (sound_uncaught _) fun _ core₃ _ => ?_
      exact sound_bind (sound_acceptFinite _) fun _ core₄ _ => Calm.refl core₄
  | request command =>
      refine sound_bind (h.resolvePort haccepts _) fun binding core₁ _ => ?_
      rw [Exec.run_bind_ok (EStateM.run_get core₁)]
      refine sound_bind (sound_step rfl ⟨rfl, rfl, rfl⟩) fun _ core₃ _ => ?_
      refine sound_bind (sound_uncaught _) fun _ core₄ _ => ?_
      refine sound_bind (sound_uncaught _) fun _ core₅ _ => ?_
      refine sound_bind (sound_step rfl ⟨rfl, rfl, rfl⟩) fun _ core₆ _ => ?_
      exact sound_bind (sound_acceptFinite _) fun _ core₇ _ => Calm.refl core₇
  | reply command => exact absurd hinitial id
  | after delay value =>
      show Sound core ((@interpretAfter _ message component work value).run core)
      unfold interpretAfter
      rw [Exec.run_bind_ok (EStateM.run_get core)]
      refine sound_bind (sound_step rfl ⟨rfl, rfl, rfl⟩) fun _ core₂ _ => ?_
      exact sound_bind (sound_spawnOwned _ _) fun _ core₃ _ => (sound_step rfl ⟨rfl, rfl, rfl⟩)

/-- A declared Source is started, unless its Driver panics. -/
theorem activateSource (h : Starting builder bindings ids core)
    (hserves : bindings.Serves builder.blueprint) {subscription : ErasedRuntimeSubscription}
    (hdeclares : builder.blueprint.declaresSourcePlan subscription.capability
      subscription.descriptorType subscription.sourcePlan.terminalType = true) :
    Sound core ((activateSource component subscription work).run core) := by
  obtain ⟨binding, hbinding⟩ := hserves.sources subscription hdeclares
  have haccepts : subscription.sourcePlan.acceptsOutputEventType subscription.sourceEventType = true :=
    subscription.subscription.sourcePlan_accepts
  rw [← h.declaresAlike.sourcePlan] at hdeclares
  unfold Live.activateSource
  rw [Exec.run_bind_ok (EStateM.run_get core), h.draining, if_neg Bool.false_ne_true]
  refine sound_bind (sound_bind (sound_bind sound_turn fun _ core₁ _ => sound_bind (.refl core₁)
    fun _ core₂ _ => Calm.refl core₂) fun _ core₃ _ => Calm.refl core₃) fun running core₁ _ => ?_
  by_cases hrunning : running = true
  · rw [hrunning, if_neg (by decide)]
    refine sound_bind (sound_uncaught _) fun _ core₂ _ => ?_
    dsimp only
    rw [if_neg (by rw [haccepts]; decide), if_neg (by rw [hdeclares]; decide), h.bindings, hbinding]
    have hrealized : (newRealization component subscription).run core₂ =
        .ok (core₂.nextStamp component subscription) (core₂.realized component subscription) := rfl
    refine sound_bind (sound_step hrealized ⟨rfl, rfl, rfl⟩) fun stamp core₃ _ => ?_
    refine sound_bind ?_ fun _ core₄ _ => ?_
    · cases binding.start stamp with
      | ok value => exact .refl core₃
      | error panic => exact ⟨_, _, _, rfl⟩
    · refine sound_bind (sound_spawnOwned _ _) fun _ core₅ _ => ?_
      refine sound_bind (sound_step rfl ⟨rfl, rfl, rfl⟩) fun _ core₆ _ => ?_
      exact sound_step rfl ⟨rfl, rfl, rfl⟩
  · rw [Bool.not_eq_true] at hrunning
    rw [hrunning]
    exact .refl core₁

end Starting

/-! ## Loops, which the end of the scope may cut short -/

/-- While the scope is running, `result` is returned in the state of an
    initialization, or fails because a Driver panicked. -/
def Spares {α : Type} (builder : ProgramBuilder) (bindings : Bindings) (ids : List ComponentId) :
    EStateM.Result Stop Core α → Prop
  | .ok _ core => core.scope.phase = .running → Starting builder bindings ids core
  | .error (.error error) core => core.scope.phase = .running → StartPanic error
  | .error _ _ => True

theorem Exit.scope_eq {stop : Stop} (h : Exit stop core core') :
    core'.scope = core.scope := by
  cases h <;> rfl

/-- A scope that no longer runs never runs again. -/
theorem spares_stopped {α : Type} {result : EStateM.Result Stop Core α}
    (hfollows : Exec.Follows Step Exit core result fun _ _ => True)
    (hstopped : core.scope.phase ≠ .running) : Spares builder bindings ids result := by
  have hbeats {reached : Core} (hpath : ReflTransGen Step core reached) :
      reached.scope.phase ≠ .running := by
    have h := Exec.path_relates Beats.refl (fun _ _ _ => Beats.trans) (fun _ _ => Step.beats) hpath
    rw [h.phase_eq hstopped]
    exact hstopped
  cases result with
  | ok value core' => exact fun hphase => absurd hphase (hbeats hfollows.1)
  | error stop core' =>
      obtain ⟨reached, hpath, hexit⟩ := hfollows
      cases stop with
      | error error =>
          intro hphase
          rw [hexit.scope_eq] at hphase
          exact absurd hphase (hbeats hpath)
      | panicked panic => exact True.intro
      | outOfFuel | joining => exact True.intro

theorem spares_bind {α β : Type} {ids' : List ComponentId} {x : Owner α} {f : α → Owner β}
    (hx : Spares builder bindings ids (x.run core)) (hmoves : ∀ value, Moves Step (f value))
    (hf : ∀ value core', Starting builder bindings ids core' →
      Spares builder bindings ids' ((f value).run core')) :
    Spares builder bindings ids' ((x >>= f).run core) := by
  rw [EStateM.run_bind]
  cases hrun : x.run core with
  | ok value core' =>
      rw [hrun] at hx
      by_cases hphase : core'.scope.phase = .running
      · exact hf value core' (hx hphase)
      · exact spares_stopped (hmoves value core') hphase
  | error stop core' =>
      rw [hrun] at hx
      cases stop <;> exact hx

theorem Starting.spares {α : Type} (h : Starting builder bindings ids core)
    {result : EStateM.Result Stop Core α} (hsound : Sound core result) :
    Spares builder bindings ids result := by
  cases result with
  | ok value core' => exact fun _ => h.calm hsound
  | error stop core' =>
      cases stop with
      | error error => exact fun _ => hsound
      | panicked panic => exact True.intro
      | outOfFuel | joining => exact True.intro

namespace Starting

theorem turn (h : Starting builder bindings ids core) : Starting builder bindings ids core.turn :=
  h.calm (turn_beside core).calm

theorem observeDrainCutoff (h : Starting builder bindings ids core) :
    Spares builder bindings ids (observeDrainCutoff.run core) := by
  unfold Live.observeDrainCutoff
  rw [Exec.run_bind_ok (EStateM.run_get core), h.draining, if_neg Bool.false_ne_true]
  have hlook : isDraining.run core = .ok (decide (core.turn.scope.phase = .draining)) core.turn := rfl
  rw [Exec.run_bind_ok hlook]
  by_cases hdrain : core.turn.scope.phase = .draining
  · rw [decide_eq_true hdrain, if_pos rfl]
    refine spares_stopped (beginDrain_follows hdrain) ?_
    rw [hdrain]
    exact fun heq => by cases heq
  · rw [decide_eq_false hdrain, if_neg Bool.false_ne_true]
    exact fun _ => h.turn

theorem applyChanges (h : Starting builder bindings ids core)
    (hserves : bindings.Serves builder.blueprint) {changes : List ErasedSubscriptionChange}
    (hstarts : ∀ change ∈ changes, ∃ subscription, change = .start subscription ∧
      builder.blueprint.declaresSourcePlan subscription.capability subscription.descriptorType
        subscription.sourcePlan.terminalType = true) :
    Spares builder bindings ids ((applyChanges component work changes).run core) := by
  induction changes generalizing core with
  | nil => exact fun _ => h
  | cons change changes ih =>
      rw [List.forall_mem_cons] at hstarts
      obtain ⟨⟨subscription, rfl, hdeclares⟩, hstarts⟩ := hstarts
      have hrest := moves_applyChanges component work changes
      refine spares_bind h.observeDrainCutoff (fun _ =>
        moves_bind (moves_applySubscriptionChange component work _) fun _ => hrest) fun _ _ h => ?_
      exact spares_bind (h.spares (h.activateSource hserves hdeclares)) (fun _ => hrest)
        fun _ _ h => ih h hstarts

theorem interpretDeclarations (h : Starting builder bindings ids core)
    (hserves : bindings.Serves builder.blueprint) {message : TypeId}
    {declarations : List (Declaration message)}
    (haccepts : ∀ declaration ∈ declarations, Accepts builder.blueprint declaration)
    (hinitial : ∀ declaration ∈ declarations, declaration.Initial) :
    Spares builder bindings ids ((interpretDeclarations component declarations).run core) := by
  induction declarations generalizing core with
  | nil => exact fun _ => h
  | cons declaration declarations ih =>
      rw [List.forall_mem_cons] at haccepts hinitial
      have hrest := moves_interpretDeclarations component declarations
      have hlook : isCancelling.run core =
        .ok (decide (core.turn.scope.phase = .cancelling)) core.turn := rfl
      unfold Live.interpretDeclarations
      rw [Exec.run_bind_ok hlook]
      by_cases hcancel : core.turn.scope.phase = .cancelling
      · rw [decide_eq_true hcancel, if_pos rfl]
        exact fun _ => h.turn
      · rw [decide_eq_false hcancel, if_neg Bool.false_ne_true]
        refine spares_bind h.turn.observeDrainCutoff (fun _ => moves_bind moves_nextWork fun work =>
          moves_bind (moves_interpretDeclaration component work declaration) fun _ => hrest) ?_
        intro _ core₁ h
        have hwork : Starting builder bindings ids { core₁ with nextWork := core₁.nextWork + 1 } :=
          h.calm ⟨rfl, rfl, rfl⟩
        show Spares builder bindings ids ((do
          Live.interpretDeclaration component core₁.nextWork declaration
          Live.interpretDeclarations component declarations : Owner Unit).run
            { core₁ with nextWork := core₁.nextWork + 1 })
        exact spares_bind (hwork.spares (hwork.interpretDeclaration hserves haccepts.1 hinitial.1))
          (fun _ => hrest) fun _ _ h => ih h haccepts.2 hinitial.2

/-! ## Components -/

/-- A kernel stored under its identity is found, and the others are as before. -/
theorem stored (h : Starting builder bindings ids core) {id : ComponentId} (hid : id ∉ ids)
    {messageType : TypeId} {kernel kernel' : ErasedComponentKernel}
    (hkernel : core.program.component? id messageType = some kernel) (hsame : kernel'.id = kernel.id)
    (htype : kernel'.componentType = kernel.componentType) :
    Starting builder bindings ids
        { core with program := core.program.setComponent id messageType kernel' } ∧
      (core.program.setComponent id messageType kernel').component? id messageType =
        some kernel' := by
  have hmessage : kernel'.messageType = kernel.messageType :=
    congrArg RustTypes.componentMessage htype
  refine ⟨⟨h.draining, h.bindings, ?_, ?_⟩, Program.component?_setComponent hkernel hsame hmessage⟩
  · exact (Program.shape_setComponent hkernel hsame htype).trans h.shape
  · intro other hother otherType
    rw [← h.kernels other hother otherType]
    exact Program.component?_setComponent_of_ne hkernel hsame (fun heq => hid (heq ▸ hother))

theorem mono {ids' : List ComponentId} (h : Starting builder bindings ids core)
    (hsub : ∀ id ∈ ids', id ∈ ids) : Starting builder bindings ids' core :=
  ⟨h.draining, h.bindings, h.shape, fun id hid => h.kernels id (hsub id hid)⟩

end Starting

theorem run_onComponent_ok {α : Type} {id : ComponentId} {messageType : TypeId}
    {kernel kernel' : ErasedComponentKernel} {action : EStateM Panic ErasedComponentKernel α} {value : α}
    (h : action.run kernel = .ok value kernel') :
    (onComponent id messageType kernel action).run core = .ok (.ok value, kernel')
      { core with program := core.program.setComponent id messageType kernel' } := by
  unfold onComponent EStateM.run
  unfold EStateM.run at h
  rw [h]

/-- What the owner does with a Component once it has its changes and its Command. -/
theorem Starting.startComponent (h : Starting builder bindings ids core)
    (hserves : bindings.Serves builder.blueprint) {changes : List ErasedSubscriptionChange}
    (hstarts : ∀ change ∈ changes, ∃ subscription, change = .start subscription ∧
      builder.blueprint.declaresSourcePlan subscription.capability subscription.descriptorType
        subscription.sourcePlan.terminalType = true)
    {command : Option ErasedCommand}
    (haccepts : ∀ initial, command = some initial → ∀ declaration ∈
      initial.command.intoDeclarations, Accepts builder.blueprint declaration ∧ declaration.Initial)
    {components : List (ComponentId × TypeId)}
    (hrest : ∀ core', Starting builder bindings ids core' →
      Spares builder bindings [] ((initializeComponents components).run core')) :
    Spares builder bindings [] ((do
      if ← isCancelling then pure ()
      else do
        Live.observeDrainCutoff
        Live.applyChanges component work changes
        match (.ok command : Callback (Option ErasedCommand)) with
        | .ok (some command) => do
            if ← isCancelling then pure ()
            else do
              interpret component command
              initializeComponents components
        | _ => initializeComponents components : Owner Unit).run core) := by
  have hlast : Starting builder bindings [] core := h.mono fun _ hid => absurd hid List.not_mem_nil
  have hlook (core : Core) : isCancelling.run core =
    .ok (decide (core.turn.scope.phase = .cancelling)) core.turn := rfl
  have hmoves := moves_initializeComponents components
  rw [Exec.run_bind_ok (hlook core)]
  by_cases hcancel : core.turn.scope.phase = .cancelling
  · rw [decide_eq_true hcancel, if_pos rfl]
    exact fun _ => hlast.turn
  · rw [decide_eq_false hcancel, if_neg Bool.false_ne_true]
    cases command with
    | none =>
        refine spares_bind h.turn.observeDrainCutoff (fun _ =>
          moves_bind (moves_applyChanges component work changes) fun _ => hmoves) fun _ _ h => ?_
        exact spares_bind (h.applyChanges hserves hstarts) (fun _ => hmoves) fun _ core' h => hrest core' h
    | some initial =>
        have hinterpret : Moves Step (do
            if ← isCancelling then pure ()
            else do
              interpret component initial
              initializeComponents components : Owner Unit) :=
          moves_bind moves_isCancelling fun _ => moves_ite (moves_pure ())
            (moves_bind (moves_interpret component initial) fun _ => hmoves)
        refine spares_bind h.turn.observeDrainCutoff (fun _ =>
          moves_bind (moves_applyChanges component work changes) fun _ => hinterpret) fun _ _ h => ?_
        refine spares_bind (h.applyChanges hserves hstarts) (fun _ => hinterpret) fun _ core₁ h => ?_
        rw [Exec.run_bind_ok (hlook core₁)]
        by_cases hcancel : core₁.turn.scope.phase = .cancelling
        · rw [decide_eq_true hcancel, if_pos rfl]
          exact fun _ => h.turn.mono fun _ hid => absurd hid List.not_mem_nil
        · rw [decide_eq_false hcancel, if_neg Bool.false_ne_true]
          have hdeclarations := haccepts initial rfl
          exact spares_bind (h.turn.interpretDeclarations hserves
            (fun declaration hmem => (hdeclarations declaration hmem).1)
            fun declaration hmem => (hdeclarations declaration hmem).2)
              (fun _ => hmoves) fun _ core' h => hrest core' h

theorem Starting.initializeComponents {components : List (ComponentId × TypeId)}
    (h : Starting builder bindings (components.map Prod.fst) core)
    (hserves : bindings.Serves builder.blueprint) (hdistinct : (components.map Prod.fst).Nodup)
    (hactive : ∀ kernel ∈ builder.components, kernel.kernel.subscriptions.active = [])
    (hinitial : ∀ kernel ∈ builder.components, kernel.StartsAfresh)
    (hvalid : ∀ kernel ∈ builder.components,
      kernel.validateInitialCapabilities builder.blueprint = .ok ()) :
    Spares builder bindings [] ((initializeComponents components).run core) := by
  induction components generalizing core with
  | nil => exact fun _ => h
  | cons entry components ih =>
      obtain ⟨id, messageType⟩ := entry
      rw [List.map_cons, List.nodup_cons] at hdistinct
      have hlook : isCancelling.run core =
        .ok (decide (core.turn.scope.phase = .cancelling)) core.turn := rfl
      unfold Live.initializeComponents
      rw [Exec.run_bind_ok hlook]
      by_cases hcancel : core.turn.scope.phase = .cancelling
      · rw [decide_eq_true hcancel, if_pos rfl]
        exact fun _ => h.turn.mono fun _ hid => absurd hid List.not_mem_nil
      · rw [decide_eq_false hcancel, if_neg Bool.false_ne_true]
        have hwork : nextWork.run core.turn = .ok core.turn.nextWork
          { core.turn with nextWork := core.turn.nextWork + 1 } := rfl
        rw [Exec.run_bind_ok hwork, Exec.run_bind_ok (EStateM.run_get _)]
        have hnow : Starting builder bindings (id :: components.map Prod.fst)
            { core.turn with nextWork := core.turn.nextWork + 1 } := h.turn.calm ⟨rfl, rfl, rfl⟩
        generalize core.turn.nextWork = work at hnow ⊢
        generalize ({ core.turn with nextWork := work + 1 } : Core) = core₁ at hnow ⊢
        have hrest : Starting builder bindings (components.map Prod.fst) core₁ :=
          hnow.mono fun _ hid => List.mem_cons_of_mem _ hid
        have hsame := hnow.kernels id List.mem_cons_self messageType
        cases hkernel : core₁.program.component? id messageType with
        | none => exact ih hrest hdistinct.2
        | some kernel =>
            rw [hkernel] at hsame
            have hmem : kernel ∈ builder.components := List.mem_of_find?_eq_some hsame.symm
            obtain ⟨desired, hdesired, hcommand, hall, honce⟩ :=
              validateInitialCapabilities_eq_ok.mp (hvalid kernel hmem)
            cases hreconcile : kernel.kernel.subscriptions.reconcile desired with
            | error duplicate =>
                exact absurd honce (SubscriptionReconciler.reconcile_eq_error hreconcile)
            | ok result =>
                obtain ⟨changes, reconciler⟩ := result
                have hrun := ErasedComponentKernel.run_reconcile hdesired hreconcile
                obtain ⟨hstored, hfound⟩ := @stored _ _ _ _ _ hrest id hdistinct.1 messageType _
                  { kernel with kernel := { kernel.kernel with subscriptions := reconciler } }
                    hkernel rfl rfl
                have htaken := (@stored _ _ _ _ _ hstored id hdistinct.1 messageType _
                  { kernel with kernel := { kernel.kernel with
                    initialCommand := none, subscriptions := reconciler } } hfound rfl rfl).1
                have hreturned {α : Type} (value : α) (core : Core) :
                  (uncaught (.ok value) : Owner α).run core = .ok value core := rfl
                dsimp only
                cases kernel.reconciles with
                | error panic => exact True.intro
                | ok value =>
                  rw [Exec.run_bind_ok (hreturned _ _), Exec.run_bind_ok (run_onComponent_ok hrun)]
                  dsimp only
                  rw [Exec.run_bind_ok (hreturned _ _),
                    Exec.run_bind_ok (run_onComponent_ok (Controlled.run_takeInitialCommandErased _))]
                  refine htaken.startComponent hserves ?_ ?_ fun core' h => ih h hdistinct.2
                  · intro change hchange
                    obtain ⟨subscription, hsubscription, rfl⟩ :=
                      (mem_sortChanges_start (hactive kernel hmem) hreconcile change).mp hchange
                    exact ⟨_, rfl, (validateSubscription_eq_ok subscription).mp
                      (hall subscription hsubscription)⟩
                  · intro initial hsome declaration hdeclaration
                    obtain ⟨command, hinitialCommand, rfl⟩ := Option.map_eq_some_iff.mp hsome
                    exact ⟨(validateDeclaration_eq_ok declaration).mp
                      (hcommand command hinitialCommand declaration hdeclaration),
                      hinitial kernel hmem command hinitialCommand declaration hdeclaration⟩

end Initialization

theorem initializationOrder_of_shape {first second : Program} (hshape : second.shape = first.shape) :
    initializationOrder second = initializationOrder first := by
  have horder (program : Program) : program.components.map
      (fun component => (component.id, component.messageType)) =
        program.shape.roster.map fun entry => (entry.1, RustTypes.componentMessage entry.2) := by
    unfold Program.shape
    rw [List.map_map]
    rfl
  unfold initializationOrder
  rw [horder, horder, hshape]

/-- What a live runtime does while it starts up under bindings that serve it. -/
theorem initializeProgram_spares {builder : ProgramBuilder} (h : builder.Assembled)
    (hbuild : builder.build = .ok builder.blueprint) {bindings : Bindings}
    (hserves : bindings.Serves builder.blueprint)
    (hinitial : ∀ kernel ∈ builder.components, kernel.StartsAfresh)
    (hvalid : ∀ kernel ∈ builder.components,
      kernel.validateInitialCapabilities builder.blueprint = .ok ())
    (schedule : List (List Activity)) :
    Spares builder bindings []
      (initializeProgram.run (Core.fresh builder.blueprint bindings schedule)) := by
  have hcheck := (ProgramBuilder.build_eq_ok.mp hbuild).1
  have hdistinct := (ProgramBuilder.checkComponents_eq_ok.mp hcheck).1
  have honce : ((initializationOrder builder.blueprint).map Prod.fst).Nodup :=
    (@Controlled.mem_initializationOrder _ builder.blueprint hdistinct).1
  have hfresh : Starting builder bindings ((initializationOrder builder.blueprint).map Prod.fst)
      (Core.fresh builder.blueprint bindings schedule) := ⟨rfl, rfl, rfl, fun _ _ _ => rfl⟩
  refine spares_bind hfresh.observeDrainCutoff (fun _ => moves_bind moves_get fun _ =>
    moves_initializeComponents _) fun _ core hstarting => ?_
  rw [Exec.run_bind_ok (EStateM.run_get core), initializationOrder_of_shape hstarting.shape]
  exact hstarting.initializeComponents hserves honce (Controlled.active_of_assembled h) hinitial hvalid

end Live

/-- The validators agree with the initialization of both profiles.  Unless code
    of the application that the runtime has called panics, a controlled runtime
    comes up without a fault exactly when they accept every Component; and when
    they do, a live runtime that still runs has failed to come up only if a
    Driver panicked. -/
theorem validators_agree {builder : ProgramBuilder} (h : builder.Assembled) {program : Program}
    (hbuild : builder.build = .ok program)
    (hinitial : ∀ kernel ∈ program.components, kernel.StartsAfresh) :
    (∀ bindings : Controlled.Bindings, bindings.validate program = .ok () →
      (∃ panic core, Controlled.Core.new program bindings = .error (.panicked panic) ∧
        (Controlled.initializeComponents (Controlled.initializationOrder program)).run
          (Controlled.Core.fresh program bindings) = .error (.panicked panic) core ∧
            Controlled.Raised core panic) ∨
        ((∀ kernel ∈ program.components, kernel.validateInitialCapabilities program = .ok ()) ↔
          ∃ core, Controlled.Core.new program bindings = .ok core ∧ core.fault = none)) ∧
    ∀ (stdinLines : TypeId) (bindings : Live.LiveBindings),
      bindings.validate stdinLines program = .ok () →
        (∀ kernel ∈ program.components, kernel.validateInitialCapabilities program = .ok ()) →
          ∀ (schedule : List (List Live.Activity)) (error : RuntimeError) (core : Live.Core),
            Live.initializeProgram.run (Live.Core.fresh program (bindings.erase stdinLines) schedule) =
              .error (.error error) core → core.scope.phase = .running → Live.StartPanic error := by
  refine ⟨?_, ?_⟩
  · intro bindings hvalidate
    refine (Controlled.validated_iff h hbuild hvalidate hinitial).imp_left ?_
    rintro ⟨panic, hpanic⟩
    obtain ⟨core, hrun, hraised⟩ :=
      Controlled.raised_of_new (Controlled.Upright.fresh h hbuild hvalidate) hpanic
    exact ⟨panic, core, hpanic, hrun, hraised⟩
  obtain ⟨rfl, -⟩ := ProgramBuilder.build_ok hbuild
  intro stdinLines bindings hvalidate hvalid schedule error core hrun hphase
  have hspares := Live.initializeProgram_spares h hbuild (Live.LiveBindings.serves hvalidate) hinitial
    hvalid schedule
  rw [hrun] at hspares
  exact hspares hphase

end Samara

namespace Samara

attribute [local instance] Sample.types

/-- A live profile whose stream Driver panics. -/
def brokenStation : Live.LiveBindings := ⟨[()], [.typed (.stream ()) fun _ => .error .application]⟩

/-- Whether a profile that still runs returned an error. -/
def failsRunning {α : Type} : EStateM.Result Live.Stop Live.Core α → Bool
  | .error (.error _) core => decide (core.scope.phase = .running)
  | _ => false

theorem station_startsAfresh :
    ∀ kernel ∈ Controlled.stationBuilder.blueprint.components, kernel.StartsAfresh := by
  intro kernel hkernel command hcommand declaration hdeclaration
  rw [List.mem_singleton.mp hkernel] at hcommand
  cases hcommand
  rcases List.mem_cons.mp hdeclaration with rfl | hdeclaration
  · trivial
  · rcases List.mem_cons.mp hdeclaration with rfl | hdeclaration
    · trivial
    · rw [List.mem_singleton.mp hdeclaration]
      show 5 ≤ Duration.max
      decide

theorem validators_agree_station :
    (∃ core, Controlled.Core.new Controlled.stationBuilder.blueprint Controlled.stationBindings =
      .ok core ∧ core.fault = none) ∧
    ∃ error core, Live.initializeProgram.run (Live.Core.fresh Controlled.stationBuilder.blueprint
      (brokenStation.erase ()) []) = .error (.error error) core ∧ core.scope.phase = .running ∧
        Live.StartPanic error := by
  have hassembled : Controlled.stationBuilder.Assembled :=
    .bindPort _ _ (.port _ _ (.component _ Controlled.station (.source _ (.effect _ (.new ⟨7⟩)))))
  obtain ⟨hcontrolled, hlive⟩ := @validators_agree _ Controlled.stationBuilder hassembled
    Controlled.stationBuilder.blueprint rfl station_startsAfresh
  have hvalid := Controlled.validateComponents_eq_ok.mp
    (show Controlled.validateComponents Controlled.stationBuilder.blueprint
      Controlled.stationBuilder.blueprint.components = .ok () from rfl)
  constructor
  · rcases hcontrolled Controlled.stationBindings rfl with ⟨panic, _, hpanic, _⟩ | hiff
    · have hok : (Controlled.Core.new Controlled.stationBuilder.blueprint
        Controlled.stationBindings).toOption.isSome = true := by decide +kernel
      rw [hpanic] at hok
      cases hok
    · exact hiff.mp hvalid
  · have hfails : failsRunning (Live.initializeProgram.run (Live.Core.fresh
      Controlled.stationBuilder.blueprint (brokenStation.erase ()) [])) = true := by decide +kernel
    have hstart := hlive () brokenStation rfl hvalid []
    cases hrun : Live.initializeProgram.run (Live.Core.fresh
        Controlled.stationBuilder.blueprint (brokenStation.erase ()) []) with
    | ok value core =>
        rw [hrun] at hfails
        cases hfails
    | error stop core =>
        rw [hrun] at hfails
        cases stop with
        | error error =>
            have hphase := of_decide_eq_true hfails
            exact ⟨error, core, rfl, hphase, hstart error core hrun hphase⟩
        | panicked panic => cases hfails
        | outOfFuel | joining => cases hfails

end Samara
