/-
  Samara.Controlled.Startup

  The validators of initial declarations and the initialization of a controlled
  runtime, which are written apart: what the one rejects the other faults on,
  and nothing else.
-/
import Samara.Controlled.Conformance
import Samara.Controlled.Rows
import Samara.Reconciliation
import Samara.Validation

namespace Samara

variable [RustTypes]

/-- What an initial Command may hold, the validators' checks aside: no Reply,
    for nothing has been asked yet, and timers of a `Duration`. -/
def Declaration.Initial {message : TypeId} : Declaration message → Prop
  | .reply _ => False
  | .after delay _ => delay ≤ Duration.max
  | _ => True

def ErasedComponentKernel.StartsAfresh (kernel : ErasedComponentKernel) : Prop :=
  ∀ command, kernel.kernel.initialCommand = some command →
    ∀ declaration ∈ command.intoDeclarations, declaration.Initial

/-- A kernel stored under its identity is not in the way of another. -/
theorem Program.component?_setComponent_of_ne {program : Program} {id other : ComponentId}
    {messageType otherType : TypeId} {kernel kernel' : ErasedComponentKernel}
    (h : program.component? id messageType = some kernel) (hsame : kernel'.id = kernel.id)
    (hne : id ≠ other) : (program.setComponent id messageType kernel').component? other otherType =
      program.component? other otherType := by
  have hkernelId := (component?_eq_some h).1
  refine Table.find?_modifyFirst_of_ne ?_ program.components
  intro row hrow
  have hrowId : row.id = id := of_decide_eq_true (Bool.and_eq_true_iff.mp hrow).1
  constructor
  · rw [hrowId, decide_eq_false hne, Bool.false_and]
  · rw [hsame, hkernelId, decide_eq_false hne, Bool.false_and]

/-- From nothing, everything that is desired is started. -/
theorem SubscriptionReconciler.reconcile_empty {message : TypeId} {reconciler reconciler' : SubscriptionReconciler}
    {desired : List (Subscription message)} {changes : List (SubscriptionChange message)}
    (hactive : reconciler.active = [])
    (h : reconciler.reconcile desired = .ok (changes, reconciler')) :
    changes = desired.map .start := by
  have hchanges := SubscriptionReconciler.changes_reconcile h
  unfold SubscriptionReconciler.ids at hchanges
  rw [hactive] at hchanges
  rw [hchanges, List.map_nil, List.filter_nil, List.map_nil, List.append_nil]
  rfl

/-- The changes of a Component that starts, in the order they are applied in. -/
theorem mem_sortChanges_start {message : TypeId} {reconciler reconciler' : SubscriptionReconciler}
    {desired : List (Subscription message)} {changes : List (SubscriptionChange message)}
    (hactive : reconciler.active = [])
    (h : reconciler.reconcile desired = .ok (changes, reconciler')) (change : ErasedSubscriptionChange) :
    change ∈ sortChanges (changes.map eraseSubscriptionChange) ↔
      ∃ subscription ∈ desired, change = .start ⟨_, subscription⟩ := by
  have hperm := List.perm_insertionSort
    (fun left right : ErasedSubscriptionChange => left.id.name ≤ right.id.name)
    (changes.map eraseSubscriptionChange)
  unfold sortChanges
  rw [hperm.mem_iff, SubscriptionReconciler.reconcile_empty hactive h, List.map_map, List.mem_map]
  constructor
  · rintro ⟨subscription, hmem, heq⟩
    exact ⟨subscription, hmem, heq.symm⟩
  · rintro ⟨subscription, hmem, heq⟩
    exact ⟨subscription, hmem, heq.symm⟩

/-- What the reconciliation of a Component that starts returns. -/
theorem ErasedComponentKernel.run_reconcile {kernel : ErasedComponentKernel}
    {desired : List (Subscription (RustTypes.componentMessage kernel.componentType))}
    {changes : List (SubscriptionChange (RustTypes.componentMessage kernel.componentType))}
    {reconciler : SubscriptionReconciler} (hdesired : kernel.desired = .ok desired)
    (hreconcile : kernel.kernel.subscriptions.reconcile desired = .ok (changes, reconciler)) :
    reconcileSubscriptionsErased.run kernel = .ok (.ok (changes.map eraseSubscriptionChange))
      { kernel with kernel := { kernel.kernel with subscriptions := reconciler } } := by
  unfold reconcileSubscriptionsErased EStateM.run
  dsimp only
  rw [hdesired]
  dsimp only
  rw [hreconcile]

namespace Controlled

/-- `result` is returned, in a state that satisfies `I`, exactly when `P` holds;
    an error comes with a fault.  A panic decides nothing. -/
def Decides {α : Type} (I : Core → Prop) (P : Prop) : EStateM.Result Stop Core α → Prop
  | .ok _ core => P ∧ I core
  | .error (.error _) core => ¬ P ∧ core.fault ≠ none
  | .error (.panicked _) _ => True
  | .error .outOfFuel _ => False

section Decisions

variable {I J : Core → Prop} {P P' : Prop} {core : Core}

theorem decides_bind {α β : Type} {x : Run α} {f : α → Run β} (hx : Decides I P (x.run core))
    (hf : ∀ value core', I core' → Decides J P' ((f value).run core')) :
    Decides J (P ∧ P') ((x >>= f).run core) := by
  rw [EStateM.run_bind]
  cases hrun : x.run core with
  | ok value core' =>
      rw [hrun] at hx
      have hrest := hf value core' hx.2
      show Decides J (P ∧ P') ((f value).run core')
      cases hlast : (f value).run core' with
      | ok last core'' =>
          rw [hlast] at hrest
          exact ⟨⟨hx.1, hrest.1⟩, hrest.2⟩
      | error stop core'' =>
          rw [hlast] at hrest
          cases stop with
          | error error => exact ⟨fun hboth => hrest.1 hboth.2, hrest.2⟩
          | panicked panic => trivial
          | outOfFuel => exact hrest
  | error stop core' =>
      rw [hrun] at hx
      cases stop with
      | error error => exact ⟨fun hboth => hx.1 hboth.1, hx.2⟩
      | panicked panic => trivial
      | outOfFuel => exact hx

/-- A part that only panics or returns leaves the decision to the rest. -/
theorem decides_then {α β : Type} {x : Run α} {f : α → Run β} (hx : Decides I True (x.run core))
    (hf : ∀ value core', I core' → Decides J P ((f value).run core')) :
    Decides J P ((x >>= f).run core) := by
  have hboth := decides_bind hx hf
  rwa [true_and] at hboth

theorem decides_fail {α : Type} (hok : core.fault = none) (hP : ¬ P) (component : ComponentId)
    (descriptorType : Option String) (work : TraceId) (reason : String) :
    Decides I P ((failWithFault component descriptorType work reason : Run α).run core) := by
  rw [run_failWithFault hok]
  exact ⟨hP, fun hnone => by cases hnone⟩

theorem decides_error {α β : Type} {x : Run α} {f : α → Run β}
    (hx : Decides (fun _ => False) P (x.run core)) : Decides I P ((x >>= f).run core) := by
  rw [EStateM.run_bind]
  cases hrun : x.run core with
  | ok value core' =>
      rw [hrun] at hx
      exact absurd hx.2 id
  | error stop core' =>
      rw [hrun] at hx
      cases stop with
      | error error => exact hx
      | panicked panic => trivial
      | outOfFuel => exact hx

theorem decides_callback {α : Type} (h : I core) (result : Callback α) :
    Decides I True ((callback result : Run α).run core) := by
  cases result with
  | ok value => exact ⟨trivial, h⟩
  | error panic => trivial

end Decisions

/-- The state of an initialization: the kernels of `ids` have not started yet. -/
structure Starting (builder : ProgramBuilder) (ids : List ComponentId) (core : Core) : Prop where
  fault : core.fault = none
  now : core.now = 0
  founded : Founded builder core
  kernels : ∀ id ∈ ids, ∀ messageType,
    core.program.component? id messageType = builder.blueprint.component? id messageType

section Initialization

variable {builder : ProgramBuilder} {ids : List ComponentId} {core core' : Core}
  {component : ComponentId} {cause : TraceId}

namespace Starting

theorem keep (h : Starting builder ids core) (hfault : core'.fault = core.fault)
    (hnow : core'.now = core.now) (hprogram : core'.program = core.program)
    (hbindings : core'.bindings = core.bindings) : Starting builder ids core' := by
  refine ⟨hfault.trans h.fault, hnow.trans h.now, ⟨h.founded.numbered, h.founded.wired, ?_, ?_⟩, ?_⟩
  · rw [hbindings]
    exact h.founded.complete
  · rw [hprogram]
    exact h.founded.shape
  · rw [hprogram]
    exact h.kernels

theorem declaresAlike (h : Starting builder ids core) :
    builder.blueprint.DeclaresAlike core.program :=
  Program.declaresAlike_of_shape h.founded.shape

theorem commandTrace (h : Starting builder ids core) {message : TypeId} (kind : TraceCommandKind)
    (detailType : String) (targetComponent : Option ComponentId) (targetPort : Option PortId)
    (declaration : Declaration message) :
    Decides (Starting builder ids) True ((Controlled.commandTrace cause component kind detailType
      targetComponent targetPort declaration).run core) :=
  ⟨trivial, h.keep rfl rfl rfl rfl⟩

theorem schedule (h : Starting builder ids core) (message : QueuedMessage) (deadline : Duration) :
    Decides (Starting builder ids) True ((scheduleMessage message deadline).run core) :=
  ⟨trivial, h.keep rfl rfl rfl rfl⟩

/-- A declared Effect has a controlled behaviour. -/
theorem bound (h : Starting builder ids core) {token : CapabilityToken} {descriptorType : TypeId}
    (hdeclares : core.program.declaresEffect token descriptorType = true) :
    descriptorType ∈ core.bindings.effects := by
  unfold Program.declaresEffect at hdeclares
  obtain ⟨-, hany⟩ := Bool.and_eq_true_iff.mp hdeclares
  cases hfound : core.program.effectRequirement token with
  | none =>
      rw [hfound] at hany
      cases hany
  | some requirement =>
      rw [hfound] at hany
      have hmem : requirement ∈ builder.effectRequirements :=
        h.founded.effectRequirements_eq ▸ List.mem_of_find?_eq_some hfound
      have htype : requirement.descriptorType = descriptorType := of_decide_eq_true hany
      rw [← htype]
      exact h.founded.complete.effects requirement hmem

/-- So does a declared Source, by its type or by its capability. -/
theorem activatable_iff (h : Starting builder ids core) (subscription : ErasedRuntimeSubscription) :
    core.Activatable subscription ↔
      core.program.declaresSourcePlan subscription.capability subscription.descriptorType
        subscription.sourcePlan.terminalType = true := by
  refine ⟨fun hactivatable => hactivatable.2.1, fun hdeclares => ?_⟩
  refine ⟨subscription.subscription.sourcePlan_accepts, hdeclares, ?_⟩
  unfold Program.declaresSourcePlan at hdeclares
  obtain ⟨-, hany⟩ := Bool.and_eq_true_iff.mp hdeclares
  cases hfound : core.program.sourceRequirement subscription.capability with
  | none =>
      rw [hfound] at hany
      cases hany
  | some requirement =>
      rw [hfound] at hany
      have hterminal : requirement.terminalType = subscription.sourcePlan.terminalType :=
        of_decide_eq_true hany
      have hmem : requirement ∈ builder.sourceRequirements :=
        h.founded.sourceRequirements_eq ▸ List.mem_of_find?_eq_some hfound
      unfold Program.sourceRequirement at hfound
      have hsame := List.find?_some hfound
      have htoken : requirement.token = subscription.capability := CapabilityToken.sameAs_iff.mp hsame
      unfold Core.terminalIsControlled
      rw [Bool.or_eq_true]
      rcases h.founded.complete.sources requirement hmem with htypeWide | ⟨capability, hexact, heq⟩
      · left
        rw [← hterminal]
        exact decide_eq_true htypeWide
      · right
        refine List.any_eq_true.mpr ⟨capability, hexact, ?_⟩
        rw [heq, htoken]
        exact decide_eq_true rfl

theorem resolvePort (h : Starting builder ids core) {protocol : TypeId} (port : Port protocol)
    (work : TraceId) (noun : String) :
    Decides (Starting builder ids)
      (builder.blueprint.declaresPortTarget port.program port.id protocol = true)
      ((resolvePort component port work noun).run core) := by
  rw [← h.declaresAlike.port]
  unfold Program.declaresPortTarget
  rcases resolvePort_cases component h.fault port work noun with
    ⟨hforeign, hrun⟩ | ⟨hunbound, hrun⟩ | ⟨binding, hprogram, hbinding, hrun⟩
  · rw [hrun]
    refine ⟨fun hdeclares => ?_, fun hnone => by cases hnone⟩
    exact hforeign (of_decide_eq_true (Bool.and_eq_true_iff.mp hdeclares).1)
  · rw [hrun]
    refine ⟨fun hdeclares => ?_, fun hnone => by cases hnone⟩
    obtain ⟨binding, hmem, hfound⟩ := List.any_eq_true.mp (Bool.and_eq_true_iff.mp hdeclares).2
    unfold Program.binding? at hunbound
    rw [List.find?_eq_none] at hunbound
    exact hunbound binding hmem (by rw [Bool.and_comm]; exact hfound)
  · rw [hrun]
    refine ⟨Bool.and_eq_true_iff.mpr ⟨decide_eq_true hprogram, ?_⟩, h⟩
    refine List.any_eq_true.mpr ⟨binding, List.mem_of_find?_eq_some hbinding, ?_⟩
    unfold Program.binding? at hbinding
    have hkey := List.find?_some hbinding
    rw [Bool.and_comm]
    exact hkey

/-! ## Declarations -/

/-- An initial declaration faults when the validator would have rejected it. -/
theorem interpretDeclaration (h : Starting builder ids core) {message : TypeId}
    {declaration : Declaration message} (hinitial : declaration.Initial) :
    Decides (Starting builder ids) (Accepts builder.blueprint declaration)
      ((interpretDeclaration component cause declaration).run core) := by
  cases declaration with
  | effect command =>
      refine decides_then (h.commandTrace _ _ _ _ _) fun work core₁ h => ?_
      rw [Exec.run_bind_ok (EStateM.run_get core₁)]
      show Decides (Starting builder ids)
        (builder.blueprint.declaresEffect command.capability command.descriptorType = true) _
      rw [← h.declaresAlike.effect]
      by_cases hdeclares :
          core₁.program.declaresEffect command.capability command.descriptorType = true
      · rw [if_neg (by rw [hdeclares]; decide), if_neg (not_not.mpr (h.bound hdeclares))]
        exact ⟨hdeclares, h.keep rfl rfl rfl rfl⟩
      · rw [if_pos (by simpa using hdeclares)]
        exact decides_fail h.fault hdeclares _ _ _ _
  | send command =>
      refine decides_then (h.commandTrace _ _ _ _ _) fun work core₁ h => ?_
      rw [Exec.run_bind_ok (EStateM.run_get core₁)]
      show Decides (Starting builder ids) (builder.blueprint.declaresComponentTarget
        command.target.program command.target.id _ = true) _
      rw [← h.declaresAlike.target]
      unfold Program.declaresComponentTarget
      split
      · rename_i habsent
        refine decides_fail h.fault (fun hdeclares => ?_) _ _ _ _
        obtain ⟨hprogram, hany⟩ := Bool.and_eq_true_iff.mp hdeclares
        rcases Bool.or_eq_true_iff.mp habsent with hforeign | hnone
        · exact of_decide_eq_true hforeign (of_decide_eq_true hprogram)
        · unfold Program.component? at hnone
          rw [← List.isSome_find?] at hany
          rw [Option.isNone_iff_eq_none.mp hnone] at hany
          cases hany
      · rename_i hpresent
        rw [Bool.not_eq_true, Bool.or_eq_false_iff] at hpresent
        obtain ⟨hprogram, hsome⟩ := hpresent
        refine ⟨Bool.and_eq_true_iff.mpr ⟨?_, ?_⟩, h.keep rfl rfl rfl rfl⟩
        · exact decide_eq_true (not_not.mp (of_decide_eq_false hprogram))
        · rw [← List.isSome_find?]
          unfold Program.component? at hsome
          rw [← Option.not_isSome, Bool.not_eq_false'] at hsome
          exact hsome
  | notify command =>
      refine decides_then (h.commandTrace _ _ _ _ _) fun work core₁ h => ?_
      rw [show Accepts builder.blueprint (.notify command : Declaration message) =
        (Accepts builder.blueprint (.notify command : Declaration message) ∧ True) from
          (and_true _).symm]
      refine decides_bind (h.resolvePort _ _ _) fun binding core₂ h => ?_
      refine decides_then (decides_callback h _) fun protocolMessage core₃ h => ?_
      refine decides_then (decides_callback h _) fun converted core₄ h => ?_
      exact h.schedule _ _
  | request command =>
      refine decides_then (h.commandTrace _ _ _ _ _) fun work core₁ h => ?_
      rw [show Accepts builder.blueprint (.request command : Declaration message) =
        (Accepts builder.blueprint (.request command : Declaration message) ∧ True) from
          (and_true _).symm]
      refine decides_bind (h.resolvePort _ _ _) fun binding core₂ h => ?_
      rw [Exec.run_bind_ok (EStateM.run_get core₂), Exec.run_bind_ok (EStateM.run_set _ _)]
      have h : Starting builder ids { core₂ with nextCorrelation := core₂.nextCorrelation + 1 } :=
        h.keep rfl rfl rfl rfl
      refine decides_then (decides_callback h _) fun protocolMessage core₃ h => ?_
      refine decides_then (decides_callback h _) fun converted core₄ h => ?_
      exact ⟨trivial, h.keep rfl rfl rfl rfl⟩
  | reply command => exact absurd hinitial id
  | after delay value =>
      refine decides_then (h.commandTrace _ _ _ _ _) fun work core₁ h => ?_
      rw [Exec.run_bind_ok (EStateM.run_get core₁)]
      have hlimit : delay ≤ Duration.max := hinitial
      have hfits : Duration.checkedAdd core₁.now delay = some (core₁.now + delay) := by
        unfold Duration.checkedAdd
        rw [h.now, Nat.zero_add, if_pos hlimit]
      rw [hfits]
      exact ⟨trivial, h.keep rfl rfl rfl rfl⟩

theorem interpretDeclarations (h : Starting builder ids core) {message : TypeId}
    {declarations : List (Declaration message)}
    (hinitial : ∀ declaration ∈ declarations, declaration.Initial) :
    Decides (Starting builder ids)
      (∀ declaration ∈ declarations, Accepts builder.blueprint declaration)
      ((interpretDeclarations component cause declarations).run core) := by
  induction declarations generalizing core with
  | nil => exact ⟨fun _ hmem => absurd hmem List.not_mem_nil, h⟩
  | cons declaration declarations ih =>
      rw [List.forall_mem_cons] at hinitial
      rw [List.forall_mem_cons]
      exact decides_bind (h.interpretDeclaration hinitial.1) fun _ _ h => ih h hinitial.2

/-! ## Subscriptions -/

theorem applyChanges (h : Starting builder ids core) {changes : List ErasedSubscriptionChange}
    (hstarts : ∀ change ∈ changes, ∃ subscription, change = .start subscription) :
    Decides (Starting builder ids) (∀ change ∈ changes, ∀ subscription,
      change = .start subscription → builder.blueprint.declaresSourcePlan subscription.capability
        subscription.descriptorType subscription.sourcePlan.terminalType = true)
      ((applyChanges component cause changes).run core) := by
  induction changes generalizing core with
  | nil => exact ⟨fun _ hmem => absurd hmem List.not_mem_nil, h⟩
  | cons change changes ih =>
      rw [List.forall_mem_cons] at hstarts
      rw [List.forall_mem_cons]
      obtain ⟨⟨subscription, rfl⟩, hstarts⟩ := hstarts
      refine decides_bind ?_ fun _ _ h => ih h hstarts
      show Decides (Starting builder ids) _ ((do
        let work ← pushChild cause (lifecycle component subscription.id
          subscription.descriptorTypeName .started)
        activateSource component subscription work : Run Unit).run core)
      have htraced : Decides (Starting builder ids) True ((pushChild cause (lifecycle component
          subscription.id subscription.descriptorTypeName .started)).run core) :=
        ⟨trivial, h.keep rfl rfl rfl rfl⟩
      refine decides_then htraced fun work core₁ h => ?_
      have hdeclares : (∀ other, (.start subscription : ErasedSubscriptionChange) = .start other →
          builder.blueprint.declaresSourcePlan other.capability other.descriptorType
            other.sourcePlan.terminalType = true) ↔ core₁.Activatable subscription := by
        rw [h.activatable_iff, h.declaresAlike.sourcePlan]
        exact ⟨fun hall => hall subscription rfl, fun hone _ heq => by cases heq; exact hone⟩
      rw [hdeclares]
      rcases activateSource_cases h.fault component subscription work with
        ⟨hnot, descriptorType, reason, hrun⟩ | ⟨hactivatable, hrun⟩
      · rw [hrun]
        exact ⟨hnot, fun hnone => by cases hnone⟩
      · rw [hrun]
        exact ⟨hactivatable, h.keep rfl rfl rfl rfl⟩

/-! ## Components -/

/-- A kernel stored under its identity is found, and the others are as before. -/
theorem withComponent (h : Starting builder ids core) {id : ComponentId} (hid : id ∉ ids)
    {messageType : TypeId} {kernel kernel' : ErasedComponentKernel}
    (hkernel : core.program.component? id messageType = some kernel) (hsame : kernel'.id = kernel.id)
    (htype : kernel'.componentType = kernel.componentType) :
    Starting builder ids (core.withComponent id messageType kernel') ∧
      (core.withComponent id messageType kernel').program.component? id messageType =
        some kernel' := by
  have hmessage : kernel'.messageType = kernel.messageType :=
    congrArg RustTypes.componentMessage htype
  refine ⟨⟨h.fault, h.now, ⟨h.founded.numbered, h.founded.wired, h.founded.complete, ?_⟩, ?_⟩,
    Program.component?_setComponent hkernel hsame hmessage⟩
  · exact (Program.shape_setComponent hkernel hsame htype).trans h.founded.shape
  · intro other hother otherType
    rw [← h.kernels other hother otherType]
    exact Program.component?_setComponent_of_ne hkernel hsame fun heq => hid (heq ▸ hother)

/-- The initial Command of a Component, once its Subscriptions are in place. -/
theorem interpretInitial (h : Starting builder ids core) {kernel : ErasedComponentKernel}
    (hinitial : kernel.StartsAfresh) :
    Decides (Starting builder ids) (∀ command, kernel.kernel.initialCommand = some command →
      ∀ declaration ∈ command.intoDeclarations, Accepts builder.blueprint declaration)
      ((match kernel.kernel.initialCommand.map fun command => (⟨_, command⟩ : ErasedCommand) with
        | none => pure ()
        | some command => interpret component cause command : Run Unit).run core) := by
  unfold ErasedComponentKernel.StartsAfresh at hinitial
  cases hcommand : kernel.kernel.initialCommand with
  | none => exact ⟨fun _ heq => (by cases heq), h⟩
  | some command =>
      have hdeclarations : Decides (Starting builder ids) _ ((Controlled.interpretDeclarations
        component cause command.intoDeclarations).run core) :=
          h.interpretDeclarations (hinitial command hcommand)
      have hall : (∀ other, some command = some other → ∀ declaration ∈ other.intoDeclarations,
          Accepts builder.blueprint declaration) ↔
            ∀ declaration ∈ command.intoDeclarations, Accepts builder.blueprint declaration := by
        constructor
        · exact fun h => h command rfl
        · intro h other heq
          cases heq
          exact h
      rw [hall]
      exact hdeclarations

theorem run_reconcileComponent {id : ComponentId} {messageType : TypeId}
    {kernel kernel' : ErasedComponentKernel}
    {desired : List (Subscription (RustTypes.componentMessage kernel.componentType))}
    {result : Except SubscriptionId (List ErasedSubscriptionChange)}
    (hdesired : kernel.desired = .ok desired)
    (hrun : ErasedComponentKernel.reconcileSubscriptionsErased.run kernel = .ok result kernel') :
    (reconcileComponent id messageType kernel).run core = .ok (result, kernel')
      ((core.withComponent id messageType kernel').observed (.projected id ⟨_, desired⟩)) := by
  unfold reconcileComponent
  rw [Exec.run_bind_ok (run_onComponent_ok hrun), hdesired]
  rfl

/-- What a reconciliation returned is applied to Sources that are not there yet. -/
theorem applyReconciled (h : Starting builder ids core) {kernel : ErasedComponentKernel}
    (hactive : kernel.kernel.subscriptions.active = [])
    {desired : List (Subscription (RustTypes.componentMessage kernel.componentType))}
    {changes : List (SubscriptionChange (RustTypes.componentMessage kernel.componentType))}
    {reconciler : SubscriptionReconciler}
    (hreconcile : kernel.kernel.subscriptions.reconcile desired = .ok (changes, reconciler)) :
    Decides (Starting builder ids)
      (∀ subscription ∈ desired,
        validateSubscription builder.blueprint kernel.id subscription = .ok ())
      ((applyReconciled component cause (.ok (changes.map eraseSubscriptionChange))).run core) := by
  have hmem := mem_sortChanges_start hactive hreconcile
  have hstarts : ∀ change ∈ sortChanges (changes.map eraseSubscriptionChange),
      ∃ subscription, change = .start subscription := by
    intro change hchange
    obtain ⟨subscription, _, heq⟩ := (hmem change).mp hchange
    exact ⟨_, heq⟩
  have hall : (∀ subscription ∈ desired,
      validateSubscription builder.blueprint kernel.id subscription = .ok ()) ↔
        ∀ change ∈ sortChanges (changes.map eraseSubscriptionChange), ∀ subscription,
          change = .start subscription → builder.blueprint.declaresSourcePlan
            subscription.capability subscription.descriptorType
              subscription.sourcePlan.terminalType = true := by
    constructor
    · intro hall change hchange subscription heq
      obtain ⟨wanted, hwanted, heq'⟩ := (hmem change).mp hchange
      rw [heq'] at heq
      cases heq
      exact (validateSubscription_eq_ok wanted).mp (hall wanted hwanted)
    · intro hall subscription hsubscription
      refine (validateSubscription_eq_ok subscription).mpr ?_
      exact hall _ ((hmem _).mpr ⟨subscription, hsubscription, rfl⟩) _ rfl
  rw [hall]
  exact h.applyChanges hstarts

theorem initializeComponent {id : ComponentId} (h : Starting builder (id :: ids) core)
    (hid : id ∉ ids) {messageType : TypeId} {kernel : ErasedComponentKernel}
    (hkernel : builder.blueprint.component? id messageType = some kernel)
    (hactive : kernel.kernel.subscriptions.active = []) (hinitial : kernel.StartsAfresh) :
    Decides (Starting builder ids) (kernel.validateInitialCapabilities builder.blueprint = .ok ())
      ((initializeComponent id messageType).run core) := by
  have hfound : core.program.component? id messageType = some kernel :=
    (h.kernels id List.mem_cons_self messageType).trans hkernel
  have hrest : Starting builder ids (core.traced none (.initialization id)) :=
    ⟨h.fault, h.now, ⟨h.founded.numbered, h.founded.wired, h.founded.complete, h.founded.shape⟩,
      fun other hother => h.kernels other (List.mem_cons_of_mem _ hother)⟩
  have hfound₁ : (core.traced none (.initialization id)).program.component? id messageType =
      some kernel := hfound
  unfold Controlled.initializeComponent
  rw [Exec.run_bind_ok (run_pushRoot _ _), Exec.run_bind_ok (EStateM.run_get _)]
  generalize core.traced none (.initialization id) = core₁ at hrest hfound₁ ⊢
  rw [hfound₁]
  dsimp only
  cases hdesired : kernel.desired with
  | error panic =>
      have hrun : ErasedComponentKernel.reconcileSubscriptionsErased.run kernel =
          .error panic kernel := by
        unfold ErasedComponentKernel.reconcileSubscriptionsErased EStateM.run
        dsimp only
        rw [hdesired]
      have hpanics : (reconcileComponent id messageType kernel).run core₁ =
          .error (.panicked panic) (core₁.withComponent id messageType kernel) := by
        unfold reconcileComponent
        rw [EStateM.run_bind, run_onComponent_error hrun]
      rw [EStateM.run_bind, hpanics]
      trivial
  | ok desired =>
      cases hreconcile : kernel.kernel.subscriptions.reconcile desired with
      | error duplicate =>
          have hrun : ErasedComponentKernel.reconcileSubscriptionsErased.run kernel =
              .ok (.error duplicate) kernel := by
            unfold ErasedComponentKernel.reconcileSubscriptionsErased EStateM.run
            dsimp only
            rw [hdesired]
            dsimp only
            rw [hreconcile]
          rw [Exec.run_bind_ok (run_reconcileComponent hdesired hrun),
            Exec.run_bind_ok (run_onComponent_ok (run_takeInitialCommandErased _))]
          have hinvalid : ¬ kernel.validateInitialCapabilities builder.blueprint = .ok () := by
            intro hvalid
            obtain ⟨other, hother, _, _, hdistinct⟩ := validateInitialCapabilities_eq_ok.mp hvalid
            rw [hdesired] at hother
            cases hother
            exact SubscriptionReconciler.reconcile_eq_error hreconcile hdistinct
          refine decides_error ?_
          refine decides_fail ?_ hinvalid _ _ _ _
          exact hrest.fault
      | ok result =>
          obtain ⟨changes, reconciler⟩ := result
          have hrun := ErasedComponentKernel.run_reconcile hdesired hreconcile
          rw [Exec.run_bind_ok (run_reconcileComponent hdesired hrun),
            Exec.run_bind_ok (run_onComponent_ok (run_takeInitialCommandErased _))]
          obtain ⟨hstored, hfound₂⟩ := @withComponent _ _ _ _ hrest _ hid messageType _
            { kernel with kernel := { kernel.kernel with subscriptions := reconciler } } hfound₁ rfl rfl
          have hobserved : Starting builder ids ((core₁.withComponent id messageType
              { kernel with kernel := { kernel.kernel with subscriptions := reconciler } }).observed
                (.projected id ⟨_, desired⟩)) := hstored.keep rfl rfl rfl rfl
          have htaken := (@withComponent _ _ _ _ hobserved _ hid messageType _
            { kernel with kernel := { kernel.kernel with
              initialCommand := none, subscriptions := reconciler } } hfound₂ rfl rfl).1
          have hvalid : kernel.validateInitialCapabilities builder.blueprint = .ok () ↔
              (∀ subscription ∈ desired,
                validateSubscription builder.blueprint kernel.id subscription = .ok ()) ∧
              ∀ command, kernel.kernel.initialCommand = some command →
                ∀ declaration ∈ command.intoDeclarations, Accepts builder.blueprint declaration := by
            rw [validateInitialCapabilities_eq_ok]
            simp only [validateDeclaration_eq_ok]
            constructor
            · rintro ⟨other, hother, hcommand, hall, _⟩
              rw [hdesired] at hother
              cases hother
              exact ⟨hall, hcommand⟩
            · rintro ⟨hall, hcommand⟩
              exact ⟨desired, hdesired, hcommand, hall,
                SubscriptionReconciler.reconcile_nodup hreconcile⟩
          rw [hvalid]
          exact decides_bind (htaken.applyReconciled hactive hreconcile) fun _ _ h =>
            h.interpretInitial hinitial

theorem initializeComponents {components : List (ComponentId × TypeId)}
    (h : Starting builder (components.map Prod.fst) core) (hdistinct : (components.map Prod.fst).Nodup)
    (hfound : ∀ entry ∈ components, ∃ kernel ∈ builder.components,
      builder.blueprint.component? entry.1 entry.2 = some kernel)
    (hactive : ∀ kernel ∈ builder.components, kernel.kernel.subscriptions.active = [])
    (hinitial : ∀ kernel ∈ builder.components, kernel.StartsAfresh) :
    Decides (Starting builder []) (∀ entry ∈ components, ∀ kernel,
      builder.blueprint.component? entry.1 entry.2 = some kernel →
        kernel.validateInitialCapabilities builder.blueprint = .ok ())
      ((initializeComponents components).run core) := by
  induction components generalizing core with
  | nil => exact ⟨fun _ hmem => absurd hmem List.not_mem_nil, h⟩
  | cons entry components ih =>
      rw [List.map_cons, List.nodup_cons] at hdistinct
      rw [List.forall_mem_cons] at hfound
      rw [List.forall_mem_cons]
      obtain ⟨⟨kernel, hmem, hkernel⟩, hfound⟩ := hfound
      refine decides_bind ?_ fun _ _ h => ih h hdistinct.2 hfound
      have hone : (∀ other, builder.blueprint.component? entry.1 entry.2 = some other →
          other.validateInitialCapabilities builder.blueprint = .ok ()) ↔
            kernel.validateInitialCapabilities builder.blueprint = .ok () := by
        rw [hkernel]
        constructor
        · exact fun h => h kernel rfl
        · intro h other heq
          cases heq
          exact h
      rw [hone]
      exact h.initializeComponent hdistinct.1 hkernel (hactive kernel hmem) (hinitial kernel hmem)

end Starting

end Initialization

/-- What a builder assembled has no active Subscriptions yet. -/
theorem active_of_assembled {builder : ProgramBuilder} (h : builder.Assembled) :
    ∀ kernel ∈ builder.components, kernel.kernel.subscriptions.active = [] :=
  fun kernel hkernel => List.map_eq_nil_iff.mp (activeIds_of_assembled h kernel hkernel)

/-- Every Component is initialized, each once. -/
theorem mem_initializationOrder {program : Program} (hdistinct : (program.components.map (·.id)).Nodup) :
    ((initializationOrder program).map Prod.fst).Nodup ∧
      (∀ entry ∈ initializationOrder program, ∃ kernel ∈ program.components,
        program.component? entry.1 entry.2 = some kernel) ∧
        ∀ kernel ∈ program.components, (kernel.id, kernel.messageType) ∈ initializationOrder program ∧
          program.component? kernel.id kernel.messageType = some kernel := by
  have hperm := List.perm_insertionSort
    (fun left right : ComponentId × TypeId => left.1.name ≤ right.1.name)
    (program.components.map fun component => (component.id, component.messageType))
  have hfound : ∀ kernel ∈ program.components,
      program.component? kernel.id kernel.messageType = some kernel := by
    intro kernel hkernel
    have hsome : (program.component? kernel.id kernel.messageType).isSome = true :=
      List.find?_isSome.mpr ⟨kernel, hkernel,
        Bool.and_eq_true_iff.mpr ⟨decide_eq_true rfl, decide_eq_true rfl⟩⟩
    obtain ⟨other, hother⟩ := Option.isSome_iff_exists.mp hsome
    have hid := (Program.component?_eq_some hother).1
    rw [hother, List.inj_on_of_nodup_map hdistinct (List.mem_of_find?_eq_some hother) hkernel hid]
  refine ⟨?_, ?_, ?_⟩
  · refine ((hperm.map Prod.fst).nodup_iff).mpr ?_
    rw [List.map_map]
    exact hdistinct
  · intro entry hentry
    obtain ⟨kernel, hkernel, rfl⟩ := List.mem_map.mp (hperm.mem_iff.mp hentry)
    exact ⟨kernel, hkernel, hfound kernel hkernel⟩
  · intro kernel hkernel
    exact ⟨hperm.mem_iff.mpr (List.mem_map_of_mem hkernel), hfound kernel hkernel⟩

/-- The validators accept the Components of a Program exactly when the runtime
    comes up without a fault, unless code of the application panics meanwhile. -/
theorem validated_iff {builder : ProgramBuilder} (h : builder.Assembled) {program : Program}
    (hbuild : builder.build = .ok program) {bindings : Bindings}
    (hvalidate : bindings.validate program = .ok ())
    (hinitial : ∀ kernel ∈ program.components, kernel.StartsAfresh) :
    (∃ panic, Core.new program bindings = .error (.panicked panic)) ∨
      ((∀ kernel ∈ program.components, kernel.validateInitialCapabilities program = .ok ()) ↔
        ∃ core, Core.new program bindings = .ok core ∧ core.fault = none) := by
  obtain ⟨rfl, hwired⟩ := ProgramBuilder.build_ok hbuild
  have hcheck := (ProgramBuilder.build_eq_ok.mp hbuild).1
  have hdistinct := (ProgramBuilder.checkComponents_eq_ok.mp hcheck).1
  obtain ⟨honce, hfound, hall⟩ := @mem_initializationOrder _ builder.blueprint hdistinct
  have hstarting : Starting builder ((initializationOrder builder.blueprint).map Prod.fst)
      (Core.fresh builder.blueprint bindings) :=
    ⟨rfl, rfl, ⟨h.numbered, hwired, Bindings.validate_ok hvalidate, rfl⟩, fun _ _ _ => rfl⟩
  have hdecides := hstarting.initializeComponents honce hfound (active_of_assembled h) hinitial
  have hvalid : (∀ kernel ∈ builder.blueprint.components,
      kernel.validateInitialCapabilities builder.blueprint = .ok ()) ↔
        ∀ entry ∈ initializationOrder builder.blueprint, ∀ kernel,
          builder.blueprint.component? entry.1 entry.2 = some kernel →
            kernel.validateInitialCapabilities builder.blueprint = .ok () := by
    constructor
    · intro hvalid entry _ kernel hkernel
      exact hvalid kernel (List.mem_of_find?_eq_some hkernel)
    · intro hvalid kernel hkernel
      obtain ⟨hentry, hself⟩ := hall kernel hkernel
      exact hvalid _ hentry kernel hself
  rw [hvalid]
  unfold Core.new
  cases hrun : (initializeComponents (initializationOrder builder.blueprint)).run
      (Core.fresh builder.blueprint bindings) with
  | ok value core =>
      rw [hrun] at hdecides
      exact .inr (iff_of_true hdecides.1 ⟨core, rfl, hdecides.2.fault⟩)
  | error stop core =>
      rw [hrun] at hdecides
      cases stop with
      | error error =>
          refine .inr (iff_of_false hdecides.1 ?_)
          rintro ⟨other, hother, hok⟩
          cases hother
          exact hdecides.2 hok
      | panicked panic => exact .inl ⟨panic, rfl⟩
      | outOfFuel => exact absurd hdecides id

end Controlled

end Samara
