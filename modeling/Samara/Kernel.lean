/-
  Samara.Kernel

  Subscription reconciliation (`declarative_work.rs`) and the Component kernel
  (`component_kernel.rs`), the machinery both execution profiles share.
-/
import Samara.Command
import Samara.Logic.Table

namespace Samara

variable [RustTypes]

/-! ## Subscription reconciliation -/

/-- `SubscriptionChange<Message>`. -/
inductive SubscriptionChange (message : TypeId) where
  | start (subscription : Subscription message)
  | retain (subscription : Subscription message)
  | replace (subscription : Subscription message)
  | cancel (id : SubscriptionId)

/-- A change that puts `subscription` in place, by starting, retaining or
    replacing its realization. -/
def SubscriptionChange.Installs {message : TypeId} (subscription : Subscription message) :
    SubscriptionChange message → Prop
  | .start installed => installed = subscription
  | .retain installed => installed = subscription
  | .replace installed => installed = subscription
  | .cancel _ => False

structure ActiveDescriptor where
  id : SubscriptionId
  descriptor : SourceDescriptorSnapshot

/-- `SubscriptionReconciler<Message>`. -/
structure SubscriptionReconciler where
  owner : ComponentId
  active : List ActiveDescriptor

namespace SubscriptionReconciler

variable {message : TypeId}

/-- The first identity that a scan of `ids` has `seen` before. -/
def duplicateId : List SubscriptionId → List SubscriptionId → Option SubscriptionId
  | _, [] => none
  | seen, id :: ids => if id ∈ seen then some id else duplicateId (id :: seen) ids

omit [RustTypes] in
/-- The scan finds nothing exactly when the identities are distinct and new. -/
theorem duplicateId_eq_none {seen ids : List SubscriptionId} :
    duplicateId seen ids = none ↔ ids.Nodup ∧ ∀ id ∈ ids, id ∉ seen := by
  induction ids generalizing seen with
  | nil => simp [duplicateId]
  | cons id ids ih =>
      unfold duplicateId
      by_cases hid : id ∈ seen
      · simp [hid]
      · rw [if_neg hid, ih, List.nodup_cons]
        constructor
        · rintro ⟨hnodup, hfresh⟩
          refine ⟨⟨fun hmem => hfresh id hmem List.mem_cons_self, hnodup⟩, ?_⟩
          intro other hother
          rcases List.mem_cons.mp hother with rfl | hmem
          · exact hid
          · exact fun hseen => hfresh other hmem (List.mem_cons_of_mem _ hseen)
        · rintro ⟨⟨hid', hnodup⟩, hfresh⟩
          refine ⟨hnodup, ?_⟩
          intro other hother hseen
          rcases List.mem_cons.mp hseen with rfl | hmem
          · exact hid' hother
          · exact hfresh other (List.mem_cons_of_mem _ hother) hmem

/-- One desired Subscription against the active descriptors. -/
def reconcileOne (active : List ActiveDescriptor) (subscription : Subscription message) :
    List ActiveDescriptor × SubscriptionChange message :=
  match active.find? (·.id = subscription.id) with
  | none =>
      (active ++ [⟨subscription.id, subscription.descriptorSnapshot⟩], .start subscription)
  | some entry =>
      if subscription.hasDescriptor entry.descriptor then
        (active, .retain subscription)
      else
        (Table.modifyFirst (·.id = subscription.id)
          ({ · with descriptor := subscription.descriptorSnapshot }) active,
          .replace subscription)

/-- The loop over the desired Subscriptions. -/
def reconcileDesired (active : List ActiveDescriptor) :
    List (Subscription message) → List ActiveDescriptor × List (SubscriptionChange message)
  | [] => (active, [])
  | subscription :: desired =>
      let (active, change) := reconcileOne active subscription
      let (active, changes) := reconcileDesired active desired
      (active, change :: changes)

/-- The closing loop, which removes what is no longer desired. -/
def cancelUndesired (desiredIds : List SubscriptionId) :
    List ActiveDescriptor → List ActiveDescriptor × List (SubscriptionChange message)
  | [] => ([], [])
  | entry :: active =>
      let (kept, changes) := cancelUndesired desiredIds active
      if entry.id ∈ desiredIds then (entry :: kept, changes) else (kept, .cancel entry.id :: changes)

/-- `SubscriptionReconciler::reconcile`. -/
def reconcile (reconciler : SubscriptionReconciler) (desired : List (Subscription message)) :
    Except SubscriptionId (List (SubscriptionChange message) × SubscriptionReconciler) :=
  match duplicateId [] (desired.map (·.id)) with
  | some id => .error id
  | none =>
      let (active, changes) := reconcileDesired reconciler.active desired
      let (active, cancelled) := cancelUndesired (desired.map (·.id)) active
      .ok (changes ++ cancelled, { reconciler with active })

/-- Whether the step of `reconcile` for one desired Subscription returns: it
    compares the descriptor with an active one, and clones what it puts in place. -/
def comparesOne (active : List ActiveDescriptor) (subscription : Subscription message) :
    Callback Unit :=
  match active.find? (·.id = subscription.id) with
  | none => subscription.clones
  | some entry => do
      subscription.compares entry.descriptor
      if subscription.hasDescriptor entry.descriptor then .ok () else subscription.clones

def comparesDesired (active : List ActiveDescriptor) : List (Subscription message) → Callback Unit
  | [] => .ok ()
  | subscription :: desired => do
      comparesOne active subscription
      comparesDesired (reconcileOne active subscription).1 desired

/-- Whether `reconcile` returns. -/
def compares (reconciler : SubscriptionReconciler) (desired : List (Subscription message)) :
    Callback Unit :=
  match duplicateId [] (desired.map (·.id)) with
  | some _ => .ok ()
  | none => comparesDesired reconciler.active desired

/-- Reconciliation is refused exactly when two desired identities are equal. -/
theorem reconcile_eq_error {reconciler : SubscriptionReconciler}
    {desired : List (Subscription message)} {duplicate : SubscriptionId}
    (h : reconciler.reconcile desired = .error duplicate) : ¬ (desired.map (·.id)).Nodup := by
  unfold reconcile at h
  cases hscan : duplicateId [] (desired.map (·.id)) with
  | none =>
      rw [hscan] at h
      cases h
  | some id =>
      intro hnodup
      have hnone : duplicateId [] (desired.map (·.id)) = none :=
        duplicateId_eq_none.mpr ⟨hnodup, fun _ _ hmem => absurd hmem List.not_mem_nil⟩
      rw [hscan] at hnone
      cases hnone

theorem reconcile_nodup {reconciler reconciler' : SubscriptionReconciler}
    {desired : List (Subscription message)} {changes : List (SubscriptionChange message)}
    (h : reconciler.reconcile desired = .ok (changes, reconciler')) :
    (desired.map (·.id)).Nodup := by
  unfold reconcile at h
  cases hscan : duplicateId [] (desired.map (·.id)) with
  | none => exact (duplicateId_eq_none.mp hscan).1
  | some id =>
      rw [hscan] at h
      cases h

theorem reconcileOne_installs (active : List ActiveDescriptor)
    (subscription : Subscription message) :
    (reconcileOne active subscription).2.Installs subscription := by
  unfold reconcileOne
  split
  · rfl
  · split
    · rfl
    · rfl

theorem mem_reconcileDesired {active : List ActiveDescriptor}
    {desired : List (Subscription message)} {change : SubscriptionChange message}
    (h : change ∈ (reconcileDesired active desired).2) :
    ∃ subscription ∈ desired, change.Installs subscription := by
  induction desired generalizing active with
  | nil => cases h
  | cons subscription desired ih =>
      rcases List.mem_cons.mp h with rfl | hmem
      · exact ⟨subscription, List.mem_cons_self, reconcileOne_installs active subscription⟩
      · obtain ⟨found, hfound, hinstalls⟩ := ih hmem
        exact ⟨found, List.mem_cons_of_mem _ hfound, hinstalls⟩

theorem mem_cancelUndesired {desiredIds : List SubscriptionId} {active : List ActiveDescriptor}
    {change : SubscriptionChange message} (h : change ∈ (cancelUndesired desiredIds active).2) :
    ∃ id, change = .cancel id := by
  induction active with
  | nil => cases h
  | cons entry active ih =>
      unfold cancelUndesired at h
      dsimp only at h
      split at h
      · exact ih h
      · rcases List.mem_cons.mp h with rfl | hmem
        · exact ⟨entry.id, rfl⟩
        · exact ih hmem

/-- Every change installs a desired Subscription or cancels one. -/
theorem mem_reconcile {reconciler reconciler' : SubscriptionReconciler}
    {desired : List (Subscription message)} {changes : List (SubscriptionChange message)}
    (h : reconciler.reconcile desired = .ok (changes, reconciler'))
    {change : SubscriptionChange message} (hmem : change ∈ changes) :
    (∃ subscription ∈ desired, change.Installs subscription) ∨ ∃ id, change = .cancel id := by
  unfold reconcile at h
  split at h
  · cases h
  · cases h
    rcases List.mem_append.mp hmem with hinstalled | hcancelled
    · exact Or.inl (mem_reconcileDesired hinstalled)
    · exact Or.inr (mem_cancelUndesired hcancelled)

end SubscriptionReconciler

/-- `ErasedSubscriptionChange`. -/
inductive ErasedSubscriptionChange where
  | start (subscription : ErasedRuntimeSubscription)
  | retain (subscription : ErasedRuntimeSubscription)
  | replace (subscription : ErasedRuntimeSubscription)
  | cancel (id : SubscriptionId)

def ErasedSubscriptionChange.id : ErasedSubscriptionChange → SubscriptionId
  | .start subscription | .retain subscription | .replace subscription => subscription.id
  | .cancel id => id

/-- `erase_subscription_change`. -/
def eraseSubscriptionChange {message : TypeId} :
    SubscriptionChange message → ErasedSubscriptionChange
  | .start subscription => .start ⟨message, subscription⟩
  | .retain subscription => .retain ⟨message, subscription⟩
  | .replace subscription => .replace ⟨message, subscription⟩
  | .cancel id => .cancel id

/-- `changes.sort_by(|left, right| left.id().cmp(right.id()))`, a stable sort. -/
def sortChanges (changes : List ErasedSubscriptionChange) : List ErasedSubscriptionChange :=
  changes.insertionSort fun left right => left.id.name ≤ right.id.name

/-! ## Component kernels -/

/-- `ComponentKernel<C>`. -/
structure ComponentKernel (componentType : TypeId) where
  id : ComponentId
  component : Component componentType
  model : RustTypes.componentModel componentType
  initialCommand : Option (Command (RustTypes.componentMessage componentType))
  subscriptions : SubscriptionReconciler

namespace ComponentKernel

variable {componentType : TypeId}

/-- `ComponentKernel::new`. -/
def new (id : ComponentId) (configuration : Component componentType) :
    ComponentKernel componentType where
  id := id
  component := configuration
  model := configuration.init.1
  initialCommand := some configuration.init.2
  subscriptions := ⟨id, []⟩

end ComponentKernel

/-- `dyn ErasedCommand`. -/
structure ErasedCommand where
  messageType : TypeId
  command : Command messageType

/-- `dyn ErasedComponentKernel`. -/
structure ErasedComponentKernel where
  componentType : TypeId
  kernel : ComponentKernel componentType

namespace ErasedComponentKernel

def id (erased : ErasedComponentKernel) : ComponentId := erased.kernel.id

def messageType (erased : ErasedComponentKernel) : TypeId :=
  RustTypes.componentMessage erased.componentType

def messageTypeName (erased : ErasedComponentKernel) : String := typeName erased.messageType

/-- What the current Model desires. -/
def desired (erased : ErasedComponentKernel) :
    Callback (List (Subscription (RustTypes.componentMessage erased.componentType))) :=
  erased.kernel.component.subscriptions erased.kernel.model

/-- `take_initial_command_erased`. -/
def takeInitialCommandErased : EStateM Panic ErasedComponentKernel (Option ErasedCommand) :=
  fun erased =>
    .ok (erased.kernel.initialCommand.map fun command => ⟨_, command⟩)
      { erased with kernel := { erased.kernel with initialCommand := none } }

/-- `transition_erased`; `none` is the `Err(())` of a Message of another type. -/
def transitionErased (message : ErasedValue) :
    EStateM Panic ErasedComponentKernel (Option ErasedCommand) := fun erased =>
  match message.downcast erased.messageType with
  | none => .ok none erased
  | some message =>
      match erased.kernel.component.update erased.kernel.model message with
      | (model, .error panic) =>
          .error panic { erased with kernel := { erased.kernel with model } }
      | (model, .ok command) =>
          .ok (some ⟨_, command⟩) { erased with kernel := { erased.kernel with model } }

/-- `reconcile_subscriptions_erased`. -/
def reconcileSubscriptionsErased :
    EStateM Panic ErasedComponentKernel
      (Except SubscriptionId (List ErasedSubscriptionChange)) := fun erased =>
  match erased.desired with
  | .error panic => .error panic erased
  | .ok desired =>
      match erased.kernel.subscriptions.reconcile desired with
      | .error id => .ok (.error id) erased
      | .ok (changes, subscriptions) =>
          .ok (.ok (changes.map eraseSubscriptionChange))
            { erased with kernel := { erased.kernel with subscriptions } }

/-- Whether `reconcile_subscriptions_erased` returns: the Component computes what
    it desires, and descriptors are compared. -/
def reconciles (erased : ErasedComponentKernel) : Callback Unit := do
  let desired ← erased.desired
  erased.kernel.subscriptions.compares desired

/-- A transition keeps the identity and the type of the Component. -/
theorem transitionErased_ok {message : ErasedValue} {kernel kernel' : ErasedComponentKernel}
    {command : Option ErasedCommand}
    (h : (transitionErased message).run kernel = .ok command kernel') :
    kernel'.id = kernel.id ∧ kernel'.componentType = kernel.componentType := by
  unfold transitionErased EStateM.run at h
  dsimp only at h
  split at h
  · cases h
    exact ⟨rfl, rfl⟩
  · split at h
    · cases h
    · cases h
      exact ⟨rfl, rfl⟩

/-- A transition returns a Command in the Messages of its Component. -/
theorem transitionErased_command {message : ErasedValue} {kernel kernel' : ErasedComponentKernel}
    {command : ErasedCommand}
    (h : (transitionErased message).run kernel = .ok (some command) kernel') :
    command.messageType = kernel.messageType := by
  unfold transitionErased EStateM.run at h
  dsimp only at h
  split at h
  · cases h
  · split at h
    · cases h
    · cases h
      rfl

/-- Only a Message of another type is refused. -/
theorem transitionErased_none {message : ErasedValue} {kernel kernel' : ErasedComponentKernel}
    (h : (transitionErased message).run kernel = .ok none kernel') :
    message.downcast kernel.messageType = none ∧ kernel' = kernel := by
  unfold transitionErased EStateM.run at h
  dsimp only at h
  split at h
  · rename_i hdowncast
    cases h
    exact ⟨hdowncast, rfl⟩
  · split at h
    · cases h
    · cases h

end ErasedComponentKernel

end Samara
