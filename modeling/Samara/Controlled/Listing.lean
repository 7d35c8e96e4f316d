/-
  Samara.Controlled.Listing

  The order in which `subscriptions` lists what it desires does not show in a
  controlled run.  A reconciliation decides about each identity on its own, and
  its changes are sorted before they are applied; so the tables of two
  reconcilers may differ in their order, and nothing else does.
-/
import Samara.Controlled.Likeness
import Samara.Reconciliation
import Samara.Validation

namespace Samara

open Exec (EndsBy)

variable [RustTypes]

/-! ## Reconcilers -/

namespace SubscriptionReconciler

variable {message : TypeId}

/-- Reconcilers that hold the same rows, each identity once, in some order. -/
structure Permutes (first second : SubscriptionReconciler) : Prop where
  owner : second.owner = first.owner
  left : first.ids.Nodup
  right : second.ids.Nodup
  rows : ∀ id, lookup second.active id = lookup first.active id

theorem Permutes.mem_ids {first second : SubscriptionReconciler} (h : first.Permutes second)
    (id : SubscriptionId) : id ∈ second.ids ↔ id ∈ first.ids := by
  have hrow := h.rows id
  by_cases hmem : id ∈ first.ids
  · refine iff_of_true ?_ hmem
    by_contra hnot
    rw [lookup_eq_none.mpr hnot] at hrow
    exact lookup_eq_none.mp hrow.symm hmem
  · refine iff_of_false ?_ hmem
    rw [lookup_eq_none.mpr hmem] at hrow
    exact lookup_eq_none.mp hrow

theorem Permutes.verdict {first second : SubscriptionReconciler} (h : first.Permutes second)
    (subscription : Subscription message) :
    verdict second.active subscription = verdict first.active subscription := by
  unfold SubscriptionReconciler.verdict
  rw [h.rows]

theorem owner_reconcile {reconciler reconciler' : SubscriptionReconciler}
    {desired : List (Subscription message)} {changes : List (SubscriptionChange message)}
    (h : reconciler.reconcile desired = .ok (changes, reconciler')) :
    reconciler'.owner = reconciler.owner := by
  unfold reconcile at h
  split at h
  · cases h
  · cases h
    rfl

/-- A permuted list leaves permuted rows, and asks for the same changes. -/
theorem Permutes.reconcile {first second : SubscriptionReconciler} (h : first.Permutes second)
    {desired desired' : List (Subscription message)} (hperm : desired.Perm desired')
    {changes changes' : List (SubscriptionChange message)}
    {first' second' : SubscriptionReconciler}
    (hfirst : first.reconcile desired = .ok (changes, first'))
    (hsecond : second.reconcile desired' = .ok (changes', second')) :
    changes.Perm changes' ∧ first'.Permutes second' := by
  have hids : (desired.map (·.id)).Perm (desired'.map (·.id)) := hperm.map _
  constructor
  · rw [changes_reconcile hfirst, changes_reconcile hsecond]
    refine List.Perm.append ?_ (List.Perm.map _ ?_)
    · have hverdicts : desired'.map (SubscriptionReconciler.verdict second.active) =
          desired'.map (SubscriptionReconciler.verdict first.active) :=
        List.map_congr_left fun subscription _ => h.verdict subscription
      rw [hverdicts]
      exact hperm.map _
    · refine (List.perm_ext_iff_of_nodup (h.left.filter _) (h.right.filter _)).mpr ?_
      intro id
      simp only [List.mem_filter, decide_eq_true_eq]
      rw [h.mem_ids, hids.mem_iff]
  · have hleft := lookup_reconcile hfirst
    have hright := lookup_reconcile hsecond
    refine ⟨?_, (reconcile_decided hfirst h.left).nodup, (reconcile_decided hsecond h.right).nodup, ?_⟩
    · rw [owner_reconcile hfirst, owner_reconcile hsecond]
      exact h.owner
    · intro id
      by_cases hid : id ∈ desired.map (·.id)
      · obtain ⟨subscription, hsubscription, rfl⟩ := List.mem_map.mp hid
        rw [hleft.1 _ hsubscription, hright.1 _ (hperm.mem_iff.mp hsubscription)]
        unfold placed
        rw [h.rows]
      · rw [hleft.2 id hid, hright.2 id (fun hmem => hid (hids.mem_iff.mpr hmem))]

end SubscriptionReconciler

/-- Changes of distinct identities have one sorted order. -/
theorem sortChanges_perm {changes changes' : List ErasedSubscriptionChange}
    (hperm : changes.Perm changes') (hdistinct : (changes.map (·.id)).Nodup) :
    sortChanges changes = sortChanges changes' := by
  let before (left right : ErasedSubscriptionChange) : Prop := left.id.name ≤ right.id.name
  have : Std.Total before := ⟨fun _ _ => String.le_total _ _⟩
  have : IsTrans _ before := ⟨fun _ _ _ => String.le_trans⟩
  have hleft := List.perm_insertionSort before changes
  have hright := List.perm_insertionSort before changes'
  refine List.Perm.eq_of_pairwise ?_ (List.pairwise_insertionSort before _)
    (List.pairwise_insertionSort before _) (hleft.trans (hperm.trans hright.symm))
  intro left right hmem hmem' hle hge
  have hid : left.id = right.id := congrArg SubscriptionId.mk (String.le_antisymm hle hge)
  exact List.inj_on_of_nodup_map hdistinct (hleft.mem_iff.mp hmem)
    (hperm.mem_iff.mpr (hright.mem_iff.mp hmem')) hid

/-! ## Programs -/

/-- Two projections of a Model that list the same, no identity twice. -/
inductive Lists {message : TypeId} :
    Callback (List (Subscription message)) → Callback (List (Subscription message)) → Prop where
  | error (panic : Panic) : Lists (.error panic) (.error panic)
  | ok {desired desired' : List (Subscription message)} (hperm : desired.Perm desired')
      (hdistinct : (desired.map (·.id)).Nodup) : Lists (.ok desired) (.ok desired')

/-- Components that differ in the order of their `subscriptions` alone. -/
structure Component.Relists {componentType : TypeId} (first second : Component componentType) :
    Prop where
  init : second.init = first.init
  update : second.update = first.update
  subscriptions : ∀ model, Lists (first.subscriptions model) (second.subscriptions model)

structure ComponentKernel.Relists {componentType : TypeId}
    (first second : ComponentKernel componentType) : Prop where
  id : second.id = first.id
  component : first.component.Relists second.component
  model : second.model = first.model
  initialCommand : second.initialCommand = first.initialCommand
  subscriptions : first.subscriptions.Permutes second.subscriptions

theorem ComponentKernel.relists_new {componentType : TypeId} {id : ComponentId}
    {first second : Component componentType} (h : first.Relists second) :
    (ComponentKernel.new id first).Relists (ComponentKernel.new id second) where
  id := rfl
  component := h
  model := congrArg Prod.fst h.init
  initialCommand := by
    show some second.init.2 = some first.init.2
    rw [h.init]
  subscriptions := ⟨rfl, List.nodup_nil, List.nodup_nil, fun _ => rfl⟩

inductive ErasedComponentKernel.Relists : ErasedComponentKernel → ErasedComponentKernel → Prop where
  | mk {componentType : TypeId} {first second : ComponentKernel componentType}
      (h : first.Relists second) : Relists ⟨componentType, first⟩ ⟨componentType, second⟩

/-- Programs whose Components differ in the order of their `subscriptions` alone. -/
structure Program.Relists (first second : Program) : Prop where
  program : second.program = first.program
  components : List.Forall₂ ErasedComponentKernel.Relists first.components second.components
  bindings : second.bindings = first.bindings
  effectRequirements : second.effectRequirements = first.effectRequirements
  sourceRequirements : second.sourceRequirements = first.sourceRequirements

namespace ErasedComponentKernel.Relists

variable {left right : ErasedComponentKernel}

theorem id (h : left.Relists right) : right.id = left.id := by
  cases h with
  | mk h => exact h.id

theorem messageType (h : left.Relists right) : right.messageType = left.messageType := by
  cases h with
  | mk h => rfl

theorem transition (h : left.Relists right) (message : ErasedValue) :
    EndsBy Relists Eq ((transitionErased message).run left)
      ((transitionErased message).run right) := by
  cases h with
  | @mk componentType first second h =>
      unfold transitionErased EStateM.run ErasedComponentKernel.messageType
      dsimp only
      cases message.downcast (RustTypes.componentMessage componentType) with
      | none => exact .ok rfl (.mk h)
      | some value =>
          dsimp only
          rw [h.component.update, h.model]
          rcases first.component.update first.model value with ⟨model, panic | command⟩
          · exact .error (.mk ⟨h.id, h.component, rfl, h.initialCommand, h.subscriptions⟩)
          · exact .ok rfl (.mk ⟨h.id, h.component, rfl, h.initialCommand, h.subscriptions⟩)

theorem takeInitialCommand (h : left.Relists right) :
    EndsBy Relists Eq (takeInitialCommandErased.run left) (takeInitialCommandErased.run right) := by
  cases h with
  | @mk componentType first second h =>
      have hcommand : (second.initialCommand.map fun command =>
          (⟨_, command⟩ : ErasedCommand)) = first.initialCommand.map fun command => ⟨_, command⟩ := by
        rw [h.initialCommand]
      exact .ok hcommand.symm (.mk ⟨h.id, h.component, h.model, rfl, h.subscriptions⟩)

/-- What two kernels desire. -/
theorem desired (h : left.Relists right) :
    (∃ panic, left.desired = .error panic ∧ right.desired = .error panic) ∨
      ∃ desired desired', left.desired = .ok desired ∧ right.desired = .ok desired' := by
  cases h with
  | @mk componentType first second h =>
      have hlists := h.component.subscriptions first.model
      unfold ErasedComponentKernel.desired
      dsimp only
      rw [h.model]
      generalize first.component.subscriptions first.model = left at hlists ⊢
      generalize second.component.subscriptions first.model = right at hlists ⊢
      cases hlists with
      | error panic => exact .inl ⟨panic, rfl, rfl⟩
      | ok _ _ => exact .inr ⟨_, _, rfl, rfl⟩

theorem reconcile (h : left.Relists right) :
    EndsBy Relists (fun changes changes' => changes.map sortChanges = changes'.map sortChanges)
      (reconcileSubscriptionsErased.run left) (reconcileSubscriptionsErased.run right) := by
  cases h with
  | @mk componentType first second h =>
      have hlists := h.component.subscriptions first.model
      unfold reconcileSubscriptionsErased EStateM.run ErasedComponentKernel.desired
      dsimp only
      rw [h.model]
      generalize first.component.subscriptions first.model = left at hlists ⊢
      generalize second.component.subscriptions first.model = right at hlists ⊢
      cases hlists with
      | error panic => exact .error (.mk h)
      | @ok desired desired' hperm hdistinct =>
          dsimp only
          cases hfirst : first.subscriptions.reconcile desired with
          | error duplicate =>
              exact absurd hdistinct (SubscriptionReconciler.reconcile_eq_error hfirst)
          | ok result =>
              cases hsecond : second.subscriptions.reconcile desired' with
              | error duplicate =>
                  have hdistinct' := (hperm.map (·.id)).nodup_iff.mp hdistinct
                  exact absurd hdistinct' (SubscriptionReconciler.reconcile_eq_error hsecond)
              | ok result' =>
                  obtain ⟨hchanges, hpermutes⟩ := h.subscriptions.reconcile hperm hfirst hsecond
                  refine .ok ?_ (.mk ⟨h.id, h.component, rfl, h.initialCommand, hpermutes⟩)
                  have honce := (SubscriptionReconciler.reconcile_decided hfirst h.subscriptions.left).once
                  refine congrArg Except.ok (sortChanges_perm (hchanges.map _) ?_)
                  have hids : (result.1.map eraseSubscriptionChange).map (·.id) =
                      result.1.map SubscriptionChange.id := by
                    rw [List.map_map]
                    exact List.map_congr_left fun change _ => id_eraseSubscriptionChange change
                  rw [hids]
                  exact honce

/-- The validators accept both, of Programs that declare the same. -/
theorem validateInitialCapabilities (h : left.Relists right) {first second : Program}
    (hdeclares : first.DeclaresAlike second)
    (hvalid : left.validateInitialCapabilities first = .ok ()) :
    right.validateInitialCapabilities second = .ok () := by
  rw [hdeclares.validateInitialCapabilities]
  cases h with
  | @mk componentType left right h =>
      obtain ⟨desired, hdesired, hcommand, hall, hdistinct⟩ :=
        validateInitialCapabilities_eq_ok.mp hvalid
      have hlists := h.component.subscriptions left.model
      have hleft : left.component.subscriptions left.model = .ok desired := hdesired
      rw [hleft] at hlists
      generalize hright : right.component.subscriptions left.model = projection at hlists
      cases hlists with
      | @ok _ desired' hperm _ =>
          refine validateInitialCapabilities_eq_ok.mpr ⟨desired', ?_, ?_, ?_, ?_⟩
          · show right.component.subscriptions right.model = .ok desired'
            rw [h.model]
            exact hright
          · intro command hinitial declaration hdeclaration
            have hinitial' : left.initialCommand = some command := h.initialCommand ▸ hinitial
            have hid : (⟨componentType, right⟩ : ErasedComponentKernel).id =
              (⟨componentType, left⟩ : ErasedComponentKernel).id := h.id
            rw [hid]
            exact hcommand command hinitial' declaration hdeclaration
          · intro subscription hsubscription
            have hid : (⟨componentType, right⟩ : ErasedComponentKernel).id =
              (⟨componentType, left⟩ : ErasedComponentKernel).id := h.id
            rw [hid]
            exact hall subscription (hperm.mem_iff.mpr hsubscription)
          · exact (hperm.map _).nodup_iff.mp hdistinct

end ErasedComponentKernel.Relists

namespace Program.Relists

variable {first second : Program}

theorem roster (h : first.Relists second) :
    second.components.map (fun kernel => (kernel.id, kernel.messageType)) =
      first.components.map (fun kernel => (kernel.id, kernel.messageType)) := by
  have hcomponents := h.components
  generalize first.components = kernels at hcomponents ⊢
  generalize second.components = kernels' at hcomponents ⊢
  induction hcomponents with
  | nil => rfl
  | cons hkernel _ ih => rw [List.map_cons, List.map_cons, ih, hkernel.id, hkernel.messageType]

theorem component? (h : first.Relists second) (id : ComponentId) (messageType : TypeId) :
    Option.Rel ErasedComponentKernel.Relists (first.component? id messageType)
      (second.component? id messageType) :=
  Table.find?_forall₂ h.components fun left right hkernel => by rw [hkernel.id, hkernel.messageType]

theorem setComponent (h : first.Relists second) {left right : ErasedComponentKernel}
    (hkernels : left.Relists right) (id : ComponentId) (messageType : TypeId) :
    (first.setComponent id messageType left).Relists (second.setComponent id messageType right) where
  program := h.program
  components := Table.modifyFirst_forall₂ h.components
    (fun left right hkernel => by rw [hkernel.id, hkernel.messageType]) fun _ _ _ => hkernels
  bindings := h.bindings
  effectRequirements := h.effectRequirements
  sourceRequirements := h.sourceRequirements

theorem declaresAlike (h : first.Relists second) : first.DeclaresAlike second := by
  have hsource (token : CapabilityToken) : second.sourceRequirement token =
      first.sourceRequirement token := by
    unfold Program.sourceRequirement
    rw [h.sourceRequirements]
  refine ⟨?_, ?_, ?_, hsource, ?_⟩
  · intro token descriptor
    unfold Program.declaresEffect Program.effectRequirement
    rw [h.program, h.effectRequirements]
  · intro program target messageType
    have hany (components : List ErasedComponentKernel) :
        (components.any fun kernel => kernel.id = target && kernel.messageType = messageType) =
          (components.map fun kernel => (kernel.id, kernel.messageType)).any
            fun entry => entry.1 = target && entry.2 = messageType := by
      rw [List.any_map]
      rfl
    unfold Program.declaresComponentTarget
    rw [h.program, hany, hany, h.roster]
  · intro program port protocol
    unfold Program.declaresPortTarget
    rw [h.program, h.bindings]
  · intro token descriptor
    unfold Program.declaresSource
    rw [h.program, hsource]

end Program.Relists

namespace Controlled

/-- Programs that list their Subscriptions in other orders run alike. -/
def relisting : Likeness where
  programs := Program.Relists
  kernels := ErasedComponentKernel.Relists
  journals _ _ := True
  program h := h.program
  declaresEffect h := h.declaresAlike.effect
  declaresSourcePlan h := h.declaresAlike.sourcePlan
  sourceRequirement h := h.declaresAlike.sourceRequirement
  binding? {first second} h protocol port := by
    unfold Program.binding?
    rw [h.bindings]
  component? h := h.component?
  setComponent h _ _ hkernels messageType := h.setComponent hkernels _ messageType
  observe _ _ := trivial
  desired h := by
    rcases h.desired with hpanic | ⟨desired, desired', hleft, hright⟩
    · exact .inl hpanic
    · exact .inr ⟨desired, desired', hleft, hright, fun _ _ _ _ => trivial⟩
  transition h := h.transition
  reconcile h := h.reconcile
  takeInitialCommand h := h.takeInitialCommand

/-- Two runtimes in one state, which the order of `subscriptions` does not show
    in: the Models are equal, and all that is not a kernel is. -/
structure Core.SameBut (first second : Core) : Prop where
  components : ∀ id messageType, Option.Rel ErasedComponentKernel.Relists
    (first.program.component? id messageType) (second.program.component? id messageType)
  now : second.now = first.now
  pendingWork : second.pendingWork = first.pendingWork
  scheduled : second.scheduled = first.scheduled
  sources : second.sources = first.sources
  effects : second.effects = first.effects
  requests : second.requests = first.requests
  tickets : second.nextTicket = first.nextTicket ∧ second.nextEffect = first.nextEffect ∧
    second.nextCorrelation = first.nextCorrelation ∧ second.nextGeneration = first.nextGeneration
  fault : second.fault = first.fault
  trace : second.trace = first.trace

theorem sameBut_of_cores {first second : Core} (h : relisting.Cores first second) :
    first.SameBut second := by
  obtain ⟨program, journal, hprogram, -, rfl⟩ := h
  exact ⟨hprogram.component?, rfl, rfl, rfl, rfl, rfl, rfl, ⟨rfl, rfl, rfl, rfl⟩, rfl, rfl⟩

theorem initializationOrder_relists {first second : Program} (h : first.Relists second) :
    initializationOrder second = initializationOrder first := by
  unfold initializationOrder
  rw [h.roster]

theorem launch_relists {first second : Program} (h : first.Relists second) {bindings : Bindings}
    {core : Core} (hlaunch : launch first bindings = .ok core) :
    ∃ core', launch second bindings = .ok core' ∧ relisting.Cores core core' := by
  obtain ⟨hvalidate, hcomponents, hnew⟩ := launch_eq_ok.mp hlaunch
  obtain ⟨core', hnew', hstates⟩ :=
    @new_same _ relisting _ _ h (initializationOrder_relists h) trivial bindings _ hnew
  refine ⟨core', launch_eq_ok.mpr ⟨?_, ?_, hnew'⟩, hstates⟩
  · rw [validate_congr h.program h.effectRequirements h.sourceRequirements]
    exact hvalidate
  · rw [validateComponents_eq_ok] at hcomponents ⊢
    intro right hright
    obtain ⟨left, hleft, hkernels⟩ := Table.mem_forall₂ h.components hright
    exact hkernels.validateInitialCapabilities h.declaresAlike (hcomponents left hleft)

/-- The order in which `subscriptions` lists what it desires does not matter.
    When the controlled profile accepts one of two Programs whose Components
    list the same Subscriptions in different orders, it accepts the other, and
    every sequence of operations returns the same in both runtimes and leaves
    them in the same state. -/
theorem listing_order_irrelevant {first second : Program} (h : first.Relists second)
    {bindings : Bindings} {core : Core} (hlaunch : launch first bindings = .ok core) :
    ∃ core', launch second bindings = .ok core' ∧ ∀ operations : List Operation,
      (performAll operations core').1 = (performAll operations core).1 ∧
        (performAll operations core).2.SameBut (performAll operations core').2 := by
  obtain ⟨core', hlaunch', hstates⟩ := launch_relists h hlaunch
  refine ⟨core', hlaunch', fun operations => ?_⟩
  obtain ⟨hresults, hcores⟩ := performAll_same operations hstates
  exact ⟨hresults, sameBut_of_cores hcores⟩

end Controlled

end Samara

namespace Samara.Controlled

attribute [local instance] Sample.types

/-- A Component that always desires the same. -/
def audience (desired : List (Subscription ())) : Component () where
  init := ((0 : Nat), .none)
  update := fun (model : Nat) _ => (model + 1, .ok .none)
  subscriptions _ := .ok desired

def audienceProgram (desired : List (Subscription ())) : Program :=
  ((((ProgramBuilder.new ⟨7⟩).source (.stream ())).component ⟨"audience"⟩
    (audience desired)).build).toOption.get rfl

def audienceBindings : Bindings := ⟨[], [.stream ()], []⟩

def audienceCore : Core := (launch (audienceProgram twoStreams) audienceBindings).toOption.get rfl

theorem eq_ok_of_toOption {ε α : Type} {result : Except ε α} (h : result.toOption.isSome = true) :
    result = .ok (result.toOption.get h) := by
  cases result with
  | error error => cases h
  | ok value => rfl

theorem audience_relists :
    (audienceProgram twoStreams).Relists (audienceProgram twoStreams.reverse) where
  program := rfl
  components := .cons (.mk (ComponentKernel.relists_new ⟨rfl, rfl, fun _ =>
    .ok (List.reverse_perm twoStreams).symm (by decide)⟩)) .nil
  bindings := rfl
  effectRequirements := rfl
  sourceRequirements := rfl

theorem listing_order_irrelevant_audience :
    ∃ core', launch (audienceProgram twoStreams.reverse) audienceBindings = .ok core' ∧
      ∀ operations : List Operation,
        (performAll operations core').1 = (performAll operations audienceCore).1 ∧
          (performAll operations audienceCore).2.SameBut (performAll operations core').2 := by
  have hlaunch : launch (audienceProgram twoStreams) audienceBindings = .ok audienceCore :=
    eq_ok_of_toOption rfl
  exact listing_order_irrelevant audience_relists hlaunch

end Samara.Controlled
