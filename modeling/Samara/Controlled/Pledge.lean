/-
  Samara.Controlled.Pledge

  No Source of a controlled runtime is under a capability of another Program,
  and no mapper of one is ever invoked.  A foreign Subscription cannot be
  retained, since nothing foreign is active; so a projection that desires one
  leaves a start or a replacement to be applied, on which the run faults.
-/
import Samara.Controlled.Rows
import Samara.Reconciliation

namespace Samara

open Relation (ReflTransGen)

variable [RustTypes]

/-! ## Foreign capabilities -/

/-- The Subscription is under a capability of another Program than `program`. -/
def ErasedRuntimeSubscription.IsForeign (program : ProgramId)
    (erased : ErasedRuntimeSubscription) : Prop :=
  erased.capability.program ≠ program

/-- A Component desires something under a capability of another Program. -/
def ErasedProjection.IsForeign (program : ProgramId) (desired : ErasedProjection) : Prop :=
  ∃ subscription ∈ desired.subscriptions, subscription.capability.program ≠ program

/-- Whatever the Program declares is its own. -/
theorem Program.own_of_declaresSourcePlan {program : Program} {token : CapabilityToken}
    {descriptor terminal : DescriptorType TypeId}
    (h : program.declaresSourcePlan token descriptor terminal = true) :
    token.program = program.program := by
  unfold Program.declaresSourcePlan Program.declaresSource at h
  rw [Bool.and_eq_true, Bool.and_eq_true] at h
  exact of_decide_eq_true h.1.1

namespace SubscriptionReconciler

variable {message : TypeId}

/-- What is retained is active under the same capability. -/
theorem capability_of_retain {active : List ActiveDescriptor} {subscription kept : Subscription message}
    (h : verdict active subscription = .retain kept) :
    kept = subscription ∧
      ∃ entry ∈ active, entry.descriptor.capability = subscription.capability := by
  obtain ⟨hkept, entry, hfound, hequals⟩ := equals_of_retain h
  refine ⟨hkept, entry, List.mem_of_find?_eq_some hfound, ?_⟩
  generalize entry.descriptor = snapshot at hequals
  unfold Subscription.descriptorSnapshot at hequals
  cases hequals
  rfl

/-- The loop leaves what was active, or what is desired. -/
theorem mem_active_reconcileDesired {active : List ActiveDescriptor}
    {desired : List (Subscription message)} {entry : ActiveDescriptor}
    (h : entry ∈ (reconcileDesired active desired).1) :
    entry ∈ active ∨ ∃ subscription ∈ desired,
      entry.descriptor = subscription.descriptorSnapshot := by
  induction desired generalizing active with
  | nil => exact Or.inl h
  | cons subscription desired ih =>
      rcases ih (show entry ∈ (reconcileDesired (reconcileOne active subscription).1 desired).1
        from h) with hold | ⟨other, hother, hentry⟩
      · unfold reconcileOne at hold
        cases hfound : active.find? (·.id = subscription.id) with
        | none =>
            rw [hfound] at hold
            rcases List.mem_append.mp hold with hmem | hnew
            · exact Or.inl hmem
            · rw [List.mem_singleton.mp hnew]
              exact Or.inr ⟨subscription, List.mem_cons_self, rfl⟩
        | some known =>
            rw [hfound] at hold
            dsimp only at hold
            split at hold
            · exact Or.inl hold
            · rcases Table.mem_modifyFirst hold with hmem | ⟨found, _, rfl⟩
              · exact Or.inl hmem
              · exact Or.inr ⟨subscription, List.mem_cons_self, rfl⟩
      · exact Or.inr ⟨other, List.mem_cons_of_mem _ hother, hentry⟩

theorem mem_active_reconcile {reconciler reconciler' : SubscriptionReconciler}
    {desired : List (Subscription message)} {changes : List (SubscriptionChange message)}
    (h : reconciler.reconcile desired = .ok (changes, reconciler')) {entry : ActiveDescriptor}
    (hentry : entry ∈ reconciler'.active) :
    entry ∈ reconciler.active ∨ ∃ subscription ∈ desired,
      entry.descriptor = subscription.descriptorSnapshot := by
  unfold reconcile at h
  split at h
  · cases h
  · generalize hresult : reconcileDesired reconciler.active desired = result at h
    obtain ⟨active, installed⟩ := result
    dsimp only at h
    rw [cancelUndesired_eq] at h
    cases h
    have hmem := (List.mem_filter.mp hentry).1
    have hactive : active = (reconcileDesired reconciler.active desired).1 := by rw [hresult]
    exact mem_active_reconcileDesired (hactive ▸ hmem)

end SubscriptionReconciler

namespace Controlled

/-! ## The pledge -/

/-- A mapper was invoked. -/
def Observation.isMapping : Observation → Bool
  | .emitted _ _ _ _ _ => true
  | _ => false

def Observation.isProjection : Observation → Bool
  | .projected _ _ => true
  | _ => false

/-- What a history keeps of one kind was there before. -/
theorem mem_of_filter {p : Observation → Bool} {journal journal' : List Observation}
    {observation : Observation} (h : journal'.filter p = journal.filter p)
    (hp : p observation = true) (hmem : observation ∈ journal') : observation ∈ journal := by
  have hfiltered : observation ∈ journal'.filter p := List.mem_filter.mpr ⟨hmem, hp⟩
  rw [h] at hfiltered
  exact (List.mem_filter.mp hfiltered).1

/-- Some change to come starts a Source under a foreign capability, which the
    runtime refuses. -/
def Condemns (program : ProgramId) (pending : Pending) : Prop :=
  ∃ component subscription, subscription.IsForeign program ∧
    ((component, .start subscription) ∈ pending ∨ (component, .replace subscription) ∈ pending)

/-- No Source is under a foreign capability, and no mapper of a foreign
    Subscription has been invoked. -/
structure Devoted (core : Core) : Prop where
  rows : ∀ source ∈ core.sources, ¬ source.subscription.IsForeign core.program.program
  emitted : ∀ stamp input subscription outer messages,
    .emitted stamp input subscription outer messages ∈ core.journal →
      ¬ subscription.IsForeign core.program.program

/-- No Component desires anything foreign. -/
structure Loyal (core : Core) : Prop where
  active : ∀ kernel ∈ core.program.components, ∀ entry ∈ kernel.kernel.subscriptions.active,
    entry.descriptor.capability.program = core.program.program
  projected : ∀ id desired, .projected id desired ∈ core.journal →
    ¬ desired.IsForeign core.program.program

/-- What holds of a runtime when the changes `pending` are still to be applied:
    everything is its own, or the changes will make it fault. -/
structure Pledged (core : Core) (pending : Pending) : Prop where
  distinct : (core.program.components.map (·.id)).Nodup
  devoted : Devoted core
  retains : ∀ component subscription, (component, .retain subscription) ∈ pending →
    ¬ subscription.IsForeign core.program.program
  loyal : ¬ Condemns core.program.program pending → Loyal core

theorem not_condemns_nil (program : ProgramId) : ¬ Condemns program [] := by
  rintro ⟨component, subscription, _, hmem | hmem⟩
  · cases hmem
  · cases hmem

section Pledge

variable {core core' : Core} {pending pending' : Pending}

theorem Devoted.of_eq (h : Devoted core) (hprogram : core'.program.program = core.program.program)
    (hsources : core'.sources = core.sources)
    (hjournal : core'.journal.filter (·.isMapping) = core.journal.filter (·.isMapping)) :
    Devoted core' := by
  constructor
  · rw [hsources, hprogram]
    exact h.rows
  · rw [hprogram]
    intro stamp input subscription outer messages hmem
    exact h.emitted _ _ _ _ _ (mem_of_filter hjournal rfl hmem)

/-- Nothing foreign can be activated. -/
theorem Core.Activatable.own {subscription : ErasedRuntimeSubscription}
    (h : core.Activatable subscription) : ¬ subscription.IsForeign core.program.program :=
  fun hforeign => hforeign (Program.own_of_declaresSourcePlan h.2.1)

namespace Pledged

theorem not_condemned (h : Pledged core []) : Loyal core := h.loyal (not_condemns_nil _)

theorem perm (h : Pledged core pending) (hperm : pending.Perm pending') :
    Pledged core pending' where
  distinct := h.distinct
  devoted := h.devoted
  retains component subscription hmem := h.retains component subscription (hperm.mem_iff.mpr hmem)
  loyal hnot := by
    refine h.loyal ?_
    rintro ⟨component, subscription, hforeign, hmem⟩
    exact hnot ⟨component, subscription, hforeign, hmem.imp hperm.mem_iff.mp hperm.mem_iff.mp⟩

/-- A change that leaves Sources, Components and projections alone. -/
theorem of_eq (h : Pledged core pending) (hprogram : core'.program = core.program)
    (hsources : core'.sources = core.sources)
    (hmappings : core'.journal.filter (·.isMapping) = core.journal.filter (·.isMapping))
    (hprojections : core'.journal.filter (·.isProjection) = core.journal.filter (·.isProjection)) :
    Pledged core' pending := by
  refine ⟨?_, h.devoted.of_eq (congrArg Program.program hprogram) hsources hmappings, ?_, ?_⟩
  · rw [hprogram]
    exact h.distinct
  · rw [hprogram]
    exact h.retains
  · rw [hprogram]
    intro hnot
    have hloyal := h.loyal hnot
    constructor
    · rw [hprogram]
      exact hloyal.active
    · rw [hprogram]
      exact fun id desired hmem => hloyal.projected id desired (mem_of_filter hprojections rfl hmem)

/-- A kernel is stored that has the same Subscriptions active. -/
theorem withComponent (h : Pledged core pending) {id : ComponentId} {messageType : TypeId}
    {kernel kernel' : ErasedComponentKernel}
    (hkernel : core.program.component? id messageType = some kernel) (hid : kernel'.id = kernel.id)
    (hactive : kernel'.kernel.subscriptions = kernel.kernel.subscriptions) :
    Pledged (core.withComponent id messageType kernel') pending := by
  have hids := @Table.map_modifyFirst_found _ _ _ (fun _ => kernel')
    (fun component : ErasedComponentKernel => component.id) _ _ hkernel hid
  refine ⟨?_, h.devoted.of_eq rfl rfl rfl, h.retains, fun hnot => ?_⟩
  · show ((core.program.setComponent id messageType kernel').components.map _).Nodup
    unfold Program.setComponent
    rw [hids]
    exact h.distinct
  · have hloyal := h.loyal hnot
    refine ⟨?_, hloyal.projected⟩
    intro other hother entry hentry
    rcases Program.mem_setComponent h.distinct hkernel hother with rfl | ⟨hother, _⟩
    · rw [hactive] at hentry
      exact hloyal.active kernel (List.mem_of_find?_eq_some hkernel) entry hentry
    · exact hloyal.active other hother entry hentry

/-- A projection of something foreign leaves a change that the runtime refuses. -/
theorem projected (h : Pledged core []) {id : ComponentId} {messageType : TypeId}
    {kernel : ErasedComponentKernel}
    {desired : List (Subscription (RustTypes.componentMessage kernel.componentType))}
    {changes : List (SubscriptionChange (RustTypes.componentMessage kernel.componentType))}
    {reconciler : SubscriptionReconciler}
    (hkernel : core.program.component? id messageType = some kernel)
    (hreconcile : kernel.kernel.subscriptions.reconcile desired = .ok (changes, reconciler)) :
    Pledged ((core.withComponent id messageType
      { kernel with kernel := { kernel.kernel with subscriptions := reconciler } }).observed
        (.projected id ⟨_, desired⟩))
      ((changes.map eraseSubscriptionChange).map (id, ·)) := by
  have hloyal := h.not_condemned
  have hknown := hloyal.active kernel (List.mem_of_find?_eq_some hkernel)
  have hchanges := SubscriptionReconciler.changes_reconcile hreconcile
  let kernel' : ErasedComponentKernel :=
    { kernel with kernel := { kernel.kernel with subscriptions := reconciler } }
  have hids := @Table.map_modifyFirst_found _ _ _ (fun _ => kernel')
    (fun component : ErasedComponentKernel => component.id) _ _ hkernel rfl
  -- What is retained was active, and so is the Program's own.
  have hretained {subscription kept : Subscription (RustTypes.componentMessage kernel.componentType)}
      (hverdict : SubscriptionReconciler.verdict kernel.kernel.subscriptions.active subscription =
        .retain kept) : subscription.capability.program = core.program.program := by
    obtain ⟨_, entry, hentry, hcapability⟩ := SubscriptionReconciler.capability_of_retain hverdict
    rw [← hcapability]
    exact hknown entry hentry
  have hmem {subscription : Subscription (RustTypes.componentMessage kernel.componentType)}
      (hdesired : subscription ∈ desired) :
      (id, eraseSubscriptionChange (SubscriptionReconciler.verdict
        kernel.kernel.subscriptions.active subscription)) ∈
          (changes.map eraseSubscriptionChange).map (id, ·) := by
    refine List.mem_map_of_mem (List.mem_map_of_mem ?_)
    rw [hchanges]
    exact List.mem_append_left _ (List.mem_map_of_mem hdesired)
  have hown (hnot : ¬ Condemns core.program.program
      ((changes.map eraseSubscriptionChange).map (id, ·))) :
      ∀ subscription ∈ desired, subscription.capability.program = core.program.program := by
    intro subscription hdesired
    by_contra hforeign
    have hchange := hmem hdesired
    cases hverdict : SubscriptionReconciler.verdict kernel.kernel.subscriptions.active
      subscription with
    | start started =>
        have hsame := SubscriptionReconciler.reconcileOne_installs
          kernel.kernel.subscriptions.active subscription
        rw [SubscriptionReconciler.verdict_reconcileOne, hverdict] at hsame
        rw [hverdict] at hchange
        exact hnot ⟨id, ⟨_, started⟩, hsame ▸ hforeign, Or.inl hchange⟩
    | retain kept => exact hforeign (hretained hverdict)
    | replace replacing =>
        have hsame := SubscriptionReconciler.reconcileOne_installs
          kernel.kernel.subscriptions.active subscription
        rw [SubscriptionReconciler.verdict_reconcileOne, hverdict] at hsame
        rw [hverdict] at hchange
        exact hnot ⟨id, ⟨_, replacing⟩, hsame ▸ hforeign, Or.inr hchange⟩
    | cancel cancelled =>
        have hsame := SubscriptionReconciler.reconcileOne_installs
          kernel.kernel.subscriptions.active subscription
        rw [SubscriptionReconciler.verdict_reconcileOne, hverdict] at hsame
        exact hsame
  refine ⟨?_, ?_, ?_, fun hnot => ⟨?_, ?_⟩⟩
  · show ((core.program.setComponent id messageType kernel').components.map _).Nodup
    unfold Program.setComponent
    rw [hids]
    exact h.distinct
  · exact h.devoted.of_eq rfl rfl (by simp [Observation.isMapping])
  · intro component subscription hretain
    obtain ⟨erased, herased, heq⟩ := List.mem_map.mp hretain
    obtain ⟨change, hchange, rfl⟩ := List.mem_map.mp herased
    obtain ⟨rfl, heq⟩ := Prod.mk.inj heq
    rw [hchanges] at hchange
    rcases List.mem_append.mp hchange with hdecided | hcancelled
    · obtain ⟨wanted, _, rfl⟩ := List.mem_map.mp hdecided
      cases hverdict : SubscriptionReconciler.verdict kernel.kernel.subscriptions.active
        wanted with
      | retain kept =>
          rw [hverdict] at heq
          cases heq
          obtain ⟨rfl, _⟩ := SubscriptionReconciler.capability_of_retain hverdict
          exact fun hforeign => hforeign (hretained hverdict)
      | start started =>
          rw [hverdict] at heq
          cases heq
      | replace replacing =>
          rw [hverdict] at heq
          cases heq
      | cancel cancelled =>
          rw [hverdict] at heq
          cases heq
    · obtain ⟨cancelled, _, rfl⟩ := List.mem_map.mp hcancelled
      cases heq
  · intro other hother entry hentry
    rcases Program.mem_setComponent h.distinct hkernel hother with rfl | ⟨hother, _⟩
    · rcases SubscriptionReconciler.mem_active_reconcile hreconcile hentry with
        hold | ⟨subscription, hdesired, heq⟩
      · exact hknown entry hold
      · rw [heq]
        exact hown hnot subscription hdesired
    · exact hloyal.active other hother entry hentry
  · intro component projection hjournal
    rcases List.mem_append.mp hjournal with hold | hnew
    · exact hloyal.projected component projection hold
    · cases List.mem_singleton.mp hnew
      rintro ⟨subscription, hdesired, hforeign⟩
      exact hforeign (hown hnot subscription hdesired)

/-- A change that has passed its checks installs nothing foreign. -/
theorem changed {component : ComponentId} {change : ErasedSubscriptionChange} (cause : TraceId)
    (h : Pledged core ((component, change) :: pending)) (hadmits : core.Admits change) :
    Pledged (core.changed component cause change) pending := by
  have hprogram : (core.changed component cause change).program = core.program := by
    cases change <;> rfl
  have hjournal : (core.changed component cause change).journal = core.journal ∨
      ∃ stamp subscription, (core.changed component cause change).journal =
        core.journal ++ [.activated stamp subscription] := by
    cases change with
    | start subscription => exact Or.inr ⟨_, _, rfl⟩
    | retain subscription => exact Or.inl rfl
    | replace subscription => exact Or.inr ⟨_, _, rfl⟩
    | cancel id => exact Or.inl rfl
  have hrows : ∀ source ∈ (core.changed component cause change).sources,
      ¬ source.subscription.IsForeign core.program.program := by
    intro source hsource
    cases change with
    | start subscription =>
        rcases List.mem_append.mp hsource with hold | hnew
        · exact h.devoted.rows source hold
        · rw [List.mem_singleton.mp hnew]
          exact hadmits.own
    | retain subscription =>
        rcases Table.mem_modifyFirst hsource with hold | ⟨found, _, rfl⟩
        · exact h.devoted.rows source hold
        · exact h.retains component subscription List.mem_cons_self
    | replace subscription =>
        rcases List.mem_append.mp hsource with hold | hnew
        · exact h.devoted.rows source (List.mem_of_mem_eraseP hold)
        · rw [List.mem_singleton.mp hnew]
          exact hadmits.own
    | cancel id => exact h.devoted.rows source (List.mem_of_mem_eraseP hsource)
  have hcondemns (hnot : ¬ Condemns core.program.program pending) :
      ¬ Condemns core.program.program ((component, change) :: pending) := by
    rintro ⟨owner, subscription, hforeign, hmem | hmem⟩
    · rcases List.mem_cons.mp hmem with heq | hrest
      · cases heq
        exact hadmits.own hforeign
      · exact hnot ⟨owner, subscription, hforeign, Or.inl hrest⟩
    · rcases List.mem_cons.mp hmem with heq | hrest
      · cases heq
        exact hadmits.own hforeign
      · exact hnot ⟨owner, subscription, hforeign, Or.inr hrest⟩
  -- An activation is neither a projection nor an invocation of a mapper.
  have hbefore {observation : Observation}
      (hmem : observation ∈ (core.changed component cause change).journal)
      (hother : ∀ stamp subscription, observation ≠ .activated stamp subscription) :
      observation ∈ core.journal := by
    rcases hjournal with heq | ⟨stamp, subscription, heq⟩
    · exact heq ▸ hmem
    · rw [heq] at hmem
      rcases List.mem_append.mp hmem with hold | hnew
      · exact hold
      · exact absurd (List.mem_singleton.mp hnew) (hother _ _)
  refine ⟨?_, ⟨?_, ?_⟩, ?_, ?_⟩
  · rw [hprogram]
    exact h.distinct
  · rw [hprogram]
    exact hrows
  · rw [hprogram]
    intro stamp input subscription outer messages hmem
    exact h.devoted.emitted _ _ _ _ _ (hbefore hmem (by simp))
  · rw [hprogram]
    exact fun owner subscription hmem => h.retains owner subscription (List.mem_cons_of_mem _ hmem)
  · rw [hprogram]
    intro hnot
    have hloyal := h.loyal (hcondemns hnot)
    constructor
    · rw [hprogram]
      exact hloyal.active
    · rw [hprogram]
      exact fun id desired hmem => hloyal.projected id desired (hbefore hmem (by simp))

end Pledged

/-! ## Steps that desire nothing -/

theorem ErasedComponentKernel.transitionErased_subscriptions {message : ErasedValue}
    {kernel kernel' : ErasedComponentKernel} {command : Option ErasedCommand}
    (h : (ErasedComponentKernel.transitionErased message).run kernel = .ok command kernel') :
    kernel'.kernel.subscriptions = kernel.kernel.subscriptions := by
  unfold ErasedComponentKernel.transitionErased EStateM.run at h
  dsimp only at h
  split at h
  · cases h
    rfl
  · split at h
    · cases h
    · cases h
      rfl

variable {phase : Phase}

theorem Pledged.action (h : Pledged core []) (haction : Action core phase core')
    (hphase : phase ≠ .projection) : Pledged core' [] := by
  have hpopped (work : ScheduledWork) (message : QueuedMessage) :
      Pledged ((core.popped work).fired message) [] := by
    refine h.of_eq (Core.fired_program _ message) (Core.fired_sources _ message) ?_ ?_
    · simp [Observation.isMapping]
    · simp [Observation.isProjection]
  have hfound {work : ScheduledWork} {message : QueuedMessage} {kernel : ErasedComponentKernel}
      (hkernel : core.program.component? message.target message.targetMessageType = some kernel) :
      ((core.popped work).fired message).program.component? message.target
        message.targetMessageType = some kernel := by
    rw [Core.fired_program]
    exact hkernel
  cases haction with
  | initialized => exact absurd rfl hphase
  | projected => exact absurd rfl hphase
  | duplicated => exact absurd rfl hphase
  | duplicateFaulted => exact absurd rfl hphase
  | commandTaken => exact absurd rfl hphase
  | started => exact absurd rfl hphase
  | retained => exact absurd rfl hphase
  | replaced => exact absurd rfl hphase
  | cancelled => exact absurd rfl hphase
  | startFaulted => exact absurd rfl hphase
  | replaceFaulted => exact absurd rfl hphase
  | sourceEventMapped work event source plan outer mapped _ _ hsource =>
      have hown := h.devoted.rows source (List.mem_of_find?_eq_some hsource)
      have hloyal := h.not_condemned
      have hjournal : (mapped.foldl (Core.withMappedEvent · source event.cause)
          ((((core.popped work).withPlan source plan event.event outer).withEmission source
            event.cause outer mapped).withRunning source
              (event.event.isTerminal || outer.any (·.isTerminal)))).journal =
          core.journal ++ [.popped work.deadline work.ticket core.now,
            .mapped source.stamp event.event outer,
            .emitted source.stamp event.cause source.subscription outer mapped] := by
        simp [Core.withPlan, Core.withRunning]
      have hprogram : (mapped.foldl (Core.withMappedEvent · source event.cause)
          ((((core.popped work).withPlan source plan event.event outer).withEmission source
            event.cause outer mapped).withRunning source
              (event.event.isTerminal || outer.any (·.isTerminal)))).program = core.program := by
        simp [Core.withPlan, Core.withRunning]
      refine ⟨?_, ⟨?_, ?_⟩, ?_, fun _ => ⟨?_, ?_⟩⟩
      · rw [hprogram]
        exact h.distinct
      · rw [hprogram, Core.foldl_withMappedEvent_sources]
        intro other hother
        rcases Table.mem_modifyFirst hother with hmem | ⟨found, hfound, rfl⟩
        · rcases Table.mem_modifyFirst hmem with hold | ⟨first, hfirst, rfl⟩
          · exact h.devoted.rows other hold
          · exact h.devoted.rows first (List.mem_of_find?_eq_some hfirst)
        · rcases Table.mem_modifyFirst (List.mem_of_find?_eq_some hfound) with
            hold | ⟨first, hfirst, rfl⟩
          · exact h.devoted.rows found hold
          · exact h.devoted.rows first (List.mem_of_find?_eq_some hfirst)
      · rw [hprogram, hjournal]
        intro stamp input subscription events messages hmem
        rcases List.mem_append.mp hmem with hold | hnew
        · exact h.devoted.emitted _ _ _ _ _ hold
        · have hlast : Observation.emitted stamp input subscription events messages =
              .emitted source.stamp event.cause source.subscription outer mapped := by
            simpa using hnew
          cases hlast
          exact hown
      · rw [hprogram]
        exact h.retains
      · rw [hprogram]
        exact hloyal.active
      · rw [hprogram, hjournal]
        intro id desired hmem
        rcases List.mem_append.mp hmem with hold | hnew
        · exact hloyal.projected id desired hold
        · simp at hnew
  | messageDelivered work message kernel kernel' command _ _ _ hkernel htransition =>
      exact ((hpopped work message).withComponent (hfound hkernel)
        (ErasedComponentKernel.transitionErased_ok htransition).1
        (ErasedComponentKernel.transitionErased_subscriptions htransition)).of_eq rfl rfl rfl rfl
  | deliveryFaulted work message => exact (hpopped work message).of_eq rfl rfl rfl rfl
  | deliveryMismatched work message kernel _ _ _ hkernel _ =>
      exact (hpopped work message).withComponent (hfound hkernel) rfl rfl
  | _ =>
      exact h.of_eq (by simp) (by simp) (by simp [Observation.isMapping])
        (by simp [Observation.isProjection])

end Pledge

/-! ## Runs -/

theorem settles_pledged : Settles Devoted Pledged where
  always h := h.devoted
  perm h hperm := h.perm hperm
  action h haction hphase := h.action haction hphase
  initialized _ h := h.of_eq rfl rfl rfl rfl
  passed _ h := h.of_eq rfl rfl rfl rfl
  projected h hkernel hreconcile := h.projected hkernel hreconcile
  duplicated _ h _ := h.devoted.of_eq rfl rfl (by simp [Observation.isMapping])
  changed cause h hadmits := h.changed cause hadmits
  taken h hkernel := h.withComponent hkernel rfl rfl
  stored _ _ _ h := h.of_eq rfl rfl rfl

/-- A step on which a runtime faults installs no Source and invokes no mapper. -/
theorem Devoted.faulting {core core' : Core} {phase : Phase} (h : Devoted core)
    (hok : core.fault = none) (haction : Action core phase core') (hfault : core'.fault ≠ none) :
    Devoted core' := by
  cases haction with
  | duplicateFaulted => exact h.of_eq rfl rfl rfl
  | startFaulted => exact h.of_eq rfl rfl rfl
  | replaceFaulted component cause subscription descriptorType reason =>
      refine ⟨fun source hsource => ?_, h.emitted⟩
      exact h.rows source (List.mem_of_mem_eraseP hsource)
  | declarationFaulted => exact h.of_eq rfl rfl (by simp [Observation.isMapping])
  | replyMistyped => exact h.of_eq rfl rfl (by simp [Observation.isMapping])
  | deliveryFaulted => exact h.of_eq (by simp) (by simp) (by simp [Observation.isMapping])
  | sourceEventMapped =>
      refine absurd ?_ hfault
      simpa [Core.withPlan, Core.withRunning] using hok
  | _ =>
      refine absurd ?_ hfault
      simpa using hok

theorem pledged_fresh {builder : ProgramBuilder} (hassembled : builder.Assembled)
    (hbuild : builder.build = .ok builder.blueprint) (bindings : Bindings) :
    Pledged (Core.fresh builder.blueprint bindings) [] := by
  have hcomponents := (ProgramBuilder.build_eq_ok.mp hbuild).1
  refine ⟨(ProgramBuilder.checkComponents_eq_ok.mp hcomponents).1, ⟨?_, ?_⟩, ?_,
    fun _ => ⟨?_, ?_⟩⟩
  · exact fun _ hsource => absurd hsource List.not_mem_nil
  · exact fun _ _ _ _ _ hmem => absurd hmem List.not_mem_nil
  · exact fun _ _ hmem => absurd hmem List.not_mem_nil
  · intro kernel hkernel entry hentry
    have hnone := activeIds_of_assembled hassembled kernel hkernel
    rw [List.map_eq_nil_iff.mp hnone] at hentry
    cases hentry
  · exact fun _ _ hmem => absurd hmem List.not_mem_nil

/-- In every run all Sources are the Program's own, and so is whatever was
    desired, unless the run has faulted. -/
theorem devoted_of_reachable {start core : Core} (hstart : Launched start)
    (h : Reachable start core) : Devoted core ∧ (core.fault = none → Loyal core) := by
  obtain ⟨builder, bindings, _, _, _, hlaunched⟩ := settles_pledged.launched hstart
    fun _ bindings hassembled hbuild => pledged_fresh hassembled hbuild bindings
  obtain ⟨hpath, hsettled⟩ := settles_pledged.reachable h hlaunched
  refine ⟨?_, fun hok => (hsettled hok).not_condemned⟩
  by_cases hok : core.fault = none
  · exact (hsettled hok).devoted
  · -- The last step of the run is the one it faulted on.
    rcases ReflTransGen.cases_tail hpath with heq | ⟨last, _, hmove, hdevoted⟩
    · rw [heq] at hok
      exact absurd rfl hok
    · obtain ⟨hlast, ⟨phase, haction⟩ | hpassage⟩ := hmove
      · exact hdevoted.faulting hlast haction hok
      · cases hpassage
        exact absurd hlast hok

end Controlled

end Samara
