/-
  Samara.Controlled.Mirror

  The table of active Sources mirrors what the Components desired at their last
  projections.  While the changes of a reconciliation are applied, the
  difference is made up by the changes still to come.
-/
import Samara.Controlled.Cutover
import Samara.Controlled.Pledge

namespace Samara

open Relation (ReflTransGen)

variable [RustTypes]

/-- The plan `plan'` is left by an event that went through `plan`. -/
def SourcePlan.Maps (plan plan' : SourcePlan) : Prop :=
  ∃ event outer, (mapEvent event).run plan = .ok outer plan'

/-- The Subscription that a change puts in place. -/
def ErasedSubscriptionChange.installs : ErasedSubscriptionChange → Option ErasedRuntimeSubscription
  | .start subscription | .retain subscription | .replace subscription => some subscription
  | .cancel _ => none

namespace Controlled

/-! ## Last projections -/

/-- The projection of `id` that an observation records. -/
def Observation.projectionOf (id : ComponentId) : Observation → Option ErasedProjection
  | .projected component desired => if component = id then some desired else none
  | _ => none

/-- What `id` desired at its last projection. -/
def Core.latest (core : Core) (id : ComponentId) : Option ErasedProjection :=
  (core.journal.filterMap (Observation.projectionOf id)).getLast?

section Latest

variable {core core' : Core} {id : ComponentId}

theorem filterMap_projectionOf (id : ComponentId) (journal : List Observation) :
    journal.filterMap (Observation.projectionOf id) =
      (journal.filter (·.isProjection)).filterMap (Observation.projectionOf id) := by
  induction journal with
  | nil => rfl
  | cons observation journal ih =>
      cases observation with
      | projected component desired =>
          show List.filterMap _ (_ :: journal) = List.filterMap _ (_ :: journal.filter _)
          rw [List.filterMap_cons, List.filterMap_cons, ih]
      | _ => exact ih

/-- Only projections count. -/
theorem latest_of_filter
    (h : core'.journal.filter (·.isProjection) = core.journal.filter (·.isProjection))
    (id : ComponentId) : core'.latest id = core.latest id := by
  unfold Core.latest
  rw [filterMap_projectionOf, h, ← filterMap_projectionOf]

theorem latest_projected (core : Core) (id : ComponentId) (desired : ErasedProjection) :
    (core.observed (.projected id desired)).latest id = some desired := by
  unfold Core.latest
  rw [Core.observed_journal, List.filterMap_append]
  simp [Observation.projectionOf]

theorem latest_projected_of_ne (core : Core) {other : ComponentId} (desired : ErasedProjection)
    (hne : other ≠ id) : (core.observed (.projected other desired)).latest id = core.latest id := by
  unfold Core.latest
  rw [Core.observed_journal, List.filterMap_append]
  simp [Observation.projectionOf, hne]

end Latest

/-- `component` desired `subscription` at its last projection. -/
def Core.Wanted (core : Core) (component : ComponentId)
    (subscription : ErasedRuntimeSubscription) : Prop :=
  ∃ desired, core.latest component = some desired ∧
    ∃ wanted ∈ desired.subscriptions, subscription = ⟨desired.messageType, wanted⟩

/-! ## The mirror -/

/-- Where the plan of a row comes from: a Subscription realized under the stamp
    of the row, which what is installed now still describes. -/
def Core.Lowered (core : Core) (source : ActiveSource) : Prop :=
  ∃ origin, .activated source.stamp origin ∈ core.journal ∧
    ReflTransGen SourcePlan.Maps origin.sourcePlan source.plan ∧
      origin.descriptorSnapshot.Equals source.subscription.descriptorSnapshot

theorem Core.Lowered.mono {core core' : Core} {source : ActiveSource} (h : core.Lowered source)
    (hjournal : core.journal ⊆ core'.journal) : core'.Lowered source := by
  obtain ⟨origin, hactivated, hrest⟩ := h
  exact ⟨origin, hjournal hactivated, hrest⟩

/-- What a kernel has as active is what its Component desired last. -/
structure Reflects (core : Core) (kernel : ErasedComponentKernel) : Prop where
  idle : core.latest kernel.id = none → kernel.activeIds = []
  ids : ∀ desired, core.latest kernel.id = some desired → ∀ id, id ∈ kernel.activeIds ↔
    id ∈ desired.subscriptions.map (·.id)
  describes : ∀ desired, core.latest kernel.id = some desired →
    ∀ subscription ∈ desired.subscriptions,
      kernel.kernel.subscriptions.Describes subscription

/-- The table of Sources mirrors the last projections, when the changes
    `pending` are still to be applied. -/
structure Mirrored (core : Core) (pending : Pending) : Prop where
  rows : Rows core pending
  reflects : ∀ kernel ∈ core.program.components, Reflects core kernel
  /-- What is active has a row, or is about to be started. -/
  complete : ∀ kernel ∈ core.program.components, ∀ id ∈ kernel.activeIds,
    (kernel.id, id) ∈ core.keys ∨
      ∃ subscription, (kernel.id, .start subscription) ∈ pending ∧ subscription.id = id
  cancels : ∀ kernel ∈ core.program.components, ∀ id, (kernel.id, .cancel id) ∈ pending →
    id ∉ kernel.activeIds
  named : ∀ source ∈ core.sources, source.subscription.id = source.stamp.subscription
  lowered : ∀ source ∈ core.sources, core.Lowered source
  /-- A row that no change is for holds what was desired last. -/
  current : ∀ source ∈ core.sources, (∀ change, (source.stamp.component, change) ∈ pending →
    change.id ≠ source.stamp.subscription) →
      core.Wanted source.stamp.component source.subscription
  wanted : ∀ component change, (component, change) ∈ pending → ∀ subscription,
    change.installs = some subscription → core.Wanted component subscription
  retains : ∀ component subscription, (component, .retain subscription) ∈ pending →
    ∀ source ∈ core.sources, source.key = (component, subscription.id) →
      source.subscription.descriptorSnapshot.Equals subscription.descriptorSnapshot

namespace Mirrored

variable {core core' : Core} {pending pending' : Pending}

theorem perm (h : Mirrored core pending) (hperm : pending.Perm pending') :
    Mirrored core pending' where
  rows := h.rows.perm hperm
  reflects := h.reflects
  complete kernel hkernel id hid := by
    refine (h.complete kernel hkernel id hid).imp_right ?_
    rintro ⟨subscription, hmem, heq⟩
    exact ⟨subscription, hperm.mem_iff.mp hmem, heq⟩
  cancels kernel hkernel id hmem := h.cancels kernel hkernel id (hperm.mem_iff.mpr hmem)
  named := h.named
  lowered := h.lowered
  current source hsource hnone :=
    h.current source hsource fun change hmem => hnone change (hperm.mem_iff.mp hmem)
  wanted component change hmem := h.wanted component change (hperm.mem_iff.mpr hmem)
  retains component subscription hmem :=
    h.retains component subscription (hperm.mem_iff.mpr hmem)

theorem wanted_of_latest (hlatest : ∀ id, core'.latest id = core.latest id)
    {component : ComponentId} {subscription : ErasedRuntimeSubscription}
    (h : core.Wanted component subscription) : core'.Wanted component subscription := by
  obtain ⟨desired, hdesired, hrest⟩ := h
  exact ⟨desired, (hlatest component).trans hdesired, hrest⟩

theorem reflects_of_latest (hlatest : ∀ id, core'.latest id = core.latest id)
    {kernel : ErasedComponentKernel} (h : Reflects core kernel) : Reflects core' kernel := by
  constructor
  · rw [hlatest]
    exact h.idle
  · rw [hlatest]
    exact h.ids
  · rw [hlatest]
    exact h.describes

/-- A step that at most takes plans further. -/
theorem of_rows (h : Mirrored core pending) (hprogram : core'.program = core.program)
    (hkeys : core'.keys = core.keys)
    (hrows : ∀ source ∈ core'.sources, ∃ old ∈ core.sources, old.stamp = source.stamp ∧
      old.subscription = source.subscription ∧ ReflTransGen SourcePlan.Maps old.plan source.plan)
    (hprojections : core'.journal.filter (·.isProjection) = core.journal.filter (·.isProjection))
    (hjournal : core.journal ⊆ core'.journal) : Mirrored core' pending := by
  have hlatest := latest_of_filter hprojections
  refine ⟨h.rows.of_eq hkeys hprogram, ?_, ?_, ?_, ?_, ?_, ?_, ?_, ?_⟩
  · rw [hprogram]
    exact fun kernel hkernel => reflects_of_latest hlatest (h.reflects kernel hkernel)
  · rw [hprogram, hkeys]
    exact h.complete
  · rw [hprogram]
    exact h.cancels
  · intro source hsource
    obtain ⟨old, hold, hstamp, hsubscription, _⟩ := hrows source hsource
    rw [← hstamp, ← hsubscription]
    exact h.named old hold
  · intro source hsource
    obtain ⟨old, hold, hstamp, hsubscription, hmaps⟩ := hrows source hsource
    obtain ⟨origin, hactivated, horigin, hsame⟩ := h.lowered old hold
    exact ⟨origin, hjournal (hstamp ▸ hactivated), horigin.trans hmaps, hsubscription ▸ hsame⟩
  · intro source hsource hnone
    obtain ⟨old, hold, hstamp, hsubscription, _⟩ := hrows source hsource
    rw [← hstamp] at hnone ⊢
    rw [← hsubscription]
    exact wanted_of_latest hlatest (h.current old hold hnone)
  · exact fun component change hmem subscription hinstalls =>
      wanted_of_latest hlatest (h.wanted component change hmem subscription hinstalls)
  · intro component subscription hmem source hsource hkey
    obtain ⟨old, hold, hstamp, hsubscription, _⟩ := hrows source hsource
    rw [← hsubscription]
    refine h.retains component subscription hmem old hold ?_
    rw [← hkey]
    exact congrArg (fun stamp : SourceStamp => (stamp.component, stamp.subscription)) hstamp

/-- A step that leaves Sources, Components and projections alone. -/
theorem of_eq (h : Mirrored core pending) (hprogram : core'.program = core.program)
    (hsources : core'.sources = core.sources)
    (hprojections : core'.journal.filter (·.isProjection) = core.journal.filter (·.isProjection))
    (hjournal : core.journal ⊆ core'.journal) : Mirrored core' pending := by
  refine h.of_rows hprogram (congrArg (List.map ActiveSource.key) hsources) ?_ hprojections hjournal
  intro source hsource
  rw [hsources] at hsource
  exact ⟨source, hsource, rfl, rfl, .refl⟩

/-- A kernel is stored that has the same Subscriptions active. -/
theorem withComponent (h : Mirrored core pending) {id : ComponentId} {messageType : TypeId}
    {kernel kernel' : ErasedComponentKernel}
    (hkernel : core.program.component? id messageType = some kernel) (hid : kernel'.id = kernel.id)
    (hactive : kernel'.kernel.subscriptions = kernel.kernel.subscriptions) :
    Mirrored (core.withComponent id messageType kernel') pending := by
  have hactiveIds : kernel'.activeIds = kernel.activeIds := by
    unfold ErasedComponentKernel.activeIds
    rw [hactive]
  have hold {other : ErasedComponentKernel}
      (hother : other ∈ (core.withComponent id messageType kernel').program.components) :
      ∃ known ∈ core.program.components, other.id = known.id ∧
        other.kernel.subscriptions = known.kernel.subscriptions := by
    rcases Program.mem_setComponent h.rows.distinct hkernel hother with rfl | ⟨hother, _⟩
    · exact ⟨kernel, List.mem_of_find?_eq_some hkernel, hid, hactive⟩
    · exact ⟨other, hother, rfl, rfl⟩
  have hids {other known : ErasedComponentKernel}
      (heq : other.kernel.subscriptions = known.kernel.subscriptions) :
      other.activeIds = known.activeIds := by
    unfold ErasedComponentKernel.activeIds
    rw [heq]
  refine ⟨h.rows.withComponent hkernel hid hactiveIds, ?_, ?_, ?_, h.named, h.lowered, h.current,
    h.wanted, h.retains⟩
  · intro other hother
    obtain ⟨known, hknown, hid', heq⟩ := hold hother
    have hreflects := h.reflects known hknown
    constructor
    · rw [hid', hids heq]
      exact hreflects.idle
    · rw [hid', hids heq]
      exact hreflects.ids
    · rw [hid', heq]
      exact hreflects.describes
  · intro other hother
    obtain ⟨known, hknown, hid', heq⟩ := hold hother
    rw [hid', hids heq]
    exact h.complete known hknown
  · intro other hother
    obtain ⟨known, hknown, hid', heq⟩ := hold hother
    rw [hid', hids heq]
    exact h.cancels known hknown

/-- Two Subscriptions that describe what is active under one identity describe
    each other. -/
theorem equals_of_describes (hlawful : LawfulDescriptors) {reconciler : SubscriptionReconciler}
    (hdistinct : reconciler.ids.Nodup) {message message' : TypeId}
    {first : Subscription message} {second : Subscription message'} (hid : first.id = second.id)
    (hfirst : reconciler.Describes first) (hsecond : reconciler.Describes second) :
    first.descriptorSnapshot.Equals second.descriptorSnapshot := by
  have hequals := SourceDescriptorSnapshot.equals_equivalence hlawful
  obtain ⟨entry, hentry, hentryId, hfirst⟩ := hfirst
  obtain ⟨other, hother, hotherId, hsecond⟩ := hsecond
  have hsame : entry = other := List.inj_on_of_nodup_map hdistinct hentry hother
    (hentryId.trans (hid.trans hotherId.symm))
  subst hsame
  exact hequals.trans hfirst (hequals.symm hsecond)

/-- A reconciliation that was not refused leaves its changes to be applied. -/
theorem projected (hlawful : LawfulDescriptors) (h : Mirrored core []) {id : ComponentId}
    {messageType : TypeId} {kernel : ErasedComponentKernel}
    {desired : List (Subscription (RustTypes.componentMessage kernel.componentType))}
    {changes : List (SubscriptionChange (RustTypes.componentMessage kernel.componentType))}
    {reconciler : SubscriptionReconciler}
    (hkernel : core.program.component? id messageType = some kernel)
    (hreconcile : kernel.kernel.subscriptions.reconcile desired = .ok (changes, reconciler)) :
    Mirrored ((core.withComponent id messageType
      { kernel with kernel := { kernel.kernel with subscriptions := reconciler } }).observed
        (.projected id ⟨_, desired⟩))
      ((changes.map eraseSubscriptionChange).map (id, ·)) := by
  have hmem := List.mem_of_find?_eq_some hkernel
  have hid := (Program.component?_eq_some hkernel).1
  have hdistinct := h.rows.active kernel hmem
  have hsummary := SubscriptionReconciler.reconcile_summary hlawful hdistinct hreconcile
  let kernel' : ErasedComponentKernel :=
    { kernel with kernel := { kernel.kernel with subscriptions := reconciler } }
  have hlatest := latest_projected (core.withComponent id messageType kernel') id ⟨_, desired⟩
  have hothers {other : ComponentId} (hne : other ≠ id) :
      ((core.withComponent id messageType kernel').observed (.projected id ⟨_, desired⟩)).latest
        other = core.latest other :=
    latest_projected_of_ne (core.withComponent id messageType kernel') _ (Ne.symm hne)
  -- The changes to come are the verdicts about what is desired, and the cancellations.
  have hverdict {subscription : Subscription (RustTypes.componentMessage kernel.componentType)}
      (hdesired : subscription ∈ desired) :
      (id, eraseSubscriptionChange (SubscriptionReconciler.verdict
        kernel.kernel.subscriptions.active subscription)) ∈
          (changes.map eraseSubscriptionChange).map (id, ·) := by
    refine List.mem_map_of_mem (List.mem_map_of_mem ?_)
    rw [hsummary.changes]
    exact List.mem_append_left _ (List.mem_map_of_mem hdesired)
  have hcancel {subscription : SubscriptionId} (hactive : subscription ∈ kernel.activeIds)
      (hundesired : subscription ∉ desired.map (·.id)) :
      (id, .cancel subscription) ∈ (changes.map eraseSubscriptionChange).map (id, ·) := by
    refine List.mem_map_of_mem (List.mem_map.mpr ⟨.cancel subscription, ?_, rfl⟩)
    rw [hsummary.changes]
    refine List.mem_append_right _ (List.mem_map_of_mem (List.mem_filter.mpr ⟨hactive, ?_⟩))
    exact decide_eq_true hundesired
  have hpending {component : ComponentId} {change : ErasedSubscriptionChange}
      (hchange : (component, change) ∈ (changes.map eraseSubscriptionChange).map (id, ·)) :
      component = id ∧ ((∃ subscription ∈ desired, change = eraseSubscriptionChange
        (SubscriptionReconciler.verdict kernel.kernel.subscriptions.active subscription)) ∨
          ∃ subscription, subscription ∉ desired.map (·.id) ∧ change = .cancel subscription) := by
    obtain ⟨erased, herased, heq⟩ := List.mem_map.mp hchange
    obtain ⟨original, horiginal, rfl⟩ := List.mem_map.mp herased
    cases heq
    rw [hsummary.changes] at horiginal
    refine ⟨rfl, (List.mem_append.mp horiginal).imp ?_ ?_⟩
    · intro hdecided
      obtain ⟨subscription, hdesired, rfl⟩ := List.mem_map.mp hdecided
      exact ⟨subscription, hdesired, rfl⟩
    · intro hcancelled
      obtain ⟨subscription, hundesired, rfl⟩ := List.mem_map.mp hcancelled
      exact ⟨subscription, of_decide_eq_true (List.mem_filter.mp hundesired).2, rfl⟩
  refine ⟨h.rows.projected hkernel hreconcile, ?_, ?_, ?_, h.named, ?_, ?_, ?_, ?_⟩
  · intro other hother
    rcases Program.mem_setComponent h.rows.distinct hkernel hother with rfl | ⟨hother, hne⟩
    · have hlatest' : ((core.withComponent id messageType kernel').observed
          (.projected id ⟨_, desired⟩)).latest kernel.id = some ⟨_, desired⟩ := by
        rw [hid]
        exact hlatest
      constructor
      · intro hnone
        cases hlatest'.symm.trans hnone
      · intro last hlast
        cases hlatest'.symm.trans hlast
        exact hsummary.ids
      · intro last hlast
        cases hlatest'.symm.trans hlast
        exact hsummary.describes
    · have hreflects := h.reflects other hother
      constructor
      · rw [hothers hne]
        exact hreflects.idle
      · rw [hothers hne]
        exact hreflects.ids
      · rw [hothers hne]
        exact hreflects.describes
  · intro other hother subscription hactive
    rcases Program.mem_setComponent h.rows.distinct hkernel hother with rfl | ⟨hother, _⟩
    · obtain ⟨wanted, hwanted, rfl⟩ := List.mem_map.mp ((hsummary.ids subscription).mp hactive)
      have hrow (hold : wanted.id ∈ kernel.activeIds) : (kernel.id, wanted.id) ∈ core.keys := by
        rcases h.complete kernel hmem wanted.id hold with hkey | ⟨_, hnone, _⟩
        · exact hkey
        · cases hnone
      rcases SubscriptionReconciler.verdict_cases hdistinct wanted with
        ⟨hstart, _⟩ | ⟨_, hold, _⟩ | ⟨_, hold, _⟩
      · have hchange := hverdict hwanted
        rw [hstart] at hchange
        exact Or.inr ⟨⟨_, wanted⟩, hid ▸ hchange, rfl⟩
      · exact Or.inl (hrow hold)
      · exact Or.inl (hrow hold)
    · rcases h.complete other hother subscription hactive with hkey | ⟨_, hnone, _⟩
      · exact Or.inl hkey
      · cases hnone
  · intro other hother subscription hchange hactive
    obtain ⟨hsame, ⟨wanted, _, heq⟩ | ⟨cancelled, hundesired, heq⟩⟩ := hpending hchange
    · rcases SubscriptionReconciler.verdict_cases hdistinct wanted with
        ⟨hcase, _⟩ | ⟨hcase, _⟩ | ⟨hcase, _⟩
      · rw [hcase] at heq
        cases heq
      · rw [hcase] at heq
        cases heq
      · rw [hcase] at heq
        cases heq
    · cases heq
      rcases Program.mem_setComponent h.rows.distinct hkernel hother with rfl | ⟨_, hne⟩
      · exact hundesired ((hsummary.ids subscription).mp hactive)
      · exact hne hsame
  · intro source hsource
    exact (h.lowered source hsource).mono (List.subset_append_left _ _)
  · intro source hsource hnone
    by_cases hcomponent : source.stamp.component = id
    · exfalso
      have hkey : (kernel.id, source.stamp.subscription) ∈ core.keys := by
        rw [hid, ← hcomponent]
        exact List.mem_map_of_mem hsource
      have hactive : source.stamp.subscription ∈ kernel.activeIds := by
        rcases h.rows.covered kernel hmem _ hkey with hactive | hcancelled
        · exact hactive
        · cases hcancelled
      rw [hcomponent] at hnone
      by_cases hdesired : source.stamp.subscription ∈ desired.map (·.id)
      · obtain ⟨wanted, hwanted, heq⟩ := List.mem_map.mp hdesired
        refine hnone _ (hverdict hwanted) ?_
        rw [id_eraseSubscriptionChange, SubscriptionReconciler.id_verdict hdistinct]
        exact heq
      · exact hnone _ (hcancel hactive hdesired) rfl
    · obtain ⟨last, hlast, hrest⟩ := h.current source hsource (by simp)
      exact ⟨last, (hothers hcomponent).trans hlast, hrest⟩
  · intro component change hchange subscription hinstalls
    obtain ⟨rfl, ⟨wanted, hwanted, rfl⟩ | ⟨cancelled, _, rfl⟩⟩ := hpending hchange
    · refine ⟨_, hlatest, wanted, hwanted, ?_⟩
      rcases SubscriptionReconciler.verdict_cases hdistinct wanted with
        ⟨hcase, _⟩ | ⟨hcase, _⟩ | ⟨hcase, _⟩
      · rw [hcase] at hinstalls
        exact (Option.some.inj hinstalls).symm
      · rw [hcase] at hinstalls
        exact (Option.some.inj hinstalls).symm
      · rw [hcase] at hinstalls
        exact (Option.some.inj hinstalls).symm
    · cases hinstalls
  · intro component subscription hchange source hsource hkey
    obtain ⟨rfl, ⟨wanted, hwanted, heq⟩ | ⟨cancelled, _, heq⟩⟩ := hpending hchange
    · rcases SubscriptionReconciler.verdict_cases hdistinct wanted with
        ⟨hcase, _⟩ | ⟨hcase, _, hdescribes⟩ | ⟨hcase, _⟩
      · rw [hcase] at heq
        cases heq
      · rw [hcase] at heq
        cases heq
        -- what the row holds describes what is active, and so does what is retained
        obtain ⟨hcomponent, hsubscription⟩ := Prod.mk.inj hkey
        obtain ⟨last, hlast, old, hold, hinstalled⟩ := h.current source hsource (by simp)
        have hknown := (h.reflects kernel hmem).describes last
          (by rw [hid, ← hcomponent]; exact hlast) old hold
        have hname := h.named source hsource
        rw [hinstalled] at hname ⊢
        exact equals_of_describes hlawful hdistinct (hname.trans hsubscription) hknown hdescribes
      · rw [hcase] at heq
        cases heq
    · cases heq

end Mirrored

/-! ## One change -/

section Changed

variable {core : Core} {component : ComponentId} {change : ErasedSubscriptionChange}
  {source : ActiveSource}

/-- A row that `subscription` was installed in. -/
structure Core.Placed (core core' : Core) (component : ComponentId)
    (change : ErasedSubscriptionChange) (subscription : ErasedRuntimeSubscription)
    (source : ActiveSource) : Prop where
  installs : change.installs = some subscription
  installed : source.subscription = subscription
  key : source.key = (component, subscription.id)
  /-- The row is new, or it is retained. -/
  origin : (source.plan = subscription.sourcePlan ∧
      .activated source.stamp subscription ∈ core'.journal) ∨
    (change = .retain subscription ∧
      ∃ old ∈ core.sources, old.stamp = source.stamp ∧ old.plan = source.plan)

theorem mem_sources_changed (hkeyed : core.keys.Nodup) (cause : TraceId)
    (hfresh : ∀ subscription, change = .start subscription →
      (component, subscription.id) ∉ core.keys)
    (hsource : source ∈ (core.changed component cause change).sources) :
    (source ∈ core.sources ∧ source.key ≠ (component, change.id)) ∨
      ∃ subscription, core.Placed (core.changed component cause change) component change
        subscription source := by
  unfold Core.keys at hkeyed
  cases change with
  | start subscription =>
      rcases List.mem_append.mp hsource with hold | hnew
      · refine Or.inl ⟨hold, fun hkey => hfresh subscription rfl ?_⟩
        exact hkey ▸ List.mem_map_of_mem hold
      · rw [List.mem_singleton.mp hnew]
        refine Or.inr ⟨subscription, rfl, rfl, rfl, Or.inl ⟨rfl, ?_⟩⟩
        exact List.mem_append_right _ List.mem_cons_self
  | retain subscription =>
      have hrows : (core.changed component cause (.retain subscription)).sources =
          core.sources.map fun row => if decide (row.key = (component, subscription.id)) then
            { row with subscription } else row := by
        show Table.modifyFirst (ActiveSource.isOf component subscription.id) _ core.sources = _
        rw [isOf_eq]
        exact Table.modifyFirst_eq_map hkeyed (component, subscription.id)
          (fun row hrow => of_decide_eq_true hrow) _
      rw [hrows] at hsource
      obtain ⟨row, hrow, rfl⟩ := List.mem_map.mp hsource
      by_cases hkey : row.key = (component, subscription.id)
      · rw [if_pos (decide_eq_true hkey)]
        exact Or.inr ⟨subscription, rfl, rfl, hkey, Or.inr ⟨rfl, row, hrow, rfl, rfl⟩⟩
      · rw [if_neg (by simpa using hkey)]
        exact Or.inl ⟨hrow, hkey⟩
  | replace subscription =>
      rcases List.mem_append.mp hsource with hold | hnew
      · have hkept : source ∈ core.sources.eraseP
            (ActiveSource.isOf component subscription.id) := hold
        rw [isOf_eq, Table.eraseP_eq_filter hkeyed] at hkept
        obtain ⟨hmem, hne⟩ := List.mem_filter.mp hkept
        exact Or.inl ⟨hmem, of_decide_eq_true hne⟩
      · rw [List.mem_singleton.mp hnew]
        refine Or.inr ⟨subscription, rfl, rfl, rfl, Or.inl ⟨rfl, ?_⟩⟩
        exact List.mem_append_right _ List.mem_cons_self
  | cancel id =>
      have hkept : source ∈ core.sources.eraseP (ActiveSource.isOf component id) := hsource
      rw [isOf_eq, Table.eraseP_eq_filter hkeyed] at hkept
      obtain ⟨hmem, hne⟩ := List.mem_filter.mp hkept
      exact Or.inl ⟨hmem, of_decide_eq_true hne⟩

/-- A change removes no key but one it cancels, and adds the one it starts. -/
theorem mem_keys_of_changed (hkeyed : core.keys.Nodup) (cause : TraceId)
    {key : ComponentId × SubscriptionId}
    (hkey : (key ∈ core.keys ∧ ∀ id, change = .cancel id → key ≠ (component, id)) ∨
      ∃ subscription, change = .start subscription ∧ key = (component, subscription.id)) :
    key ∈ (core.changed component cause change).keys := by
  cases change with
  | start subscription =>
      unfold Core.changed
      rw [keys_withActivation]
      rcases hkey with ⟨hold, _⟩ | ⟨_, ⟨⟩, rfl⟩
      · exact List.mem_append_left _ hold
      · exact List.mem_append_right _ List.mem_cons_self
  | retain subscription =>
      rw [Rows.keys_retain]
      rcases hkey with ⟨hold, _⟩ | ⟨_, ⟨⟩, _⟩
      exact hold
  | replace subscription =>
      unfold Core.changed
      rw [keys_withActivation]
      rcases hkey with ⟨hold, _⟩ | ⟨_, ⟨⟩, _⟩
      by_cases hsame : key = (component, subscription.id)
      · rw [hsame]
        exact List.mem_append_right _ List.mem_cons_self
      · refine List.mem_append_left _ ?_
        exact (@mem_keys_withoutSource _ (core.traced (some cause) _) _ _ hkeyed key).mpr
          ⟨hold, hsame⟩
  | cancel id =>
      rcases hkey with ⟨hold, hkept⟩ | ⟨_, ⟨⟩, _⟩
      exact (@mem_keys_withoutSource _ (core.traced (some cause) _) _ _ hkeyed key).mpr
        ⟨hold, hkept id rfl⟩

theorem changed_journal (cause : TraceId) :
    (core.changed component cause change).journal = core.journal ∨
      ∃ stamp subscription, (core.changed component cause change).journal =
        core.journal ++ [.activated stamp subscription] := by
  cases change with
  | start subscription => exact Or.inr ⟨_, _, rfl⟩
  | retain subscription => exact Or.inl rfl
  | replace subscription => exact Or.inr ⟨_, _, rfl⟩
  | cancel id => exact Or.inl rfl

end Changed

namespace Mirrored

variable {core core' : Core} {pending : Pending} {component : ComponentId}
  {change : ErasedSubscriptionChange}

/-- One change has been applied. -/
theorem changed (hlawful : LawfulDescriptors) (cause : TraceId)
    (h : Mirrored core ((component, change) :: pending)) :
    Mirrored (core.changed component cause change) pending := by
  have hequals := SourceDescriptorSnapshot.equals_equivalence hlawful
  have hprogram : (core.changed component cause change).program = core.program :=
    Rows.changed_program cause
  have hsubset : core.journal ⊆ (core.changed component cause change).journal := by
    rcases @changed_journal _ core component change cause with heq | ⟨_, _, heq⟩
    · rw [heq]
      exact List.Subset.refl _
    · rw [heq]
      exact List.subset_append_left _ _
  have hlatest : ∀ id, (core.changed component cause change).latest id = core.latest id := by
    refine latest_of_filter ?_
    rcases @changed_journal _ core component change cause with heq | ⟨_, _, heq⟩
    · rw [heq]
    · rw [heq, List.filter_append]
      simp [Observation.isProjection]
  have hsources {source : ActiveSource}
      (hsource : source ∈ (core.changed component cause change).sources) :=
    mem_sources_changed h.rows.keyed cause
      (fun subscription heq => h.rows.fresh component subscription (heq ▸ List.mem_cons_self))
      hsource
  have honce := h.rows.once
  rw [List.map_cons, List.nodup_cons] at honce
  have hother {other : ErasedSubscriptionChange} (hmem : (component, other) ∈ pending) :
      other.id ≠ change.id := by
    intro heq
    exact honce.1 (List.mem_map.mpr ⟨_, hmem, congrArg (Prod.mk component) heq⟩)
  refine ⟨h.rows.changed cause, ?_, ?_, ?_, ?_, ?_, ?_, ?_, ?_⟩
  · rw [hprogram]
    exact fun kernel hkernel => reflects_of_latest hlatest (h.reflects kernel hkernel)
  · rw [hprogram]
    intro kernel hkernel id hactive
    rcases h.complete kernel hkernel id hactive with hkey | ⟨subscription, hstart, rfl⟩
    · refine Or.inl (mem_keys_of_changed h.rows.keyed cause (Or.inl ⟨hkey, ?_⟩))
      rintro cancelled rfl heq
      obtain ⟨rfl, rfl⟩ := Prod.mk.inj heq
      exact h.cancels kernel hkernel id List.mem_cons_self hactive
    · rcases List.mem_cons.mp hstart with heq | hrest
      · obtain ⟨hcomponent, hchange⟩ := Prod.mk.inj heq
        refine Or.inl (mem_keys_of_changed h.rows.keyed cause (Or.inr ⟨subscription, ?_, ?_⟩))
        · exact hchange.symm
        · rw [hcomponent]
      · exact Or.inr ⟨subscription, hrest, rfl⟩
  · rw [hprogram]
    exact fun kernel hkernel id hmem => h.cancels kernel hkernel id (List.mem_cons_of_mem _ hmem)
  · intro source hsource
    rcases hsources hsource with ⟨hold, _⟩ | ⟨subscription, hplaced⟩
    · exact h.named source hold
    · rw [hplaced.installed]
      exact (Prod.mk.inj hplaced.key).2.symm
  · intro source hsource
    rcases hsources hsource with ⟨hold, _⟩ | ⟨subscription, hplaced⟩
    · exact (h.lowered source hold).mono hsubset
    · rcases hplaced.origin with ⟨hplan, hactivated⟩ | ⟨rfl, old, hold, hstamp, hplan⟩
      · refine ⟨subscription, hactivated, ?_, ?_⟩
        · rw [hplan]
        · rw [hplaced.installed]
          exact hequals.refl _
      · obtain ⟨origin, hactivated, hmaps, hsame⟩ := h.lowered old hold
        have hkey : old.key = (component, subscription.id) := by
          rw [← hplaced.key]
          exact congrArg (fun stamp : SourceStamp => (stamp.component, stamp.subscription)) hstamp
        have hretained := h.retains component subscription List.mem_cons_self old hold hkey
        refine ⟨origin, hsubset (hstamp ▸ hactivated), hplan ▸ hmaps, ?_⟩
        rw [hplaced.installed]
        exact hequals.trans hsame hretained
  · intro source hsource hnone
    rcases hsources hsource with ⟨hold, hkey⟩ | ⟨subscription, hplaced⟩
    · refine wanted_of_latest hlatest (h.current source hold fun other hmem => ?_)
      rcases List.mem_cons.mp hmem with heq | hrest
      · obtain ⟨hcomponent, rfl⟩ := Prod.mk.inj heq
        intro hid
        exact hkey (Prod.ext hcomponent hid.symm)
      · exact hnone other hrest
    · have hwanted := h.wanted component change List.mem_cons_self subscription hplaced.installs
      obtain ⟨hcomponent, _⟩ := Prod.mk.inj hplaced.key
      rw [hplaced.installed, hcomponent]
      exact wanted_of_latest hlatest hwanted
  · intro owner other hmem subscription hinstalls
    exact wanted_of_latest hlatest
      (h.wanted owner other (List.mem_cons_of_mem _ hmem) subscription hinstalls)
  · intro owner subscription hmem source hsource hkey
    rcases hsources hsource with ⟨hold, _⟩ | ⟨installed, hplaced⟩
    · exact h.retains owner subscription (List.mem_cons_of_mem _ hmem) source hold hkey
    · obtain ⟨rfl, hid⟩ := Prod.mk.inj (hplaced.key.symm.trans hkey)
      refine absurd ?_ (hother hmem)
      have hchange : change.id = installed.id := by
        have hinstalls := hplaced.installs
        cases change with
        | cancel id => cases hinstalls
        | start _ =>
            cases hinstalls
            rfl
        | retain _ =>
            cases hinstalls
            rfl
        | replace _ =>
            cases hinstalls
            rfl
      rw [hchange]
      exact hid.symm

/-! ## Steps that desire nothing -/

theorem action {phase : Phase} (h : Mirrored core []) (haction : Action core phase core')
    (hphase : phase ≠ .projection) : Mirrored core' [] := by
  have hpopped (work : ScheduledWork) (message : QueuedMessage) :
      Mirrored ((core.popped work).fired message) [] := by
    refine h.of_eq (Core.fired_program _ message) (Core.fired_sources _ message) ?_ ?_
    · simp [Observation.isProjection]
    · simp
  have hfound {work : ScheduledWork} {message : QueuedMessage} {kernel : ErasedComponentKernel}
      (hkernel : core.program.component? message.target message.targetMessageType = some kernel) :
      ((core.popped work).fired message).program.component? message.target
        message.targetMessageType = some kernel := by
    rw [Core.fired_program]
    exact hkernel
  cases haction with
  | initialized => exact absurd rfl hphase
  | projected => exact absurd rfl hphase
  | duplicated => exact absurd rfl hphase
  | duplicateFaulted => exact absurd rfl hphase
  | commandTaken => exact absurd rfl hphase
  | started => exact absurd rfl hphase
  | retained => exact absurd rfl hphase
  | replaced => exact absurd rfl hphase
  | cancelled => exact absurd rfl hphase
  | startFaulted => exact absurd rfl hphase
  | replaceFaulted => exact absurd rfl hphase
  | sourceEventMapped work event active plan outer mapped _ _ hactive _ hplan _ =>
      obtain ⟨_, hcomponent, hsubscription⟩ := source?_eq_some hactive
      have hsame : core.source? active.stamp.component active.stamp.subscription =
          some active := by
        rw [hcomponent, hsubscription]
        exact hactive
      have hplanned {row : ActiveSource} (hrow : row ∈ ((core.popped work).withPlan active plan
          event.event outer).sources) : ∃ old ∈ core.sources, old.stamp = row.stamp ∧
            old.subscription = row.subscription ∧ ReflTransGen SourcePlan.Maps old.plan row.plan := by
        rcases Table.mem_modifyFirst hrow with hold | ⟨found, hfound, rfl⟩
        · exact ⟨row, hold, rfl, rfl, .refl⟩
        · have heq : found = active := Option.some.inj (hfound.symm.trans hsame)
          subst heq
          exact ⟨found, List.mem_of_find?_eq_some hfound, rfl, rfl, .single ⟨_, _, hplan⟩⟩
      refine h.of_rows (by simp [Core.withPlan, Core.withRunning]) ?_ ?_ ?_ ?_
      · unfold Core.keys
        rw [Core.foldl_withMappedEvent_sources]
        exact (@keys_withSource _ _ _ _ (fun source => { source with running := source.running &&
          !(event.event.isTerminal || outer.any (·.isTerminal)) }) (fun _ => rfl)).trans
            (@keys_withSource _ (core.popped work) _ _ ({ · with plan }) fun _ => rfl)
      · intro source hsource
        rw [Core.foldl_withMappedEvent_sources] at hsource
        rcases Table.mem_modifyFirst hsource with hmem | ⟨found, hfound, rfl⟩
        · exact hplanned hmem
        · exact @hplanned found (List.mem_of_find?_eq_some hfound)
      · simp [Core.withPlan, Core.withRunning, Observation.isProjection]
      · simp [Core.withPlan, Core.withRunning]
  | messageDelivered work message kernel kernel' command _ _ _ hkernel htransition =>
      exact ((hpopped work message).withComponent (hfound hkernel)
        (ErasedComponentKernel.transitionErased_ok htransition).1
        (ErasedComponentKernel.transitionErased_subscriptions htransition)).of_eq rfl rfl rfl
          (List.Subset.refl _)
  | deliveryFaulted work message =>
      exact (hpopped work message).of_eq rfl rfl rfl (List.Subset.refl _)
  | deliveryMismatched work message kernel _ _ _ hkernel _ =>
      exact (hpopped work message).withComponent (hfound hkernel) rfl rfl
  | _ => exact h.of_eq (by simp) (by simp) (by simp [Observation.isProjection]) (by simp)

end Mirrored

/-! ## Runs -/

theorem settles_mirrored (hlawful : LawfulDescriptors) :
    Settles (fun _ => True) Mirrored where
  always _ := trivial
  perm h hperm := h.perm hperm
  action h haction hphase := h.action haction hphase
  initialized _ h := h.of_eq rfl rfl rfl (List.Subset.refl _)
  passed _ h := h.of_eq rfl rfl rfl (List.Subset.refl _)
  projected h hkernel hreconcile := h.projected hlawful hkernel hreconcile
  duplicated _ _ _ := trivial
  changed cause h _ := h.changed hlawful cause
  taken h hkernel := h.withComponent hkernel rfl rfl
  stored _ _ _ _ := trivial

theorem mirrored_fresh {builder : ProgramBuilder} (hassembled : builder.Assembled)
    (hbuild : builder.build = .ok builder.blueprint) (bindings : Bindings) :
    Mirrored (Core.fresh builder.blueprint bindings) [] := by
  have hnone := activeIds_of_assembled hassembled
  refine ⟨rows_fresh hassembled hbuild bindings, ?_, ?_, ?_, ?_, ?_, ?_, ?_, ?_⟩
  · intro kernel hkernel
    refine ⟨fun _ => hnone kernel hkernel, ?_, ?_⟩
    · intro desired hdesired
      cases hdesired
    · intro desired hdesired
      cases hdesired
  · intro kernel hkernel id hactive
    rw [hnone kernel hkernel] at hactive
    cases hactive
  all_goals intro _ hmem
  · intro _ hchange
    cases hchange
  · cases hmem
  · cases hmem
  · cases hmem
  · intro hchange
    cases hchange
  · intro hchange
    cases hchange

/-- Whenever a run has settled, its Sources mirror the last projections. -/
theorem mirrored_of_reachable (hlawful : LawfulDescriptors) {start core : Core}
    (hstart : Launched start) (h : Reachable start core) (hok : core.fault = none) :
    Mirrored core [] := by
  obtain ⟨builder, bindings, _, _, _, hlaunched⟩ := (settles_mirrored hlawful).launched hstart
    fun _ bindings hassembled hbuild => mirrored_fresh hassembled hbuild bindings
  exact ((settles_mirrored hlawful).reachable h hlaunched).2 hok

end Controlled

end Samara
