/-
  Samara.Controlled.Fitting

  The plan of every active Source makes the events that its installed mapper
  takes.  A mapper that `Retain` installs on an old plan is for the same
  descriptor type: the bookkeeping of the Component retains a Subscription only
  where it describes what is booked, and what is booked has the type of the row.
-/
import Samara.Chains
import Samara.Controlled.Mirror
import Samara.Reconciliation

namespace Samara

open Relation (ReflTransGen)

variable [RustTypes]

/-! ## What a reconciliation books -/

namespace SubscriptionReconciler

variable {message : TypeId}

/-- What is booked is a desired Subscription's, of the type of its descriptor. -/
theorem booked_reconcile {reconciler reconciler' : SubscriptionReconciler}
    {desired : List (Subscription message)} {changes : List (SubscriptionChange message)}
    (h : reconciler.reconcile desired = .ok (changes, reconciler')) {id : SubscriptionId}
    {entry : ActiveDescriptor} (hentry : lookup reconciler'.active id = some entry) :
    ∃ subscription ∈ desired, subscription.id = id ∧ entry = placed reconciler.active subscription := by
  obtain ⟨hplaced, hgone⟩ := lookup_reconcile h
  by_cases hdesired : id ∈ desired.map (·.id)
  · obtain ⟨subscription, hmem, rfl⟩ := List.mem_map.mp hdesired
    rw [hplaced subscription hmem] at hentry
    exact ⟨subscription, hmem, rfl, (Option.some.inj hentry).symm⟩
  · rw [hgone id hdesired] at hentry
    cases hentry

end SubscriptionReconciler

/-- Equal descriptors are of one type. -/
theorem SourceDescriptorSnapshot.Equals.type_eq {first second : SourceDescriptorSnapshot}
    (h : first.Equals second) : first.descriptorType = second.descriptorType := by
  cases h
  rfl

theorem SubscriptionReconciler.placed_type {message : TypeId} (active : List ActiveDescriptor)
    (subscription : Subscription message) :
    (placed active subscription).descriptor.descriptorType = subscription.descriptorType := by
  unfold placed
  split
  · rfl
  · split
    · rename_i hsame
      exact (Subscription.hasDescriptor_iff.mp hsame).type_eq.symm
    · rfl

namespace Controlled

open SubscriptionReconciler (lookup)

/-! ## Rows whose plan and mapper fit -/

/-- The plan makes the events that the mapper of `subscription` takes, and was
    made for a Subscription. -/
structure Suits (plan : SourcePlan) (subscription : ErasedRuntimeSubscription) : Prop where
  produces : plan.Produces subscription.descriptorType.terminalType subscription.sourceEventType
  declared : plan.capability.isSome = true

/-- The plan of a row suits its mapper. -/
abbrev ActiveSource.Fits (source : ActiveSource) : Prop := Suits source.plan source.subscription

theorem suits_sourcePlan (subscription : ErasedRuntimeSubscription) :
    Suits subscription.sourcePlan subscription := by
  obtain ⟨messageType, wanted⟩ := subscription
  have hlowered := SourcePlan.produces_lower wanted.wellTyped wanted.descriptor
  exact ⟨⟨hlowered.terminal, hlowered.chains⟩, rfl⟩

/-- A plan serves every Subscription of the type it was made for. -/
theorem Suits.of_type {plan : SourcePlan} {subscription other : ErasedRuntimeSubscription}
    (h : Suits plan subscription) (htype : subscription.descriptorType = other.descriptorType) :
    Suits plan other := by
  have hevent : subscription.sourceEventType = other.sourceEventType :=
    congrArg DescriptorType.eventType htype
  obtain ⟨hproduces, hdeclared⟩ := h
  rw [htype, hevent] at hproduces
  exact ⟨hproduces, hdeclared⟩

/-- The events that pass a plan leave it suited to its mapper. -/
theorem Suits.after {plan plan' : SourcePlan} {subscription : ErasedRuntimeSubscription}
    (h : Suits plan subscription) {event : ErasedSourceEvent} {outer : List ErasedSourceEvent}
    (hrun : (SourcePlan.mapEvent event).run plan = .ok outer plan') :
    Suits plan' subscription := by
  refine ⟨h.produces.after hrun, ?_⟩
  rw [SourcePlan.capability_mapEvent hrun]
  exact h.declared

/-- Rows, bookkeeping and the changes `pending` agree on descriptor types. -/
structure Fitted (core : Core) (pending : Pending) : Prop where
  rows : Rows core pending
  fits : ∀ source ∈ core.sources, source.Fits
  /-- What is booked for a row has its type, unless the row is to be replaced. -/
  booked : ∀ source ∈ core.sources, ∀ kernel ∈ core.program.components,
    kernel.id = source.stamp.component → ∀ entry,
      lookup kernel.kernel.subscriptions.active source.stamp.subscription = some entry →
        entry.descriptor.descriptorType = source.subscription.descriptorType ∨
          ∃ subscription, (kernel.id, .replace subscription) ∈ pending ∧
            subscription.id = source.stamp.subscription
  /-- What is to be put in place is booked. -/
  promised : ∀ kernel ∈ core.program.components, ∀ change, (kernel.id, change) ∈ pending →
    ∀ subscription, change.installs = some subscription → ∀ entry,
      lookup kernel.kernel.subscriptions.active subscription.id = some entry →
        entry.descriptor.descriptorType = subscription.descriptorType
  retains : ∀ component subscription, (component, .retain subscription) ∈ pending →
    ∀ source ∈ core.sources, source.key = (component, subscription.id) →
      source.subscription.descriptorType = subscription.descriptorType

namespace Fitted

variable {core core' : Core} {pending pending' : Pending}

theorem perm (h : Fitted core pending) (hperm : pending.Perm pending') : Fitted core pending' where
  rows := h.rows.perm hperm
  fits := h.fits
  booked source hsource kernel hkernel hid entry hentry := by
    refine (h.booked source hsource kernel hkernel hid entry hentry).imp_right ?_
    rintro ⟨subscription, hmem, heq⟩
    exact ⟨subscription, hperm.mem_iff.mp hmem, heq⟩
  promised kernel hkernel change hmem :=
    h.promised kernel hkernel change (hperm.mem_iff.mpr hmem)
  retains component subscription hmem :=
    h.retains component subscription (hperm.mem_iff.mpr hmem)

/-- A step that at most takes plans further. -/
theorem of_rows (h : Fitted core pending) (hprogram : core'.program = core.program)
    (hkeys : core'.keys = core.keys)
    (hrows : ∀ source ∈ core'.sources, source.Fits ∧ ∃ old ∈ core.sources,
      old.stamp = source.stamp ∧ old.subscription = source.subscription) :
    Fitted core' pending := by
  refine ⟨h.rows.of_eq hkeys hprogram, fun source hsource => (hrows source hsource).1, ?_, ?_, ?_⟩
  · rw [hprogram]
    intro source hsource
    obtain ⟨_, old, hold, hstamp, hsubscription⟩ := hrows source hsource
    rw [← hstamp, ← hsubscription]
    exact h.booked old hold
  · rw [hprogram]
    exact h.promised
  · intro component subscription hmem source hsource hkey
    obtain ⟨_, old, hold, hstamp, hsubscription⟩ := hrows source hsource
    rw [← hsubscription]
    refine h.retains component subscription hmem old hold ?_
    rw [← hkey]
    exact congrArg (fun stamp : SourceStamp => (stamp.component, stamp.subscription)) hstamp

theorem of_eq (h : Fitted core pending) (hprogram : core'.program = core.program)
    (hsources : core'.sources = core.sources) : Fitted core' pending := by
  refine h.of_rows hprogram (congrArg (List.map ActiveSource.key) hsources) ?_
  intro source hsource
  rw [hsources] at hsource
  exact ⟨h.fits source hsource, source, hsource, rfl, rfl⟩

/-- A kernel is stored that has the same bookkeeping. -/
theorem withComponent (h : Fitted core pending) {id : ComponentId} {messageType : TypeId}
    {kernel kernel' : ErasedComponentKernel}
    (hkernel : core.program.component? id messageType = some kernel) (hid : kernel'.id = kernel.id)
    (hsame : kernel'.kernel.subscriptions = kernel.kernel.subscriptions) :
    Fitted (core.withComponent id messageType kernel') pending := by
  have hactive : kernel'.activeIds = kernel.activeIds := by
    unfold ErasedComponentKernel.activeIds
    rw [hsame]
  have hold {other : ErasedComponentKernel}
      (hother : other ∈ (core.withComponent id messageType kernel').program.components) :
      ∃ known ∈ core.program.components, other.id = known.id ∧
        other.kernel.subscriptions = known.kernel.subscriptions := by
    rcases Program.mem_setComponent h.rows.distinct hkernel hother with rfl | ⟨hother, _⟩
    · exact ⟨kernel, List.mem_of_find?_eq_some hkernel, hid, hsame⟩
    · exact ⟨other, hother, rfl, rfl⟩
  refine ⟨h.rows.withComponent hkernel hid hactive, h.fits, ?_, ?_, h.retains⟩
  · intro source hsource other hother
    obtain ⟨known, hknown, hid', heq⟩ := hold hother
    rw [hid', heq]
    exact h.booked source hsource known hknown
  · intro other hother
    obtain ⟨known, hknown, hid', heq⟩ := hold hother
    rw [hid', heq]
    exact h.promised known hknown

/-- A reconciliation that was not refused books what it is about to install. -/
theorem projected (h : Fitted core []) {id : ComponentId} {messageType : TypeId}
    {kernel : ErasedComponentKernel}
    {desired : List (Subscription (RustTypes.componentMessage kernel.componentType))}
    {changes : List (SubscriptionChange (RustTypes.componentMessage kernel.componentType))}
    {reconciler : SubscriptionReconciler}
    (hkernel : core.program.component? id messageType = some kernel)
    (hreconcile : kernel.kernel.subscriptions.reconcile desired = .ok (changes, reconciler)) :
    Fitted ((core.withComponent id messageType
      { kernel with kernel := { kernel.kernel with subscriptions := reconciler } }).observed
        (.projected id ⟨_, desired⟩))
      ((changes.map eraseSubscriptionChange).map (id, ·)) := by
  have hmem := List.mem_of_find?_eq_some hkernel
  have hid := (Program.component?_eq_some hkernel).1
  have hchanges := SubscriptionReconciler.changes_reconcile hreconcile
  let active := kernel.kernel.subscriptions.active
  have hnone {component : ComponentId} {change : ErasedSubscriptionChange} :
      (component, change) ∉ ([] : Pending) := List.not_mem_nil
  -- A row of the Component is booked under its type before the reconciliation.
  have hbefore {source : ActiveSource} (hsource : source ∈ core.sources)
      (howner : source.stamp.component = id) :
      ∃ entry, lookup active source.stamp.subscription = some entry ∧
        entry.descriptor.descriptorType = source.subscription.descriptorType := by
    have hkey : (kernel.id, source.stamp.subscription) ∈ core.keys := by
      rw [hid, ← howner]
      exact List.mem_map_of_mem hsource
    cases hentry : lookup active source.stamp.subscription with
    | none =>
        rcases h.rows.covered kernel hmem _ hkey with hactive | hcancel
        · exact absurd hactive (SubscriptionReconciler.lookup_eq_none.mp hentry)
        · exact absurd hcancel hnone
    | some entry =>
        rcases h.booked source hsource kernel hmem (hid.trans howner.symm) entry hentry with
          htype | ⟨_, hreplace, _⟩
        · exact ⟨entry, rfl, htype⟩
        · exact absurd hreplace hnone
  have hpending {change : SubscriptionChange (RustTypes.componentMessage kernel.componentType)}
      (hchange : change ∈ changes) : (id, eraseSubscriptionChange change) ∈
        (changes.map eraseSubscriptionChange).map (id, ·) :=
    List.mem_map_of_mem (List.mem_map_of_mem hchange)
  have horigin {component : ComponentId} {change : ErasedSubscriptionChange}
      (hchange : (component, change) ∈ (changes.map eraseSubscriptionChange).map (id, ·)) :
      component = id ∧ ∃ original ∈ changes, change = eraseSubscriptionChange original := by
    obtain ⟨erased, herased, heq⟩ := List.mem_map.mp hchange
    obtain ⟨original, horiginal, rfl⟩ := List.mem_map.mp herased
    cases heq
    exact ⟨rfl, original, horiginal, rfl⟩
  refine ⟨h.rows.projected hkernel hreconcile, h.fits, ?_, ?_, ?_⟩
  · intro source hsource other hother howner entry hentry
    rcases Program.mem_setComponent h.rows.distinct hkernel hother with rfl | ⟨hother, _⟩
    · obtain ⟨subscription, hdesired, hsame, rfl⟩ :=
        SubscriptionReconciler.booked_reconcile hreconcile hentry
      obtain ⟨old, hold, htype⟩ := hbefore hsource (howner.symm.trans hid)
      -- The verdict about the Subscription decides between the two cases.
      have hverdict : SubscriptionReconciler.verdict active subscription ∈ changes := by
        rw [hchanges]
        exact List.mem_append_left _ (List.mem_map_of_mem hdesired)
      unfold SubscriptionReconciler.verdict at hverdict
      unfold SubscriptionReconciler.placed
      rw [hsame, hold] at hverdict ⊢
      dsimp only at hverdict ⊢
      split
      · exact .inl htype
      · rename_i hother
        rw [if_neg hother] at hverdict
        refine .inr ⟨⟨_, subscription⟩, ?_, hsame⟩
        show (kernel.id, _) ∈ _
        rw [hid]
        exact hpending hverdict
    · rcases h.booked source hsource other hother howner entry hentry with htype | ⟨_, hreplace, _⟩
      · exact .inl htype
      · exact absurd hreplace hnone
  · intro other hother change hchange subscription hinstalls entry hentry
    obtain ⟨howner, original, horiginal, rfl⟩ := horigin hchange
    rcases Program.mem_setComponent h.rows.distinct hkernel hother with rfl | ⟨_, hne⟩
    · obtain ⟨booked, hbooked, hsame, rfl⟩ :=
        SubscriptionReconciler.booked_reconcile hreconcile hentry
      rw [SubscriptionReconciler.placed_type]
      obtain ⟨wanted, hwanted, hwantedInstalls⟩ : ∃ wanted ∈ desired,
          subscription = ⟨_, wanted⟩ := by
        rcases SubscriptionReconciler.mem_reconcile hreconcile horiginal with
          ⟨wanted, hwanted, hinstalled⟩ | ⟨cancelled, rfl⟩
        · refine ⟨wanted, hwanted, ?_⟩
          cases original with
          | cancel cancelled => exact hinstalled.elim
          | _ =>
              cases hinstalled
              cases hinstalls
              rfl
        · cases hinstalls
      subst hwantedInstalls
      rw [List.inj_on_of_nodup_map (SubscriptionReconciler.reconcile_nodup hreconcile) hbooked
        hwanted hsame]
      rfl
    · exact absurd howner hne
  · intro component subscription hretain source hsource hkey
    obtain ⟨rfl, original, horiginal, heq⟩ := horigin hretain
    obtain ⟨howner, hsubscription⟩ := Prod.mk.inj hkey
    obtain ⟨entry, hentry, htype⟩ := hbefore hsource howner
    rw [hsubscription] at hentry
    cases original with
    | retain retained =>
        cases heq
        rw [hchanges] at horiginal
        rcases List.mem_append.mp horiginal with hmem | hmem
        · obtain ⟨wanted, _, hverdict⟩ := List.mem_map.mp hmem
          obtain ⟨rfl, booked, hbooked, hequals⟩ :=
            SubscriptionReconciler.equals_of_retain hverdict
          have hsame : entry = booked := Option.some.inj (hentry.symm.trans hbooked)
          rw [← htype, hsame]
          exact hequals.type_eq.symm
        · obtain ⟨_, _, hcancel⟩ := List.mem_map.mp hmem
          cases hcancel
    | start started => cases heq
    | replace replaced => cases heq
    | cancel cancelled => cases heq

theorem changed {component : ComponentId} {change : ErasedSubscriptionChange}
    (h : Fitted core ((component, change) :: pending)) (cause : TraceId) :
    Fitted (core.changed component cause change) pending := by
  have hrows := h.rows.changed cause
  have honce := h.rows.once
  rw [List.map_cons, List.nodup_cons] at honce
  -- No other change is for the key of this one.
  have hother {other : ErasedSubscriptionChange} (hmem : (component, other) ∈ pending) :
      other.id ≠ change.id := by
    intro heq
    refine honce.1 (List.mem_map.mpr ⟨_, hmem, ?_⟩)
    exact congrArg (Prod.mk component) heq
  have hsources {source : ActiveSource}
      (hsource : source ∈ (core.changed component cause change).sources) :=
    mem_sources_changed h.rows.keyed cause (fun subscription hstart =>
      h.rows.fresh component subscription (hstart ▸ List.mem_cons_self)) hsource
  have hid {subscription : ErasedRuntimeSubscription} (hinstalls : change.installs = some subscription) :
      change.id = subscription.id := by
    cases change <;> cases hinstalls <;> rfl
  refine ⟨hrows, ?_, ?_, ?_, ?_⟩
  · intro source hsource
    rcases hsources hsource with ⟨hold, _⟩ | ⟨subscription, hplaced⟩
    · exact h.fits source hold
    · rcases hplaced.origin with ⟨hplan, _⟩ | ⟨rfl, old, hold, hstamp, hplan⟩
      · show Suits source.plan source.subscription
        rw [hplan, hplaced.installed]
        exact suits_sourcePlan subscription
      · -- The mapper that is installed is for the type the plan was made for.
        have hkey : old.key = (component, subscription.id) := by
          rw [← hplaced.key]
          exact congrArg (fun stamp : SourceStamp => (stamp.component, stamp.subscription)) hstamp
        have htype := h.retains component subscription List.mem_cons_self old hold hkey
        show Suits source.plan source.subscription
        rw [← hplan, hplaced.installed]
        exact (h.fits old hold).of_type htype
  · rw [Rows.changed_program]
    intro source hsource kernel hkernel howner entry hentry
    rcases hsources hsource with ⟨hold, hne⟩ | ⟨subscription, hplaced⟩
    · refine (h.booked source hold kernel hkernel howner entry hentry).imp_right ?_
      rintro ⟨subscription, hreplace, hsame⟩
      rcases List.mem_cons.mp hreplace with heq | hrest
      · obtain ⟨hcomponent, hchange⟩ := Prod.mk.inj heq
        refine absurd ?_ hne
        rw [← hchange, ← hcomponent, howner]
        exact congrArg (Prod.mk source.stamp.component) hsame.symm
      · exact ⟨subscription, hrest, hsame⟩
    · obtain ⟨hcomponent, hsubscription⟩ := Prod.mk.inj hplaced.key
      rw [hsubscription] at hentry
      rw [hplaced.installed]
      exact .inl (h.promised kernel hkernel change
        (by rw [howner, hcomponent]; exact List.mem_cons_self) subscription hplaced.installs entry
          hentry)
  · rw [Rows.changed_program]
    exact fun kernel hkernel other hmem =>
      h.promised kernel hkernel other (List.mem_cons_of_mem _ hmem)
  · intro owner subscription hretain source hsource hkey
    rcases hsources hsource with ⟨hold, _⟩ | ⟨installed, hplaced⟩
    · exact h.retains owner subscription (List.mem_cons_of_mem _ hretain) source hold hkey
    · obtain ⟨rfl, hsame⟩ := Prod.mk.inj (hplaced.key.symm.trans hkey)
      exact absurd (hsame.symm.trans (hid hplaced.installs).symm) (hother hretain)

theorem action {phase : Phase} (h : Fitted core []) (haction : Action core phase core')
    (hphase : phase ≠ .projection) : Fitted core' [] := by
  have hpopped (work : ScheduledWork) (message : QueuedMessage) :
      Fitted ((core.popped work).fired message) [] :=
    h.of_eq (Core.fired_program _ message) (Core.fired_sources _ message)
  have hfound {work : ScheduledWork} {message : QueuedMessage} {kernel : ErasedComponentKernel}
      (hkernel : core.program.component? message.target message.targetMessageType = some kernel) :
      ((core.popped work).fired message).program.component? message.target
        message.targetMessageType = some kernel := by
    rw [Core.fired_program]
    exact hkernel
  cases haction with
  | initialized => exact absurd rfl hphase
  | projected => exact absurd rfl hphase
  | duplicated => exact absurd rfl hphase
  | duplicateFaulted => exact absurd rfl hphase
  | commandTaken => exact absurd rfl hphase
  | started => exact absurd rfl hphase
  | retained => exact absurd rfl hphase
  | replaced => exact absurd rfl hphase
  | cancelled => exact absurd rfl hphase
  | startFaulted => exact absurd rfl hphase
  | replaceFaulted => exact absurd rfl hphase
  | sourceEventMapped work event active plan outer mapped _ _ hactive _ hplan _ =>
      obtain ⟨_, hcomponent, hsubscription⟩ := source?_eq_some hactive
      have hsame : core.source? active.stamp.component active.stamp.subscription =
          some active := by
        rw [hcomponent, hsubscription]
        exact hactive
      have hplanned {row : ActiveSource} (hrow : row ∈ ((core.popped work).withPlan active plan
          event.event outer).sources) : row.Fits ∧ ∃ old ∈ core.sources, old.stamp = row.stamp ∧
            old.subscription = row.subscription := by
        rcases Table.mem_modifyFirst hrow with hold | ⟨found, hfound, rfl⟩
        · exact ⟨h.fits row hold, row, hold, rfl, rfl⟩
        · have heq : found = active := Option.some.inj (hfound.symm.trans hsame)
          subst heq
          have hmem := List.mem_of_find?_eq_some hfound
          exact ⟨(h.fits found hmem).after hplan, found, hmem, rfl, rfl⟩
      refine h.of_rows (by simp [Core.withPlan, Core.withRunning]) ?_ ?_
      · unfold Core.keys
        rw [Core.foldl_withMappedEvent_sources]
        exact (@keys_withSource _ _ _ _ (fun source => { source with running := source.running &&
          !(event.event.isTerminal || outer.any (·.isTerminal)) }) (fun _ => rfl)).trans
            (@keys_withSource _ (core.popped work) _ _ ({ · with plan }) fun _ => rfl)
      · intro source hsource
        rw [Core.foldl_withMappedEvent_sources] at hsource
        rcases Table.mem_modifyFirst hsource with hmem | ⟨found, hfound, rfl⟩
        · exact hplanned hmem
        · exact @hplanned found (List.mem_of_find?_eq_some hfound)
  | messageDelivered work message kernel kernel' command _ _ _ hkernel htransition =>
      exact ((hpopped work message).withComponent (hfound hkernel)
        (ErasedComponentKernel.transitionErased_ok htransition).1
        (ErasedComponentKernel.transitionErased_subscriptions htransition)).of_eq rfl rfl
  | deliveryFaulted work message => exact (hpopped work message).of_eq rfl rfl
  | deliveryMismatched work message kernel _ _ _ hkernel _ =>
      exact (hpopped work message).withComponent (hfound hkernel) rfl rfl
  | _ => exact h.of_eq (by simp) (by simp)

end Fitted

/-! ## Runs -/

/-- Every row fits. -/
def AllFit (core : Core) : Prop := ∀ source ∈ core.sources, source.Fits

theorem settles_fitted : Settles AllFit Fitted where
  always h := h.fits
  perm h hperm := h.perm hperm
  action h haction hphase := h.action haction hphase
  initialized _ h := h.of_eq rfl rfl
  passed _ h := h.of_eq rfl rfl
  projected h hkernel hreconcile := h.projected hkernel hreconcile
  duplicated _ h _ := h.fits
  changed cause h _ := h.changed cause
  taken h hkernel := h.withComponent hkernel rfl rfl
  stored _ _ _ h := h

theorem fitted_fresh {builder : ProgramBuilder} (hassembled : builder.Assembled)
    (hbuild : builder.build = .ok builder.blueprint) (bindings : Bindings) :
    Fitted (Core.fresh builder.blueprint bindings) [] := by
  refine ⟨rows_fresh hassembled hbuild bindings, ?_, ?_, ?_, ?_⟩
  · intro source hsource
    cases hsource
  · intro source hsource
    cases hsource
  · intro kernel _ change hchange
    cases hchange
  · intro component subscription hretain
    cases hretain

/-- A step that faults at most removes a row. -/
theorem Action.sources_of_fault {phase : Phase} {core core' : Core} (h : Action core phase core')
    (hok : core.fault = none) (hfault : core'.fault ≠ none) : core'.sources ⊆ core.sources := by
  cases h with
  | duplicateFaulted => exact List.Subset.refl _
  | startFaulted => exact List.Subset.refl _
  | replaceFaulted => exact List.eraseP_subset
  | declarationFaulted => exact List.Subset.refl _
  | replyMistyped => exact List.Subset.refl _
  | deliveryFaulted work message =>
      show ((core.popped work).fired message).sources ⊆ core.sources
      rw [Core.fired_sources]
      exact List.Subset.refl _
  | _ => exact absurd (by simpa [Core.withPlan, Core.withRunning] using hok) hfault

/-- Every row fits wherever a run comes, faulted or not. -/
theorem allFit_of_settled {origin core : Core} (horigin : AllFit origin)
    (h : Settled AllFit Fitted origin core) : AllFit core := by
  cases hfault : core.fault with
  | none => exact (h.2 hfault).fits
  | some error =>
      rcases h.1.cases_tail with rfl | ⟨before, _, hmove, hbefore⟩
      · exact horigin
      · rcases hmove with ⟨hok, ⟨phase, haction⟩ | hpassage⟩
        · intro source hsource
          exact hbefore source (haction.sources_of_fault hok (by simp [hfault]) hsource)
        · cases hpassage
          exact hbefore

end Controlled

end Samara
