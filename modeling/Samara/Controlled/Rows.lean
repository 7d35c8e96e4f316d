/-
  Samara.Controlled.Rows

  The table of active Sources never holds two realizations of one Component's
  Subscription.  Between two items of work the rows of a Component are among
  what its reconciler has as active; while the changes of a reconciliation are
  applied, the difference is made up by the changes still to come.
-/
import Samara.Controlled.Order
import Samara.Controlled.Settling
import Samara.Reconciler

namespace Samara

open Relation (ReflTransGen)

variable [RustTypes]

/-- What is active of a Component. -/
def ErasedComponentKernel.activeIds (erased : ErasedComponentKernel) : List SubscriptionId :=
  erased.kernel.subscriptions.ids

namespace Controlled

/-! ## Keys -/

/-- What `source_index` looks a row up by. -/
def ActiveSource.key (source : ActiveSource) : ComponentId × SubscriptionId :=
  (source.stamp.component, source.stamp.subscription)

def Core.keys (core : Core) : List (ComponentId × SubscriptionId) :=
  core.sources.map ActiveSource.key

theorem isOf_eq (component : ComponentId) (subscription : SubscriptionId) :
    ActiveSource.isOf component subscription =
      fun source => decide (source.key = (component, subscription)) := by
  funext source
  simp [ActiveSource.isOf, ActiveSource.key]

section Keys

variable {core : Core} {component : ComponentId} {subscription : SubscriptionId}

theorem keys_withSource {update : ActiveSource → ActiveSource}
    (h : ∀ source, (update source).stamp = source.stamp) :
    (core.withSource component subscription update).keys = core.keys := by
  refine Table.map_modifyFirst ?_ core.sources
  intro source _
  unfold ActiveSource.key
  rw [h]

/-- A row that is removed takes its key with it. -/
theorem mem_keys_withoutSource (hkeyed : core.keys.Nodup) (key : ComponentId × SubscriptionId) :
    key ∈ (core.withoutSource component subscription).keys ↔
      key ∈ core.keys ∧ key ≠ (component, subscription) := by
  unfold Core.keys at hkeyed ⊢
  rw [Core.withoutSource_sources, isOf_eq, Table.eraseP_eq_filter hkeyed]
  constructor
  · intro h
    obtain ⟨source, hsource, rfl⟩ := List.mem_map.mp h
    obtain ⟨hmem, hne⟩ := List.mem_filter.mp hsource
    exact ⟨List.mem_map_of_mem hmem, by simpa using hne⟩
  · rintro ⟨h, hne⟩
    obtain ⟨source, hsource, rfl⟩ := List.mem_map.mp h
    exact List.mem_map_of_mem (List.mem_filter.mpr ⟨hsource, by simpa using hne⟩)

theorem keyed_withoutSource (hkeyed : core.keys.Nodup) :
    (core.withoutSource component subscription).keys.Nodup :=
  hkeyed.sublist (List.eraseP_sublist.map _)

theorem keys_withActivation (subscription : ErasedRuntimeSubscription) :
    (core.withActivation component subscription).keys =
      core.keys ++ [(component, subscription.id)] :=
  List.map_append

theorem keyed_withActivation {subscription : ErasedRuntimeSubscription}
    (hkeyed : core.keys.Nodup) (hnew : (component, subscription.id) ∉ core.keys) :
    (core.withActivation component subscription).keys.Nodup := by
  rw [keys_withActivation]
  refine List.nodup_append.mpr ⟨hkeyed, List.nodup_singleton _, ?_⟩
  intro key hkey last hlast heq
  rw [List.mem_singleton.mp hlast] at heq
  exact hnew (heq ▸ hkey)

end Keys

/-! ## Rows -/

/-- A change that puts nothing in place. -/
def Cancels (change : ErasedSubscriptionChange) : Prop := ∃ id, change = .cancel id

/-- The rows of a runtime, when the changes `pending` are still to be applied. -/
structure Rows (core : Core) (pending : List (ComponentId × ErasedSubscriptionChange)) : Prop where
  keyed : core.keys.Nodup
  distinct : (core.program.components.map (·.id)).Nodup
  active : ∀ kernel ∈ core.program.components, kernel.activeIds.Nodup
  once : (pending.map fun entry => (entry.1, entry.2.id)).Nodup
  fresh : ∀ component subscription, (component, .start subscription) ∈ pending →
    (component, subscription.id) ∉ core.keys
  /-- A row is active, or about to be cancelled. -/
  covered : ∀ kernel ∈ core.program.components, ∀ id, (kernel.id, id) ∈ core.keys →
    id ∈ kernel.activeIds ∨ (kernel.id, .cancel id) ∈ pending
  installs : ∀ kernel ∈ core.program.components, ∀ change, (kernel.id, change) ∈ pending →
    ¬ Cancels change → change.id ∈ kernel.activeIds

namespace Rows

variable {core core' : Core} {pending pending' : List (ComponentId × ErasedSubscriptionChange)}
  {component : ComponentId} {change : ErasedSubscriptionChange}
  {changes : List ErasedSubscriptionChange}

theorem of_eq (h : Rows core pending) (hkeys : core'.keys = core.keys)
    (hprogram : core'.program = core.program) : Rows core' pending := by
  constructor
  · rw [hkeys]
    exact h.keyed
  · rw [hprogram]
    exact h.distinct
  · rw [hprogram]
    exact h.active
  · exact h.once
  · rw [hkeys]
    exact h.fresh
  · rw [hkeys, hprogram]
    exact h.covered
  · rw [hprogram]
    exact h.installs

/-- The order of the changes does not matter. -/
theorem perm (h : Rows core pending) (hperm : pending.Perm pending') : Rows core pending' where
  keyed := h.keyed
  distinct := h.distinct
  active := h.active
  once := (hperm.map _).nodup_iff.mp h.once
  fresh component subscription hstart := h.fresh component subscription (hperm.mem_iff.mpr hstart)
  covered kernel hkernel id hkey :=
    (h.covered kernel hkernel id hkey).imp_right hperm.mem_iff.mp
  installs kernel hkernel change hchange :=
    h.installs kernel hkernel change (hperm.mem_iff.mpr hchange)

/-- A kernel is stored that has the same Subscriptions active. -/
theorem withComponent (h : Rows core pending) {id : ComponentId} {messageType : TypeId}
    {kernel kernel' : ErasedComponentKernel}
    (hkernel : core.program.component? id messageType = some kernel)
    (hid : kernel'.id = kernel.id) (hactive : kernel'.activeIds = kernel.activeIds) :
    Rows (core.withComponent id messageType kernel') pending := by
  have hmem := List.mem_of_find?_eq_some hkernel
  have hids := @Table.map_modifyFirst_found _ _ _ (fun _ => kernel')
    (fun component : ErasedComponentKernel => component.id) _ _ hkernel hid
  have hold {other : ErasedComponentKernel}
      (hother : other ∈ (core.withComponent id messageType kernel').program.components) :
      ∃ known ∈ core.program.components, other.id = known.id ∧
        other.activeIds = known.activeIds := by
    rcases Program.mem_setComponent h.distinct hkernel hother with rfl | ⟨hother, _⟩
    · exact ⟨kernel, hmem, hid, hactive⟩
    · exact ⟨other, hother, rfl, rfl⟩
  refine ⟨h.keyed, ?_, ?_, h.once, h.fresh, ?_, ?_⟩
  · show ((core.program.setComponent id messageType kernel').components.map _).Nodup
    unfold Program.setComponent
    rw [hids]
    exact h.distinct
  · intro other hother
    obtain ⟨known, hknown, _, heq⟩ := hold hother
    rw [heq]
    exact h.active known hknown
  · intro other hother subscription hkey
    obtain ⟨known, hknown, hid', heq⟩ := hold hother
    rw [hid'] at hkey ⊢
    rw [heq]
    exact h.covered known hknown subscription hkey
  · intro other hother change hchange
    obtain ⟨known, hknown, hid', heq⟩ := hold hother
    rw [hid'] at hchange
    rw [heq]
    exact h.installs known hknown change hchange

/-- A reconciliation that was not refused leaves its changes to be applied. -/
theorem projected (h : Rows core []) {id : ComponentId} {messageType : TypeId}
    {kernel : ErasedComponentKernel}
    {desired : List (Subscription (RustTypes.componentMessage kernel.componentType))}
    {changes : List (SubscriptionChange (RustTypes.componentMessage kernel.componentType))}
    {reconciler : SubscriptionReconciler}
    (hkernel : core.program.component? id messageType = some kernel)
    (hreconcile : kernel.kernel.subscriptions.reconcile desired = .ok (changes, reconciler)) :
    Rows ((core.withComponent id messageType
      { kernel with kernel := { kernel.kernel with subscriptions := reconciler } }).observed
        (.projected id ⟨_, desired⟩))
      ((changes.map eraseSubscriptionChange).map (id, ·)) := by
  have hmem := List.mem_of_find?_eq_some hkernel
  have hid := (Program.component?_eq_some hkernel).1
  have hdecided := SubscriptionReconciler.reconcile_decided hreconcile (h.active kernel hmem)
  let kernel' : ErasedComponentKernel :=
    { kernel with kernel := { kernel.kernel with subscriptions := reconciler } }
  have hids := @Table.map_modifyFirst_found _ _ _ (fun _ => kernel')
    (fun component : ErasedComponentKernel => component.id) _ _ hkernel rfl
  have hpending {component : ComponentId} {change : ErasedSubscriptionChange}
      (hchange : (component, change) ∈ (changes.map eraseSubscriptionChange).map (id, ·)) :
      component = id ∧ ∃ original ∈ changes, change = eraseSubscriptionChange original := by
    obtain ⟨erased, herased, heq⟩ := List.mem_map.mp hchange
    obtain ⟨original, horiginal, rfl⟩ := List.mem_map.mp herased
    cases heq
    exact ⟨rfl, original, horiginal, rfl⟩
  refine ⟨h.keyed, ?_, ?_, ?_, ?_, ?_, ?_⟩
  · show ((core.program.setComponent id messageType kernel').components.map _).Nodup
    unfold Program.setComponent
    rw [hids]
    exact h.distinct
  · intro other hother
    rcases Program.mem_setComponent h.distinct hkernel hother with rfl | ⟨hother, _⟩
    · exact hdecided.nodup
    · exact h.active other hother
  · rw [List.map_map, List.map_map]
    have honce : (changes.map SubscriptionChange.id).map (Prod.mk id) =
        changes.map ((((fun entry : ComponentId × ErasedSubscriptionChange =>
          (entry.1, entry.2.id)) ∘ (id, ·)) ∘ eraseSubscriptionChange)) := by
      rw [List.map_map]
      refine List.map_congr_left ?_
      intro change _
      exact congrArg (Prod.mk id) (id_eraseSubscriptionChange change).symm
    rw [← honce]
    exact hdecided.once.map fun _ _ heq => (Prod.mk.inj heq).2
  · intro component subscription hstart hkey
    obtain ⟨rfl, original, horiginal, heq⟩ := hpending hstart
    cases original with
    | start started =>
        cases heq
        rcases h.covered kernel hmem started.id (hid ▸ hkey) with hactive | hcancel
        · exact hdecided.starts started horiginal hactive
        · cases hcancel
    | retain _ => cases heq
    | replace _ => cases heq
    | cancel _ => cases heq
  · intro other hother subscription hkey
    rcases Program.mem_setComponent h.distinct hkernel hother with rfl | ⟨hother, _⟩
    · rcases h.covered kernel hmem subscription hkey with hactive | hcancel
      · rcases hdecided.leaves subscription hactive with hstays | hcancelled
        · exact Or.inl hstays
        · refine Or.inr (List.mem_map.mpr ⟨.cancel subscription, ?_, ?_⟩)
          · exact List.mem_map.mpr ⟨_, hcancelled, rfl⟩
          · exact congrArg (Prod.mk · _) hid.symm
      · cases hcancel
    · rcases h.covered other hother subscription hkey with hactive | hcancel
      · exact Or.inl hactive
      · cases hcancel
  · intro other hother change hchange hinstalls
    obtain ⟨hother', original, horiginal, rfl⟩ := hpending hchange
    rcases Program.mem_setComponent h.distinct hkernel hother with rfl | ⟨_, hne⟩
    · rw [id_eraseSubscriptionChange]
      refine hdecided.installs original horiginal ?_
      rintro cancelled rfl
      exact hinstalls ⟨cancelled, rfl⟩
    · exact absurd hother' hne

theorem keys_retain (cause : TraceId) (subscription : ErasedRuntimeSubscription) :
    (core.changed component cause (.retain subscription)).keys = core.keys :=
  @keys_withSource _ (core.traced (some cause) _) component subscription.id
    ({ · with subscription }) fun _ => rfl

/-- What one change does to the keys. -/
theorem mem_keys_changed (h : Rows core ((component, change) :: pending)) (cause : TraceId)
    {key : ComponentId × SubscriptionId} (hkey : key ∈ (core.changed component cause change).keys) :
    (key ∈ core.keys ∧ ∀ id, change = .cancel id → key ≠ (component, id)) ∨
      (key = (component, change.id) ∧ ¬ Cancels change) := by
  cases change with
  | start subscription =>
      unfold Core.changed at hkey
      rw [keys_withActivation] at hkey
      rcases List.mem_append.mp hkey with hold | hnew
      · exact Or.inl ⟨hold, by simp⟩
      · exact Or.inr ⟨List.mem_singleton.mp hnew, by simp [Cancels]⟩
  | retain subscription =>
      rw [keys_retain] at hkey
      exact Or.inl ⟨hkey, by simp⟩
  | replace subscription =>
      unfold Core.changed at hkey
      rw [keys_withActivation] at hkey
      rcases List.mem_append.mp hkey with hold | hnew
      · exact Or.inl ⟨((mem_keys_withoutSource h.keyed key).mp hold).1, by simp⟩
      · exact Or.inr ⟨List.mem_singleton.mp hnew, by simp [Cancels]⟩
  | cancel id =>
      obtain ⟨hold, hne⟩ := (@mem_keys_withoutSource _ (core.traced (some cause) _) _ _ h.keyed key).mp hkey
      refine Or.inl ⟨hold, ?_⟩
      rintro cancelled ⟨⟩
      exact hne

theorem keyed_changed (h : Rows core ((component, change) :: pending)) (cause : TraceId) :
    (core.changed component cause change).keys.Nodup := by
  cases change with
  | start subscription =>
      exact @keyed_withActivation _ (core.traced (some cause) _) component subscription h.keyed
        (h.fresh component subscription List.mem_cons_self)
  | retain subscription =>
      rw [keys_retain]
      exact h.keyed
  | replace subscription =>
      refine keyed_withActivation (@keyed_withoutSource _ (core.traced (some cause) _) _ _ h.keyed) ?_
      intro hmem
      exact ((@mem_keys_withoutSource _ (core.traced (some cause) _) _ _ h.keyed _).mp hmem).2 rfl
  | cancel id => exact @keyed_withoutSource _ (core.traced (some cause) _) _ _ h.keyed

theorem changed_program (cause : TraceId) :
    (core.changed component cause change).program = core.program := by
  cases change <;> rfl

/-- One change has been applied. -/
theorem changed (h : Rows core ((component, change) :: pending)) (cause : TraceId) :
    Rows (core.changed component cause change) pending := by
  have honce := h.once
  rw [List.map_cons, List.nodup_cons] at honce
  have hother {other : ErasedSubscriptionChange} (hmem : (component, other) ∈ pending) :
      other.id ≠ change.id := by
    intro heq
    refine honce.1 (List.mem_map.mpr ⟨_, hmem, ?_⟩)
    exact congrArg (Prod.mk component) heq
  refine ⟨h.keyed_changed cause, ?_, ?_, honce.2, ?_, ?_, ?_⟩
  · rw [changed_program]
    exact h.distinct
  · rw [changed_program]
    exact h.active
  · intro owner subscription hstart hkey
    rcases h.mem_keys_changed cause hkey with ⟨hold, _⟩ | ⟨heq, _⟩
    · exact h.fresh owner subscription (List.mem_cons_of_mem _ hstart) hold
    · obtain ⟨rfl, hid⟩ := Prod.mk.inj heq
      exact hother hstart hid
  · rw [changed_program]
    intro kernel hkernel id hkey
    rcases h.mem_keys_changed cause hkey with ⟨hold, hcancelled⟩ | ⟨heq, hinstalls⟩
    · rcases h.covered kernel hkernel id hold with hactive | hpending
      · exact Or.inl hactive
      · rcases List.mem_cons.mp hpending with heq | hrest
        · obtain ⟨hid, hchange⟩ := Prod.mk.inj heq
          exact absurd (congrArg (Prod.mk · id) hid) (hcancelled id hchange.symm)
        · exact Or.inr hrest
    · obtain ⟨hid, rfl⟩ := Prod.mk.inj heq
      exact Or.inl (h.installs kernel hkernel change (hid ▸ List.mem_cons_self) hinstalls)
  · rw [changed_program]
    intro kernel hkernel other hmem
    exact h.installs kernel hkernel other (List.mem_cons_of_mem _ hmem)

end Rows

/-! ## Steps that leave the rows alone -/

theorem ErasedComponentKernel.transitionErased_active {message : ErasedValue}
    {kernel kernel' : ErasedComponentKernel} {command : Option ErasedCommand}
    (h : (ErasedComponentKernel.transitionErased message).run kernel = .ok command kernel') :
    kernel'.activeIds = kernel.activeIds := by
  unfold ErasedComponentKernel.transitionErased EStateM.run at h
  dsimp only at h
  split at h
  · cases h
    rfl
  · split at h
    · cases h
    · cases h
      rfl

section Actions

variable {phase : Phase} {core core' : Core}

/-- Only a projection changes which Subscriptions are active or realized. -/
theorem Rows.action (h : Rows core []) (haction : Action core phase core')
    (hphase : phase ≠ .projection) : Rows core' [] := by
  have hpopped (work : ScheduledWork) (message : QueuedMessage) :
      Rows ((core.popped work).fired message) [] :=
    h.of_eq (congrArg (List.map ActiveSource.key) (Core.fired_sources _ message))
      (Core.fired_program _ message)
  have hfound {work : ScheduledWork} {message : QueuedMessage} {kernel : ErasedComponentKernel}
      (hkernel : core.program.component? message.target message.targetMessageType = some kernel) :
      ((core.popped work).fired message).program.component? message.target
        message.targetMessageType = some kernel := by
    rw [Core.fired_program]
    exact hkernel
  cases haction with
  | initialized => exact absurd rfl hphase
  | projected => exact absurd rfl hphase
  | duplicated => exact absurd rfl hphase
  | duplicateFaulted => exact absurd rfl hphase
  | commandTaken => exact absurd rfl hphase
  | started => exact absurd rfl hphase
  | retained => exact absurd rfl hphase
  | replaced => exact absurd rfl hphase
  | cancelled => exact absurd rfl hphase
  | startFaulted => exact absurd rfl hphase
  | replaceFaulted => exact absurd rfl hphase
  | sourceEventMapped work event source plan outer mapped =>
      refine h.of_eq ?_ (by simp [Core.withPlan, Core.withRunning])
      unfold Core.keys
      rw [Core.foldl_withMappedEvent_sources]
      exact (@keys_withSource _ _ _ _ (fun source => { source with running := source.running &&
        !(event.event.isTerminal || outer.any (·.isTerminal)) }) (fun _ => rfl)).trans
          (@keys_withSource _ (core.popped work) _ _ ({ · with plan }) fun _ => rfl)
  | messageDelivered work message kernel kernel' command _ _ _ hkernel htransition =>
      exact ((hpopped work message).withComponent (hfound hkernel)
        (ErasedComponentKernel.transitionErased_ok htransition).1
        (ErasedComponentKernel.transitionErased_active htransition)).of_eq rfl rfl
  | deliveryFaulted work message => exact (hpopped work message).of_eq rfl rfl
  | deliveryMismatched work message kernel _ _ _ hkernel _ =>
      exact (hpopped work message).withComponent (hfound hkernel) rfl rfl
  | _ => exact h.of_eq (congrArg (List.map ActiveSource.key) (by simp)) (by simp)

end Actions

/-! ## Runs -/

/-- The table of Sources has its keys once, and its rows in order whenever
    everything has settled. -/
theorem settles_rows : Settles (fun core => core.keys.Nodup) Rows where
  always h := h.keyed
  perm h hperm := h.perm hperm
  action h haction hphase := h.action haction hphase
  initialized _ h := h.of_eq rfl rfl
  passed _ h := h.of_eq rfl rfl
  projected h hkernel hreconcile := h.projected hkernel hreconcile
  duplicated _ h _ := h.keyed
  changed cause h _ := h.changed cause
  taken h hkernel := h.withComponent hkernel rfl rfl
  stored _ _ _ h := h

/-- A move from a state whose rows have distinct keys. -/
def KeyedMove (core core' : Core) : Prop := Move core core' ∧ core.keys.Nodup

theorem activeIds_of_assembled {builder : ProgramBuilder} (h : builder.Assembled) :
    ∀ kernel ∈ builder.components, kernel.activeIds = [] := by
  induction h with
  | new program => exact fun _ hkernel => absurd hkernel List.not_mem_nil
  | effect descriptorType _ ih => exact ih
  | source descriptorType _ ih => exact ih
  | component id configuration _ ih =>
      intro kernel hkernel
      rcases List.mem_append.mp hkernel with hold | hnew
      · exact ih kernel hold
      · rw [List.mem_singleton.mp hnew]
        rfl
  | port protocol id _ ih => exact ih
  | bindPort port provider _ ih => exact ih

/-- A runtime that has come this far has made keyed moves from its fresh state,
    and has its rows in order unless it faulted. -/
def InOrder (origin core : Core) : Prop :=
  ReflTransGen KeyedMove origin core ∧ (core.fault = none → Rows core [])

theorem rows_fresh {builder : ProgramBuilder} (hassembled : builder.Assembled)
    (hbuild : builder.build = .ok builder.blueprint) (bindings : Bindings) :
    Rows (Core.fresh builder.blueprint bindings) [] := by
  have hcomponents := (ProgramBuilder.build_eq_ok.mp hbuild).1
  refine ⟨List.nodup_nil, (ProgramBuilder.checkComponents_eq_ok.mp hcomponents).1, ?_,
    List.nodup_nil, ?_, ?_, ?_⟩
  · intro kernel hkernel
    rw [activeIds_of_assembled hassembled kernel hkernel]
    exact List.nodup_nil
  · intro _ _ hstart
    cases hstart
  · intro _ _ _ hkey
    cases hkey
  · intro _ _ _ hchange
    cases hchange

theorem Launched.inOrder {core : Core} (h : Launched core) :
    ∃ (builder : ProgramBuilder) (bindings : Bindings), builder.Assembled ∧
      builder.build = .ok builder.blueprint ∧ bindings.validate builder.blueprint = .ok () ∧
        InOrder (Core.fresh builder.blueprint bindings) core :=
  settles_rows.launched h fun _ bindings hassembled hbuild => rows_fresh hassembled hbuild bindings

/-- Operations that return keep a runtime in order. -/
theorem Reachable.inOrder {origin start core : Core} (h : Reachable start core)
    (hstart : InOrder origin start) : InOrder origin core :=
  settles_rows.reachable h hstart

end Controlled

end Samara
