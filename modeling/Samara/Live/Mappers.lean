/-
  Samara.Live.Mappers

  Which mapper is installed on a Source of a live runtime.  What `Retain`
  installs fits the realization as long as the bookkeeping of the Component
  still has what the realization was activated for.  Drain keeps realizations
  that their Components have withdrawn, and then it need not.
-/
import Samara.Live.Frame
import Samara.Live.Lease
import Samara.Reconciliation

namespace Samara

open Exec (Triple)
open SubscriptionReconciler (lookup)

variable [RustTypes]

/-! ## What a reconciliation decides and books -/

namespace SubscriptionReconciler

variable {message : TypeId} {reconciler reconciler' : SubscriptionReconciler}
  {desired : List (Subscription message)} {changes : List (SubscriptionChange message)}

theorem verdict_of_mem (h : reconciler.reconcile desired = .ok (changes, reconciler'))
    {change : SubscriptionChange message} (hchange : change ∈ changes) :
    (∃ subscription ∈ desired, change = verdict reconciler.active subscription) ∨
      ∃ id, change = .cancel id := by
  rw [changes_reconcile h] at hchange
  rcases List.mem_append.mp hchange with hmem | hmem
  · obtain ⟨subscription, hdesired, rfl⟩ := List.mem_map.mp hmem
    exact .inl ⟨subscription, hdesired, rfl⟩
  · obtain ⟨id, _, rfl⟩ := List.mem_map.mp hmem
    exact .inr ⟨id, rfl⟩

/-- What was booked is booked still, or its realization is to be withdrawn. -/
theorem kept_or_withdrawn (h : reconciler.reconcile desired = .ok (changes, reconciler'))
    {id : SubscriptionId} {entry : ActiveDescriptor}
    (hentry : lookup reconciler.active id = some entry) :
    lookup reconciler'.active id = some entry ∨ (∃ subscription, .replace subscription ∈ changes ∧
      subscription.id = id) ∨ .cancel id ∈ changes := by
  have hchanges := changes_reconcile h
  by_cases hdesired : id ∈ desired.map (·.id)
  · obtain ⟨subscription, hmem, rfl⟩ := List.mem_map.mp hdesired
    have hplaced := (lookup_reconcile h).1 subscription hmem
    by_cases hsame : subscription.hasDescriptor entry.descriptor = true
    · left
      rw [hplaced]
      unfold placed
      rw [hentry]
      dsimp only
      rw [if_pos hsame]
    · right
      left
      refine ⟨subscription, ?_, rfl⟩
      rw [hchanges]
      refine List.mem_append_left _ (List.mem_map.mpr ⟨subscription, hmem, ?_⟩)
      unfold verdict
      rw [hentry]
      dsimp only
      rw [if_neg hsame]
  · right
    right
    have hactive : id ∈ reconciler.ids := by
      by_contra hnone
      rw [lookup_eq_none.mpr hnone] at hentry
      cases hentry
    rw [hchanges]
    exact List.mem_append_right _ (List.mem_map_of_mem
      (List.mem_filter.mpr ⟨hactive, decide_eq_true hdesired⟩))

/-- What is started was not booked. -/
theorem unbooked_of_start (h : reconciler.reconcile desired = .ok (changes, reconciler'))
    {started : Subscription message} (hchange : .start started ∈ changes) :
    lookup reconciler.active started.id = none := by
  rcases verdict_of_mem h hchange with ⟨subscription, _, hverdict⟩ | ⟨id, hcancel⟩
  · unfold verdict at hverdict
    cases hentry : lookup reconciler.active subscription.id with
    | none =>
        rw [hentry] at hverdict
        cases hverdict
        exact hentry
    | some entry =>
        rw [hentry] at hverdict
        dsimp only at hverdict
        split at hverdict <;> cases hverdict
  · cases hcancel

/-- What is put in place of nothing, or of something else, is booked as it is. -/
theorem booked_of_install (h : reconciler.reconcile desired = .ok (changes, reconciler'))
    {installed : Subscription message}
    (hchange : .start installed ∈ changes ∨ .replace installed ∈ changes) :
    ∃ entry, lookup reconciler'.active installed.id = some entry ∧
      entry.descriptor = installed.descriptorSnapshot := by
  have hverdict : ∃ subscription ∈ desired, .start installed = verdict reconciler.active subscription ∨
      .replace installed = verdict reconciler.active subscription := by
    rcases hchange with hchange | hchange
    · rcases verdict_of_mem h hchange with ⟨subscription, hmem, heq⟩ | ⟨id, hcancel⟩
      · exact ⟨subscription, hmem, .inl heq⟩
      · cases hcancel
    · rcases verdict_of_mem h hchange with ⟨subscription, hmem, heq⟩ | ⟨id, hcancel⟩
      · exact ⟨subscription, hmem, .inr heq⟩
      · cases hcancel
  obtain ⟨subscription, hmem, hverdict⟩ := hverdict
  have hplaced := (lookup_reconcile h).1 subscription hmem
  unfold verdict at hverdict
  unfold placed at hplaced
  cases hentry : lookup reconciler.active subscription.id with
  | none =>
      rw [hentry] at hverdict hplaced
      rcases hverdict with heq | heq
      · cases heq
        exact ⟨_, hplaced, rfl⟩
      · cases heq
  | some entry =>
      rw [hentry] at hverdict hplaced
      dsimp only at hverdict hplaced
      by_cases hsame : subscription.hasDescriptor entry.descriptor = true
      · rw [if_pos hsame] at hverdict
        rcases hverdict with heq | heq <;> cases heq
      · rw [if_neg hsame] at hverdict hplaced
        rcases hverdict with heq | heq
        · cases heq
        · cases heq
          exact ⟨_, hplaced, rfl⟩

end SubscriptionReconciler

/-- What each Component has active, by its own bookkeeping. -/
def Program.books (program : Program) : List (ComponentId × List ActiveDescriptor) :=
  program.components.map fun component => (component.id, component.kernel.subscriptions.active)

theorem Program.books_setComponent {program : Program} {id : ComponentId} {messageType : TypeId}
    {kernel kernel' : ErasedComponentKernel}
    (h : program.component? id messageType = some kernel) (hid : kernel'.id = kernel.id)
    (hbooks : kernel'.kernel.subscriptions.active = kernel.kernel.subscriptions.active) :
    (program.setComponent id messageType kernel').books = program.books :=
  @Table.map_modifyFirst_found _ _ _ (fun _ => kernel')
    (fun component : ErasedComponentKernel =>
      (component.id, component.kernel.subscriptions.active)) _ _ h (by rw [hid, hbooks])

namespace Live

/-! ## Rows and what they were activated for -/

/-- `subscription` is `origin`, or has its capability and an equal descriptor. -/
def Serves (subscription origin : ErasedRuntimeSubscription) : Prop :=
  subscription = origin ∨ subscription.descriptorSnapshot.Equals origin.descriptorSnapshot

/-- History of the realizations. -/
def Observation.activation? : Observation → Option (SourceStamp × ErasedRuntimeSubscription)
  | .activated stamp subscription => some (stamp, subscription)
  | _ => none

/-- What each realization was activated for. -/
def Core.activations (core : Core) : List (SourceStamp × ErasedRuntimeSubscription) :=
  core.journal.filterMap Observation.activation?

theorem Core.activations_eq (core : Core) : core.activations =
    (core.journal.filter (·.isInstallation)).filterMap Observation.activation? := by
  unfold Core.activations
  rw [List.filterMap_filter]
  refine List.filterMap_congr fun observation _ => ?_
  cases observation <;> rfl

theorem Core.activations_observed (core : Core) (observation : Observation) :
    (core.observed observation).activations =
      core.activations ++ observation.activation?.toList := by
  unfold Core.activations
  rw [Core.observed_journal, List.filterMap_append]
  cases observation <;> rfl

/-- A mapper that is put on a realization, or used there. -/
def Observation.mapper? : Observation → Option (SourceStamp × ErasedRuntimeSubscription)
  | .retained stamp subscription => some (stamp, subscription)
  | .mapped stamp _ subscription _ _ => some (stamp, subscription)
  | _ => none

/-- Every mapper that was put on a realization after its activation, or used. -/
def Core.mappers (core : Core) : List (SourceStamp × ErasedRuntimeSubscription) :=
  core.journal.filterMap Observation.mapper?

theorem Core.mappers_eq (core : Core) : core.mappers =
    (core.journal.filter (·.isInstallation)).filterMap Observation.mapper? := by
  unfold Core.mappers
  rw [List.filterMap_filter]
  refine List.filterMap_congr fun observation _ => ?_
  cases observation <;> rfl

theorem Core.mappers_observed (core : Core) (observation : Observation) :
    (core.observed observation).mappers = core.mappers ++ observation.mapper?.toList := by
  unfold Core.mappers
  rw [Core.observed_journal, List.filterMap_append]
  cases observation <;> rfl

/-- The mapper was given events of the type that it takes. -/
def Observation.Downcasts : Observation → Prop
  | .mapped _ _ subscription outer _ =>
      ∀ event ∈ outer, event.type = subscription.sourceEventType
  | _ => True

theorem downcasts_observed {core : Core} {observation : Observation}
    (h : ∀ old ∈ core.journal, old.Downcasts) (hnew : observation.Downcasts) :
    ∀ old ∈ (core.observed observation).journal, old.Downcasts := by
  intro old hold
  rcases List.mem_append.mp hold with hmem | hlast
  · exact h old hmem
  · rw [List.mem_singleton.mp hlast]
    exact hnew

/-- The mapper of every row serves what its realization was activated for, and
    so did every mapper when it was put there and when it was used. -/
structure Kept (core : Core) : Prop where
  once : (core.activations.map (·.1.generation)).Nodup
  issued : ∀ activation ∈ core.activations, activation.1.generation < core.nextGeneration
  distinct : (core.sources.map (·.stamp.generation)).Nodup
  installed : ∀ source ∈ core.sources, ∃ origin, (source.stamp, origin) ∈ core.activations ∧
    origin.sourcePlan.Resumes source.plan ∧ Serves source.subscription origin
  used : ∀ mapper ∈ core.mappers, ∃ origin, (mapper.1, origin) ∈ core.activations ∧
    Serves mapper.2 origin
  downcasts : ∀ observation ∈ core.journal, observation.Downcasts

namespace Kept

variable {core core' : Core}

theorem activations_of_unmoved (hunmoved : Unmoved core core') :
    core'.activations = core.activations := by
  rw [core'.activations_eq, hunmoved.installations, ← core.activations_eq]

theorem mappers_of_unmoved (hunmoved : Unmoved core core') : core'.mappers = core.mappers := by
  rw [core'.mappers_eq, hunmoved.installations, ← core.mappers_eq]

theorem downcasts_of_unmoved (hunmoved : Unmoved core core')
    (h : ∀ observation ∈ core.journal, observation.Downcasts) :
    ∀ observation ∈ core'.journal, observation.Downcasts := by
  intro observation hmem
  cases hinstallation : observation.isInstallation with
  | true =>
      have hfilter : observation ∈ core'.journal.filter (·.isInstallation) :=
        List.mem_filter.mpr ⟨hmem, hinstallation⟩
      rw [hunmoved.installations] at hfilter
      exact h observation (List.mem_of_mem_filter hfilter)
  | false =>
      cases observation with
      | mapped stamp event subscription outer messages => cases hinstallation
      | _ => trivial

/-- A realization was activated for one Subscription. -/
theorem origin_unique (h : Kept core) {stamp : SourceStamp} {origin other : ErasedRuntimeSubscription}
    (horigin : (stamp, origin) ∈ core.activations) (hother : (stamp, other) ∈ core.activations) :
    origin = other :=
  congrArg Prod.snd (List.inj_on_of_nodup_map h.once horigin hother rfl)

theorem unmoved (h : Kept core) (hunmoved : Unmoved core core') : Kept core' := by
  have hactivations := activations_of_unmoved hunmoved
  refine ⟨?_, ?_, ?_, ?_, ?_, downcasts_of_unmoved hunmoved h.downcasts⟩
  · rw [hactivations]
    exact h.once
  · rw [hactivations]
    intro activation hmem
    exact lt_of_lt_of_le (h.issued activation hmem) hunmoved.nextGeneration
  · have hstamps := hunmoved.seats.map fun seat => seat.1.generation
    rw [List.map_map, List.map_map] at hstamps
    exact h.distinct.sublist hstamps
  · rw [hactivations]
    intro source hsource
    obtain ⟨old, hold, hseat, hplan, _⟩ := hunmoved.rows source hsource
    obtain ⟨origin, horigin, hlowered, hserves⟩ := h.installed old hold
    obtain ⟨hstamp, hsubscription⟩ := Prod.mk.inj hseat
    rw [hstamp, hsubscription]
    exact ⟨origin, horigin, IsTrans.trans _ _ _ hlowered hplan, hserves⟩
  · rw [hactivations, mappers_of_unmoved hunmoved]
    exact h.used

/-- A withdrawal installs nothing. -/
theorem withdrawn (h : Kept core) (stamp : SourceStamp) : Kept (core.observed (.withdrawn stamp)) := by
  have hactivations : (core.observed (.withdrawn stamp)).activations = core.activations :=
    (Core.activations_observed _ _).trans (List.append_nil _)
  have hmappers : (core.observed (.withdrawn stamp)).mappers = core.mappers :=
    (Core.mappers_observed _ _).trans (List.append_nil _)
  refine ⟨?_, ?_, h.distinct, ?_, ?_, downcasts_observed h.downcasts trivial⟩
  · rw [hactivations]
    exact h.once
  · rw [hactivations]
    exact h.issued
  · rw [hactivations]
    exact h.installed
  · rw [hactivations, hmappers]
    exact h.used

/-- A realization is put in place that has been given the next generation. -/
theorem installedRow (h : Kept core) {stamp : SourceStamp}
    (hstamp : ∀ activation ∈ core.activations, activation.1.generation < stamp.generation)
    (hnext : stamp.generation < core.nextGeneration) (subscription : ErasedRuntimeSubscription)
    (task : Nat) : Kept (core.installed stamp subscription task) := by
  have hactivations : (core.installed stamp subscription task).activations =
      core.activations ++ [(stamp, subscription)] := Core.activations_observed _ _
  have hmappers : (core.installed stamp subscription task).mappers = core.mappers :=
    (Core.mappers_observed _ _).trans (List.append_nil _)
  refine ⟨?_, ?_, ?_, ?_, ?_, downcasts_observed h.downcasts trivial⟩
  · rw [hactivations, List.map_append]
    refine List.nodup_append.mpr ⟨h.once, List.nodup_singleton _, ?_⟩
    intro generation hgeneration last hlast heq
    obtain ⟨activation, hmem, rfl⟩ := List.mem_map.mp hgeneration
    have hlt := hstamp activation hmem
    rw [heq, List.mem_singleton.mp hlast] at hlt
    exact lt_irrefl _ hlt
  · rw [hactivations]
    intro activation hmem
    rcases List.mem_append.mp hmem with hold | hnew
    · exact h.issued activation hold
    · rw [List.mem_singleton.mp hnew]
      exact hnext
  · have hsources : ((core.installed stamp subscription task).sources.map (·.stamp.generation)) =
        core.sources.map (·.stamp.generation) ++ [stamp.generation] := List.map_append
    rw [hsources]
    refine List.nodup_append.mpr ⟨h.distinct, List.nodup_singleton _, ?_⟩
    intro generation hgeneration last hlast heq
    obtain ⟨source, hsource, rfl⟩ := List.mem_map.mp hgeneration
    obtain ⟨origin, horigin, _⟩ := h.installed source hsource
    have hlt := hstamp _ horigin
    rw [List.mem_singleton.mp hlast] at heq
    exact absurd heq (ne_of_lt hlt)
  · rw [hactivations]
    intro source hsource
    rcases List.mem_append.mp hsource with hold | hnew
    · obtain ⟨origin, horigin, hrest⟩ := h.installed source hold
      exact ⟨origin, List.mem_append_left _ horigin, hrest⟩
    · rw [List.mem_singleton.mp hnew]
      exact ⟨subscription, List.mem_append_right _ List.mem_cons_self, refl subscription.sourcePlan,
        .inl rfl⟩
  · rw [hactivations, hmappers]
    intro mapper hmapper
    obtain ⟨origin, horigin, hserves⟩ := h.used mapper hmapper
    exact ⟨origin, List.mem_append_left _ horigin, hserves⟩

/-- A mapper is installed that serves what the row was activated for. -/
theorem retained (h : Kept core) {source : ActiveSource} (hsource : source ∈ core.sources)
    {subscription : ErasedRuntimeSubscription}
    (hserves : ∀ origin, (source.stamp, origin) ∈ core.activations → Serves subscription origin) :
    Kept ((core.withSource source.stamp.generation ({ · with subscription })).observed
      (.retained source.stamp subscription)) := by
  have hactivations : ((core.withSource source.stamp.generation ({ · with subscription })).observed
      (.retained source.stamp subscription)).activations = core.activations :=
    (Core.activations_observed _ _).trans (List.append_nil _)
  have hmappers : ((core.withSource source.stamp.generation ({ · with subscription })).observed
      (.retained source.stamp subscription)).mappers = core.mappers ++ [(source.stamp, subscription)] :=
    Core.mappers_observed _ _
  refine ⟨?_, ?_, ?_, ?_, ?_, downcasts_observed h.downcasts trivial⟩
  · rw [hactivations]
    exact h.once
  · rw [hactivations]
    exact h.issued
  · have hsame : (core.withSource source.stamp.generation ({ · with subscription })).sources.map
        (·.stamp.generation) = core.sources.map (·.stamp.generation) := by
      refine Table.map_modifyFirst ?_ core.sources
      intro row _
      rfl
    rw [Core.observed_sources, hsame]
    exact h.distinct
  · rw [hactivations]
    intro row hrow
    rcases Table.mem_modifyFirst hrow with hmem | ⟨old, hold, rfl⟩
    · exact h.installed row hmem
    · have hfound : core.sources.find? (·.stamp.generation = source.stamp.generation) =
          some source := Table.find?_of_nodup h.distinct hsource
      rw [hfound] at hold
      cases hold
      obtain ⟨origin, horigin, hlowered, _⟩ := h.installed source hsource
      exact ⟨origin, horigin, hlowered, hserves origin horigin⟩
  · rw [hactivations, hmappers]
    intro mapper hmapper
    rcases List.mem_append.mp hmapper with hold | hnew
    · exact h.used mapper hold
    · obtain ⟨origin, horigin, _⟩ := h.installed source hsource
      rw [List.mem_singleton.mp hnew]
      exact ⟨origin, horigin, hserves origin horigin⟩

/-- The history is all that `Kept` looks at, and the rows. -/
theorem of_program (h : Kept core) (program : Program) : Kept { core with program } :=
  ⟨h.once, h.issued, h.distinct, h.installed, h.used, h.downcasts⟩

end Kept

/-! ## Rows, bookkeeping and changes that are owed -/

/-- What reconciliations have decided and the owner has not carried out. -/
abbrev Owed := List (ComponentId × ErasedSubscriptionChange)

def ActiveSource.key (source : ActiveSource) : ComponentId × SubscriptionId :=
  (source.stamp.component, source.stamp.subscription)

/-- The Component has `snapshot` active under `id`, by its own bookkeeping. -/
def Core.Books (core : Core) (component : ComponentId) (id : SubscriptionId)
    (snapshot : SourceDescriptorSnapshot) : Prop :=
  ∀ book ∈ core.program.books, book.1 = component →
    ∃ entry, lookup book.2 id = some entry ∧ entry.descriptor = snapshot

/-- The bookkeeping still has for `source` what that was activated for. -/
def Core.Current (core : Core) (source : ActiveSource) : Prop :=
  ∀ origin, (source.stamp, origin) ∈ core.activations →
    core.Books source.stamp.component source.stamp.subscription origin.descriptorSnapshot

/-- Rows, bookkeeping and the changes that are owed agree, but for the rows
    that Drain retains.  Rows and changes belong to the Components in `owner`. -/
structure Agreed (owner : ComponentId → Prop) (core : Core) (owed : Owed) : Prop where
  kept : Kept core
  owners : ∀ source ∈ core.sources, owner source.stamp.component
  debtors : ∀ component change, (component, change) ∈ owed → owner component
  ids : (core.program.books.map (·.1)).Nodup
  sets : ∀ book ∈ core.program.books, (book.2.map (·.id)).Nodup
  keys : (core.sources.map (·.key)).Nodup
  once : (owed.map fun change => (change.1, change.2.id)).Nodup
  current : ∀ source ∈ core.sources, source.drainRetained = false → core.Current source ∨
    ∃ change, (source.stamp.component, change) ∈ owed ∧ withdraws change = true ∧
      change.id = source.stamp.subscription
  fresh : ∀ component subscription, (component, .start subscription) ∈ owed →
    ∀ source ∈ core.sources, source.key ≠ (component, subscription.id)
  retains : ∀ component subscription, (component, .retain subscription) ∈ owed →
    ∀ source ∈ core.sources, source.key = (component, subscription.id) →
      ∀ origin, (source.stamp, origin) ∈ core.activations → Serves subscription origin
  installs : ∀ component change, (component, change) ∈ owed →
    ∀ subscription, starts change = some subscription →
      core.Books component subscription.id subscription.descriptorSnapshot

namespace Agreed

variable {owner : ComponentId → Prop} {core core' : Core} {owed owed' : Owed}

theorem books_of_unmoved (hunmoved : Unmoved core core') {component : ComponentId}
    {id : SubscriptionId} {snapshot : SourceDescriptorSnapshot}
    (h : core.Books component id snapshot) : core'.Books component id snapshot := by
  unfold Core.Books
  rw [hunmoved.program]
  exact h

theorem current_of_unmoved (hunmoved : Unmoved core core') {source old : ActiveSource}
    (hseat : source.seat = old.seat) (h : core.Current old) : core'.Current source := by
  intro origin horigin
  have hstamp : source.stamp = old.stamp := (Prod.mk.inj hseat).1
  rw [Kept.activations_of_unmoved hunmoved, hstamp] at horigin
  rw [hstamp]
  exact books_of_unmoved hunmoved (h origin horigin)

theorem unmoved (h : Agreed owner core owed) (hunmoved : Unmoved core core') :
    Agreed owner core' owed := by
  refine ⟨h.kept.unmoved hunmoved, ?_, h.debtors, ?_, ?_, ?_, h.once, ?_, ?_, ?_, ?_⟩
  · intro source hsource
    obtain ⟨old, hold, hseat, _⟩ := hunmoved.rows source hsource
    have hstamp : source.stamp = old.stamp := (Prod.mk.inj hseat).1
    rw [hstamp]
    exact h.owners old hold
  · rw [hunmoved.program]
    exact h.ids
  · rw [hunmoved.program]
    exact h.sets
  · have hkeys := hunmoved.seats.map fun seat => (seat.1.component, seat.1.subscription)
    rw [List.map_map, List.map_map] at hkeys
    exact h.keys.sublist hkeys
  · intro source hsource hretained
    obtain ⟨old, hold, hseat, _, hkept⟩ := hunmoved.rows source hsource
    have hbefore : old.drainRetained = false := by
      by_contra htrue
      rw [hkept (Bool.eq_true_of_not_eq_false htrue)] at hretained
      cases hretained
    have hstamp : source.stamp = old.stamp := (Prod.mk.inj hseat).1
    rcases h.current old hold hbefore with hcurrent | howed
    · exact .inl (current_of_unmoved hunmoved hseat hcurrent)
    · rw [hstamp]
      exact .inr howed
  · intro component subscription howed source hsource
    obtain ⟨old, hold, hseat, _⟩ := hunmoved.rows source hsource
    have hkey : source.key = old.key :=
      congrArg (fun seat => (seat.1.component, seat.1.subscription)) hseat
    rw [hkey]
    exact h.fresh component subscription howed old hold
  · intro component subscription howed source hsource hkey origin horigin
    obtain ⟨old, hold, hseat, _⟩ := hunmoved.rows source hsource
    have hkey' : source.key = old.key :=
      congrArg (fun seat => (seat.1.component, seat.1.subscription)) hseat
    have hstamp : source.stamp = old.stamp := (Prod.mk.inj hseat).1
    rw [Kept.activations_of_unmoved hunmoved, hstamp] at horigin
    exact h.retains component subscription howed old hold (hkey' ▸ hkey) origin horigin
  · intro component change howed subscription hstarts
    exact books_of_unmoved hunmoved (h.installs component change howed subscription hstarts)

theorem withdrawn (h : Agreed owner core owed) (stamp : SourceStamp) :
    Agreed owner (core.observed (.withdrawn stamp)) owed := by
  have hactivations : (core.observed (.withdrawn stamp)).activations = core.activations :=
    (Core.activations_observed _ _).trans (List.append_nil _)
  refine ⟨h.kept.withdrawn stamp, h.owners, h.debtors, h.ids, h.sets, h.keys, h.once, ?_, h.fresh, ?_,
    h.installs⟩
  · unfold Core.Current
    rw [hactivations]
    exact h.current
  · rw [hactivations]
    exact h.retains

theorem perm (h : Agreed owner core owed) (hperm : owed.Perm owed') : Agreed owner core owed' where
  kept := h.kept
  owners := h.owners
  debtors component change hmem := h.debtors component change (hperm.mem_iff.mpr hmem)
  ids := h.ids
  sets := h.sets
  keys := h.keys
  once := (hperm.map _).nodup_iff.mp h.once
  current source hsource hretained := by
    refine (h.current source hsource hretained).imp_right ?_
    rintro ⟨change, hmem, hrest⟩
    exact ⟨change, hperm.mem_iff.mp hmem, hrest⟩
  fresh component subscription hmem := h.fresh component subscription (hperm.mem_iff.mpr hmem)
  retains component subscription hmem := h.retains component subscription (hperm.mem_iff.mpr hmem)
  installs component change hmem := h.installs component change (hperm.mem_iff.mpr hmem)

/-- A change has been carried out, or is not carried out on a retained row. -/
theorem done {component : ComponentId} {change : ErasedSubscriptionChange}
    (h : Agreed owner core ((component, change) :: owed))
    (hclear : withdraws change = true → ∀ source ∈ core.sources,
      source.key = (component, change.id) → source.drainRetained = true) :
    Agreed owner core owed where
  kept := h.kept
  owners := h.owners
  debtors component change hmem := h.debtors component change (List.mem_cons_of_mem _ hmem)
  ids := h.ids
  sets := h.sets
  keys := h.keys
  once := (List.nodup_cons.mp h.once).2
  current source hsource hretained := by
    rcases h.current source hsource hretained with hcurrent | ⟨other, hmem, hwithdraws, hid⟩
    · exact .inl hcurrent
    · rcases List.mem_cons.mp hmem with heq | hmem
      · obtain ⟨hcomponent, rfl⟩ := Prod.mk.inj heq
        have hkey : source.key = (component, other.id) := by
          rw [hid, ← hcomponent]
          rfl
        rw [hclear hwithdraws source hsource hkey] at hretained
        cases hretained
      · exact .inr ⟨other, hmem, hwithdraws, hid⟩
  fresh component subscription hmem :=
    h.fresh component subscription (List.mem_cons_of_mem _ hmem)
  retains component subscription hmem :=
    h.retains component subscription (List.mem_cons_of_mem _ hmem)
  installs component change hmem := h.installs component change (List.mem_cons_of_mem _ hmem)

/-- A realization is put in place of nothing, for what is booked. -/
theorem installedRow (h : Agreed owner core owed) {stamp : SourceStamp}
    {subscription : ErasedRuntimeSubscription}
    (hstamp : ∀ activation ∈ core.activations, activation.1.generation < stamp.generation)
    (hnext : stamp.generation < core.nextGeneration)
    (hnew : ∀ source ∈ core.sources, source.key ≠ (stamp.component, stamp.subscription))
    (howed : (stamp.component, stamp.subscription) ∉ owed.map fun change => (change.1, change.2.id))
    (howner : owner stamp.component)
    (hbooks : core.Books stamp.component stamp.subscription subscription.descriptorSnapshot)
    (task : Nat) : Agreed owner (core.installed stamp subscription task) owed := by
  have hkept := h.kept.installedRow hstamp hnext subscription task
  have hactivations : (core.installed stamp subscription task).activations =
      core.activations ++ [(stamp, subscription)] := Core.activations_observed _ _
  have hmappers : (core.installed stamp subscription task).mappers = core.mappers :=
    (Core.mappers_observed _ _).trans (List.append_nil _)
  -- The rows of before have the activations of before.
  have hbefore {source : ActiveSource} (hsource : source ∈ core.sources)
      {origin : ErasedRuntimeSubscription}
      (horigin : (source.stamp, origin) ∈ (core.installed stamp subscription task).activations) :
      (source.stamp, origin) ∈ core.activations := by
    obtain ⟨first, hfirst, _⟩ := h.kept.installed source hsource
    have hsame : origin = first := by
      refine hkept.origin_unique horigin ?_
      rw [hactivations]
      exact List.mem_append_left _ hfirst
    rw [hsame]
    exact hfirst
  refine ⟨hkept, ?_, h.debtors, h.ids, h.sets, ?_, h.once, ?_, ?_, ?_, h.installs⟩
  · intro source hsource
    rcases List.mem_append.mp hsource with hold | hlast
    · exact h.owners source hold
    · rw [List.mem_singleton.mp hlast]
      exact howner
  · have hkeys : (core.installed stamp subscription task).sources.map (·.key) =
        core.sources.map (·.key) ++ [(stamp.component, stamp.subscription)] := List.map_append
    rw [hkeys]
    refine List.nodup_append.mpr ⟨h.keys, List.nodup_singleton _, ?_⟩
    intro key hkey last hlast heq
    obtain ⟨source, hsource, rfl⟩ := List.mem_map.mp hkey
    rw [List.mem_singleton.mp hlast] at heq
    exact hnew source hsource heq
  · intro source hsource hretained
    rcases List.mem_append.mp hsource with hold | hlast
    · exact (h.current source hold hretained).imp_left fun hcurrent origin horigin =>
        hcurrent origin (hbefore hold horigin)
    · refine .inl fun origin horigin => ?_
      rw [List.mem_singleton.mp hlast] at horigin ⊢
      have hself : (stamp, subscription) ∈ (core.installed stamp subscription task).activations := by
        rw [hactivations]
        exact List.mem_append_right _ List.mem_cons_self
      rw [hkept.origin_unique horigin hself]
      exact hbooks
  · intro component started hmem source hsource hkey
    rcases List.mem_append.mp hsource with hold | hlast
    · exact h.fresh component started hmem source hold hkey
    · rw [List.mem_singleton.mp hlast] at hkey
      refine howed (List.mem_map.mpr ⟨(component, .start started), hmem, ?_⟩)
      exact hkey.symm
  · intro component kept hmem source hsource hkey origin horigin
    rcases List.mem_append.mp hsource with hold | hlast
    · exact h.retains component kept hmem source hold hkey origin (hbefore hold horigin)
    · rw [List.mem_singleton.mp hlast] at hkey
      exact absurd (List.mem_map.mpr ⟨(component, .retain kept), hmem, hkey.symm⟩) howed

/-- `Retain` installs a mapper. -/
theorem retainedRow (h : Agreed owner core owed) {source : ActiveSource}
    (hsource : source ∈ core.sources) {subscription : ErasedRuntimeSubscription}
    (hserves : ∀ origin, (source.stamp, origin) ∈ core.activations → Serves subscription origin) :
    Agreed owner ((core.withSource source.stamp.generation ({ · with subscription })).observed
      (.retained source.stamp subscription)) owed := by
  have hactivations : ((core.withSource source.stamp.generation ({ · with subscription })).observed
      (.retained source.stamp subscription)).activations = core.activations := by
    unfold Core.activations
    rw [Core.observed_journal, List.filterMap_append]
    exact List.append_nil _
  -- Every row is one of before, whatever it has installed.
  have hrow {row : ActiveSource} (hmem : row ∈ ((core.withSource source.stamp.generation
      ({ · with subscription })).observed (.retained source.stamp subscription)).sources) :
      ∃ old ∈ core.sources, row.stamp = old.stamp ∧ row.drainRetained = old.drainRetained := by
    rcases Table.mem_modifyFirst hmem with hold | ⟨old, hold, rfl⟩
    · exact ⟨row, hold, rfl, rfl⟩
    · exact ⟨old, List.mem_of_find?_eq_some hold, rfl, rfl⟩
  refine ⟨h.kept.retained hsource hserves, ?_, h.debtors, h.ids, h.sets, ?_, h.once, ?_, ?_, ?_,
    h.installs⟩
  · intro row hmem
    obtain ⟨old, hold, hstamp, _⟩ := hrow hmem
    rw [hstamp]
    exact h.owners old hold
  · have hsame : (core.withSource source.stamp.generation ({ · with subscription })).sources.map
        (·.key) = core.sources.map (·.key) := by
      refine Table.map_modifyFirst ?_ core.sources
      intro row _
      rfl
    rw [Core.observed_sources, hsame]
    exact h.keys
  · intro row hmem hretained
    obtain ⟨old, hold, hstamp, hflag⟩ := hrow hmem
    rw [hflag] at hretained
    unfold Core.Current
    rw [hactivations, hstamp]
    exact h.current old hold hretained
  · intro component started howed row hmem hkey
    obtain ⟨old, hold, hstamp, _⟩ := hrow hmem
    refine h.fresh component started howed old hold ?_
    unfold ActiveSource.key at hkey ⊢
    rw [← hstamp]
    exact hkey
  · rw [hactivations]
    intro component kept howed row hmem hkey origin horigin
    obtain ⟨old, hold, hstamp, _⟩ := hrow hmem
    unfold ActiveSource.key at hkey
    rw [hstamp] at horigin hkey
    exact h.retains component kept howed old hold hkey origin horigin

end Agreed

/-! ## The changes are carried out -/

section Changes

variable {owner : ComponentId → Prop} {owed : Owed} {component : ComponentId} {work : TraceId}

/-- A computation that moves nothing keeps what such computations keep. -/
theorem Keeps.triple {α : Type} {x : Owner α} (hx : Keeps x) {P : Core → Prop}
    (hP : ∀ core core', P core → Unmoved core core' → P core') (hkept : ∀ core, P core → Kept core) :
    Triple P x (fun _ => P) (fun _ => Kept) := by
  intro core hcore
  have hmoved := hP core _ hcore (hx core)
  cases hrun : x.run core with
  | ok value core' =>
      rw [hrun] at hmoved
      exact hmoved
  | error stop core' =>
      rw [hrun] at hmoved
      exact hkept core' hmoved

/-- `subscription` is booked and owed nothing, and no row is in its place. -/
structure Vacant (owner : ComponentId → Prop) (component : ComponentId)
    (subscription : ErasedRuntimeSubscription) (owed : Owed) (core : Core) : Prop where
  agreed : Agreed owner core owed
  owns : owner component
  free : ∀ source ∈ core.sources, source.key ≠ (component, subscription.id)
  settled : (component, subscription.id) ∉ owed.map fun change => (change.1, change.2.id)
  books : core.Books component subscription.id subscription.descriptorSnapshot

theorem Vacant.unmoved {core core' : Core} {subscription : ErasedRuntimeSubscription}
    (h : Vacant owner component subscription owed core) (hunmoved : Unmoved core core') :
    Vacant owner component subscription owed core' := by
  refine ⟨h.agreed.unmoved hunmoved, h.owns, ?_, h.settled, Agreed.books_of_unmoved hunmoved h.books⟩
  intro source hsource
  obtain ⟨old, hold, hseat, _⟩ := hunmoved.rows source hsource
  have hkey : source.key = old.key :=
    congrArg (fun seat => (seat.1.component, seat.1.subscription)) hseat
  rw [hkey]
  exact h.free old hold

/-- The state in which `activate_source` puts the row in place. -/
theorem Vacant.activated {core : Core} {subscription : ErasedRuntimeSubscription}
    (h : Vacant owner component subscription owed core) (context : TaskContext) :
    Agreed owner (core.activated component subscription context) owed := by
  have hrealized : Unmoved core (core.realized component subscription) :=
    .of_rest rfl (Nat.le_succ _)
  have hstarted := IsTrans.trans _ _ _ hrealized (Unmoved.turned (core.realized component subscription))
  have hspawned : Unmoved core (((core.realized component subscription).turn).spawned context .none) :=
    IsTrans.trans _ _ _ hstarted (.of_rest rfl le_rfl)
  have hvacant := h.unmoved hspawned
  refine hvacant.agreed.installedRow ?_ ?_ hvacant.free hvacant.settled hvacant.owns
    hvacant.books _
  · rw [Kept.activations_of_unmoved hspawned]
    exact h.agreed.kept.issued
  · have hnext : (core.realized component subscription).turn.nextGeneration =
        core.nextGeneration + 1 := (turn_beside _).nextGeneration
    have hlt : core.nextGeneration < (core.realized component subscription).turn.nextGeneration := by
      omega
    exact hlt

theorem activateSource_triple (subscription : ErasedRuntimeSubscription) :
    Triple (Vacant owner component subscription owed) (activateSource component subscription work)
      (fun _ core => Agreed owner core owed) (fun _ => Kept) := by
  have hkeeps {α : Type} {x : Owner α} (hx : Keeps x) :
      Triple (Vacant owner component subscription owed) x
        (fun _ => Vacant owner component subscription owed) (fun _ => Kept) :=
    hx.triple (fun _ _ h => h.unmoved) fun _ h => h.agreed.kept
  have hpure : Triple (Vacant owner component subscription owed) (pure () : Owner Unit)
      (fun _ core => Agreed owner core owed) (fun _ => Kept) := Exec.triple_pure fun _ h => h.agreed
  have hfault (reason : String) : Triple (Vacant owner component subscription owed)
      (runtimeFault component (some subscription.sourcePlan.terminalTypeName) work reason : Owner Unit)
      (fun _ core => Agreed owner core owed) (fun _ => Kept) :=
    Exec.triple_throw fun _ h => h.agreed.kept
  refine Exec.triple_bind (hkeeps keeps_get) fun core => ?_
  refine Exec.triple_ite (fun _ => hpure) fun _ => ?_
  refine Exec.triple_bind (hkeeps keeps_isRunning) fun running => ?_
  refine Exec.triple_ite (fun _ => hpure) fun _ => ?_
  refine Exec.triple_bind (hkeeps (keeps_uncaught _)) fun _ => ?_
  refine Exec.triple_ite (fun _ => hfault _) fun _ => Exec.triple_ite (fun _ => hfault _) fun _ => ?_
  cases core.bindings.source subscription.sourcePlan with
  | error reason => exact hfault _
  | ok binding =>
      intro start hstart
      have hrealized : (newRealization component subscription).run start =
          .ok (start.nextStamp component subscription) (start.realized component subscription) := rfl
      dsimp only
      rw [Exec.run_bind_ok hrealized]
      cases binding.start (start.nextStamp component subscription) with
      | error panic =>
          -- The Driver panics while it starts: the realization has no row.
          have hmoved : Unmoved start (start.realized component subscription) :=
            .of_rest rfl (Nat.le_succ _)
          exact (hstart.unmoved (IsTrans.trans _ _ _ hmoved (.observed rfl))).agreed.kept
      | ok value => exact hstart.activated _

/-- What `withdraw_source` leaves of the rows of an identity. -/
structure Withdrawn (owner : ComponentId → Prop) (component : ComponentId) (id : SubscriptionId)
    (owed : Owed) (removed : Bool) (core : Core) : Prop where
  agreed : Agreed owner core owed
  left : ∀ source ∈ core.sources, source.key = (component, id) →
    removed = false ∧ source.drainRetained = true

theorem withdrawSource_triple (id : SubscriptionId) :
    Triple (Agreed owner · owed) (withdrawSource component id work)
      (fun removed => Withdrawn owner component id owed removed) (fun _ => Kept) := by
  intro core h
  unfold withdrawSource
  rw [Exec.run_bind_ok (EStateM.run_get core)]
  have hkey {source : ActiveSource} : source.key = (component, id) ↔
      (source.stamp.component = component && source.stamp.subscription = id) = true := by
    rw [Bool.and_eq_true_iff, decide_eq_true_iff, decide_eq_true_iff]
    exact Prod.mk.injEq _ _ _ _ ▸ Iff.rfl
  cases hfound : core.source? component id with
  | none =>
      refine ⟨h, ?_⟩
      intro source hsource heq
      have hnot := List.find?_eq_none.mp hfound source hsource
      exact absurd (hkey.mp heq) hnot
  | some source =>
      have hsource := List.mem_of_find?_eq_some hfound
      have hfits := List.find?_some hfound
      have hself : source.key = (component, id) := hkey.mpr hfits
      have honly {row : ActiveSource} (hrow : row ∈ core.sources) (heq : row.key = (component, id)) :
          row = source := List.inj_on_of_nodup_map h.keys hrow hsource (heq.trans hself.symm)
      dsimp only
      by_cases hretained : (core.draining && source.drainRetained) = true
      · -- Drain keeps the row.
        rw [if_pos hretained]
        refine ⟨h, ?_⟩
        intro row hrow heq
        rw [honly hrow heq]
        exact ⟨rfl, (Bool.and_eq_true_iff.mp hretained).2⟩
      · rw [if_neg hretained]
        have hstop := keeps_stopSource source false work core
        rw [EStateM.run_bind]
        cases hrun : (stopSource source false work).run core with
        | error stop core₁ =>
            rw [hrun] at hstop
            exact h.kept.unmoved hstop
        | ok value core₁ =>
            rw [hrun] at hstop
            have hkept := h.kept.unmoved hstop
            have hremoved : Unmoved core (core₁.withoutSource source.stamp.generation) :=
              IsTrans.trans _ _ _ hstop (.withoutSource core₁ source.stamp.generation)
            refine ⟨(h.unmoved hremoved).withdrawn source.stamp, ?_⟩
            intro row hrow heq
            exfalso
            -- The only row of this identity is the one that has been removed.
            have herased : core₁.sources.eraseP (·.stamp.generation = source.stamp.generation) =
                core₁.sources.filter (·.stamp.generation ≠ source.stamp.generation) :=
              Table.eraseP_eq_filter hkept.distinct _
            have hleft : row ∈ core₁.sources.filter
                (·.stamp.generation ≠ source.stamp.generation) := herased ▸ hrow
            obtain ⟨hmem, hother⟩ := List.mem_filter.mp hleft
            obtain ⟨old, hold, hseat, _⟩ := hstop.rows row hmem
            have hstamp : row.stamp = old.stamp := (Prod.mk.inj hseat).1
            have hold' : old.key = (component, id) := by
              unfold ActiveSource.key at heq ⊢
              rw [← hstamp]
              exact heq
            rw [hstamp, honly hold hold'] at hother
            exact of_decide_eq_true hother rfl

theorem applySubscriptionChange_triple (change : ErasedSubscriptionChange) :
    Triple (Agreed owner · ((component, change) :: owed))
      (applySubscriptionChange component work change)
      (fun _ core => Agreed owner core owed) (fun _ => Kept) := by
  have hsettled {core : Core} (h : Agreed owner core ((component, change) :: owed)) :
      (component, change.id) ∉ owed.map fun change => (change.1, change.2.id) :=
    (List.nodup_cons.mp h.once).1
  cases change with
  | start subscription =>
      refine Exec.triple_conseq (activateSource_triple subscription) ?_ (fun _ _ => id) fun _ _ => id
      intro core h
      exact ⟨h.done (fun hfalse => nomatch hfalse), h.debtors component _ List.mem_cons_self,
        h.fresh component subscription List.mem_cons_self, hsettled h,
        h.installs component _ List.mem_cons_self subscription rfl⟩
  | retain subscription =>
      intro core h
      unfold applySubscriptionChange
      dsimp only
      rw [Exec.run_bind_ok (EStateM.run_get core)]
      have hdone := h.done fun hfalse => nomatch hfalse
      cases hfound : core.source? component subscription.id with
      | none => exact hdone
      | some source =>
          have hself : source.key = (component, subscription.id) := by
            simpa [ActiveSource.key] using List.find?_some hfound
          exact hdone.retainedRow (List.mem_of_find?_eq_some hfound)
            (h.retains component subscription List.mem_cons_self source
              (List.mem_of_find?_eq_some hfound) hself)
  | replace subscription =>
      intro core h
      refine Exec.triple_bind (withdrawSource_triple subscription.id) (fun removed => ?_) core h
      cases removed with
      | false =>
          refine Exec.triple_pure fun core hleft => ?_
          exact hleft.agreed.done fun _ source hsource hkey => (hleft.left source hsource hkey).2
      | true =>
          refine Exec.triple_conseq (activateSource_triple subscription) ?_ (fun _ _ => id)
            fun _ _ => id
          intro core hleft
          have hgone : ∀ source ∈ core.sources, source.key ≠ (component, subscription.id) :=
            fun source hsource hkey => nomatch (hleft.left source hsource hkey).1
          exact ⟨hleft.agreed.done fun _ source hsource hkey => absurd hkey (hgone source hsource),
            hleft.agreed.debtors component _ List.mem_cons_self, hgone, hsettled hleft.agreed,
            hleft.agreed.installs component _ List.mem_cons_self subscription rfl⟩
  | cancel id =>
      refine Exec.triple_bind (withdrawSource_triple id) fun removed => ?_
      refine Exec.triple_pure fun core hleft => ?_
      exact hleft.agreed.done fun _ source hsource hkey => (hleft.left source hsource hkey).2

theorem applyChanges_triple (changes : List ErasedSubscriptionChange) :
    Triple (Agreed owner · (changes.map fun change => (component, change)))
      (applyChanges component work changes) (fun _ core => Agreed owner core []) (fun _ => Kept) := by
  induction changes with
  | nil => exact Exec.triple_pure fun _ => id
  | cons change changes ih =>
      have hcutoff := keeps_observeDrainCutoff.triple
        (P := (Agreed owner · ((change :: changes).map fun change => (component, change))))
        (fun _ _ h => h.unmoved) fun _ h => h.kept
      exact Exec.triple_bind hcutoff fun _ =>
        Exec.triple_bind (applySubscriptionChange_triple change) fun _ => ih

theorem applySubscriptionChanges_triple (changes : List ErasedSubscriptionChange) :
    Triple (Agreed owner · (changes.map fun change => (component, change)))
      (applySubscriptionChanges component changes work) (fun _ core => Agreed owner core [])
        (fun _ => Kept) := by
  have hperm : (sortChanges changes).Perm changes := List.perm_insertionSort _ changes
  refine Exec.triple_conseq (applyChanges_triple (sortChanges changes)) ?_ (fun _ _ => id)
    fun _ _ => id
  exact fun core h => h.perm (hperm.symm.map _)

end Changes

/-! ## Reconciliations -/

namespace Agreed

variable {owner : ComponentId → Prop} {core : Core} {owed : Owed}

/-- Kernels are stored that have the same Subscriptions active. -/
theorem of_books (h : Agreed owner core owed) {program : Program}
    (hbooks : program.books = core.program.books) : Agreed owner { core with program } owed := by
  have hsame {component : ComponentId} {id : SubscriptionId} {snapshot : SourceDescriptorSnapshot}
      (hbefore : core.Books component id snapshot) :
      ({ core with program } : Core).Books component id snapshot := by
    unfold Core.Books
    rw [hbooks]
    exact hbefore
  refine ⟨h.kept.of_program program, h.owners, h.debtors, ?_, ?_, h.keys, h.once, ?_, h.fresh,
    h.retains, ?_⟩
  · rw [hbooks]
    exact h.ids
  · rw [hbooks]
    exact h.sets
  · intro source hsource hretained
    exact (h.current source hsource hretained).imp_left fun hcurrent origin horigin =>
      hsame (hcurrent origin horigin)
  · intro component change howed subscription hstarts
    exact hsame (h.installs component change howed subscription hstarts)

/-- The books once a kernel has been stored. -/
theorem books_stored (hids : (core.program.books.map (·.1)).Nodup) {id : ComponentId}
    {messageType : TypeId} {kernel kernel' : ErasedComponentKernel}
    (hkernel : core.program.component? id messageType = some kernel) (hid : kernel'.id = kernel.id) :
    ((core.program.setComponent id messageType kernel').books.map (·.1)).Nodup ∧
      ∀ book ∈ (core.program.setComponent id messageType kernel').books,
        book = (id, kernel'.kernel.subscriptions.active) ∨
          (book.1 ≠ id ∧ book ∈ core.program.books) := by
  have hdistinct : (core.program.components.map (·.id)).Nodup := by
    unfold Program.books at hids
    rw [List.map_map] at hids
    exact hids
  constructor
  · unfold Program.books
    rw [List.map_map]
    have hsame : (core.program.setComponent id messageType kernel').components.map (·.id) =
        core.program.components.map (·.id) :=
      @Table.map_modifyFirst_found _ _ _ (fun _ => kernel')
        (fun component : ErasedComponentKernel => component.id) _ _ hkernel hid
    exact hsame ▸ hdistinct
  · intro book hbook
    obtain ⟨component, hcomponent, rfl⟩ := List.mem_map.mp hbook
    rcases Program.mem_setComponent hdistinct hkernel hcomponent with rfl | ⟨hmem, hother⟩
    · left
      rw [hid, (Program.component?_eq_some hkernel).1]
    · exact .inr ⟨hother, List.mem_map_of_mem hmem⟩

/-- The bookkeeping moves on to what is desired, and what that takes is owed. -/
theorem reconciled (h : Agreed owner core []) {id : ComponentId} {messageType : TypeId}
    {kernel kernel' : ErasedComponentKernel}
    {desired : List (Subscription (RustTypes.componentMessage kernel.componentType))}
    {changes : List (SubscriptionChange (RustTypes.componentMessage kernel.componentType))}
    (hkernel : core.program.component? id messageType = some kernel) (hid : kernel'.id = kernel.id)
    (hcurrent : ∀ source ∈ core.sources, source.stamp.component = id → core.Current source)
    (hreconcile : kernel.kernel.subscriptions.reconcile desired =
      .ok (changes, kernel'.kernel.subscriptions)) :
    Agreed (fun component => owner component ∨ component = id)
      { core with program := core.program.setComponent id messageType kernel' }
      ((changes.map eraseSubscriptionChange).map fun change => (id, change)) := by
  obtain ⟨hids, hstored⟩ := books_stored h.ids hkernel hid
  have hbook : (id, kernel.kernel.subscriptions.active) ∈ core.program.books := by
    rw [← (Program.component?_eq_some hkernel).1]
    exact List.mem_map_of_mem (List.mem_of_find?_eq_some hkernel)
  have hdecided := SubscriptionReconciler.reconcile_decided hreconcile (h.sets _ hbook)
  -- What was booked for a row of the Component before.
  have hbefore {source : ActiveSource} (hsource : source ∈ core.sources)
      (howner : source.stamp.component = id) {origin : ErasedRuntimeSubscription}
      (horigin : (source.stamp, origin) ∈ core.activations) :
      ∃ entry, lookup kernel.kernel.subscriptions.active source.stamp.subscription = some entry ∧
        entry.descriptor = origin.descriptorSnapshot :=
    hcurrent source hsource howner origin horigin _ hbook howner.symm
  have howed {component : ComponentId} {change : ErasedSubscriptionChange}
      (hmem : (component, change) ∈ (changes.map eraseSubscriptionChange).map (id, ·)) :
      component = id ∧ ∃ original ∈ changes, change = eraseSubscriptionChange original := by
    obtain ⟨erased, herased, heq⟩ := List.mem_map.mp hmem
    obtain ⟨original, horiginal, rfl⟩ := List.mem_map.mp herased
    cases heq
    exact ⟨rfl, original, horiginal, rfl⟩
  have howe {original : SubscriptionChange (RustTypes.componentMessage kernel.componentType)}
      (horiginal : original ∈ changes) : (id, eraseSubscriptionChange original) ∈
        (changes.map eraseSubscriptionChange).map (id, ·) :=
    List.mem_map_of_mem (List.mem_map_of_mem horiginal)
  refine ⟨h.kept.of_program _, fun source hsource => .inl (h.owners source hsource), ?_, hids, ?_,
    h.keys, ?_, ?_, ?_, ?_, ?_⟩
  · exact fun component change hmem => .inr (howed hmem).1
  · intro book hmem
    rcases hstored book hmem with rfl | ⟨_, hold⟩
    · exact hdecided.nodup
    · exact h.sets book hold
  · have honce := hdecided.once.map (f := fun changed => (id, changed)) fun _ _ heq =>
      (Prod.mk.inj heq).2
    rw [List.map_map] at honce ⊢
    rw [List.map_map]
    refine (congrArg List.Nodup (List.map_congr_left fun change _ => ?_)).mp honce
    exact congrArg (Prod.mk id) (id_eraseSubscriptionChange change).symm
  · intro source hsource hretained
    by_cases howner : source.stamp.component = id
    · obtain ⟨origin, horigin, _⟩ := h.kept.installed source hsource
      obtain ⟨entry, hentry, hsnapshot⟩ := hbefore hsource howner horigin
      -- What was booked for the row is booked still, or its withdrawal is owed.
      rcases SubscriptionReconciler.kept_or_withdrawn hreconcile hentry with
        hstill | ⟨subscription, hreplace, hid⟩ | hcancel
      · left
        intro other hother book hmem hcomponent
        rw [h.kept.origin_unique hother horigin]
        rcases hstored book hmem with rfl | ⟨hne, _⟩
        · exact ⟨entry, hstill, hsnapshot⟩
        · exact absurd (hcomponent.trans howner) hne
      · right
        rw [howner]
        exact ⟨_, howe hreplace, rfl, hid⟩
      · right
        rw [howner]
        exact ⟨_, howe hcancel, rfl, rfl⟩
    · left
      intro origin horigin book hmem hcomponent
      rcases hstored book hmem with rfl | ⟨_, hold⟩
      · exact absurd hcomponent.symm howner
      · rcases h.current source hsource hretained with hbooked | ⟨_, hnothing, _⟩
        · exact hbooked origin horigin book hold hcomponent
        · cases hnothing
  · intro component subscription hmem source hsource hkey
    obtain ⟨rfl, original, horiginal, heq⟩ := howed hmem
    obtain ⟨howner, hid⟩ := Prod.mk.inj hkey
    obtain ⟨origin, horigin, _⟩ := h.kept.installed source hsource
    obtain ⟨entry, hentry, _⟩ := hbefore hsource howner horigin
    cases original with
    | start started =>
        -- What is started was not booked, and every row of the Component was.
        cases heq
        have hnone := SubscriptionReconciler.unbooked_of_start hreconcile horiginal
        rw [hid] at hentry
        exact nomatch hentry.symm.trans hnone
    | _ => cases heq
  · intro component subscription hmem source hsource hkey origin horigin
    obtain ⟨rfl, original, horiginal, heq⟩ := howed hmem
    obtain ⟨howner, hid⟩ := Prod.mk.inj hkey
    obtain ⟨entry, hentry, hsnapshot⟩ := hbefore hsource howner horigin
    cases original with
    | retain retained =>
        -- What is retained has a descriptor equal to the one that is booked.
        cases heq
        rcases SubscriptionReconciler.verdict_of_mem hreconcile horiginal with
          ⟨wanted, _, hverdict⟩ | ⟨_, hcancel⟩
        · obtain ⟨rfl, booked, hbooked, hequals⟩ :=
            SubscriptionReconciler.equals_of_retain hverdict.symm
          rw [hid] at hentry
          have hsame : entry = booked := Option.some.inj (hentry.symm.trans hbooked)
          right
          rw [← hsnapshot, hsame]
          exact hequals
        · cases hcancel
    | _ => cases heq
  · intro component change hmem subscription hstarts book hbooks hcomponent
    obtain ⟨rfl, original, horiginal, rfl⟩ := howed hmem
    have hinstalled : ∃ installed, subscription = ⟨_, installed⟩ ∧
        (.start installed ∈ changes ∨ .replace installed ∈ changes) := by
      cases original with
      | start installed =>
          cases hstarts
          exact ⟨installed, rfl, .inl horiginal⟩
      | replace installed =>
          cases hstarts
          exact ⟨installed, rfl, .inr horiginal⟩
      | _ => cases hstarts
    obtain ⟨installed, rfl, hmem⟩ := hinstalled
    rcases hstored book hbooks with rfl | ⟨hne, _⟩
    · exact SubscriptionReconciler.booked_of_install hreconcile hmem
    · exact absurd hcomponent hne

end Agreed

end Live

end Samara
