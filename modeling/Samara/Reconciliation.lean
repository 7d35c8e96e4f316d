/-
  Samara.Reconciliation

  What a reconciliation decides, exactly: the loops over the desired and the
  active Subscriptions come down to one decision for each identity, made from
  what was active before the call.  What is active afterwards is what was
  desired, so that nothing earlier can be told from it.
-/
import Samara.Reconciler

namespace Samara

variable [RustTypes]

/-! ## Equality of descriptors -/

/-- Applications implement the equality of their descriptors and decoders as an
    equivalence. -/
structure LawfulDescriptors : Prop where
  sources : ∀ type, Equivalence fun left right => RustTypes.sourceEq type left right = true
  decoders : ∀ type, Equivalence fun left right => RustTypes.decoderEq type left right = true

/-- Then the derived equality of `Framed` descriptors is one. -/
theorem DescriptorType.beq_equivalence (hlawful : LawfulDescriptors)
    (descriptorType : DescriptorType TypeId) :
    Equivalence fun left right => descriptorType.beq left right = true := by
  induction descriptorType with
  | custom type => exact hlawful.sources type
  | stream item =>
      have hname (left right : String) : streamEq left right = true ↔ left = right :=
        decide_eq_true_iff
      refine ⟨?_, ?_, ?_⟩
      · exact fun name => (hname _ _).mpr rfl
      · exact fun h => (hname _ _).mpr ((hname _ _).mp h).symm
      · exact fun h h' => (hname _ _).mpr (((hname _ _).mp h).trans ((hname _ _).mp h'))
  | framed source decoder ih =>
      have hdecoder := hlawful.decoders decoder
      refine ⟨?_, ?_, ?_⟩
      · exact fun descriptor => Bool.and_eq_true_iff.mpr ⟨ih.refl _, hdecoder.refl _⟩
      · intro left right h
        obtain ⟨hsource, hdecode⟩ := Bool.and_eq_true_iff.mp h
        exact Bool.and_eq_true_iff.mpr ⟨ih.symm hsource, hdecoder.symm hdecode⟩
      · intro left middle right h h'
        obtain ⟨hsource, hdecode⟩ := Bool.and_eq_true_iff.mp h
        obtain ⟨hsource', hdecode'⟩ := Bool.and_eq_true_iff.mp h'
        exact Bool.and_eq_true_iff.mpr ⟨ih.trans hsource hsource', hdecoder.trans hdecode hdecode'⟩

namespace SourceDescriptorSnapshot

/-- The same capability, the same descriptor type, and an equal descriptor. -/
inductive Equals : SourceDescriptorSnapshot → SourceDescriptorSnapshot → Prop where
  | mk (capability : CapabilityToken) (descriptorType : DescriptorType TypeId)
      (left right : descriptorType.Val) (h : descriptorType.beq left right = true) :
      Equals ⟨capability, descriptorType, left⟩ ⟨capability, descriptorType, right⟩

theorem equals_equivalence (hlawful : LawfulDescriptors) : Equivalence Equals := by
  refine ⟨?_, ?_, ?_⟩
  · rintro ⟨capability, descriptorType, descriptor⟩
    exact .mk _ _ _ _ ((descriptorType.beq_equivalence hlawful).refl _)
  · rintro _ _ ⟨capability, descriptorType, left, right, h⟩
    exact .mk _ _ _ _ ((descriptorType.beq_equivalence hlawful).symm h)
  · rintro _ _ _ ⟨capability, descriptorType, left, middle, h⟩ h'
    cases h' with
    | mk _ _ _ right h' =>
        exact .mk _ _ _ _ ((descriptorType.beq_equivalence hlawful).trans h h')

end SourceDescriptorSnapshot

/-- `has_descriptor` compares what the Subscription describes. -/
theorem Subscription.hasDescriptor_iff {message : TypeId} {subscription : Subscription message}
    {snapshot : SourceDescriptorSnapshot} : subscription.hasDescriptor snapshot = true ↔
      subscription.descriptorSnapshot.Equals snapshot := by
  obtain ⟨capability, descriptorType, descriptor⟩ := snapshot
  unfold hasDescriptor SourceDescriptorSnapshot.matches
  constructor
  · intro h
    obtain ⟨hcapability, hmatch⟩ := Bool.and_eq_true_iff.mp h
    have hsame := CapabilityToken.sameAs_iff.mp hcapability
    dsimp only at hsame
    split at hmatch
    · rename_i htype
      dsimp only at htype
      subst hsame
      subst htype
      exact .mk _ _ _ _ hmatch
    · cases hmatch
  · intro h
    unfold descriptorSnapshot at h
    cases h with
    | mk _ _ _ _ h =>
        refine Bool.and_eq_true_iff.mpr ⟨CapabilityToken.sameAs_iff.mpr rfl, ?_⟩
        rw [dif_pos rfl]
        exact h

namespace SubscriptionReconciler

variable {message : TypeId}

/-! ## One decision for each identity -/

/-- The row of an identity. -/
def lookup (active : List ActiveDescriptor) (id : SubscriptionId) : Option ActiveDescriptor :=
  active.find? (·.id = id)

/-- What is decided about a desired Subscription. -/
def verdict (active : List ActiveDescriptor) (subscription : Subscription message) :
    SubscriptionChange message :=
  match lookup active subscription.id with
  | none => .start subscription
  | some entry =>
      if subscription.hasDescriptor entry.descriptor then .retain subscription
      else .replace subscription

theorem verdict_reconcileOne (active : List ActiveDescriptor) (subscription : Subscription message) :
    (reconcileOne active subscription).2 = verdict active subscription := by
  unfold reconcileOne verdict lookup
  cases active.find? (·.id = subscription.id) with
  | none => rfl
  | some entry =>
      dsimp only
      split <;> rfl

/-- What is retained describes what is active under its identity. -/
theorem equals_of_retain {active : List ActiveDescriptor} {subscription kept : Subscription message}
    (h : verdict active subscription = .retain kept) :
    kept = subscription ∧ ∃ entry, lookup active subscription.id = some entry ∧
      subscription.descriptorSnapshot.Equals entry.descriptor := by
  unfold verdict at h
  cases hfound : lookup active subscription.id with
  | none =>
      rw [hfound] at h
      cases h
  | some entry =>
      rw [hfound] at h
      dsimp only at h
      split at h
      · rename_i hsame
        exact ⟨(SubscriptionChange.retain.inj h).symm, entry, rfl,
          Subscription.hasDescriptor_iff.mp hsame⟩
      · cases h

/-- One round of the loop leaves the rows of other identities alone. -/
theorem lookup_reconcileOne_of_ne (active : List ActiveDescriptor)
    (subscription : Subscription message) {id : SubscriptionId} (hid : id ≠ subscription.id) :
    lookup (reconcileOne active subscription).1 id = lookup active id := by
  unfold reconcileOne lookup
  cases active.find? (·.id = subscription.id) with
  | none =>
      have hlast : [(⟨subscription.id, subscription.descriptorSnapshot⟩ : ActiveDescriptor)].find?
          (·.id = id) = none := by
        simp [Ne.symm hid]
      dsimp only
      rw [List.find?_append, hlast, Option.or_none]
  | some entry =>
      dsimp only
      split
      · rfl
      · refine Table.find?_modifyFirst_of_ne ?_ active
        intro row hrow
        have hrow : row.id = subscription.id := of_decide_eq_true hrow
        simp [hrow, Ne.symm hid]

theorem lookup_reconcileOne_self (hlawful : LawfulDescriptors) (active : List ActiveDescriptor)
    (subscription : Subscription message) :
    ∃ entry, lookup (reconcileOne active subscription).1 subscription.id = some entry ∧
      subscription.descriptorSnapshot.Equals entry.descriptor := by
  have hself := (SourceDescriptorSnapshot.equals_equivalence hlawful).refl
    subscription.descriptorSnapshot
  unfold reconcileOne lookup
  cases hfound : active.find? (·.id = subscription.id) with
  | none =>
      refine ⟨⟨subscription.id, subscription.descriptorSnapshot⟩, ?_, hself⟩
      dsimp only
      rw [List.find?_append, hfound]
      simp
  | some entry =>
      dsimp only
      split
      · rename_i hsame
        exact ⟨entry, hfound, Subscription.hasDescriptor_iff.mp hsame⟩
      · refine ⟨{ entry with descriptor := subscription.descriptorSnapshot }, ?_, hself⟩
        have hrow := @Table.find?_modifyFirst_self _ (fun row : ActiveDescriptor =>
          decide (row.id = subscription.id)) ({ · with descriptor := subscription.descriptorSnapshot })
            (fun _ hrow => hrow) active
        rw [hfound] at hrow
        exact hrow

/-- The loop over desired Subscriptions of distinct identities decides about
    each from what was active at the start. -/
theorem changes_reconcileDesired (active : List ActiveDescriptor)
    {desired : List (Subscription message)} (hdistinct : (desired.map (·.id)).Nodup) :
    (reconcileDesired active desired).2 = desired.map (verdict active) := by
  induction desired generalizing active with
  | nil => rfl
  | cons subscription desired ih =>
      rw [List.map_cons, List.nodup_cons] at hdistinct
      obtain ⟨hnew, hdistinct⟩ := hdistinct
      have hrest := ih (reconcileOne active subscription).1 hdistinct
      unfold reconcileDesired
      rw [List.map_cons, ← verdict_reconcileOne active subscription]
      refine congrArg _ (hrest.trans (List.map_congr_left ?_))
      intro other hother
      have hid : other.id ≠ subscription.id := fun heq => hnew (heq ▸ List.mem_map_of_mem hother)
      unfold verdict
      rw [lookup_reconcileOne_of_ne active subscription hid]

theorem lookup_reconcileDesired_of_notMem (active : List ActiveDescriptor)
    {desired : List (Subscription message)} {id : SubscriptionId}
    (hid : id ∉ desired.map (·.id)) : lookup (reconcileDesired active desired).1 id =
      lookup active id := by
  induction desired generalizing active with
  | nil => rfl
  | cons subscription desired ih =>
      rw [List.map_cons, List.mem_cons, not_or] at hid
      have hrest := ih (reconcileOne active subscription).1 hid.2
      unfold reconcileDesired
      rw [hrest, lookup_reconcileOne_of_ne active subscription hid.1]

/-- What the loop over desired Subscriptions of distinct identities does. -/
structure Loop (active active' : List ActiveDescriptor) (desired : List (Subscription message))
    (changes : List (SubscriptionChange message)) : Prop where
  changes : changes = desired.map (verdict active)
  kept : ∀ id, id ∉ desired.map (·.id) → lookup active' id = lookup active id
  placed : ∀ subscription ∈ desired, ∃ entry, lookup active' subscription.id = some entry ∧
    subscription.descriptorSnapshot.Equals entry.descriptor

theorem loop_reconcileDesired (hlawful : LawfulDescriptors) (active : List ActiveDescriptor)
    {desired : List (Subscription message)} (hdistinct : (desired.map (·.id)).Nodup) :
    Loop active (reconcileDesired active desired).1 desired
      (reconcileDesired active desired).2 := by
  refine ⟨changes_reconcileDesired active hdistinct,
    fun _ => lookup_reconcileDesired_of_notMem active, ?_⟩
  induction desired generalizing active with
  | nil => exact fun _ hmem => absurd hmem List.not_mem_nil
  | cons subscription desired ih =>
      rw [List.map_cons, List.nodup_cons] at hdistinct
      obtain ⟨hnew, hdistinct⟩ := hdistinct
      unfold reconcileDesired
      intro other hother
      rcases List.mem_cons.mp hother with rfl | hmem
      · rw [lookup_reconcileDesired_of_notMem _ hnew]
        exact lookup_reconcileOne_self hlawful active other
      · exact ih (reconcileOne active subscription).1 hdistinct other hmem

/-! ## A whole reconciliation -/

theorem lookup_eq_none {active : List ActiveDescriptor} {id : SubscriptionId} :
    lookup active id = none ↔ id ∉ active.map (·.id) := by
  unfold lookup
  simp [List.find?_eq_none]

/-- The row of a desired Subscription, once it has been decided about. -/
def placed (active : List ActiveDescriptor) (subscription : Subscription message) :
    ActiveDescriptor :=
  match lookup active subscription.id with
  | none => ⟨subscription.id, subscription.descriptorSnapshot⟩
  | some entry =>
      if subscription.hasDescriptor entry.descriptor then entry
      else { entry with descriptor := subscription.descriptorSnapshot }

theorem lookup_reconcileOne (active : List ActiveDescriptor) (subscription : Subscription message) :
    lookup (reconcileOne active subscription).1 subscription.id =
      some (placed active subscription) := by
  unfold reconcileOne placed lookup
  cases hfound : active.find? (·.id = subscription.id) with
  | none =>
      dsimp only
      rw [List.find?_append, hfound]
      simp
  | some entry =>
      dsimp only
      split
      · exact hfound
      · have hrow := @Table.find?_modifyFirst_self _ (fun row : ActiveDescriptor =>
          decide (row.id = subscription.id)) ({ · with descriptor := subscription.descriptorSnapshot })
            (fun _ hrow => hrow) active
        rw [hfound] at hrow
        exact hrow

theorem lookup_reconcileDesired (active : List ActiveDescriptor)
    {desired : List (Subscription message)} (hdistinct : (desired.map (·.id)).Nodup)
    {subscription : Subscription message} (hmem : subscription ∈ desired) :
    lookup (reconcileDesired active desired).1 subscription.id =
      some (placed active subscription) := by
  induction desired generalizing active with
  | nil => cases hmem
  | cons head desired ih =>
      rw [List.map_cons, List.nodup_cons] at hdistinct
      obtain ⟨hnew, hdistinct⟩ := hdistinct
      unfold reconcileDesired
      rcases List.mem_cons.mp hmem with rfl | hmem
      · rw [lookup_reconcileDesired_of_notMem _ hnew]
        exact lookup_reconcileOne active subscription
      · have hid : subscription.id ≠ head.id := fun heq => hnew (heq ▸ List.mem_map_of_mem hmem)
        rw [ih (reconcileOne active head).1 hdistinct hmem]
        unfold placed
        rw [lookup_reconcileOne_of_ne active head hid]

/-- The rows after a reconciliation are those of the desired Subscriptions. -/
theorem lookup_reconcile {reconciler reconciler' : SubscriptionReconciler}
    {desired : List (Subscription message)} {changes : List (SubscriptionChange message)}
    (h : reconciler.reconcile desired = .ok (changes, reconciler')) :
    (∀ subscription ∈ desired, lookup reconciler'.active subscription.id =
      some (placed reconciler.active subscription)) ∧
        ∀ id, id ∉ desired.map (·.id) → lookup reconciler'.active id = none := by
  have hplaced := @lookup_reconcileDesired _ _ reconciler.active _ (reconcile_nodup h)
  unfold reconcile at h
  split at h
  · cases h
  · generalize reconcileDesired reconciler.active desired = result at h hplaced
    obtain ⟨active, installed⟩ := result
    dsimp only at h hplaced
    rw [cancelUndesired_eq] at h
    cases h
    constructor
    · intro subscription hsubscription
      rw [← hplaced hsubscription]
      unfold lookup
      rw [List.find?_filter]
      refine congrArg (fun p => List.find? p _) (funext fun entry => ?_)
      by_cases hid : entry.id = subscription.id
      · rw [hid]
        simpa using List.mem_map_of_mem hsubscription
      · simp [hid]
    · intro id hid
      rw [lookup_eq_none]
      intro hmem
      obtain ⟨entry, hentry, rfl⟩ := List.mem_map.mp hmem
      exact hid (of_decide_eq_true (List.mem_filter.mp hentry).2)

/-- The reconciler after a call, which a refusal leaves as it was. -/
def after (reconciler : SubscriptionReconciler) (desired : List (Subscription message)) :
    SubscriptionReconciler :=
  match reconciler.reconcile desired with
  | .ok (_, reconciler') => reconciler'
  | .error _ => reconciler

/-- The reconcilers of a Component, after any calls. -/
inductive Reached (message : TypeId) (owner : ComponentId) : SubscriptionReconciler → Prop where
  | new : Reached message owner ⟨owner, []⟩
  | call {reconciler : SubscriptionReconciler} (h : Reached message owner reconciler)
      (desired : List (Subscription message)) : Reached message owner (reconciler.after desired)

theorem Reached.nodup {owner : ComponentId} {reconciler : SubscriptionReconciler}
    (h : Reached message owner reconciler) : reconciler.ids.Nodup := by
  induction h with
  | new => exact List.nodup_nil
  | @call reconciler _ desired ih =>
      unfold after
      cases hresult : reconciler.reconcile desired with
      | error duplicate => exact ih
      | ok result => exact (reconcile_decided hresult ih).nodup

/-- `subscription` describes what was active under its identity. -/
def Describes (reconciler : SubscriptionReconciler) (subscription : Subscription message) : Prop :=
  ∃ entry ∈ reconciler.active, entry.id = subscription.id ∧
    subscription.descriptorSnapshot.Equals entry.descriptor

/-- What a reconciliation that was not refused has done. -/
structure Exact (reconciler reconciler' : SubscriptionReconciler)
    (desired : List (Subscription message)) (changes : List (SubscriptionChange message)) :
    Prop where
  once : (changes.map SubscriptionChange.id).Nodup
  covers : ∀ id, id ∈ changes.map SubscriptionChange.id ↔
    id ∈ desired.map (·.id) ∨ id ∈ reconciler.ids
  starts : ∀ subscription ∈ desired,
    .start subscription ∈ changes ↔ subscription.id ∉ reconciler.ids
  retains : ∀ subscription ∈ desired,
    .retain subscription ∈ changes ↔ reconciler.Describes subscription
  replaces : ∀ subscription ∈ desired, .replace subscription ∈ changes ↔
    subscription.id ∈ reconciler.ids ∧ ¬ reconciler.Describes subscription
  cancels : ∀ id, .cancel id ∈ changes ↔ id ∈ reconciler.ids ∧ id ∉ desired.map (·.id)
  active : reconciler'.ids.Nodup ∧ ∀ id, id ∈ reconciler'.ids ↔ id ∈ desired.map (·.id)
  describes : ∀ subscription ∈ desired, reconciler'.Describes subscription

theorem lookup_eq_some {active : List ActiveDescriptor} (hdistinct : (active.map (·.id)).Nodup)
    {id : SubscriptionId} {entry : ActiveDescriptor} :
    lookup active id = some entry ↔ entry ∈ active ∧ entry.id = id := by
  constructor
  · intro h
    have hid := List.find?_some h
    exact ⟨List.mem_of_find?_eq_some h, of_decide_eq_true hid⟩
  · rintro ⟨hmem, rfl⟩
    exact Table.find?_of_nodup hdistinct hmem

theorem describes_iff {reconciler : SubscriptionReconciler} (hdistinct : reconciler.ids.Nodup)
    {subscription : Subscription message} : reconciler.Describes subscription ↔
      ∃ entry, lookup reconciler.active subscription.id = some entry ∧
        subscription.descriptorSnapshot.Equals entry.descriptor := by
  constructor
  · rintro ⟨entry, hentry, hid, hequals⟩
    exact ⟨entry, (lookup_eq_some hdistinct).mpr ⟨hentry, hid⟩, hequals⟩
  · rintro ⟨entry, hentry, hequals⟩
    obtain ⟨hmem, hid⟩ := (lookup_eq_some hdistinct).mp hentry
    exact ⟨entry, hmem, hid, hequals⟩

/-- The three verdicts. -/
theorem verdict_cases {reconciler : SubscriptionReconciler} (hdistinct : reconciler.ids.Nodup)
    (subscription : Subscription message) :
    (verdict reconciler.active subscription = .start subscription ∧
        subscription.id ∉ reconciler.ids ∧ ¬ reconciler.Describes subscription) ∨
      (verdict reconciler.active subscription = .retain subscription ∧
        subscription.id ∈ reconciler.ids ∧ reconciler.Describes subscription) ∨
      (verdict reconciler.active subscription = .replace subscription ∧
        subscription.id ∈ reconciler.ids ∧ ¬ reconciler.Describes subscription) := by
  rw [describes_iff hdistinct]
  unfold verdict
  cases hlookup : lookup reconciler.active subscription.id with
  | none =>
      left
      refine ⟨rfl, lookup_eq_none.mp hlookup, ?_⟩
      rintro ⟨entry, hentry, _⟩
      cases hentry
  | some entry =>
      right
      obtain ⟨hmem, hid⟩ := (lookup_eq_some hdistinct).mp hlookup
      have hactive : subscription.id ∈ reconciler.ids := hid ▸ List.mem_map_of_mem hmem
      dsimp only
      by_cases hsame : subscription.hasDescriptor entry.descriptor = true
      · left
        rw [if_pos hsame]
        exact ⟨rfl, hactive, entry, rfl, Subscription.hasDescriptor_iff.mp hsame⟩
      · right
        rw [if_neg hsame]
        refine ⟨rfl, hactive, ?_⟩
        rintro ⟨_, heq, hequals⟩
        cases heq
        exact hsame (Subscription.hasDescriptor_iff.mpr hequals)

/-- The loop over the desired Subscriptions adds identities at the end. -/
theorem active_reconcileDesired (active : List ActiveDescriptor)
    (desired : List (Subscription message)) :
    ∃ added, (reconcileDesired active desired).1.map (·.id) = active.map (·.id) ++ added ∧
      ∀ id ∈ added, id ∈ desired.map (·.id) := by
  induction desired generalizing active with
  | nil => exact ⟨[], (List.append_nil _).symm, fun _ hmem => absurd hmem List.not_mem_nil⟩
  | cons subscription desired ih =>
      obtain ⟨added, hadded, hmem⟩ := ih (reconcileOne active subscription).1
      have hids := ids_reconcileOne active subscription
      unfold reconcileDesired
      refine ⟨(if subscription.id ∈ active.map (·.id) then [] else [subscription.id]) ++ added,
        ?_, ?_⟩
      · rw [hadded, hids, List.append_assoc]
      · intro id hid
        rcases List.mem_append.mp hid with hone | hrest
        · split at hone
          · cases hone
          · rw [List.mem_singleton.mp hone]
            exact List.mem_cons_self
        · exact List.mem_cons_of_mem _ (hmem id hrest)

/-- A reconciliation that was not refused comes down to a verdict about each
    desired Subscription, and the cancellation of all else. -/
theorem changes_reconcile {reconciler reconciler' : SubscriptionReconciler}
    {desired : List (Subscription message)} {changes : List (SubscriptionChange message)}
    (h : reconciler.reconcile desired = .ok (changes, reconciler')) :
    changes = desired.map (verdict reconciler.active) ++
      (reconciler.ids.filter (· ∉ desired.map (·.id))).map .cancel := by
  have hchanges := changes_reconcileDesired reconciler.active (reconcile_nodup h)
  obtain ⟨added, hadded, hnew⟩ := active_reconcileDesired reconciler.active desired
  unfold reconcile at h
  split at h
  · cases h
  · generalize hresult : reconcileDesired reconciler.active desired = result at h hchanges hadded
    obtain ⟨active, installed⟩ := result
    dsimp only at h hchanges hadded
    rw [cancelUndesired_eq] at h
    cases h
    -- What is not desired was active before the loop.
    have hundesired : (active.filter (·.id ∉ desired.map (·.id))).map (·.id) =
        reconciler.ids.filter (· ∉ desired.map (·.id)) := by
      have hfilter : added.filter (· ∉ desired.map (·.id)) = [] := by
        rw [List.filter_eq_nil_iff]
        intro id hid hnot
        exact (of_decide_eq_true hnot) (hnew id hid)
      have hmap : (active.filter (·.id ∉ desired.map (·.id))).map (·.id) =
          (active.map (·.id)).filter (· ∉ desired.map (·.id)) := by
        rw [List.filter_map]
        rfl
      rw [hmap, hadded, List.filter_append, hfilter, List.append_nil]
      rfl
    rw [hchanges, ← hundesired, List.map_map]
    rfl

/-- What a reconciliation that was not refused has done. -/
structure Summary (reconciler reconciler' : SubscriptionReconciler)
    (desired : List (Subscription message)) (changes : List (SubscriptionChange message)) :
    Prop where
  changes : changes = desired.map (verdict reconciler.active) ++
    (reconciler.ids.filter (· ∉ desired.map (·.id))).map .cancel
  ids : ∀ id, id ∈ reconciler'.ids ↔ id ∈ desired.map (·.id)
  describes : ∀ subscription ∈ desired, reconciler'.Describes subscription

theorem reconcile_summary (hlawful : LawfulDescriptors)
    {reconciler reconciler' : SubscriptionReconciler} {desired : List (Subscription message)}
    {changes : List (SubscriptionChange message)} (hdistinct : reconciler.ids.Nodup)
    (h : reconciler.reconcile desired = .ok (changes, reconciler')) :
    Summary reconciler reconciler' desired changes := by
  have hloop := loop_reconcileDesired hlawful reconciler.active (reconcile_nodup h)
  have henlarged := enlarged_reconcileDesired hdistinct desired
  have hchanges := changes_reconcile h
  unfold reconcile at h
  split at h
  · cases h
  · generalize hresult : reconcileDesired reconciler.active desired = result at h hloop henlarged
    obtain ⟨active, installed⟩ := result
    dsimp only at h hloop henlarged
    rw [cancelUndesired_eq] at h
    cases h
    refine ⟨hchanges, ?_, ?_⟩
    · intro id
      constructor
      · intro hid
        obtain ⟨entry, hentry, rfl⟩ := List.mem_map.mp hid
        exact of_decide_eq_true (List.mem_filter.mp hentry).2
      · intro hid
        obtain ⟨entry, hentry, rfl⟩ := List.mem_map.mp ((henlarged.mem id).mpr (Or.inr hid))
        exact List.mem_map_of_mem (List.mem_filter.mpr ⟨hentry, decide_eq_true hid⟩)
    · intro subscription hsubscription
      obtain ⟨entry, hentry, hequals⟩ := hloop.placed subscription hsubscription
      obtain ⟨hmem, hid⟩ := (lookup_eq_some henlarged.nodup).mp hentry
      refine ⟨entry, List.mem_filter.mpr ⟨hmem, decide_eq_true ?_⟩, hid, hequals⟩
      rw [hid]
      exact List.mem_map_of_mem hsubscription

theorem id_verdict {reconciler : SubscriptionReconciler} (hdistinct : reconciler.ids.Nodup)
    (subscription : Subscription message) :
    (verdict reconciler.active subscription).id = subscription.id := by
  rcases verdict_cases hdistinct subscription with ⟨h, _⟩ | ⟨h, _⟩ | ⟨h, _⟩ <;> rw [h] <;> rfl

theorem Summary.exact (hlawful : LawfulDescriptors)
    {reconciler reconciler' : SubscriptionReconciler} {desired : List (Subscription message)}
    {changes : List (SubscriptionChange message)} (hdistinct : reconciler.ids.Nodup)
    (h : reconciler.reconcile desired = .ok (changes, reconciler')) :
    Exact reconciler reconciler' desired changes := by
  have hdecided := reconcile_decided h hdistinct
  have hdesired := reconcile_nodup h
  obtain ⟨hchanges, hids, hdescribes⟩ := reconcile_summary hlawful hdistinct h
  have hmem {change : SubscriptionChange message} : change ∈ changes ↔
      (∃ subscription ∈ desired, verdict reconciler.active subscription = change) ∨
        ∃ id, (id ∈ reconciler.ids ∧ id ∉ desired.map (·.id)) ∧ .cancel id = change := by
    rw [hchanges, List.mem_append, List.mem_map, List.mem_map]
    simp only [List.mem_filter, decide_eq_true_eq]
  -- A desired Subscription is in no change but the verdict about it.
  have hverdict {subscription : Subscription message} (hsubscription : subscription ∈ desired)
      {change : SubscriptionChange message} (hinstalls : change.Installs subscription) :
      change ∈ changes ↔ verdict reconciler.active subscription = change := by
    rw [hmem]
    constructor
    · rintro (⟨other, hother, heq⟩ | ⟨id, _, rfl⟩)
      · have hid : other.id = subscription.id := by
          rw [← id_verdict hdistinct other, heq]
          cases change with
          | cancel id => cases hinstalls
          | start installed => exact congrArg Subscription.id hinstalls
          | retain installed => exact congrArg Subscription.id hinstalls
          | replace installed => exact congrArg Subscription.id hinstalls
        rw [← List.inj_on_of_nodup_map hdesired hother hsubscription hid]
        exact heq
      · cases hinstalls
    · exact fun heq => Or.inl ⟨subscription, hsubscription, heq⟩
  refine ⟨hdecided.once, ?_, ?_, ?_, ?_, ?_, ⟨hdecided.nodup, hids⟩, hdescribes⟩
  · intro id
    have hdecisions : (desired.map (verdict reconciler.active)).map SubscriptionChange.id =
        desired.map (·.id) := by
      rw [List.map_map]
      exact List.map_congr_left fun subscription _ => id_verdict hdistinct subscription
    rw [hchanges, List.map_append, List.mem_append, hdecisions, List.map_map]
    have hcancelled (ids : List SubscriptionId) : ids.map (SubscriptionChange.id ∘
        (SubscriptionChange.cancel : SubscriptionId → SubscriptionChange message)) = ids :=
      List.map_id ids
    rw [hcancelled, List.mem_filter]
    by_cases hid : id ∈ desired.map (·.id)
    · simp only [hid, true_or]
    · simp only [hid, false_or, not_false_eq_true, decide_true, and_true]
  · intro subscription hsubscription
    rw [hverdict hsubscription (show SubscriptionChange.Installs subscription (.start _) from rfl)]
    rcases verdict_cases hdistinct subscription with ⟨h, hfact⟩ | ⟨h, hfact⟩ | ⟨h, hfact⟩
    · simp [h, hfact.1]
    · simp [h, hfact.1]
    · simp [h, hfact.1]
  · intro subscription hsubscription
    rw [hverdict hsubscription (show SubscriptionChange.Installs subscription (.retain _) from rfl)]
    rcases verdict_cases hdistinct subscription with ⟨h, hfact⟩ | ⟨h, hfact⟩ | ⟨h, hfact⟩
    · simp [h, hfact.2]
    · simp [h, hfact.2]
    · simp [h, hfact.2]
  · intro subscription hsubscription
    rw [hverdict hsubscription (show SubscriptionChange.Installs subscription (.replace _) from rfl)]
    rcases verdict_cases hdistinct subscription with ⟨h, hfact⟩ | ⟨h, hfact⟩ | ⟨h, hfact⟩
    · simp [h, hfact.1]
    · simp [h, hfact.2]
    · simp [h, hfact.1, hfact.2]
  · intro id
    rw [hmem]
    constructor
    · rintro (⟨subscription, _, heq⟩ | ⟨other, hother, heq⟩)
      · rcases verdict_cases hdistinct subscription with ⟨h, _⟩ | ⟨h, _⟩ | ⟨h, _⟩
        · rw [h] at heq
          cases heq
        · rw [h] at heq
          cases heq
        · rw [h] at heq
          cases heq
      · cases heq
        exact hother
    · exact fun hid => Or.inr ⟨id, hid, rfl⟩

/-! ## Histories -/

/-- Two results that differ in the order of the cancellations at most. -/
def Alike (first second : Except SubscriptionId
    (List (SubscriptionChange message) × SubscriptionReconciler)) : Prop :=
  match first, second with
  | .error duplicate, .error duplicate' => duplicate = duplicate'
  | .ok (changes, _), .ok (changes', _) => changes.Perm changes'
  | _, _ => False

/-- Two reconcilers that have the same identities active, under equal descriptors. -/
structure Agrees (first second : SubscriptionReconciler) : Prop where
  ids : first.ids.Perm second.ids
  descriptors : ∀ entry ∈ first.active, ∀ other ∈ second.active, entry.id = other.id →
    entry.descriptor.Equals other.descriptor

theorem Agrees.verdict_eq (hlawful : LawfulDescriptors) {first second : SubscriptionReconciler}
    (h : Agrees first second) (hfirst : first.ids.Nodup) (hsecond : second.ids.Nodup)
    (subscription : Subscription message) :
    verdict first.active subscription = verdict second.active subscription := by
  have hequals := SourceDescriptorSnapshot.equals_equivalence hlawful
  have hids : subscription.id ∈ first.ids ↔ subscription.id ∈ second.ids := h.ids.mem_iff
  have hdescribes : first.Describes subscription ↔ second.Describes subscription := by
    constructor
    · rintro ⟨entry, hentry, hid, hsame⟩
      obtain ⟨other, hother, hother'⟩ :=
        List.mem_map.mp (h.ids.mem_iff.mp (List.mem_map_of_mem hentry))
      exact ⟨other, hother, hother'.trans hid, hequals.trans hsame
        (h.descriptors entry hentry other hother hother'.symm)⟩
    · rintro ⟨other, hother, hid, hsame⟩
      obtain ⟨entry, hentry, hentry'⟩ :=
        List.mem_map.mp (h.ids.mem_iff.mpr (List.mem_map_of_mem hother))
      exact ⟨entry, hentry, hentry'.trans hid, hequals.trans hsame
        (hequals.symm (h.descriptors entry hentry other hother hentry'))⟩
  rcases verdict_cases hfirst subscription with ⟨hv, hfact⟩ | ⟨hv, hfact⟩ | ⟨hv, hfact⟩ <;>
    rcases verdict_cases hsecond subscription with ⟨hv', hfact'⟩ | ⟨hv', hfact'⟩ | ⟨hv', hfact'⟩
  all_goals first
    | exact hv.trans hv'.symm
    | exact absurd (hids.mpr hfact'.1) hfact.1
    | exact absurd (hids.mp hfact.1) hfact'.1
    | exact absurd (hdescribes.mp hfact.2) hfact'.2
    | exact absurd (hdescribes.mpr hfact'.2) hfact.2

/-- Reconcilers that agree decide alike. -/
theorem Agrees.alike (hlawful : LawfulDescriptors) {first second : SubscriptionReconciler}
    (h : Agrees first second) (hfirst : first.ids.Nodup) (hsecond : second.ids.Nodup)
    (desired : List (Subscription message)) :
    Alike (first.reconcile desired) (second.reconcile desired) := by
  cases hscan : duplicateId [] (desired.map (·.id)) with
  | some duplicate =>
      have herror (reconciler : SubscriptionReconciler) :
          reconciler.reconcile desired = .error duplicate := by
        unfold reconcile
        rw [hscan]
      rw [herror, herror]
      exact rfl
  | none =>
      have hok (reconciler : SubscriptionReconciler) :
          ∃ result, reconciler.reconcile desired = .ok result := by
        unfold reconcile
        rw [hscan]
        exact ⟨_, rfl⟩
      obtain ⟨⟨changes, first'⟩, hresult⟩ := hok first
      obtain ⟨⟨changes', second'⟩, hresult'⟩ := hok second
      rw [hresult, hresult']
      show changes.Perm changes'
      rw [(reconcile_summary hlawful hfirst hresult).changes,
        (reconcile_summary hlawful hsecond hresult').changes,
        List.map_congr_left fun subscription _ => h.verdict_eq hlawful hfirst hsecond subscription]
      exact ((h.ids.filter _).map _).append_left _

/-- Whatever came before, the last desired list is what is left. -/
theorem agrees_of_reconcile (hlawful : LawfulDescriptors)
    {first second first' second' : SubscriptionReconciler} {desired : List (Subscription message)}
    {changes changes' : List (SubscriptionChange message)} (hfirst : first.ids.Nodup)
    (hsecond : second.ids.Nodup) (h : first.reconcile desired = .ok (changes, first'))
    (h' : second.reconcile desired = .ok (changes', second')) : Agrees first' second' := by
  have hequals := SourceDescriptorSnapshot.equals_equivalence hlawful
  have hexact := Summary.exact hlawful hfirst h
  have hexact' := Summary.exact hlawful hsecond h'
  refine ⟨?_, ?_⟩
  · refine (List.perm_ext_iff_of_nodup hexact.active.1 hexact'.active.1).mpr ?_
    exact fun id => (hexact.active.2 id).trans (hexact'.active.2 id).symm
  · intro entry hentry other hother hid
    obtain ⟨subscription, hsubscription, hdesired⟩ :=
      List.mem_map.mp ((hexact.active.2 entry.id).mp (List.mem_map_of_mem hentry))
    obtain ⟨found, hfound, hfoundId, hsame⟩ := hexact.describes subscription hsubscription
    obtain ⟨found', hfound', hfoundId', hsame'⟩ := hexact'.describes subscription hsubscription
    have hfirst : found = entry := List.inj_on_of_nodup_map hexact.active.1 hfound hentry
      (hfoundId.trans hdesired)
    have hsecond : found' = other := List.inj_on_of_nodup_map hexact'.active.1 hfound' hother
      (hfoundId'.trans (hdesired.trans hid))
    rw [hfirst] at hsame
    rw [hsecond] at hsame'
    exact hequals.trans (hequals.symm hsame) hsame'

/-- Reconciliation refuses a list with a repeated identity and then changes
    nothing; otherwise it decides about each identity once, by what was active,
    and has active exactly what is desired.  Two histories that end with the
    same desired list cannot be told apart by any later call. -/
theorem reconciliation_exact (hlawful : LawfulDescriptors) {owner : ComponentId}
    {reconciler : SubscriptionReconciler} (h : Reached message owner reconciler)
    (desired : List (Subscription message)) :
    (¬ (desired.map (·.id)).Nodup →
      (∃ duplicate, reconciler.reconcile desired = .error duplicate) ∧
        reconciler.after desired = reconciler) ∧
      ((desired.map (·.id)).Nodup →
        (∃ changes, reconciler.reconcile desired = .ok (changes, reconciler.after desired) ∧
          Exact reconciler (reconciler.after desired) desired changes) ∧
        ∀ other, Reached message owner other →
          Agrees (reconciler.after desired) (other.after desired) ∧ ∀ next : List (Subscription message),
            Alike ((reconciler.after desired).reconcile next) ((other.after desired).reconcile next)) := by
  refine ⟨?_, ?_⟩
  · intro hrepeated
    cases hresult : reconciler.reconcile desired with
    | ok result => exact absurd (reconcile_nodup hresult) hrepeated
    | error duplicate =>
        refine ⟨⟨duplicate, rfl⟩, ?_⟩
        unfold after
        rw [hresult]
  · intro hdistinct
    have hok (start : SubscriptionReconciler) :
        ∃ changes, start.reconcile desired = .ok (changes, start.after desired) := by
      unfold after
      cases hresult : start.reconcile desired with
      | error duplicate => exact absurd hdistinct (reconcile_eq_error hresult)
      | ok result => exact ⟨result.1, rfl⟩
    obtain ⟨changes, hresult⟩ := hok reconciler
    refine ⟨⟨changes, hresult, Summary.exact hlawful h.nodup hresult⟩, ?_⟩
    intro other hother
    obtain ⟨changes', hresult'⟩ := hok other
    have hagrees := agrees_of_reconcile hlawful h.nodup hother.nodup hresult hresult'
    exact ⟨hagrees, hagrees.alike hlawful (h.call desired).nodup (hother.call desired).nodup⟩

end SubscriptionReconciler

end Samara

namespace Samara

attribute [local instance] Sample.types

theorem Sample.lawfulDescriptors : LawfulDescriptors where
  sources _ := ⟨fun _ => decide_eq_true rfl, fun h => decide_eq_true (of_decide_eq_true h).symm,
    fun h h' => decide_eq_true ((of_decide_eq_true h).trans (of_decide_eq_true h'))⟩
  decoders _ := ⟨fun _ => decide_eq_true rfl, fun h => decide_eq_true (of_decide_eq_true h).symm,
    fun h h' => decide_eq_true ((of_decide_eq_true h).trans (of_decide_eq_true h'))⟩

/-- Two streams that a Component listens to. -/
def twoStreams : List (Subscription ()) :=
  [⟨⟨"first"⟩, ⟨0, ⟨7⟩⟩, .stream (), trivial, "lines", fun _ => .ok (.plain 1)⟩,
    ⟨⟨"second"⟩, ⟨0, ⟨7⟩⟩, .stream (), trivial, "keys", fun _ => .ok (.plain 2)⟩]

theorem reconciliation_exact_twoStreams : ∃ changes, SubscriptionReconciler.Exact ⟨⟨"reader"⟩, []⟩
    ((⟨⟨"reader"⟩, []⟩ : SubscriptionReconciler).after twoStreams) twoStreams changes := by
  have hexact := SubscriptionReconciler.reconciliation_exact Sample.lawfulDescriptors
    (.new : SubscriptionReconciler.Reached () ⟨"reader"⟩ _) twoStreams
  obtain ⟨⟨changes, _, hchanges⟩, _⟩ := hexact.2 (by decide)
  exact ⟨changes, hchanges⟩

end Samara
