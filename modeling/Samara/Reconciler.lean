/-
  Samara.Reconciler

  What a reconciliation changes: the identities it starts were inactive, those
  it cancels are no longer desired, no identity is changed twice, and what is
  active afterwards is what is desired.
-/
import Samara.Kernel

namespace Samara

variable [RustTypes] {message : TypeId}

def SubscriptionChange.id : SubscriptionChange message → SubscriptionId
  | .start subscription | .retain subscription | .replace subscription => subscription.id
  | .cancel id => id

theorem id_eraseSubscriptionChange (change : SubscriptionChange message) :
    (eraseSubscriptionChange change).id = change.id := by
  cases change <;> rfl

namespace SubscriptionReconciler

/-- The identities under which a reconciler has something active. -/
def ids (reconciler : SubscriptionReconciler) : List SubscriptionId := reconciler.active.map (·.id)

theorem id_reconcileOne (active : List ActiveDescriptor) (subscription : Subscription message) :
    (reconcileOne active subscription).2.id = subscription.id := by
  unfold reconcileOne
  split
  · rfl
  · split <;> rfl

/-- One desired Subscription becomes active, unless it is. -/
theorem ids_reconcileOne (active : List ActiveDescriptor) (subscription : Subscription message) :
    (reconcileOne active subscription).1.map (·.id) =
      active.map (·.id) ++ if subscription.id ∈ active.map (·.id) then [] else [subscription.id] := by
  unfold reconcileOne
  cases hfound : active.find? (·.id = subscription.id) with
  | none =>
      have hnew : subscription.id ∉ active.map (·.id) := by
        intro hmem
        obtain ⟨entry, hentry⟩ := Table.mem_map_iff_find?.mp hmem
        rw [hfound] at hentry
        cases hentry
      rw [if_neg hnew]
      exact List.map_append
  | some entry =>
      have hold : subscription.id ∈ active.map (·.id) := Table.mem_map_iff_find?.mpr ⟨entry, hfound⟩
      rw [if_pos hold, List.append_nil]
      dsimp only
      split
      · rfl
      · exact @Table.map_modifyFirst _ _ (fun entry : ActiveDescriptor => entry.id = subscription.id)
          ({ · with descriptor := subscription.descriptorSnapshot }) (·.id) (fun _ _ => rfl) active

theorem start_reconcileOne {active : List ActiveDescriptor} {subscription : Subscription message}
    {started : Subscription message}
    (h : (reconcileOne active subscription).2 = .start started) :
    started.id ∉ active.map (·.id) := by
  unfold reconcileOne at h
  cases hfound : active.find? (·.id = subscription.id) with
  | none =>
      rw [hfound] at h
      cases h
      intro hmem
      obtain ⟨entry, hentry⟩ := Table.mem_map_iff_find?.mp hmem
      rw [hfound] at hentry
      cases hentry
  | some entry =>
      rw [hfound] at h
      dsimp only at h
      split at h <;> cases h

theorem ids_reconcileDesired (active : List ActiveDescriptor)
    (desired : List (Subscription message)) :
    (reconcileDesired active desired).2.map SubscriptionChange.id = desired.map (·.id) := by
  induction desired generalizing active with
  | nil => rfl
  | cons subscription desired ih =>
      unfold reconcileDesired
      rw [List.map_cons, List.map_cons, ih, id_reconcileOne]

/-- The loop over the desired Subscriptions keeps what is active, adds what is
    desired, and starts only what was not active before. -/
structure Enlarged (active active' : List ActiveDescriptor)
    (desired : List (Subscription message)) (changes : List (SubscriptionChange message)) :
    Prop where
  nodup : (active'.map (·.id)).Nodup
  mem : ∀ id, id ∈ active'.map (·.id) ↔ id ∈ active.map (·.id) ∨ id ∈ desired.map (·.id)
  starts : ∀ subscription, .start subscription ∈ changes → subscription.id ∉ active.map (·.id)

theorem enlarged_reconcileDesired {active : List ActiveDescriptor}
    (hactive : (active.map (·.id)).Nodup) (desired : List (Subscription message)) :
    Enlarged active (reconcileDesired active desired).1 desired
      (reconcileDesired active desired).2 := by
  induction desired generalizing active with
  | nil => exact ⟨hactive, by simp [reconcileDesired], by simp [reconcileDesired]⟩
  | cons subscription desired ih =>
      have hids := ids_reconcileOne active subscription
      have hactive' : ((reconcileOne active subscription).1.map (·.id)).Nodup := by
        rw [hids]
        by_cases hmem : subscription.id ∈ active.map (·.id)
        · rw [if_pos hmem, List.append_nil]
          exact hactive
        · rw [if_neg hmem]
          refine List.nodup_append.mpr ⟨hactive, List.nodup_singleton _, ?_⟩
          intro id hid last hlast heq
          rw [List.mem_singleton.mp hlast] at heq
          exact hmem (heq ▸ hid)
      have hmem' : ∀ id, id ∈ (reconcileOne active subscription).1.map (·.id) ↔
          id ∈ active.map (·.id) ∨ id = subscription.id := by
        intro id
        rw [hids]
        by_cases hmem : subscription.id ∈ active.map (·.id)
        · rw [if_pos hmem, List.append_nil]
          exact ⟨Or.inl, fun h => h.elim (fun hid => hid) fun heq => heq ▸ hmem⟩
        · rw [if_neg hmem, List.mem_append, List.mem_singleton]
      have htail := ih hactive'
      unfold reconcileDesired
      refine ⟨htail.nodup, ?_, ?_⟩
      · intro id
        rw [htail.mem, hmem', List.map_cons, List.mem_cons, or_assoc]
      · intro started hstarted
        rcases List.mem_cons.mp hstarted with hhead | hrest
        · exact start_reconcileOne hhead.symm
        · exact fun hold => htail.starts started hrest ((hmem' _).mpr (Or.inl hold))

theorem cancelUndesired_eq (desiredIds : List SubscriptionId) (active : List ActiveDescriptor) :
    (cancelUndesired desiredIds active : _ × List (SubscriptionChange message)) =
      (active.filter (·.id ∈ desiredIds),
        (active.filter (·.id ∉ desiredIds)).map (.cancel ·.id)) := by
  induction active with
  | nil => rfl
  | cons entry active ih =>
      unfold cancelUndesired
      rw [ih]
      by_cases hdesired : entry.id ∈ desiredIds
      · simp [hdesired]
      · simp [hdesired]

/-- What a reconciliation that was not refused has decided. -/
structure Decided (reconciler reconciler' : SubscriptionReconciler)
    (changes : List (SubscriptionChange message)) : Prop where
  nodup : reconciler'.ids.Nodup
  once : (changes.map SubscriptionChange.id).Nodup
  starts : ∀ subscription, .start subscription ∈ changes → subscription.id ∉ reconciler.ids
  /-- What is put in place is active afterwards. -/
  installs : ∀ change ∈ changes, (∀ id, change ≠ .cancel id) → change.id ∈ reconciler'.ids
  /-- What was active is active still, or cancelled. -/
  leaves : ∀ id ∈ reconciler.ids, id ∈ reconciler'.ids ∨ .cancel id ∈ changes

theorem reconcile_decided {reconciler reconciler' : SubscriptionReconciler}
    {desired : List (Subscription message)} {changes : List (SubscriptionChange message)}
    (h : reconciler.reconcile desired = .ok (changes, reconciler'))
    (hactive : reconciler.ids.Nodup) : Decided reconciler reconciler' changes := by
  have hdesired := reconcile_nodup h
  have henlarged := enlarged_reconcileDesired hactive desired
  have hids := ids_reconcileDesired reconciler.active desired
  unfold reconcile at h
  split at h
  · cases h
  · generalize hresult : reconcileDesired reconciler.active desired = result at h henlarged hids
    obtain ⟨active, installed⟩ := result
    dsimp only at h henlarged hids
    rw [cancelUndesired_eq] at h
    cases h
    have hkept : ∀ id ∈ desired.map (·.id),
        id ∈ (active.filter (·.id ∈ desired.map (·.id))).map (·.id) := by
      intro id hid
      obtain ⟨entry, hentry, rfl⟩ := List.mem_map.mp ((henlarged.mem id).mpr (Or.inr hid))
      exact List.mem_map_of_mem (List.mem_filter.mpr ⟨hentry, by simpa using hid⟩)
    refine ⟨?_, ?_, ?_, ?_, ?_⟩
    · exact henlarged.nodup.sublist (List.filter_sublist.map _)
    · rw [List.map_append, hids, List.map_map]
      refine List.nodup_append.mpr ⟨hdesired, ?_, ?_⟩
      · exact henlarged.nodup.sublist (List.filter_sublist.map _)
      · intro id hid other hother heq
        obtain ⟨entry, hentry, rfl⟩ := List.mem_map.mp hother
        have hundesired := (List.mem_filter.mp hentry).2
        rw [heq] at hid
        simp only [decide_eq_true_eq] at hundesired
        exact hundesired hid
    · intro subscription hstart
      rcases List.mem_append.mp hstart with hmem | hcancel
      · exact henlarged.starts subscription hmem
      · obtain ⟨entry, _, heq⟩ := List.mem_map.mp hcancel
        cases heq
    · intro change hchange hinstalls
      rcases List.mem_append.mp hchange with hmem | hcancel
      · have hid : change.id ∈ desired.map (·.id) := hids ▸ List.mem_map_of_mem hmem
        exact hkept change.id hid
      · obtain ⟨entry, _, rfl⟩ := List.mem_map.mp hcancel
        exact absurd rfl (hinstalls entry.id)
    · intro id hid
      by_cases hmem : id ∈ desired.map (·.id)
      · exact Or.inl (hkept id hmem)
      · obtain ⟨entry, hentry, rfl⟩ := List.mem_map.mp ((henlarged.mem id).mpr (Or.inl hid))
        refine Or.inr (List.mem_append_right _ ?_)
        exact List.mem_map_of_mem (List.mem_filter.mpr ⟨hentry, by simpa using hmem⟩)

end SubscriptionReconciler

end Samara
