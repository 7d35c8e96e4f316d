/-
  Samara.Logic.Desk

  Numbered items that are handed out by kind and settled by number.

  Items are issued one after another; a claim of a kind takes the first item of
  that kind that nobody has claimed, and claimed items are settled in any order.
  What is still pending is a function of the three histories.
-/
import Mathlib.Data.List.Nodup

/-- The items issued so far, the ones claimed (with their numbers, in the order
    of the claims), and the numbers settled. -/
structure Desk (α : Type) where
  issued : List α
  claimed : List (α × Nat)
  settled : List Nat

namespace Desk

variable {α κ : Type}

/-- Every item with its number. -/
def numbered (desk : Desk α) : List (α × Nat) := desk.issued.zipIdx

/-- The items that have not been settled, in the order of issue. -/
def pending (desk : Desk α) : List (α × Nat) :=
  desk.numbered.filter fun row => decide (row.2 ∉ desk.settled)

/-- The numbers that have been claimed. -/
def held (desk : Desk α) : List Nat := desk.claimed.map (·.2)

/-- The desk after new items were issued. -/
def issue (desk : Desk α) (items : List α) : Desk α :=
  { desk with issued := desk.issued ++ items }

def claim (desk : Desk α) (row : α × Nat) : Desk α :=
  { desk with claimed := desk.claimed ++ [row] }

def settle (desk : Desk α) (number : Nat) : Desk α :=
  { desk with settled := desk.settled ++ [number] }

section Kinds

variable [DecidableEq κ] (kind : α → κ)

/-- Whether a row is of a kind. -/
def isOf (k : κ) (row : α × Nat) : Bool := decide (kind row.1 = k)

/-- The first item of a kind that is pending and not claimed. -/
def next? (desk : Desk α) (k : κ) : Option (α × Nat) :=
  desk.pending.find? fun row => isOf kind k row && decide (row.2 ∉ desk.held)

/-- What claims and settlements keep. -/
structure Law (desk : Desk α) : Prop where
  /-- The claims of a kind took its items in the order of issue. -/
  ordered : ∀ k, desk.claimed.filter (isOf kind k) <+: desk.numbered.filter (isOf kind k)
  once : desk.held.Nodup
  settled : desk.settled ⊆ desk.held
  settledOnce : desk.settled.Nodup

end Kinds

theorem numbered_nodup (desk : Desk α) : (desk.numbered.map (·.2)).Nodup := by
  unfold numbered
  rw [List.zipIdx_map_snd]
  exact List.nodup_range' ..

theorem mem_numbered {desk : Desk α} {row : α × Nat} :
    row ∈ desk.numbered ↔ desk.issued[row.2]? = some row.1 := List.mem_zipIdx_iff_getElem?

/-- A number stands for one item. -/
theorem numbered_inj {desk : Desk α} {row row' : α × Nat} (h : row ∈ desk.numbered)
    (h' : row' ∈ desk.numbered) (hnumber : row.2 = row'.2) : row = row' := by
  have hitem : some row.1 = some row'.1 := by
    rw [← mem_numbered.mp h, ← mem_numbered.mp h', hnumber]
  exact Prod.ext (Option.some.inj hitem) hnumber

theorem numbered_issue (desk : Desk α) (items : List α) :
    (desk.issue items).numbered = desk.numbered ++ items.zipIdx desk.issued.length := by
  show (desk.issued ++ items).zipIdx = _
  rw [List.zipIdx_append]
  simp [numbered]

/-- New items have new numbers. -/
theorem lt_of_mem_numbered {desk : Desk α} {row : α × Nat} (h : row ∈ desk.numbered) :
    row.2 < desk.issued.length := (List.getElem?_eq_some_iff.mp (mem_numbered.mp h)).1

section Law

variable [DecidableEq κ] {kind : α → κ} {desk : Desk α}

theorem Law.fresh : Law kind (⟨[], [], []⟩ : Desk α) where
  ordered _ := List.nil_prefix
  once := List.nodup_nil
  settled := List.nil_subset _
  settledOnce := List.nodup_nil

theorem Law.issue (h : Law kind desk) (items : List α) : Law kind (desk.issue items) where
  ordered k := by
    rw [numbered_issue, List.filter_append]
    exact (h.ordered k).trans (List.prefix_append _ _)
  once := h.once
  settled := h.settled
  settledOnce := h.settledOnce

/-- A claimed row is one of the numbered items. -/
theorem Law.claimed_subset (h : Law kind desk) : desk.claimed ⊆ desk.numbered := by
  intro row hrow
  have hkind : row ∈ desk.claimed.filter (isOf kind (kind row.1)) :=
    List.mem_filter.mpr ⟨hrow, by simp [isOf]⟩
  exact (List.mem_filter.mp ((h.ordered (kind row.1)).subset hkind)).1

theorem Law.held_lt (h : Law kind desk) {number : Nat} (hheld : number ∈ desk.held) :
    number < desk.issued.length := by
  obtain ⟨row, hrow, rfl⟩ := List.mem_map.mp hheld
  exact lt_of_mem_numbered (h.claimed_subset hrow)

/-- A number that is held stands for the row that was claimed. -/
theorem Law.mem_claimed (h : Law kind desk) {row : α × Nat} (hrow : row ∈ desk.numbered)
    (hheld : row.2 ∈ desk.held) : row ∈ desk.claimed := by
  obtain ⟨claimed, hclaimed, hnumber⟩ := List.mem_map.mp hheld
  rw [← numbered_inj (h.claimed_subset hclaimed) hrow hnumber]
  exact hclaimed

/-- The next item of a kind is the first one of that kind behind the claims. -/
theorem Law.next?_eq (h : Law kind desk) (k : κ) :
    desk.next? kind k =
      (desk.numbered.filter (isOf kind k))[(desk.claimed.filter (isOf kind k)).length]? := by
  obtain ⟨rest, hrest⟩ := h.ordered k
  have hnext : desk.next? kind k = (desk.numbered.filter (isOf kind k)).find? fun row =>
      decide (row.2 ∉ desk.settled) && decide (row.2 ∉ desk.held) := by
    unfold next? pending
    rw [List.find?_filter, List.find?_filter]
    congr 1
    funext row
    cases isOf kind k row <;> simp
  have hnodup : ((desk.numbered.filter (isOf kind k)).map (·.2)).Nodup :=
    desk.numbered_nodup.sublist (List.filter_sublist.map _)
  rw [hnext, ← hrest, List.find?_append, List.getElem?_append_right (Nat.le_refl _), Nat.sub_self]
  -- Nothing that has been claimed is found,
  have hbefore : (desk.claimed.filter (isOf kind k)).find? (fun row =>
      decide (row.2 ∉ desk.settled) && decide (row.2 ∉ desk.held)) = none := by
    refine List.find?_eq_none.mpr ?_
    intro row hrow
    have hheld : row.2 ∈ desk.held := List.mem_map_of_mem (List.mem_filter.mp hrow).1
    simp [hheld]
  rw [hbefore, Option.none_or]
  -- and the item behind is neither claimed nor settled.
  cases rest with
  | nil => rfl
  | cons row rest =>
      have hmem : row ∈ desk.numbered.filter (isOf kind k) := by
        rw [← hrest]
        exact List.mem_append_right _ List.mem_cons_self
      obtain ⟨hnumbered, hkind⟩ := List.mem_filter.mp hmem
      have hfree : row.2 ∉ desk.held := by
        intro hheld
        have hclaimed : row ∈ desk.claimed.filter (isOf kind k) :=
          List.mem_filter.mpr ⟨h.mem_claimed hnumbered hheld, hkind⟩
        rw [← hrest, List.map_append] at hnodup
        exact (List.nodup_append.mp hnodup).2.2 row.2 (List.mem_map_of_mem hclaimed) row.2
          (by simp) rfl
      have hopen : row.2 ∉ desk.settled := fun hsettled => hfree (h.settled hsettled)
      rw [List.find?_cons_of_pos (by simp [hfree, hopen])]
      rfl

theorem next?_eq_some {k : κ} {row : α × Nat} (h : desk.next? kind k = some row) :
    row ∈ desk.numbered ∧ kind row.1 = k ∧ row.2 ∉ desk.held := by
  have hmem := List.mem_filter.mp (List.mem_of_find?_eq_some h)
  have hfound := List.find?_some h
  simp only [isOf, Bool.and_eq_true, decide_eq_true_eq] at hfound
  exact ⟨hmem.1, hfound⟩

/-- A claim takes the next item of its kind. -/
theorem Law.claim (h : Law kind desk) {k : κ} {row : α × Nat}
    (hnext : desk.next? kind k = some row) : Law kind (desk.claim row) where
  ordered other := by
    obtain ⟨hnumbered, hkind, hfree⟩ := next?_eq_some hnext
    show (desk.claimed ++ [row]).filter (isOf kind other) <+: desk.numbered.filter (isOf kind other)
    rw [List.filter_append]
    by_cases hother : kind row.1 = other
    · have hindex := h.next?_eq k
      rw [hnext, show k = other from hkind.symm.trans hother] at hindex
      obtain ⟨rest, hrest⟩ := h.ordered other
      rw [← hrest, List.getElem?_append_right (Nat.le_refl _), Nat.sub_self] at hindex
      rw [List.filter_cons_of_pos (by simp [isOf, hother]), List.filter_nil, ← hrest]
      cases rest with
      | nil => cases hindex
      | cons head rest =>
          cases hindex
          exact ⟨rest, by simp⟩
    · rw [List.filter_cons_of_neg (by simp [isOf, hother]), List.filter_nil, List.append_nil]
      exact h.ordered other
  once := by
    show ((desk.claimed ++ [row]).map (·.2)).Nodup
    rw [List.map_append]
    refine List.nodup_append.mpr ⟨h.once, List.nodup_singleton _, ?_⟩
    intro number hheld other hother heq
    have hsame : number = row.2 := heq.trans (List.mem_singleton.mp hother)
    exact (next?_eq_some hnext).2.2 (hsame ▸ hheld)
  settled := by
    intro number hsettled
    show number ∈ (desk.claimed ++ [row]).map (·.2)
    rw [List.map_append]
    exact List.mem_append_left _ (h.settled hsettled)
  settledOnce := h.settledOnce

/-- An item that is held and pending is settled. -/
theorem Law.settle (h : Law kind desk) {number : Nat} (hheld : number ∈ desk.held)
    (hpending : number ∉ desk.settled) : Law kind (desk.settle number) where
  ordered := h.ordered
  once := h.once
  settled := List.append_subset.mpr ⟨h.settled, by simpa [Desk.held, Desk.settle] using hheld⟩
  settledOnce := by
    refine List.nodup_append.mpr ⟨h.settledOnce, List.nodup_singleton _, ?_⟩
    intro other hother last hlast heq
    rw [List.mem_singleton.mp hlast] at heq
    exact hpending (heq ▸ hother)

/-- Settling a number takes one row out of what is pending. -/
theorem pending_settle (desk : Desk α) (number : Nat) :
    (desk.settle number).pending = desk.pending.filter fun row => decide (row.2 ≠ number) := by
  show desk.numbered.filter _ = (desk.numbered.filter _).filter _
  rw [List.filter_filter]
  refine List.filter_congr ?_
  intro row _
  simp [Desk.settle, and_comm]

theorem pending_issue (h : Law kind desk) (items : List α) :
    (desk.issue items).pending = desk.pending ++ items.zipIdx desk.issued.length := by
  show (desk.issue items).numbered.filter _ = _
  rw [numbered_issue, List.filter_append]
  congr 1
  refine List.filter_eq_self.mpr ?_
  intro row hrow
  have hlater : desk.issued.length ≤ row.2 := (List.mem_zipIdx (x := row.1) hrow).1
  have hfresh : row.2 ∉ desk.settled := fun hsettled =>
    Nat.not_lt.mpr hlater (h.held_lt (h.settled hsettled))
  exact decide_eq_true hfresh

end Law

end Desk
