/-
  Samara.Logic.Custody

  Numbered errands.  Each is issued under the next number, with an open row;
  one carrier has it until it is delivered or the carrier is lost; what was
  delivered is settled in the order of delivery, which closes the row.

  `Carriage` is what holds of every run: no number is in two hands, and none is
  delivered twice.  `Custody` says besides that a row is open exactly until its
  number is settled.  When no row is left open, every errand has been settled
  once.
-/
import Mathlib.Data.List.Perm.Subperm
import Samara.Logic.Table

namespace Table

variable {α κ : Type}

/-- A row that loses its part under an update takes it out of the list of the
    parts. -/
theorem filterMap_modifyFirst_found {part : α → Option κ} {p : α → Bool} {update : α → α}
    {rows : List α} {row : α} {k : κ} (hfound : rows.find? p = some row) (hpart : part row = some k)
    (hlost : part (update row) = none) :
    (rows.filterMap part).Perm (k :: (modifyFirst p update rows).filterMap part) := by
  induction rows with
  | nil => cases hfound
  | cons first rows ih =>
      unfold modifyFirst
      by_cases hfirst : p first = true
      · rw [List.find?_cons_of_pos hfirst] at hfound
        cases hfound
        rw [if_pos hfirst, List.filterMap_cons_some hpart, List.filterMap_cons_none hlost]
      · rw [List.find?_cons_of_neg hfirst] at hfound
        rw [if_neg hfirst]
        cases hother : part first with
        | none =>
            rw [List.filterMap_cons_none hother, List.filterMap_cons_none hother]
            exact ih hfound
        | some other =>
            rw [List.filterMap_cons_some hother, List.filterMap_cons_some hother]
            exact ((ih hfound).cons other).trans (.swap k other _)

/-- A row without a part may change as it likes, if it gets none. -/
theorem filterMap_modifyFirst_none {part : α → Option κ} {p : α → Bool} {update : α → α}
    {rows : List α} (hsame : ∀ row, rows.find? p = some row → part (update row) = part row) :
    (modifyFirst p update rows).filterMap part = rows.filterMap part := by
  induction rows with
  | nil => rfl
  | cons first rows ih =>
      unfold modifyFirst
      by_cases hfirst : p first = true
      · rw [if_pos hfirst, List.filterMap_cons, List.filterMap_cons,
          hsame first (List.find?_cons_of_pos hfirst)]
      · rw [if_neg hfirst, List.filterMap_cons, List.filterMap_cons,
          ih fun row hrow => hsame row (by rw [List.find?_cons_of_neg hfirst]; exact hrow)]

/-- The row under a number is erased, and with it the number. -/
theorem map_eraseP {key : α → Nat} (rows : List α) (number : Nat) :
    (rows.eraseP (key · = number)).map key = (rows.map key).erase number := by
  rw [List.erase_eq_eraseP', List.eraseP_map]
  congr 2

end Table

/-- `issued` numbers have been given out; `carried` are those that a carrier
    has, `delivered` those that were delivered, in order. -/
structure Carriage (issued : Nat) (carried delivered : List Nat) : Prop where
  once : (carried ++ delivered).Nodup
  below : ∀ number ∈ carried ++ delivered, number < issued

namespace Carriage

variable {issued number : Nat} {carried carried' delivered : List Nat}

theorem empty : Carriage 0 [] [] := ⟨List.nodup_nil, fun _ hnone => absurd hnone List.not_mem_nil⟩

/-- A new errand, with its carrier. -/
theorem issue (h : Carriage issued carried delivered) :
    Carriage (issued + 1) (carried ++ [issued]) delivered := by
  have hfresh : issued ∉ carried ++ delivered := fun hmem => Nat.lt_irrefl _ (h.below _ hmem)
  have hperm : (carried ++ [issued] ++ delivered).Perm (issued :: (carried ++ delivered)) := by
    rw [List.append_assoc]
    exact List.perm_middle
  refine ⟨hperm.nodup_iff.mpr (List.nodup_cons.mpr ⟨hfresh, h.once⟩), ?_⟩
  intro number hmem
  rcases List.mem_cons.mp (hperm.subset hmem) with rfl | hold
  · exact Nat.lt_succ_self _
  · exact Nat.lt_succ_of_lt (h.below number hold)

/-- Carriers are lost. -/
theorem lose (h : Carriage issued carried delivered) (hlost : carried'.Subperm carried) :
    Carriage issued carried' delivered := by
  have hsub : (carried' ++ delivered).Subperm (carried ++ delivered) :=
    (List.subperm_append_right delivered).mpr hlost
  obtain ⟨left, hperm, hsublist⟩ := hsub
  refine ⟨hperm.nodup_iff.mp (h.once.sublist hsublist), ?_⟩
  intro number hmem
  exact h.below number (hsublist.subset (hperm.mem_iff.mpr hmem))

/-- A carrier delivers. -/
theorem deliver (h : Carriage issued carried delivered)
    (hcarried : carried.Perm (number :: carried')) :
    Carriage issued carried' (delivered ++ [number]) := by
  have hperm : (carried ++ delivered).Perm (carried' ++ (delivered ++ [number])) := by
    have hmoved : (number :: carried' ++ delivered).Perm (carried' ++ delivered ++ [number]) :=
      (List.perm_append_singleton number (carried' ++ delivered)).symm
    rw [← List.append_assoc]
    exact (hcarried.append_right delivered).trans hmoved
  exact ⟨hperm.nodup_iff.mp h.once, fun other hmem => h.below other (hperm.mem_iff.mpr hmem)⟩

/-- Nothing is delivered twice. -/
theorem delivered_nodup (h : Carriage issued carried delivered) : delivered.Nodup :=
  h.once.sublist (List.sublist_append_right carried delivered)

end Carriage

/-- `settled` are the numbers whose delivery has been dealt with, in order, and
    `rows` are the open ones. -/
structure Custody (issued : Nat) (carried delivered settled rows : List Nat) : Prop where
  carriage : Carriage issued carried delivered
  ordered : settled.Sublist delivered
  opened : ∀ number, number ∈ rows ↔ number < issued ∧ number ∉ settled
  distinct : rows.Nodup

namespace Custody

variable {issued number : Nat} {carried carried' delivered delivered' settled rows : List Nat}

theorem empty : Custody 0 [] [] [] [] :=
  ⟨.empty, List.Sublist.refl _,
    fun _ => ⟨fun hnone => absurd hnone List.not_mem_nil, fun h => absurd h.1 (Nat.not_lt_zero _)⟩,
    List.nodup_nil⟩

/-- A new errand, with its carrier and its row. -/
theorem issue (h : Custody issued carried delivered settled rows) :
    Custody (issued + 1) (carried ++ [issued]) delivered settled (rows ++ [issued]) := by
  refine ⟨h.carriage.issue, h.ordered, ?_, ?_⟩
  · intro number
    rw [List.mem_append, List.mem_singleton, h.opened]
    constructor
    · rintro (⟨hlt, hopen⟩ | rfl)
      · exact ⟨Nat.lt_succ_of_lt hlt, hopen⟩
      · exact ⟨Nat.lt_succ_self _, fun hmem => Nat.lt_irrefl _ (h.carriage.below _
          (List.mem_append_right _ (h.ordered.subset hmem)))⟩
    · rintro ⟨hlt, hopen⟩
      rcases Nat.lt_succ_iff_lt_or_eq.mp hlt with hold | rfl
      · exact .inl ⟨hold, hopen⟩
      · exact .inr rfl
  · refine List.nodup_append.mpr ⟨h.distinct, List.nodup_singleton _, ?_⟩
    intro number hmem last hlast
    rw [List.mem_singleton.mp hlast]
    exact Nat.ne_of_lt ((h.opened number).mp hmem).1

/-- Carriers have delivered or are lost; no row has been touched. -/
theorem carry (h : Custody issued carried delivered settled rows)
    (hcarriage : Carriage issued carried' delivered') (hgrown : delivered <+: delivered') :
    Custody issued carried' delivered' settled rows :=
  ⟨hcarriage, h.ordered.trans hgrown.sublist, h.opened, h.distinct⟩

/-- What is delivered next is settled, which closes its row. -/
theorem settle (h : Custody issued carried delivered settled rows)
    (hnext : (settled ++ [number]).Sublist delivered) :
    number ∈ rows ∧ Custody issued carried delivered (settled ++ [number]) (rows.erase number) := by
  have honce : (settled ++ [number]).Nodup := h.carriage.delivered_nodup.sublist hnext
  have hopen : number ∉ settled := by
    intro hmem
    exact (List.nodup_append.mp honce).2.2 number hmem number List.mem_cons_self rfl
  have hissued : number < issued :=
    h.carriage.below number (List.mem_append_right _ (hnext.subset (by simp)))
  refine ⟨(h.opened number).mpr ⟨hissued, hopen⟩, h.carriage, hnext, ?_, h.distinct.erase number⟩
  intro other
  rw [h.distinct.mem_erase_iff, h.opened, List.mem_append, List.mem_singleton, not_or]
  tauto

/-- With no row left open, every errand has been settled, once. -/
theorem complete (h : Custody issued carried delivered settled []) (hlt : number < issued) :
    settled.count number = 1 := by
  refine List.count_eq_one_of_mem (h.carriage.delivered_nodup.sublist h.ordered) ?_
  by_contra hopen
  exact List.not_mem_nil ((h.opened number).mpr ⟨hlt, hopen⟩)

end Custody
