/-
  Samara.Logic.Oneshot

  One-shot channels, numbered in the order in which they were opened.  `cells`
  are the receivers; `held` are the numbers of the senders that there still are,
  wherever they are kept; `told` is what senders have sent, in order.

  The law: there is one sender for each receiver that waits and none for the
  others, and a receiver has the value that its sender has sent.  So nobody
  waits once all senders are gone.
-/
import Mathlib.Data.List.Nodup
import Mathlib.Order.Basic

/-- What can be seen of a receiver: whether it waits, and the value that it has. -/
structure Oneshot (σ ρ : Type) where
  waits : σ → Bool
  value? : σ → Option ρ
  silent : ∀ cell, waits cell = true → value? cell = none

namespace Oneshot

variable {σ ρ : Type}

structure Law (shape : Oneshot σ ρ) (held : List Nat) (told : List (Nat × ρ)) (cells : List σ) :
    Prop where
  once : held.Nodup
  waits : ∀ number, number ∈ held ↔ ∃ cell, cells[number]? = some cell ∧ shape.waits cell = true
  values : ∀ number value, (number, value) ∈ told ↔
    ∃ cell, cells[number]? = some cell ∧ shape.value? cell = some value
  distinct : (told.map Prod.fst).Nodup

namespace Law

variable {shape : Oneshot σ ρ} {held held' : List Nat} {told : List (Nat × ρ)} {cells : List σ}
  {cell : σ} {number : Nat} {update : σ → σ}

theorem empty : shape.Law [] [] [] := by
  refine ⟨List.nodup_nil, fun number => ?_, fun number value => ?_, List.nodup_nil⟩
  · simp
  · simp

/-- A sender is where it is put. -/
theorem move (h : shape.Law held told cells) (hmoved : held.Perm held') :
    shape.Law held' told cells :=
  ⟨hmoved.nodup_iff.mp h.once, fun number => hmoved.mem_iff.symm.trans (h.waits number), h.values,
    h.distinct⟩

theorem held_lt (h : shape.Law held told cells) (hheld : number ∈ held) : number < cells.length := by
  obtain ⟨cell, hcell, _⟩ := (h.waits number).mp hheld
  exact (List.getElem?_eq_some_iff.mp hcell).1

theorem exists_concat {p : σ → Prop} : (∃ other, (cells ++ [cell])[number]? = some other ∧ p other) ↔
    (∃ other, cells[number]? = some other ∧ p other) ∨ number = cells.length ∧ p cell := by
  rcases Nat.lt_trichotomy number cells.length with hlt | rfl | hgt
  · rw [List.getElem?_append_left hlt]
    simp [Nat.ne_of_lt hlt]
  · rw [List.getElem?_concat_length, List.getElem?_eq_none (Nat.le_refl _)]
    simp
  · rw [List.getElem?_eq_none (by simp; omega), List.getElem?_eq_none (by omega)]
    simp [Nat.ne_of_gt hgt]

/-- A channel is opened: its receiver waits. -/
theorem opened (h : shape.Law held told cells) (hwaits : shape.waits cell = true) :
    shape.Law (held ++ [cells.length]) told (cells ++ [cell]) := by
  refine ⟨?_, fun number => ?_, fun number value => ?_, h.distinct⟩
  · refine List.nodup_append.mpr ⟨h.once, List.nodup_singleton _, ?_⟩
    rintro number hheld last hlast rfl
    rw [List.mem_singleton.mp hlast] at hheld
    exact Nat.lt_irrefl _ (h.held_lt hheld)
  · rw [exists_concat, List.mem_append, List.mem_singleton, h.waits, hwaits]
    simp
  · rw [exists_concat, h.values, shape.silent cell hwaits]
    simp

/-- A receiver that never had a sender. -/
theorem refused (h : shape.Law held told cells) (hwaits : shape.waits cell = false)
    (hvalue : shape.value? cell = none) : shape.Law held told (cells ++ [cell]) := by
  refine ⟨h.once, fun number => ?_, fun number value => ?_, h.distinct⟩
  · rw [exists_concat, h.waits, hwaits]
    simp
  · rw [exists_concat, h.values, hvalue]
    simp

theorem exists_modify {p : σ → Prop} {index : Nat} :
    (∃ other, (cells.modify index update)[number]? = some other ∧ p other) ↔
      ∃ cell, cells[number]? = some cell ∧ p (if index = number then update cell else cell) := by
  rw [List.getElem?_modify]
  cases cells[number]? <;> simp

/-- A receiver looks at what it has. -/
theorem look (h : shape.Law held told cells) (index : Nat)
    (hwaits : ∀ cell, shape.waits (update cell) = shape.waits cell)
    (hvalue : ∀ cell, shape.value? (update cell) = shape.value? cell) :
    shape.Law held told (cells.modify index update) := by
  refine ⟨h.once, fun number => ?_, fun number value => ?_, h.distinct⟩
  · rw [exists_modify, h.waits]
    by_cases hindex : index = number
    · simp only [hindex, if_true, hwaits]
    · simp only [hindex, if_false]
  · rw [exists_modify, h.values]
    by_cases hindex : index = number
    · simp only [hindex, if_true, hvalue]
    · simp only [hindex, if_false]

/-- A sender is gone, whether it has sent a value or not. -/
theorem settle (h : shape.Law held told cells) (hheld : held.Perm (number :: held'))
    (sent : Option ρ) (hupdate : ∀ cell, shape.waits cell = true →
      shape.waits (update cell) = false ∧ shape.value? (update cell) = sent) :
    shape.Law held' (told ++ (sent.map (Prod.mk number)).toList) (cells.modify number update) := by
  have honce := hheld.nodup_iff.mp h.once
  obtain ⟨hgone, honce'⟩ := List.nodup_cons.mp honce
  obtain ⟨cell, hcell, hwaits⟩ := (h.waits number).mp (hheld.mem_iff.mpr List.mem_cons_self)
  obtain ⟨hclosed, hsent⟩ := hupdate cell hwaits
  have huntold : ∀ value, (number, value) ∉ told := by
    intro value htold
    obtain ⟨other, hother, hvalue⟩ := (h.values number value).mp htold
    rw [hcell] at hother
    cases hother
    rw [shape.silent cell hwaits] at hvalue
    cases hvalue
  refine ⟨honce', fun other => ?_, fun other value => ?_, ?_⟩
  · rw [exists_modify]
    by_cases hthis : number = other
    · subst hthis
      simp [hgone, hcell, hclosed]
    · have hmem : other ∈ held' ↔ other ∈ held := by
        rw [hheld.mem_iff, List.mem_cons]
        simp [Ne.symm hthis]
      rw [hmem, h.waits]
      simp only [hthis, if_false]
  · rw [exists_modify, List.mem_append]
    by_cases hthis : number = other
    · subst hthis
      cases sent <;> simp [huntold, hcell, hsent, eq_comm]
    · rw [h.values]
      cases sent <;> simp [hthis, Ne.symm hthis]
  · cases sent with
    | none => simpa using h.distinct
    | some value =>
        rw [Option.map_some, Option.toList_some, List.map_append, List.map_singleton]
        refine List.nodup_append.mpr ⟨h.distinct, List.nodup_singleton _, ?_⟩
        rintro other hother last hlast rfl
        rw [List.mem_singleton.mp hlast] at hother
        obtain ⟨⟨other, value'⟩, htold, hthis⟩ := List.mem_map.mp hother
        have hsame : other = number := hthis
        rw [hsame] at htold
        exact huntold value' htold

/-- The sender sends its value. -/
theorem send (h : shape.Law held told cells) (hheld : held.Perm (number :: held')) {value : ρ}
    (hupdate : ∀ cell, shape.waits cell = true →
      shape.waits (update cell) = false ∧ shape.value? (update cell) = some value) :
    shape.Law held' (told ++ [(number, value)]) (cells.modify number update) :=
  h.settle hheld (some value) hupdate

/-- A sender is dropped. -/
theorem drop (h : shape.Law held told cells) (hheld : held.Perm (number :: held'))
    (hupdate : ∀ cell, shape.waits cell = true →
      shape.waits (update cell) = false ∧ shape.value? (update cell) = none) :
    shape.Law held' told (cells.modify number update) := by
  have hdropped := h.settle hheld none hupdate
  rw [Option.map_none, Option.toList_none, List.append_nil] at hdropped
  exact hdropped

/-- Nobody waits when no sender is left. -/
theorem settled (h : shape.Law [] told cells) (hcell : cells[number]? = some cell) :
    shape.waits cell = false := by
  by_contra hwaits
  rw [Bool.not_eq_false] at hwaits
  exact List.not_mem_nil ((h.waits number).mpr ⟨cell, hcell, hwaits⟩)

end Law

end Oneshot
