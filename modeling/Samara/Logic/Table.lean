/-
  Samara.Logic.Table

  Vectors used as tables: `iter().position(p)` followed by `remove(index)` or
  by an assignment to `[index]` is `List.find?` with `List.eraseP` or with
  `Table.modifyFirst`.  The lemmas say what such an update does to the other
  rows, in particular when a key is unique.
-/
import Mathlib.Data.List.Forall2
import Mathlib.Data.List.Nodup
import Mathlib.Data.List.Perm.Basic

namespace Table

variable {α κ : Type}

/-- Update the first row that satisfies `p`. -/
def modifyFirst (p : α → Bool) (f : α → α) : List α → List α
  | [] => []
  | row :: rows => if p row then f row :: rows else row :: modifyFirst p f rows

@[simp] theorem modifyFirst_nil (p : α → Bool) (f : α → α) : modifyFirst p f [] = [] := rfl

@[simp] theorem length_modifyFirst (p : α → Bool) (f : α → α) (rows : List α) :
    (modifyFirst p f rows).length = rows.length := by
  induction rows with
  | nil => rfl
  | cons row rows ih =>
      unfold modifyFirst
      split
      · rfl
      · simp [ih]

/-- A column that `f` leaves alone is unchanged in the whole table. -/
theorem map_modifyFirst {p : α → Bool} {f : α → α} {key : α → κ}
    (h : ∀ row, p row = true → key (f row) = key row) (rows : List α) :
    (modifyFirst p f rows).map key = rows.map key := by
  induction rows with
  | nil => rfl
  | cons row rows ih =>
      unfold modifyFirst
      split
      · rename_i hp
        simp [h row hp]
      · simp [ih]

/-- A column that the update leaves alone in the row found is unchanged in the
    whole table. -/
theorem map_modifyFirst_found {p : α → Bool} {f : α → α} {key : α → κ} {rows : List α} {row : α}
    (hfound : rows.find? p = some row) (h : key (f row) = key row) :
    (modifyFirst p f rows).map key = rows.map key := by
  induction rows with
  | nil => rfl
  | cons head rows ih =>
      unfold modifyFirst
      rw [List.find?_cons] at hfound
      split
      · rename_i hp
        rw [hp] at hfound
        cases hfound
        simp [h]
      · rename_i hp
        rw [Bool.eq_false_iff.mpr hp] at hfound
        simp [ih hfound]

/-- The row that a removal takes out is the row found. -/
theorem perm_cons_eraseP {p : α → Bool} {rows : List α} {row : α}
    (hfound : rows.find? p = some row) : rows.Perm (row :: rows.eraseP p) := by
  induction rows with
  | nil => cases hfound
  | cons head rows ih =>
      rw [List.find?_cons] at hfound
      cases hp : p head with
      | true =>
          rw [hp] at hfound
          cases hfound
          rw [List.eraseP_cons_of_pos hp]
      | false =>
          rw [hp] at hfound
          rw [List.eraseP_cons_of_neg (by simp [hp])]
          exact ((ih hfound).cons head).trans (List.Perm.swap row head _)

section Keys

variable [DecidableEq κ] {key : α → κ} {rows : List α}

/-- In a table of distinct keys, the row found under its key is the row. -/
theorem find?_of_nodup (h : (rows.map key).Nodup) {row : α} (hmem : row ∈ rows) :
    rows.find? (key · = key row) = some row := by
  cases hfound : rows.find? (key · = key row) with
  | none =>
      have hnone := List.find?_eq_none.mp hfound row hmem
      simp at hnone
  | some found =>
      have hkey : key found = key row := by simpa using List.find?_some hfound
      rw [List.inj_on_of_nodup_map h (List.mem_of_find?_eq_some hfound) hmem hkey]

/-- In a table of distinct keys, removing a row is filtering its key out. -/
theorem eraseP_eq_filter (h : (rows.map key).Nodup) (number : κ) :
    rows.eraseP (key · = number) = rows.filter (key · ≠ number) := by
  induction rows with
  | nil => rfl
  | cons row rows ih =>
      rw [List.map_cons, List.nodup_cons] at h
      by_cases hkey : key row = number
      · rw [List.eraseP_cons_of_pos (by simpa using hkey),
          List.filter_cons_of_neg (by simpa using hkey)]
        refine (List.filter_eq_self.mpr ?_).symm
        intro other hother
        have hne : key other ≠ number := by
          intro heq
          exact h.1 (List.mem_map.mpr ⟨other, hother, heq.trans hkey.symm⟩)
        simpa using hne
      · rw [List.eraseP_cons_of_neg (by simpa using hkey),
          List.filter_cons_of_pos (by simpa using hkey), ih h.2]

/-- In a table of distinct keys, updating the first row that satisfies `p` is
    updating the row of its key. -/
theorem modifyFirst_found (h : (rows.map key).Nodup) {p : α → Bool} {row : α}
    (hfound : rows.find? p = some row) (f : α → α) :
    modifyFirst p f rows = rows.map fun other => if key other = key row then f other else other := by
  induction rows with
  | nil => cases hfound
  | cons head rows ih =>
      rw [List.map_cons, List.nodup_cons] at h
      rw [List.find?_cons] at hfound
      unfold modifyFirst
      rw [List.map_cons]
      split at hfound
      · rename_i hp
        cases hfound
        rw [if_pos hp, if_pos rfl]
        congr 1
        symm
        calc rows.map (fun other => if key other = key row then f other else other)
          _ = rows.map id := by
              refine List.map_congr_left ?_
              intro other hother
              have hne : key other ≠ key row := fun heq => h.1 (heq ▸ List.mem_map_of_mem hother)
              rw [if_neg hne, id]
          _ = rows := List.map_id rows
      · rename_i hp
        have hne : key head ≠ key row := fun heq =>
          h.1 (heq ▸ List.mem_map_of_mem (List.mem_of_find?_eq_some hfound))
        rw [if_neg (by simp [hp]), if_neg hne, ih h.2 hfound]

/-- Removing the first row that satisfies `p` is filtering its key out. -/
theorem eraseP_found (h : (rows.map key).Nodup) {p : α → Bool} {row : α}
    (hfound : rows.find? p = some row) : rows.eraseP p = rows.filter (key · ≠ key row) := by
  induction rows with
  | nil => cases hfound
  | cons head rows ih =>
      rw [List.map_cons, List.nodup_cons] at h
      rw [List.find?_cons] at hfound
      split at hfound
      · rename_i hp
        cases hfound
        rw [List.eraseP_cons_of_pos hp, List.filter_cons_of_neg (by simp)]
        refine (List.filter_eq_self.mpr ?_).symm
        intro other hother
        have hne : key other ≠ key row := fun heq => h.1 (heq ▸ List.mem_map_of_mem hother)
        simpa using hne
      · rename_i hp
        have hne : key head ≠ key row := fun heq =>
          h.1 (heq ▸ List.mem_map_of_mem (List.mem_of_find?_eq_some hfound))
        rw [List.eraseP_cons_of_neg (by simp [hp]), List.filter_cons_of_pos (by simpa using hne),
          ih h.2 hfound]

omit [DecidableEq κ] in
/-- A filter that lets through one key only lets through one row. -/
theorem filter_eq_singleton (h : (rows.map key).Nodup) {p : α → Bool} {row : α}
    (hmem : row ∈ rows) (hp : p row = true)
    (honly : ∀ other ∈ rows, p other = true → key other = key row) : rows.filter p = [row] := by
  induction rows with
  | nil => cases hmem
  | cons head rows ih =>
      rw [List.map_cons, List.nodup_cons] at h
      rcases List.mem_cons.mp hmem with rfl | hrest
      · rw [List.filter_cons_of_pos hp]
        refine congrArg _ (List.filter_eq_nil_iff.mpr ?_)
        intro other hother hother'
        have hkey := honly other (List.mem_cons_of_mem _ hother) hother'
        exact h.1 (hkey ▸ List.mem_map_of_mem hother)
      · have hhead : p head ≠ true := by
          intro hhead
          have hkey := honly head List.mem_cons_self hhead
          exact h.1 (hkey ▸ List.mem_map_of_mem hrest)
        rw [List.filter_cons_of_neg hhead]
        exact ih h.2 hrest fun other hother => honly other (List.mem_cons_of_mem _ hother)

end Keys

/-- Every row of an updated table is an old row or the update of the row found. -/
theorem mem_modifyFirst {p : α → Bool} {f : α → α} {rows : List α} {row : α}
    (h : row ∈ modifyFirst p f rows) :
    row ∈ rows ∨ ∃ found, rows.find? p = some found ∧ row = f found := by
  induction rows with
  | nil => exact absurd h (by simp)
  | cons head rows ih =>
      unfold modifyFirst at h
      split at h
      · rename_i hp
        rcases List.mem_cons.mp h with rfl | hmem
        · exact Or.inr ⟨head, by simp [hp], rfl⟩
        · exact Or.inl (List.mem_cons_of_mem _ hmem)
      · rename_i hp
        rcases List.mem_cons.mp h with rfl | hmem
        · exact Or.inl List.mem_cons_self
        · rcases ih hmem with hold | ⟨found, hfound, hrow⟩
          · exact Or.inl (List.mem_cons_of_mem _ hold)
          · exact Or.inr ⟨found, by simp [hp, hfound], hrow⟩

theorem find?_modifyFirst_self {p : α → Bool} {f : α → α}
    (h : ∀ row, p row = true → p (f row) = true) (rows : List α) :
    (modifyFirst p f rows).find? p = (rows.find? p).map f := by
  induction rows with
  | nil => rfl
  | cons row rows ih =>
      unfold modifyFirst
      split
      · rename_i hp
        simp [hp, h row hp]
      · rename_i hp
        simp [hp, ih]

/-- A lookup the update does not affect. -/
theorem find?_modifyFirst_of_ne {p q : α → Bool} {f : α → α}
    (h : ∀ row, p row = true → q row = false ∧ q (f row) = false) (rows : List α) :
    (modifyFirst p f rows).find? q = rows.find? q := by
  induction rows with
  | nil => rfl
  | cons row rows ih =>
      unfold modifyFirst
      split
      · rename_i hp
        obtain ⟨hrow, hfrow⟩ := h row hp
        simp [hrow, hfrow]
      · simp [List.find?_cons, ih]

/-- A key is in a table exactly when the lookup of it succeeds. -/
theorem mem_map_iff_find? [DecidableEq κ] {key : α → κ} {rows : List α} {k : κ} :
    k ∈ rows.map key ↔ ∃ row, rows.find? (fun row => decide (key row = k)) = some row := by
  constructor
  · intro h
    obtain ⟨row, hrow, hkey⟩ := List.mem_map.mp h
    refine Option.isSome_iff_exists.mp ?_
    rw [List.find?_isSome]
    exact ⟨row, hrow, by simpa using hkey⟩
  · rintro ⟨row, hrow⟩
    exact List.mem_map.mpr ⟨row, List.mem_of_find?_eq_some hrow, by
      simpa using List.find?_some hrow⟩

/-- A lookup that passes over the row to be erased finds the same without it. -/
theorem find?_eraseP_of_ne {p q : α → Bool} {rows : List α}
    (h : ∀ row, rows.find? p = some row → q row = false) :
    (rows.eraseP p).find? q = rows.find? q := by
  induction rows with
  | nil => rfl
  | cons row rows ih =>
      by_cases hp : p row = true
      · have hq : q row = false := h row (List.find?_cons_of_pos hp)
        rw [List.eraseP_cons_of_pos hp, List.find?_cons_of_neg (by simp [hq])]
      · rw [List.eraseP_cons_of_neg hp, List.find?_cons, List.find?_cons, ih]
        intro found hfound
        exact h found (by rw [List.find?_cons_of_neg hp, hfound])

/-- A row that is found is missed once it has been erased. -/
theorem eraseP_ne_of_find? {rows : List α} {row : α} {p : α → Bool}
    (h : rows.find? p = some row) : rows.eraseP p ≠ rows := by
  intro heq
  have hlength := List.length_eraseP_of_mem (List.mem_of_find?_eq_some h) (List.find?_some h)
  have hpos := List.length_pos_of_mem (List.mem_of_find?_eq_some h)
  rw [heq] at hlength
  omega

section Order

variable {key : α → κ} {p : α → Bool} {rows rows' : List α}

/-- A lookup that one key decides finds the same row in any order of the rows. -/
theorem find?_perm (hperm : rows.Perm rows') (hnodup : (rows.map key).Nodup) (k : κ)
    (hp : ∀ row, p row = true → key row = k) : rows'.find? p = rows.find? p := by
  cases hfound : rows.find? p with
  | none =>
      rw [List.find?_eq_none] at hfound ⊢
      intro row hrow
      exact hfound row (hperm.mem_iff.mpr hrow)
  | some row =>
      have hmem := List.mem_of_find?_eq_some hfound
      have hrow := List.find?_some hfound
      cases hother : rows'.find? p with
      | none =>
          rw [List.find?_eq_none] at hother
          exact absurd hrow (hother row (hperm.mem_iff.mp hmem))
      | some other =>
          have hmem' := hperm.mem_iff.mpr (List.mem_of_find?_eq_some hother)
          have hkey := (hp other (List.find?_some hother)).trans (hp row hrow).symm
          rw [List.inj_on_of_nodup_map hnodup hmem' hmem hkey]

/-- An update that one key decides changes every row it applies to. -/
theorem modifyFirst_eq_map (hnodup : (rows.map key).Nodup) (k : κ)
    (hp : ∀ row, p row = true → key row = k) (f : α → α) :
    modifyFirst p f rows = rows.map fun row => if p row then f row else row := by
  induction rows with
  | nil => rfl
  | cons row rows ih =>
      rw [List.map_cons, List.nodup_cons] at hnodup
      unfold modifyFirst
      rw [List.map_cons]
      by_cases hrow : p row = true
      · rw [if_pos hrow, if_pos hrow]
        congr 1
        symm
        calc rows.map (fun other => if p other then f other else other)
          _ = rows.map id := by
              refine List.map_congr_left ?_
              intro other hother
              have hne : ¬ p other = true := by
                intro hp'
                have hkey := (hp row hrow).trans (hp other hp').symm
                exact hnodup.1 (hkey ▸ List.mem_map_of_mem hother)
              rw [if_neg hne, id]
          _ = rows := List.map_id rows
      · rw [if_neg hrow, if_neg hrow, ih hnodup.2]

/-- Such an update commutes with the order of the rows. -/
theorem modifyFirst_perm (hperm : rows.Perm rows') (hnodup : (rows.map key).Nodup) (k : κ)
    (hp : ∀ row, p row = true → key row = k) (f : α → α) :
    (modifyFirst p f rows).Perm (modifyFirst p f rows') := by
  rw [modifyFirst_eq_map hnodup k hp,
    modifyFirst_eq_map ((hperm.map key).nodup_iff.mp hnodup) k hp]
  exact hperm.map _

end Order

/-! ## Two tables, row by row -/

section Rows

variable {β : Type} {R : α → β → Prop} {rows : List α} {rows' : List β} {p : α → Bool} {q : β → Bool}

/-- Predicates that agree on related rows find related rows. -/
theorem find?_forall₂ (h : List.Forall₂ R rows rows') (hpq : ∀ row row', R row row' → p row = q row') :
    Option.Rel R (rows.find? p) (rows'.find? q) := by
  induction h with
  | nil => exact .none
  | @cons row row' _ _ hrow _ ih =>
      rw [List.find?_cons, List.find?_cons, ← hpq row row' hrow]
      cases p row with
      | true => exact .some hrow
      | false => exact ih

theorem modifyFirst_forall₂ (h : List.Forall₂ R rows rows')
    (hpq : ∀ row row', R row row' → p row = q row') {f : α → α} {g : β → β}
    (hfg : ∀ row row', R row row' → R (f row) (g row')) :
    List.Forall₂ R (modifyFirst p f rows) (modifyFirst q g rows') := by
  induction h with
  | nil => exact .nil
  | @cons row row' _ _ hrow hrest ih =>
      unfold modifyFirst
      rw [← hpq row row' hrow]
      cases p row with
      | true => exact .cons (hfg _ _ hrow) hrest
      | false => exact .cons hrow ih

theorem mem_forall₂ (h : List.Forall₂ R rows rows') {row' : β} (hmem : row' ∈ rows') :
    ∃ row ∈ rows, R row row' := by
  induction h with
  | nil => cases hmem
  | @cons row _ _ _ hrow _ ih =>
      rcases List.mem_cons.mp hmem with rfl | hmem
      · exact ⟨row, List.mem_cons_self, hrow⟩
      · obtain ⟨found, hfound, hrelated⟩ := ih hmem
        exact ⟨found, List.mem_cons_of_mem _ hfound, hrelated⟩

end Rows

end Table
