/-
  Samara.Logic.Correlation

  A table of outstanding rows, each under a number that is issued once: a row
  enters with a fresh number and leaves when its number is answered.

  `Law` is what holds of every run: numbers are never reused, and the table is
  exactly what was issued and has not been answered.  `Linear` is what the
  parties that answer promise: they answer what was issued, at its type, once.
-/
import Mathlib.Data.List.Nodup
import Mathlib.Logic.Relation
import Samara.Logic.Exec
import Samara.Logic.Table

namespace Correlation

open Relation (ReflTransGen)

/-- What happens to rows `ρ`, whose answers have a type `τ`. -/
inductive Event (ρ τ : Type) where
  | issued (row : ρ)
  | answered (number : Nat) (type : τ)

variable {ρ τ : Type}

def Event.issued? : Event ρ τ → Option ρ
  | .issued row => some row
  | .answered _ _ => none

def Event.answered? : Event ρ τ → Option Nat
  | .issued _ => none
  | .answered number _ => some number

/-- The rows issued, in order. -/
def issued (history : List (Event ρ τ)) : List ρ := history.filterMap Event.issued?

/-- The numbers answered, in order. -/
def answered (history : List (Event ρ τ)) : List Nat := history.filterMap Event.answered?

@[simp] theorem issued_nil : issued ([] : List (Event ρ τ)) = [] := rfl

@[simp] theorem answered_nil : answered ([] : List (Event ρ τ)) = [] := rfl

@[simp] theorem issued_append_issued (history : List (Event ρ τ)) (row : ρ) :
    issued (history ++ [.issued row]) = issued history ++ [row] := List.filterMap_append

@[simp] theorem answered_append_issued (history : List (Event ρ τ)) (row : ρ) :
    answered (history ++ [.issued row]) = answered history := by
  simp [answered, Event.answered?]

@[simp] theorem issued_append_answered (history : List (Event ρ τ)) (number : Nat) (type : τ) :
    issued (history ++ [.answered number type]) = issued history := by
  simp [issued, Event.issued?]

@[simp] theorem answered_append_answered (history : List (Event ρ τ)) (number : Nat) (type : τ) :
    answered (history ++ [.answered number type]) = answered history ++ [number] :=
  List.filterMap_append

structure Machine (ρ τ : Type) where
  next : Nat
  history : List (Event ρ τ)
  outstanding : List ρ

variable (key : ρ → Nat)

inductive Step (machine : Machine ρ τ) : Machine ρ τ → Prop where
  | issue (row : ρ) (hkey : key row = machine.next) :
      Step machine
        ⟨machine.next + 1, machine.history ++ [.issued row], machine.outstanding ++ [row]⟩
  | answer (row : ρ) (number : Nat) (type : τ)
      (hrow : machine.outstanding.find? (key · = number) = some row) :
      Step machine ⟨machine.next, machine.history ++ [.answered number type],
        machine.outstanding.eraseP (key · = number)⟩

/-- What holds in every state of a run. -/
structure Law (machine : Machine ρ τ) : Prop where
  below : ∀ row ∈ issued machine.history, key row < machine.next
  /-- No number names two rows. -/
  distinct : ((issued machine.history).map key).Nodup
  /-- Only rows are answered. -/
  named : ∀ number ∈ answered machine.history, ∃ row ∈ issued machine.history, key row = number
  /-- No row is answered twice. -/
  once : (answered machine.history).Nodup
  outstanding : machine.outstanding =
    (issued machine.history).filter (key · ∉ answered machine.history)

/-- The number answers a row of its type that was issued and not answered. -/
def Redeems (type : ρ → τ) (history : List (Event ρ τ)) (number : Nat) (answer : τ) : Prop :=
  (∃ row ∈ issued history, key row = number ∧ type row = answer) ∧ number ∉ answered history

/-- Every answer is to a row of its type that was issued before and not yet
    answered. -/
def Linear (type : ρ → τ) (history : List (Event ρ τ)) : Prop :=
  ∀ index < history.length, ∀ number answer, history[index]? = some (.answered number answer) →
    Redeems key type (history.take index) number answer

section Decidable

variable [DecidableEq τ]

instance (type : ρ → τ) (history : List (Event ρ τ)) (number : Nat) (answer : τ) :
    Decidable (Redeems key type history number answer) := by
  unfold Redeems
  infer_instance

instance (type : ρ → τ) (history : List (Event ρ τ)) : (event : Option (Event ρ τ)) →
    Decidable (∀ number answer, event = some (.answered number answer) →
      Redeems key type history number answer)
  | some (.answered number answer) =>
      decidable_of_iff (Redeems key type history number answer)
        ⟨fun h _ _ heq => by cases heq; exact h, fun h => h _ _ rfl⟩
  | some (.issued _) => .isTrue fun _ _ heq => by cases heq
  | none => .isTrue fun _ _ heq => by cases heq

instance (type : ρ → τ) (history : List (Event ρ τ)) : Decidable (Linear key type history) := by
  unfold Linear
  infer_instance

end Decidable

theorem Law.empty : Law key (⟨0, [], []⟩ : Machine ρ τ) := by
  constructor <;> simp

variable {key}

theorem Linear.earlier {type : ρ → τ} {history history' : List (Event ρ τ)}
    (h : Linear key type history') (hearlier : history <+: history') : Linear key type history := by
  obtain ⟨later, rfl⟩ := hearlier
  intro index hindex number answer hanswer
  have hwhole : (history ++ later)[index]? = some (.answered number answer) := by
    rw [List.getElem?_append_left hindex]
    exact hanswer
  have hredeems := h index (List.length_append ▸ Nat.lt_add_right _ hindex) number answer hwhole
  rw [List.take_append_of_le_length (Nat.le_of_lt hindex)] at hredeems
  exact hredeems

theorem Linear.last {type : ρ → τ} {history : List (Event ρ τ)} {number : Nat} {answer : τ}
    (h : Linear key type (history ++ [.answered number answer])) :
    Redeems key type history number answer := by
  have hredeems := h history.length (by simp) number answer List.getElem?_concat_length
  rw [List.take_append_of_le_length (Nat.le_refl _), List.take_length] at hredeems
  exact hredeems

namespace Law

variable {machine machine' : Machine ρ τ}

theorem outstanding_nodup (h : Law key machine) : (machine.outstanding.map key).Nodup := by
  rw [h.outstanding]
  exact h.distinct.sublist (List.filter_sublist.map key)

/-- The row under a number that was issued and not answered is found. -/
theorem find (h : Law key machine) {row : ρ} (hissued : row ∈ issued machine.history)
    (hopen : key row ∉ answered machine.history) :
    machine.outstanding.find? (key · = key row) = some row := by
  have hmem : row ∈ machine.outstanding := by
    rw [h.outstanding]
    exact List.mem_filter.mpr ⟨hissued, by simpa using hopen⟩
  exact Table.find?_of_nodup h.outstanding_nodup hmem

/-- An answer that redeems a row finds it, and at its type. -/
theorem redeemed (h : Law key machine) {type : ρ → τ} {number : Nat} {answer : τ}
    (hredeems : Redeems key type machine.history number answer) :
    ∃ row ∈ issued machine.history, key row = number ∧ type row = answer ∧
      machine.outstanding.find? (key · = number) = some row := by
  obtain ⟨⟨row, hissued, rfl, htype⟩, hopen⟩ := hredeems
  exact ⟨row, hissued, rfl, htype, h.find hissued hopen⟩

/-- The row that an answer finds was issued and not answered. -/
theorem of_find (h : Law key machine) {row : ρ} {number : Nat}
    (hrow : machine.outstanding.find? (key · = number) = some row) :
    row ∈ issued machine.history ∧ key row = number ∧ number ∉ answered machine.history := by
  have hkey : key row = number := by simpa using List.find?_some hrow
  have hmem := List.mem_of_find?_eq_some hrow
  rw [h.outstanding] at hmem
  obtain ⟨hissued, hopen⟩ := List.mem_filter.mp hmem
  exact ⟨hissued, hkey, by simpa [hkey] using hopen⟩

theorem issue (h : Law key machine) {row : ρ} (hkey : key row = machine.next) :
    Law key
      ⟨machine.next + 1, machine.history ++ [.issued row], machine.outstanding ++ [row]⟩ := by
  have hfresh : machine.next ∉ answered machine.history := by
    intro hanswered
    obtain ⟨old, hold, hnumber⟩ := h.named _ hanswered
    exact Nat.lt_irrefl _ (hnumber ▸ h.below old hold)
  constructor
  · intro other hother
    rw [issued_append_issued] at hother
    rcases List.mem_append.mp hother with hold | hnew
    · exact Nat.lt_succ_of_lt (h.below other hold)
    · rw [List.mem_singleton.mp hnew, hkey]
      exact Nat.lt_succ_self _
  · rw [issued_append_issued, List.map_append]
    refine List.nodup_append.mpr ⟨h.distinct, List.nodup_singleton _, ?_⟩
    intro number hnumber last hlast
    obtain ⟨old, hold, rfl⟩ := List.mem_map.mp hnumber
    rw [List.mem_singleton.mp hlast, hkey]
    exact Nat.ne_of_lt (h.below old hold)
  · intro number hnumber
    rw [answered_append_issued] at hnumber
    obtain ⟨old, hold, heq⟩ := h.named number hnumber
    exact ⟨old, by simp [hold], heq⟩
  · rw [answered_append_issued]
    exact h.once
  · rw [issued_append_issued, answered_append_issued, List.filter_append, ← h.outstanding,
      List.filter_singleton]
    simp [hkey, hfresh]

theorem answer (h : Law key machine) {row : ρ} {number : Nat} (type : τ)
    (hrow : machine.outstanding.find? (key · = number) = some row) :
    Law key ⟨machine.next, machine.history ++ [.answered number type],
      machine.outstanding.eraseP (key · = number)⟩ := by
  obtain ⟨hissued, hkey, hopen⟩ := h.of_find hrow
  constructor
  · rw [issued_append_answered]
    exact h.below
  · rw [issued_append_answered]
    exact h.distinct
  · intro other hother
    rw [answered_append_answered] at hother
    rw [issued_append_answered]
    rcases List.mem_append.mp hother with hold | hnew
    · exact h.named other hold
    · rw [List.mem_singleton.mp hnew]
      exact ⟨row, hissued, hkey⟩
  · rw [answered_append_answered]
    refine List.nodup_append.mpr ⟨h.once, List.nodup_singleton _, ?_⟩
    intro old hold last hlast
    rw [List.mem_singleton.mp hlast]
    exact fun heq => hopen (heq ▸ hold)
  · rw [issued_append_answered, answered_append_answered,
      Table.eraseP_eq_filter h.outstanding_nodup, h.outstanding, List.filter_filter]
    refine List.filter_congr ?_
    intro other _
    simp [not_or, and_comm]

theorem step (h : Law key machine) (hstep : Step key machine machine') : Law key machine' := by
  cases hstep with
  | issue row hkey => exact h.issue hkey
  | answer row number type hrow => exact h.answer type hrow

theorem path (h : Law key machine) (hpath : ReflTransGen (Step key) machine machine') :
    Law key machine' :=
  @Exec.path_preserves _ (Step key) (Law key) (fun _ _ hlaw hstep => hlaw.step hstep) _ _ hpath h

end Law

/-! ## Rows that are lost -/

/-- What is left of the law when rows leave the table without an answer. -/
structure Remains (key : ρ → Nat) (machine : Machine ρ τ) : Prop where
  below : ∀ row ∈ issued machine.history, key row < machine.next
  distinct : ((issued machine.history).map key).Nodup
  named : ∀ number ∈ answered machine.history, ∃ row ∈ issued machine.history, key row = number
  once : (answered machine.history).Nodup
  outstanding : machine.outstanding.Sublist
    ((issued machine.history).filter (key · ∉ answered machine.history))

theorem Law.remains {machine : Machine ρ τ} (h : Law key machine) : Remains key machine :=
  ⟨h.below, h.distinct, h.named, h.once, h.outstanding ▸ List.Sublist.refl _⟩

/-- The law whose table is whatever has not been answered. -/
theorem Remains.law {next : Nat} {history : List (Event ρ τ)} {outstanding : List ρ}
    (h : Remains key ⟨next, history, outstanding⟩) :
    Law key ⟨next, history, (issued history).filter (key · ∉ answered history)⟩ :=
  ⟨h.below, h.distinct, h.named, h.once, rfl⟩

namespace Remains

variable {next next' : Nat} {history : List (Event ρ τ)} {outstanding outstanding' : List ρ}

theorem issue (h : Remains key ⟨next, history, outstanding⟩) {row : ρ} (hkey : key row = next) :
    Remains key ⟨next + 1, history ++ [.issued row], outstanding ++ [row]⟩ := by
  have hlaw := h.law.issue hkey
  refine ⟨hlaw.below, hlaw.distinct, hlaw.named, hlaw.once, ?_⟩
  have hrows := hlaw.outstanding
  dsimp only at hrows ⊢
  rw [← hrows]
  exact h.outstanding.append_right [row]

theorem lose (h : Remains key ⟨next, history, outstanding⟩) (hnext : next ≤ next')
    (hsub : outstanding'.Sublist outstanding) : Remains key ⟨next', history, outstanding'⟩ :=
  ⟨fun row hrow => Nat.lt_of_lt_of_le (h.below row hrow) hnext, h.distinct, h.named, h.once,
    hsub.trans h.outstanding⟩

/-- A row that the table has, under its number. -/
theorem of_find (h : Remains key ⟨next, history, outstanding⟩) {row : ρ} {number : Nat}
    (hrow : outstanding.find? (key · = number) = some row) :
    row ∈ issued history ∧ key row = number ∧ number ∉ answered history := by
  have hkey : key row = number := by simpa using List.find?_some hrow
  obtain ⟨hissued, hopen⟩ :=
    List.mem_filter.mp (h.outstanding.subset (List.mem_of_find?_eq_some hrow))
  exact ⟨hissued, hkey, by simpa [hkey] using hopen⟩

theorem answer (h : Remains key ⟨next, history, outstanding⟩) {row : ρ} {number : Nat} (type : τ)
    (hrow : outstanding.find? (key · = number) = some row) :
    Remains key ⟨next, history ++ [.answered number type],
      outstanding.eraseP (key · = number)⟩ := by
  obtain ⟨hissued, hkey, hopen⟩ := h.of_find hrow
  have hfound : ((issued history).filter (key · ∉ answered history)).find? (key · = number) =
      some row := hkey ▸ h.law.find hissued (hkey ▸ hopen)
  have hlaw := h.law.answer type hfound
  refine ⟨hlaw.below, hlaw.distinct, hlaw.named, hlaw.once, ?_⟩
  have hrows := hlaw.outstanding
  have hdistinct : (outstanding.map key).Nodup :=
    h.law.outstanding_nodup.sublist (h.outstanding.map key)
  dsimp only at hrows ⊢
  rw [← hrows, Table.eraseP_eq_filter hdistinct, Table.eraseP_eq_filter h.law.outstanding_nodup]
  exact h.outstanding.filter _

end Remains

/-! ## Linear histories -/

theorem Linear.empty {type : ρ → τ} : Linear key type [] :=
  fun _ hindex => absurd hindex (Nat.not_lt_zero _)

/-- An event more, that redeems a row if it is an answer. -/
theorem Linear.snoc {type : ρ → τ} {history : List (Event ρ τ)} {event : Event ρ τ}
    (h : Linear key type history) (hevent : ∀ number answer, event = .answered number answer →
      Redeems key type history number answer) : Linear key type (history ++ [event]) := by
  intro index hindex number answer hanswer
  rcases Nat.lt_or_ge index history.length with hold | hlast
  · rw [List.getElem?_append_left hold] at hanswer
    rw [List.take_append_of_le_length (Nat.le_of_lt hold)]
    exact h index hold number answer hanswer
  · have heq : index = history.length := by
      rw [List.length_append, List.length_singleton] at hindex
      omega
    subst heq
    rw [List.getElem?_concat_length] at hanswer
    rw [List.take_append_of_le_length (Nat.le_refl _), List.take_length]
    exact hevent number answer (Option.some.inj hanswer)

/-! ## Exchanges -/

/-- What a table does whose answers are checked: a row enters, a row that it
    has is answered at its type, or rows are lost. -/
inductive Exchange (key : ρ → Nat) (type : ρ → τ) (machine : Machine ρ τ) : Machine ρ τ → Prop
  | same : Exchange key type machine machine
  | issue (row : ρ) (hkey : key row = machine.next) :
      Exchange key type machine
        ⟨machine.next + 1, machine.history ++ [.issued row], machine.outstanding ++ [row]⟩
  | redeem {row : ρ} {number : Nat} (hrow : machine.outstanding.find? (key · = number) = some row) :
      Exchange key type machine ⟨machine.next, machine.history ++ [.answered number (type row)],
        machine.outstanding.eraseP (key · = number)⟩

namespace Exchange

variable {type : ρ → τ} {machine machine' : Machine ρ τ}

theorem remains (h : Exchange key type machine machine') (hremains : Remains key machine) :
    Remains key machine' := by
  cases h with
  | same => exact hremains
  | issue row hkey => exact hremains.issue hkey
  | redeem hrow => exact hremains.answer _ hrow

theorem law (h : Exchange key type machine machine') (hlaw : Law key machine) : Law key machine' := by
  cases h with
  | same => exact hlaw
  | issue row hkey => exact hlaw.issue hkey
  | redeem hrow => exact hlaw.answer _ hrow

theorem linear (h : Exchange key type machine machine') (hremains : Remains key machine)
    (hlinear : Linear key type machine.history) : Linear key type machine'.history := by
  cases h with
  | same => exact hlinear
  | issue row hkey =>
      refine hlinear.snoc ?_
      intro number answer hevent
      cases hevent
  | @redeem row number hrow =>
      obtain ⟨hissued, hkey, hopen⟩ := hremains.of_find hrow
      refine hlinear.snoc ?_
      intro number answer hevent
      cases hevent
      exact ⟨⟨row, hissued, hkey, rfl⟩, hopen⟩

end Exchange

end Correlation
