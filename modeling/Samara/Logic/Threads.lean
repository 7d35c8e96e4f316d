/-
  Samara.Logic.Threads

  Threads that share a state: any number of them, each at its own place in its
  code, whose atomic steps interleave in any order.

  What the threads have in hand is counted: a step of one thread changes a
  count by what that thread gains or gives up.  A lock is a count that is at
  most one.
-/
import Mathlib.Data.List.Perm.Basic
import Samara.Logic.Exec

namespace Threads

open Relation (ReflTransGen)

variable {σ τ : Type}

/-- The shared state, and the threads in the order in which they began. -/
structure Pool (σ τ : Type) where
  shared : σ
  threads : List τ

/-- The code that some threads run: how a thread may begin, which step it takes
    next, and what happens to the shared state beside the threads. -/
structure Protocol (σ τ : Type) where
  Enters : Pool σ τ → τ → Prop
  Acts : σ → τ → σ → τ → Prop
  Moves : σ → σ → Prop

variable {protocol : Protocol σ τ} {pool pool' : Pool σ τ}

namespace Protocol

inductive Step (protocol : Protocol σ τ) (pool : Pool σ τ) : Pool σ τ → Prop
  | entered (thread : τ) (henters : protocol.Enters pool thread) :
      Step protocol pool { pool with threads := pool.threads ++ [thread] }
  | acted (index : Nat) {thread thread' : τ} {shared : σ}
      (hthread : pool.threads[index]? = some thread)
      (hacts : protocol.Acts pool.shared thread shared thread') :
      Step protocol pool ⟨shared, pool.threads.set index thread'⟩
  | moved {shared : σ} (hmoves : protocol.Moves pool.shared shared) :
      Step protocol pool { pool with shared }

/-- A pool that the threads, from none, come to. -/
def Reaches (protocol : Protocol σ τ) (start : σ) (pool : Pool σ τ) : Prop :=
  ReflTransGen protocol.Step ⟨start, []⟩ pool

/-- What holds without threads and is kept by every step holds throughout. -/
theorem Reaches.invariant {start : σ} {Inv : Pool σ τ → Prop} (h : protocol.Reaches start pool)
    (hstart : Inv ⟨start, []⟩)
    (hstep : ∀ pool pool', Inv pool → protocol.Step pool pool' → Inv pool') : Inv pool :=
  Exec.path_preserves hstep h hstart

end Protocol

/-! ## Schedules -/

/-- The threads of these numbers take a step each, if they can. -/
def Pool.play (next : σ → τ → Option (σ × τ)) (pool : Pool σ τ) : List Nat → Pool σ τ
  | [] => pool
  | index :: schedule =>
      match (pool.threads[index]?).bind (next pool.shared) with
      | none => pool.play next schedule
      | some (shared, thread) =>
          Pool.play next ⟨shared, pool.threads.set index thread⟩ schedule

/-- Every schedule is a run. -/
theorem Pool.play_steps {next : σ → τ → Option (σ × τ)}
    (hnext : ∀ shared thread shared' thread', next shared thread = some (shared', thread') →
      protocol.Acts shared thread shared' thread')
    (schedule : List Nat) (pool : Pool σ τ) :
    ReflTransGen protocol.Step pool (pool.play next schedule) := by
  induction schedule generalizing pool with
  | nil => exact .refl
  | cons index schedule ih =>
      unfold Pool.play
      cases hacts : (pool.threads[index]?).bind (next pool.shared) with
      | none => exact ih pool
      | some result =>
          obtain ⟨shared, thread'⟩ := result
          obtain ⟨thread, hthread, hstep⟩ := Option.bind_eq_some_iff.mp hacts
          have hfirst : protocol.Step pool ⟨shared, pool.threads.set index thread'⟩ :=
            .acted index hthread (hnext _ _ _ _ hstep)
          exact .head hfirst (ih _)

/-! ## Counting threads -/

section Counting

variable {threads : List τ} {thread thread' : τ} {index : Nat} {p : τ → Bool}

/-- A step of one thread changes a count by what it gains or gives up. -/
theorem countP_set (p : τ → Bool) (h : threads[index]? = some thread) (thread' : τ) :
    (threads.set index thread').countP p + (p thread).toNat =
      threads.countP p + (p thread').toNat := by
  induction threads generalizing index with
  | nil => cases h
  | cons first rest ih =>
      cases index with
      | zero =>
          cases h
          rw [List.set_cons_zero, List.countP_cons, List.countP_cons]
          cases p thread' <;> cases p thread <;> simp
      | succ index =>
          have hrest := ih h
          rw [List.set_cons_succ, List.countP_cons, List.countP_cons]
          omega

theorem countP_snoc (p : τ → Bool) (threads : List τ) (thread : τ) :
    (threads ++ [thread]).countP p = threads.countP p + (p thread).toNat := by
  rw [List.countP_append, List.countP_singleton]
  cases p thread <;> rfl

/-- A step that gains and gives up nothing keeps the count. -/
theorem countP_set_of_eq (h : threads[index]? = some thread) (hsame : p thread' = p thread) :
    (threads.set index thread').countP p = threads.countP p := by
  have hcount := countP_set p h thread'
  rw [hsame] at hcount
  omega

theorem countP_pos_of_getElem? (h : threads[index]? = some thread) (hp : p thread = true) :
    0 < threads.countP p :=
  List.countP_pos_iff.mpr ⟨thread, List.mem_of_getElem? h, hp⟩

/-- What at most one thread has is had by one thread. -/
theorem eq_of_countP_le_one (hone : threads.countP p ≤ 1) {other : τ} {place : Nat}
    (h : threads[index]? = some thread) (hp : p thread = true)
    (h' : threads[place]? = some other) (hp' : p other = true) : place = index := by
  by_contra hne
  -- The first of the two is counted before the rest, where the other is.
  induction threads generalizing index place with
  | nil => cases h
  | cons first rest ih =>
      rw [List.countP_cons] at hone
      cases index with
      | zero =>
          cases h
          rw [if_pos hp] at hone
          cases place with
          | zero => exact hne rfl
          | succ place =>
              have hpos := @countP_pos_of_getElem? _ rest _ _ _ h' hp'
              omega
      | succ index =>
          cases place with
          | zero =>
              cases h'
              rw [if_pos hp'] at hone
              have hpos := @countP_pos_of_getElem? _ rest _ _ _ h hp
              omega
          | succ place =>
              exact ih (by omega) h h' fun heq => hne (congrArg Nat.succ heq)

end Counting

/-! ## What the threads have brought about -/

section Bringing

variable {α : Type} {threads : List τ} {thread thread' : τ} {index : Nat} {f : τ → Option α}

theorem filterMap_set_of_eq (h : threads[index]? = some thread) (hsame : f thread' = f thread) :
    (threads.set index thread').filterMap f = threads.filterMap f := by
  induction threads generalizing index with
  | nil => rfl
  | cons first rest ih =>
      cases index with
      | zero =>
          cases h
          rw [List.set_cons_zero, List.filterMap_cons, List.filterMap_cons, hsame]
      | succ index =>
          rw [List.set_cons_succ, List.filterMap_cons, List.filterMap_cons, ih h]

/-- A step of one thread that brings something about. -/
theorem filterMap_set_perm (h : threads[index]? = some thread) (hbefore : f thread = none) {value : α}
    (hafter : f thread' = some value) :
    ((threads.set index thread').filterMap f).Perm (threads.filterMap f ++ [value]) := by
  induction threads generalizing index with
  | nil => cases h
  | cons first rest ih =>
      cases index with
      | zero =>
          cases h
          rw [List.set_cons_zero, List.filterMap_cons_some hafter, List.filterMap_cons_none hbefore]
          exact (List.perm_append_singleton value _).symm
      | succ index =>
          rw [List.set_cons_succ]
          cases hfirst : f first with
          | none =>
              rw [List.filterMap_cons_none hfirst, List.filterMap_cons_none hfirst]
              exact ih h
          | some other =>
              rw [List.filterMap_cons_some hfirst, List.filterMap_cons_some hfirst]
              exact (ih h).cons other

end Bringing

/-! ## What is known of each thread -/

/-- A step of one thread: it satisfies `Q` afterwards, and the others still do. -/
theorem forall_set {Q : τ → Prop} {threads : List τ} {index : Nat} {thread' : τ}
    (hself : Q thread') (hothers : ∀ place other, place ≠ index → threads[place]? = some other →
      Q other) : ∀ other ∈ threads.set index thread', Q other := by
  intro other hother
  obtain ⟨place, hplace⟩ := List.getElem?_of_mem hother
  by_cases heq : index = place
  · subst heq
    rw [List.getElem?_set_self'] at hplace
    cases hold : threads[index]? with
    | none =>
        rw [hold] at hplace
        cases hplace
    | some old =>
        rw [hold] at hplace
        cases hplace
        exact hself
  · rw [List.getElem?_set_ne heq] at hplace
    exact hothers place other (fun h => heq h.symm) hplace

/-- What a thread other than the one that steps has, it has afterwards. -/
theorem exists_set {p : τ → Bool} {threads : List τ} {index : Nat} {thread : τ}
    (hthread : threads[index]? = some thread) (hp : p thread = false) (thread' : τ)
    (h : ∃ other ∈ threads, p other = true) :
    ∃ other ∈ threads.set index thread', p other = true := by
  obtain ⟨other, hother, hhas⟩ := h
  obtain ⟨place, hplace⟩ := List.getElem?_of_mem hother
  refine ⟨other, List.mem_of_getElem? (show (threads.set index thread')[place]? = some other from ?_), hhas⟩
  have hne : index ≠ place := by
    intro heq
    rw [heq, hplace] at hthread
    cases hthread
    rw [hhas] at hp
    cases hp
  rw [List.getElem?_set_ne hne]
  exact hplace

theorem forall_snoc {Q : τ → Prop} {threads : List τ} {thread : τ} (hself : Q thread)
    (hothers : ∀ other ∈ threads, Q other) : ∀ other ∈ threads ++ [thread], Q other := by
  intro other hother
  rcases List.mem_append.mp hother with hmem | hmem
  · exact hothers other hmem
  · rw [List.mem_singleton.mp hmem]
    exact hself

end Threads
