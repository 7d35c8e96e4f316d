/-
  Samara.Logic.Scheduler

  A logical-time scheduler: work is queued under a deadline and a ticket, the
  least key that is due runs first, and time never passes a deadline.

  `Law` is what holds of every run: work runs exactly at its deadline, in the
  order of its keys, and no ticket is lost or executed twice.
-/
import Mathlib.Data.List.Nodup
import Mathlib.Data.List.Perm.Basic
import Mathlib.Data.Prod.Lex
import Mathlib.Logic.Relation
import Samara.Logic.Exec

namespace Scheduler

open Relation (ReflTransGen)

/-- A deadline and a ticket, compared in this order. -/
structure Entry (τ : Type) where
  deadline : τ
  ticket : Nat

def Entry.key {τ : Type} (entry : Entry τ) : τ ×ₗ Nat := toLex (entry.deadline, entry.ticket)

/-- An entry that has run, with the time it ran at. -/
structure Execution (τ : Type) where
  entry : Entry τ
  time : τ

structure Machine (τ : Type) where
  now : τ
  nextTicket : Nat
  queue : List (Entry τ)
  executed : List (Execution τ)

variable {τ : Type}

theorem Entry.key_inj {left right : Entry τ} (h : left.key = right.key) : left = right := by
  cases left
  cases right
  have hpair := congrArg ofLex h
  simp only [Entry.key, ofLex_toLex, Prod.mk.injEq] at hpair
  rw [hpair.1, hpair.2]

variable [LinearOrder τ]

theorem Entry.key_lt_of_deadline {left right : Entry τ} (h : left.deadline < right.deadline) :
    left.key < right.key :=
  Prod.Lex.toLex_lt_toLex.mpr (Or.inl h)

theorem Entry.key_lt_of_ticket {left right : Entry τ} (hdeadline : left.deadline ≤ right.deadline)
    (hticket : left.ticket < right.ticket) : left.key < right.key := by
  rcases lt_or_eq_of_le hdeadline with hlt | heq
  · exact Entry.key_lt_of_deadline hlt
  · exact Prod.Lex.toLex_lt_toLex.mpr (Or.inr ⟨heq, hticket⟩)

inductive Step (machine : Machine τ) : Machine τ → Prop where
  | schedule (deadline : τ) (h : machine.now ≤ deadline) :
      Step machine { machine with
        nextTicket := machine.nextTicket + 1
        queue := machine.queue ++ [⟨deadline, machine.nextTicket⟩] }
  | execute (entry : Entry τ) (hqueued : entry ∈ machine.queue)
      (hdue : entry.deadline ≤ machine.now)
      (hleast : ∀ other ∈ machine.queue, other.deadline ≤ machine.now → entry.key ≤ other.key) :
      Step machine { machine with
        queue := machine.queue.eraseP (·.key = entry.key)
        executed := machine.executed ++ [⟨entry, machine.now⟩] }
  | pass (time : τ) (hforward : machine.now ≤ time)
      (hdue : ∀ entry ∈ machine.queue, time ≤ entry.deadline) :
      Step machine { machine with now := time }

/-- What holds in every state of a run. -/
structure Law (machine : Machine τ) : Prop where
  /-- No queued work is overdue. -/
  timely : ∀ entry ∈ machine.queue, machine.now ≤ entry.deadline
  /-- Work ran at its deadline. -/
  punctual : ∀ execution ∈ machine.executed, execution.time = execution.entry.deadline
  past : ∀ execution ∈ machine.executed, execution.time ≤ machine.now
  /-- Whatever has run comes before whatever is queued. -/
  earlier : ∀ execution ∈ machine.executed, ∀ entry ∈ machine.queue,
    execution.entry.key < entry.key
  /-- Work ran in the strict order of its keys. -/
  ordered : machine.executed.Pairwise (·.entry.key < ·.entry.key)
  /-- Each issued ticket is queued or has run, exactly once. -/
  tickets : (machine.executed.map (·.entry.ticket) ++ machine.queue.map (·.ticket)).Perm
    (List.range machine.nextTicket)

/-- A scheduler that has nothing to do yet. -/
def Machine.idle (now : τ) : Machine τ := ⟨now, 0, [], []⟩

theorem Law.idle (now : τ) : Law (Machine.idle now) := by
  constructor <;> simp [Machine.idle]

namespace Law

variable {machine : Machine τ}

theorem ticket_lt (h : Law machine) {ticket : Nat}
    (hmem : ticket ∈ machine.executed.map (·.entry.ticket) ++ machine.queue.map (·.ticket)) :
    ticket < machine.nextTicket :=
  List.mem_range.mp (h.tickets.mem_iff.mp hmem)

theorem tickets_nodup (h : Law machine) :
    (machine.executed.map (·.entry.ticket) ++ machine.queue.map (·.ticket)).Nodup :=
  h.tickets.nodup_iff.mpr List.nodup_range

theorem keys_nodup (h : Law machine) : (machine.queue.map Entry.key).Nodup := by
  have htickets := (List.nodup_append.mp h.tickets_nodup).2.1
  refine List.Nodup.of_map (fun key => (ofLex key).2) ?_
  rw [List.map_map]
  exact htickets

/-- The row that an execution removes is the entry that runs. -/
theorem queue_perm {entry : Entry τ} (hqueued : entry ∈ machine.queue) :
    machine.queue.Perm (entry :: machine.queue.eraseP (·.key = entry.key)) := by
  obtain ⟨found, before, after, hbefore, hfound, hqueue, herase⟩ :=
    List.exists_of_eraseP hqueued (p := (·.key = entry.key)) (by simp)
  have heq : found = entry := Entry.key_inj (by simpa using hfound)
  rw [herase, hqueue, heq]
  exact List.perm_middle

theorem schedule (h : Law machine) {deadline : τ} (hdeadline : machine.now ≤ deadline) :
    Law { machine with
      nextTicket := machine.nextTicket + 1
      queue := machine.queue ++ [⟨deadline, machine.nextTicket⟩] } := by
  refine ⟨?_, h.punctual, h.past, ?_, h.ordered, ?_⟩
  · intro entry hmem
    rcases List.mem_append.mp hmem with hold | hnew
    · exact h.timely entry hold
    · rw [List.mem_singleton.mp hnew]
      exact hdeadline
  · intro execution hexecution entry hmem
    rcases List.mem_append.mp hmem with hold | hnew
    · exact h.earlier execution hexecution entry hold
    · rw [List.mem_singleton.mp hnew]
      refine Entry.key_lt_of_ticket ?_ ?_
      · rw [← h.punctual execution hexecution]
        exact (h.past execution hexecution).trans hdeadline
      · exact h.ticket_lt (List.mem_append_left _ (List.mem_map_of_mem hexecution))
  · rw [List.map_append, ← List.append_assoc, List.range_succ]
    exact h.tickets.append_right _

theorem execute (h : Law machine) {entry : Entry τ} (hqueued : entry ∈ machine.queue)
    (hdue : entry.deadline ≤ machine.now)
    (hleast : ∀ other ∈ machine.queue, other.deadline ≤ machine.now → entry.key ≤ other.key) :
    Law { machine with
      queue := machine.queue.eraseP (·.key = entry.key)
      executed := machine.executed ++ [⟨entry, machine.now⟩] } := by
  have hperm := queue_perm hqueued
  have hrest {other : Entry τ} (hmem : other ∈ machine.queue.eraseP (·.key = entry.key)) :
      other ∈ machine.queue := List.mem_of_mem_eraseP hmem
  have hne {other : Entry τ} (hmem : other ∈ machine.queue.eraseP (·.key = entry.key)) :
      entry.key ≠ other.key := by
    have hnodup := (hperm.map Entry.key).nodup_iff.mp h.keys_nodup
    rw [List.map_cons, List.nodup_cons] at hnodup
    intro heq
    exact hnodup.1 (List.mem_map.mpr ⟨other, hmem, heq.symm⟩)
  refine ⟨fun other hmem => h.timely other (hrest hmem), ?_, ?_, ?_, ?_, ?_⟩
  · intro execution hmem
    rcases List.mem_append.mp hmem with hold | hnew
    · exact h.punctual execution hold
    · rw [List.mem_singleton.mp hnew]
      exact le_antisymm (h.timely entry hqueued) hdue
  · intro execution hmem
    rcases List.mem_append.mp hmem with hold | hnew
    · exact h.past execution hold
    · rw [List.mem_singleton.mp hnew]
  · intro execution hexecution other hmem
    rcases List.mem_append.mp hexecution with hold | hnew
    · exact h.earlier execution hold other (hrest hmem)
    · rw [List.mem_singleton.mp hnew]
      by_cases hother : other.deadline ≤ machine.now
      · exact lt_of_le_of_ne (hleast other (hrest hmem) hother) (hne hmem)
      · exact Entry.key_lt_of_deadline (lt_of_le_of_lt hdue (not_le.mp hother))
  · refine List.pairwise_append.mpr ⟨h.ordered, List.pairwise_singleton _ _, ?_⟩
    intro execution hexecution last hlast
    rw [List.mem_singleton.mp hlast]
    exact h.earlier execution hexecution entry hqueued
  · have hmoved : (machine.queue.map (·.ticket)).Perm
        (entry.ticket :: (machine.queue.eraseP (·.key = entry.key)).map (·.ticket)) :=
      hperm.map (·.ticket)
    rw [List.map_append, List.append_assoc]
    exact (hmoved.symm.append_left _).trans h.tickets

theorem pass (h : Law machine) {time : τ} (hforward : machine.now ≤ time)
    (hdue : ∀ entry ∈ machine.queue, time ≤ entry.deadline) :
    Law { machine with now := time } :=
  { h with
    timely := hdue
    past := fun execution hmem => (h.past execution hmem).trans hforward }

theorem step {machine' : Machine τ} (h : Law machine) (hstep : Step machine machine') :
    Law machine' := by
  cases hstep with
  | schedule deadline hdeadline => exact h.schedule hdeadline
  | execute entry hqueued hdue hleast => exact h.execute hqueued hdue hleast
  | pass time hforward hdue => exact h.pass hforward hdue

theorem path {machine' : Machine τ} (h : Law machine) (hpath : ReflTransGen Step machine machine') :
    Law machine' :=
  @Exec.path_preserves _ Step Law (fun _ _ hlaw hstep => hlaw.step hstep) _ _ hpath h

end Law

/-- Time does not go back. -/
theorem Step.now_le {machine machine' : Machine τ} (h : Step machine machine') :
    machine.now ≤ machine'.now := by
  cases h with
  | schedule => exact le_refl _
  | execute => exact le_refl _
  | pass time hforward => exact hforward

theorem now_le_of_path {machine machine' : Machine τ} (h : ReflTransGen Step machine machine') :
    machine.now ≤ machine'.now :=
  @Exec.path_relates _ Step (fun machine machine' => machine.now ≤ machine'.now)
    (fun _ => le_refl _) (fun _ _ _ => le_trans) (fun _ _ => Step.now_le) _ _ h

end Scheduler
