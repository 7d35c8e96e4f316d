/-
  Samara.Controlled.Ledger

  The obligation ledger of the controlled runtime: in every run, what the trace
  says was declared equals what it says was settled plus what the tables still
  hold, and a drive leaves nothing due.
-/
import Mathlib.Algebra.BigOperators.Group.List.Basic
import Mathlib.Algebra.GroupWithZero.Nat
import Samara.Controlled.Accounts

namespace Samara

open Relation (ReflTransGen)

variable [RustTypes]

namespace Controlled

/-! ## Runs -/

/-- The balances of a runtime that has not faulted. -/
structure Balanced (core : Core) : Prop where
  effects : EffectsBalanced core
  later : SettlesLater core
  requests : RequestsBalanced core
  timers : TimersBalanced core
  messages : MessagesBalanced core

/-- What the balances rest on in every state of a run. -/
structure Books (core : Core) : Prop where
  law : Scheduler.Law core.scheduler
  recorded : Recorded core
  typed : Typed core
  owed : Owed core
  balanced : core.fault = none → Balanced core

namespace Books

variable {core core' : Core}

theorem fresh (program : Program) (bindings : Bindings) :
    Books (Core.fresh program bindings) where
  law := Scheduler.Law.idle 0
  recorded := Recorded.fresh program bindings
  typed := Typed.fresh program bindings
  owed := Owed.fresh program bindings
  balanced _ := ⟨List.Perm.refl _, fun _ hrecord => absurd hrecord List.not_mem_nil, ⟨rfl, rfl⟩,
    rfl, rfl⟩

theorem move (h : Books core) (hmove : Move core core') : Books core' := by
  have hticks := hmove.ticks
  have hlaw := h.law.path (scheduler_path hticks)
  have hrecorded := h.recorded.path hticks
  have hmoves := ReflTransGen.single hmove
  refine ⟨hlaw, hrecorded, h.typed.path hmoves, h.owed.path hmoves, ?_⟩
  intro hok
  have hbalanced := h.balanced hmove.1
  rcases hmove with ⟨_, ⟨phase, haction⟩ | ⟨time, _, _⟩⟩
  · exact ⟨hbalanced.effects.action haction hok,
      hbalanced.later.action haction h.recorded hbalanced.effects,
      hbalanced.requests.action haction hok,
      hbalanced.timers.action h.law h.typed haction hok,
      hbalanced.messages.action h.law h.typed h.recorded hbalanced.effects h.owed haction hok⟩
  · exact ⟨hbalanced.effects, hbalanced.later, ⟨hbalanced.requests.requests,
      hbalanced.requests.replies⟩, hbalanced.timers, hbalanced.messages⟩

theorem path (h : Books core) (hpath : ReflTransGen Move core core') : Books core' :=
  @Exec.path_preserves _ Move Books (fun _ _ hbooks hmove => hbooks.move hmove) _ _ hpath h

end Books

/-! ## The ledger -/

section Columns

variable {core : Core}

theorem count_settles :
    core.count (fun event => event.settles?.isSome) = core.settled.length := by
  unfold Core.count Core.settled
  rw [List.length_filterMap_eq_countP]

theorem count_effects : core.count (TraceEvent.emits .effect) = core.effectWorks.length := by
  unfold Core.count Core.effectWorks
  rw [List.length_filterMap_eq_countP]
  refine List.countP_congr ?_
  intro record _
  cases record.event.emits .effect <;> simp

/-- A kind that is the disjoint union of others is counted by their sum. -/
theorem count_eq_sum {kind : TraceEvent → Bool} {kinds : List (TraceEvent → Bool)}
    (h : ∀ event, (kind event).toNat = (kinds.map fun part => (part event).toNat).sum) :
    core.count kind = (kinds.map core.count).sum := by
  have hflag (flag : Bool) : (if flag = true then 1 else 0) = flag.toNat := by
    cases flag <;> rfl
  unfold Core.count
  induction core.trace with
  | nil => simp
  | cons record trace ih =>
      simp only [List.countP_cons, hflag]
      rw [List.sum_map_add, ← h, ih]

/-- The columns that the records of new Messages are made of. -/
theorem count_causesMessage :
    core.count TraceEvent.causesMessage =
      core.count TraceEvent.isMessageInput + core.count (TraceEvent.emits .send) +
        core.count (TraceEvent.emits .notify) + core.count (TraceEvent.emits .request) +
        core.count TraceEvent.isRequestOutcome + core.count TraceEvent.isSourceMapped +
        core.count TraceEvent.isTimerFired := by
  have hsum := @count_eq_sum _ core TraceEvent.causesMessage
    [TraceEvent.isMessageInput, TraceEvent.emits .send, TraceEvent.emits .notify,
      TraceEvent.emits .request, TraceEvent.isRequestOutcome, TraceEvent.isSourceMapped,
      TraceEvent.isTimerFired] ?_
  · rw [hsum]
    simp [Nat.add_assoc]
  · intro event
    cases event with
    | commandEmitted component kind => cases kind <;> rfl
    | _ => rfl

theorem count_endsMessage :
    core.count TraceEvent.endsMessage =
      core.count TraceEvent.isTransition + core.count TraceEvent.isStaleMessage := by
  have hsum := @count_eq_sum _ core TraceEvent.endsMessage
    [TraceEvent.isTransition, TraceEvent.isStaleMessage] ?_
  · rw [hsum]
    simp
  · intro event
    cases event with
    | staleSourceWorkDropped component subscription mapped => cases mapped <;> rfl
    | _ => rfl

end Columns

/-- The obligation ledger of a state. -/
structure Accounts (core : Core) : Prop where
  /-- Each declared effect has its outcome on record or is pending. -/
  effects : core.count (TraceEvent.emits .effect) =
    core.count (fun event => event.settles?.isSome) + core.effects.length
  /-- No effect has two outcomes. -/
  once : core.settled.Nodup
  /-- An outcome settles an effect declared before it. -/
  settles : ∀ record ∈ core.trace, ∀ work, record.event.settles? = some work →
    work < record.id ∧ ∃ declared ∈ core.trace, declared.id = work ∧
      declared.event.emits .effect = true
  requests : core.count (TraceEvent.emits .request) =
    core.count (TraceEvent.emits .reply) + core.requests.length
  replies : core.count (TraceEvent.emits .reply) = core.count TraceEvent.isRequestOutcome
  timers : core.count (TraceEvent.emits .timer) =
    core.count TraceEvent.isTimerFired + core.queued .timer
  /-- Each Message was delivered, dropped as stale, or is queued. -/
  messages : core.count TraceEvent.isMessageInput + core.count (TraceEvent.emits .send) +
      core.count (TraceEvent.emits .notify) + core.count (TraceEvent.emits .request) +
      core.count TraceEvent.isRequestOutcome + core.count TraceEvent.isSourceMapped +
      core.count TraceEvent.isTimerFired + core.mappedOutcomes =
    core.count TraceEvent.isTransition + core.count TraceEvent.isStaleMessage +
      core.queued .message

theorem Books.accounts {core : Core} (h : Books core) (hok : core.fault = none) :
    Accounts core := by
  obtain ⟨heffects, hlater, ⟨hrequests, hreplies⟩, htimers, hmessages⟩ := h.balanced hok
  have hwhole : (core.settled ++ core.effects.map (·.requestTrace)).Nodup :=
    heffects.nodup_iff.mpr h.recorded.effectWorks_nodup
  refine ⟨?_, (List.nodup_append.mp hwhole).1, ?_, hrequests, hreplies, htimers, ?_⟩
  · have hlength := heffects.length_eq
    rw [List.length_append, List.length_map] at hlength
    rw [count_effects, count_settles]
    omega
  · intro record hrecord work hsettles
    refine ⟨hlater record hrecord work hsettles, ?_⟩
    have hsettled : work ∈ core.settled := List.mem_filterMap.mpr ⟨record, hrecord, hsettles⟩
    have hmem := heffects.mem_iff.mp (List.mem_append_left _ hsettled)
    obtain ⟨declared, hdeclared, hid⟩ := List.mem_filterMap.mp hmem
    split at hid
    · rename_i hemits
      exact ⟨declared, hdeclared, Option.some.inj hid, hemits⟩
    · cases hid
  · rw [← count_causesMessage, ← count_endsMessage]
    exact hmessages

/-- What a drive that returned `report` has done. -/
structure Completed (core : Core) (report : RunReport) (core' : Core) : Prop where
  /-- Neither a Message nor a Source event is due. -/
  idle : ∀ work ∈ core'.scheduled, core'.now < work.deadline
  pendingNow : report.pendingNow = 0 ∧ core'.pendingWork.pendingNow = 0
  pendingLater : report.pendingLater = core'.pendingWork.pendingLater
  /-- The transitions reported are those recorded. -/
  transitions : core'.count TraceEvent.isTransition =
    core.count TraceEvent.isTransition + report.transitions

theorem Drove.completed {core core' : Core} {report : RunReport} (h : Drove core report core') :
    Completed core report core' := by
  have hidle := nextDue_eq_none.mp h.idle
  have hnow : core'.pendingWork.pendingNow = 0 := by
    refine List.countP_eq_zero.mpr ?_
    intro work hwork
    simp [Nat.not_le.mpr (hidle work hwork)]
  exact ⟨hidle, ⟨h.pending.1.trans hnow, hnow⟩, h.pending.2, h.transitions⟩

/-- In every run of every Program the ledger of a runtime that has not faulted
    balances between operations, and a drive that returns leaves nothing due. -/
theorem obligation_ledger {start core : Core} (hstart : Launched start) (h : Reachable start core)
    (hok : core.fault = none) :
    Accounts core ∧ ∀ operation report core',
      (perform operation).run core = .ok (.drove report) core' → Completed core report core' := by
  obtain ⟨program, bindings, hlaunch⟩ := hstart.path
  have hbooks := (Books.fresh program bindings).path (hlaunch.trans h.path)
  refine ⟨hbooks.accounts hok, ?_⟩
  intro operation report core' hrun
  have hfollows := perform_follows covers_move operation core
  rw [hrun] at hfollows
  exact (hfollows.2.2 report rfl).completed

end Controlled

end Samara

namespace Samara.Controlled

attribute [local instance] Sample.types

/-- A Component that starts with an effect, a request to itself and a timer, and
    answers what it is asked. -/
def desk : Component () where
  init := ((0 : Nat), .batch [
    .declaration (.effect ⟨⟨0, ⟨7⟩⟩, (), .plain 1, some fun _ => .ok (.plain 2)⟩),
    .declaration (.request ⟨(), (), ⟨⟨"desk"⟩, ⟨7⟩⟩, .plain 3, fun _ => .ok (.plain 4)⟩),
    .declaration (.after 5 (.plain 6))])
  update := fun (model : Nat) message => (model + 1, .ok (match message with
    | .asking number correlation => .declaration (.reply ⟨(), ⟨correlation⟩, .plain number⟩)
    | .plain _ => .none))
  subscriptions _ := .ok []

def deskBuilder : ProgramBuilder :=
  ((((ProgramBuilder.new ⟨7⟩).effect ()).component ⟨"desk"⟩ desk).port () ⟨"desk"⟩).bindPort
    (⟨⟨"desk"⟩, ⟨7⟩⟩ : Port ()) (⟨⟨"desk"⟩, ⟨7⟩⟩ : ComponentRef ())

theorem deskBuilder_assembled : deskBuilder.Assembled :=
  .bindPort _ _ (.port _ _ (.component _ desk (.effect _ (.new ⟨7⟩))))

def deskCore : Core := (assemble deskBuilder ⟨[()], [], []⟩).get rfl

/-- The desk when it has answered its own request. -/
def deskAnswered : Core := Exec.final ((perform (.runUntilIdle 20)).run deskCore)

theorem obligation_ledger_desk :
    Accounts deskAnswered ∧ deskAnswered.count (TraceEvent.emits .reply) = 1 ∧
      deskAnswered.effects.length = 1 ∧ deskAnswered.queued .timer = 1 :=
  ⟨(obligation_ledger (launched_of_assemble deskBuilder_assembled (Option.some_get _).symm)
    (.operation (.runUntilIdle 20) .refl (by decide +kernel)) (by decide +kernel)).1,
    by decide +kernel⟩

end Samara.Controlled
