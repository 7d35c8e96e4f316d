/-
  Samara.Live.Beside

  What happens beside the owner leaves the owner's own tables alone.  An
  activity touches the scope through one accepted or refused call at most, the
  gates, the tasks and the waiting operations.
-/
import Samara.Live.Runtime

namespace Samara

variable [RustTypes]

namespace Live

/-! ## Completions -/

section Completions

variable (core : Core)

/-- Only waiting operations differ. -/
def Waits (core core' : Core) : Prop := core' = { core with waiters := core'.waiters }

theorem Waits.trans {first second third : Core} (h : Waits first second)
    (h' : Waits second third) : Waits first third := by
  unfold Waits at *
  rw [h] at h'
  exact h'

theorem waits_dropCompletion (completion : Nat) : Waits core (core.dropCompletion completion) := rfl

theorem waits_foldl (completions : List Nat) :
    Waits core (completions.foldl Core.dropCompletion core) := by
  induction completions generalizing core with
  | nil => rfl
  | cons completion completions ih => exact (waits_dropCompletion core completion).trans (ih _)

theorem waits_dropEvents (events : List LiveEvent) : Waits core (core.dropEvents events) :=
  waits_foldl core _

theorem waits_dropRequests (requests : List OutstandingRequest) :
    Waits core (core.dropRequests requests) :=
  waits_foldl core _

theorem discard_requests (completion : Option Nat) :
    (core.discard completion).requests = core.requests := by
  cases completion <;> rfl

end Completions

/-! ## Activities -/

/-- Everything the owner alone may touch is the same. -/
def Beside (core core' : Core) : Prop :=
  core' = { core with
    scope := core'.scope
    gates := core'.gates
    tasks := core'.tasks
    finished := core'.finished
    waiters := core'.waiters
    schedule := core'.schedule }

namespace Beside

variable {first second third core core' : Core}

theorem refl (core : Core) : Beside core core := rfl

theorem trans (h : Beside first second) (h' : Beside second third) : Beside first third := by
  unfold Beside at *
  rw [h] at h'
  exact h'

theorem program (h : Beside core core') : core'.program = core.program := (congrArg Core.program h :)

theorem sources (h : Beside core core') : core'.sources = core.sources := (congrArg Core.sources h :)

theorem effects (h : Beside core core') : core'.effects = core.effects := (congrArg Core.effects h :)

theorem requests (h : Beside core core') : core'.requests = core.requests :=
  (congrArg Core.requests h :)

theorem timers (h : Beside core core') : core'.timers = core.timers := (congrArg Core.timers h :)

theorem nextGeneration (h : Beside core core') : core'.nextGeneration = core.nextGeneration :=
  (congrArg Core.nextGeneration h :)

theorem draining (h : Beside core core') : core'.draining = core.draining :=
  (congrArg Core.draining h :)

theorem journal (h : Beside core core') : core'.journal = core.journal := (congrArg Core.journal h :)

end Beside

theorem beside_emit (core : Core) (generation : Nat) (event : ErasedSourceEvent) :
    Beside core (core.emit generation event) := by
  unfold Core.emit
  split
  · exact .refl core
  · split
    · exact .refl core
    · dsimp only
      split <;> rfl

theorem beside_installStopHook (core : Core) (generation : Nat) (result : Except String Unit) :
    Beside core (core.installStopHook generation result) := by
  unfold Core.installStopHook
  split
  · exact .refl core
  · split <;> rfl

theorem beside_complete (core : Core) (task : Nat) (outcome : ErasedOutcome) :
    Beside core (core.complete task outcome) := by
  unfold Core.complete
  split
  · exact .refl core
  · split
    · split <;> rfl
    · exact .refl core

theorem beside_fire (core : Core) (task : Nat) : Beside core (core.fire task) := by
  unfold Core.fire
  split
  · exact .refl core
  · split <;> rfl

theorem beside_exit (core : Core) (task : Nat) (outcome : TaskOutcome) :
    Beside core (core.exit task outcome) := by
  unfold Core.exit
  split
  · exact .refl core
  · split <;> rfl

theorem act_beside (core : Core) (activity : Activity) : Beside core (core.act activity) := by
  cases activity with
  | send target message => rfl
  | notify ingress => rfl
  | request protocol requestType port request => rfl
  | poll waiter => rfl
  | beginShutdown mode => rfl
  | emit generation event => exact beside_emit core generation event
  | installStopHook generation result => exact beside_installStopHook core generation result
  | complete task outcome => exact beside_complete core task outcome
  | fire task => exact beside_fire core task
  | exit task outcome => exact beside_exit core task outcome

theorem acts_preserve {Inv : Core → Prop}
    (hact : ∀ core activity, Inv core → Inv (core.act activity)) (activities : List Activity)
    {core : Core} (h : Inv core) : Inv (activities.foldl Core.act core) := by
  induction activities generalizing core with
  | nil => exact h
  | cons activity activities ih => exact ih (hact core activity h)

/-- A property that every activity keeps is kept while the owner waits its turn. -/
theorem turn_preserves {Inv : Core → Prop} (hact : ∀ core activity, Inv core → Inv (core.act activity))
    (hschedule : ∀ core schedule, Inv core → Inv { core with schedule }) {core : Core}
    (h : Inv core) : Inv core.turn := by
  unfold Core.turn
  split
  · exact h
  · rename_i activities schedule _
    exact acts_preserve hact activities (hschedule core schedule h)

theorem turn_beside (core : Core) : Beside core core.turn :=
  @turn_preserves _ (Beside core) (fun core activity h => h.trans (act_beside core activity))
    (fun _ _ h => h.trans rfl) core (.refl core)

/-! ## Tasks -/

/-- The Driver of an effect delivers what its task was spawned for. -/
theorem complete_cases (core : Core) (task : Nat) (outcome : ErasedOutcome) :
    core.complete task outcome = core ∨ ∃ found id descriptorType,
      core.task? task = some found ∧ found.delivery = .effect id descriptorType ∧
        core.complete task outcome = core.deliver task (.effectOutcome id outcome) := by
  unfold Core.complete
  cases hfound : core.task? task with
  | none => exact .inl rfl
  | some found =>
      dsimp only
      cases hdelivery : found.delivery with
      | effect id descriptorType =>
          dsimp only
          split
          · exact .inr ⟨found, id, descriptorType, rfl, hdelivery, rfl⟩
          · exact .inl rfl
      | timer id message => exact .inl rfl
      | none => exact .inl rfl

theorem fire_cases (core : Core) (task : Nat) :
    core.fire task = core ∨ ∃ found id message,
      core.task? task = some found ∧ found.delivery = .timer id message ∧
        core.fire task = core.deliver task (.timerFired id message) := by
  unfold Core.fire
  cases hfound : core.task? task with
  | none => exact .inl rfl
  | some found =>
      dsimp only
      cases hdelivery : found.delivery with
      | effect id descriptorType => exact .inl rfl
      | timer id message => exact .inr ⟨found, id, message, rfl, hdelivery, rfl⟩
      | none => exact .inl rfl

/-- The tasks that `join_next` has not returned. -/
def Core.load (core : Core) : Nat := core.tasks.length + core.finished.length

/-- An activity ends one task at most and leaves the others but for what they still deliver. -/
theorem act_tasks (core : Core) (activity : Activity) :
    ((core.act activity).tasks = core.tasks ∨ ∃ task, (core.act activity).tasks =
        Table.modifyFirst (·.id = task) ({ · with delivery := .none }) core.tasks) ∧
      (core.act activity).finished = core.finished ∨
    ∃ task found outcome, core.task? task = some found ∧
      (core.act activity).tasks = core.tasks.eraseP (·.id = task) ∧
        (core.act activity).finished = core.finished ++ [⟨found.context, outcome⟩] := by
  cases activity with
  | emit generation event =>
      refine .inl ?_
      rw [show core.act (.emit generation event) = core.emit generation event from rfl]
      unfold Core.emit
      split
      · exact ⟨.inl rfl, rfl⟩
      · split
        · exact ⟨.inl rfl, rfl⟩
        · dsimp only
          split <;> exact ⟨.inl rfl, rfl⟩
  | installStopHook generation result =>
      refine .inl ?_
      rw [show core.act (.installStopHook generation result) =
        core.installStopHook generation result from rfl]
      unfold Core.installStopHook
      split
      · exact ⟨.inl rfl, rfl⟩
      · split <;> exact ⟨.inl rfl, rfl⟩
  | complete task outcome =>
      refine .inl ?_
      rw [show core.act (.complete task outcome) = core.complete task outcome from rfl]
      rcases complete_cases core task outcome with hsame | ⟨_, _, _, _, _, hdone⟩
      · rw [hsame]
        exact ⟨.inl rfl, rfl⟩
      · rw [hdone]
        exact ⟨.inr ⟨task, rfl⟩, rfl⟩
  | fire task =>
      refine .inl ?_
      rw [show core.act (.fire task) = core.fire task from rfl]
      rcases fire_cases core task with hsame | ⟨_, _, _, _, _, hdone⟩
      · rw [hsame]
        exact ⟨.inl rfl, rfl⟩
      · rw [hdone]
        exact ⟨.inr ⟨task, rfl⟩, rfl⟩
  | exit task outcome =>
      rw [show core.act (.exit task outcome) = core.exit task outcome from rfl]
      unfold Core.exit
      cases hfound : core.task? task with
      | none => exact .inl ⟨.inl rfl, rfl⟩
      | some found =>
          dsimp only
          split
          · exact .inl ⟨.inl rfl, rfl⟩
          · exact .inr ⟨task, found, outcome, hfound, rfl, rfl⟩
  | _ => exact .inl ⟨.inl rfl, rfl⟩

/-- The task that ends goes from one table to the other. -/
theorem load_act (core : Core) (activity : Activity) : (core.act activity).load = core.load := by
  unfold Core.load
  rcases act_tasks core activity with ⟨hsame | ⟨task, hdelivered⟩, hfinished⟩ |
    ⟨task, found, outcome, hfound, htasks, hfinished⟩
  · rw [hsame, hfinished]
  · rw [hdelivered, hfinished, Table.length_modifyFirst]
  · have hperm := (Table.perm_cons_eraseP hfound).length_eq
    rw [htasks, hfinished, hperm, List.length_cons, List.length_append, List.length_singleton]
    omega

/-- What is going to happen does not depend on what happens. -/
theorem act_schedule (core : Core) (activity : Activity) :
    (core.act activity).schedule = core.schedule := by
  cases activity with
  | emit generation event =>
      rw [show core.act (.emit generation event) = core.emit generation event from rfl]
      unfold Core.emit
      split
      · rfl
      · split
        · rfl
        · dsimp only
          split <;> rfl
  | installStopHook generation result =>
      rw [show core.act (.installStopHook generation result) =
        core.installStopHook generation result from rfl]
      unfold Core.installStopHook
      split
      · rfl
      · split <;> rfl
  | complete task outcome =>
      rw [show core.act (.complete task outcome) = core.complete task outcome from rfl]
      rcases complete_cases core task outcome with hsame | ⟨_, _, _, _, _, hdone⟩
      · rw [hsame]
      · rw [hdone]
        rfl
  | fire task =>
      rw [show core.act (.fire task) = core.fire task from rfl]
      rcases fire_cases core task with hsame | ⟨_, _, _, _, _, hdone⟩
      · rw [hsame]
      · rw [hdone]
        rfl
  | exit task outcome =>
      rw [show core.act (.exit task outcome) = core.exit task outcome from rfl]
      unfold Core.exit
      split
      · rfl
      · split <;> rfl
  | _ => rfl

theorem turn_schedule (core : Core) : core.turn.schedule = core.schedule.tail := by
  unfold Core.turn
  split
  · rename_i hschedule
    rw [hschedule, List.tail_nil]
  · rename_i activities schedule hschedule
    rw [hschedule, List.tail_cons]
    exact @acts_preserve _ (fun next => next.schedule = schedule)
      (fun next activity h => (act_schedule next activity).trans h) activities _ rfl

theorem load_turn (core : Core) : core.turn.load = core.load :=
  @turn_preserves _ (fun next => next.load = core.load)
    (fun next activity h => (load_act next activity).trans h) (fun _ _ h => h) core rfl

/-- Every task is aborted. -/
def Core.AllAborted (core : Core) : Prop := ∀ task ∈ core.tasks, task.aborted = true

theorem Core.AllAborted.act {core : Core} (h : core.AllAborted) (activity : Activity) :
    (core.act activity).AllAborted := by
  intro task hmem
  rcases act_tasks core activity with ⟨hsame | ⟨number, hdelivered⟩, _⟩ | ⟨_, _, _, _, htasks, _⟩
  · rw [hsame] at hmem
    exact h task hmem
  · rw [hdelivered] at hmem
    rcases Table.mem_modifyFirst hmem with hold | ⟨row, hrow, rfl⟩
    · exact h task hold
    · exact h row (List.mem_of_find?_eq_some hrow)
  · rw [htasks] at hmem
    exact h task (List.mem_of_mem_eraseP hmem)

theorem Core.AllAborted.waits {core core' : Core} (hwaits : Waits core core')
    (h : core.AllAborted) : core'.AllAborted := by
  intro task hmem
  rw [(congrArg Core.tasks hwaits :)] at hmem
  exact h task hmem

theorem Core.AllAborted.turn {core : Core} (h : core.AllAborted) : core.turn.AllAborted :=
  turn_preserves (fun _ activity h => h.act activity) (fun _ _ h => h) h

end Live

end Samara
