/-
  Samara.Controlled.Faults

  A fault of the controlled runtime is sticky: it is the last thing that the
  run records, every later operation returns it, and whatever would have come
  after the faulting step has no effect.
-/
import Samara.Controlled.Obligations

namespace Samara

open Relation (ReflTransGen)

variable [RustTypes]

namespace Controlled

/-! ## The faulting step -/

section Steps

variable {phase : Phase} {core core' : Core}

/-- A step that records no fault appends no fault record. -/
theorem Action.count_isFault (h : Action core phase core') (hok : core'.fault = none) :
    core'.count TraceEvent.isFault = core.count TraceEvent.isFault := by
  cases h with
  | duplicateFaulted => simp at hok
  | startFaulted => simp at hok
  | replaceFaulted => simp at hok
  | declarationFaulted => simp at hok
  | replyMistyped => simp at hok
  | deliveryFaulted => simp at hok
  | _ => simp [emission, lifecycle, TraceEvent.isFault]

/-- The state that a fault was recorded in, and what was recorded. -/
structure Faulting (core : Core) (error : RuntimeError) (core' : Core) : Prop where
  intact : core.fault = none
  records : ∃ component descriptorType work reason,
    error = .fault component descriptorType work reason ∧
      core' = core.faulted component descriptorType work reason

/-- A step that records a fault does so last. -/
theorem Action.faulting (h : Action core phase core') (hok : core.fault = none)
    {error : RuntimeError} (hfault : core'.fault = some error) :
    ∃ base, Faulting base error core' ∧
      base.count TraceEvent.isFault = core.count TraceEvent.isFault := by
  have hrecords {base : Core} {component : ComponentId} {descriptorType : Option String}
      {work : TraceId} {reason : String} (hbase : base.fault = none)
      (hcount : base.count TraceEvent.isFault = core.count TraceEvent.isFault)
      (heq : (base.faulted component descriptorType work reason).fault = some error) :
      ∃ base', Faulting base' error (base.faulted component descriptorType work reason) ∧
        base'.count TraceEvent.isFault = core.count TraceEvent.isFault := by
    cases heq
    exact ⟨base, ⟨hbase, component, descriptorType, work, reason, rfl, rfl⟩, hcount⟩
  cases h with
  | duplicateFaulted => exact hrecords hok rfl hfault
  | startFaulted => exact hrecords hok (by simp [lifecycle, TraceEvent.isFault]) hfault
  | replaceFaulted => exact hrecords hok (by simp [lifecycle, TraceEvent.isFault]) hfault
  | declarationFaulted component cause declaration =>
      refine hrecords hok ?_ hfault
      cases declaration <;> simp [emission, TraceEvent.isFault]
  | replyMistyped => exact hrecords hok (by simp [emission, TraceEvent.isFault]) hfault
  | deliveryFaulted =>
      refine hrecords ?_ ?_ hfault
      · simpa using hok
      · simp [TraceEvent.isFault]
  | sourceEventMapped => simp [Core.withPlan, Core.withRunning, hok] at hfault
  | _ => simp [hok] at hfault

end Steps

/-! ## Runs -/

/-- The state of a faulted run is the one that a single step left, whose last
    act was to record the fault. -/
structure Stopped (start core : Core) (error : RuntimeError) : Prop where
  /-- The step that faulted, from a state of the run in which nothing had. -/
  step : ∃ before phase, ReflTransGen Move start before ∧ before.fault = none ∧
    Action before phase core ∧ ∃ base, Faulting base error core
  /-- The last record is the only fault record. -/
  last : ∃ records record, core.trace = records ++ [record] ∧ record.event.isFault = true ∧
    ∀ earlier ∈ records, earlier.event.isFault = false

theorem count_isFault_path {start core : Core} (hpath : ReflTransGen Move start core)
    (hok : core.fault = none) :
    core.count TraceEvent.isFault = start.count TraceEvent.isFault := by
  induction hpath with
  | refl => rfl
  | tail _ hmove ih =>
      have hbefore := ih hmove.1
      rcases hmove with ⟨_, ⟨phase, haction⟩ | ⟨time, _, _⟩⟩
      · exact (haction.count_isFault hok).trans hbefore
      · exact hbefore

theorem stopped_of_path {start core : Core} {error : RuntimeError}
    (hpath : ReflTransGen Move start core) (hempty : start.trace = []) (hok : start.fault = none)
    (hfault : core.fault = some error) : Stopped start core error := by
  rcases hpath.cases_tail with heq | ⟨before, hbefore, hmove⟩
  · rw [heq, hok] at hfault
    cases hfault
  · have hnone := count_isFault_path hbefore hmove.1
    have hzero : start.count TraceEvent.isFault = 0 := by
      unfold Core.count
      rw [hempty]
      rfl
    rcases hmove with ⟨hintact, ⟨phase, haction⟩ | ⟨time, _, _⟩⟩
    · obtain ⟨base, hfaulting, hcount⟩ := haction.faulting hintact hfault
      refine ⟨⟨before, phase, hbefore, hintact, haction, base, hfaulting⟩, ?_⟩
      obtain ⟨component, descriptorType, work, reason, _, heq⟩ := hfaulting.records
      have hquiet : base.count TraceEvent.isFault = 0 := hcount.trans (hnone.trans hzero)
      refine ⟨base.trace, _, by rw [heq]; rfl, rfl, ?_⟩
      intro earlier hearlier
      have hcountP := List.countP_eq_zero.mp hquiet earlier hearlier
      simpa using hcountP
    · rw [hintact] at hfault
      cases hfault

/-! ## Loops -/

/-- The loops of `interpret_command`, `apply_subscription_changes` and
    `initialize` end with the step that faults: whatever follows it changes
    neither the result nor the state. -/
structure EndsLoops (core : Core) (stop : Stop) (core' : Core) : Prop where
  declarations : ∀ {message : TypeId} (component : ComponentId) (cause : TraceId)
    (done rest : List (Declaration message)),
    (interpretDeclarations component cause done).run core = .error stop core' →
      (interpretDeclarations component cause (done ++ rest)).run core = .error stop core'
  changes : ∀ (component : ComponentId) (cause : TraceId)
    (done rest : List ErasedSubscriptionChange),
    (applyChanges component cause done).run core = .error stop core' →
      (applyChanges component cause (done ++ rest)).run core = .error stop core'
  components : ∀ (done rest : List (ComponentId × TypeId)),
    (initializeComponents done).run core = .error stop core' →
      (initializeComponents (done ++ rest)).run core = .error stop core'

/-- An error of the first computation is the error of the sequence. -/
theorem run_bind_error {α β : Type} {x : Run α} {f : α → Run β} {core core' : Core} {stop : Stop}
    (h : x.run core = .error stop core') : (x >>= f).run core = .error stop core' := by
  rw [EStateM.run_bind, h]

/-- A loop over a list that stops at an error does not look at what follows. -/
theorem loop_ends {τ : Type} {step : τ → Run Unit} {loop : List τ → Run Unit}
    (hnil : ∀ core, (loop []).run core = .ok () core)
    (hcons : ∀ item items core, (loop (item :: items)).run core =
      (do step item; loop items : Run Unit).run core) {done rest : List τ} {core core' : Core}
    {stop : Stop} (h : (loop done).run core = .error stop core') :
    (loop (done ++ rest)).run core = .error stop core' := by
  induction done generalizing core with
  | nil =>
      rw [hnil] at h
      cases h
  | cons item items ih =>
      rw [List.cons_append, hcons]
      rw [hcons] at h
      cases hstep : (step item).run core with
      | ok value core₁ =>
          rw [Exec.run_bind_ok hstep] at h ⊢
          exact ih h
      | error stop' core₁ =>
          rw [run_bind_error hstep] at h ⊢
          exact h

theorem endsLoops (core : Core) (stop : Stop) (core' : Core) : EndsLoops core stop core' where
  declarations _ _ _ _ h := loop_ends (fun _ => rfl) (fun _ _ _ => rfl) h
  changes _ _ _ _ h := loop_ends (fun _ => rfl) (fun _ _ _ => rfl) h
  components _ _ h := loop_ends (fun _ => rfl) (fun _ _ _ => rfl) h

/-- A fault is the last thing that a run records, ends the loop it occurs in,
    and is all that any later operation returns or does. -/
theorem fault_freezes {start core : Core} {error : RuntimeError} (hstart : Launched start)
    (h : Reachable start core) (hfault : core.fault = some error) :
    (∃ program bindings, Stopped (Core.fresh program bindings) core error) ∧
      (∀ operation, (perform operation).run core = .error (.error error) core) ∧
      ∀ before, EndsLoops before (.error error) core := by
  obtain ⟨program, bindings, hlaunch⟩ := hstart.path
  refine ⟨⟨program, bindings, ?_⟩, perform_faulted hfault, fun before => endsLoops before _ _⟩
  exact stopped_of_path (hlaunch.trans h.path) rfl rfl hfault

end Controlled

end Samara

namespace Samara.Controlled

attribute [local instance] Sample.types

/-- A Component that answers every Message with a Message to nobody, and would
    arm a timer after that. -/
def stray : Component () where
  init := ((0 : Nat), .none)
  update := fun (model : Nat) _ => (model + 1, .ok (.batch [
    .declaration (.send ⟨(), ⟨⟨"nobody"⟩, ⟨7⟩⟩, .plain 1⟩),
    .declaration (.after 5 (.plain 2))]))
  subscriptions _ := .ok []

def strayBuilder : ProgramBuilder := (ProgramBuilder.new ⟨7⟩).component ⟨"stray"⟩ stray

def strayCore : Core := (assemble strayBuilder ⟨[], [], []⟩).get rfl

def straySent : Core :=
  Exec.final ((perform (.send (⟨⟨"stray"⟩, ⟨7⟩⟩ : ComponentRef ()) (.plain 0))).run strayCore)

/-- The stray when its Message has been delivered. -/
def strayFaulted : Core := Exec.final ((perform (.runUntilIdle 20)).run straySent)

theorem fault_freezes_stray :
    strayFaulted.trace.length = 5 ∧ strayFaulted.scheduled.length = 0 ∧
      ∃ error, strayFaulted.fault = some error ∧
        ∀ operation, (perform operation).run strayFaulted = .error (.error error) strayFaulted := by
  have hreachable : Reachable strayCore strayFaulted :=
    .operation (.runUntilIdle 20)
      (.operation (.send (⟨⟨"stray"⟩, ⟨7⟩⟩ : ComponentRef ()) (.plain 0)) .refl (by decide +kernel))
      (by decide +kernel)
  have hlaunched : Launched strayCore :=
    launched_of_assemble (.component _ stray (.new ⟨7⟩)) (Option.some_get _).symm
  obtain ⟨error, hfault⟩ := Option.isSome_iff_exists.mp
    (show strayFaulted.fault.isSome = true by decide +kernel)
  exact ⟨by decide +kernel, by decide +kernel, error, hfault,
    (fault_freezes hlaunched hreachable hfault).2.1⟩

end Samara.Controlled
