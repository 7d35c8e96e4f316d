/-
  Samara.Controlled.Drive

  Every run of a harness follows the steps of the runtime.

  The drives and the inputs are the same whatever the steps are cut into, so
  they are followed once, for any step relation that covers the inputs, the
  passing of time and the execution of due work.
-/
import Samara.Controlled.Follow

namespace Samara

open Exec (Follows)
open Relation (ReflTransGen)

variable [RustTypes]

namespace Controlled

/-- A step relation that runs are made of, with an account of panics. -/
structure Covers (Step Unwound : Core → Core → Prop) : Prop where
  input : ∀ core core', Acts .input core core' → Step core core'
  passage : ∀ core core', core.fault = none → Passage core core' → Step core core'
  work : ∀ core work, core.fault = none → core.nextDue = some work →
    Proceeds Step Unwound core ((processWork work).run (core.popped work)) (Worked core)
  unwound : ∀ core core', Unscheduled core core' → Unwound core core'

theorem covers_move : Covers Move Interrupted where
  input _ _ := Acts.move
  passage _ _ hok hpassage := ⟨hok, Or.inr hpassage⟩
  work _ _ := processWork_proceeds
  unwound _ _ := Interrupted.outside

/-! ## Drives -/

section Drives

variable {Step Unwound : Core → Core → Prop} {core : Core}

theorem nextDue_eq_none :
    core.nextDue = none ↔ ∀ work ∈ core.scheduled, core.now < work.deadline := by
  unfold Core.nextDue
  rw [List.argmin_eq_none, List.filter_eq_nil_iff]
  simp

/-- What a loop of a drive leaves, when it has counted from `counted` to `total`. -/
structure Drained (core : Core) (counted total : Nat) (core' : Core) : Prop where
  idle : core'.nextDue = none
  transitions : core'.count TraceEvent.isTransition + counted =
    core.count TraceEvent.isTransition + total

/-- What a drive that returned leaves, and what it reports. -/
structure Drove (core : Core) (report : RunReport) (core' : Core) : Prop where
  idle : core'.nextDue = none
  transitions : core'.count TraceEvent.isTransition =
    core.count TraceEvent.isTransition + report.transitions
  pending : report.pendingNow = core'.pendingWork.pendingNow ∧
    report.pendingLater = core'.pendingWork.pendingLater

theorem Drained.trans {core₁ core₂ : Core} {a b c : Nat} (h : Drained core a b core₁)
    (h' : Drained core₁ b c core₂) : Drained core a c core₂ := by
  refine ⟨h'.idle, ?_⟩
  have htransitions := h.transitions
  have htransitions' := h'.transitions
  omega

theorem run_report (transitions : Nat) (core : Core) :
    (report transitions).run core =
      .ok ⟨transitions, core.pendingWork.pendingNow, core.pendingWork.pendingLater⟩ core := rfl

theorem drainInstant_proceeds (h : Covers Step Unwound) (fuel transitions : Nat)
    (hok : core.fault = none) :
    Proceeds Step Unwound core ((drainInstant fuel transitions).run core)
      fun total core' => core'.now = core.now ∧ Drained core transitions total core' := by
  induction fuel generalizing core transitions with
  | zero => exact proceeds_outOfFuel
  | succ fuel ih =>
      unfold drainInstant popNextDue
      simp only [bind_assoc]
      rw [Exec.run_bind_ok (EStateM.run_get _)]
      cases hdue : core.nextDue with
      | none => exact proceeds_refl hok ⟨rfl, hdue, rfl⟩
      | some work =>
          simp only [bind_assoc, pure_bind]
          rw [Exec.run_bind_ok (EStateM.run_set _ _)]
          refine proceeds_bind (h.work core work hok hdue) ?_
          intro more core' _ hok' hworked
          rw [Exec.run_bind_ok (run_ensureNotFaulted hok')]
          refine (ih (transitions + more) hok').conseq ?_
          intro total core'' _ hdrained
          obtain ⟨hnow, hidle, hcount⟩ := hdrained
          have hmore := hworked.2
          exact ⟨hnow.trans hworked.1, hidle, by omega⟩

theorem runUntilIdle_proceeds (h : Covers Step Unwound) (fuel : Nat) (hok : core.fault = none) :
    Proceeds Step Unwound core ((runUntilIdle fuel).run core)
      fun report core' => core'.now = core.now ∧ Drove core report core' := by
  unfold runUntilIdle
  rw [Exec.run_bind_ok (run_ensureNotFaulted hok)]
  refine proceeds_bind (drainInstant_proceeds h fuel 0 hok) ?_
  intro total core' _ hok' hdrained
  obtain ⟨hnow, hidle, hcount⟩ := hdrained
  rw [run_report]
  exact proceeds_refl hok' ⟨hnow, hidle, hcount, rfl, rfl⟩

theorem nextDeadline_eq_some {limit : Option Duration} {next : Duration}
    (h : core.nextDeadline limit = some next) :
    core.now < next ∧ (∀ bound, limit = some bound → next ≤ bound) ∧
      (∃ work ∈ core.scheduled, work.deadline = next) ∧
      ∀ work ∈ core.scheduled, core.now < work.deadline →
        (∀ bound, limit = some bound → work.deadline ≤ bound) → next ≤ work.deadline := by
  unfold Core.nextDeadline at h
  obtain ⟨hmem, hleast⟩ := List.min?_eq_some_iff.mp h
  obtain ⟨work, hwork, rfl⟩ := List.mem_map.mp hmem
  simp only [List.mem_filter, Bool.and_eq_true, decide_eq_true_eq, Option.all_eq_true] at hwork
  refine ⟨hwork.2.1, hwork.2.2, ⟨work, hwork.1, rfl⟩, ?_⟩
  intro other hother hnow hlimit
  refine hleast _ (List.mem_map.mpr ⟨other, ?_, rfl⟩)
  simp only [List.mem_filter, Bool.and_eq_true, decide_eq_true_eq, Option.all_eq_true]
  exact ⟨hother, hnow, hlimit⟩

theorem nextDeadline_eq_none {target : Duration} (h : core.nextDeadline (some target) = none) :
    ∀ work ∈ core.scheduled, core.now < work.deadline → target < work.deadline := by
  intro work hwork hnow
  unfold Core.nextDeadline at h
  rw [List.min?_eq_none_iff, List.map_eq_nil_iff, List.filter_eq_nil_iff] at h
  have hlate := h work hwork
  simp only [Bool.and_eq_true, decide_eq_true_eq, Option.all_some, not_and] at hlate
  exact Nat.lt_of_not_le (hlate hnow)

/-- Logical time passes in front of a drive. -/
theorem proceeds_passage (h : Covers Step Unwound) {α : Type} {time : Duration}
    {result : EStateM.Result Stop Core α} {Q : α → Core → Prop} (hok : core.fault = none)
    (hforward : core.now ≤ time) (hdue : ∀ work ∈ core.scheduled, time ≤ work.deadline)
    (hlimit : time ≤ Duration.max ∨ ∃ work ∈ core.scheduled, work.deadline = time)
    (hresult : Proceeds Step Unwound { core with now := time } result Q) :
    Proceeds Step Unwound core result Q :=
  Exec.follows_of_path
    (ReflTransGen.single (h.passage _ _ hok (.mk time hforward hdue hlimit))) hresult

theorem advanceLoop_proceeds (h : Covers Step Unwound) (fuel target rounds transitions : Nat)
    (hok : core.fault = none) (hidle : core.nextDue = none) (htarget : core.now ≤ target) :
    Proceeds Step Unwound core ((advanceLoop fuel target rounds transitions).run core)
      fun total core' => Drained core transitions total core' ∧ core'.now ≤ target ∧
        core'.nextDeadline (some target) = none := by
  induction rounds generalizing core transitions with
  | zero => exact proceeds_outOfFuel
  | succ rounds ih =>
      unfold advanceLoop
      rw [Exec.run_bind_ok (EStateM.run_get _)]
      cases hnext : core.nextDeadline (some target) with
      | none => exact proceeds_refl hok ⟨⟨hidle, rfl⟩, htarget, hnext⟩
      | some next =>
          obtain ⟨hlater, hlimit, harmed, hleast⟩ := nextDeadline_eq_some hnext
          have hnextTarget : next ≤ target := hlimit target rfl
          dsimp only
          rw [Exec.run_bind_ok (EStateM.run_set _ _)]
          refine proceeds_passage h hok (le_of_lt hlater) ?_ (Or.inr harmed) ?_
          · intro work hwork
            have hnow := nextDue_eq_none.mp hidle work hwork
            by_cases hwithin : work.deadline ≤ target
            · exact hleast work hwork hnow (by simpa using hwithin)
            · exact le_trans hnextTarget (le_of_lt (Nat.lt_of_not_le hwithin))
          · refine proceeds_bind (runUntilIdle_proceeds h fuel (by exact hok)) ?_
            intro drained core' _ hok' hdrained
            obtain ⟨hnow, hdrove⟩ := hdrained
            have hafter : core'.now ≤ target := by
              rw [hnow]
              exact hnextTarget
            refine (ih (transitions + drained.transitions) hok' hdrove.idle hafter).conseq ?_
            intro total core'' _ hrest
            refine ⟨⟨hrest.1.idle, ?_⟩, hrest.2⟩
            have hcount : core'.count TraceEvent.isTransition =
                core.count TraceEvent.isTransition + drained.transitions := hdrove.transitions
            have htotal := hrest.1.transitions
            omega

theorem advance_proceeds (h : Covers Step Unwound) (fuel : Nat) (duration : Duration)
    (hok : core.fault = none) :
    Proceeds Step Unwound core ((advance fuel duration).run core) (Drove core) := by
  unfold advance
  rw [Exec.run_bind_ok (run_ensureNotFaulted hok), Exec.run_bind_ok (EStateM.run_get core)]
  cases htarget : Duration.checkedAdd core.now duration with
  | none => exact proceeds_error
  | some target =>
      have hforward : core.now ≤ target := by
        rw [Duration.checkedAdd_eq_some htarget]
        exact Nat.le_add_right _ _
      refine proceeds_bind (runUntilIdle_proceeds h fuel hok) ?_
      intro first core₁ _ hok₁ hfirst
      obtain ⟨hnow₁, hdrove₁⟩ := hfirst
      refine proceeds_bind (advanceLoop_proceeds h fuel target fuel first.transitions hok₁
        hdrove₁.idle (hnow₁ ▸ hforward)) ?_
      intro transitions core₂ _ hok₂ hloop
      obtain ⟨hdrained, hwithin, hdone⟩ := hloop
      rw [Exec.run_bind_ok (EStateM.run_modify _ _)]
      refine proceeds_passage h hok₂ hwithin ?_ (Or.inl (Duration.checkedAdd_le_max htarget)) ?_
      · intro work hwork
        exact le_of_lt (nextDeadline_eq_none hdone work hwork
          (nextDue_eq_none.mp hdrained.idle work hwork))
      · refine proceeds_bind (runUntilIdle_proceeds h fuel (by exact hok₂)) ?_
        intro last core₃ _ hok₃ hlast
        obtain ⟨_, hdrove₃⟩ := hlast
        rw [run_report]
        refine proceeds_refl hok₃ ⟨hdrove₃.idle, ?_, rfl, rfl⟩
        have hcount₁ := hdrove₁.transitions
        have hcount₂ := hdrained.transitions
        have hcount₃ : core₃.count TraceEvent.isTransition =
            core₂.count TraceEvent.isTransition + last.transitions := hdrove₃.transitions
        dsimp only
        omega

theorem advanceToNext_proceeds (h : Covers Step Unwound) (fuel : Nat) (hok : core.fault = none) :
    Proceeds Step Unwound core ((advanceToNext fuel).run core) (Drove core) := by
  unfold advanceToNext
  rw [Exec.run_bind_ok (run_ensureNotFaulted hok)]
  refine proceeds_bind (runUntilIdle_proceeds h fuel hok) ?_
  intro first core₁ _ hok₁ hfirst
  obtain ⟨_, hdrove₁⟩ := hfirst
  rw [Exec.run_bind_ok (EStateM.run_get _)]
  cases hnext : core₁.nextDeadline none with
  | none => exact proceeds_error
  | some next =>
      obtain ⟨hlater, _, harmed, hleast⟩ := nextDeadline_eq_some hnext
      dsimp only
      rw [Exec.run_bind_ok (EStateM.run_set _ _)]
      refine proceeds_passage h hok₁ (le_of_lt hlater) ?_ (Or.inr harmed) ?_
      · intro work hwork
        exact hleast work hwork (nextDue_eq_none.mp hdrove₁.idle work hwork) (by simp)
      · refine proceeds_bind (runUntilIdle_proceeds h fuel (by exact hok₁)) ?_
        intro last core₂ _ hok₂ hlast
        obtain ⟨_, hdrove₂⟩ := hlast
        rw [run_report]
        refine proceeds_refl hok₂ ⟨hdrove₂.idle, ?_, rfl, rfl⟩
        have hcount₁ := hdrove₁.transitions
        have hcount₂ : core₂.count TraceEvent.isTransition =
            core₁.count TraceEvent.isTransition + last.transitions := hdrove₂.transitions
        dsimp only
        omega

end Drives

/-! ## Harness inputs -/

/-- One harness input, before any drive. -/
abbrev Inputs {α : Type} : Core → EStateM.Result Stop Core α → (α → Core → Prop) → Prop :=
  Proceeds (Acts .input) Unscheduled

section Inputs

variable {core : Core}

theorem send_proceeds (hok : core.fault = none) {component : TypeId}
    (target : ComponentRef component) (message : Val (RustTypes.componentMessage component)) :
    Inputs core ((send target message).run core) fun _ _ => True := by
  unfold send
  rw [Exec.run_bind_ok (run_ensureNotFaulted hok), Exec.run_bind_ok (EStateM.run_get core)]
  dsimp only
  split
  · exact proceeds_error
  · rename_i hpresent
    simp only [Bool.or_eq_true, decide_eq_true_eq, Option.isNone_iff_eq_none, not_or,
      not_not] at hpresent
    obtain ⟨hprogram, htarget⟩ := hpresent
    obtain ⟨kernel, hkernel⟩ := Option.ne_none_iff_exists'.mp htarget
    exact acts_step hok (.messageInput target message hprogram kernel hkernel) hok trivial

theorem enqueueSourceEvent_proceeds (hok : core.fault = none) {source : ActiveSource}
    (hsource : source ∈ core.sources) {terminalType : DescriptorType TypeId}
    {event : ErasedSourceEvent} (htype : event.type = terminalType.eventType) :
    Inputs core ((enqueueSourceEvent source terminalType event).run core) fun _ _ => True := by
  unfold enqueueSourceEvent
  split
  · exact proceeds_error
  · rename_i haccepted
    simp only [Bool.or_eq_true, Bool.not_eq_true', decide_eq_true_eq, not_or, not_not,
      Bool.not_eq_false] at haccepted
    obtain ⟨hrunning, rfl⟩ := haccepted
    exact acts_step hok (.sourceInput source event hsource hrunning htype) hok trivial

theorem emitStream_proceeds (hok : core.fault = none) (streamItem : TypeId)
    (stream : CapabilityToken) (item : Val streamItem) :
    Inputs core ((emitStream streamItem stream item).run core) fun _ _ => True := by
  unfold emitStream
  rw [Exec.run_bind_ok (run_ensureNotFaulted hok), Exec.run_bind_ok (EStateM.run_get core)]
  split
  · exact proceeds_error
  · split
    · exact proceeds_error
    · split
      · rename_i source hmatches
        have hsource : source ∈ core.streamSources (.stream streamItem) stream := by
          rw [hmatches]
          exact List.mem_cons_self
        exact enqueueSourceEvent_proceeds hok (List.mem_filter.mp hsource).1 rfl
      · exact proceeds_error

theorem closeStream_proceeds (hok : core.fault = none) (stream : CapabilityToken) :
    Inputs core ((closeStream stream).run core) fun _ _ => True := by
  unfold closeStream
  rw [Exec.run_bind_ok (run_ensureNotFaulted hok), Exec.run_bind_ok (EStateM.run_get core)]
  split
  · exact proceeds_error
  · rename_i requirement _
    split
    · exact proceeds_error
    · split
      · rename_i source hmatches
        have hsource : source ∈ core.streamSources requirement.terminalType stream := by
          rw [hmatches]
          exact List.mem_cons_self
        exact enqueueSourceEvent_proceeds hok (List.mem_filter.mp hsource).1 rfl
      · exact proceeds_error

theorem emitSource_proceeds (hok : core.fault = none) {component : TypeId}
    (target : ComponentRef component) (id : SubscriptionId)
    (descriptorType : DescriptorType TypeId)
    (event : SourceEvent (Val descriptorType.item) descriptorType.error.Val) :
    Inputs core ((emitSource target id descriptorType event).run core) fun _ _ => True := by
  unfold emitSource
  rw [Exec.run_bind_ok (run_ensureNotFaulted hok), Exec.run_bind_ok (EStateM.run_get core)]
  split
  · exact proceeds_error
  · cases hsource : core.source? target.id id with
    | none => exact proceeds_error
    | some source => exact enqueueSourceEvent_proceeds hok (List.mem_of_find?_eq_some hsource) rfl

theorem nextEffect_proceeds (hok : core.fault = none) (effectType : TypeId) :
    Inputs core ((nextEffect effectType).run core) fun _ _ => True := by
  unfold nextEffect
  rw [Exec.run_bind_ok (run_ensureNotFaulted hok), Exec.run_bind_ok (EStateM.run_get core)]
  cases hentry : core.effects.find? (PendingEffectEntry.isClaimable effectType) with
  | none => exact proceeds_error
  | some entry =>
      dsimp only
      rw [EStateM.run_bind, EStateM.run_set]
      dsimp only
      cases entry.descriptor.bind (·.downcast effectType) with
      | none => exact proceeds_panicked (.of_eq rfl rfl rfl rfl rfl)
      | some intent => exact acts_step hok (.effectClaimed effectType entry hentry) hok trivial

theorem complete_proceeds (hok : core.fault = none) {effectType : TypeId}
    (pending : PendingEffect effectType)
    (outcome : EffectOutcome (Val (RustTypes.effectOutput effectType))
      (Val (RustTypes.effectError effectType))) :
    Inputs core ((complete pending outcome).run core) fun _ _ => True := by
  unfold complete
  rw [Exec.run_bind_ok (run_ensureNotFaulted hok), Exec.run_bind_ok (EStateM.run_get core)]
  split
  · exact proceeds_error
  · cases hentry : core.effects.find?
      (PendingEffectEntry.isPending effectType pending.id) with
    | none => exact proceeds_error
    | some entry =>
        dsimp only
        rw [Exec.run_bind_ok (EStateM.run_set _ core), Exec.run_bind_ok (run_pushRoot _ _)]
        cases hmapper : entry.mapper with
        | none =>
            exact acts_step hok (.effectDiscarded pending.id entry (.of outcome) hentry
              hmapper) hok trivial
        | some mapper =>
            dsimp only
            rw [EStateM.run_bind]
            cases hmessage : mapper ⟨_, _, outcome⟩ with
            | error panic =>
                have hremoved : Unscheduled core (core.withoutEffect effectType pending.id) :=
                  .of_eq rfl rfl rfl rfl rfl
                exact proceeds_panicked (hremoved.trans (Unscheduled.traced none (by simp)))
            | ok message =>
                exact acts_step hok (.effectMapped pending.id entry outcome mapper message
                  hentry hmapper hmessage) hok trivial

end Inputs

/-! ## Initialization -/

section Initialization

variable {core : Core}

theorem run_takeInitialCommandErased (kernel : ErasedComponentKernel) :
    ErasedComponentKernel.takeInitialCommandErased.run kernel =
      .ok (kernel.kernel.initialCommand.map fun command => ⟨_, command⟩)
        { kernel with kernel := { kernel.kernel with initialCommand := none } } := rfl

theorem initializeComponent_proceeds (hok : core.fault = none) (id : ComponentId)
    (messageType : TypeId) :
    Executes core ((initializeComponent id messageType).run core) fun _ _ => True := by
  unfold initializeComponent
  rw [Exec.run_bind_ok (run_pushRoot _ _), Exec.run_bind_ok (EStateM.run_get _)]
  have hstep : Acts .projection core (core.traced none (.initialization id)) :=
    ⟨hok, .initialized id⟩
  refine Exec.follows_of_path (ReflTransGen.single hstep.move) ?_
  have hroot : (core.traced none (.initialization id)).Rooted core.nextTrace id :=
    ⟨_, List.getElem?_concat_length, Or.inl rfl⟩
  have hok₀ : (core.traced none (.initialization id)).fault = none := hok
  generalize core.traced none (.initialization id) = core₀ at hroot hok₀ ⊢
  cases hkernel : core₀.program.component? id messageType with
  | none => exact proceeds_refl hok₀ trivial
  | some kernel =>
      have hreconcile : Executes core₀ ((reconcileComponent id messageType kernel).run core₀)
          fun result core' => Reconciled id messageType result core' ∧
            core'.Rooted core.nextTrace id :=
        ((reconcileComponent_proceeds hok₀ hkernel).conseq fun _ _ hpath hresult =>
          ⟨hresult, hroot.path hpath⟩).executes
      refine proceeds_bind hreconcile ?_
      intro result core₁ _ hok₁ hafter
      obtain ⟨hresult, hroot₁⟩ := hafter
      -- The initial Command is taken whether or not the reconciliation succeeded.
      let taken : ErasedComponentKernel :=
        { result.2 with kernel := { result.2.kernel with initialCommand := none } }
      have htaken : Acts .projection core₁ (core₁.withComponent id messageType taken) :=
        ⟨hok₁, .commandTaken id messageType result.2 hresult.1⟩
      have htakenPath := ReflTransGen.single htaken
      rw [Exec.run_bind_ok (run_onComponent_ok (run_takeInitialCommandErased _))]
      refine Exec.follows_of_path (ReflTransGen.single htaken.move) ?_
      have hauthor₂ : (core₁.withComponent id messageType taken).Authors core.nextTrace id
          result.2.messageType := by
        refine ⟨hroot₁.path htakenPath, ?_⟩
        rw [(Program.component?_eq_some hresult.1).2]
        exact Program.Hosts.of_shape (shape_eq_path htakenPath) ⟨_, hresult.1⟩
      have htakenOk : (core₁.withComponent id messageType taken).fault = none := hok₁
      have happly : Executes (core₁.withComponent id messageType taken)
          ((applyReconciled id core.nextTrace result.1).run _)
          fun _ core' => core'.Authors core.nextTrace id result.2.messageType :=
        ((applyReconciled_proceeds htakenOk hauthor₂.rooted
          (hresult.2.path htakenPath)).conseq fun _ _ hpath _ => hauthor₂.path hpath).executes
      refine proceeds_bind happly ?_
      intro _ core₃ _ hok₃ hauthor₃
      cases result.2.kernel.initialCommand with
      | none => exact proceeds_refl hok₃ trivial
      | some command => exact (interpret_proceeds hok₃ hauthor₃).executes

theorem initializeComponents_proceeds (components : List (ComponentId × TypeId))
    (hok : core.fault = none) :
    Executes core ((initializeComponents components).run core) fun _ _ => True := by
  induction components generalizing core with
  | nil => exact proceeds_refl hok trivial
  | cons component components ih =>
      unfold initializeComponents
      refine proceeds_bind (initializeComponent_proceeds hok component.1 component.2) ?_
      intro _ core' _ hok' _
      exact ih hok'

/-- A new runtime is at the end of a path of moves from its fresh state. -/
theorem Core.new_path {program : Program} {bindings : Bindings} {core : Core}
    (h : Core.new program bindings = .ok core) :
    ReflTransGen Move (Core.fresh program bindings) core := by
  have hfollows := @initializeComponents_proceeds _ (Core.fresh program bindings)
    (initializationOrder program) rfl
  unfold Core.new at h
  split at h
  · rename_i core' hrun
    cases h
    rw [hrun] at hfollows
    exact hfollows.1
  · rename_i error core' hrun
    cases h
    rw [hrun] at hfollows
    obtain ⟨last, hpath, hexit⟩ := hfollows
    rw [hexit]
    exact hpath
  · cases h

end Initialization

/-! ## Runs -/

/-- A faulted runtime answers every operation with its fault and does nothing. -/
theorem perform_faulted {core : Core} {error : RuntimeError} (h : core.fault = some error)
    (operation : Operation) : (perform operation).run core = .error (.error error) core := by
  have hensure : ensureNotFaulted.run core = .error (.error error) core := by
    simp [ensureNotFaulted, h]
  cases operation <;>
    simp only [perform, Controlled.send, Controlled.emitStream, Controlled.closeStream,
      Controlled.emitSource, Controlled.nextEffect, Controlled.complete, Controlled.runUntilIdle,
      Controlled.advance, Controlled.advanceToNext, EStateM.run_bind, hensure]

section Runs

variable {Step Unwound : Core → Core → Prop}

/-- What an operation that returned a report has done. -/
def Reported (core : Core) (value : Returned) (core' : Core) : Prop :=
  ∀ report, value = .drove report → Drove core report core'

theorem performs_input (h : Covers Step Unwound) {α : Type} {core : Core} {x : Run α}
    {f : α → Returned} {Q : α → Core → Prop} (hx : Inputs core (x.run core) Q)
    (hf : ∀ value report, f value ≠ .drove report) :
    Proceeds Step Unwound core ((do let value ← x; pure (f value)).run core)
      (Reported core) := by
  refine proceeds_bind (hx.mono h.input h.unwound) ?_
  intro value core' _ hok' _
  exact proceeds_refl hok' fun report hreport => absurd hreport (hf value report)

theorem performs_drive {core : Core} {x : Run RunReport}
    {Q : RunReport → Core → Prop} (hx : Proceeds Step Unwound core (x.run core) Q)
    (hQ : ∀ report core', Q report core' → Drove core report core') :
    Proceeds Step Unwound core ((do let report ← x; pure (Returned.drove report)).run core)
      (Reported core) := by
  refine proceeds_bind hx ?_
  intro report core' _ hok' hq
  refine proceeds_refl hok' ?_
  intro other hother
  cases hother
  exact hQ report core' hq

/-- Every operation follows the steps of the runtime. -/
theorem perform_follows (h : Covers Step Unwound) (operation : Operation) (core : Core) :
    Proceeds Step Unwound core ((perform operation).run core) (Reported core) := by
  cases hok : core.fault with
  | some error =>
      rw [perform_faulted hok]
      exact proceeds_error
  | none =>
      cases operation with
      | send target message => exact performs_input h (send_proceeds hok target message) (by simp)
      | emitStream streamItem stream item =>
          exact performs_input h (emitStream_proceeds hok streamItem stream item) (by simp)
      | closeStream stream =>
          exact performs_input h (closeStream_proceeds hok stream) (by simp)
      | emitSource target id descriptorType event =>
          exact performs_input h (emitSource_proceeds hok target id descriptorType event)
            (by simp)
      | nextEffect effectType =>
          exact performs_input h (nextEffect_proceeds hok effectType) (by simp)
      | complete pending outcome =>
          exact performs_input h (complete_proceeds hok pending outcome) (by simp)
      | runUntilIdle fuel =>
          exact performs_drive (runUntilIdle_proceeds h fuel hok) fun _ _ => And.right
      | advance fuel duration =>
          exact performs_drive (advance_proceeds h fuel duration hok) fun _ _ => id
      | advanceToNext fuel =>
          exact performs_drive (advanceToNext_proceeds h fuel hok) fun _ _ => id

/-- The states between operations lie on paths of steps. -/
theorem Reachable.path_of_covers (hcovers : Covers Step Unwound) {start core : Core}
    (h : Reachable start core) : ReflTransGen Step start core := by
  induction h with
  | refl => exact ReflTransGen.refl
  | @operation core operation _ hreturns ih =>
      have hfollows := perform_follows hcovers operation core
      refine ih.trans ?_
      cases hrun : (perform operation).run core with
      | ok value core' =>
          rw [hrun] at hfollows
          exact hfollows.1
      | error stop core' =>
          rw [hrun] at hfollows hreturns
          obtain ⟨last, hpath, hexit⟩ := hfollows
          cases stop with
          | error error =>
              rw [Exec.final_error, hexit]
              exact hpath
          | panicked panic => exact hreturns.elim
          | outOfFuel => exact hreturns.elim

/-- So do the states of a run in which operations are cut short, where a panic
    may have interrupted the last step. -/
theorem Attained.path_of_covers (hcovers : Covers Step Unwound) {start core : Core}
    (h : Attained start core) :
    ReflTransGen (fun core core' => Step core core' ∨ Unwound core core') start core := by
  have hstep {core core' : Core} (hpath : ReflTransGen Step core core') :
      ReflTransGen (fun core core' => Step core core' ∨ Unwound core core') core core' :=
    ReflTransGen.mono (fun _ _ => Or.inl) _ _ hpath
  induction h with
  | refl => exact ReflTransGen.refl
  | @operation core operation _ ih =>
      have hfollows := perform_follows hcovers operation core
      refine ih.trans ?_
      cases hrun : (perform operation).run core with
      | ok value core' =>
          rw [hrun] at hfollows
          exact hstep hfollows.1
      | error stop core' =>
          rw [hrun] at hfollows
          obtain ⟨last, hpath, hexit⟩ := hfollows
          cases stop with
          | error error =>
              rw [Exec.final_error, hexit]
              exact hstep hpath
          | panicked panic => exact (hstep hpath).tail (Or.inr hexit)
          | outOfFuel =>
              rw [Exec.final_error, hexit]
              exact hstep hpath

end Runs

theorem Reachable.path {start core : Core} (h : Reachable start core) :
    ReflTransGen Move start core :=
  h.path_of_covers covers_move

/-- What a run does when panics are caught and drives are cut short. -/
def Motion (core core' : Core) : Prop := Move core core' ∨ Interrupted core core'

theorem Attained.path {start core : Core} (h : Attained start core) :
    ReflTransGen Motion start core :=
  h.path_of_covers covers_move

/-- A runtime that was launched had its bindings validated, and has moved from
    the fresh state of its Program. -/
theorem launch_path {program : Program} {bindings : Bindings} {core : Core}
    (h : launch program bindings = .ok core) :
    bindings.validate program = .ok () ∧ ReflTransGen Move (Core.fresh program bindings) core := by
  unfold launch at h
  cases hvalid : bindings.validate program with
  | error error =>
      rw [hvalid] at h
      cases h
  | ok _ =>
      rw [hvalid] at h
      cases hinitial : validateComponents program program.components with
      | error stop =>
          rw [hinitial] at h
          cases h
      | ok _ =>
          rw [hinitial] at h
          exact ⟨rfl, Core.new_path h⟩

theorem Launched.path {core : Core} (h : Launched core) :
    ∃ program bindings, ReflTransGen Move (Core.fresh program bindings) core := by
  obtain ⟨_, program, bindings, _, _, hlaunch⟩ := h
  exact ⟨program, bindings, (launch_path hlaunch).2⟩

end Controlled

end Samara
