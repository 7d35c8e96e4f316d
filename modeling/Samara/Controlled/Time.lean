/-
  Samara.Controlled.Time

  Logical time can be split anywhere: advancing by one duration and then by
  another is advancing by their sum, and advancing to the next deadline is
  advancing by the time that is left until it.

  Both compare drives that stop at different instants, so this file first shows
  what a drive that fails leaves behind, and that fuel only decides whether a
  drive returns, never what it returns.
-/
import Samara.Controlled.Faults
import Samara.Controlled.Ledger

namespace Samara

open Relation (ReflTransGen)

variable [RustTypes]

namespace Controlled

/-! ## Errors of a drive -/

/-- An error is the fault that the state records; a value comes with no fault. -/
def Faithful {α : Type} : EStateM.Result Stop Core α → Prop
  | .ok _ core => core.fault = none
  | .error (.error error) core => core.fault = some error
  | .error _ _ => True

section Errors

variable {core : Core}

theorem faithful_bind {α β : Type} {x : Run α} {f : α → Run β} (hx : Faithful (x.run core))
    (hf : ∀ value core', core'.fault = none → Faithful ((f value).run core')) :
    Faithful ((x >>= f).run core) := by
  rw [EStateM.run_bind]
  cases hrun : x.run core with
  | ok value core' =>
      rw [hrun] at hx
      exact hf value core' hx
  | error stop core' =>
      rw [hrun] at hx
      cases stop <;> exact hx

theorem faithful_fail {α : Type} (hok : core.fault = none) (component : ComponentId)
    (descriptorType : Option String) (work : TraceId) (reason : String) :
    Faithful ((failWithFault component descriptorType work reason : Run α).run core) := by
  rw [run_failWithFault hok]
  rfl

theorem faithful_callback {α : Type} (hok : core.fault = none) (result : Callback α) :
    Faithful ((callback result : Run α).run core) := by
  cases result with
  | ok value => exact hok
  | error panic => trivial

theorem faithful_commandTrace (hok : core.fault = none) {message : TypeId} (cause : TraceId)
    (component : ComponentId) (kind : TraceCommandKind) (detailType : String)
    (targetComponent : Option ComponentId) (targetPort : Option PortId)
    (declaration : Declaration message) :
    Faithful ((commandTrace cause component kind detailType targetComponent targetPort
      declaration).run core) := hok

theorem faithful_resolvePort (hok : core.fault = none) (component : ComponentId)
    {protocol : TypeId} (port : Port protocol) (work : TraceId) (noun : String) :
    Faithful ((resolvePort component port work noun).run core) := by
  rcases resolvePort_cases component hok port work noun with
    ⟨_, hrun⟩ | ⟨_, hrun⟩ | ⟨binding, _, _, hrun⟩
  · rw [hrun]
    rfl
  · rw [hrun]
    rfl
  · rw [hrun]
    exact hok

theorem faithful_activateSource (hok : core.fault = none) (component : ComponentId)
    (subscription : ErasedRuntimeSubscription) (work : TraceId) :
    Faithful ((activateSource component subscription work).run core) := by
  unfold activateSource
  rw [Exec.run_bind_ok (EStateM.run_get core)]
  dsimp only
  split
  · exact faithful_fail hok _ _ _ _
  · split
    · exact faithful_fail hok _ _ _ _
    · split
      · exact faithful_fail hok _ _ _ _
      · exact hok

theorem faithful_applySubscriptionChange (hok : core.fault = none) (component : ComponentId)
    (cause : TraceId) (change : ErasedSubscriptionChange) :
    Faithful ((applySubscriptionChange component cause change).run core) := by
  cases change with
  | start subscription => exact faithful_bind hok fun _ _ hok => faithful_activateSource hok _ _ _
  | retain subscription => exact hok
  | replace subscription =>
      refine faithful_bind hok fun _ _ hok => ?_
      exact faithful_bind hok fun _ _ hok => faithful_activateSource hok _ _ _
  | cancel id => exact hok

theorem faithful_applyChanges (hok : core.fault = none) (component : ComponentId)
    (cause : TraceId) (changes : List ErasedSubscriptionChange) :
    Faithful ((applyChanges component cause changes).run core) := by
  induction changes generalizing core with
  | nil => exact hok
  | cons change changes ih =>
      exact faithful_bind (faithful_applySubscriptionChange hok component cause change)
        fun _ _ hok => ih hok

theorem faithful_interpretDeclaration (hok : core.fault = none) {message : TypeId}
    (component : ComponentId) (cause : TraceId) (declaration : Declaration message) :
    Faithful ((interpretDeclaration component cause declaration).run core) := by
  cases declaration with
  | effect command =>
      refine faithful_bind (faithful_commandTrace hok _ _ _ _ _ _ _) fun work core' hok => ?_
      rw [Exec.run_bind_ok (EStateM.run_get core')]
      split
      · exact faithful_fail hok _ _ _ _
      · split
        · exact faithful_fail hok _ _ _ _
        · exact hok
  | send command =>
      refine faithful_bind (faithful_commandTrace hok _ _ _ _ _ _ _) fun work core' hok => ?_
      rw [Exec.run_bind_ok (EStateM.run_get core')]
      split
      · exact faithful_fail hok _ _ _ _
      · exact hok
  | notify command =>
      refine faithful_bind (faithful_commandTrace hok _ _ _ _ _ _ _) fun work core' hok => ?_
      refine faithful_bind (faithful_resolvePort hok _ _ _ _) fun binding _ hok => ?_
      refine faithful_bind (faithful_callback hok _) fun protocolMessage _ hok => ?_
      exact faithful_bind (faithful_callback hok _) fun _ _ hok => hok
  | request command =>
      refine faithful_bind (faithful_commandTrace hok _ _ _ _ _ _ _) fun work core' hok => ?_
      refine faithful_bind (faithful_resolvePort hok _ _ _ _) fun binding _ hok => ?_
      rename_i core₁
      rw [Exec.run_bind_ok (EStateM.run_get core₁)]
      refine faithful_bind hok fun _ _ hok => ?_
      refine faithful_bind (faithful_callback hok _) fun protocolMessage _ hok => ?_
      exact faithful_bind (faithful_callback hok _) fun _ _ hok => hok
  | reply command =>
      refine faithful_bind (faithful_commandTrace hok _ _ _ _ _ _ _) fun work core' hok => ?_
      rw [Exec.run_bind_ok (EStateM.run_get core')]
      split
      · exact faithful_fail hok _ _ _ _
      · rw [Exec.run_bind_ok (EStateM.run_set _ _)]
        have hok' : (core'.withoutRequest command.replyTo.correlation).fault = none := hok
        split
        · exact faithful_fail hok' _ _ _ _
        · refine faithful_bind hok fun _ _ hok => ?_
          exact faithful_bind (faithful_callback hok _) fun _ _ hok => hok
  | after delay value =>
      refine faithful_bind (faithful_commandTrace hok _ _ _ _ _ _ _) fun work core' hok => ?_
      rw [Exec.run_bind_ok (EStateM.run_get core')]
      split
      · exact faithful_fail hok _ _ _ _
      · exact hok

theorem faithful_interpretDeclarations (hok : core.fault = none) {message : TypeId}
    (component : ComponentId) (cause : TraceId) (declarations : List (Declaration message)) :
    Faithful ((interpretDeclarations component cause declarations).run core) := by
  induction declarations generalizing core with
  | nil => exact hok
  | cons declaration declarations ih =>
      exact faithful_bind (faithful_interpretDeclaration hok component cause declaration)
        fun _ _ hok => ih hok

theorem faithful_onComponent {α : Type} (hok : core.fault = none) (id : ComponentId)
    (messageType : TypeId) (kernel : ErasedComponentKernel)
    (action : EStateM Panic ErasedComponentKernel α) :
    Faithful ((onComponent id messageType kernel action).run core) := by
  cases hrun : action.run kernel with
  | ok value kernel' =>
      rw [run_onComponent_ok hrun]
      exact hok
  | error panic kernel' =>
      rw [run_onComponent_error hrun]
      trivial

theorem faithful_reconcileComponent (hok : core.fault = none) (id : ComponentId)
    (messageType : TypeId) (kernel : ErasedComponentKernel) :
    Faithful ((reconcileComponent id messageType kernel).run core) := by
  refine faithful_bind (faithful_onComponent hok _ _ _ _) fun result _ hok => ?_
  cases kernel.desired with
  | error panic => exact hok
  | ok desired => exact hok

theorem faithful_applyReconciled (hok : core.fault = none) (component : ComponentId)
    (work : TraceId) (changes : Except SubscriptionId (List ErasedSubscriptionChange)) :
    Faithful ((applyReconciled component work changes).run core) := by
  cases changes with
  | error duplicate => exact faithful_fail hok _ _ _ _
  | ok changes => exact faithful_applyChanges hok _ _ _

theorem faithful_processSourceEvent (hok : core.fault = none) (event : QueuedSourceEvent) :
    Faithful ((processSourceEvent event).run core) := by
  have hscheduled (source : ActiveSource) (cause : TraceId)
      (mapped : List (SourceEventKind × ErasedValue)) {base : Core} (hbase : base.fault = none) :
      Faithful ((scheduleMapped source cause mapped).run base) := by
    induction mapped generalizing base with
    | nil => exact hbase
    | cons event mapped ih =>
        refine faithful_bind hbase fun _ _ hok => ?_
        exact faithful_bind hok fun _ _ hok => faithful_bind hok fun _ _ hok => ih hok
  unfold processSourceEvent
  rw [Exec.run_bind_ok (EStateM.run_get core)]
  split
  · exact hok
  · rename_i source _
    split
    · exact hok
    · have hmapTerminal : Faithful ((mapTerminalEvent source event.event).run core) := by
        cases hplan : (SourcePlan.mapEvent event.event).run source.plan with
        | ok outer plan =>
            rw [run_mapTerminalEvent_ok hplan]
            exact hok
        | error panic plan =>
            rw [run_mapTerminalEvent_error hplan]
            trivial
      refine faithful_bind hmapTerminal fun outer _ hok => ?_
      refine faithful_bind (faithful_callback hok _) fun mapped _ hok => ?_
      refine faithful_bind hok fun _ _ hok => ?_
      refine faithful_bind hok fun _ _ hok => ?_
      exact faithful_bind (hscheduled source event.cause mapped hok) fun _ _ hok => hok

/-- A Message whose target is hosted is of the type its kernel takes. -/
def Accepted (core : Core) (message : QueuedMessage) : Prop :=
  ∀ kernel, core.program.component? message.target message.targetMessageType = some kernel →
    message.message.downcast kernel.messageType ≠ none

theorem faithful_deliver (hok : core.fault = none) {message : QueuedMessage}
    (haccepted : Accepted core message) : Faithful ((deliver message).run core) := by
  unfold deliver
  have hfire : (fireTimer message).run core =
      .ok (core.deliveryCause message) (core.fired message) := by
    unfold fireTimer Core.deliveryCause Core.fired
    cases message.delivery <;> rfl
  have hfired : (core.fired message).fault = none := by
    rw [Core.fired_fault]
    exact hok
  rw [Exec.run_bind_ok hfire, Exec.run_bind_ok (EStateM.run_get _)]
  cases hkernel : (core.fired message).program.component? message.target
      message.targetMessageType with
  | none => exact faithful_fail hfired _ _ _ _
  | some kernel =>
      rw [Core.fired_program] at hkernel
      cases htransition :
          (ErasedComponentKernel.transitionErased message.message).run kernel with
      | error panic kernel' =>
          rw [EStateM.run_bind, run_onComponent_error htransition]
          trivial
      | ok command kernel' =>
          rw [Exec.run_bind_ok (run_onComponent_ok htransition)]
          cases command with
          | none =>
              exact absurd (ErasedComponentKernel.transitionErased_none htransition).1
                (haccepted kernel hkernel)
          | some command =>
              refine faithful_bind hfired fun transition _ hok => ?_
              refine faithful_bind (faithful_reconcileComponent hok _ _ _) fun changes _ hok => ?_
              refine faithful_bind (faithful_applyReconciled hok _ _ _) fun _ _ hok => ?_
              exact faithful_bind (faithful_interpretDeclarations hok _ _ _) fun _ _ hok => hok

theorem faithful_processWork (hok : core.fault = none) {work : ScheduledWork}
    (haccepted : ∀ message, work.kind = .message message → Accepted core message) :
    Faithful ((processWork work).run core) := by
  unfold processWork
  cases hkind : work.kind with
  | sourceEvent event => exact faithful_processSourceEvent hok event
  | message message =>
      unfold processMessage
      rw [Exec.run_bind_ok (EStateM.run_get core)]
      cases message.source with
      | none => exact faithful_deliver hok (haccepted message hkind)
      | some stamp =>
          dsimp only
          split
          · exact faithful_deliver hok (haccepted message hkind)
          · exact hok

/-- A drive fails only with the fault that it records. -/
theorem faithful_drainInstant (hok : core.fault = none) (htyped : Typed core)
    (fuel transitions : Nat) : Faithful ((drainInstant fuel transitions).run core) := by
  induction fuel generalizing core transitions with
  | zero => trivial
  | succ fuel ih =>
      unfold drainInstant popNextDue
      simp only [bind_assoc]
      rw [Exec.run_bind_ok (EStateM.run_get _)]
      cases hdue : core.nextDue with
      | none => exact hok
      | some work =>
          simp only [bind_assoc, pure_bind]
          rw [Exec.run_bind_ok (EStateM.run_set _ _)]
          have haccepted : ∀ message, work.kind = .message message →
              Accepted (core.popped work) message :=
            fun message hkind kernel hkernel => htyped.accepted hdue hkind hkernel
          have hwork := @faithful_processWork _ (core.popped work) hok work haccepted
          have hproceeds := processWork_proceeds hok hdue
          rw [EStateM.run_bind]
          cases hrun : (processWork work).run (core.popped work) with
          | error stop core' =>
              rw [hrun] at hwork
              cases stop <;> exact hwork
          | ok more core' =>
              rw [hrun] at hwork hproceeds
              dsimp only
              rw [Exec.run_bind_ok (run_ensureNotFaulted hwork)]
              exact ih hwork (htyped.path hproceeds.1) _

theorem faithful_runUntilIdle (hok : core.fault = none) (htyped : Typed core) (fuel : Nat) :
    Faithful ((runUntilIdle fuel).run core) := by
  unfold runUntilIdle
  rw [Exec.run_bind_ok (run_ensureNotFaulted hok)]
  exact faithful_bind (faithful_drainInstant hok htyped fuel 0) fun _ _ hok => hok

end Errors

/-! ## Fuel -/

/-- Whether a drive came to an end, in any way. -/
def Ends {α : Type} : EStateM.Result Stop Core α → Prop
  | .error .outOfFuel _ => False
  | _ => True

/-- `y` does what `x` does, unless `x` runs out of fuel. -/
def Refuels {α : Type} (core : Core) (x y : Run α) : Prop :=
  Ends (x.run core) → y.run core = x.run core

section Fuel

variable {core : Core}

theorem refuels_bind {α β : Type} {x y : Run α} {f g : α → Run β} (hx : Refuels core x y)
    (hf : ∀ value core', x.run core = .ok value core' → Refuels core' (f value) (g value)) :
    Refuels core (x >>= f) (y >>= g) := by
  intro hends
  rw [EStateM.run_bind] at hends
  rw [EStateM.run_bind, EStateM.run_bind]
  cases hrun : x.run core with
  | ok value core' =>
      rw [hrun] at hends
      have hsame := hx (by rw [hrun]; trivial)
      rw [hsame, hrun]
      exact hf value core' hrun hends
  | error stop core' =>
      rw [hrun] at hends
      have hsame := hx (by rw [hrun]; cases stop <;> exact hends)
      rw [hsame, hrun]

theorem refuels_refl {α : Type} (x : Run α) : Refuels core x x := fun _ => rfl

theorem drainInstant_refuels {fuel more : Nat} (hmore : fuel ≤ more) (transitions : Nat) :
    Refuels core (drainInstant fuel transitions) (drainInstant more transitions) := by
  induction fuel generalizing core transitions more with
  | zero => exact fun hends => hends.elim
  | succ fuel ih =>
      obtain ⟨more, rfl⟩ := Nat.exists_eq_add_of_le' (Nat.lt_of_lt_of_le (Nat.succ_pos fuel) hmore)
      unfold drainInstant
      refine refuels_bind (refuels_refl _) fun due _ _ => ?_
      cases due with
      | none => exact refuels_refl _
      | some work =>
          refine refuels_bind (refuels_refl _) fun worked _ _ => ?_
          exact refuels_bind (refuels_refl _) fun _ _ _ => ih (by omega) _

theorem runUntilIdle_refuels {fuel more : Nat} (hmore : fuel ≤ more) :
    Refuels core (runUntilIdle fuel) (runUntilIdle more) :=
  refuels_bind (refuels_refl _) fun _ _ _ =>
    refuels_bind (drainInstant_refuels hmore 0) fun _ _ _ => refuels_refl _

theorem advanceLoop_refuels {fuel more rounds others : Nat} (target : Duration)
    (hmore : fuel ≤ more) (hrounds : rounds ≤ others) (transitions : Nat) :
    Refuels core (advanceLoop fuel target rounds transitions)
      (advanceLoop more target others transitions) := by
  induction rounds generalizing core transitions others with
  | zero => exact fun hends => hends.elim
  | succ rounds ih =>
      obtain ⟨others, rfl⟩ :=
        Nat.exists_eq_add_of_le' (Nat.lt_of_lt_of_le (Nat.succ_pos rounds) hrounds)
      unfold advanceLoop
      refine refuels_bind (refuels_refl _) fun state _ _ => ?_
      cases state.nextDeadline (some target) with
      | none => exact refuels_refl _
      | some next =>
          refine refuels_bind (refuels_refl _) fun _ _ _ => ?_
          exact refuels_bind (runUntilIdle_refuels hmore) fun _ _ _ => ih (by omega) _

end Fuel

/-! ## The tail of an advance -/

/-- The rest of `advance` once the current instant is drained. -/
def finishAdvance (fuel : Nat) (target : Duration) (rounds transitions : Nat) : Run RunReport := do
  let transitions ← advanceLoop fuel target rounds transitions
  modify fun core => { core with now := target }
  let last ← runUntilIdle fuel
  report (transitions + last.transitions)

/-- A result with `transitions` more transitions to report. -/
def counting (transitions : Nat) :
    EStateM.Result Stop Core RunReport → EStateM.Result Stop Core RunReport
  | .ok report core => .ok { report with transitions := transitions + report.transitions } core
  | .error stop core => .error stop core

section Tail

variable {core : Core}

theorem run_advance {fuel : Nat} {duration target : Duration} (hok : core.fault = none)
    (htarget : Duration.checkedAdd core.now duration = some target) :
    (advance fuel duration).run core =
      (do let first ← runUntilIdle fuel
          finishAdvance fuel target fuel first.transitions : Run RunReport).run core := by
  unfold advance
  rw [Exec.run_bind_ok (run_ensureNotFaulted hok), Exec.run_bind_ok (EStateM.run_get core)]
  rw [htarget]
  rfl

/-- An instant with nothing due is drained at once. -/
theorem run_runUntilIdle {fuel : Nat} (hok : core.fault = none) (hidle : core.nextDue = none)
    (hfuel : 0 < fuel) :
    (runUntilIdle fuel).run core =
      .ok ⟨0, core.pendingWork.pendingNow, core.pendingWork.pendingLater⟩ core := by
  obtain ⟨fuel, rfl⟩ := Nat.exists_eq_add_of_le' hfuel
  have hdrained : (drainInstant (fuel + 1) 0).run core = .ok 0 core := by
    unfold drainInstant popNextDue
    simp only [bind_assoc]
    rw [Exec.run_bind_ok (EStateM.run_get _), hidle]
    rfl
  unfold runUntilIdle
  rw [Exec.run_bind_ok (run_ensureNotFaulted hok), Exec.run_bind_ok hdrained, run_report]

/-- The transitions counted so far only add to the total. -/
theorem finishAdvance_counting (fuel : Nat) (target : Duration) (rounds counted transitions : Nat) :
    (finishAdvance fuel target rounds (counted + transitions)).run core =
      counting counted ((finishAdvance fuel target rounds transitions).run core) := by
  induction rounds generalizing core transitions with
  | zero => rfl
  | succ rounds ih =>
      unfold finishAdvance advanceLoop
      simp only [bind_assoc]
      rw [Exec.run_bind_ok (EStateM.run_get core), Exec.run_bind_ok (EStateM.run_get core)]
      cases hnext : core.nextDeadline (some target) with
      | none =>
          simp only [pure_bind]
          rw [Exec.run_bind_ok (EStateM.run_modify _ _), Exec.run_bind_ok (EStateM.run_modify _ _)]
          rw [EStateM.run_bind, EStateM.run_bind]
          cases (runUntilIdle fuel).run { core with now := target } with
          | ok last core' =>
              dsimp only
              rw [run_report, run_report, Nat.add_assoc]
              rfl
          | error stop core' => rfl
      | some next =>
          simp only [bind_assoc]
          rw [Exec.run_bind_ok (EStateM.run_set _ _), Exec.run_bind_ok (EStateM.run_set _ _)]
          rw [EStateM.run_bind, EStateM.run_bind]
          cases (runUntilIdle fuel).run { core with now := next } with
          | ok drained core' =>
              dsimp only
              rw [Nat.add_assoc]
              exact ih (transitions + drained.transitions)
          | error stop core' => rfl

theorem finishAdvance_refuels {fuel rounds others : Nat} (target : Duration)
    (hrounds : rounds ≤ others) (transitions : Nat) :
    Refuels core (finishAdvance fuel target rounds transitions)
      (finishAdvance fuel target others transitions) :=
  refuels_bind (advanceLoop_refuels target (Nat.le_refl fuel) hrounds transitions) fun _ _ _ =>
    refuels_refl _

end Tail

/-! ## Two advances -/

section Split

variable {core : Core}

theorem nextDeadline_some_iff {limit : Option Duration} {next : Duration} :
    core.nextDeadline limit = some next ↔
      (∃ work ∈ core.scheduled, work.deadline = next) ∧ core.now < next ∧
        (∀ bound, limit = some bound → next ≤ bound) ∧
        ∀ work ∈ core.scheduled, core.now < work.deadline →
          (∀ bound, limit = some bound → work.deadline ≤ bound) → next ≤ work.deadline := by
  constructor
  · intro h
    obtain ⟨hlater, hlimit, harmed, hleast⟩ := nextDeadline_eq_some h
    exact ⟨harmed, hlater, hlimit, hleast⟩
  · rintro ⟨⟨work, hwork, rfl⟩, hlater, hlimit, hleast⟩
    unfold Core.nextDeadline
    refine List.min?_eq_some_iff.mpr ⟨List.mem_map.mpr ⟨work, ?_, rfl⟩, ?_⟩
    · simp only [List.mem_filter, Bool.and_eq_true, decide_eq_true_eq, Option.all_eq_true]
      exact ⟨hwork, hlater, hlimit⟩
    · intro deadline hdeadline
      obtain ⟨other, hother, rfl⟩ := List.mem_map.mp hdeadline
      simp only [List.mem_filter, Bool.and_eq_true, decide_eq_true_eq, Option.all_eq_true] at hother
      exact hleast other hother.1 hother.2.1 hother.2.2

/-- The next deadline up to a limit is the next one up to any later limit. -/
theorem nextDeadline_later {limit target next : Duration} (htarget : limit ≤ target)
    (h : core.nextDeadline (some limit) = some next) :
    core.nextDeadline (some target) = some next := by
  obtain ⟨harmed, hlater, hlimit, hleast⟩ := nextDeadline_some_iff.mp h
  refine nextDeadline_some_iff.mpr ⟨harmed, hlater, ?_, ?_⟩
  · rintro _ ⟨⟩
    exact le_trans (hlimit limit rfl) htarget
  · intro work hwork hnow _
    by_cases hwithin : work.deadline ≤ limit
    · refine hleast work hwork hnow ?_
      rintro _ ⟨⟩
      exact hwithin
    · exact le_trans (hlimit limit rfl) (le_of_lt (Nat.lt_of_not_le hwithin))

/-- Time that passes over no deadline leaves the next deadline as it is. -/
theorem nextDeadline_passed {mid : Duration} (hmid : core.now ≤ mid)
    (hnone : core.nextDeadline (some mid) = none) (limit : Option Duration) :
    ({ core with now := mid } : Core).nextDeadline limit = core.nextDeadline limit := by
  unfold Core.nextDeadline
  congr 2
  refine List.filter_congr ?_
  intro work hwork
  have hiff : mid < work.deadline ↔ core.now < work.deadline :=
    ⟨lt_of_le_of_lt hmid, nextDeadline_eq_none hnone work hwork⟩
  simp [hiff]

/-- An advance that goes on past `mid` does, up to there, what one to `mid`
    does. -/
theorem advanceLoop_splits {fuel rounds transitions : Nat} {mid target : Duration}
    (hmid : mid ≤ target) :
    match (advanceLoop fuel mid rounds transitions).run core with
    | .ok counted core' => ∃ left ≤ rounds, (advanceLoop fuel target rounds transitions).run core =
        (advanceLoop fuel target left counted).run core'
    | .error stop core' =>
        (advanceLoop fuel target rounds transitions).run core = .error stop core' := by
  induction rounds generalizing core transitions with
  | zero => rfl
  | succ rounds ih =>
      cases hnext : core.nextDeadline (some mid) with
      | none =>
          have hdone : (advanceLoop fuel mid (rounds + 1) transitions).run core =
              .ok transitions core := by
            unfold advanceLoop
            rw [Exec.run_bind_ok (EStateM.run_get core), hnext]
            rfl
          rw [hdone]
          exact ⟨rounds + 1, Nat.le_refl _, rfl⟩
      | some next =>
          have hnext' := nextDeadline_later hmid hnext
          have hround {limit : Duration} (hlimit : core.nextDeadline (some limit) = some next) :
              (advanceLoop fuel limit (rounds + 1) transitions).run core =
                (do let drained ← runUntilIdle fuel
                    advanceLoop fuel limit rounds (transitions + drained.transitions) :
                      Run Nat).run { core with now := next } := by
            conv => lhs; unfold advanceLoop
            rw [Exec.run_bind_ok (EStateM.run_get core), hlimit]
            dsimp only
            rw [Exec.run_bind_ok (EStateM.run_set _ _)]
          rw [hround hnext, hround hnext', EStateM.run_bind, EStateM.run_bind]
          cases hdrain : (runUntilIdle fuel).run { core with now := next } with
          | error stop core' => rfl
          | ok drained core' =>
              have hrest := @ih core' (transitions + drained.transitions)
              dsimp only
              cases hloop : (advanceLoop fuel mid rounds
                  (transitions + drained.transitions)).run core' with
              | error stop core'' =>
                  rw [hloop] at hrest
                  exact hrest
              | ok counted core'' =>
                  rw [hloop] at hrest
                  obtain ⟨left, hleft, heq⟩ := hrest
                  exact ⟨left, Nat.le_succ_of_le hleft, heq⟩

/-- Time that passes over no deadline changes nothing of what follows. -/
theorem finishAdvance_passed {fuel rounds transitions : Nat} {mid target : Duration}
    (hmid : core.now ≤ mid) (hnone : core.nextDeadline (some mid) = none) (hrounds : 0 < rounds) :
    (finishAdvance fuel target rounds transitions).run { core with now := mid } =
      (finishAdvance fuel target rounds transitions).run core := by
  obtain ⟨rounds, rfl⟩ := Nat.exists_eq_add_of_le' hrounds
  unfold finishAdvance advanceLoop
  simp only [bind_assoc]
  rw [Exec.run_bind_ok (EStateM.run_get _), Exec.run_bind_ok (EStateM.run_get _),
    nextDeadline_passed hmid hnone]
  cases core.nextDeadline (some target) with
  | none => rfl
  | some next =>
      simp only [bind_assoc]
      rw [Exec.run_bind_ok (EStateM.run_set _ _), Exec.run_bind_ok (EStateM.run_set _ _)]

end Split

section Halves

variable {core : Core}

theorem Typed.at (h : Typed core) (time : Duration) : Typed { core with now := time } :=
  ⟨h.messages, h.stamped, h.effects, h.requests⟩

theorem faithful_advanceLoop (hok : core.fault = none) (htyped : Typed core) (fuel : Nat)
    (target : Duration) (rounds transitions : Nat) :
    Faithful ((advanceLoop fuel target rounds transitions).run core) := by
  induction rounds generalizing core transitions with
  | zero => trivial
  | succ rounds ih =>
      unfold advanceLoop
      rw [Exec.run_bind_ok (EStateM.run_get core)]
      cases core.nextDeadline (some target) with
      | none => exact hok
      | some next =>
          dsimp only
          rw [Exec.run_bind_ok (EStateM.run_set _ _)]
          have hdrive := @faithful_runUntilIdle _ { core with now := next } hok (htyped.at next) fuel
          have hproceeds := @runUntilIdle_proceeds _ _ _ { core with now := next } covers_move fuel hok
          rw [EStateM.run_bind]
          cases hrun : (runUntilIdle fuel).run { core with now := next } with
          | ok drained core' =>
              rw [hrun] at hdrive hproceeds
              exact ih hdrive ((htyped.at next).path hproceeds.1) _
          | error stop core' =>
              rw [hrun] at hdrive
              cases stop <;> exact hdrive

theorem finishAdvance_congr {fuel rounds rounds' transitions transitions' : Nat}
    {target : Duration} {core core' : Core}
    (h : (advanceLoop fuel target rounds transitions).run core =
      (advanceLoop fuel target rounds' transitions').run core') :
    (finishAdvance fuel target rounds transitions).run core =
      (finishAdvance fuel target rounds' transitions').run core' := by
  unfold finishAdvance
  rw [EStateM.run_bind, EStateM.run_bind, h]

theorem returns_counting {transitions : Nat} {result : EStateM.Result Stop Core RunReport}
    (h : Returns (counting transitions result)) : Returns result := by
  cases result with
  | ok report core => trivial
  | error stop core => exact h

theorem Returns.ends {α : Type} {result : EStateM.Result Stop Core α} (h : Returns result) :
    Ends result := by
  cases result with
  | ok value core => trivial
  | error stop core =>
      cases stop with
      | error error => trivial
      | panicked panic => exact h.elim
      | outOfFuel => exact h.elim

/-- An advance that has drained every instant up to `mid` goes on as one that
    starts there. -/
theorem finishAdvance_restarts (hok : core.fault = none) (hidle : core.nextDue = none)
    {fuel left counted : Nat} {mid target second : Duration} (hnow : core.now ≤ mid)
    (hnone : core.nextDeadline (some mid) = none) (hfuel : 0 < fuel) (hleft : left ≤ fuel)
    (htarget : Duration.checkedAdd mid second = some target)
    (hends : Ends ((finishAdvance fuel target left counted).run core)) :
    (finishAdvance fuel target left counted).run core =
      counting counted ((advance fuel second).run { core with now := mid }) := by
  have hleftPos : 0 < left := by
    rcases Nat.eq_zero_or_pos left with rfl | hpos
    · exact hends.elim
    · exact hpos
  have hdrained : ({ core with now := mid } : Core).nextDue = none := by
    refine nextDue_eq_none.mpr ?_
    exact fun work hwork => nextDeadline_eq_none hnone work hwork
      (nextDue_eq_none.mp hidle work hwork)
  have hpassed := @finishAdvance_passed _ core fuel left counted mid target hnow hnone hleftPos
  have hmore := @finishAdvance_refuels _ { core with now := mid } fuel left fuel target hleft counted
    (by rw [hpassed]; exact hends)
  have hok' : ({ core with now := mid } : Core).fault = none := hok
  rw [run_advance hok' htarget, Exec.run_bind_ok (run_runUntilIdle hok' hdrained hfuel),
    ← finishAdvance_counting fuel target fuel counted 0, ← hpassed, ← hmore]
  rfl

/-- What an advance in two parts does, when the advance as a whole returns. -/
theorem advance_halves (hok : core.fault = none) (htyped : Typed core) {fuel : Nat}
    {first second : Duration} (hmax : core.now + first + second ≤ Duration.max)
    (hreturns : Returns ((advance fuel (first + second)).run core)) :
    (∃ report core₁, (advance fuel first).run core = .ok report core₁ ∧
      (advance fuel (first + second)).run core =
        counting report.transitions ((advance fuel second).run core₁)) ∨
    ∃ error core₁, core₁.fault = some error ∧
      (advance fuel first).run core = .error (.error error) core₁ ∧
      (advance fuel (first + second)).run core = .error (.error error) core₁ := by
  have htarget : Duration.checkedAdd core.now (first + second) =
      some (core.now + first + second) := by
    rw [Duration.checkedAdd_of_le (by rw [← Nat.add_assoc]; exact hmax), Nat.add_assoc]
  have hmid : Duration.checkedAdd core.now first = some (core.now + first) :=
    Duration.checkedAdd_of_le (le_trans (Nat.le_add_right _ _) hmax)
  have hwithin : core.now + first ≤ core.now + first + second := Nat.le_add_right _ _
  rw [run_advance hok htarget] at hreturns ⊢
  rw [run_advance hok hmid]
  rw [EStateM.run_bind] at hreturns ⊢
  rw [EStateM.run_bind]
  have hdrive := faithful_runUntilIdle hok htyped fuel
  have hproceeds := runUntilIdle_proceeds covers_move fuel hok
  cases hrun : (runUntilIdle fuel).run core with
  | error stop core₁ =>
      rw [hrun] at hreturns hdrive
      cases stop with
      | error error => exact Or.inr ⟨error, core₁, hdrive, rfl, rfl⟩
      | panicked panic => exact hreturns.elim
      | outOfFuel => exact hreturns.elim
  | ok drained core₁ =>
      rw [hrun] at hreturns hdrive hproceeds
      obtain ⟨hpath₁, hok₁, hnow₁, hdrove₁⟩ := hproceeds
      have hfuel : 0 < fuel := by
        rcases Nat.eq_zero_or_pos fuel with rfl | hpos
        · unfold runUntilIdle at hrun
          rw [Exec.run_bind_ok (run_ensureNotFaulted hok)] at hrun
          cases hrun
        · exact hpos
      dsimp only at hreturns ⊢
      have hbefore : core₁.now ≤ core.now + first := hnow₁ ▸ Nat.le_add_right _ _
      have hsplit := @advanceLoop_splits _ core₁ fuel fuel drained.transitions _ _ hwithin
      have hloop := faithful_advanceLoop hok₁ (htyped.path hpath₁) fuel (core.now + first) fuel
        drained.transitions
      have hproceeds₂ := advanceLoop_proceeds covers_move fuel (core.now + first) fuel
        drained.transitions hok₁ hdrove₁.idle hbefore
      cases hrun₂ : (advanceLoop fuel (core.now + first) fuel drained.transitions).run core₁ with
      | error stop core₂ =>
          rw [hrun₂] at hsplit hloop
          have hwhole : (finishAdvance fuel (core.now + first + second) fuel
              drained.transitions).run core₁ = .error stop core₂ := run_bind_error hsplit
          have hhalf : (finishAdvance fuel (core.now + first) fuel
              drained.transitions).run core₁ = .error stop core₂ := run_bind_error hrun₂
          rw [hwhole] at hreturns ⊢
          rw [hhalf]
          cases stop with
          | error error => exact Or.inr ⟨error, core₂, hloop, rfl, rfl⟩
          | panicked panic => exact hreturns.elim
          | outOfFuel => exact hreturns.elim
      | ok counted core₂ =>
          rw [hrun₂] at hsplit hproceeds₂
          obtain ⟨left, hleft, hsame⟩ := hsplit
          obtain ⟨_, hok₂, hdrained₂, hnow₂, hnone⟩ := hproceeds₂
          have hidle : ({ core₂ with now := core.now + first } : Core).nextDue = none := by
            refine nextDue_eq_none.mpr ?_
            exact fun work hwork => nextDeadline_eq_none hnone work hwork
              (nextDue_eq_none.mp hdrained₂.idle work hwork)
          have hhalf : (finishAdvance fuel (core.now + first) fuel drained.transitions).run core₁ =
              .ok ⟨counted, ({ core₂ with now := core.now + first } : Core).pendingWork.pendingNow,
                ({ core₂ with now := core.now + first } : Core).pendingWork.pendingLater⟩
                { core₂ with now := core.now + first } := by
            have hok' : ({ core₂ with now := core.now + first } : Core).fault = none := hok₂
            unfold finishAdvance
            rw [Exec.run_bind_ok hrun₂, Exec.run_bind_ok (EStateM.run_modify _ _)]
            rw [Exec.run_bind_ok (run_runUntilIdle hok' hidle hfuel), run_report]
            rfl
          have hwhole := @finishAdvance_congr _ fuel fuel left drained.transitions counted
            (core.now + first + second) core₁ core₂ hsame
          rw [hwhole] at hreturns ⊢
          refine Or.inl ⟨_, _, hhalf, ?_⟩
          exact finishAdvance_restarts hok₂ hdrained₂.idle hnow₂ hnone hfuel hleft
            (Duration.checkedAdd_of_le hmax) hreturns.ends

end Halves

/-- Advancing by `first` and then by `second` is advancing by their sum. -/
structure Splits (fuel : Nat) (core : Core) (first second : Duration) : Prop where
  returns : Returns ((advance fuel first).run core) ∧
    Returns ((advance fuel second).run (Exec.final ((advance fuel first).run core))) ∧
    Returns ((advance fuel (first + second)).run core)
  /-- The state is the same, whether or not a drive faulted. -/
  state : Exec.final ((advance fuel second).run (Exec.final ((advance fuel first).run core))) =
    Exec.final ((advance fuel (first + second)).run core)
  /-- The transitions reported add up. -/
  reports : ∀ report core₁ report' core₂, (advance fuel first).run core = .ok report core₁ →
    (advance fuel second).run core₁ = .ok report' core₂ →
      (advance fuel (first + second)).run core =
        .ok { report' with transitions := report.transitions + report'.transitions } core₂
  /-- So does what failed. -/
  errors : ∀ error core₁ core₂, (advance fuel second).run core₁ = .error (.error error) core₂ →
    core₁ = Exec.final ((advance fuel first).run core) →
      (advance fuel (first + second)).run core = .error (.error error) core₂

/-- The states in which an advance to `target` drives an instant. -/
inductive Instant (core : Core) (target : Duration) : Core → Prop where
  | first : Instant core target core
  | next {before after : Core} {fuel : Nat} {report : RunReport} {next : Duration}
      (h : Instant core target before)
      (hdrive : (runUntilIdle fuel).run before = .ok report after)
      (hnext : after.nextDeadline (some target) = some next) :
      Instant core target { after with now := next }

/-- Every immediate drive of an advance to `target` returns. -/
def DrivesReturn (core : Core) (target : Duration) : Prop :=
  ∀ before, Instant core target before → ∃ fuel, Returns ((runUntilIdle fuel).run before)

section Termination

variable {core : Core}

/-- A drive that returns with some fuel does the same with more. -/
theorem runUntilIdle_more {fuel more : Nat} (hmore : fuel ≤ more)
    (h : Returns ((runUntilIdle fuel).run core)) :
    (runUntilIdle more).run core = (runUntilIdle fuel).run core :=
  runUntilIdle_refuels hmore h.ends

/-- An advance visits finitely many instants, so it returns when its drives do.
    The induction is on the time that is left. -/
theorem advanceLoop_returns (hok : core.fault = none) {start : Core} {target : Duration}
    (hdrives : DrivesReturn start target) (hinstants : ∀ next,
      core.nextDeadline (some target) = some next → Instant start target { core with now := next })
    (remaining : Nat) (hremaining : target ≤ core.now + remaining) :
    ∃ enough, ∀ fuel ≥ enough, ∀ rounds > remaining, ∀ transitions,
      Returns ((advanceLoop fuel target rounds transitions).run core) := by
  induction remaining generalizing core with
  | zero =>
      refine ⟨0, fun fuel _ rounds hrounds transitions => ?_⟩
      obtain ⟨rounds, rfl⟩ := Nat.exists_eq_add_of_le' hrounds
      have hnone : core.nextDeadline (some target) = none := by
        rw [Option.eq_none_iff_forall_ne_some]
        intro next hnext
        obtain ⟨hlater, hlimit, _⟩ := nextDeadline_eq_some hnext
        exact Nat.lt_irrefl _ (lt_of_lt_of_le hlater (le_trans (hlimit target rfl) hremaining))
      unfold advanceLoop
      rw [Exec.run_bind_ok (EStateM.run_get core), hnone]
      trivial
  | succ remaining ih =>
      cases hnext : core.nextDeadline (some target) with
      | none =>
          refine ⟨0, fun fuel _ rounds hrounds transitions => ?_⟩
          obtain ⟨rounds, rfl⟩ := Nat.exists_eq_add_of_le' hrounds
          unfold advanceLoop
          rw [Exec.run_bind_ok (EStateM.run_get core), hnext]
          trivial
      | some next =>
          have hinstant := hinstants next hnext
          obtain ⟨driven, hdriven⟩ := hdrives _ hinstant
          have hproceeds := @runUntilIdle_proceeds _ _ _ { core with now := next } covers_move driven hok
          have hround {fuel rounds transitions : Nat} :
              (advanceLoop fuel target (rounds + 1) transitions).run core =
                (do let drained ← runUntilIdle fuel
                    advanceLoop fuel target rounds (transitions + drained.transitions) :
                      Run Nat).run { core with now := next } := by
            conv => lhs; unfold advanceLoop
            rw [Exec.run_bind_ok (EStateM.run_get core), hnext]
            dsimp only
            rw [Exec.run_bind_ok (EStateM.run_set _ _)]
          cases hrun : (runUntilIdle driven).run { core with now := next } with
          | error stop core' =>
              refine ⟨driven, fun fuel hfuel rounds hrounds transitions => ?_⟩
              obtain ⟨rounds, rfl⟩ := Nat.exists_eq_succ_of_ne_zero (Nat.ne_zero_of_lt hrounds)
              rw [hround,
                run_bind_error ((runUntilIdle_more hfuel hdriven).trans hrun)]
              rw [hrun] at hdriven
              cases stop <;> exact hdriven
          | ok drained core' =>
              rw [hrun] at hproceeds
              obtain ⟨_, hok', hnow, _⟩ := hproceeds
              have hleft : target ≤ core'.now + remaining := by
                have hlater := (nextDeadline_eq_some hnext).1
                have hnow' : core'.now = next := hnow
                calc target ≤ core.now + (remaining + 1) := hremaining
                  _ = core.now + 1 + remaining := by rw [Nat.add_assoc, Nat.add_comm 1]
                  _ ≤ core'.now + remaining := by
                    rw [hnow']
                    exact Nat.add_le_add_right hlater _
              obtain ⟨enough, henough⟩ := ih hok'
                (fun next' hnext' => .next hinstant hrun hnext') hleft
              refine ⟨max driven enough, fun fuel hfuel rounds hrounds transitions => ?_⟩
              obtain ⟨rounds, rfl⟩ := Nat.exists_eq_succ_of_ne_zero (Nat.ne_zero_of_lt hrounds)
              rw [hround, Exec.run_bind_ok
                ((runUntilIdle_more (le_trans (le_max_left _ _) hfuel) hdriven).trans hrun)]
              exact henough fuel (le_trans (le_max_right _ _) hfuel) _ (by omega) _

/-- An advance returns when its immediate drives do. -/
theorem advance_returns (hok : core.fault = none) {duration target : Duration}
    (htarget : Duration.checkedAdd core.now duration = some target)
    (hdrives : DrivesReturn core target) :
    ∃ enough, ∀ fuel ≥ enough, Returns ((advance fuel duration).run core) := by
  obtain ⟨driven, hdriven⟩ := hdrives core .first
  have hproceeds := runUntilIdle_proceeds covers_move driven hok
  cases hrun : (runUntilIdle driven).run core with
  | error stop core₁ =>
      refine ⟨driven, fun fuel hfuel => ?_⟩
      rw [run_advance hok htarget, run_bind_error ((runUntilIdle_more hfuel hdriven).trans hrun)]
      rw [hrun] at hdriven
      cases stop <;> exact hdriven
  | ok drained core₁ =>
      rw [hrun] at hproceeds
      obtain ⟨_, hok₁, hnow₁, hdrove₁⟩ := hproceeds
      have hforward : core₁.now ≤ target := by
        rw [hnow₁, Duration.checkedAdd_eq_some htarget]
        exact Nat.le_add_right _ _
      obtain ⟨enough, henough⟩ := advanceLoop_returns hok₁ hdrives
        (fun next hnext => .next .first hrun hnext) target (Nat.le_add_left _ _)
      refine ⟨max (driven + 1) (max enough (target + 1)), fun fuel hfuel => ?_⟩
      have hdrive := (@runUntilIdle_more _ core driven fuel (by omega) hdriven).trans hrun
      have hloop := henough fuel (by omega) fuel (by omega) drained.transitions
      have hproceeds₂ := advanceLoop_proceeds covers_move fuel target fuel drained.transitions hok₁
        hdrove₁.idle hforward
      rw [run_advance hok htarget, Exec.run_bind_ok hdrive]
      unfold finishAdvance
      cases hrun₂ : (advanceLoop fuel target fuel drained.transitions).run core₁ with
      | error stop core₂ =>
          rw [hrun₂] at hloop
          rw [run_bind_error hrun₂]
          cases stop <;> exact hloop
      | ok counted core₂ =>
          rw [hrun₂] at hproceeds₂
          obtain ⟨_, hok₂, hdrained₂, _, hnone⟩ := hproceeds₂
          have hok' : ({ core₂ with now := target } : Core).fault = none := hok₂
          have hidle : ({ core₂ with now := target } : Core).nextDue = none := by
            refine nextDue_eq_none.mpr ?_
            exact fun work hwork => nextDeadline_eq_none hnone work hwork
              (nextDue_eq_none.mp hdrained₂.idle work hwork)
          rw [Exec.run_bind_ok hrun₂, Exec.run_bind_ok (EStateM.run_modify _ _),
            Exec.run_bind_ok (run_runUntilIdle hok' hidle (by omega)), run_report]
          trivial

end Termination

theorem splits_of_returns {core : Core} (htyped : Typed core) {fuel : Nat}
    {first second : Duration} (hmax : core.now + first + second ≤ Duration.max)
    (hreturns : Returns ((advance fuel (first + second)).run core)) :
    Splits fuel core first second := by
  have hfaulted {core : Core} {error : RuntimeError} (hfault : core.fault = some error)
      (duration : Duration) :
      (advance fuel duration).run core = .error (.error error) core := by
    unfold advance ensureNotFaulted
    simp only [bind_assoc]
    rw [Exec.run_bind_ok (EStateM.run_get core), hfault]
    rfl
  have hstopped {core core₁ : Core} {error : RuntimeError} (hfault : core₁.fault = some error)
      (hfirst : (advance fuel first).run core = .error (.error error) core₁)
      (hwhole : (advance fuel (first + second)).run core = .error (.error error) core₁) :
      Splits fuel core first second := by
    constructor
    · rw [hfirst, hwhole, Exec.final_error, hfaulted hfault]
      exact ⟨trivial, trivial, trivial⟩
    · rw [hfirst, hwhole, Exec.final_error, hfaulted hfault]
      rfl
    · intro report core₂ report' core₃ hreport _
      rw [hfirst] at hreport
      cases hreport
    · rintro error' core₂ core₃ hsecond rfl
      rw [hfirst, Exec.final_error, hfaulted hfault] at hsecond
      cases hsecond
      exact hwhole
  cases hfault : core.fault with
  | some error => exact hstopped hfault (hfaulted hfault first) (hfaulted hfault _)
  | none =>
      rcases advance_halves hfault htyped hmax hreturns with
        ⟨report, core₁, hfirst, hwhole⟩ | ⟨error, core₁, hfault₁, hfirst, hwhole⟩
      · rw [hwhole] at hreturns
        have hsecond := returns_counting hreturns
        constructor
        · rw [hfirst, hwhole, Exec.final_ok]
          exact ⟨trivial, hsecond, hreturns⟩
        · rw [hfirst, hwhole, Exec.final_ok]
          cases (advance fuel second).run core₁ <;> rfl
        · intro report' core₂ report'' core₃ hreport hreport'
          rw [hfirst] at hreport
          cases hreport
          rw [hwhole, hreport']
          rfl
        · rintro error core₂ core₃ hreport rfl
          rw [hfirst, Exec.final_ok] at hreport
          rw [hwhole, hreport]
          rfl
      · exact hstopped hfault₁ hfirst hwhole

/-! ## Deadlines -/

/-- Every instant of a run is a `Duration`. -/
structure Punctual (core : Core) : Prop where
  now : core.now ≤ Duration.max
  deadlines : ∀ work ∈ core.scheduled, work.deadline ≤ Duration.max

/-- Work is scheduled for the current instant, unless a timer is armed. -/
theorem Action.deadline {phase : Phase} {core core' : Core} (h : Action core phase core')
    {work : ScheduledWork} (hwork : work ∈ core'.scheduled) :
    work ∈ core.scheduled ∨ work.deadline = core.now ∨ work.deadline ≤ Duration.max := by
  have hadded {base : Core} {kind : ScheduledKind} {deadline : Duration}
      (hbase : base.scheduled = core.scheduled)
      (hdeadline : deadline = core.now ∨ deadline ≤ Duration.max)
      (hmem : work ∈ (base.scheduledAt deadline kind).scheduled) :
      work ∈ core.scheduled ∨ work.deadline = core.now ∨ work.deadline ≤ Duration.max := by
    rcases List.mem_append.mp hmem with hold | hnew
    · exact Or.inl (hbase ▸ hold)
    · rw [List.mem_singleton.mp hnew]
      exact Or.inr hdeadline
  have hpopped {popped : ScheduledWork} (hmem : work ∈ (core.popped popped).scheduled) :
      work ∈ core.scheduled ∨ work.deadline = core.now ∨ work.deadline ≤ Duration.max :=
    Or.inl (List.mem_of_mem_eraseP hmem)
  have hmapped (source : ActiveSource) (cause : TraceId)
      (mapped : List (SourceEventKind × ErasedValue)) (base : Core) (hnow : base.now = core.now)
      (hbase : ∀ work ∈ base.scheduled, work ∈ core.scheduled ∨ work.deadline = core.now)
      (hmem : work ∈ (mapped.foldl (Core.withMappedEvent · source cause) base).scheduled) :
      work ∈ core.scheduled ∨ work.deadline = core.now ∨ work.deadline ≤ Duration.max := by
    induction mapped generalizing base with
    | nil => exact (hbase work hmem).imp_right Or.inl
    | cons event mapped ih =>
        refine ih (base.withMappedEvent source cause event) hnow ?_ hmem
        intro other hother
        rcases List.mem_append.mp hother with hold | hnew
        · exact hbase other hold
        · rw [List.mem_singleton.mp hnew]
          exact Or.inr hnow
  cases h with
  | sendDeclared => exact hadded (by simp) (Or.inl (by simp)) hwork
  | notifyDeclared => exact hadded (by simp) (Or.inl (by simp)) hwork
  | requestDeclared => exact hadded (by simp) (Or.inl (by simp)) hwork
  | replyDeclared => exact hadded (by simp) (Or.inl (by simp)) hwork
  | timerDeclared component cause delay deadline value _ hdeadline =>
      exact hadded rfl (Or.inr (Duration.checkedAdd_le_max hdeadline)) hwork
  | messageInput => exact hadded (by simp) (Or.inl (by simp)) hwork
  | sourceInput => exact hadded (by simp) (Or.inl (by simp)) hwork
  | effectMapped => exact hadded (by simp) (Or.inl (by simp)) hwork
  | sourceEventStale => exact hpopped hwork
  | messageStale => exact hpopped hwork
  | sourceEventMapped popped event source plan outer mapped =>
      refine hmapped source event.cause mapped _ (by simp [Core.withRunning, Core.withPlan]) ?_ hwork
      exact fun other hother => Or.inl (by
        simp only [Core.withRunning, Core.withEmission, Core.withPlan, Core.withSource_scheduled,
          Core.observed_scheduled, Core.popped_scheduled] at hother
        exact List.mem_of_mem_eraseP hother)
  | messageDelivered => exact hpopped (by simpa using hwork)
  | deliveryFaulted => exact hpopped (by simpa using hwork)
  | deliveryMismatched => exact hpopped (by simpa using hwork)
  | _ => exact Or.inl hwork

namespace Punctual

variable {core core' : Core}

theorem fresh (program : Program) (bindings : Bindings) :
    Punctual (Core.fresh program bindings) :=
  ⟨Nat.zero_le _, fun _ hwork => absurd hwork List.not_mem_nil⟩

theorem move (h : Punctual core) (hmove : Move core core') : Punctual core' := by
  rcases hmove with ⟨_, ⟨phase, haction⟩ | ⟨time, _, _, hlimit⟩⟩
  · refine ⟨haction.now_eq ▸ h.now, fun work hwork => ?_⟩
    rcases haction.deadline hwork with hold | hnow | hmax
    · exact h.deadlines work hold
    · exact hnow ▸ h.now
    · exact hmax
  · refine ⟨?_, h.deadlines⟩
    rcases hlimit with hmax | ⟨work, hwork, rfl⟩
    · exact hmax
    · exact h.deadlines work hwork

theorem path (h : Punctual core) (hpath : ReflTransGen Move core core') : Punctual core' :=
  @Exec.path_preserves _ Move Punctual (fun _ _ hpunctual hmove => hpunctual.move hmove) _ _
    hpath h

end Punctual

/-- `advance_to_next` is an advance by the time that is left until the least
    future deadline. -/
theorem run_advanceToNext {core idle : Core} (hok : core.fault = none) (hpunctual : Punctual core)
    {fuel : Nat} (hfuel : 2 ≤ fuel) {first : RunReport} {next : Duration}
    (hdrive : (runUntilIdle fuel).run core = .ok first idle)
    (hnext : idle.nextDeadline none = some next) :
    (advanceToNext fuel).run core = (advance fuel (next - core.now)).run core := by
  have hproceeds := runUntilIdle_proceeds covers_move fuel hok
  rw [hdrive] at hproceeds
  obtain ⟨hpath, hok₁, hnow, hdrove⟩ := hproceeds
  obtain ⟨hlater, _, ⟨work, hwork, hdeadline⟩, hleast⟩ := nextDeadline_eq_some hnext
  have hnow' : core.now ≤ next := by
    rw [← hnow]
    exact le_of_lt hlater
  have hmax : next ≤ Duration.max := by
    rw [← hdeadline]
    exact (hpunctual.path hpath).deadlines work hwork
  have htarget : Duration.checkedAdd core.now (next - core.now) = some next := by
    rw [Duration.checkedAdd_of_le (by rw [Nat.add_sub_cancel' hnow']; exact hmax),
      Nat.add_sub_cancel' hnow']
  have hlimited : idle.nextDeadline (some next) = some next := by
    refine nextDeadline_some_iff.mpr ⟨⟨work, hwork, hdeadline⟩, hlater, ?_, ?_⟩
    · rintro _ ⟨⟩
      exact Nat.le_refl _
    · intro other hother hfuture _
      exact hleast other hother hfuture (by simp)
  obtain ⟨rounds, rfl⟩ := Nat.exists_eq_add_of_le' hfuel
  rw [run_advance hok htarget, Exec.run_bind_ok hdrive]
  unfold advanceToNext
  rw [Exec.run_bind_ok (run_ensureNotFaulted hok), Exec.run_bind_ok hdrive,
    Exec.run_bind_ok (EStateM.run_get idle), hnext]
  dsimp only
  rw [Exec.run_bind_ok (EStateM.run_set _ _)]
  unfold finishAdvance
  conv => rhs; unfold advanceLoop
  simp only [bind_assoc]
  rw [Exec.run_bind_ok (EStateM.run_get idle), hlimited]
  simp only [bind_assoc]
  rw [Exec.run_bind_ok (EStateM.run_set _ _), EStateM.run_bind, EStateM.run_bind]
  have hok' : ({ idle with now := next } : Core).fault = none := hok₁
  have hproceeds₂ := runUntilIdle_proceeds covers_move (rounds + 2) hok'
  cases hrun : (runUntilIdle (rounds + 2)).run { idle with now := next } with
  | error stop core₂ => rfl
  | ok last core₂ =>
      rw [hrun] at hproceeds₂
      obtain ⟨_, hok₂, hnow₂, hdrove₂⟩ := hproceeds₂
      -- No instant is left before the target, which is the current one.
      have hnone : core₂.nextDeadline (some next) = none := by
        rw [Option.eq_none_iff_forall_ne_some]
        intro later hlaterDeadline
        obtain ⟨hafter, hbound, _⟩ := nextDeadline_eq_some hlaterDeadline
        rw [hnow₂] at hafter
        exact Nat.lt_irrefl _ (lt_of_lt_of_le hafter (hbound next rfl))
      have hsame : ({ core₂ with now := next } : Core) = core₂ := by
        have hnow₂' : core₂.now = next := hnow₂
        rw [← hnow₂']
      dsimp only
      unfold advanceLoop
      simp only [bind_assoc]
      rw [Exec.run_bind_ok (EStateM.run_get core₂), hnone]
      simp only [pure_bind]
      rw [Exec.run_bind_ok (EStateM.run_modify _ _), hsame,
        Exec.run_bind_ok (run_runUntilIdle hok₂ hdrove₂.idle (by omega)), run_report, run_report]
      rfl

/-- Logical time can be split anywhere: in every state of every run, advancing
    twice is advancing by the sum, and advancing to the next deadline is
    advancing by the time that is left until it. -/
theorem time_splits {start core : Core} (hstart : Launched start) (h : Reachable start core) :
    (∀ first second, core.now + first + second ≤ Duration.max →
      DrivesReturn core (core.now + first + second) →
        ∃ enough, ∀ fuel ≥ enough, Splits fuel core first second) ∧
    ∀ fuel ≥ 2, ∀ report idle next, (runUntilIdle fuel).run core = .ok report idle →
      idle.nextDeadline none = some next →
        (advanceToNext fuel).run core = (advance fuel (next - core.now)).run core := by
  obtain ⟨program, bindings, hlaunch⟩ := hstart.path
  have hpath := hlaunch.trans h.path
  have htyped := (Typed.fresh program bindings).path hpath
  refine ⟨?_, ?_⟩
  · intro first second hmax hdrives
    have hreturns : ∃ enough, ∀ fuel ≥ enough,
        Returns ((advance fuel (first + second)).run core) := by
      cases hfault : core.fault with
      | none =>
          refine advance_returns hfault ?_ hdrives
          rw [Duration.checkedAdd_of_le (by rw [← Nat.add_assoc]; exact hmax), Nat.add_assoc]
      | some error =>
          refine ⟨0, fun fuel _ => ?_⟩
          unfold advance ensureNotFaulted
          simp only [bind_assoc]
          rw [Exec.run_bind_ok (EStateM.run_get core), hfault]
          trivial
    obtain ⟨enough, henough⟩ := hreturns
    exact ⟨enough, fun fuel hfuel => splits_of_returns htyped hmax (henough fuel hfuel)⟩
  · intro fuel hfuel report idle next hdrive hnext
    cases hfault : core.fault with
    | none =>
        exact run_advanceToNext hfault ((Punctual.fresh program bindings).path hpath) hfuel hdrive
          hnext
    | some error =>
        unfold runUntilIdle ensureNotFaulted at hdrive
        simp only [bind_assoc] at hdrive
        rw [Exec.run_bind_ok (EStateM.run_get core), hfault] at hdrive
        cases hdrive

end Controlled

end Samara

namespace Samara.Controlled

attribute [local instance] Sample.types

/-- What a drive that returns leaves does not depend on its fuel. -/
theorem runUntilIdle_unique {core after after' : Core} {fuel fuel' : Nat}
    {report report' : RunReport} (h : (runUntilIdle fuel).run core = .ok report after)
    (h' : (runUntilIdle fuel').run core = .ok report' after') : after = after' := by
  have hmore := @runUntilIdle_more _ core fuel (max fuel fuel') (le_max_left _ _) (by rw [h]; trivial)
  have hmore' := @runUntilIdle_more _ core fuel' (max fuel fuel') (le_max_right _ _)
    (by rw [h']; trivial)
  rw [hmore, h, h'] at hmore'
  cases hmore'
  rfl

theorem exists_ok {α : Type} {result : EStateM.Result Stop Core α}
    (h : (match result with
      | .ok _ _ => true
      | .error _ _ => false) = true) : ∃ value, result = .ok value (Exec.final result) := by
  cases result with
  | ok value core => exact ⟨value, rfl⟩
  | error stop core => cases h

/-- The desk when its first instant is drained. -/
def deskDrained : Core := Exec.final ((runUntilIdle 20).run deskCore)

/-- The desk at the deadline of its timer. -/
def deskDue : Core := { deskDrained with now := 5 }

/-- The desk when its timer has fired. -/
def deskFired : Core := Exec.final ((runUntilIdle 20).run deskDue)

theorem deskCore_drive : ∃ report, (runUntilIdle 20).run deskCore = .ok report deskDrained :=
  exists_ok (by decide +kernel)

theorem deskDue_drive : ∃ report, (runUntilIdle 20).run deskDue = .ok report deskFired :=
  exists_ok (by decide +kernel)

theorem deskDrained_nextDeadline : deskDrained.nextDeadline (some 5) = some 5 := by decide +kernel

theorem deskFired_nextDeadline : deskFired.nextDeadline (some 5) = none := by decide +kernel

theorem desk_instants {before : Core} (h : Instant deskCore 5 before) :
    before = deskCore ∨ before = deskDue := by
  obtain ⟨drained, hdrained⟩ := deskCore_drive
  obtain ⟨fired, hfired⟩ := deskDue_drive
  induction h with
  | first => exact Or.inl rfl
  | @next before after fuel report next _ hdrive hnext ih =>
      rcases ih with heq | heq
      · rw [heq] at hdrive
        rw [runUntilIdle_unique hdrive hdrained] at hnext ⊢
        rw [deskDrained_nextDeadline] at hnext
        rw [← Option.some.inj hnext, deskDue]
        exact Or.inr rfl
      · rw [heq] at hdrive
        rw [runUntilIdle_unique hdrive hfired, deskFired_nextDeadline] at hnext
        cases hnext

theorem desk_drivesReturn : DrivesReturn deskCore 5 := by
  obtain ⟨drained, hdrained⟩ := deskCore_drive
  obtain ⟨fired, hfired⟩ := deskDue_drive
  intro before h
  refine ⟨20, ?_⟩
  rcases desk_instants h with heq | heq
  · rw [heq, hdrained]
    trivial
  · rw [heq, hfired]
    trivial

theorem time_splits_desk :
    (∃ enough, ∀ fuel ≥ enough, Splits fuel deskCore 3 2) ∧
      (advanceToNext 20).run deskCore = (advance 20 (5 - deskCore.now)).run deskCore := by
  have hsplits := time_splits (launched_of_assemble deskBuilder_assembled (Option.some_get _).symm)
    (.refl : Reachable deskCore deskCore)
  refine ⟨hsplits.1 3 2 (by decide +kernel) desk_drivesReturn, ?_⟩
  obtain ⟨report, hrun⟩ := deskCore_drive
  exact hsplits.2 20 (by decide) report deskDrained 5 hrun (by decide +kernel)

end Samara.Controlled
