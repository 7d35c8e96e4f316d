/-
  Samara.Controlled.Rejection

  What an operation leaves that returns an error in a run without a fault.

  The harness inputs check everything before they touch the runtime, and a
  drive fails with nothing but a fault, so an error comes from the state of the
  call.  `advance_to_next` alone finds out that it must fail after it has
  drained the current instant: only then is it known what will be armed.
-/
import Samara.Controlled.Time

namespace Samara

open Relation (ReflTransGen)

variable [RustTypes]

namespace Controlled

/-- Whoever returns an error without a fault has done nothing. -/
def Rejects {α : Type} (core : Core) : EStateM.Result Stop Core α → Prop
  | .error (.error _) core' => core'.fault = none → core' = core
  | _ => True

section Operations

variable {core : Core}

theorem rejects_failHarness {α : Type} (reason : String) :
    Rejects core ((failHarness reason : Run α).run core) := fun _ => rfl

/-- A returned value is put into a `Returned`. -/
theorem rejects_returned {α : Type} {x : Run α} {f : α → Returned} (h : Rejects core (x.run core)) :
    Rejects core ((do let value ← x; pure (f value) : Run Returned).run core) := by
  rw [EStateM.run_bind]
  cases hrun : x.run core with
  | ok value core' => trivial
  | error stop core' =>
      rw [hrun] at h
      cases stop <;> exact h

theorem rejects_of_faithful {α : Type} {result : EStateM.Result Stop Core α} (h : Faithful result) :
    Rejects core result := by
  cases result with
  | ok value core' => trivial
  | error stop core' =>
      cases stop with
      | error error =>
          intro hok
          rw [show core'.fault = some error from h] at hok
          cases hok
      | panicked panic => trivial
      | outOfFuel => trivial

/-! ## Inputs -/

theorem rejects_send (hok : core.fault = none) {component : TypeId}
    (target : ComponentRef component) (message : Val (RustTypes.componentMessage component)) :
    Rejects core ((send target message).run core) := by
  unfold send
  rw [Exec.run_bind_ok (run_ensureNotFaulted hok), Exec.run_bind_ok (EStateM.run_get core)]
  dsimp only
  split
  · exact rejects_failHarness _
  · trivial

theorem rejects_enqueueSourceEvent (source : ActiveSource) (terminalType : DescriptorType TypeId)
    (event : ErasedSourceEvent) :
    Rejects core ((enqueueSourceEvent source terminalType event).run core) := by
  unfold enqueueSourceEvent
  split
  · exact rejects_failHarness _
  · trivial

theorem rejects_emitStream (hok : core.fault = none) (streamItem : TypeId)
    (stream : CapabilityToken) (item : Val streamItem) :
    Rejects core ((emitStream streamItem stream item).run core) := by
  unfold emitStream
  rw [Exec.run_bind_ok (run_ensureNotFaulted hok), Exec.run_bind_ok (EStateM.run_get core)]
  split
  · exact rejects_failHarness _
  · split
    · exact rejects_failHarness _
    · split
      · exact rejects_enqueueSourceEvent _ _ _
      · exact rejects_failHarness _

theorem rejects_closeStream (hok : core.fault = none) (stream : CapabilityToken) :
    Rejects core ((closeStream stream).run core) := by
  unfold closeStream
  rw [Exec.run_bind_ok (run_ensureNotFaulted hok), Exec.run_bind_ok (EStateM.run_get core)]
  split
  · exact rejects_failHarness _
  · split
    · exact rejects_failHarness _
    · split
      · exact rejects_enqueueSourceEvent _ _ _
      · exact rejects_failHarness _

theorem rejects_emitSource (hok : core.fault = none) {component : TypeId}
    (target : ComponentRef component) (id : SubscriptionId)
    (descriptorType : DescriptorType TypeId)
    (event : SourceEvent (Val descriptorType.item) descriptorType.error.Val) :
    Rejects core ((emitSource target id descriptorType event).run core) := by
  unfold emitSource
  rw [Exec.run_bind_ok (run_ensureNotFaulted hok), Exec.run_bind_ok (EStateM.run_get core)]
  split
  · exact rejects_failHarness _
  · split
    · exact rejects_failHarness _
    · exact rejects_enqueueSourceEvent _ _ _

theorem rejects_nextEffect (hok : core.fault = none) (effectType : TypeId) :
    Rejects core ((nextEffect effectType).run core) := by
  unfold nextEffect
  rw [Exec.run_bind_ok (run_ensureNotFaulted hok), Exec.run_bind_ok (EStateM.run_get core)]
  cases core.effects.find? (PendingEffectEntry.isClaimable effectType) with
  | none => exact rejects_failHarness _
  | some entry =>
      dsimp only
      rw [Exec.run_bind_ok (EStateM.run_set _ _)]
      -- An entry without its intent is a panic, not an error.
      cases entry.descriptor.bind (·.downcast effectType) <;> trivial

theorem rejects_complete (hok : core.fault = none) {effectType : TypeId}
    (pending : PendingEffect effectType)
    (outcome : EffectOutcome (Val (RustTypes.effectOutput effectType))
      (Val (RustTypes.effectError effectType))) :
    Rejects core ((complete pending outcome).run core) := by
  unfold complete
  rw [Exec.run_bind_ok (run_ensureNotFaulted hok), Exec.run_bind_ok (EStateM.run_get core)]
  split
  · exact rejects_failHarness _
  · cases core.effects.find? (PendingEffectEntry.isPending effectType pending.id) with
    | none => exact rejects_failHarness _
    | some entry =>
        dsimp only
        rw [Exec.run_bind_ok (EStateM.run_set _ core), Exec.run_bind_ok (run_pushRoot _ _)]
        cases entry.mapper with
        | none => trivial
        | some mapper =>
            dsimp only
            rw [EStateM.run_bind]
            cases mapper ⟨_, _, outcome⟩ <;> trivial

/-! ## Drives -/

/-- A drive that goes on from what another has left. -/
theorem faithful_proceeds_bind {α β : Type} {x : Run α} {f : α → Run β} {Q : α → Core → Prop}
    (htyped : Typed core) (hfollows : Proceeds Move Interrupted core (x.run core) Q)
    (hx : Faithful (x.run core))
    (hf : ∀ value core', core'.fault = none → Typed core' → Q value core' →
      Faithful ((f value).run core')) : Faithful ((x >>= f).run core) := by
  rw [EStateM.run_bind]
  cases hrun : x.run core with
  | ok value core' =>
      rw [hrun] at hx hfollows
      obtain ⟨hpath, _, hvalue⟩ := hfollows
      exact hf value core' hx (htyped.path hpath) hvalue
  | error stop core' =>
      rw [hrun] at hx
      cases stop <;> exact hx

/-- An advance has checked the range of `Duration` before it drives anything. -/
theorem rejects_advance (hok : core.fault = none) (htyped : Typed core) (fuel : Nat)
    (duration : Duration) : Rejects core ((advance fuel duration).run core) := by
  unfold advance
  rw [Exec.run_bind_ok (run_ensureNotFaulted hok), Exec.run_bind_ok (EStateM.run_get core)]
  cases htarget : Duration.checkedAdd core.now duration with
  | none => exact rejects_failHarness _
  | some target =>
      have hforward : core.now ≤ target := by
        rw [Duration.checkedAdd_eq_some htarget]
        exact Nat.le_add_right _ _
      refine rejects_of_faithful ?_
      refine faithful_proceeds_bind htyped (runUntilIdle_proceeds covers_move fuel hok)
        (faithful_runUntilIdle hok htyped fuel) ?_
      intro first core₁ hok₁ htyped₁ hfirst
      obtain ⟨hnow₁, hdrove₁⟩ := hfirst
      refine faithful_proceeds_bind htyped₁ (advanceLoop_proceeds covers_move fuel target fuel
        first.transitions hok₁ hdrove₁.idle (hnow₁ ▸ hforward))
          (faithful_advanceLoop hok₁ htyped₁ fuel target fuel first.transitions) ?_
      intro transitions core₂ hok₂ htyped₂ _
      rw [Exec.run_bind_ok (EStateM.run_modify _ _)]
      have hlast := @faithful_runUntilIdle _ { core₂ with now := target } hok₂ (htyped₂.at target) fuel
      exact faithful_bind hlast fun _ _ hok₃ => hok₃

/-- Advancing to the next deadline fails without a fault once the current
    instant is drained and nothing at all is scheduled. -/
theorem advanceToNext_rejected (hok : core.fault = none) (htyped : Typed core) {fuel : Nat}
    {error : RuntimeError} {core' : Core}
    (h : (advanceToNext fuel).run core = .error (.error error) core') (hok' : core'.fault = none) :
    ∃ report, (runUntilIdle fuel).run core = .ok report core' ∧ core'.scheduled = [] := by
  have hfirst := faithful_runUntilIdle hok htyped fuel
  have hproceeds := runUntilIdle_proceeds covers_move fuel hok
  unfold advanceToNext at h
  rw [Exec.run_bind_ok (run_ensureNotFaulted hok), EStateM.run_bind] at h
  cases hrun : (runUntilIdle fuel).run core with
  | error stop core₁ =>
      rw [hrun] at h hfirst
      cases h
      rw [show core'.fault = some error from hfirst] at hok'
      cases hok'
  | ok first core₁ =>
      rw [hrun] at h hfirst hproceeds
      obtain ⟨hpath, _, _, hdrove⟩ := hproceeds
      dsimp only at h
      rw [Exec.run_bind_ok (EStateM.run_get core₁)] at h
      cases hnext : core₁.nextDeadline none with
      | none =>
          rw [hnext] at h
          cases h
          refine ⟨first, rfl, ?_⟩
          unfold Core.nextDeadline at hnext
          rw [List.min?_eq_none_iff, List.map_eq_nil_iff, List.filter_eq_nil_iff] at hnext
          refine List.eq_nil_iff_forall_not_mem.mpr ?_
          intro work hwork
          have hlater := nextDue_eq_none.mp hdrove.idle work hwork
          exact hnext work hwork (by simpa using hlater)
      | some next =>
          rw [hnext] at h
          dsimp only at h
          rw [Exec.run_bind_ok (EStateM.run_set _ _)] at h
          have hlast := @faithful_runUntilIdle _ { core₁ with now := next } hfirst
            ((htyped.path hpath).at next) fuel
          have hreport := @faithful_bind _ _ _ _ _
            (fun last : RunReport => report (first.transitions + last.transitions)) hlast
              fun _ _ hok₂ => hok₂
          rw [h] at hreport
          rw [show core'.fault = some error from hreport] at hok'
          cases hok'

end Operations

/-- An error without a fault leaves everything as it was.  The one exception is
    `advance_to_next` with work that is due: it leaves what `run_until_idle`
    would have left, with nothing scheduled any more. -/
theorem errors_change_nothing {start core : Core} (hstart : Launched start)
    (h : Reachable start core) (operation : Operation) {error : RuntimeError} {core' : Core}
    (hrun : (perform operation).run core = .error (.error error) core')
    (hok' : core'.fault = none) :
    core' = core ∨ ∃ fuel report, operation = .advanceToNext fuel ∧ core.nextDue ≠ none ∧
      (runUntilIdle fuel).run core = .ok report core' ∧ core'.scheduled = [] := by
  obtain ⟨program, bindings, hlaunch⟩ := hstart.path
  have htyped := (Typed.fresh program bindings).path (hlaunch.trans h.path)
  cases hok : core.fault with
  | some fault =>
      rw [perform_faulted hok] at hrun
      cases hrun
      rw [hok] at hok'
      cases hok'
  | none =>
      have hrejects (hrejects : Rejects core ((perform operation).run core)) : core' = core := by
        rw [hrun] at hrejects
        exact hrejects hok'
      cases operation with
      | send target message => exact .inl (hrejects (rejects_returned (rejects_send hok _ _)))
      | emitStream streamItem stream item =>
          exact .inl (hrejects (rejects_returned (rejects_emitStream hok _ _ _)))
      | closeStream stream => exact .inl (hrejects (rejects_returned (rejects_closeStream hok _)))
      | emitSource target id descriptorType event =>
          exact .inl (hrejects (rejects_returned (rejects_emitSource hok _ _ _ _)))
      | nextEffect effectType =>
          exact .inl (hrejects (rejects_returned (rejects_nextEffect hok _)))
      | complete pending outcome =>
          exact .inl (hrejects (rejects_returned (rejects_complete hok _ _)))
      | runUntilIdle fuel =>
          exact .inl (hrejects (rejects_returned (rejects_of_faithful
            (faithful_runUntilIdle hok htyped fuel))))
      | advance fuel duration =>
          exact .inl (hrejects (rejects_returned (rejects_advance hok htyped fuel duration)))
      | advanceToNext fuel =>
          have hadvance : (advanceToNext fuel).run core = .error (.error error) core' := by
            unfold perform at hrun
            rw [EStateM.run_bind] at hrun
            cases hnext : (advanceToNext fuel).run core with
            | ok report core₁ =>
                rw [hnext] at hrun
                cases hrun
            | error stop core₁ =>
                rw [hnext] at hrun
                cases hrun
                rfl
          obtain ⟨report, hdrive, hempty⟩ := advanceToNext_rejected hok htyped hadvance hok'
          by_cases hdue : core.nextDue = none
          · left
            cases fuel with
            | zero =>
                unfold runUntilIdle at hdrive
                rw [Exec.run_bind_ok (run_ensureNotFaulted hok)] at hdrive
                cases hdrive
            | succ fuel =>
                rw [run_runUntilIdle hok hdue (Nat.succ_pos fuel)] at hdrive
                cases hdrive
                rfl
          · exact .inr ⟨fuel, report, rfl, hdue, hdrive, hempty⟩

end Controlled

end Samara

namespace Samara.Controlled

attribute [local instance] Sample.types

/-- A Component that takes Messages and asks for nothing. -/
def listener : Component () where
  init := ((0 : Nat), .none)
  update := fun (model : Nat) _ => (model + 1, .ok .none)
  subscriptions _ := .ok []

def listenerBuilder : ProgramBuilder := (ProgramBuilder.new ⟨7⟩).component ⟨"listener"⟩ listener

def listenerCore : Core := (assemble listenerBuilder ⟨[], [], []⟩).get rfl

/-- A Message is due, and nothing is armed. -/
def listenerDue : Core :=
  Exec.final ((perform (.send (⟨⟨"listener"⟩, ⟨7⟩⟩ : ComponentRef ()) (.plain 1))).run listenerCore)

/-- What is left when advancing to the next deadline has failed. -/
def listenerLeft : Core := Exec.final ((perform (.advanceToNext 3)).run listenerDue)

theorem listener_launched : Launched listenerCore :=
  launched_of_assemble (.component _ _ (.new ⟨7⟩)) (Option.some_get _).symm

theorem listener_reachable : Reachable listenerCore listenerDue :=
  .operation _ .refl trivial

/-- The call has failed, and the Message is delivered. -/
theorem advance_to_next_drains : ∃ start core core' : Core, Launched start ∧ Reachable start core ∧
    (perform (.advanceToNext 3)).run core =
      .error (.error (.harness "no future controlled work exists")) core' ∧
    core'.fault = none ∧ core'.trace.length ≠ core.trace.length :=
  ⟨listenerCore, listenerDue, listenerLeft, listener_launched, listener_reachable, rfl, rfl,
    by decide +kernel⟩

theorem errors_change_nothing_listener : listenerLeft = listenerDue ∨ ∃ fuel report,
    Operation.advanceToNext 3 = .advanceToNext fuel ∧ listenerDue.nextDue ≠ none ∧
      (runUntilIdle fuel).run listenerDue = .ok report listenerLeft ∧ listenerLeft.scheduled = [] :=
  @errors_change_nothing _ _ _ listener_launched listener_reachable (.advanceToNext 3)
    (.harness "no future controlled work exists") _ rfl rfl

end Samara.Controlled
