/-
  Samara.Controlled.Harness

  The public face of the controlled profile: assembly of a runtime from a
  built Program (`ControlledRuntimeBuilder`), and the runs a harness can make
  of it, one operation after another.
-/
import Samara.Assembly
import Samara.Controlled.Runtime

namespace Samara

variable [RustTypes]

namespace Controlled

/-! ## Assembly -/

namespace Bindings

/-- The checks of `validate` on one exact binding, given the ones after it. -/
def validateExact (bindings : Bindings) (program : Program) (capability : CapabilityToken)
    (others : List CapabilityToken) : Except RuntimeError Unit :=
  if !capability.belongsTo program.program then
    .error (.harness "exact controlled Source binding uses a capability from another Program")
  else
    match program.sourceRequirement capability with
    | none =>
        .error (.harness "exact controlled Source binding has no declared Program capability")
    | some requirement =>
        if requirement.terminalStreamItemType.isNone then
          .error (.harness
            ("exact controlled stream binding requires a StreamDescriptor terminal, but " ++
              requirement.descriptorTypeName ++ " lowers to " ++ requirement.terminalTypeName))
        else if others.any (·.sameAs capability) then
          .error (.harness "duplicate exact controlled Source binding")
        else if requirement.terminalType ∈ bindings.sources then
          .error (.harness ("ambiguous exact and type-wide controlled Source bindings for " ++
            requirement.terminalTypeName))
        else .ok ()

def validateExacts (bindings : Bindings) (program : Program) :
    List CapabilityToken → Except RuntimeError Unit
  | [] => .ok ()
  | capability :: others => do
      bindings.validateExact program capability others
      validateExacts bindings program others

def validateEffects (bindings : Bindings) : List EffectRequirement → Except RuntimeError Unit
  | [] => .ok ()
  | requirement :: requirements =>
      if requirement.descriptorType ∈ bindings.effects then
        validateEffects bindings requirements
      else .error (.harness ("declared Effect capability for " ++
        requirement.descriptorTypeName ++ " has no controlled behavior"))

def validateSources (bindings : Bindings) : List SourceRequirement → Except RuntimeError Unit
  | [] => .ok ()
  | requirement :: requirements =>
      if requirement.terminalType ∈ bindings.sources ||
          bindings.exactSources.any (·.sameAs requirement.token) then
        validateSources bindings requirements
      else .error (.harness ("declared Source capability for " ++
        requirement.descriptorTypeName ++ " (terminal " ++ requirement.terminalTypeName ++
        ") has no controlled behavior"))

/-- `ControlledBindings::validate`. -/
def validate (bindings : Bindings) (program : Program) : Except RuntimeError Unit := do
  bindings.validateExacts program bindings.exactSources
  bindings.validateEffects program.effectRequirements
  bindings.validateSources program.sourceRequirements

end Bindings

/-- The loop of `build` over the Components' initial declarations. -/
def validateComponents (program : Program) : List ErasedComponentKernel → Except Stop Unit
  | [] => .ok ()
  | component :: components => do
      component.validateInitialCapabilities program
      validateComponents program components

/-- `ControlledRuntimeBuilder::build`. -/
def launch (program : Program) (bindings : Bindings) : Except Stop Core := do
  match bindings.validate program with
  | .error error => throw (.error error)
  | .ok () => pure ()
  validateComponents program program.components
  Core.new program bindings

/-! ## Runs -/

/-- A call of one of the operations of `ControlledRuntime`. -/
inductive Operation where
  | send {component : TypeId} (target : ComponentRef component)
      (message : Val (RustTypes.componentMessage component))
  | emitStream (streamItem : TypeId) (stream : CapabilityToken) (item : Val streamItem)
  | closeStream (stream : CapabilityToken)
  | emitSource {component : TypeId} (target : ComponentRef component) (id : SubscriptionId)
      (descriptorType : DescriptorType TypeId)
      (event : SourceEvent (Val descriptorType.item) descriptorType.error.Val)
  | nextEffect (effectType : TypeId)
  | complete {effectType : TypeId} (pending : PendingEffect effectType)
      (outcome : EffectOutcome (Val (RustTypes.effectOutput effectType))
        (Val (RustTypes.effectError effectType)))
  | runUntilIdle (fuel : Nat)
  | advance (fuel : Nat) (duration : Duration)
  | advanceToNext (fuel : Nat)

/-- The value an operation returns. -/
inductive Returned where
  | accepted
  | claimed (effectType : TypeId) (pending : PendingEffect effectType)
  | drove (report : RunReport)

def perform : Operation → Run Returned
  | .send target message => do
      Controlled.send target message
      pure .accepted
  | .emitStream streamItem stream item => do
      Controlled.emitStream streamItem stream item
      pure .accepted
  | .closeStream stream => do
      Controlled.closeStream stream
      pure .accepted
  | .emitSource target id descriptorType event => do
      Controlled.emitSource target id descriptorType event
      pure .accepted
  | .nextEffect effectType => do
      let pending ← Controlled.nextEffect effectType
      pure (.claimed effectType pending)
  | .complete pending outcome => do
      Controlled.complete pending outcome
      pure .accepted
  | .runUntilIdle fuel => do
      let report ← Controlled.runUntilIdle fuel
      pure (.drove report)
  | .advance fuel duration => do
      let report ← Controlled.advance fuel duration
      pure (.drove report)
  | .advanceToNext fuel => do
      let report ← Controlled.advanceToNext fuel
      pure (.drove report)

/-! ## Inspections -/

/-- `source_descriptor`, which looks at a runtime and leaves it alone. -/
def Core.sourceDescriptor {component : TypeId} (core : Core) (target : ComponentRef component)
    (id : SubscriptionId) (descriptorType : DescriptorType TypeId) :
    Except RuntimeError descriptorType.Val :=
  if target.program ≠ core.program.program then
    .error (.harness "controlled Source target is not part of this Program")
  else
    match core.source? target.id id with
    | none => .error (.harness "no active Source for Subscription")
    | some source =>
        if !source.running then .error (.harness "Source is no longer active")
        else if h : source.subscription.descriptorType = descriptorType then
          .ok (h ▸ source.subscription.subscription.descriptor)
        else .error (.harness "active SourceDescriptor type does not match")

/-- `state`, which borrows the Model of a Component. -/
def Core.state {component : TypeId} (core : Core) (target : ComponentRef component) :
    Except RuntimeError (RustTypes.componentModel component) :=
  if target.program ≠ core.program.program then
    .error (.harness "controlled state target is not part of this Program")
  else
    match core.program.components.find? fun kernel =>
        kernel.id = target.id && kernel.componentType = component with
    | none => .error (.harness "controlled state target type does not match")
    | some kernel =>
        if h : kernel.componentType = component then .ok (h ▸ kernel.kernel.model)
        else .error (.harness "controlled state target type does not match")

/-- The runtime of a built Program at the end of its assembly. -/
def Launched (core : Core) : Prop :=
  ∃ (builder : ProgramBuilder) (program : Program) (bindings : Bindings),
    builder.Assembled ∧ builder.build = .ok program ∧ launch program bindings = .ok core

/-- The runtime of a builder that both `build`s accept. -/
def assemble (builder : ProgramBuilder) (bindings : Bindings) : Option Core :=
  match builder.build with
  | .error _ => none
  | .ok program =>
      match launch program bindings with
      | .error _ => none
      | .ok core => some core

theorem launched_of_assemble {builder : ProgramBuilder} {bindings : Bindings} {core : Core}
    (hbuilder : builder.Assembled) (h : assemble builder bindings = some core) :
    Launched core := by
  unfold assemble at h
  split at h
  · cases h
  · rename_i program hbuild
    split at h
    · cases h
    · rename_i launched hlaunch
      cases h
      exact ⟨builder, program, bindings, hbuilder, hbuild, hlaunch⟩

/-- Whether an operation came back to its caller, with a value or an error. -/
def Returns {α : Type} : EStateM.Result Stop Core α → Prop
  | .ok _ _ => True
  | .error (.error _) _ => True
  | .error (.panicked _) _ => False
  | .error .outOfFuel _ => False

instance {α : Type} : (result : EStateM.Result Stop Core α) → Decidable (Returns result)
  | .ok _ _ => .isTrue trivial
  | .error (.error _) _ => .isTrue trivial
  | .error (.panicked _) _ => .isFalse id
  | .error .outOfFuel _ => .isFalse id

/-- The states between operations: every operation so far has returned. -/
inductive Reachable (start : Core) : Core → Prop where
  | refl : Reachable start start
  | operation {core : Core} (operation : Operation) (h : Reachable start core)
      (hreturns : Returns ((perform operation).run core)) :
      Reachable start (Exec.final ((perform operation).run core))

/-- The states a run passes through when panics are caught and drives are cut
    short: every operation may have stopped in any way. -/
inductive Attained (start : Core) : Core → Prop where
  | refl : Attained start start
  | operation {core : Core} (operation : Operation) (h : Attained start core) :
      Attained start (Exec.final ((perform operation).run core))

end Controlled

end Samara
