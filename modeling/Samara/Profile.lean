/-
  Samara.Profile

  What the validation of a profile's bindings is worth once the runtime looks
  them up.  The live bindings are validated by what they `satisfy` and found by
  what they `match`; the controlled ones are type-wide or exact, never both.
-/
import Samara.Controlled.Conformance
import Samara.Live.State

namespace Samara

variable [RustTypes]

namespace Live

/-! ## Live bindings -/

/-- The implementations of `ErasedSourceBinding`: `TypedSourceBinding`,
    `MpscBinding` and `StdinBinding`. -/
inductive ErasedSourceBinding where
  | typed (descriptor : DescriptorType TypeId) (start : SourceStamp → Callback Unit)
  | mpsc (item : TypeId) (capability : CapabilityToken) (start : SourceStamp → Callback Unit)
  | stdin (capability : CapabilityToken) (start : SourceStamp → Callback Unit)

section

-- The type `StdinLines`.
variable (stdinLines : TypeId)

namespace ErasedSourceBinding

def descriptorType : ErasedSourceBinding → DescriptorType TypeId
  | .typed descriptor _ => descriptor
  | .mpsc item _ _ => .stream item
  | .stdin _ _ => .custom stdinLines

def descriptorTypeName (binding : ErasedSourceBinding) : String :=
  (binding.descriptorType stdinLines).typeName

def isTypeWide : ErasedSourceBinding → Bool
  | .typed _ _ => true
  | .mpsc _ _ _ | .stdin _ _ => false

def exactCapability : ErasedSourceBinding → Option CapabilityToken
  | .typed _ _ => none
  | .mpsc _ capability _ | .stdin capability _ => some capability

def satisfies (requirement : SourceRequirement) : ErasedSourceBinding → Bool
  | .typed descriptor _ => requirement.terminalType = descriptor
  | .mpsc item capability _ =>
      requirement.terminalType = .stream item && capability.sameAs requirement.token
  | .stdin capability _ =>
      requirement.terminalType = .custom stdinLines && capability.sameAs requirement.token

def conflicts (binding other : ErasedSourceBinding) : Bool :=
  match binding with
  | .typed descriptor _ => other.descriptorType stdinLines = descriptor
  | .mpsc item capability _ =>
      if other.descriptorType stdinLines ≠ .stream item then false
      else other.isTypeWide || other.exactCapability.any (·.sameAs capability)
  | .stdin _ _ => other.descriptorType stdinLines = .custom stdinLines

/-- The binding as the owner selects and starts it. -/
def erase : ErasedSourceBinding → SourceBinding
  | .typed descriptor start => ⟨descriptor, none, start⟩
  | .mpsc item capability start => ⟨.stream item, some capability, start⟩
  | .stdin capability start => ⟨.custom stdinLines, some capability, start⟩

end ErasedSourceBinding

/-- `matches`; `SourcePlan::capability` is what the plan carries. -/
def ErasedSourceBinding.matches (binding : ErasedSourceBinding) (plan : SourcePlan) : Bool :=
  match binding with
  | .typed descriptor _ => plan.terminalType = descriptor
  | .mpsc item capability _ => plan.terminalType = .stream item && plan.carries capability
  | .stdin capability _ => plan.terminalType = .custom stdinLines && plan.carries capability

/-- `LiveBindings`; an Effect binding is known by its descriptor type. -/
structure LiveBindings where
  effects : List TypeId
  sources : List ErasedSourceBinding

namespace LiveBindings

def erase (bindings : LiveBindings) : Bindings :=
  ⟨bindings.effects, bindings.sources.map (·.erase stdinLines)⟩

/-- `LiveBindings::effect`. -/
def effect (bindings : LiveBindings) (descriptorType : TypeId) : Option TypeId :=
  bindings.effects.find? (· = descriptorType)

/-- The loop of `validate` over the Effect bindings. -/
def validateEffects : List TypeId → List TypeId → Except RuntimeError Unit
  | _, [] => .ok ()
  | seen, binding :: bindings =>
      if binding ∈ seen then
        .error (.harness ("duplicate live Effect binding for " ++ typeName binding))
      else validateEffects (binding :: seen) bindings

/-- The checks of `validate` on one Source binding, given the ones after it. -/
def validateSource (program : Program) (binding : ErasedSourceBinding)
    (others : List ErasedSourceBinding) : Except RuntimeError Unit :=
  if others.any fun other =>
      binding.conflicts stdinLines other || other.conflicts stdinLines binding then
    .error (.harness ("duplicate or ambiguous live Source binding for " ++
      binding.descriptorTypeName stdinLines))
  else
    match binding.exactCapability with
    | none => .ok ()
    | some capability =>
        if !capability.belongsTo program.program then
          .error (.harness ("exact live Source binding for " ++
            binding.descriptorTypeName stdinLines ++ " uses a capability from another Program"))
        else
          match program.sourceRequirement capability with
          | none =>
              .error (.harness ("exact live Source binding for " ++
                binding.descriptorTypeName stdinLines ++ " has no declared Program capability"))
          | some requirement =>
              if requirement.terminalType ≠ binding.descriptorType stdinLines then
                .error (.harness ("exact live Source binding for " ++
                  binding.descriptorTypeName stdinLines ++ " does not match declared terminal " ++
                  requirement.terminalTypeName))
              else .ok ()

def validateSources (program : Program) : List ErasedSourceBinding → Except RuntimeError Unit
  | [] => .ok ()
  | binding :: others => do
      validateSource stdinLines program binding others
      validateSources program others

/-- Every declared Effect has one binding. -/
def countEffects (bindings : LiveBindings) : List EffectRequirement → Except RuntimeError Unit
  | [] => .ok ()
  | requirement :: requirements =>
      let count := (bindings.effects.filter (· = requirement.descriptorType)).length
      if count ≠ 1 then
        .error (.harness ("declared Effect capability for " ++ requirement.descriptorTypeName ++
          " has " ++ toString count ++ " live bindings; expected exactly one"))
      else bindings.countEffects requirements

/-- Every declared Source has one binding. -/
def countSources (bindings : LiveBindings) : List SourceRequirement → Except RuntimeError Unit
  | [] => .ok ()
  | requirement :: requirements =>
      let count := (bindings.sources.filter (·.satisfies stdinLines requirement)).length
      if count ≠ 1 then
        .error (.harness ("declared Source capability for " ++ requirement.descriptorTypeName ++
          " (terminal " ++ requirement.terminalTypeName ++ ") has " ++ toString count ++
          " live bindings; expected exactly one"))
      else bindings.countSources requirements

/-- `LiveBindings::validate`. -/
def validate (bindings : LiveBindings) (program : Program) : Except RuntimeError Unit := do
  validateEffects [] bindings.effects
  validateSources stdinLines program bindings.sources
  bindings.countEffects program.effectRequirements
  bindings.countSources stdinLines program.sourceRequirements

end LiveBindings

end

/-! ## What is matched and what is satisfied -/

variable {stdinLines : TypeId}

namespace ErasedSourceBinding

theorem matches_erase (binding : ErasedSourceBinding) (plan : SourcePlan) :
    (binding.erase stdinLines).matches plan = binding.matches stdinLines plan := by
  cases binding with
  | typed descriptor start => exact Bool.and_true _
  | mpsc item capability start => rfl
  | stdin capability start => rfl

/-- A binding matches the plans of the requirements that it satisfies. -/
theorem matches_eq_satisfies (binding : ErasedSourceBinding) {requirement : SourceRequirement}
    {plan : SourcePlan} (hterminal : plan.terminalType = requirement.terminalType)
    (hcarries : plan.carries requirement.token = true) :
    binding.matches stdinLines plan = binding.satisfies stdinLines requirement := by
  have hcapability : plan.capability = some requirement.token := of_decide_eq_true hcarries
  have hsame (capability : CapabilityToken) :
      plan.carries capability = capability.sameAs requirement.token := by
    unfold SourcePlan.carries
    rw [hcapability, CapabilityToken.sameAs_eq]
    exact decide_eq_decide.mpr (Option.some_inj.trans eq_comm)
  cases binding with
  | typed descriptor start =>
      show decide (plan.terminalType = descriptor) = _
      rw [hterminal]
      rfl
  | mpsc item capability start =>
      show (decide (plan.terminalType = .stream item) && plan.carries capability) = _
      rw [hterminal, hsame]
      rfl
  | stdin capability start =>
      show (decide (plan.terminalType = .custom stdinLines) && plan.carries capability) = _
      rw [hterminal, hsame]
      rfl

end ErasedSourceBinding

namespace LiveBindings

theorem countEffects_ok {bindings : LiveBindings} {requirements : List EffectRequirement}
    (h : bindings.countEffects requirements = .ok ()) : ∀ requirement ∈ requirements,
      bindings.effects.filter (· = requirement.descriptorType) = [requirement.descriptorType] := by
  induction requirements with
  | nil => exact fun _ hmem => absurd hmem List.not_mem_nil
  | cons requirement requirements ih =>
      unfold countEffects at h
      dsimp only at h
      split at h
      · cases h
      · rename_i hcount
        refine List.forall_mem_cons.mpr ⟨?_, ih h⟩
        obtain ⟨binding, hbinding⟩ := List.length_eq_one_iff.mp (not_not.mp hcount)
        have hmem : binding ∈ bindings.effects.filter (· = requirement.descriptorType) := by
          rw [hbinding]
          exact List.mem_cons_self
        rw [hbinding, of_decide_eq_true (List.mem_filter.mp hmem).2]

theorem countSources_ok {bindings : LiveBindings} {requirements : List SourceRequirement}
    (h : bindings.countSources stdinLines requirements = .ok ()) : ∀ requirement ∈ requirements,
      ∃ binding, bindings.sources.filter (·.satisfies stdinLines requirement) = [binding] := by
  induction requirements with
  | nil => exact fun _ hmem => absurd hmem List.not_mem_nil
  | cons requirement requirements ih =>
      unfold countSources at h
      dsimp only at h
      split at h
      · cases h
      · rename_i hcount
        exact List.forall_mem_cons.mpr ⟨List.length_eq_one_iff.mp (not_not.mp hcount), ih h⟩

/-- The counts are what a validated profile is found by. -/
theorem validate_ok {bindings : LiveBindings} {program : Program}
    (h : bindings.validate stdinLines program = .ok ()) :
    bindings.countEffects program.effectRequirements = .ok () ∧
      bindings.countSources stdinLines program.sourceRequirements = .ok () := by
  unfold validate at h
  cases heffects : validateEffects [] bindings.effects with
  | error error =>
      rw [heffects] at h
      cases h
  | ok _ =>
      cases hsources : validateSources stdinLines program bindings.sources with
      | error error =>
          rw [heffects, hsources] at h
          cases h
      | ok _ =>
          cases hcounts : bindings.countEffects program.effectRequirements with
          | error error =>
              rw [heffects, hsources, hcounts] at h
              cases h
          | ok _ =>
              rw [heffects, hsources, hcounts] at h
              exact ⟨rfl, h⟩

/-- The lookups of a runtime whose bindings were validated. -/
structure Resolves (bindings : LiveBindings) (stdinLines : TypeId) (program : Program) : Prop where
  effect : ∀ requirement ∈ program.effectRequirements,
    bindings.effect requirement.descriptorType = some requirement.descriptorType ∧
      bindings.effects.filter (· = requirement.descriptorType) = [requirement.descriptorType]
  /-- The one binding that satisfies a requirement is selected for its plans. -/
  source : ∀ requirement ∈ program.sourceRequirements, ∃ binding,
    bindings.sources.filter (·.satisfies stdinLines requirement) = [binding] ∧
      ∀ plan : SourcePlan, plan.terminalType = requirement.terminalType →
        plan.carries requirement.token = true →
          (bindings.erase stdinLines).source plan = .ok (binding.erase stdinLines)

theorem resolves {bindings : LiveBindings} {program : Program}
    (h : bindings.validate stdinLines program = .ok ()) :
    bindings.Resolves stdinLines program := by
  obtain ⟨heffects, hsources⟩ := validate_ok h
  refine ⟨?_, ?_⟩
  · intro requirement hrequirement
    have hfilter := countEffects_ok heffects requirement hrequirement
    refine ⟨?_, hfilter⟩
    unfold effect
    rw [← List.head?_filter, hfilter]
    rfl
  · intro requirement hrequirement
    obtain ⟨binding, hbinding⟩ := countSources_ok hsources requirement hrequirement
    refine ⟨binding, hbinding, ?_⟩
    intro plan hterminal hcarries
    have hsame : (fun binding : ErasedSourceBinding => (binding.erase stdinLines).matches plan) =
        fun binding => binding.satisfies stdinLines requirement := by
      funext other
      rw [ErasedSourceBinding.matches_erase,
        ErasedSourceBinding.matches_eq_satisfies other hterminal hcarries]
    have hmatches : (bindings.erase stdinLines).sources.filter (·.matches plan) =
        [binding.erase stdinLines] := by
      show (bindings.sources.map (·.erase stdinLines)).filter (·.matches plan) = _
      rw [List.filter_map]
      show (bindings.sources.filter fun binding =>
        (binding.erase stdinLines).matches plan).map (·.erase stdinLines) = _
      rw [hsame, hbinding]
      rfl
    unfold Bindings.source
    rw [hmatches]

end LiveBindings

end Live

/-! ## Controlled bindings -/

namespace Controlled.Bindings

/-- What `validate` checks of the exact bindings: none twice, and none for a
    Source that the type-wide bindings control. -/
theorem validateExacts_ok {bindings : Bindings} {program : Program}
    {capabilities : List CapabilityToken}
    (h : bindings.validateExacts program capabilities = .ok ()) :
    capabilities.Nodup ∧ ∀ capability ∈ capabilities, ∃ requirement,
      program.sourceRequirement capability = some requirement ∧
        requirement.terminalType ∉ bindings.sources := by
  induction capabilities with
  | nil => exact ⟨List.nodup_nil, fun _ hmem => absurd hmem List.not_mem_nil⟩
  | cons capability others ih =>
      unfold validateExacts at h
      cases hexact : bindings.validateExact program capability others with
      | error error =>
          rw [hexact] at h
          cases h
      | ok _ =>
          rw [hexact] at h
          obtain ⟨hnodup, hall⟩ := ih h
          unfold validateExact at hexact
          split at hexact
          · cases hexact
          · split at hexact
            · cases hexact
            · rename_i requirement hrequirement
              split at hexact
              · cases hexact
              · split at hexact
                · cases hexact
                · rename_i hfresh
                  split at hexact
                  · cases hexact
                  · rename_i htypeWide
                    refine ⟨List.nodup_cons.mpr ⟨?_, hnodup⟩,
                      List.forall_mem_cons.mpr ⟨⟨requirement, hrequirement, htypeWide⟩, hall⟩⟩
                    intro hmem
                    exact hfresh (List.any_eq_true.mpr
                      ⟨capability, hmem, CapabilityToken.sameAs_iff.mpr rfl⟩)

/-- The controls of a runtime whose bindings were validated. -/
structure Controls (bindings : Bindings) (program : Program) : Prop where
  effect : ∀ requirement ∈ program.effectRequirements, requirement.descriptorType ∈ bindings.effects
  /-- Type-wide and not exact, or exact once and not type-wide. -/
  source : ∀ requirement ∈ program.sourceRequirements,
    (requirement.terminalType ∈ bindings.sources ∧
        bindings.exactSources.filter (·.sameAs requirement.token) = []) ∨
      (requirement.terminalType ∉ bindings.sources ∧
        bindings.exactSources.filter (·.sameAs requirement.token) = [requirement.token])

/-- The exact bindings of one Source, given that the Program declares each
    capability once. -/
theorem controls {bindings : Bindings} {builder : ProgramBuilder} (hnumbered : builder.Numbered)
    (h : bindings.validate builder.blueprint = .ok ()) : bindings.Controls builder.blueprint := by
  have hcomplete := validate_ok h
  refine ⟨hcomplete.effects, ?_⟩
  intro requirement hrequirement
  have hexacts : bindings.validateExacts builder.blueprint bindings.exactSources = .ok () := by
    unfold validate at h
    cases hexact : bindings.validateExacts builder.blueprint bindings.exactSources with
    | error error =>
        rw [hexact] at h
        cases h
    | ok _ => rfl
  obtain ⟨hnodup, hall⟩ := validateExacts_ok hexacts
  have hfound : builder.blueprint.sourceRequirement requirement.token = some requirement := by
    unfold Program.sourceRequirement
    simp only [CapabilityToken.sameAs_eq]
    exact Table.find?_of_nodup hnumbered.sourcesDistinct hrequirement
  by_cases hmem : requirement.token ∈ bindings.exactSources
  · obtain ⟨declared, hdeclared, htypeWide⟩ := hall _ hmem
    rw [hfound] at hdeclared
    cases hdeclared
    refine .inr ⟨htypeWide, ?_⟩
    refine @Table.filter_eq_singleton _ _ id _ (by rwa [List.map_id]) _ _ hmem
      (CapabilityToken.sameAs_iff.mpr rfl) ?_
    intro other _ hother
    exact CapabilityToken.sameAs_iff.mp hother
  · have hnone : bindings.exactSources.filter (·.sameAs requirement.token) = [] := by
      refine List.filter_eq_nil_iff.mpr ?_
      intro other hother hsame
      exact hmem (CapabilityToken.sameAs_iff.mp hsame ▸ hother)
    rcases hcomplete.sources requirement hrequirement with htypeWide | ⟨capability, hcapability, rfl⟩
    · exact .inl ⟨htypeWide, hnone⟩
    · exact absurd hcapability hmem

end Controlled.Bindings

/-- A profile that validates resolves what it will be asked for: each declared
    Effect and Source has one live binding, and each has one kind of controlled
    behaviour. -/
theorem profiles_resolve (stdinLines : TypeId) {builder : ProgramBuilder} (h : builder.Assembled)
    {program : Program} (hbuild : builder.build = .ok program) :
    (∀ bindings : Live.LiveBindings, bindings.validate stdinLines program = .ok () →
      bindings.Resolves stdinLines program) ∧
    ∀ bindings : Controlled.Bindings, bindings.validate program = .ok () →
      bindings.Controls program := by
  rw [(ProgramBuilder.build_ok hbuild).1]
  exact ⟨fun bindings => Live.LiveBindings.resolves, fun bindings =>
    Controlled.Bindings.controls h.numbered⟩

end Samara

namespace Samara

attribute [local instance] Sample.types

/-- A Program with an Effect, standard input and two streams. -/
def streamsBuilder : ProgramBuilder :=
  ((((ProgramBuilder.new ⟨7⟩).effect ()).source (.custom ())).source (.stream ())).source (.stream ())

/-- Standard input is bound between the streams. -/
def streamsLive : Live.LiveBindings where
  effects := [()]
  sources := [.mpsc () ⟨3, ⟨7⟩⟩ fun _ => .ok (), .stdin ⟨1, ⟨7⟩⟩ fun _ => .ok (),
    .mpsc () ⟨2, ⟨7⟩⟩ fun _ => .ok ()]

/-- Standard input is type-wide, and the streams are exact. -/
def streamsControlled : Controlled.Bindings where
  effects := [()]
  sources := [.custom ()]
  exactSources := [⟨3, ⟨7⟩⟩, ⟨2, ⟨7⟩⟩]

theorem profiles_resolve_streams : streamsLive.Resolves () streamsBuilder.blueprint ∧
    streamsControlled.Controls streamsBuilder.blueprint := by
  have hassembled : streamsBuilder.Assembled :=
    .source _ (.source _ (.source _ (.effect _ (.new ⟨7⟩))))
  have hbuild : streamsBuilder.build = .ok streamsBuilder.blueprint := rfl
  obtain ⟨hlive, hcontrolled⟩ := profiles_resolve () hassembled hbuild
  exact ⟨hlive streamsLive rfl, hcontrolled streamsControlled rfl⟩

end Samara
