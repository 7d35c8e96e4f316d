/-
  Samara.Assembly

  What the assembly of a Program establishes for good: which capabilities,
  references and Ports a builder has issued, and what `build` has checked of
  the Program it returns.
-/
import Samara.Program

namespace Samara

variable [RustTypes]

/-- The builders an application can obtain from `Program::builder`. -/
inductive ProgramBuilder.Assembled : ProgramBuilder → Prop where
  | new (program : ProgramId) : Assembled (.new program)
  | effect {builder : ProgramBuilder} (descriptorType : TypeId) (h : Assembled builder) :
      Assembled (builder.effect descriptorType)
  | source {builder : ProgramBuilder} (descriptorType : DescriptorType TypeId)
      (h : Assembled builder) : Assembled (builder.source descriptorType)
  | component {builder : ProgramBuilder} {componentType : TypeId} (id : ComponentId)
      (configuration : Component componentType) (h : Assembled builder) :
      Assembled (builder.component id configuration)
  | port {builder : ProgramBuilder} (protocol : TypeId) (id : PortId) (h : Assembled builder) :
      Assembled (builder.port protocol id)
  | bindPort {builder : ProgramBuilder} {protocol componentType : TypeId} (port : Port protocol)
      (provider : ComponentRef componentType) (h : Assembled builder) :
      Assembled (builder.bindPort port provider)

/-! ## What a builder issues -/

namespace ProgramBuilder

/-- `effect` returned this token for this descriptor type. -/
def IssuesEffect (builder : ProgramBuilder) (token : CapabilityToken) (descriptorType : TypeId) :
    Prop :=
  ∃ requirement ∈ builder.effectRequirements,
    requirement.token = token ∧ requirement.descriptorType = descriptorType

/-- `source` returned this token for this descriptor type. -/
def IssuesSource (builder : ProgramBuilder) (token : CapabilityToken)
    (descriptorType : DescriptorType TypeId) : Prop :=
  ∃ requirement ∈ builder.sourceRequirements,
    requirement.token = token ∧ requirement.descriptorType = descriptorType

/-- `component` returned this reference. -/
def IssuesComponent {componentType : TypeId} (builder : ProgramBuilder)
    (target : ComponentRef componentType) : Prop :=
  target.program = builder.program ∧
    ∃ component ∈ builder.components,
      component.id = target.id ∧ component.componentType = componentType

/-- `port` returned this Port. -/
def IssuesPort {protocol : TypeId} (builder : ProgramBuilder) (port : Port protocol) : Prop :=
  port.program = builder.program ∧
    ∃ declared ∈ builder.ports, declared.id = port.id ∧ declared.protocolType = protocol

/-- A declaration made at `now` uses only what the builder issued, and its timer
    ends within the range of `Duration`. -/
def Authorizes {message : TypeId} (builder : ProgramBuilder) (now : Duration) :
    Declaration message → Prop
  | .effect command => builder.IssuesEffect command.capability command.descriptorType
  | .send command => builder.IssuesComponent command.target
  | .notify command => builder.IssuesPort command.port
  | .request command => builder.IssuesPort command.port
  | .reply _ => True
  | .after delay _ => now + delay ≤ Duration.max

/-- A Model may desire these Subscriptions: none twice, and each under a
    capability that the builder issued. -/
def AuthorizesDesired {message : TypeId} (builder : ProgramBuilder)
    (desired : List (Subscription message)) : Prop :=
  (desired.map (·.id)).Nodup ∧
    ∀ subscription ∈ desired,
      builder.IssuesSource subscription.capability subscription.descriptorType

section Decidable

variable (builder : ProgramBuilder)

instance (token : CapabilityToken) (descriptorType : TypeId) :
    Decidable (builder.IssuesEffect token descriptorType) :=
  inferInstanceAs (Decidable (∃ requirement ∈ builder.effectRequirements, _ ∧ _))

instance (token : CapabilityToken) (descriptorType : DescriptorType TypeId) :
    Decidable (builder.IssuesSource token descriptorType) :=
  inferInstanceAs (Decidable (∃ requirement ∈ builder.sourceRequirements, _ ∧ _))

instance {componentType : TypeId} (target : ComponentRef componentType) :
    Decidable (builder.IssuesComponent target) :=
  inferInstanceAs (Decidable (_ ∧ ∃ component ∈ builder.components, _ ∧ _))

instance {protocol : TypeId} (port : Port protocol) : Decidable (builder.IssuesPort port) :=
  inferInstanceAs (Decidable (_ ∧ ∃ declared ∈ builder.ports, _ ∧ _))

instance {message : TypeId} (now : Duration) :
    (declaration : Declaration message) → Decidable (builder.Authorizes now declaration)
  | .effect command => inferInstanceAs (Decidable (builder.IssuesEffect _ command.descriptorType))
  | .send command => inferInstanceAs (Decidable (builder.IssuesComponent command.target))
  | .notify command => inferInstanceAs (Decidable (builder.IssuesPort command.port))
  | .request command => inferInstanceAs (Decidable (builder.IssuesPort command.port))
  | .reply _ => .isTrue trivial
  | .after delay _ => inferInstanceAs (Decidable (now + delay ≤ Duration.max))

instance {message : TypeId} (desired : List (Subscription message)) :
    Decidable (builder.AuthorizesDesired desired) :=
  inferInstanceAs (Decidable (_ ∧ ∀ subscription ∈ desired, _))

end Decidable

/-- What holds of the capabilities of every builder. -/
structure Numbered (builder : ProgramBuilder) : Prop where
  effects : ∀ requirement ∈ builder.effectRequirements,
    requirement.token.program = builder.program ∧ requirement.token.id < builder.nextCapability
  effectsDistinct : (builder.effectRequirements.map (·.token)).Nodup
  sources : ∀ requirement ∈ builder.sourceRequirements,
    requirement.token.program = builder.program ∧ requirement.token.id < builder.nextCapability
  sourcesDistinct : (builder.sourceRequirements.map (·.token)).Nodup
  terminals : ∀ requirement ∈ builder.sourceRequirements,
    requirement.terminalType = requirement.descriptorType.terminalType

theorem nextToken_fresh {builder : ProgramBuilder} {tokens : List CapabilityToken}
    (h : ∀ token ∈ tokens, token.id < builder.nextCapability) (hdistinct : tokens.Nodup) :
    (tokens ++ [builder.nextToken]).Nodup := by
  refine List.nodup_append.mpr ⟨hdistinct, List.nodup_singleton _, ?_⟩
  intro token htoken last hlast heq
  rw [List.mem_singleton.mp hlast] at heq
  have hlt := h token htoken
  rw [heq] at hlt
  exact Nat.lt_irrefl _ hlt

theorem Numbered.effect {builder : ProgramBuilder} (h : builder.Numbered)
    (descriptorType : TypeId) : (builder.effect descriptorType).Numbered := by
  refine ⟨?_, ?_, ?_, h.sourcesDistinct, h.terminals⟩
  · intro requirement hrequirement
    rcases List.mem_append.mp hrequirement with hold | hnew
    · exact ⟨(h.effects _ hold).1, Nat.lt_succ_of_lt (h.effects _ hold).2⟩
    · rw [List.mem_singleton.mp hnew]
      exact ⟨rfl, Nat.lt_succ_self _⟩
  · show ((builder.effectRequirements ++ [_]).map _).Nodup
    rw [List.map_append]
    refine nextToken_fresh ?_ h.effectsDistinct
    intro token htoken
    obtain ⟨requirement, hrequirement, rfl⟩ := List.mem_map.mp htoken
    exact (h.effects _ hrequirement).2
  · exact fun _ hold => ⟨(h.sources _ hold).1, Nat.lt_succ_of_lt (h.sources _ hold).2⟩

theorem Numbered.source {builder : ProgramBuilder} (h : builder.Numbered)
    (descriptorType : DescriptorType TypeId) : (builder.source descriptorType).Numbered := by
  refine ⟨?_, h.effectsDistinct, ?_, ?_, ?_⟩
  · exact fun _ hold => ⟨(h.effects _ hold).1, Nat.lt_succ_of_lt (h.effects _ hold).2⟩
  · intro requirement hrequirement
    rcases List.mem_append.mp hrequirement with hold | hnew
    · exact ⟨(h.sources _ hold).1, Nat.lt_succ_of_lt (h.sources _ hold).2⟩
    · rw [List.mem_singleton.mp hnew]
      exact ⟨rfl, Nat.lt_succ_self _⟩
  · show ((builder.sourceRequirements ++ [_]).map _).Nodup
    rw [List.map_append]
    refine nextToken_fresh ?_ h.sourcesDistinct
    intro token htoken
    obtain ⟨requirement, hrequirement, rfl⟩ := List.mem_map.mp htoken
    exact (h.sources _ hrequirement).2
  · intro requirement hrequirement
    rcases List.mem_append.mp hrequirement with hold | hnew
    · exact h.terminals _ hold
    · rw [List.mem_singleton.mp hnew]

theorem Assembled.numbered {builder : ProgramBuilder} (h : builder.Assembled) :
    builder.Numbered := by
  induction h with
  | new program => constructor <;> simp [ProgramBuilder.new]
  | effect descriptorType _ ih => exact ih.effect descriptorType
  | source descriptorType _ ih => exact ih.source descriptorType
  | component id configuration _ ih =>
      exact ⟨ih.effects, ih.effectsDistinct, ih.sources, ih.sourcesDistinct, ih.terminals⟩
  | port protocol id _ ih =>
      exact ⟨ih.effects, ih.effectsDistinct, ih.sources, ih.sourcesDistinct, ih.terminals⟩
  | bindPort port provider _ ih =>
      exact ⟨ih.effects, ih.effectsDistinct, ih.sources, ih.sourcesDistinct, ih.terminals⟩

/-! ## What the validators check -/

/-- The Program that `build` returns. -/
def blueprint (builder : ProgramBuilder) : Program where
  program := builder.program
  components := builder.components
  bindings := builder.bindings
  effectRequirements := builder.effectRequirements
  sourceRequirements := builder.sourceRequirements

/-- Every binding has a registered provider, and every Port a binding. -/
structure Wired (builder : ProgramBuilder) : Prop where
  providers : ∀ binding ∈ builder.bindings, ∃ component ∈ builder.components,
    component.id = binding.provider.id ∧ component.componentType = binding.component
  ports : ∀ port ∈ builder.ports, ∃ binding ∈ builder.bindings,
    binding.protocol = port.protocolType ∧ binding.port.id = port.id

theorem checkBindings_ok {builder : ProgramBuilder} {bindings : List PortBinding}
    (h : checkBindings builder bindings = .ok ()) :
    ∀ binding ∈ bindings, ∃ component ∈ builder.components,
      component.id = binding.provider.id ∧ component.componentType = binding.component := by
  induction bindings with
  | nil => simp
  | cons binding bindings ih =>
      unfold checkBindings at h
      split at h
      · cases h
      · split at h
        · cases h
        · split at h
          · rename_i hprovider
            intro other hother
            rcases List.mem_cons.mp hother with rfl | hmem
            · simpa using hprovider
            · exact ih h other hmem
          · cases h

theorem checkBindingCounts_ok {builder : ProgramBuilder} {ports : List PortDeclaration}
    (h : checkBindingCounts builder ports = .ok ()) :
    ∀ port ∈ ports, ∃ binding ∈ builder.bindings,
      binding.protocol = port.protocolType ∧ binding.port.id = port.id := by
  induction ports with
  | nil => simp
  | cons port ports ih =>
      unfold checkBindingCounts at h
      dsimp only at h
      split at h
      · cases h
      · rename_i hcount
        intro other hother
        rcases List.mem_cons.mp hother with rfl | hmem
        · have hpos : 0 < (builder.bindings.filter fun binding =>
              binding.protocol = other.protocolType && binding.port.id = other.id).length := by
            omega
          obtain ⟨binding, hbinding⟩ := List.exists_mem_of_length_pos hpos
          obtain ⟨hmem, hfacts⟩ := List.mem_filter.mp hbinding
          exact ⟨binding, hmem, by simpa using hfacts⟩
        · exact ih h other hmem

theorem build_ok {builder : ProgramBuilder} {program : Program} (h : builder.build = .ok program) :
    program = builder.blueprint ∧ builder.Wired := by
  unfold build at h
  cases hcomponents : checkComponents [] builder.components with
  | error error =>
      rw [hcomponents] at h
      cases h
  | ok _ =>
      cases hports : checkPorts builder.program [] builder.ports with
      | error error =>
          rw [hcomponents, hports] at h
          cases h
      | ok _ =>
          cases hbindings : checkBindings builder builder.bindings with
          | error error =>
              rw [hcomponents, hports, hbindings] at h
              cases h
          | ok _ =>
              cases hcounts : checkBindingCounts builder builder.ports with
              | error error =>
                  rw [hcomponents, hports, hbindings, hcounts] at h
                  cases h
              | ok _ =>
                  rw [hcomponents, hports, hbindings, hcounts] at h
                  cases h
                  exact ⟨rfl, checkBindings_ok hbindings, checkBindingCounts_ok hcounts⟩

end ProgramBuilder

end Samara
