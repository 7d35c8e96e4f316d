/-
  Samara.Order

  Programs and builders that differ in the order of registration alone: the
  same Components and the same Port bindings, registered in another order.
-/
import Samara.Assembly
import Samara.Validation

namespace Samara

variable [RustTypes]

/-! ## Programs -/

/-- What `binding_index` looks a binding up by. -/
def PortBinding.key (binding : PortBinding) : TypeId × PortId := (binding.protocol, binding.port.id)

/-- `second` holds the Components and the bindings of `first` in some order, and
    neither a Component identity nor a bound Port twice. -/
structure Program.Rearranges (first second : Program) : Prop where
  program : second.program = first.program
  components : first.components.Perm second.components
  distinct : (first.components.map (·.id)).Nodup
  bindings : first.bindings.Perm second.bindings
  bound : (first.bindings.map PortBinding.key).Nodup
  effectRequirements : second.effectRequirements = first.effectRequirements
  sourceRequirements : second.sourceRequirements = first.sourceRequirements

namespace Program.Rearranges

variable {first second : Program}

theorem component? (h : first.Rearranges second) (id : ComponentId) (messageType : TypeId) :
    second.component? id messageType = first.component? id messageType := by
  refine Table.find?_perm h.components h.distinct id ?_
  intro kernel hkernel
  simp only [Bool.and_eq_true, decide_eq_true_eq] at hkernel
  exact hkernel.1

theorem binding? (h : first.Rearranges second) (protocol : TypeId) (port : PortId) :
    second.binding? protocol port = first.binding? protocol port := by
  refine Table.find?_perm h.bindings h.bound (protocol, port) ?_
  intro binding hbinding
  simp only [Bool.and_eq_true, decide_eq_true_eq] at hbinding
  exact Prod.ext hbinding.1 hbinding.2

theorem effectRequirement (h : first.Rearranges second) (token : CapabilityToken) :
    second.effectRequirement token = first.effectRequirement token := by
  unfold Program.effectRequirement
  rw [h.effectRequirements]

theorem sourceRequirement (h : first.Rearranges second) (token : CapabilityToken) :
    second.sourceRequirement token = first.sourceRequirement token := by
  unfold Program.sourceRequirement
  rw [h.sourceRequirements]

theorem declaresEffect (h : first.Rearranges second) (token : CapabilityToken)
    (descriptor : TypeId) :
    second.declaresEffect token descriptor = first.declaresEffect token descriptor := by
  unfold Program.declaresEffect
  rw [h.program, h.effectRequirement]

theorem declaresSource (h : first.Rearranges second) (token : CapabilityToken)
    (descriptor : DescriptorType TypeId) :
    second.declaresSource token descriptor = first.declaresSource token descriptor := by
  unfold Program.declaresSource
  rw [h.program, h.sourceRequirement]

theorem declaresSourcePlan (h : first.Rearranges second) (token : CapabilityToken)
    (descriptor terminal : DescriptorType TypeId) :
    second.declaresSourcePlan token descriptor terminal =
      first.declaresSourcePlan token descriptor terminal := by
  unfold Program.declaresSourcePlan
  rw [h.declaresSource, h.sourceRequirement]

theorem declaresComponentTarget (h : first.Rearranges second) (program : ProgramId)
    (target : ComponentId) (messageType : TypeId) :
    second.declaresComponentTarget program target messageType =
      first.declaresComponentTarget program target messageType := by
  unfold Program.declaresComponentTarget
  rw [h.program, h.components.any_eq]

theorem declaresPortTarget (h : first.Rearranges second) (program : ProgramId) (port : PortId)
    (protocol : TypeId) :
    second.declaresPortTarget program port protocol =
      first.declaresPortTarget program port protocol := by
  unfold Program.declaresPortTarget
  rw [h.program, h.bindings.any_eq]

/-- Storing a kernel under its own identity keeps the rearrangement. -/
theorem setComponent (h : first.Rearranges second) {id : ComponentId}
    {kernel : ErasedComponentKernel} (hid : kernel.id = id) (messageType : TypeId) :
    (first.setComponent id messageType kernel).Rearranges
      (second.setComponent id messageType kernel) := by
  have hkey : ∀ component : ErasedComponentKernel,
      (component.id = id && component.messageType = messageType) = true → component.id = id := by
    intro component hcomponent
    simp only [Bool.and_eq_true, decide_eq_true_eq] at hcomponent
    exact hcomponent.1
  refine ⟨h.program, ?_, ?_, h.bindings, h.bound, h.effectRequirements, h.sourceRequirements⟩
  · exact Table.modifyFirst_perm h.components h.distinct id hkey _
  · have hids := @Table.map_modifyFirst _ _ _ (fun _ => kernel)
      (fun component : ErasedComponentKernel => component.id)
      (fun component hcomponent => hid.trans (hkey component hcomponent).symm) first.components
    unfold Program.setComponent
    rw [hids]
    exact h.distinct

theorem declaresAlike (h : first.Rearranges second) : first.DeclaresAlike second :=
  ⟨h.declaresEffect, h.declaresComponentTarget, h.declaresPortTarget, h.sourceRequirement,
    h.declaresSource⟩

end Program.Rearranges

/-! ## Builders -/

namespace ProgramBuilder

/-- `second` has registered what `first` has, in another order: the same
    Components, Ports, bindings and capabilities. -/
structure Rearranges (first second : ProgramBuilder) : Prop where
  program : second.program = first.program
  components : first.components.Perm second.components
  ports : second.ports = first.ports
  bindings : first.bindings.Perm second.bindings
  effectRequirements : second.effectRequirements = first.effectRequirements
  sourceRequirements : second.sourceRequirements = first.sourceRequirements

/-- Every bound Port is one that this builder's `port` returned. -/
def BindsOwnPorts (builder : ProgramBuilder) : Prop :=
  ∀ binding ∈ builder.bindings, builder.IssuesPort binding.port

theorem checkComponents_eq_ok {seen : List ComponentId} {components : List ErasedComponentKernel} :
    checkComponents seen components = .ok () ↔
      (components.map (·.id)).Nodup ∧ ∀ component ∈ components, component.id ∉ seen := by
  induction components generalizing seen with
  | nil => simp [checkComponents]
  | cons component components ih =>
      unfold checkComponents
      by_cases hid : component.id ∈ seen
      · simp [hid]
      · rw [if_neg hid, ih, List.map_cons, List.nodup_cons]
        constructor
        · rintro ⟨hnodup, hfresh⟩
          refine ⟨⟨?_, hnodup⟩, ?_⟩
          · intro hmem
            obtain ⟨other, hother, heq⟩ := List.mem_map.mp hmem
            exact hfresh other hother (heq ▸ List.mem_cons_self)
          · intro other hother
            rcases List.mem_cons.mp hother with rfl | hmem
            · exact hid
            · exact fun hseen => hfresh other hmem (List.mem_cons_of_mem _ hseen)
        · rintro ⟨⟨hid', hnodup⟩, hfresh⟩
          refine ⟨hnodup, ?_⟩
          intro other hother hseen
          rcases List.mem_cons.mp hseen with heq | hmem
          · exact hid' (heq ▸ List.mem_map_of_mem hother)
          · exact hfresh other (List.mem_cons_of_mem _ hother) hmem

theorem checkBindings_eq_ok {builder : ProgramBuilder} {bindings : List PortBinding} :
    checkBindings builder bindings = .ok () ↔ ∀ binding ∈ bindings,
      binding.port.program = builder.program ∧ binding.provider.program = builder.program ∧
        ∃ component ∈ builder.components,
          component.id = binding.provider.id ∧ component.componentType = binding.component := by
  induction bindings with
  | nil => simp [checkBindings]
  | cons binding bindings ih =>
      unfold checkBindings
      rw [List.forall_mem_cons, ← ih]
      by_cases hport : binding.port.program = builder.program
      · by_cases hprovider : binding.provider.program = builder.program
        · by_cases hcomponent : ∃ component ∈ builder.components,
              component.id = binding.provider.id ∧ component.componentType = binding.component
          · rw [if_neg (not_not.mpr hport), if_neg (not_not.mpr hprovider),
              if_pos (by simpa using hcomponent)]
            simp [hport, hprovider, hcomponent]
          · rw [if_neg (not_not.mpr hport), if_neg (not_not.mpr hprovider),
              if_neg (by simpa using hcomponent)]
            simp [hcomponent]
        · simp [hport, hprovider]
      · simp [hport]

/-- How many bindings a declared Port has. -/
def bindingCount (builder : ProgramBuilder) (port : PortDeclaration) : Nat :=
  (builder.bindings.filter fun binding =>
    binding.protocol = port.protocolType && binding.port.id = port.id).length

theorem checkBindingCounts_eq_ok {builder : ProgramBuilder} {ports : List PortDeclaration} :
    checkBindingCounts builder ports = .ok () ↔ ∀ port ∈ ports, builder.bindingCount port = 1 := by
  induction ports with
  | nil => simp [checkBindingCounts]
  | cons port ports ih =>
      unfold checkBindingCounts
      rw [List.forall_mem_cons, ← ih]
      show (if builder.bindingCount port ≠ 1 then _ else _) = _ ↔ _
      by_cases hcount : builder.bindingCount port = 1
      · simp [hcount]
      · simp [hcount]

theorem build_eq_ok {builder : ProgramBuilder} {program : Program} :
    builder.build = .ok program ↔ checkComponents [] builder.components = .ok () ∧
      checkPorts builder.program [] builder.ports = .ok () ∧
      checkBindings builder builder.bindings = .ok () ∧
      checkBindingCounts builder builder.ports = .ok () ∧ program = builder.blueprint := by
  unfold build
  cases checkComponents [] builder.components with
  | error error => simp [bind, Except.bind]
  | ok _ =>
      cases checkPorts builder.program [] builder.ports with
      | error error => simp [bind, Except.bind]
      | ok _ =>
          cases checkBindings builder builder.bindings with
          | error error => simp [bind, Except.bind]
          | ok _ =>
              cases checkBindingCounts builder builder.ports with
              | error error => simp [bind, Except.bind]
              | ok _ => simp [bind, Except.bind, pure, Except.pure, blueprint, eq_comm]

namespace Rearranges

variable {first second : ProgramBuilder}

theorem bindingCount (h : first.Rearranges second) (port : PortDeclaration) :
    second.bindingCount port = first.bindingCount port :=
  ((h.bindings.filter _).length_eq).symm

/-- The checks of `build` do not see the order. -/
theorem build (h : first.Rearranges second) {program : Program}
    (hbuild : first.build = .ok program) : second.build = .ok second.blueprint := by
  obtain ⟨hcomponents, hports, hbindings, hcounts, -⟩ := build_eq_ok.mp hbuild
  refine build_eq_ok.mpr ⟨?_, ?_, ?_, ?_, rfl⟩
  · rw [checkComponents_eq_ok] at hcomponents ⊢
    refine ⟨(h.components.map _).nodup_iff.mp hcomponents.1, ?_⟩
    intro component hcomponent
    exact hcomponents.2 component (h.components.mem_iff.mpr hcomponent)
  · rw [h.program, h.ports]
    exact hports
  · rw [checkBindings_eq_ok] at hbindings ⊢
    intro binding hbinding
    obtain ⟨hport, hprovider, component, hmem, hfound⟩ :=
      hbindings binding (h.bindings.mem_iff.mpr hbinding)
    rw [h.program]
    exact ⟨hport, hprovider, component, h.components.mem_iff.mp hmem, hfound⟩
  · rw [h.ports, checkBindingCounts_eq_ok]
    rw [checkBindingCounts_eq_ok] at hcounts
    intro port hport
    rw [h.bindingCount]
    exact hcounts port hport


end Rearranges

/-- A builder that `build` accepts binds none of its Ports twice. -/
theorem bound_of_build {builder : ProgramBuilder} {program : Program}
    (hports : builder.BindsOwnPorts) (hbuild : builder.build = .ok program) :
    (builder.bindings.map PortBinding.key).Nodup := by
  obtain ⟨-, -, -, hcounts, -⟩ := build_eq_ok.mp hbuild
  rw [checkBindingCounts_eq_ok] at hcounts
  rw [List.nodup_iff_count_le_one]
  intro key
  by_cases hmem : key ∈ builder.bindings.map PortBinding.key
  · obtain ⟨binding, hbinding, rfl⟩ := List.mem_map.mp hmem
    obtain ⟨-, port, hport, hid, hprotocol⟩ := hports binding hbinding
    have hcount := hcounts port hport
    unfold bindingCount at hcount
    rw [List.count_eq_countP, List.countP_map, List.countP_eq_length_filter]
    refine le_of_eq (Eq.trans ?_ hcount)
    congr 2
    funext other
    rw [Bool.eq_iff_iff]
    simp [PortBinding.key, hid, hprotocol]
  · rw [List.count_eq_zero_of_not_mem hmem]
    exact Nat.zero_le 1

/-- The Programs of two such builders are rearrangements of each other. -/
theorem Rearranges.blueprint {first second : ProgramBuilder} (h : first.Rearranges second)
    (hports : first.BindsOwnPorts) {program : Program} (hbuild : first.build = .ok program) :
    program.Rearranges second.blueprint := by
  have hbound := bound_of_build hports hbuild
  obtain ⟨hcomponents, -, -, -, rfl⟩ := build_eq_ok.mp hbuild
  exact ⟨h.program, h.components, (checkComponents_eq_ok.mp hcomponents).1, h.bindings, hbound,
    h.effectRequirements, h.sourceRequirements⟩

end ProgramBuilder

end Samara
