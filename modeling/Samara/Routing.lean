/-
  Samara.Routing

  What the checks of `build` amount to, and what the lookups at run time rely
  on: a Port that the builder issued has one binding, and the binding's
  provider is one Component, which takes what the binding converts.
-/
import Samara.Order

namespace Samara

variable [RustTypes]

/-- The binding of a Port, as `binding_index` selects it. -/
def PortBinding.binds (protocol : TypeId) (port : PortId) (binding : PortBinding) : Bool :=
  binding.protocol = protocol && binding.port.id = port

/-- A Component, as `component_index` selects it. -/
def ErasedComponentKernel.answersTo (id : ComponentId) (messageType : TypeId)
    (component : ErasedComponentKernel) : Bool :=
  component.id = id && component.messageType = messageType

namespace ProgramBuilder

/-- What an application has to get right for its Program to build. -/
structure Sound (builder : ProgramBuilder) : Prop where
  components : (builder.components.map (·.id)).Nodup
  ports : (builder.ports.map fun port => (port.protocolType, port.id)).Nodup
  /-- A binding is between a Port and a registered provider of this builder. -/
  bindings : ∀ binding ∈ builder.bindings, binding.port.program = builder.program ∧
    binding.provider.program = builder.program ∧ ∃ component ∈ builder.components,
      component.id = binding.provider.id ∧ component.componentType = binding.component
  bound : ∀ port ∈ builder.ports, ∃ binding,
    builder.bindings.filter (PortBinding.binds port.protocolType port.id) = [binding]

theorem checkPorts_eq_ok {program : ProgramId} {seen : List (TypeId × PortId)}
    {ports : List PortDeclaration} : checkPorts program seen ports = .ok () ↔
      (ports.map fun port => (port.protocolType, port.id)).Nodup ∧
        ∀ port ∈ ports, (port.protocolType, port.id) ∉ seen ∧ port.program = program := by
  induction ports generalizing seen with
  | nil => simp [checkPorts]
  | cons port ports ih =>
      unfold checkPorts
      by_cases hseen : (port.protocolType, port.id) ∈ seen
      · simp [hseen]
      · by_cases hprogram : port.program = program
        · rw [if_neg hseen, if_neg (not_not.mpr hprogram), ih, List.map_cons, List.nodup_cons]
          constructor
          · rintro ⟨hnodup, hfresh⟩
            refine ⟨⟨?_, hnodup⟩, ?_⟩
            · intro hmem
              obtain ⟨other, hother, heq⟩ := List.mem_map.mp hmem
              exact (hfresh other hother).1 (heq ▸ List.mem_cons_self)
            · intro other hother
              rcases List.mem_cons.mp hother with rfl | hmem
              · exact ⟨hseen, hprogram⟩
              · have hother := hfresh other hmem
                exact ⟨fun hold => hother.1 (List.mem_cons_of_mem _ hold), hother.2⟩
          · rintro ⟨⟨hnew, hnodup⟩, hfresh⟩
            refine ⟨hnodup, ?_⟩
            intro other hother
            obtain ⟨hold, hown⟩ := hfresh other (List.mem_cons_of_mem _ hother)
            refine ⟨?_, hown⟩
            intro hmem
            rcases List.mem_cons.mp hmem with heq | hrest
            · exact hnew (heq ▸ List.mem_map_of_mem hother)
            · exact hold hrest
        · simp [hseen, hprogram]

/-- A builder declares Ports of its own only. -/
theorem Assembled.ownPorts {builder : ProgramBuilder} (h : builder.Assembled) :
    ∀ port ∈ builder.ports, port.program = builder.program := by
  induction h with
  | new program => exact fun _ hport => absurd hport List.not_mem_nil
  | port protocol id _ ih =>
      intro port hport
      rcases List.mem_append.mp hport with hold | hnew
      · exact ih port hold
      · rw [List.mem_singleton.mp hnew]
        rfl
  | effect _ _ ih => exact ih
  | source _ _ ih => exact ih
  | component _ _ _ ih => exact ih
  | bindPort _ _ _ ih => exact ih

/-- `build` accepts a builder exactly when it is sound. -/
theorem Assembled.builds_iff {builder : ProgramBuilder} (h : builder.Assembled) :
    (∃ program, builder.build = .ok program) ↔ builder.Sound := by
  have hown := h.ownPorts
  have hcounts : checkBindingCounts builder builder.ports = .ok () ↔ ∀ port ∈ builder.ports,
      ∃ binding, builder.bindings.filter (PortBinding.binds port.protocolType port.id) =
        [binding] := by
    rw [checkBindingCounts_eq_ok]
    exact forall₂_congr fun port _ => List.length_eq_one_iff
  constructor
  · rintro ⟨program, hbuild⟩
    obtain ⟨hcomponents, hports, hbindings, hbound, -⟩ := build_eq_ok.mp hbuild
    exact ⟨(checkComponents_eq_ok.mp hcomponents).1, (checkPorts_eq_ok.mp hports).1,
      checkBindings_eq_ok.mp hbindings, hcounts.mp hbound⟩
  · intro hsound
    refine ⟨builder.blueprint, build_eq_ok.mpr ⟨?_, ?_, ?_, ?_, rfl⟩⟩
    · exact checkComponents_eq_ok.mpr ⟨hsound.components, fun _ _ => List.not_mem_nil⟩
    · exact checkPorts_eq_ok.mpr ⟨hsound.ports, fun port hport =>
        ⟨List.not_mem_nil, hown port hport⟩⟩
    · exact checkBindings_eq_ok.mpr hsound.bindings
    · exact hcounts.mpr hsound.bound

end ProgramBuilder

/-! ## Lookups at run time -/

/-- A Message for a Port has one place to go, which takes it. -/
structure Program.Routes (program : Program) (protocol : TypeId) (port : PortId)
    (binding : PortBinding) (kernel : ErasedComponentKernel) : Prop where
  oneBinding : program.bindings.filter (PortBinding.binds protocol port) = [binding]
  lookup : program.binding? protocol port = some binding
  oneProvider : program.components.filter (ErasedComponentKernel.answersTo binding.provider.id
    binding.providerMessageType) = [kernel]
  target : program.component? binding.provider.id binding.providerMessageType = some kernel
  /-- What the binding converts is a Message of the provider. -/
  accepts : ∀ message converted, binding.convert message = .ok converted →
    (converted.downcast kernel.messageType).isSome = true

omit [RustTypes] in
theorem find?_of_filter {α : Type} {p : α → Bool} {rows : List α} {row : α}
    (h : rows.filter p = [row]) : rows.find? p = some row := by
  rw [← List.head?_filter, h]
  rfl

/-- In a Program of the same shape, which is what a run keeps, the binding of
    an issued Port and its provider are found, and nothing else is. -/
theorem ProgramBuilder.Sound.routes {builder : ProgramBuilder} (h : builder.Sound)
    {running : Program} (hshape : running.shape = builder.blueprint.shape) {protocol : TypeId}
    {port : Port protocol} (hissued : builder.IssuesPort port) :
    ∃ binding kernel, running.Routes protocol port.id binding kernel := by
  obtain ⟨_, declared, hdeclared, hid, hprotocol⟩ := hissued
  obtain ⟨binding, hbinding⟩ := h.bound declared hdeclared
  rw [hid, hprotocol] at hbinding
  have hmem : binding ∈ builder.bindings := by
    have hfiltered : binding ∈ builder.bindings.filter (PortBinding.binds protocol port.id) := by
      rw [hbinding]
      exact List.mem_cons_self
    exact (List.mem_filter.mp hfiltered).1
  have hbindings : running.bindings = builder.bindings := congrArg Program.Shape.bindings hshape
  have hroster : running.components.map (fun component => (component.id, component.componentType)) =
      builder.components.map fun component => (component.id, component.componentType) :=
    congrArg Program.Shape.roster hshape
  obtain ⟨_, _, registered, hregistered, hprovider, htype⟩ := h.bindings binding hmem
  -- The Component that was registered is there, in whatever state it is.
  have hentry : (registered.id, registered.componentType) ∈
      running.components.map fun component => (component.id, component.componentType) := by
    rw [hroster]
    exact List.mem_map_of_mem hregistered
  obtain ⟨kernel, hkernel, hsame⟩ := List.mem_map.mp hentry
  obtain ⟨hkernelId, hkernelType⟩ := Prod.mk.inj hsame
  have hids : (running.components.map (·.id)).Nodup := by
    have heq := congrArg (List.map Prod.fst) hroster
    rw [List.map_map, List.map_map] at heq
    exact heq.symm ▸ h.components
  have hmessage : kernel.messageType = binding.providerMessageType := by
    show RustTypes.componentMessage kernel.componentType = RustTypes.componentMessage binding.component
    rw [hkernelType, htype]
  have hcomponent : running.components.filter (ErasedComponentKernel.answersTo binding.provider.id
      binding.providerMessageType) = [kernel] := by
    refine Table.filter_eq_singleton hids hkernel ?_ ?_
    · simp [ErasedComponentKernel.answersTo, hkernelId, hprovider, hmessage]
    · intro other _ hother
      simp only [ErasedComponentKernel.answersTo, Bool.and_eq_true, decide_eq_true_eq] at hother
      exact hother.1.trans (hprovider.symm.trans hkernelId.symm)
  have hrunning : running.bindings.filter (PortBinding.binds protocol port.id) = [binding] :=
    hbindings ▸ hbinding
  refine ⟨binding, kernel, hrunning, find?_of_filter hrunning, hcomponent,
    find?_of_filter hcomponent, ?_⟩
  intro message converted hconvert
  rw [ErasedValue.downcast_isSome, hmessage]
  exact PortBinding.convert_type hconvert

/-- `build` accepts a builder exactly when its identities are distinct, its
    bindings are between its own Ports and registered providers, and every Port
    has exactly one; and then a Message for any Port that it issued reaches one
    Component that takes it, however long the Program has run.  Nothing is asked
    of how Ports refer to one another. -/
theorem assembly_routes {builder : ProgramBuilder} (h : builder.Assembled) :
    ((∃ program, builder.build = .ok program) ↔ builder.Sound) ∧
      ∀ program, builder.build = .ok program → ∀ running : Program,
        running.shape = program.shape → ∀ {protocol : TypeId} (port : Port protocol),
          builder.IssuesPort port → ∃ binding kernel,
            running.Routes protocol port.id binding kernel := by
  refine ⟨h.builds_iff, ?_⟩
  intro program hbuild running hshape protocol port hissued
  have hsound := h.builds_iff.mp ⟨program, hbuild⟩
  rw [(ProgramBuilder.build_ok hbuild).1] at hshape
  exact hsound.routes hshape hissued

end Samara

namespace Samara

attribute [local instance] Sample.types

/-- A Component that does nothing. -/
def silent : Component () where
  init := ((0 : Nat), .none)
  update := fun (model : Nat) _ => (model, .ok .none)
  subscriptions _ := .ok []

/-- Two Components, each the provider of a Port that the other can use. -/
def ringBuilder : ProgramBuilder :=
  ((((((ProgramBuilder.new ⟨7⟩).component ⟨"left"⟩ silent).component ⟨"right"⟩ silent).port ()
    ⟨"first"⟩).port () ⟨"second"⟩).bindPort (⟨⟨"first"⟩, ⟨7⟩⟩ : Port ())
      (⟨⟨"right"⟩, ⟨7⟩⟩ : ComponentRef ())).bindPort (⟨⟨"second"⟩, ⟨7⟩⟩ : Port ())
        (⟨⟨"left"⟩, ⟨7⟩⟩ : ComponentRef ())

theorem assembly_routes_ring : ringBuilder.Sound ∧ ∃ binding kernel,
    ringBuilder.blueprint.Routes () ⟨"first"⟩ binding kernel := by
  have hassembled : ringBuilder.Assembled :=
    .bindPort _ _ (.bindPort _ _ (.port _ _ (.port _ _ (.component _ silent
      (.component _ silent (.new ⟨7⟩))))))
  have hbuild : ringBuilder.build = .ok ringBuilder.blueprint := rfl
  obtain ⟨hsound, hroutes⟩ := assembly_routes hassembled
  exact ⟨hsound.mp ⟨_, hbuild⟩, hroutes _ hbuild _ rfl (⟨⟨"first"⟩, ⟨7⟩⟩ : Port ())
    ⟨rfl, ⟨(), ⟨"first"⟩, ⟨7⟩⟩, List.mem_cons_self, rfl, rfl⟩⟩

end Samara
