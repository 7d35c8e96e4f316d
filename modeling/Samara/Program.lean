/-
  Samara.Program

  Program assembly (`ProgramBuilder`, `Program` in `lib.rs`): registration of
  Components, Ports, bindings and capabilities, the checks of `build`, and the
  validation of initial declarations that both profiles run.
-/
import Samara.Kernel
import Samara.Trace

namespace Samara

variable [RustTypes]

/-! ## Programs -/

structure EffectRequirement where
  token : CapabilityToken
  descriptorType : TypeId

def EffectRequirement.descriptorTypeName (requirement : EffectRequirement) : String :=
  typeName requirement.descriptorType

/-- `SourceRequirement`; its terminal fields are those of the descriptor type. -/
structure SourceRequirement where
  token : CapabilityToken
  descriptorType : DescriptorType TypeId
  terminalType : DescriptorType TypeId
  terminalStreamItemType : Option TypeId

def SourceRequirement.descriptorTypeName (requirement : SourceRequirement) : String :=
  requirement.descriptorType.typeName

def SourceRequirement.terminalTypeName (requirement : SourceRequirement) : String :=
  requirement.terminalType.typeName

/-- `PortBinding<P, C>`. -/
structure PortBinding where
  protocol : TypeId
  component : TypeId
  port : Port protocol
  provider : ComponentRef component

namespace PortBinding

def providerMessageType (binding : PortBinding) : TypeId :=
  RustTypes.componentMessage binding.component

/-- `ErasedPortBinding::convert`. -/
def convert (binding : PortBinding) (message : ErasedValue) : Callback ErasedValue :=
  match message.downcast (RustTypes.protocolMessage binding.protocol) with
  | none => .error .internal
  | some message =>
      (RustTypes.messageFrom binding.protocol binding.component message).map
        (ErasedValue.mk binding.providerMessageType)

theorem convert_type {binding : PortBinding} {protocolMessage message : ErasedValue}
    (h : binding.convert protocolMessage = .ok message) :
    message.type = binding.providerMessageType := by
  unfold convert at h
  split at h
  · cases h
  · exact ErasedValue.type_of_map h

end PortBinding

structure Program where
  program : ProgramId
  components : List ErasedComponentKernel
  bindings : List PortBinding
  effectRequirements : List EffectRequirement
  sourceRequirements : List SourceRequirement

namespace Program

def effectRequirement (program : Program) (token : CapabilityToken) : Option EffectRequirement :=
  program.effectRequirements.find? (·.token.sameAs token)

def sourceRequirement (program : Program) (token : CapabilityToken) : Option SourceRequirement :=
  program.sourceRequirements.find? (·.token.sameAs token)

def declaresEffect (program : Program) (token : CapabilityToken) (descriptor : TypeId) : Bool :=
  token.belongsTo program.program &&
    (program.effectRequirement token).any (·.descriptorType = descriptor)

def declaresSource (program : Program) (token : CapabilityToken)
    (descriptor : DescriptorType TypeId) : Bool :=
  token.belongsTo program.program &&
    (program.sourceRequirement token).any (·.descriptorType = descriptor)

def declaresSourcePlan (program : Program) (token : CapabilityToken)
    (descriptor terminal : DescriptorType TypeId) : Bool :=
  program.declaresSource token descriptor &&
    (program.sourceRequirement token).any (·.terminalType = terminal)

def declaresComponentTarget (program : Program) (targetProgram : ProgramId) (target : ComponentId)
    (messageType : TypeId) : Bool :=
  targetProgram = program.program &&
    program.components.any fun component =>
      component.id = target && component.messageType = messageType

def declaresPortTarget (program : Program) (portProgram : ProgramId) (port : PortId)
    (protocol : TypeId) : Bool :=
  portProgram = program.program &&
    program.bindings.any fun binding => binding.port.id = port && binding.protocol = protocol

/-- `component_index`, as the kernel found. -/
def component? (program : Program) (id : ComponentId) (messageType : TypeId) :
    Option ErasedComponentKernel :=
  program.components.find? fun component =>
    component.id = id && component.messageType = messageType

/-- `binding_index`, as the binding found. -/
def binding? (program : Program) (protocol : TypeId) (port : PortId) : Option PortBinding :=
  program.bindings.find? fun binding => binding.protocol = protocol && binding.port.id = port

/-- Store the kernel that `component?` found after it has changed. -/
def setComponent (program : Program) (id : ComponentId) (messageType : TypeId)
    (kernel : ErasedComponentKernel) : Program :=
  { program with
    components := Table.modifyFirst
      (fun component => component.id = id && component.messageType = messageType)
      (fun _ => kernel) program.components }

theorem component?_eq_some {program : Program} {id : ComponentId} {messageType : TypeId}
    {kernel : ErasedComponentKernel} (h : program.component? id messageType = some kernel) :
    kernel.id = id ∧ kernel.messageType = messageType := by
  simpa using List.find?_some h

/-- A kernel stored back is the one found next. -/
theorem component?_setComponent {program : Program} {id : ComponentId} {messageType : TypeId}
    {kernel kernel' : ErasedComponentKernel}
    (h : program.component? id messageType = some kernel) (hid : kernel'.id = kernel.id)
    (htype : kernel'.messageType = kernel.messageType) :
    (program.setComponent id messageType kernel').component? id messageType = some kernel' := by
  obtain ⟨hid', htype'⟩ := component?_eq_some h
  unfold setComponent component?
  rw [Table.find?_modifyFirst_self (by simp [hid, htype, hid', htype'])]
  unfold component? at h
  rw [h]
  rfl

/-- A Component of this identity and Message type is registered. -/
def Hosts (program : Program) (id : ComponentId) (messageType : TypeId) : Prop :=
  ∃ kernel, program.component? id messageType = some kernel

/-- What a Program keeps while it runs: all but the state of its kernels. -/
structure Shape where
  program : ProgramId
  roster : List (ComponentId × TypeId)
  bindings : List PortBinding
  effectRequirements : List EffectRequirement
  sourceRequirements : List SourceRequirement

def shape (program : Program) : Shape where
  program := program.program
  roster := program.components.map fun component => (component.id, component.componentType)
  bindings := program.bindings
  effectRequirements := program.effectRequirements
  sourceRequirements := program.sourceRequirements

/-- Whether a Component is registered is a matter of the shape. -/
theorem hosts_iff {program : Program} {id : ComponentId} {messageType : TypeId} :
    program.Hosts id messageType ↔ ∃ entry ∈ program.shape.roster,
      entry.1 = id ∧ RustTypes.componentMessage entry.2 = messageType := by
  constructor
  · rintro ⟨kernel, hkernel⟩
    obtain ⟨hid, htype⟩ := component?_eq_some hkernel
    exact ⟨_, List.mem_map_of_mem (List.mem_of_find?_eq_some hkernel), hid, htype⟩
  · rintro ⟨entry, hentry, hid, htype⟩
    obtain ⟨kernel, hkernel, rfl⟩ := List.mem_map.mp hentry
    refine Option.isSome_iff_exists.mp (List.find?_isSome.mpr ⟨kernel, hkernel, ?_⟩)
    simpa using ⟨hid, htype⟩

theorem Hosts.of_shape {program program' : Program} (hshape : program'.shape = program.shape)
    {id : ComponentId} {messageType : TypeId} (h : program.Hosts id messageType) :
    program'.Hosts id messageType := by
  rw [hosts_iff, hshape, ← hosts_iff]
  exact h

theorem shape_setComponent {program : Program} {id : ComponentId} {messageType : TypeId}
    {kernel kernel' : ErasedComponentKernel}
    (h : program.component? id messageType = some kernel) (hid : kernel'.id = kernel.id)
    (htype : kernel'.componentType = kernel.componentType) :
    (program.setComponent id messageType kernel').shape = program.shape := by
  have hroster := @Table.map_modifyFirst_found _ _ _ (fun _ => kernel')
    (fun component : ErasedComponentKernel => (component.id, component.componentType)) _ _ h
    (by rw [hid, htype])
  unfold shape setComponent
  rw [hroster]

/-- Where identities are distinct, a kernel that is stored replaces the one found. -/
theorem mem_setComponent {program : Program} {id : ComponentId} {messageType : TypeId}
    {kernel kernel' other : ErasedComponentKernel}
    (hdistinct : (program.components.map (·.id)).Nodup)
    (hfound : program.component? id messageType = some kernel)
    (h : other ∈ (program.setComponent id messageType kernel').components) :
    other = kernel' ∨ (other ∈ program.components ∧ other.id ≠ id) := by
  have hkey : ∀ component : ErasedComponentKernel,
      (component.id = id && component.messageType = messageType) = true → component.id = id := by
    intro component hcomponent
    simp only [Bool.and_eq_true, decide_eq_true_eq] at hcomponent
    exact hcomponent.1
  unfold setComponent at h
  rw [Table.modifyFirst_eq_map hdistinct id hkey] at h
  obtain ⟨row, hrow, rfl⟩ := List.mem_map.mp h
  by_cases hmatch : (row.id = id && row.messageType = messageType) = true
  · exact Or.inl (if_pos hmatch)
  · rw [if_neg hmatch]
    refine Or.inr ⟨hrow, ?_⟩
    intro hid
    have hsame := List.inj_on_of_nodup_map hdistinct hrow (List.mem_of_find?_eq_some hfound)
      (hid.trans (component?_eq_some hfound).1.symm)
    have hkernel := List.find?_some hfound
    rw [hsame] at hmatch
    exact hmatch hkernel

end Program

/-! ## Validation of initial declarations -/

/-- The diagnostic of an initial declaration that fails `validate_command`. -/
def initialFault (component : ComponentId) (reason : String) : RuntimeError :=
  .harness ("Component " ++ component.debug ++ " has an initial " ++ reason)

/-- One declaration of `validate_command`. -/
def validateDeclaration {message : TypeId} (program : Program) (component : ComponentId) :
    Declaration message → Except RuntimeError Unit
  | .reply _ | .after _ _ => .ok ()
  | .effect effect =>
      if program.declaresEffect effect.capability effect.descriptorType then .ok ()
      else .error (initialFault component ("Effect " ++ typeName effect.descriptorType ++
        " authorized by a capability from another Program"))
  | .send send =>
      if program.declaresComponentTarget send.target.program send.target.id
          (RustTypes.componentMessage send.component) then .ok ()
      else .error (initialFault component ("direct-send target " ++ send.target.id.debug ++
        " from another Program or absent from this Program"))
  | .notify notification =>
      if program.declaresPortTarget notification.port.program notification.port.id
          notification.protocol then .ok ()
      else .error (initialFault component ("notification Port " ++ notification.port.id.debug ++
        " from another Program or absent from this Program"))
  | .request request =>
      if program.declaresPortTarget request.port.program request.port.id request.protocol then
        .ok ()
      else .error (initialFault component ("request Port " ++ request.port.id.debug ++
        " from another Program or absent from this Program"))

mutual

/-- `validate_command`. -/
def validateCommand {message : TypeId} (program : Program) (component : ComponentId) :
    Command message → Except RuntimeError Unit
  | .none => .ok ()
  | .declaration declaration => validateDeclaration program component declaration
  | .batch commands => validateCommands program component commands

def validateCommands {message : TypeId} (program : Program) (component : ComponentId) :
    List (Command message) → Except RuntimeError Unit
  | [] => .ok ()
  | command :: commands => do
      validateCommand program component command
      validateCommands program component commands

end

/-- One Subscription of `validate_initial_capabilities`. -/
def validateSubscription {message : TypeId} (program : Program) (component : ComponentId)
    (subscription : Subscription message) : Except RuntimeError Unit :=
  let plan := subscription.sourcePlan
  if plan.acceptsOutputEventType subscription.sourceEventType then
    match program.sourceRequirement subscription.capability with
    | none => .error (initialFault component ("Source " ++
        subscription.descriptorType.typeName ++
        " authorized by a capability from another Program"))
    | some requirement =>
        if program.declaresSource subscription.capability subscription.descriptorType &&
            requirement.terminalType = plan.terminalType then .ok ()
        else .error (initialFault component ("Source capability inconsistent with " ++
          subscription.descriptorType.typeName))
  else
    .error (.harness ("Component " ++ component.debug ++
      " has an invalid initial SourcePlan for " ++ plan.terminalTypeName))

/-- The loop of `validate_initial_capabilities` over the desired Subscriptions. -/
def validateSubscriptions {message : TypeId} (program : Program) (component : ComponentId) :
    List SubscriptionId → List (Subscription message) → Except RuntimeError Unit
  | _, [] => .ok ()
  | seen, subscription :: subscriptions =>
      if subscription.id ∈ seen then
        .error (.harness ("Component " ++ component.debug ++
          " initially desires duplicate Subscription " ++ subscription.id.debug))
      else do
        validateSubscription program component subscription
        validateSubscriptions program component (subscription.id :: seen) subscriptions

/-- `validate_initial_capabilities` of one Component. -/
def ErasedComponentKernel.validateInitialCapabilities (erased : ErasedComponentKernel)
    (program : Program) : Except Stop Unit :=
  match erased.desired with
  | .error panic => .error (.panicked panic)
  | .ok subscriptions =>
      let checked : Except RuntimeError Unit := do
        match erased.kernel.initialCommand with
        | none => pure ()
        | some command => validateCommand program erased.id command
        validateSubscriptions program erased.id [] subscriptions
      match checked with
      | .error error => .error (.error error)
      | .ok () => .ok ()

/-! ## Program builders -/

structure PortDeclaration where
  protocolType : TypeId
  id : PortId
  program : ProgramId

inductive ProgramBuildError where
  | duplicateComponentId (component : ComponentId)
  | duplicatePort (protocolType : String) (port : PortId)
  | portBindingCount (protocolType : String) (port : PortId) (count : Nat)
  | foreignPort (protocolType : String) (port : PortId)
  | foreignProvider (provider : ComponentId)
  | providerNotRegistered (provider : ComponentId)
  deriving DecidableEq

structure ProgramBuilder where
  program : ProgramId
  components : List ErasedComponentKernel
  ports : List PortDeclaration
  bindings : List PortBinding
  effectRequirements : List EffectRequirement
  sourceRequirements : List SourceRequirement
  nextCapability : Nat

namespace ProgramBuilder

/-- `Program::builder`, for a fresh Program identity. -/
def new (program : ProgramId) : ProgramBuilder := ⟨program, [], [], [], [], [], 0⟩

/-- The token `next_capability` issues. -/
def nextToken (builder : ProgramBuilder) : CapabilityToken :=
  ⟨builder.nextCapability, builder.program⟩

/-- `ProgramBuilder::effect`. -/
def effect (builder : ProgramBuilder) (descriptorType : TypeId) : ProgramBuilder :=
  { builder with
    effectRequirements := builder.effectRequirements ++ [⟨builder.nextToken, descriptorType⟩]
    nextCapability := builder.nextCapability + 1 }

/-- `ProgramBuilder::source`. -/
def source (builder : ProgramBuilder) (descriptorType : DescriptorType TypeId) : ProgramBuilder :=
  { builder with
    sourceRequirements := builder.sourceRequirements ++
      [⟨builder.nextToken, descriptorType, descriptorType.terminalType,
        descriptorType.terminalStreamItem⟩]
    nextCapability := builder.nextCapability + 1 }

/-- `ProgramBuilder::component`. -/
def component {componentType : TypeId} (builder : ProgramBuilder) (id : ComponentId)
    (configuration : Component componentType) : ProgramBuilder :=
  { builder with
    components := builder.components ++ [⟨componentType, ComponentKernel.new id configuration⟩] }

/-- `ProgramBuilder::port`. -/
def port (builder : ProgramBuilder) (protocol : TypeId) (id : PortId) : ProgramBuilder :=
  { builder with ports := builder.ports ++ [⟨protocol, id, builder.program⟩] }

/-- `ProgramBuilder::bind_port`. -/
def bindPort {protocol componentType : TypeId} (builder : ProgramBuilder) (port : Port protocol)
    (provider : ComponentRef componentType) : ProgramBuilder :=
  { builder with bindings := builder.bindings ++ [⟨protocol, componentType, port, provider⟩] }

/-- The check that Component identities are distinct. -/
def checkComponents : List ComponentId → List ErasedComponentKernel → Except ProgramBuildError Unit
  | _, [] => .ok ()
  | seen, component :: components =>
      if component.id ∈ seen then .error (.duplicateComponentId component.id)
      else checkComponents (component.id :: seen) components

/-- The check that Port declarations are distinct and belong to the builder. -/
def checkPorts (program : ProgramId) :
    List (TypeId × PortId) → List PortDeclaration → Except ProgramBuildError Unit
  | _, [] => .ok ()
  | seen, port :: ports =>
      if (port.protocolType, port.id) ∈ seen then
        .error (.duplicatePort (typeName port.protocolType) port.id)
      else if port.program ≠ program then
        .error (.foreignPort (typeName port.protocolType) port.id)
      else checkPorts program ((port.protocolType, port.id) :: seen) ports

/-- The check that bindings use this builder's Ports and registered providers. -/
def checkBindings (builder : ProgramBuilder) : List PortBinding → Except ProgramBuildError Unit
  | [] => .ok ()
  | binding :: bindings =>
      if binding.port.program ≠ builder.program then
        .error (.foreignPort (typeName binding.protocol) binding.port.id)
      else if binding.provider.program ≠ builder.program then
        .error (.foreignProvider binding.provider.id)
      else if builder.components.any fun component =>
          component.id = binding.provider.id && component.componentType = binding.component then
        checkBindings builder bindings
      else .error (.providerNotRegistered binding.provider.id)

/-- The check that every declared Port has exactly one binding. -/
def checkBindingCounts (builder : ProgramBuilder) :
    List PortDeclaration → Except ProgramBuildError Unit
  | [] => .ok ()
  | port :: ports =>
      let count := (builder.bindings.filter fun binding =>
        binding.protocol = port.protocolType && binding.port.id = port.id).length
      if count ≠ 1 then .error (.portBindingCount (typeName port.protocolType) port.id count)
      else checkBindingCounts builder ports

/-- `ProgramBuilder::build`. -/
def build (builder : ProgramBuilder) : Except ProgramBuildError Program := do
  checkComponents [] builder.components
  checkPorts builder.program [] builder.ports
  checkBindings builder builder.bindings
  checkBindingCounts builder builder.ports
  pure {
    program := builder.program
    components := builder.components
    bindings := builder.bindings
    effectRequirements := builder.effectRequirements
    sourceRequirements := builder.sourceRequirements }

end ProgramBuilder

end Samara
