/-
  Samara.Validation

  What the validators of initial declarations accept, over whole Commands and
  whole lists of Subscriptions, and that they ask a Program only what it
  declares.
-/
import Samara.Program

namespace Samara

variable [RustTypes]

/-! ## Programs that declare the same -/

/-- The questions of the validators are answered alike. -/
structure Program.DeclaresAlike (first second : Program) : Prop where
  effect : ∀ token descriptor,
    second.declaresEffect token descriptor = first.declaresEffect token descriptor
  target : ∀ program target messageType,
    second.declaresComponentTarget program target messageType =
      first.declaresComponentTarget program target messageType
  port : ∀ program port protocol,
    second.declaresPortTarget program port protocol = first.declaresPortTarget program port protocol
  sourceRequirement : ∀ token, second.sourceRequirement token = first.sourceRequirement token
  source : ∀ token descriptor,
    second.declaresSource token descriptor = first.declaresSource token descriptor

namespace Program.DeclaresAlike

variable {first second : Program}

theorem sourcePlan (h : first.DeclaresAlike second) (token : CapabilityToken)
    (descriptor terminal : DescriptorType TypeId) :
    second.declaresSourcePlan token descriptor terminal =
      first.declaresSourcePlan token descriptor terminal := by
  unfold Program.declaresSourcePlan
  rw [h.source, h.sourceRequirement]

theorem validateDeclaration (h : first.DeclaresAlike second) {message : TypeId}
    (component : ComponentId) (declaration : Declaration message) :
    validateDeclaration second component declaration =
      validateDeclaration first component declaration := by
  cases declaration <;>
    simp only [Samara.validateDeclaration, h.effect, h.target, h.port]

mutual

theorem validateCommand (h : first.DeclaresAlike second) {message : TypeId}
    (component : ComponentId) (command : Command message) :
    validateCommand second component command = validateCommand first component command := by
  cases command with
  | none => rfl
  | declaration declaration => exact h.validateDeclaration component declaration
  | batch commands => exact h.validateCommands component commands

theorem validateCommands (h : first.DeclaresAlike second) {message : TypeId}
    (component : ComponentId) (commands : List (Command message)) :
    validateCommands second component commands = validateCommands first component commands := by
  cases commands with
  | nil => rfl
  | cons command commands =>
      unfold Samara.validateCommands
      rw [h.validateCommand component command, h.validateCommands component commands]

end

theorem validateSubscription (h : first.DeclaresAlike second) {message : TypeId}
    (component : ComponentId) (subscription : Subscription message) :
    validateSubscription second component subscription =
      validateSubscription first component subscription := by
  unfold Samara.validateSubscription
  rw [h.sourceRequirement]
  simp only [h.source]

theorem validateSubscriptions (h : first.DeclaresAlike second) {message : TypeId}
    (component : ComponentId) (seen : List SubscriptionId)
    (subscriptions : List (Subscription message)) :
    validateSubscriptions second component seen subscriptions =
      validateSubscriptions first component seen subscriptions := by
  induction subscriptions generalizing seen with
  | nil => rfl
  | cons subscription subscriptions ih =>
      unfold Samara.validateSubscriptions
      rw [ih, h.validateSubscription]

theorem validateInitialCapabilities (h : first.DeclaresAlike second)
    (kernel : ErasedComponentKernel) :
    kernel.validateInitialCapabilities second = kernel.validateInitialCapabilities first := by
  unfold ErasedComponentKernel.validateInitialCapabilities
  simp only [h.validateCommand, h.validateSubscriptions]

end Program.DeclaresAlike

/-- What a Program declares is a matter of its shape. -/
theorem Program.declaresAlike_of_shape {first second : Program}
    (hshape : second.shape = first.shape) : first.DeclaresAlike second := by
  have hprogram : second.program = first.program := congrArg Program.Shape.program hshape
  have heffects : second.effectRequirements = first.effectRequirements :=
    congrArg Program.Shape.effectRequirements hshape
  have hsources : second.sourceRequirements = first.sourceRequirements :=
    congrArg Program.Shape.sourceRequirements hshape
  have hsource (token : CapabilityToken) :
      second.sourceRequirement token = first.sourceRequirement token := by
    unfold Program.sourceRequirement
    rw [hsources]
  refine ⟨?_, ?_, ?_, hsource, ?_⟩
  · intro token descriptor
    unfold Program.declaresEffect Program.effectRequirement
    rw [hprogram, heffects]
  · intro program target messageType
    have hroster (components : List ErasedComponentKernel) :
        (components.any fun kernel => kernel.id = target && kernel.messageType = messageType) =
          (components.map fun kernel => (kernel.id, kernel.componentType)).any fun entry =>
            entry.1 = target && RustTypes.componentMessage entry.2 = messageType := by
      rw [List.any_map]
      rfl
    have hsame : second.components.map (fun kernel => (kernel.id, kernel.componentType)) =
        first.components.map fun kernel => (kernel.id, kernel.componentType) :=
      congrArg Program.Shape.roster hshape
    unfold Program.declaresComponentTarget
    rw [hprogram, hroster, hroster, hsame]
  · intro program port protocol
    have hbindings : second.bindings = first.bindings := congrArg Program.Shape.bindings hshape
    unfold Program.declaresPortTarget
    rw [hprogram, hbindings]
  · intro token descriptor
    unfold Program.declaresSource
    rw [hprogram, hsource]

/-! ## What is accepted -/

section Accepted

variable {message : TypeId} {program : Program} {component : ComponentId}

omit [RustTypes] in
theorem then_eq_ok {ε : Type} {first second : Except ε Unit} :
    (do first; second) = .ok () ↔ first = .ok () ∧ second = .ok () := by
  cases first with
  | error error => simp [bind, Except.bind]
  | ok value => simp [bind, Except.bind]

/-- What a declaration other than a Reply and a timer is accepted for. -/
def Accepts (program : Program) : Declaration message → Prop
  | .reply _ | .after _ _ => True
  | .effect command => program.declaresEffect command.capability command.descriptorType = true
  | .send command => program.declaresComponentTarget command.target.program command.target.id
      (RustTypes.componentMessage command.component) = true
  | .notify command => program.declaresPortTarget command.port.program command.port.id
      command.protocol = true
  | .request command => program.declaresPortTarget command.port.program command.port.id
      command.protocol = true

theorem validateDeclaration_eq_ok (declaration : Declaration message) :
    validateDeclaration program component declaration = .ok () ↔ Accepts program declaration := by
  cases declaration <;> simp [validateDeclaration, Accepts]

/-- A Subscription is accepted for its Source and what that lowers to. -/
theorem validateSubscription_eq_ok (subscription : Subscription message) :
    validateSubscription program component subscription = .ok () ↔
      program.declaresSourcePlan subscription.capability subscription.descriptorType
        subscription.sourcePlan.terminalType = true := by
  unfold validateSubscription Program.declaresSourcePlan
  dsimp only
  rw [if_pos subscription.sourcePlan_accepts]
  cases hrequirement : program.sourceRequirement subscription.capability with
  | none => simp
  | some requirement => simp

mutual

/-- Batches do not matter: a Command is accepted with all its declarations. -/
theorem validateCommand_eq_ok (command : Command message) :
    validateCommand program component command = .ok () ↔
      ∀ declaration ∈ command.intoDeclarations,
        validateDeclaration program component declaration = .ok () := by
  cases command with
  | none => simp [validateCommand, Command.intoDeclarations]
  | declaration declaration => simp [validateCommand, Command.intoDeclarations]
  | batch commands =>
      unfold validateCommand Command.intoDeclarations
      exact validateCommands_eq_ok commands

theorem validateCommands_eq_ok (commands : List (Command message)) :
    validateCommands program component commands = .ok () ↔
      ∀ declaration ∈ Command.appendDeclarations commands,
        validateDeclaration program component declaration = .ok () := by
  cases commands with
  | nil => simp [validateCommands, Command.appendDeclarations]
  | cons command commands =>
      unfold validateCommands Command.appendDeclarations
      rw [then_eq_ok, validateCommand_eq_ok command, validateCommands_eq_ok commands,
        List.forall_mem_append]

end

/-- Subscriptions are accepted one by one, if no identity comes twice. -/
theorem validateSubscriptions_eq_ok {seen : List SubscriptionId}
    {subscriptions : List (Subscription message)} :
    validateSubscriptions program component seen subscriptions = .ok () ↔
      (∀ subscription ∈ subscriptions,
        validateSubscription program component subscription = .ok ()) ∧
          (subscriptions.map (·.id)).Nodup ∧ ∀ id ∈ subscriptions.map (·.id), id ∉ seen := by
  induction subscriptions generalizing seen with
  | nil => simp [validateSubscriptions]
  | cons subscription subscriptions ih =>
      unfold validateSubscriptions
      rw [List.map_cons, List.nodup_cons, List.forall_mem_cons, List.forall_mem_cons]
      by_cases hseen : subscription.id ∈ seen
      · simp [hseen]
      · rw [if_neg hseen, then_eq_ok, ih]
        constructor
        · rintro ⟨hone, hall, hnodup, hfresh⟩
          refine ⟨⟨hone, hall⟩, ⟨fun hmem => hfresh _ hmem List.mem_cons_self, hnodup⟩, hseen, ?_⟩
          exact fun id hid hold => hfresh id hid (List.mem_cons_of_mem _ hold)
        · rintro ⟨⟨hone, hall⟩, ⟨hnew, hnodup⟩, -, hfresh⟩
          refine ⟨hone, hall, hnodup, ?_⟩
          intro id hid hold
          rcases List.mem_cons.mp hold with rfl | hmem
          · exact hnew hid
          · exact hfresh id hid hmem

/-- What the initial declarations of an accepted Component are. -/
theorem validateInitialCapabilities_eq_ok {kernel : ErasedComponentKernel} :
    kernel.validateInitialCapabilities program = .ok () ↔
      ∃ desired, kernel.desired = .ok desired ∧
        (∀ command, kernel.kernel.initialCommand = some command →
          ∀ declaration ∈ command.intoDeclarations,
            validateDeclaration program kernel.id declaration = .ok ()) ∧
          (∀ subscription ∈ desired, validateSubscription program kernel.id subscription = .ok ()) ∧
            (desired.map (·.id)).Nodup := by
  unfold ErasedComponentKernel.validateInitialCapabilities
  cases kernel.desired with
  | error panic => simp
  | ok desired =>
      have hsubscriptions : validateSubscriptions program kernel.id [] desired = .ok () ↔
          (∀ subscription ∈ desired,
            validateSubscription program kernel.id subscription = .ok ()) ∧
              (desired.map (·.id)).Nodup := by
        rw [validateSubscriptions_eq_ok]
        simp
      dsimp only
      constructor
      · intro h
        refine ⟨desired, rfl, ?_⟩
        cases hcommand : kernel.kernel.initialCommand with
        | none =>
            rw [hcommand] at h
            cases hvalid : validateSubscriptions program kernel.id [] desired with
            | error error => simp [hvalid] at h
            | ok _ =>
                obtain ⟨hall, hdistinct⟩ := hsubscriptions.mp hvalid
                exact ⟨fun _ heq => absurd heq (by simp), hall, hdistinct⟩
        | some command =>
            rw [hcommand] at h
            cases hchecked : (do
                validateCommand program kernel.id command
                validateSubscriptions program kernel.id [] desired) with
            | error error => simp [hchecked] at h
            | ok _ =>
                obtain ⟨hvalid, hvalid'⟩ := then_eq_ok.mp hchecked
                obtain ⟨hall, hdistinct⟩ := hsubscriptions.mp hvalid'
                refine ⟨?_, hall, hdistinct⟩
                intro _ heq
                cases heq
                exact (validateCommand_eq_ok command).mp hvalid
      · rintro ⟨_, hdesired, hcommand, hall, hdistinct⟩
        cases hdesired
        have hvalid' := hsubscriptions.mpr ⟨hall, hdistinct⟩
        cases hinitial : kernel.kernel.initialCommand with
        | none => simp [hvalid']
        | some command =>
            have haccepted := (validateCommand_eq_ok command).mpr (hcommand command hinitial)
            simp [haccepted, hvalid', bind, Except.bind]

end Accepted

end Samara
