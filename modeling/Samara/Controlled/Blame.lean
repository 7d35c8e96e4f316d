/-
  Samara.Controlled.Blame

  How the methods of the controlled runtime stop.  A panic is one that code of
  the application returned to its caller, never one of a downcast that the
  runtime expects to succeed; and no error says that a Message was delivered to
  a Component of another type.
-/
import Samara.Controlled.Tags

namespace Samara

open Exec (Stops stops_bind)
open Relation (ReflTransGen)

variable [RustTypes]

omit [RustTypes] in
theorem callback_map_error {α β : Type} {result : Callback α} {f : α → β} {panic : Panic}
    (h : result.map f = .error panic) : result = .error panic := by
  cases result with
  | error raised =>
      cases h
      rfl
  | ok value => cases h

/-- A conversion of a Protocol Message panics only where that of the application
    does. -/
theorem PortBinding.convert_error {binding : PortBinding} {message : ErasedValue} {panic : Panic}
    (htype : message.type = RustTypes.protocolMessage binding.protocol)
    (h : binding.convert message = .error panic) :
    ∃ value, RustTypes.messageFrom binding.protocol binding.component value = .error panic := by
  obtain ⟨type, value⟩ := message
  subst htype
  unfold PortBinding.convert at h
  rw [ErasedValue.downcast_self] at h
  exact ⟨value, callback_map_error h⟩

/-- The mapper of a Subscription is given the event it expects. -/
theorem ErasedRuntimeSubscription.mapEvent_error {erased : ErasedRuntimeSubscription}
    {event : ErasedSourceEvent} {panic : Panic} (htype : event.type = erased.sourceEventType)
    (h : erased.mapEvent event = .error panic) :
    ∃ typed, erased.subscription.map typed = .error panic := by
  obtain ⟨typed, hdowncast⟩ := ErasedSourceEvent.downcast_of_type htype
  unfold ErasedRuntimeSubscription.mapEvent Subscription.mapEvent at h
  have hdowncast' : event.downcast erased.subscription.sourceEventType = some typed := hdowncast
  rw [hdowncast'] at h
  exact ⟨typed, callback_map_error h⟩

/-- A transition panics only where the `update` of the Component does. -/
theorem ErasedComponentKernel.transitionErased_error {message : ErasedValue}
    {kernel kernel' : ErasedComponentKernel} {panic : Panic}
    (h : (transitionErased message).run kernel = .error panic kernel') :
    kernel'.id = kernel.id ∧ kernel'.componentType = kernel.componentType ∧
      ∃ model value, (kernel'.kernel.component.update model value).2 = .error panic := by
  unfold transitionErased EStateM.run at h
  dsimp only at h
  split at h
  · cases h
  · split at h
    · rename_i hupdate
      cases h
      exact ⟨rfl, rfl, _, _, congrArg Prod.snd hupdate⟩
    · cases h

/-- What the runtime says of a Message that it cannot deliver. -/
def deliveryReasons : List String :=
  ["internal typed Message delivery mismatch",
    "Message target is absent or has a different Message type"]

omit [RustTypes] in
/-- The start of a reason tells it from those of a delivery. -/
theorem append_notMem_deliveryReasons {first : String} (hfirst : first.toList ≠ [])
    (h : ∀ reason ∈ deliveryReasons, reason.toList.head? ≠ first.toList.head?) (rest : String) :
    first ++ rest ∉ deliveryReasons := by
  intro hmem
  refine h _ hmem ?_
  rw [String.toList_append, List.head?_append_of_ne_nil _ hfirst]

/-- The error is that of a Message delivered to a Component of another type. -/
def RuntimeError.Misdelivers : RuntimeError → Prop
  | .fault _ _ _ reason => reason ∈ deliveryReasons
  | .harness reason => reason ∈ deliveryReasons

namespace Controlled

/-! ## Whose panics a run can raise -/

/-- The run has interpreted `declaration`. -/
def Core.Voiced {message : TypeId} (core : Core) (declaration : Declaration message) : Prop :=
  ∃ declared ∈ core.declarations, declared.declaration = ⟨message, declaration⟩

/-- Code of the application that the runtime has been given has returned the
    panic. -/
inductive Raised (core : Core) : Panic → Prop where
  | update {kernel : ErasedComponentKernel} (hkernel : kernel ∈ core.program.components)
      (model : RustTypes.componentModel kernel.componentType)
      (message : Val (RustTypes.componentMessage kernel.componentType)) {panic : Panic}
      (h : (kernel.kernel.component.update model message).2 = .error panic) : Raised core panic
  | subscriptions {kernel : ErasedComponentKernel} (hkernel : kernel ∈ core.program.components)
      (model : RustTypes.componentModel kernel.componentType) {panic : Panic}
      (h : kernel.kernel.component.subscriptions model = .error panic) : Raised core panic
  | notification {message : TypeId} {command : NotificationCommand}
      (hvoiced : core.Voiced (.notify command : Declaration message)) {panic : Panic}
      (h : RustTypes.notificationIntoMessage command.protocol command.notificationType
        command.notification = .error panic) : Raised core panic
  | request {message : TypeId} {command : RequestCommand message}
      (hvoiced : core.Voiced (.request command)) (correlation : Nat) {panic : Panic}
      (h : RustTypes.requestIntoMessage command.protocol command.requestType command.request
        ⟨correlation⟩ = .error panic) : Raised core panic
  | conversion {binding : PortBinding} (hbinding : binding ∈ core.program.bindings)
      (message : Val (RustTypes.protocolMessage binding.protocol)) {panic : Panic}
      (h : RustTypes.messageFrom binding.protocol binding.component message = .error panic) :
      Raised core panic
  | outcome {message : TypeId} {command : EffectCommand message}
      (hvoiced : core.Voiced (.effect command))
      {map : EffectOutcome (Val (RustTypes.effectOutput command.descriptorType))
        (Val (RustTypes.effectError command.descriptorType)) → Callback (Val message)}
      (hmap : command.map = some map)
      (outcome : EffectOutcome (Val (RustTypes.effectOutput command.descriptorType))
        (Val (RustTypes.effectError command.descriptorType))) {panic : Panic}
      (h : map outcome = .error panic) : Raised core panic
  | reply {message : TypeId} {command : RequestCommand message}
      (hvoiced : core.Voiced (.request command)) (reply : Val command.replyType) {panic : Panic}
      (h : command.map (.replied reply) = .error panic) : Raised core panic
  | event {source : ActiveSource} (hsource : source ∈ core.sources)
      (event : SourceEvent (Val source.subscription.descriptorType.item)
        source.subscription.descriptorType.error.Val) {panic : Panic}
      (h : source.subscription.subscription.map event = .error panic) : Raised core panic
  | decoder {panic : Panic} (h : DecoderRaises panic) : Raised core panic

/-- Who is to blame can be told from the tables that name it. -/
theorem Raised.of_eq {core core' : Core} {panic : Panic} (h : Raised core panic)
    (hprogram : core'.program = core.program) (hsources : core'.sources = core.sources)
    (hjournal : core'.journal = core.journal) : Raised core' panic := by
  have hvoiced {message : TypeId} {declaration : Declaration message}
      (h : core.Voiced declaration) : core'.Voiced declaration := by
    unfold Core.Voiced Core.declarations at *
    rw [hjournal]
    exact h
  cases h with
  | update hkernel model message h => exact .update (hprogram ▸ hkernel) model message h
  | subscriptions hkernel model h => exact .subscriptions (hprogram ▸ hkernel) model h
  | notification hnotify h => exact .notification (hvoiced hnotify) h
  | request hrequest correlation h => exact .request (hvoiced hrequest) correlation h
  | conversion hbinding message h => exact .conversion (hprogram ▸ hbinding) message h
  | outcome heffect hmap outcome h => exact .outcome (hvoiced heffect) hmap outcome h
  | reply hrequest reply h => exact .reply (hvoiced hrequest) reply h
  | event hsource event h => exact .event (hsources ▸ hsource) event h
  | decoder h => exact .decoder h

theorem voiced_emitted {message : TypeId} (core : Core) (cause : TraceId) (component : ComponentId)
    (declaration : Declaration message) :
    (core.emitted cause component declaration).Voiced declaration :=
  ⟨_, mem_declarations_emitted core cause component declaration, rfl⟩

/-- The mapper of a request panics on a Reply of its type only where that of
    the Request does. -/
theorem Core.Creates.raises {core : Core} {request : OutstandingRequest}
    (h : core.Creates request) {reply : ErasedValue} (htype : reply.type = request.replyType)
    {panic : Panic} (hpanic : request.mapper reply = .error panic) : Raised core panic := by
  obtain ⟨work, time, message, command, _, hmem, _, heq⟩ := h
  have hreply : request.replyType = command.replyType := by rw [heq]
  have hmapper : request.mapper = command.mapper := by rw [heq]
  obtain ⟨type, value⟩ := reply
  have hcommand : type = command.replyType := htype.trans hreply
  subst hcommand
  rw [hmapper, command.mapper_reply] at hpanic
  exact .reply ⟨_, hmem, rfl⟩ value (callback_map_error hpanic)

/-- The mapper of an effect panics on an outcome of its type only where that of
    the Effect does. -/
theorem Core.Declares.raises {core : Core} {entry : PendingEffectEntry}
    (h : core.Declares entry) {effectType : TypeId} (htype : entry.descriptorType = effectType)
    {mapper : ErasedOutcomeMapper} (hmapper : entry.mapper = some mapper)
    {outcome : EffectOutcome (Val (RustTypes.effectOutput effectType))
      (Val (RustTypes.effectError effectType))} {panic : Panic}
    (hpanic : mapper ⟨_, _, outcome⟩ = .error panic) : Raised core panic := by
  obtain ⟨message, command, time, hmem, hsame, hcommand, _⟩ := h
  have heffect : effectType = command.descriptorType := htype.symm.trans hcommand
  subst heffect
  have hmapped : command.mapper = some mapper := hsame.symm.trans hmapper
  unfold EffectCommand.mapper at hmapped
  obtain ⟨map, hmap, rfl⟩ := Option.map_eq_some_iff.mp hmapped
  simp only [ErasedOutcome.downcast_self] at hpanic
  exact .outcome ⟨_, hmem, rfl⟩ hmap outcome (callback_map_error hpanic)

/-! ## Excuses -/

/-- How a method may stop: by a panic of the application, or by an error that
    is not the runtime's own and that the state records if it is a fault. -/
inductive Excused : Stop → Core → Prop where
  | panicked {panic : Panic} {core : Core} (h : Raised core panic) :
      Excused (.panicked panic) core
  | error {error : RuntimeError} {core : Core} (h : ¬ error.Misdelivers)
      (hfault : core.fault = none ∨ core.fault = some error) : Excused (.error error) core
  | outOfFuel {core : Core} : Excused .outOfFuel core

/-- If the computation stopped, it was excused. -/
abbrev Excuses {α : Type} (result : EStateM.Result Stop Core α) : Prop := Stops Excused result

section Methods

variable {α : Type} {core : Core}

theorem excuses_failWithFault (hok : core.fault = none) {component : ComponentId}
    {descriptorType : Option String} {work : TraceId} {reason : String}
    (hreason : reason ∉ deliveryReasons) :
    Excuses ((failWithFault component descriptorType work reason : Run α).run core) := by
  rw [run_failWithFault hok]
  exact .error hreason (.inr rfl)

theorem excuses_failHarness (hok : core.fault = none) {reason : String}
    (hreason : reason ∉ deliveryReasons) : Excuses ((failHarness reason : Run α).run core) :=
  .error hreason (.inl hok)

theorem excuses_callback {result : Callback α}
    (h : ∀ panic, result = .error panic → Raised core panic) :
    Excuses ((callback result : Run α).run core) := by
  cases result with
  | ok value => trivial
  | error panic => exact .panicked (h panic rfl)

end Methods

/-- A callback that returns leaves the state alone. -/
theorem callback_eq_ok {α : Type} {core core' : Core} {result : Callback α} {value : α}
    (h : (callback result : Run α).run core = .ok value core') :
    result = .ok value ∧ core' = core := by
  cases result with
  | ok returned =>
      cases h
      exact ⟨rfl, rfl⟩
  | error panic => cases h

/-! ## Declarations -/

section Arms

variable {message : TypeId} {core : Core} {component : ComponentId} {cause : TraceId}

theorem excuses_interpretEffect (hok : core.fault = none) (command : EffectCommand message) :
    Excuses ((interpretEffect component cause command).run core) := by
  unfold interpretEffect
  rw [Exec.run_bind_ok (run_commandTrace core rfl), Exec.run_bind_ok (EStateM.run_get _)]
  split
  · refine excuses_failWithFault ?_ (by decide)
    exact hok
  · split
    · refine excuses_failWithFault ?_ (by decide)
      exact hok
    · trivial

theorem excuses_interpretSend (hok : core.fault = none) (command : SendCommand) :
    Excuses ((@interpretSend _ message component cause command).run core) := by
  unfold interpretSend
  rw [Exec.run_bind_ok (run_commandTrace core rfl), Exec.run_bind_ok (EStateM.run_get _)]
  split
  · refine excuses_failWithFault ?_ ?_
    · exact hok
    · rw [String.append_assoc]
      exact append_notMem_deliveryReasons (by decide) (by decide) _
  · trivial

/-- What the Port checks find is the binding of the Port. -/
theorem resolvePort_eq_ok {protocol : TypeId} {port : Port protocol} {work : TraceId}
    {noun : String} {binding : PortBinding} {core' : Core} (hok : core.fault = none)
    (h : (resolvePort component port work noun).run core = .ok binding core') :
    core' = core ∧ binding ∈ core.program.bindings ∧ binding.protocol = protocol := by
  rcases resolvePort_cases component hok port work noun with
    ⟨_, hrun⟩ | ⟨_, hrun⟩ | ⟨found, _, hfound, hrun⟩
  · rw [hrun] at h
    cases h
  · rw [hrun] at h
    cases h
  · rw [hrun] at h
    cases h
    have hprotocol := List.find?_some hfound
    rw [Bool.and_eq_true, decide_eq_true_eq] at hprotocol
    exact ⟨rfl, List.mem_of_find?_eq_some hfound, hprotocol.1⟩

theorem excuses_resolvePort (hok : core.fault = none) {protocol : TypeId} (port : Port protocol)
    (work : TraceId) {noun : String}
    (hforeign : noun ++ " Port belongs to another Program" ∉ deliveryReasons)
    (hunbound : noun ++ " Port has no runtime binding" ∉ deliveryReasons) :
    Excuses ((resolvePort component port work noun).run core) := by
  rcases resolvePort_cases component hok port work noun with
    ⟨_, hrun⟩ | ⟨_, hrun⟩ | ⟨found, _, _, hrun⟩
  · rw [hrun]
    exact .error hforeign (.inr rfl)
  · rw [hrun]
    exact .error hunbound (.inr rfl)
  · rw [hrun]
    trivial

/-- The conversion of a Protocol Message for the provider of a Port. -/
theorem excuses_convert {binding : PortBinding} (hbinding : binding ∈ core.program.bindings)
    {message : ErasedValue} (htype : message.type = RustTypes.protocolMessage binding.protocol) :
    Excuses ((callback (binding.convert message) : Run ErasedValue).run core) := by
  refine excuses_callback ?_
  intro panic hpanic
  obtain ⟨value, hraised⟩ := binding.convert_error htype hpanic
  exact .conversion hbinding value hraised

theorem excuses_interpretNotify (hok : core.fault = none) (command : NotificationCommand) :
    Excuses ((@interpretNotify _ message component cause command).run core) := by
  unfold interpretNotify
  rw [Exec.run_bind_ok (run_commandTrace core rfl)]
  refine stops_bind (excuses_resolvePort ?_ command.port _ (by decide) (by decide)) ?_
  · exact hok
  intro binding core₁ hresolved
  obtain ⟨rfl, hbinding, hprotocol⟩ := resolvePort_eq_ok (by exact hok) hresolved
  refine stops_bind (excuses_callback ?_) ?_
  · intro panic hpanic
    exact .notification (voiced_emitted core cause component (.notify command))
      (callback_map_error hpanic)
  · intro protocolMessage core₂ hmessage
    obtain ⟨hconverted, rfl⟩ := callback_eq_ok hmessage
    have htype := ErasedValue.type_of_map hconverted
    rw [← hprotocol] at htype
    exact stops_bind (excuses_convert (by exact hbinding) htype) fun _ _ _ => trivial

theorem excuses_interpretRequest (hok : core.fault = none) (command : RequestCommand message) :
    Excuses ((interpretRequest component cause command).run core) := by
  unfold interpretRequest
  rw [Exec.run_bind_ok (run_commandTrace core rfl)]
  refine stops_bind (excuses_resolvePort ?_ command.port _ (by decide) (by decide)) ?_
  · exact hok
  intro binding core₁ hresolved
  obtain ⟨rfl, hbinding, hprotocol⟩ := resolvePort_eq_ok (by exact hok) hresolved
  rw [Exec.run_bind_ok (EStateM.run_get _)]
  dsimp only
  rw [Exec.run_bind_ok (EStateM.run_set _ _)]
  refine stops_bind (excuses_callback ?_) ?_
  · intro panic hpanic
    have hvoiced := voiced_emitted core cause component (.request command)
    exact (Raised.request hvoiced _ (callback_map_error hpanic)).of_eq rfl rfl rfl
  · intro protocolMessage core₂ hmessage
    obtain ⟨hconverted, rfl⟩ := callback_eq_ok hmessage
    have htype := ErasedValue.type_of_map hconverted
    rw [← hprotocol] at htype
    exact stops_bind (excuses_convert (by exact hbinding) htype) fun _ _ _ => trivial

theorem excuses_interpretReply (hok : core.fault = none) (htagged : Tagged core)
    (command : ReplyCommand) :
    Excuses ((@interpretReply _ message component cause command).run core) := by
  unfold interpretReply
  rw [Exec.run_bind_ok (run_commandTrace core rfl), Exec.run_bind_ok (EStateM.run_get _)]
  dsimp only
  rw [Core.emitted_requests]
  cases hrequest : core.requests.find? (·.correlation = command.replyTo.correlation) with
  | none =>
      refine excuses_failWithFault ?_ (by decide)
      exact hok
  | some request =>
      dsimp only
      rw [Exec.run_bind_ok (EStateM.run_set _ _)]
      split
      · refine excuses_failWithFault ?_ (by decide)
        exact hok
      · rename_i htype
        rw [Exec.run_bind_ok (run_pushChild _ _ _)]
        refine stops_bind (excuses_callback ?_) fun _ _ _ => trivial
        intro panic hpanic
        have hcreates := htagged.requests request (List.mem_of_find?_eq_some hrequest)
        have hemitted : (core.emitted cause component
            (.reply command : Declaration message)).Creates request :=
          hcreates.mono (by rw [Recorded.declarations_emitted]; exact List.subset_append_left _ _)
        exact (Core.Creates.raises hemitted (not_not.mp htype).symm hpanic).of_eq rfl rfl rfl

theorem excuses_interpretAfter (hok : core.fault = none) (delay : Duration) (value : Val message) :
    Excuses ((interpretAfter component cause delay value).run core) := by
  unfold interpretAfter
  rw [Exec.run_bind_ok (run_commandTrace core rfl), Exec.run_bind_ok (EStateM.run_get _)]
  split
  · refine excuses_failWithFault ?_ (by decide)
    exact hok
  · trivial

theorem excuses_interpretDeclaration (hok : core.fault = none) (htagged : Tagged core)
    (declaration : Declaration message) :
    Excuses ((interpretDeclaration component cause declaration).run core) := by
  cases declaration with
  | effect command => exact excuses_interpretEffect hok command
  | send command => exact excuses_interpretSend hok command
  | notify command => exact excuses_interpretNotify hok command
  | request command => exact excuses_interpretRequest hok command
  | reply command => exact excuses_interpretReply hok htagged command
  | after delay value => exact excuses_interpretAfter hok delay value

end Arms

section Sequences

variable {builder : ProgramBuilder} {core : Core} {component : ComponentId} {cause : TraceId}

theorem excuses_interpretDeclarations {message : TypeId}
    (declarations : List (Declaration message)) (hok : core.fault = none)
    (hupright : Upright builder core) (hauthor : core.Authors cause component message) :
    Excuses ((interpretDeclarations component cause declarations).run core) := by
  induction declarations generalizing core with
  | nil => trivial
  | cons declaration declarations ih =>
      unfold interpretDeclarations
      refine stops_bind (excuses_interpretDeclaration hok hupright.tagged declaration) ?_
      intro _ core' hrun
      have hproceeds := interpretDeclaration_proceeds hok hauthor declaration
      rw [hrun] at hproceeds
      obtain ⟨hpath, hok', _⟩ := hproceeds
      exact ih hok' (hupright.acts hpath) (hauthor.path hpath)

/-! ## Projections -/

theorem excuses_activateSource (hok : core.fault = none)
    (subscription : ErasedRuntimeSubscription) (work : TraceId) :
    Excuses ((activateSource component subscription work).run core) := by
  unfold activateSource
  rw [Exec.run_bind_ok (EStateM.run_get _)]
  dsimp only
  split
  · refine excuses_failWithFault ?_ (by decide)
    exact hok
  · split
    · refine excuses_failWithFault ?_ (by decide)
      exact hok
    · split
      · refine excuses_failWithFault ?_ (by decide)
        exact hok
      · trivial

theorem excuses_applySubscriptionChange (hok : core.fault = none)
    (change : ErasedSubscriptionChange) :
    Excuses ((applySubscriptionChange component cause change).run core) := by
  unfold applySubscriptionChange
  cases change with
  | start subscription =>
      dsimp only
      rw [Exec.run_bind_ok (run_pushChild _ _ _)]
      refine excuses_activateSource ?_ subscription _
      exact hok
  | retain subscription => trivial
  | replace subscription =>
      dsimp only
      rw [Exec.run_bind_ok (run_pushChild _ _ _), Exec.run_bind_ok (EStateM.run_modify _ _)]
      refine excuses_activateSource ?_ subscription _
      exact hok
  | cancel id => trivial

theorem excuses_applyChanges (changes : List ErasedSubscriptionChange) (hok : core.fault = none)
    (hroot : core.Rooted cause component) (hwants : ∀ change ∈ changes, core.Wants component change) :
    Excuses ((applyChanges component cause changes).run core) := by
  induction changes generalizing core with
  | nil => trivial
  | cons change changes ih =>
      unfold applyChanges
      refine stops_bind (excuses_applySubscriptionChange hok change) ?_
      intro _ core' hrun
      have hproceeds :=
        applySubscriptionChange_proceeds hok hroot (hwants change List.mem_cons_self)
      rw [hrun] at hproceeds
      obtain ⟨hpath, hok', _⟩ := hproceeds
      refine ih hok' (hroot.path hpath) ?_
      intro later hlater
      exact (hwants later (List.mem_cons_of_mem _ hlater)).path hpath

theorem excuses_applyReconciled (hok : core.fault = none) (hroot : core.Rooted cause component)
    {outcome : Except SubscriptionId (List ErasedSubscriptionChange)}
    (hwarrants : core.Warrants component outcome) :
    Excuses ((applyReconciled component cause outcome).run core) := by
  cases outcome with
  | error duplicate =>
      exact excuses_failWithFault hok (append_notMem_deliveryReasons (by decide) (by decide) _)
  | ok changes =>
      refine excuses_applyChanges (sortChanges changes) hok hroot ?_
      intro change hchange
      exact hwarrants change ((List.mem_insertionSort _).mp hchange)

theorem excuses_reconcileComponent {id : ComponentId} {messageType : TypeId}
    {kernel : ErasedComponentKernel}
    (hkernel : core.program.component? id messageType = some kernel) :
    Excuses ((reconcileComponent id messageType kernel).run core) := by
  have hstored : kernel ∈ (core.withComponent id messageType kernel).program.components :=
    List.mem_of_find?_eq_some (Program.component?_setComponent hkernel rfl rfl)
  unfold reconcileComponent onComponent ErasedComponentKernel.reconcileSubscriptionsErased
  cases hdesired : kernel.desired with
  | error panic =>
      simp only [EStateM.run, hdesired]
      exact .panicked (.subscriptions hstored _ hdesired)
  | ok desired =>
      cases hreconcile : kernel.kernel.subscriptions.reconcile desired with
      | error duplicate =>
          simp only [EStateM.run, hdesired, hreconcile]
          trivial
      | ok reconciled =>
          simp only [EStateM.run, hdesired, hreconcile]
          trivial

/-- The projection of a Component and the interpretation of its Command, at the
    end of a transition. -/
theorem excuses_settle {id : ComponentId} {messageType : TypeId} {kernel : ErasedComponentKernel}
    {command : ErasedCommand} (hok : core.fault = none) (hupright : Upright builder core)
    (hkernel : core.program.component? id messageType = some kernel)
    (hauthor : core.Authors cause id command.messageType) : Excuses ((do
      let (changes, _) ← reconcileComponent id messageType kernel
      applyReconciled id cause changes
      interpret id cause command
      pure 1 : Run Nat).run core) := by
  refine stops_bind (excuses_reconcileComponent hkernel) ?_
  intro result core₁ hreconciled
  have hproceeds₁ := reconcileComponent_proceeds hok hkernel
  rw [hreconciled] at hproceeds₁
  obtain ⟨hpath₁, hok₁, _, hwarrants⟩ := hproceeds₁
  have hauthor₁ := hauthor.path hpath₁
  refine stops_bind (excuses_applyReconciled hok₁ hauthor₁.rooted hwarrants) ?_
  intro _ core₂ happlied
  have hproceeds₂ := applyReconciled_proceeds hok₁ hauthor₁.rooted hwarrants
  rw [happlied] at hproceeds₂
  obtain ⟨hpath₂, hok₂, _⟩ := hproceeds₂
  have hupright₂ := (hupright.acts hpath₁).acts hpath₂
  exact stops_bind (excuses_interpretDeclarations _ hok₂ hupright₂ (hauthor₁.path hpath₂))
    fun _ _ _ => trivial

end Sequences

end Controlled

end Samara
