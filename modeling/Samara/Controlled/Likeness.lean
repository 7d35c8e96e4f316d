/-
  Samara.Controlled.Likeness

  Two controlled runtimes side by side, whose Programs answer every lookup
  alike: all that an operation does is the same in both.  What it takes is
  collected in `Likeness`; the rest of this file is one lemma per operation.
-/
import Mathlib.Data.List.Sort
import Samara.Controlled.Harness
import Samara.Logic.Relational

namespace Samara

open Exec (Relates EndsBy relates_pure relates_throw relates_bind relates_ite relates_get
  relates_set relates_modify)

variable [RustTypes]

namespace Controlled

/-- Programs that cannot be told apart by running them: their lookups answer
    alike, up to kernels whose methods end alike.  Changes may be listed in
    another order, and the journals may keep that order. -/
structure Likeness where
  programs : Program → Program → Prop
  kernels : ErasedComponentKernel → ErasedComponentKernel → Prop
  journals : List Observation → List Observation → Prop
  program {first second : Program} (h : programs first second) : second.program = first.program
  declaresEffect {first second : Program} (h : programs first second) (token : CapabilityToken)
    (descriptor : TypeId) :
      second.declaresEffect token descriptor = first.declaresEffect token descriptor
  declaresSourcePlan {first second : Program} (h : programs first second)
    (token : CapabilityToken) (descriptor terminal : DescriptorType TypeId) :
      second.declaresSourcePlan token descriptor terminal =
        first.declaresSourcePlan token descriptor terminal
  sourceRequirement {first second : Program} (h : programs first second)
    (token : CapabilityToken) : second.sourceRequirement token = first.sourceRequirement token
  binding? {first second : Program} (h : programs first second) (protocol : TypeId)
    (port : PortId) : second.binding? protocol port = first.binding? protocol port
  component? {first second : Program} (h : programs first second) (id : ComponentId)
    (messageType : TypeId) :
      Option.Rel kernels (first.component? id messageType) (second.component? id messageType)
  setComponent {first second : Program} (h : programs first second)
    {left right : ErasedComponentKernel} (hkernels : kernels left right) (messageType : TypeId) :
      programs (first.setComponent left.id messageType left)
        (second.setComponent left.id messageType right)
  observe {first second : List Observation} (h : journals first second)
    (observation : Observation) : journals (first ++ [observation]) (second ++ [observation])
  desired {left right : ErasedComponentKernel} (h : kernels left right) :
    (∃ panic, left.desired = .error panic ∧ right.desired = .error panic) ∨
      ∃ desired desired', left.desired = .ok desired ∧ right.desired = .ok desired' ∧
        ∀ (first second : List Observation) (id : ComponentId), journals first second →
          journals (first ++ [.projected id ⟨_, desired⟩]) (second ++ [.projected id ⟨_, desired'⟩])
  transition {left right : ErasedComponentKernel} (h : kernels left right)
    (message : ErasedValue) : EndsBy kernels Eq
      ((ErasedComponentKernel.transitionErased message).run left)
      ((ErasedComponentKernel.transitionErased message).run right)
  reconcile {left right : ErasedComponentKernel} (h : kernels left right) :
    EndsBy kernels (fun changes changes' => changes.map sortChanges = changes'.map sortChanges)
      (ErasedComponentKernel.reconcileSubscriptionsErased.run left)
      (ErasedComponentKernel.reconcileSubscriptionsErased.run right)
  takeInitialCommand {left right : ErasedComponentKernel} (h : kernels left right) :
    EndsBy kernels Eq (ErasedComponentKernel.takeInitialCommandErased.run left)
      (ErasedComponentKernel.takeInitialCommandErased.run right)

/-- Two runtimes in one state, but for what `S` allows to differ. -/
def Likeness.Cores (S : Likeness) (first second : Core) : Prop :=
  ∃ program journal, S.programs first.program program ∧ S.journals first.journal journal ∧
    second = { first with program, journal }

/-- `x` returns the same in two such runtimes, a value that satisfies `Q`. -/
abbrev SameWith (S : Likeness) {α : Type} (Q : α → Prop) (x y : Run α) : Prop :=
  Relates S.Cores Q x y

/-- Both know the same Components. -/
theorem Likeness.isNone (S : Likeness) {first second : Program} (h : S.programs first second)
    (id : ComponentId) (messageType : TypeId) :
    (second.component? id messageType).isNone = (first.component? id messageType).isNone := by
  have hfound := S.component? h id messageType
  generalize first.component? id messageType = left at hfound ⊢
  generalize second.component? id messageType = right at hfound ⊢
  cases hfound with
  | none => rfl
  | some _ => rfl

abbrev Same (S : Likeness) {α : Type} (x y : Run α) : Prop := SameWith S (fun _ => True) x y

section Operations

variable {S : Likeness} {α : Type}

theorem same_callback (result : Callback α) : Same S (callback result) (callback result) := by
  cases result with
  | error panic => exact relates_throw
  | ok value => exact relates_pure trivial

/-- A step that leaves the Program and the journal alone and does not read them. -/
theorem same_modify (update : Core → Core) (h : ∀ core : Core, ∀ program journal,
    (update core).program = core.program ∧ (update core).journal = core.journal ∧
      update { core with program, journal } = { update core with program, journal }) :
    Same S (modify update) (modify update) := by
  refine relates_modify ?_
  rintro first second ⟨program, journal, hprogram, hjournal, rfl⟩
  obtain ⟨hsameProgram, hsameJournal, hupdate⟩ := h first program journal
  refine ⟨program, journal, ?_, ?_, hupdate⟩
  · rw [hsameProgram]
    exact hprogram
  · rw [hsameJournal]
    exact hjournal

theorem same_observe (observation : Observation) :
    Same S (observe observation) (observe observation) := by
  refine relates_modify ?_
  rintro first second ⟨program, journal, hprogram, hjournal, rfl⟩
  exact ⟨program, _, hprogram, S.observe hjournal observation, rfl⟩

theorem same_pushTrace (cause : Option TraceId) (event : TraceEvent) :
    Same S (pushTrace cause event) (pushTrace cause event) := by
  refine relates_get ?_
  rintro first second ⟨program, journal, hprogram, hjournal, rfl⟩
  exact relates_bind (relates_set ⟨program, journal, hprogram, hjournal, rfl⟩) fun _ _ => relates_pure trivial

theorem same_setFault (component : ComponentId) (descriptorType : Option String) (work : TraceId)
    (reason : String) : Same S (setFault component descriptorType work reason)
      (setFault component descriptorType work reason) := by
  refine relates_get ?_
  rintro first second ⟨program, journal, hprogram, hjournal, rfl⟩
  dsimp only
  cases first.fault with
  | some error => exact relates_pure trivial
  | none =>
      exact relates_bind (relates_set ⟨program, journal, hprogram, hjournal, rfl⟩) fun _ _ => relates_pure trivial

theorem same_failWithFault (Q : α → Prop) (component : ComponentId)
    (descriptorType : Option String) (work : TraceId) (reason : String) :
    SameWith S Q (failWithFault component descriptorType work reason)
      (failWithFault component descriptorType work reason) :=
  relates_bind (same_setFault component descriptorType work reason) fun _ _ => relates_throw

theorem same_ensureNotFaulted : Same S ensureNotFaulted ensureNotFaulted := by
  refine relates_get ?_
  rintro first second ⟨program, journal, hprogram, hjournal, rfl⟩
  dsimp only
  cases first.fault with
  | some error => exact relates_throw
  | none => exact relates_pure trivial

theorem same_scheduleMessage (message : QueuedMessage) (deadline : Duration) :
    Same S (scheduleMessage message deadline) (scheduleMessage message deadline) :=
  same_modify _ fun _ _ _ => ⟨rfl, rfl, rfl⟩

/-! ## Subscription changes -/

theorem same_activateSource (component : ComponentId) (subscription : ErasedRuntimeSubscription)
    (work : TraceId) : Same S (activateSource component subscription work)
      (activateSource component subscription work) := by
  refine relates_get ?_
  rintro first second ⟨program, journal, hprogram, hjournal, rfl⟩
  dsimp only
  rw [S.declaresSourcePlan hprogram]
  refine relates_ite (fun _ => same_failWithFault _ _ _ _ _) fun _ => ?_
  refine relates_ite (fun _ => same_failWithFault _ _ _ _ _) fun _ => ?_
  refine relates_ite (fun _ => same_failWithFault _ _ _ _ _) fun _ => ?_
  exact relates_set ⟨program, _, hprogram, S.observe hjournal _, rfl⟩

theorem same_applySubscriptionChange (component : ComponentId) (cause : TraceId)
    (change : ErasedSubscriptionChange) : Same S (applySubscriptionChange component cause change)
      (applySubscriptionChange component cause change) := by
  cases change with
  | start subscription =>
      refine relates_bind (same_pushTrace _ _) fun work _ => ?_
      exact same_activateSource component subscription work
  | retain subscription =>
      refine relates_bind (same_pushTrace _ _) fun _ _ => ?_
      exact same_modify _ fun _ _ _ => ⟨rfl, rfl, rfl⟩
  | replace subscription =>
      refine relates_bind (same_pushTrace _ _) fun work _ => ?_
      refine relates_bind (same_modify _ fun _ _ _ => ⟨rfl, rfl, rfl⟩) fun _ _ => ?_
      exact same_activateSource component subscription work
  | cancel id =>
      refine relates_get ?_
      rintro first second ⟨program, journal, hprogram, hjournal, rfl⟩
      refine relates_bind (same_pushTrace _ _) fun _ _ => ?_
      exact same_modify _ fun _ _ _ => ⟨rfl, rfl, rfl⟩

theorem same_applyChanges (component : ComponentId) (cause : TraceId)
    (changes : List ErasedSubscriptionChange) :
    Same S (applyChanges component cause changes) (applyChanges component cause changes) := by
  induction changes with
  | nil => exact relates_pure trivial
  | cons change changes ih =>
      exact relates_bind (same_applySubscriptionChange component cause change) fun _ _ => ih

/-! ## Command interpretation -/

section Arms

variable {message : TypeId} (component : ComponentId) (cause : TraceId)

theorem same_commandTrace (kind : TraceCommandKind) (detailType : String)
    (targetComponent : Option ComponentId) (targetPort : Option PortId)
    (declaration : Declaration message) :
    Same S (commandTrace cause component kind detailType targetComponent targetPort declaration)
      (commandTrace cause component kind detailType targetComponent targetPort declaration) := by
  refine relates_bind (same_pushTrace _ _) fun work _ => relates_get ?_
  rintro first second ⟨program, journal, hprogram, hjournal, rfl⟩
  exact relates_bind (same_observe _) fun _ _ => relates_pure trivial

theorem same_interpretEffect (command : EffectCommand message) :
    Same S (interpretEffect component cause command) (interpretEffect component cause command) := by
  refine relates_bind (same_commandTrace _ _ _ _ _ _ _) fun work _ => relates_get ?_
  rintro first second ⟨program, journal, hprogram, hjournal, rfl⟩
  dsimp only
  rw [S.declaresEffect hprogram]
  refine relates_ite (fun _ => same_failWithFault _ _ _ _ _) fun _ => ?_
  refine relates_ite (fun _ => same_failWithFault _ _ _ _ _) fun _ => ?_
  exact relates_set ⟨program, journal, hprogram, hjournal, rfl⟩

theorem same_interpretSend (command : SendCommand) :
    Same S (@interpretSend _ message component cause command)
      (@interpretSend _ message component cause command) := by
  refine relates_bind (same_commandTrace _ _ _ _ _ _ _) fun work _ => relates_get ?_
  rintro first second ⟨program, journal, hprogram, hjournal, rfl⟩
  dsimp only
  rw [S.program hprogram, S.isNone hprogram]
  refine relates_ite (fun _ => same_failWithFault _ _ _ _ _) fun _ => ?_
  exact same_scheduleMessage _ _

theorem same_resolvePort {protocol : TypeId} (port : Port protocol) (work : TraceId)
    (noun : String) :
    Same S (resolvePort component port work noun) (resolvePort component port work noun) := by
  refine relates_get ?_
  rintro first second ⟨program, journal, hprogram, hjournal, rfl⟩
  dsimp only
  rw [S.program hprogram, S.binding? hprogram]
  refine relates_ite (fun _ => same_failWithFault _ _ _ _ _) fun _ => ?_
  cases first.program.binding? protocol port.id with
  | none => exact same_failWithFault _ _ _ _ _
  | some binding => exact relates_pure trivial

theorem same_interpretNotify (command : NotificationCommand) :
    Same S (@interpretNotify _ message component cause command)
      (@interpretNotify _ message component cause command) := by
  refine relates_bind (same_commandTrace _ _ _ _ _ _ _) fun work _ => ?_
  refine relates_bind (same_resolvePort _ _ _ _) fun binding _ => ?_
  refine relates_bind (same_callback _) fun protocolMessage _ => ?_
  refine relates_bind (same_callback _) fun converted _ => relates_get ?_
  rintro first second ⟨program, journal, hprogram, hjournal, rfl⟩
  exact same_scheduleMessage _ _

theorem same_interpretRequest (command : RequestCommand message) :
    Same S (interpretRequest component cause command)
      (interpretRequest component cause command) := by
  refine relates_bind (same_commandTrace _ _ _ _ _ _ _) fun work _ => ?_
  refine relates_bind (same_resolvePort _ _ _ _) fun binding _ => relates_get ?_
  rintro first second ⟨program, journal, hprogram, hjournal, rfl⟩
  refine relates_bind (relates_set ⟨program, journal, hprogram, hjournal, rfl⟩) fun _ _ => ?_
  refine relates_bind (same_callback _) fun protocolMessage _ => ?_
  refine relates_bind (same_callback _) fun converted _ => ?_
  refine relates_bind (same_modify _ fun _ _ _ => ⟨rfl, rfl, rfl⟩) fun _ _ => ?_
  refine relates_bind (same_observe _) fun _ _ => ?_
  exact same_scheduleMessage _ _

theorem same_interpretReply (command : ReplyCommand) :
    Same S (@interpretReply _ message component cause command)
      (@interpretReply _ message component cause command) := by
  refine relates_bind (same_commandTrace _ _ _ _ _ _ _) fun work _ => relates_get ?_
  rintro first second ⟨program, journal, hprogram, hjournal, rfl⟩
  dsimp only
  cases first.requests.find? (·.correlation = command.replyTo.correlation) with
  | none => exact same_failWithFault _ _ _ _ _
  | some request =>
      refine relates_bind (relates_set ⟨program, journal, hprogram, hjournal, rfl⟩) fun _ _ => ?_
      refine relates_ite (fun _ => same_failWithFault _ _ _ _ _) fun _ => ?_
      refine relates_bind (same_pushTrace _ _) fun outcome _ => ?_
      refine relates_bind (same_callback _) fun mapped _ => ?_
      refine relates_bind (same_observe _) fun _ _ => ?_
      exact same_scheduleMessage _ _

theorem same_interpretAfter (delay : Duration) (value : Val message) :
    Same S (interpretAfter component cause delay value)
      (interpretAfter component cause delay value) := by
  refine relates_bind (same_commandTrace _ _ _ _ _ _ _) fun work _ => relates_get ?_
  rintro first second ⟨program, journal, hprogram, hjournal, rfl⟩
  dsimp only
  cases Duration.checkedAdd first.now delay with
  | none => exact same_failWithFault _ _ _ _ _
  | some deadline => exact same_scheduleMessage _ _

theorem same_interpretDeclaration (declaration : Declaration message) :
    Same S (interpretDeclaration component cause declaration)
      (interpretDeclaration component cause declaration) := by
  cases declaration with
  | effect command => exact same_interpretEffect component cause command
  | send command => exact same_interpretSend component cause command
  | notify command => exact same_interpretNotify component cause command
  | request command => exact same_interpretRequest component cause command
  | reply command => exact same_interpretReply component cause command
  | after delay value => exact same_interpretAfter component cause delay value

theorem same_interpretDeclarations (declarations : List (Declaration message)) :
    Same S (interpretDeclarations component cause declarations)
      (interpretDeclarations component cause declarations) := by
  induction declarations with
  | nil => exact relates_pure trivial
  | cons declaration declarations ih =>
      exact relates_bind (same_interpretDeclaration component cause declaration) fun _ _ => ih

theorem same_interpret (command : ErasedCommand) :
    Same S (interpret component cause command) (interpret component cause command) :=
  same_interpretDeclarations component cause _

end Arms

/-! ## Kernels -/

theorem reconcileSubscriptionsErased_id (kernel : ErasedComponentKernel) :
    (Exec.final (ErasedComponentKernel.reconcileSubscriptionsErased.run kernel)).id =
      kernel.id := by
  unfold ErasedComponentKernel.reconcileSubscriptionsErased EStateM.run
  dsimp only
  cases kernel.desired with
  | error panic => rfl
  | ok desired =>
      dsimp only
      cases kernel.kernel.subscriptions.reconcile desired with
      | error id => rfl
      | ok result => rfl

theorem transitionErased_id (message : ErasedValue) (kernel : ErasedComponentKernel) :
    (Exec.final ((ErasedComponentKernel.transitionErased message).run kernel)).id = kernel.id := by
  unfold ErasedComponentKernel.transitionErased EStateM.run
  dsimp only
  cases message.downcast kernel.messageType with
  | none => rfl
  | some value =>
      dsimp only
      rcases kernel.kernel.component.update kernel.kernel.model value with ⟨model, panic | command⟩
      · rfl
      · rfl

/-- A method of related kernels, with what follows it. -/
theorem same_onComponent {β γ : Type} {V : β → β → Prop} {Q : γ → Prop} {id : ComponentId}
    {messageType : TypeId} {left right : ErasedComponentKernel} (hid : left.id = id)
    {action : EStateM Panic ErasedComponentKernel β}
    (hends : EndsBy S.kernels V (action.run left) (action.run right))
    (haction : (Exec.final (action.run left)).id = left.id)
    {f g : β × ErasedComponentKernel → Run γ}
    (hrest : ∀ a b left right, V a b → S.kernels left right → left.id = id →
      SameWith S Q (f (a, left)) (g (b, right))) :
    SameWith S Q (onComponent id messageType left action >>= f)
      (onComponent id messageType right action >>= g) := by
  rintro first second ⟨program, journal, hprogram, hjournal, rfl⟩
  rw [EStateM.run_bind, EStateM.run_bind]
  unfold onComponent
  rw [hid] at haction
  unfold EStateM.run at hends haction ⊢
  generalize action left = result at hends haction
  generalize action right = result' at hends
  cases hends with
  | @ok _ _ left _ hvalues hkernels =>
      have hleft : left.id = id := haction
      have hset := S.setComponent hprogram hkernels messageType
      rw [hleft] at hset
      exact hrest _ _ _ _ hvalues hkernels hleft _ _ ⟨_, journal, hset, hjournal, rfl⟩
  | @error _ left _ hkernels =>
      have hleft : left.id = id := haction
      have hset := S.setComponent hprogram hkernels messageType
      rw [hleft] at hset
      exact .error ⟨_, journal, hset, hjournal, rfl⟩

theorem same_applyReconciled (component : ComponentId) (work : TraceId)
    {result result' : Except SubscriptionId (List ErasedSubscriptionChange)}
    (h : result.map sortChanges = result'.map sortChanges) :
    Same S (applyReconciled component work result) (applyReconciled component work result') := by
  cases result with
  | error duplicate =>
      cases result' with
      | error duplicate' =>
          cases h
          exact same_failWithFault _ _ _ _ _
      | ok changes' => cases h
  | ok changes =>
      cases result' with
      | error duplicate' => cases h
      | ok changes' =>
          have hsorted : sortChanges changes = sortChanges changes' := Except.ok.inj h
          show Same S (applyChanges component work (sortChanges changes))
            (applyChanges component work (sortChanges changes'))
          rw [hsorted]
          exact same_applyChanges component work (sortChanges changes')

/-- A reconciliation of related kernels, with what follows it. -/
theorem same_reconcileComponent {γ : Type} {Q : γ → Prop} {id : ComponentId}
    {messageType : TypeId} {left right : ErasedComponentKernel} (hid : left.id = id)
    (hkernels : S.kernels left right)
    {f g : Except SubscriptionId (List ErasedSubscriptionChange) × ErasedComponentKernel → Run γ}
    (hrest : ∀ a b left right, a.map sortChanges = b.map sortChanges → S.kernels left right →
      left.id = id → SameWith S Q (f (a, left)) (g (b, right))) :
    SameWith S Q (reconcileComponent id messageType left >>= f)
      (reconcileComponent id messageType right >>= g) := by
  unfold reconcileComponent
  rw [bind_assoc, bind_assoc]
  refine same_onComponent hid (S.reconcile hkernels) (reconcileSubscriptionsErased_id left) ?_
  intro a b left' right' hvalues hkernels' hid'
  rcases S.desired hkernels with ⟨panic, hleft, hright⟩ | ⟨desired, desired', hleft, hright, hproject⟩
  · rw [hleft, hright]
    exact hrest _ _ _ _ hvalues hkernels' hid'
  · rw [hleft, hright]
    dsimp only
    rw [bind_assoc, bind_assoc]
    have hobserved : Same S (observe (.projected id ⟨_, desired⟩))
        (observe (.projected id ⟨_, desired'⟩)) := by
      refine relates_modify ?_
      rintro first second ⟨program, journal, hprogram, hjournal, rfl⟩
      exact ⟨program, _, hprogram, hproject _ _ id hjournal, rfl⟩
    refine relates_bind hobserved fun _ _ => ?_
    rw [pure_bind, pure_bind]
    exact hrest _ _ _ _ hvalues hkernels' hid'

/-! ## Scheduled work -/

theorem same_popNextDue : Same S popNextDue popNextDue := by
  refine relates_get ?_
  rintro first second ⟨program, journal, hprogram, hjournal, rfl⟩
  have hdue : ({ first with program, journal } : Core).nextDue = first.nextDue := rfl
  rw [hdue]
  cases first.nextDue with
  | none => exact relates_pure trivial
  | some work =>
      exact relates_bind (relates_set ⟨program, _, hprogram, S.observe hjournal _, rfl⟩) fun _ _ => relates_pure trivial

theorem same_dropStaleWork (stamp : SourceStamp) (cause : TraceId) (mappedMessage : Bool) :
    Same S (dropStaleWork stamp cause mappedMessage) (dropStaleWork stamp cause mappedMessage) :=
  relates_bind (same_pushTrace _ _) fun _ _ => relates_pure trivial

theorem same_mapTerminalEvent (source : ActiveSource) (event : ErasedSourceEvent) :
    Same S (mapTerminalEvent source event) (mapTerminalEvent source event) := by
  rintro first second ⟨program, journal, hprogram, hjournal, rfl⟩
  unfold mapTerminalEvent EStateM.run
  dsimp only
  cases (SourcePlan.mapEvent event) source.plan with
  | error panic plan => exact .error ⟨program, journal, hprogram, hjournal, rfl⟩
  | ok outer plan => exact .ok trivial ⟨program, _, hprogram, S.observe hjournal _, rfl⟩

theorem same_scheduleMapped (source : ActiveSource) (cause : TraceId)
    (mapped : List (SourceEventKind × ErasedValue)) :
    Same S (scheduleMapped source cause mapped) (scheduleMapped source cause mapped) := by
  induction mapped with
  | nil => exact relates_pure trivial
  | cons event mapped ih =>
      refine relates_bind (same_pushTrace _ _) fun mappedTrace _ => relates_get ?_
      rintro first second ⟨program, journal, hprogram, hjournal, rfl⟩
      exact relates_bind (same_scheduleMessage _ _) fun _ _ => ih

theorem same_processSourceEvent (work : QueuedSourceEvent) :
    Same S (processSourceEvent work) (processSourceEvent work) := by
  refine relates_get ?_
  rintro first second ⟨program, journal, hprogram, hjournal, rfl⟩
  have hsource : ({ first with program, journal } : Core).source? work.stamp.component
      work.stamp.subscription = first.source? work.stamp.component work.stamp.subscription := rfl
  dsimp only
  rw [hsource]
  cases first.source? work.stamp.component work.stamp.subscription with
  | none => exact same_dropStaleWork _ _ _
  | some source =>
      refine relates_ite (fun _ => same_dropStaleWork _ _ _) fun _ => ?_
      refine relates_bind (same_mapTerminalEvent _ _) fun outer _ => ?_
      refine relates_bind (same_callback _) fun mapped _ => ?_
      refine relates_bind (same_observe _) fun _ _ => ?_
      refine relates_bind (same_modify _ fun _ _ _ => ⟨rfl, rfl, rfl⟩) fun _ _ => ?_
      exact relates_bind (same_scheduleMapped _ _ _) fun _ _ => relates_pure trivial

theorem same_fireTimer (message : QueuedMessage) :
    Same S (fireTimer message) (fireTimer message) := by
  unfold fireTimer
  cases message.delivery with
  | message => exact relates_pure trivial
  | timer => exact same_pushTrace _ _

theorem same_deliver (message : QueuedMessage) : Same S (deliver message) (deliver message) := by
  refine relates_bind (same_fireTimer message) fun deliveryCause _ => relates_get ?_
  rintro first second ⟨program, journal, hprogram, hjournal, rfl⟩
  dsimp only
  have hfound := S.component? hprogram message.target message.targetMessageType
  cases hkernel : first.program.component? message.target message.targetMessageType with
  | none =>
      rw [hkernel] at hfound
      generalize program.component? message.target message.targetMessageType = found at hfound
      cases hfound
      exact same_failWithFault _ _ _ _ _
  | some left =>
      have hid := (Program.component?_eq_some hkernel).1
      rw [hkernel] at hfound
      generalize program.component? message.target message.targetMessageType = found at hfound
      cases hfound with
      | @some _ right hkernels =>
          refine same_onComponent hid (S.transition hkernels _) (transitionErased_id _ left) ?_
          rintro command _ left' right' rfl hkernels' hid'
          cases command with
          | none => exact relates_throw
          | some command =>
              refine relates_bind (same_pushTrace _ _) fun transition _ => ?_
              refine same_reconcileComponent hid' hkernels' ?_
              intro changes changes' _ _ hchanges _ _
              refine relates_bind (same_applyReconciled _ _ hchanges) fun _ _ => ?_
              exact relates_bind (same_interpret _ _ _) fun _ _ => relates_pure trivial

theorem same_processMessage (message : QueuedMessage) :
    Same S (processMessage message) (processMessage message) := by
  refine relates_get ?_
  rintro first second ⟨program, journal, hprogram, hjournal, rfl⟩
  cases hsource : message.source with
  | none => exact same_deliver message
  | some stamp =>
      exact relates_ite (fun _ => same_deliver message) fun _ => same_dropStaleWork _ _ _

theorem same_processWork (work : ScheduledWork) : Same S (processWork work) (processWork work) := by
  unfold processWork
  cases work.kind with
  | message message => exact same_processMessage message
  | sourceEvent event => exact same_processSourceEvent event

/-! ## Drives -/

theorem same_report (transitions : Nat) : Same S (report transitions) (report transitions) := by
  refine relates_get ?_
  rintro first second ⟨program, journal, hprogram, hjournal, rfl⟩
  exact relates_pure trivial

theorem same_drainInstant (fuel transitions : Nat) :
    Same S (drainInstant fuel transitions) (drainInstant fuel transitions) := by
  induction fuel generalizing transitions with
  | zero => exact relates_throw
  | succ fuel ih =>
      refine relates_bind same_popNextDue fun due _ => ?_
      cases due with
      | none => exact relates_pure trivial
      | some work =>
          refine relates_bind (same_processWork work) fun more _ => ?_
          exact relates_bind same_ensureNotFaulted fun _ _ => ih (transitions + more)

theorem same_runUntilIdle (fuel : Nat) : Same S (runUntilIdle fuel) (runUntilIdle fuel) := by
  refine relates_bind same_ensureNotFaulted fun _ _ => ?_
  exact relates_bind (same_drainInstant fuel 0) fun transitions _ => same_report transitions

theorem same_advanceLoop (fuel : Nat) (target : Duration) (rounds transitions : Nat) :
    Same S (advanceLoop fuel target rounds transitions)
      (advanceLoop fuel target rounds transitions) := by
  induction rounds generalizing transitions with
  | zero => exact relates_throw
  | succ rounds ih =>
      refine relates_get ?_
      rintro first second ⟨program, journal, hprogram, hjournal, rfl⟩
      have hnext : ({ first with program, journal } : Core).nextDeadline (some target) =
        first.nextDeadline (some target) := rfl
      dsimp only
      rw [hnext]
      cases first.nextDeadline (some target) with
      | none => exact relates_pure trivial
      | some next =>
          refine relates_bind (relates_set ⟨program, journal, hprogram, hjournal, rfl⟩) fun _ _ => ?_
          exact relates_bind (same_runUntilIdle fuel) fun drained _ =>
            ih (transitions + drained.transitions)

theorem same_advance (fuel : Nat) (duration : Duration) :
    Same S (advance fuel duration) (advance fuel duration) := by
  refine relates_bind same_ensureNotFaulted fun _ _ => relates_get ?_
  rintro first second ⟨program, journal, hprogram, hjournal, rfl⟩
  dsimp only
  cases Duration.checkedAdd first.now duration with
  | none => exact relates_throw
  | some target =>
      refine relates_bind (same_runUntilIdle fuel) fun drained _ => ?_
      refine relates_bind (same_advanceLoop fuel target fuel _) fun transitions _ => ?_
      refine relates_bind (same_modify _ fun _ _ _ => ⟨rfl, rfl, rfl⟩) fun _ _ => ?_
      exact relates_bind (same_runUntilIdle fuel) fun last _ => same_report _

theorem same_advanceToNext (fuel : Nat) : Same S (advanceToNext fuel) (advanceToNext fuel) := by
  refine relates_bind same_ensureNotFaulted fun _ _ => ?_
  refine relates_bind (same_runUntilIdle fuel) fun drained _ => relates_get ?_
  rintro first second ⟨program, journal, hprogram, hjournal, rfl⟩
  have hnext : ({ first with program, journal } : Core).nextDeadline none =
    first.nextDeadline none := rfl
  dsimp only
  rw [hnext]
  cases first.nextDeadline none with
  | none => exact relates_throw
  | some next =>
      refine relates_bind (relates_set ⟨program, journal, hprogram, hjournal, rfl⟩) fun _ _ => ?_
      exact relates_bind (same_runUntilIdle fuel) fun last _ => same_report _

/-! ## Harness inputs -/

theorem same_send {component : TypeId} (target : ComponentRef component)
    (message : Val (RustTypes.componentMessage component)) :
    Same S (Controlled.send target message) (Controlled.send target message) := by
  refine relates_bind same_ensureNotFaulted fun _ _ => relates_get ?_
  rintro first second ⟨program, journal, hprogram, hjournal, rfl⟩
  dsimp only
  rw [S.program hprogram, S.isNone hprogram]
  refine relates_ite (fun _ => relates_throw) fun _ => ?_
  exact relates_bind (same_pushTrace _ _) fun cause _ => same_scheduleMessage _ _

theorem same_enqueueSourceEvent (source : ActiveSource) (terminalType : DescriptorType TypeId)
    (event : ErasedSourceEvent) : Same S (enqueueSourceEvent source terminalType event)
      (enqueueSourceEvent source terminalType event) := by
  refine relates_ite (fun _ => relates_throw) fun _ => ?_
  refine relates_bind (same_pushTrace _ _) fun cause _ => ?_
  exact relates_bind (same_observe _) fun _ _ => same_modify _ fun _ _ _ => ⟨rfl, rfl, rfl⟩

/-- The Source inputs share their search for one running Source. -/
theorem same_onlySource (sources : List ActiveSource) (reason : String)
    (enqueue : ActiveSource → Run Unit) (h : ∀ source, Same S (enqueue source) (enqueue source)) :
    Same S (match sources with | [source] => enqueue source | _ => failHarness reason)
      (match sources with | [source] => enqueue source | _ => failHarness reason) := by
  split
  · exact h _
  · exact relates_throw

theorem same_emitStream (streamItem : TypeId) (stream : CapabilityToken) (item : Val streamItem) :
    Same S (Controlled.emitStream streamItem stream item)
      (Controlled.emitStream streamItem stream item) := by
  refine relates_bind same_ensureNotFaulted fun _ _ => relates_get ?_
  rintro first second ⟨program, journal, hprogram, hjournal, rfl⟩
  dsimp only
  rw [S.sourceRequirement hprogram]
  cases first.program.sourceRequirement stream with
  | none => exact relates_throw
  | some requirement =>
      refine relates_ite (fun _ => relates_throw) fun _ => ?_
      exact same_onlySource (first.streamSources (.stream streamItem) stream) _ _
        fun source => same_enqueueSourceEvent source _ _

theorem same_closeStream (stream : CapabilityToken) :
    Same S (Controlled.closeStream stream) (Controlled.closeStream stream) := by
  refine relates_bind same_ensureNotFaulted fun _ _ => relates_get ?_
  rintro first second ⟨program, journal, hprogram, hjournal, rfl⟩
  dsimp only
  rw [S.sourceRequirement hprogram]
  cases first.program.sourceRequirement stream with
  | none => exact relates_throw
  | some requirement =>
      refine relates_ite (fun _ => relates_throw) fun _ => ?_
      exact same_onlySource (first.streamSources requirement.terminalType stream) _
        (fun source => enqueueSourceEvent source source.plan.terminalType
          source.plan.terminalEndedEvent) fun source => same_enqueueSourceEvent source _ _

theorem same_emitSource {component : TypeId} (target : ComponentRef component)
    (id : SubscriptionId) (descriptorType : DescriptorType TypeId)
    (event : SourceEvent (Val descriptorType.item) descriptorType.error.Val) :
    Same S (Controlled.emitSource target id descriptorType event)
      (Controlled.emitSource target id descriptorType event) := by
  refine relates_bind same_ensureNotFaulted fun _ _ => relates_get ?_
  rintro first second ⟨program, journal, hprogram, hjournal, rfl⟩
  dsimp only
  rw [S.program hprogram]
  refine relates_ite (fun _ => relates_throw) fun _ => ?_
  have hsource : ({ first with program, journal } : Core).source? target.id id =
    first.source? target.id id := rfl
  rw [hsource]
  cases first.source? target.id id with
  | none => exact relates_throw
  | some source => exact same_enqueueSourceEvent source _ _

theorem same_nextEffect (effectType : TypeId) :
    Same S (Controlled.nextEffect effectType) (Controlled.nextEffect effectType) := by
  refine relates_bind same_ensureNotFaulted fun _ _ => relates_get ?_
  rintro first second ⟨program, journal, hprogram, hjournal, rfl⟩
  dsimp only
  rw [S.program hprogram]
  cases first.effects.find? (PendingEffectEntry.isClaimable effectType) with
  | none => exact relates_throw
  | some entry =>
      refine relates_bind (relates_set ⟨program, journal, hprogram, hjournal, rfl⟩) fun _ _ => ?_
      cases entry.descriptor.bind (·.downcast effectType) with
      | none => exact relates_throw
      | some intent => exact relates_pure trivial

theorem same_complete {effectType : TypeId} (pending : PendingEffect effectType)
    (outcome : EffectOutcome (Val (RustTypes.effectOutput effectType))
      (Val (RustTypes.effectError effectType))) :
    Same S (Controlled.complete pending outcome) (Controlled.complete pending outcome) := by
  refine relates_bind same_ensureNotFaulted fun _ _ => relates_get ?_
  rintro first second ⟨program, journal, hprogram, hjournal, rfl⟩
  dsimp only
  rw [S.program hprogram]
  refine relates_ite (fun _ => relates_throw) fun _ => ?_
  cases first.effects.find? (PendingEffectEntry.isPending effectType pending.id) with
  | none => exact relates_throw
  | some entry =>
      refine relates_bind (relates_set ⟨program, journal, hprogram, hjournal, rfl⟩) fun _ _ => ?_
      refine relates_bind (same_pushTrace _ _) fun outcomeTrace _ => ?_
      cases entry.mapper with
      | none => exact relates_pure trivial
      | some mapper =>
          refine relates_bind (same_callback _) fun message _ => relates_get ?_
          rintro first second ⟨program, journal, hprogram, hjournal, rfl⟩
          exact same_scheduleMessage _ _

theorem same_perform (operation : Operation) : Same S (perform operation) (perform operation) := by
  cases operation with
  | send target message =>
      exact relates_bind (same_send target message) fun _ _ => relates_pure trivial
  | emitStream streamItem stream item =>
      exact relates_bind (same_emitStream streamItem stream item) fun _ _ => relates_pure trivial
  | closeStream stream =>
      exact relates_bind (same_closeStream stream) fun _ _ => relates_pure trivial
  | emitSource target id descriptorType event =>
      exact relates_bind (same_emitSource target id descriptorType event) fun _ _ =>
        relates_pure trivial
  | nextEffect effectType =>
      exact relates_bind (same_nextEffect effectType) fun _ _ => relates_pure trivial
  | complete pending outcome =>
      exact relates_bind (same_complete pending outcome) fun _ _ => relates_pure trivial
  | runUntilIdle fuel =>
      exact relates_bind (same_runUntilIdle fuel) fun _ _ => relates_pure trivial
  | advance fuel duration =>
      exact relates_bind (same_advance fuel duration) fun _ _ => relates_pure trivial
  | advanceToNext fuel =>
      exact relates_bind (same_advanceToNext fuel) fun _ _ => relates_pure trivial

/-! ## Initialization -/

theorem same_initializeComponent (id : ComponentId) (messageType : TypeId) :
    Same S (initializeComponent id messageType) (initializeComponent id messageType) := by
  refine relates_bind (same_pushTrace _ _) fun initialization _ => relates_get ?_
  rintro first second ⟨program, journal, hprogram, hjournal, rfl⟩
  dsimp only
  have hfound := S.component? hprogram id messageType
  cases hkernel : first.program.component? id messageType with
  | none =>
      rw [hkernel] at hfound
      generalize program.component? id messageType = found at hfound
      cases hfound
      exact relates_pure trivial
  | some left =>
      have hid := (Program.component?_eq_some hkernel).1
      rw [hkernel] at hfound
      generalize program.component? id messageType = found at hfound
      cases hfound with
      | @some _ right hkernels =>
          refine same_reconcileComponent hid hkernels ?_
          intro changes changes' left' right' hchanges hkernels' hid'
          refine same_onComponent hid' (S.takeInitialCommand hkernels') rfl ?_
          rintro command _ _ _ rfl _ _
          refine relates_bind (same_applyReconciled _ _ hchanges) fun _ _ => ?_
          cases command with
          | none => exact relates_pure trivial
          | some command => exact same_interpret _ _ _

theorem same_initializeComponents (components : List (ComponentId × TypeId)) :
    Same S (initializeComponents components) (initializeComponents components) := by
  induction components with
  | nil => exact relates_pure trivial
  | cons component components ih =>
      exact relates_bind (same_initializeComponent component.1 component.2) fun _ _ => ih

/-- The state at the end of initialization, of both runtimes. -/
theorem new_same {first second : Program} (h : S.programs first second)
    (horder : initializationOrder second = initializationOrder first) (hempty : S.journals [] [])
    (bindings : Bindings) {core : Core} (hnew : Core.new first bindings = .ok core) :
    ∃ core', Core.new second bindings = .ok core' ∧ S.Cores core core' := by
  have hends := @same_initializeComponents _ S (initializationOrder first)
    (Core.fresh first bindings) (Core.fresh second bindings) ⟨second, [], h, hempty, rfl⟩
  unfold Core.new at hnew ⊢
  rw [horder]
  cases hfirst : (initializeComponents (initializationOrder first)).run
      (Core.fresh first bindings) with
  | ok value left =>
      rw [hfirst] at hends hnew
      cases hnew
      generalize hsecond : (initializeComponents (initializationOrder first)).run
        (Core.fresh second bindings) = right at hends
      cases hends with
      | ok _ hstates => exact ⟨_, rfl, hstates⟩
  | error stop left =>
      rw [hfirst] at hends hnew
      generalize hsecond : (initializeComponents (initializationOrder first)).run
        (Core.fresh second bindings) = right at hends
      cases hends with
      | error hstates =>
          cases stop with
          | error error =>
              cases hnew
              exact ⟨_, rfl, hstates⟩
          | panicked panic => cases hnew
          | outOfFuel => cases hnew

end Operations

/-! ## Runs -/

theorem validateComponents_eq_ok {program : Program} {components : List ErasedComponentKernel} :
    validateComponents program components = .ok () ↔
      ∀ component ∈ components, component.validateInitialCapabilities program = .ok () := by
  induction components with
  | nil => simp [validateComponents]
  | cons component components ih =>
      unfold validateComponents
      rw [List.forall_mem_cons, ← ih]
      cases component.validateInitialCapabilities program with
      | error stop => simp [bind, Except.bind]
      | ok _ => simp [bind, Except.bind]

/-- The bindings are validated against the capabilities of the Program. -/
theorem validate_congr {first second : Program} (hprogram : second.program = first.program)
    (heffects : second.effectRequirements = first.effectRequirements)
    (hsources : second.sourceRequirements = first.sourceRequirements) (bindings : Bindings) :
    bindings.validate second = bindings.validate first := by
  have hexacts (capabilities : List CapabilityToken) :
      bindings.validateExacts second capabilities =
        bindings.validateExacts first capabilities := by
    induction capabilities with
    | nil => rfl
    | cons capability others ih =>
        unfold Bindings.validateExacts Bindings.validateExact
        unfold Program.sourceRequirement
        rw [ih, hprogram, hsources]
  unfold Bindings.validate
  rw [hexacts, heffects, hsources]

theorem launch_eq_ok {program : Program} {bindings : Bindings} {core : Core} :
    launch program bindings = .ok core ↔ bindings.validate program = .ok () ∧
      validateComponents program program.components = .ok () ∧
        Core.new program bindings = .ok core := by
  unfold launch
  cases bindings.validate program with
  | error error => simp [bind, Except.bind, throw, throwThe, MonadExceptOf.throw]
  | ok _ =>
      cases validateComponents program program.components with
      | error stop => simp [bind, Except.bind]
      | ok _ => simp [bind, Except.bind]

/-- What each of `operations` returns, and the state they leave. -/
def performAll : List Operation → Core → List (Except Stop Returned) × Core
  | [], core => ([], core)
  | operation :: operations, core =>
      match (perform operation).run core with
      | .ok returned core =>
          let (results, core) := performAll operations core
          (.ok returned :: results, core)
      | .error stop core =>
          let (results, core) := performAll operations core
          (.error stop :: results, core)

/-- Side by side, the operations of a run return the same. -/
theorem performAll_same {S : Likeness} (operations : List Operation) {first second : Core}
    (h : S.Cores first second) :
    (performAll operations second).1 = (performAll operations first).1 ∧
      S.Cores (performAll operations first).2 (performAll operations second).2 := by
  induction operations generalizing first second with
  | nil => exact ⟨rfl, h⟩
  | cons operation operations ih =>
      have hends := same_perform operation first second h
      unfold performAll
      generalize (perform operation).run first = left at hends
      generalize (perform operation).run second = right at hends
      cases hends with
      | ok _ hstates =>
          obtain ⟨hresults, hcores⟩ := ih hstates
          exact ⟨congrArg (List.cons _) hresults, hcores⟩
      | error hstates =>
          obtain ⟨hresults, hcores⟩ := ih hstates
          exact ⟨congrArg (List.cons _) hresults, hcores⟩

end Controlled

end Samara
