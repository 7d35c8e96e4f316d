/-
  Samara.Live.Operations

  The operations of the host that wait for a Reply (`PortHandle::request`).
  Each waits exactly while the owner has its completion, on the channel, in its
  hand or in its table of requests, and it has it once.  So every operation
  returns when the owner has ended, with its Reply if a continuation was invoked
  with one and with an error otherwise.
-/
import Samara.Logic.Oneshot
import Samara.Live.Rounds
import Samara.Live.Drained

namespace Samara

open Exec (Triple)

variable [RustTypes]

namespace Live

/-- What is seen of an operation: whether it waits, and the Reply that it has. -/
def Waiter.shape : Oneshot Waiter ErasedValue where
  waits
    | .pending => true
    | _ => false
  value?
    | .replied reply => some reply
    | .returned (.ok reply) => some reply
    | _ => none
  silent waiter h := by
    cases waiter with
    | pending => rfl
    | _ => cases h

/-- The operation that a continuation answers, with its Reply. -/
def Observation.told? : Observation → Option (Nat × ErasedValue)
  | .continued request reply => request.completion?.map (·, reply)
  | _ => none

/-- The Replies that operations of the host have been sent, in order. -/
def Core.told (core : Core) : List (Nat × ErasedValue) := core.journal.filterMap Observation.told?

/-- The completions that the owner has, with the event in its hand. -/
def Core.held (hand : Option LiveEvent) (core : Core) : List Nat :=
  completions (hand.toList ++ core.scope.channel) ++ core.outstanding

/-- Every operation waits for one completion, or is settled. -/
def Promised (hand : Option LiveEvent) (core : Core) : Prop :=
  Waiter.shape.Law (core.held hand) core.told core.waiters

namespace Promised

variable {hand : Option LiveEvent} {core core' : Core}

/-- Neither completions nor operations differ. -/
theorem same (h : Promised hand core) (hchannel : core'.scope.channel = core.scope.channel)
    (hrequests : core'.requests = core.requests) (htold : core'.told = core.told)
    (hwaiters : core'.waiters = core.waiters) : Promised hand core' := by
  unfold Promised Core.held Core.outstanding at *
  rw [hchannel, hrequests, htold, hwaiters]
  exact h

theorem told_observed {observation : Observation} (hquiet : observation.told? = none) :
    (core.observed observation).told = core.told := by
  unfold Core.told
  rw [Core.observed_journal, List.filterMap_append, List.filterMap_cons_none hquiet]
  exact List.append_nil _

theorem told_of_journal (h : core'.journal = core.journal) : core'.told = core.told := by
  unfold Core.told
  rw [h]

/-- A call that brings no completion. -/
theorem called (h : Promised hand core) {call : ScopeCall} (hplain : completions call.appends = [])
    (hscope : core'.scope = core.scope.called call) (hrequests : core'.requests = core.requests)
    (hjournal : core'.journal = core.journal) (hwaiters : core'.waiters = core.waiters) :
    Promised hand core' := by
  have hchannel := (@Scope.called_completions _ core.scope call hplain).1
  have hheld : core'.held hand = core.held hand := by
    unfold Core.held Core.outstanding completions at *
    rw [hscope, hrequests, List.filterMap_append, List.filterMap_append, hchannel]
  unfold Promised
  rw [hheld, told_of_journal hjournal, hwaiters]
  exact h

/-! ## Activities -/

/-- The operation that an admitted request starts waits for its completion, which
    is on the channel; the one that a refused request starts has returned. -/
theorem hostRequest (h : Promised hand core) {request : PortRequest}
    (hcompletion : request.completion = core.waiters.length) :
    Promised hand (core.hostRequest request) := by
  have hscope : (core.hostRequest request).scope =
      core.scope.called (.ingress (.portIngress (.request request))) := rfl
  have hmethod : (core.scope.method (.ingress (.portIngress (.request request)))).1 =
      (core.scope.acceptIngress (.portIngress (.request request))).1.mapError some := rfl
  obtain ⟨waiter, hwaiters, hpending, hreturned⟩ : ∃ waiter : Waiter,
      (core.hostRequest request).waiters = core.waiters ++ [waiter] ∧
        ((core.scope.acceptIngress (.portIngress (.request request))).1 = .ok () →
          waiter = .pending) ∧
        ∀ reason, (core.scope.acceptIngress (.portIngress (.request request))).1 = .error reason →
          waiter = .returned (.error reason) := by
    refine ⟨_, rfl, fun haccepted => ?_, fun reason hrefused => ?_⟩
    · rw [haccepted]
    · rw [hrefused]
  rcases core.scope.called_appends (.ingress (.portIngress (.request request))) with
    ⟨hok, hchannel, _⟩ | ⟨⟨error, herror⟩, hchannel, _⟩
  · have haccepted : (core.scope.acceptIngress (.portIngress (.request request))).1 = .ok () := by
      cases hresult : (core.scope.acceptIngress (.portIngress (.request request))).1 with
      | ok value => rfl
      | error error =>
          rw [hmethod, hresult] at hok
          cases hok
    rw [hpending haccepted] at hwaiters
    have hopened : Waiter.shape.Law (core.held hand ++ [core.waiters.length]) core.told
        (core.waiters ++ [.pending]) := Oneshot.Law.opened h rfl
    unfold Promised
    rw [hwaiters]
    refine hopened.move ?_
    have hheld : (core.hostRequest request).held hand =
        completions (hand.toList ++ core.scope.channel) ++ [core.waiters.length] ++
          core.outstanding := by
      unfold Core.held completions
      rw [hscope, hchannel, ← List.append_assoc, List.filterMap_append, ← hcompletion]
      rfl
    rw [hheld, Core.held, List.append_assoc, List.append_assoc]
    exact (List.perm_append_comm).append_left _
  · obtain ⟨reason, hrefused⟩ :
        ∃ reason, (core.scope.acceptIngress (.portIngress (.request request))).1 = .error reason := by
      cases hresult : (core.scope.acceptIngress (.portIngress (.request request))).1 with
      | ok value =>
          rw [hmethod, hresult] at herror
          cases herror
      | error reason => exact ⟨reason, rfl⟩
    rw [hreturned reason hrefused] at hwaiters
    have hheld : (core.hostRequest request).held hand = core.held hand := by
      unfold Core.held
      rw [hscope, hchannel]
      rfl
    unfold Promised
    rw [hheld, hwaiters]
    exact Oneshot.Law.refused h rfl rfl

/-- Polling an operation takes nothing from it. -/
theorem poll (h : Promised hand core) (waiter : Nat) : Promised hand (core.poll waiter) := by
  refine Oneshot.Law.look h waiter (fun state => ?_) fun state => ?_
  · cases state <;> rfl
  · cases state <;> rfl

theorem emit (h : Promised hand core) (generation : Nat) (event : ErasedSourceEvent) :
    Promised hand (core.emit generation event) := by
  unfold Core.emit
  split
  · exact h
  · split
    · exact h
    · rename_i gate _ _
      have hplain : completions
          (ScopeCall.source (.sourceEvent gate.stamp gate.terminalType event)).appends = [] := rfl
      dsimp only
      split <;> exact h.called hplain rfl rfl rfl rfl

theorem deliver (h : Promised hand core) {task : Nat} {event : LiveEvent}
    (hplain : event.completion? = none) : Promised hand (core.deliver task event) := by
  have hcompletions : completions (ScopeCall.finite event).appends = [] := by
    simp [completions, ScopeCall.appends, hplain]
  exact h.called hcompletions rfl rfl rfl rfl

theorem act (h : Promised hand core) (activity : Activity) : Promised hand (core.act activity) := by
  cases activity with
  | @send component target message =>
      have hplain : completions (ScopeCall.ingress (.message
          ⟨target.id, RustTypes.componentMessage component, ⟨_, message⟩, none⟩)).appends = [] := rfl
      exact h.called hplain rfl rfl rfl rfl
  | notify ingress =>
      have hplain : completions (ScopeCall.ingress
          (.portIngress (.notification ingress))).appends = [] := rfl
      exact h.called hplain rfl rfl rfl rfl
  | request protocol requestType port request => exact h.hostRequest rfl
  | poll waiter => exact h.poll waiter
  | beginShutdown mode =>
      have hplain : completions (ScopeCall.shutdown mode).appends = [] := rfl
      exact h.called hplain rfl rfl rfl rfl
  | emit generation event => exact h.emit generation event
  | installStopHook generation result =>
      show Promised hand (core.installStopHook generation result)
      unfold Core.installStopHook
      split
      · exact h
      · split
        · exact h
        · exact h.same rfl rfl rfl rfl
  | complete task outcome =>
      show Promised hand (core.complete task outcome)
      unfold Core.complete
      split
      · exact h
      · split
        · split
          · exact h.deliver rfl
          · exact h
        · exact h
  | fire task =>
      show Promised hand (core.fire task)
      unfold Core.fire
      split
      · exact h
      · split
        · exact h.deliver rfl
        · exact h
  | exit task outcome =>
      show Promised hand (core.exit task outcome)
      unfold Core.exit
      split
      · exact h
      · split
        · exact h
        · exact h.same rfl rfl rfl rfl

theorem turn (h : Promised hand core) : Promised hand core.turn :=
  @turn_preserves _ (Promised hand) (fun _ activity h => h.act activity)
    (fun _ _ h => h.same rfl rfl rfl rfl) core h

/-! ## Deeds -/

/-- The row of an answered request goes, with the completion it may have. -/
theorem outstanding_perm {correlation : Nat} {request : OutstandingRequest}
    (hrequest : core.requests.find? (·.correlation = correlation) = some request) :
    core.outstanding.Perm (request.completion?.toList ++ (core.withoutRequest correlation).outstanding) := by
  have hperm := (Table.perm_cons_eraseP hrequest).filterMap OutstandingRequest.completion?
  cases hcompletion : request.completion? with
  | none =>
      rw [List.filterMap_cons_none hcompletion] at hperm
      exact hperm
  | some completion =>
      rw [List.filterMap_cons_some hcompletion] at hperm
      exact hperm

theorem held_perm {correlation : Nat} {request : OutstandingRequest}
    (hrequest : core.requests.find? (·.correlation = correlation) = some request) :
    (core.held hand).Perm (request.completion?.toList ++ (core.withoutRequest correlation).held hand) := by
  have hperm := (outstanding_perm hrequest).append_left
    (completions (hand.toList ++ core.scope.channel))
  refine hperm.trans ?_
  rw [← List.append_assoc]
  exact (List.perm_append_comm.append_right _).trans (List.append_assoc _ _ _ ▸ .refl _)

/-- A completion that is dropped reaches its operation. -/
theorem drop (h : Promised hand core) {completion : Nat} {held : List Nat}
    (hheld : (core.held hand).Perm (completion :: held)) :
    Waiter.shape.Law held core.told (core.dropCompletion completion).waiters := by
  refine Oneshot.Law.drop h hheld fun state hwaits => ?_
  cases state with
  | pending => exact ⟨rfl, rfl⟩
  | _ => cases hwaits

/-- A row that is taken out for a Reply of another type takes its completion
    with it. -/
theorem mistyped (h : Promised hand core) {correlation : Nat} {request : OutstandingRequest}
    (hrequest : core.requests.find? (·.correlation = correlation) = some request) :
    Promised hand ((core.withoutRequest correlation).discard request.completion?) := by
  have hperm := @held_perm _ hand _ _ _ hrequest
  cases hcompletion : request.completion? with
  | none =>
      rw [hcompletion] at hperm
      exact Oneshot.Law.move h hperm
  | some completion =>
      rw [hcompletion] at hperm
      have hdropped := h.drop hperm
      have htold : ((core.withoutRequest correlation).discard (some completion)).told = core.told :=
        told_observed rfl
      unfold Promised
      rw [htold]
      exact hdropped

/-- The Reply to a request of the host reaches the operation that waits for it. -/
theorem replied (h : Promised hand core) {correlation completion : Nat}
    {request : OutstandingRequest} {reply : ErasedValue}
    (hrequest : core.requests.find? (·.correlation = correlation) = some request)
    (hhost : request.completion? = some completion) :
    Promised hand (((core.withoutRequest correlation).observed
      (.continued request reply)).withReply completion reply) := by
  have hperm := @held_perm _ hand _ _ _ hrequest
  rw [hhost] at hperm
  have hsent : Waiter.shape.Law ((core.withoutRequest correlation).held hand)
      (core.told ++ [(completion, reply)]) ((core.withoutRequest correlation).withReply
        completion reply).waiters := by
    refine Oneshot.Law.send h hperm fun state hwaits => ?_
    cases state with
    | pending => exact ⟨rfl, rfl⟩
    | _ => cases hwaits
  have htold : (((core.withoutRequest correlation).observed
      (.continued request reply)).withReply completion reply).told =
        core.told ++ [(completion, reply)] := by
    have hnew : Observation.told? (.continued request reply) = some (completion, reply) := by
      show request.completion?.map _ = _
      rw [hhost]
      rfl
    show (core.journal ++ [_]).filterMap Observation.told? = _
    rw [List.filterMap_append, List.filterMap_cons_some hnew]
    rfl
  unfold Promised
  rw [htold]
  exact hsent

theorem deed (h : Promised hand core) (hdeed : Deed core core') : Promised hand core' := by
  have hquiet {core' : Core} {observation : Observation} (hpromised : Promised hand core')
      (hnone : observation.told? = none) : Promised hand (core'.observed observation) :=
    hpromised.same rfl rfl (told_observed hnone) rfl
  cases hdeed with
  | turned => exact h.turn
  | @sent message hplain =>
      have hnone : completions (ScopeCall.finite (.message message)).appends = [] := rfl
      exact h.called hnone rfl rfl rfl rfl
  | @sentMapped message _ hstamp =>
      have hnone : completions (ScopeCall.finite (.message message)).appends = [] := rfl
      exact h.called hnone rfl rfl rfl rfl
  | @asked request hcorrelation hcomponent =>
      have hheld : (core.asked request).held hand = core.held hand := by
        show completions _ ++ (core.requests ++ [request]).filterMap _ = _
        rw [List.filterMap_append, List.filterMap_cons_none hcomponent, List.filterMap_nil,
          List.append_nil]
        rfl
      have htold : (core.asked request).told = core.told := told_observed rfl
      unfold Promised
      rw [hheld, htold]
      exact h
  | @continued correlation request reply hrequest hcomponent htype =>
      have hperm := @held_perm _ hand _ _ _ hrequest
      rw [hcomponent] at hperm
      have hmoved : Promised hand (core.withoutRequest correlation) := Oneshot.Law.move h hperm
      refine hquiet hmoved ?_
      show request.completion?.map _ = _
      rw [hcomponent]
      rfl
  | replied hrequest hhost htype => exact h.replied hrequest hhost
  | withdrawn hsource => exact h.same rfl rfl (told_observed rfl) rfl
  | retained hsource subscription => exact h.same rfl rfl (told_observed rfl) rfl
  | activated component subscription context =>
      have hrealized : Promised hand (core.realized component subscription) := h.same rfl rfl rfl rfl
      exact hrealized.turn.same rfl rfl (told_observed rfl) rfl
  | mapped => exact h.same rfl rfl (told_observed rfl) rfl
  | _ => exact h.same rfl rfl rfl rfl

theorem failed (h : Promised hand core) {stop : Stop} (hfailure : Failure stop core core') :
    Promised hand core' := by
  cases hfailure with
  | fault => exact h
  | halted error core generation => exact h.same rfl rfl rfl rfl
  | caught error core => exact h.same rfl rfl (told_observed rfl) rfl
  | unwound panic core => exact h.same rfl rfl (told_observed rfl) rfl
  | converted panic core => exact h.same rfl rfl (told_observed rfl) rfl
  | mistyped error hrequest => exact h.mistyped hrequest

/-! ## The end -/

/-- Dropped completions reach the operations that wait for them. -/
theorem drops {dropped held : List Nat} (h : Waiter.shape.Law (dropped ++ held) core.told core.waiters) :
    Waiter.shape.Law held core.told (dropped.foldl Core.dropCompletion core).waiters := by
  induction dropped generalizing core with
  | nil => exact h
  | cons completion dropped ih =>
      refine @ih (core.dropCompletion completion) ?_
      refine Oneshot.Law.drop h (.refl _) fun state hwaits => ?_
      cases state with
      | pending => exact ⟨rfl, rfl⟩
      | _ => cases hwaits

theorem told_of_waits (hwaits : Waits core core') : core'.told = core.told :=
  told_of_journal (waits_journal hwaits)

theorem ending (h : Promised none core) (hending : Ending core core') : Promised none core' := by
  cases hending with
  | turned => exact h.turn
  | requestsDropped =>
      have hwaits := waits_dropRequests ({ core with requests := [] } : Core) core.requests
      have hdropped := @drops _ ({ core with requests := [] } : Core) core.outstanding
        (completions core.scope.channel) (Oneshot.Law.move h List.perm_append_comm)
      unfold Promised Core.held Core.outstanding
      rw [waits_scope hwaits, waits_requests hwaits, told_of_waits hwaits]
      rw [List.filterMap_nil, List.append_nil]
      exact hdropped
  | channelDropped =>
      have hwaits := waits_dropEvents (core.withScope { core.scope with channel := [] })
        core.scope.channel
      have hdropped := @drops _ (core.withScope { core.scope with channel := [] })
        (completions core.scope.channel) core.outstanding h
      unfold Promised Core.held Core.outstanding
      rw [waits_scope hwaits, waits_requests hwaits, told_of_waits hwaits]
      exact hdropped
  | _ => exact h.same rfl rfl rfl rfl

/-- The event in the owner's hand is dropped, with its completion. -/
theorem dropped {event : LiveEvent} (h : Promised (some event) core) :
    Promised none (core.discard event.completion?) := by
  have hheld : core.held (some event) = event.completion?.toList ++ core.held none := by
    show (event :: core.scope.channel).filterMap _ ++ _ = _
    cases hcompletion : event.completion? with
    | none =>
        rw [List.filterMap_cons_none hcompletion]
        rfl
    | some completion =>
        rw [List.filterMap_cons_some hcompletion]
        rfl
  cases hcompletion : event.completion? with
  | none =>
      rw [hcompletion] at hheld
      exact Oneshot.Law.move h (List.Perm.of_eq hheld)
  | some completion =>
      rw [hcompletion] at hheld
      have htold : (core.discard (some completion)).told = core.told := told_observed rfl
      have hlaw := h.drop (List.Perm.of_eq hheld)
      unfold Promised
      rw [htold]
      exact hlaw

theorem abates {hand' : Option LiveEvent} (h : Promised hand core)
    (habates : Abates (hand, core) (hand', core')) : Promised hand' core' := by
  cases habates with
  | deed hdeed => exact h.deed hdeed
  | failed hfailure => exact h.failed hfailure
  | ending hending => exact h.ending hending
  | @received _ event channel hchannel =>
      have hheld : ((core.withScope { core.scope with channel }).observed (.received event)).held
          (some event) = core.held none := by
        unfold Core.held
        rw [hchannel]
        rfl
      have htold : ((core.withScope { core.scope with channel }).observed (.received event)).told =
          core.told := told_observed rfl
      unfold Promised
      rw [hheld, htold]
      exact h
  | settled outcome heffect => exact h.dropped.same rfl rfl rfl rfl
  | dropped event => exact h.dropped
  | @called _ call hsilent => exact h.called (by rw [hsilent]; rfl) rfl rfl rfl rfl
  | _ => exact h.same rfl rfl rfl rfl

/-! ## Events -/

theorem upkeep : Upkeep (Promised none) where
  deed h hdeed := h.deed hdeed
  failed h hfailure := h.failed hfailure
  begun _ h := h.same rfl rfl (told_observed rfl) rfl
  settled _ _ h := h.same rfl rfl rfl rfl

/-- The completion goes from the owner's hand into the last row. -/
theorem asked {ingress : PortRequest} (h : Promised (some (.portIngress (.request ingress))) core)
    (correlation : Nat) : Promised none
      (core.asked ⟨correlation, ingress.replyType, .host ingress.completion⟩) := by
  have htold : (core.asked ⟨correlation, ingress.replyType, .host ingress.completion⟩).told =
      core.told := told_observed rfl
  have hheld : (core.asked ⟨correlation, ingress.replyType, .host ingress.completion⟩).held none =
      core.held none ++ [ingress.completion] := by
    show completions _ ++ (core.requests ++ [_]).filterMap _ = _
    rw [List.filterMap_append, ← List.append_assoc]
    rfl
  unfold Promised
  rw [hheld, htold]
  exact Oneshot.Law.move h (List.perm_append_singleton _ _).symm

/-- The request of the host whose row is the last. -/
def Pending (ingress : PortRequest) (core : Core) : Prop :=
  Promised none core ∧ ∃ requests correlation, core.requests =
    requests ++ [⟨correlation, ingress.replyType, .host ingress.completion⟩]

/-- The row that was put last is taken back, and its completion dropped. -/
theorem Pending.pop {ingress : PortRequest} (h : Pending ingress core) :
    Promised none core.popRequest := by
  obtain ⟨hpromised, requests, correlation, hrequests⟩ := h
  have hlast : core.requests.getLast?.bind OutstandingRequest.completion? =
      some ingress.completion := by
    rw [hrequests, List.getLast?_concat]
    rfl
  have hperm : (core.held none).Perm (ingress.completion ::
      ({ core with requests := core.requests.dropLast } : Core).held none) := by
    unfold Core.held Core.outstanding
    rw [hrequests, List.dropLast_concat, List.filterMap_append, ← List.append_assoc]
    exact List.perm_append_singleton _ _
  have htold : (({ core with requests := core.requests.dropLast } : Core).discard
      (some ingress.completion)).told = core.told := told_observed rfl
  have hdropped := hpromised.drop hperm
  unfold Promised Core.popRequest
  rw [hlast, htold]
  exact hdropped

theorem convertRequest_triple (ingress : PortRequest) (correlation : Nat) (binding : PortBinding)
    (work : TraceId) : Triple (Pending ingress) (convertRequest ingress correlation binding work)
      (fun _ => Promised none) (Conduct.Fails fun _ => Promised none) := by
  have hcaught {α : Type} (result : Callback α) (reason : String) : Triple (Pending ingress)
      (caught result binding.provider.id none work reason) (fun _ => Pending ingress)
      (Conduct.Fails fun _ => Promised none) := by
    intro core h
    cases result with
    | ok value => exact h
    | error panic => exact ⟨h.1.same rfl rfl (told_observed rfl) rfl, by simp⟩
  refine Exec.triple_bind (hcaught _ _) fun protocolMessage => ?_
  refine Exec.triple_bind (hcaught _ _) fun converted => ?_
  have haccept : Triple (Pending ingress)
      (acceptFinite (plainMessage binding.provider.id binding.providerMessageType converted))
      (fun _ => Pending ingress) (Conduct.Fails fun _ => Promised none) := by
    rintro core ⟨h, requests, number, hrequests⟩
    refine ⟨h.turn.deed (.sent rfl), requests, number, ?_⟩
    exact (turn_beside core).requests.trans hrequests
  refine Exec.triple_bind haccept fun accepted => Exec.triple_ite (fun _ => ?_) fun _ => ?_
  · exact Exec.triple_pure fun core h => h.1
  · exact fun core h => h.pop

/-- The completion of a request of the host goes into the table, or is dropped. -/
theorem processPortRequest_triple (ingress : PortRequest) :
    Triple (Promised (some (.portIngress (.request ingress)))) (processPortRequest ingress)
      (fun _ => Promised none) (Conduct.Fails fun _ => Promised none) := by
  have hwork : Triple (Promised (some (.portIngress (.request ingress)))) nextWork
      (fun _ => Promised (some (.portIngress (.request ingress))))
      (Conduct.Fails fun _ => Promised none) := fun core h => h.same rfl rfl rfl rfl
  refine Exec.triple_bind hwork fun work => ?_
  intro core h
  rcases resolveRequestPort_run ingress work core with ⟨binding, hrun⟩ | ⟨error, hrun⟩
  · rw [Exec.run_bind_ok hrun]
    exact convertRequest_triple ingress core.nextRequest binding work _
      ⟨h.asked core.nextRequest, core.requests, core.nextRequest, rfl⟩
  · rw [EStateM.run_bind, hrun]
    exact ⟨h.dropped, by simp⟩

/-- Of an event that nobody waits for there is nothing to keep. -/
theorem empty {event : LiveEvent} (h : Promised (some event) core)
    (hplain : event.completion? = none) : Promised none core := by
  have hdropped := h.dropped
  rw [hplain] at hdropped
  exact hdropped

theorem conduct : Conduct Promised Promised where
  lasts _ h := h
  abates h habates := h.abates habates
  deed _ h hdeed := h.deed hdeed
  received _ h hchannel := h.abates (.received hchannel)
  joined _ h hfinished := h.abates (.joined hfinished)
  dispatched event hevent := by
    -- A request of the host hands its completion on; no other event has one.
    by_cases hrequest : ∃ ingress, event = .portIngress (.request ingress)
    · obtain ⟨ingress, rfl⟩ := hrequest
      exact Exec.triple_conseq (processPortRequest_triple ingress) (fun _ h => h.2.2)
        (fun _ _ h => h) fun _ _ h => h
    · have hplain : event.completion? = none := by
        cases event with
        | portIngress ingress =>
            cases ingress with
            | request ingress => exact absurd ⟨ingress, rfl⟩ hrequest
            | notification ingress => rfl
        | _ => rfl
      exact Exec.triple_conseq
        (upkeep.dispatch_triple hevent fun ingress heq => hrequest ⟨ingress, heq⟩)
        (fun _ h => ⟨h.1, h.2.2.empty hplain⟩) (fun _ _ h => h) fun _ _ h => h

theorem launch (program : Program) (bindings : Bindings) (schedule : List (List Activity))
    (fuel : Nat) : Promised none (Exec.final (launch program bindings schedule fuel)) :=
  (conduct.launch Oneshot.Law.empty fuel).1

end Promised

/-! ## After the owner -/

/-- The owner is gone, and with it the receiver and all completions. -/
structure Gone (core : Core) : Prop where
  promised : Promised none core
  requests : core.requests = []
  channel : core.scope.channel = []
  disconnected : core.scope.connected = false

/-- A scope without a receiver takes nothing. -/
theorem Scope.called_disconnected {scope : Scope} (h : scope.connected = false) (call : ScopeCall)
    (hordinary : call.Ordinary) : (scope.called call).channel = scope.channel := by
  obtain ⟨phase, connected, channel, log⟩ := scope
  cases h
  cases call with
  | ingress event => cases phase <;> rfl
  | source event => cases phase <;> rfl
  | finite event => cases phase <;> rfl
  | shutdown mode => cases phase <;> rfl
  | fault error => cases hordinary
  | close => cases hordinary

namespace Gone

variable {core : Core}

theorem act (h : Gone core) (activity : Activity) : Gone (core.act activity) := by
  -- Nothing enters a channel that has no receiver.
  have hscope := @Exec.path_preserves _ Scope.Beat
    (fun scope => scope.channel = [] ∧ scope.connected = false)
    (fun scope scope' hboth hbeat => by
      cases hbeat with
      | taken hsublist => exact ⟨List.sublist_nil.mp (hboth.1 ▸ hsublist), hboth.2⟩
      | @called call hordinary =>
          refine ⟨?_, ?_⟩
          · rw [Scope.called_disconnected hboth.2 call hordinary]
            exact hboth.1
          · rw [Scope.Open.called_connected]
            exact hboth.2)
    _ _ (act_beats core activity) ⟨h.channel, h.disconnected⟩
  exact ⟨h.promised.act activity, (act_beside core activity).requests.trans h.requests, hscope.1,
    hscope.2⟩

/-- The owner is dropped, and every completion with it. -/
theorem dropped (h : Promised none core) : Gone core.drop := by
  have hwaits : Waits core ((core.dropEvents core.scope.channel).dropRequests core.requests) :=
    (waits_dropEvents core core.scope.channel).trans (waits_dropRequests _ core.requests)
  have htold : core.drop.told = core.told := Promised.told_of_journal (drop_journal core)
  have hlaw := @Promised.drops _ core (completions core.scope.channel ++ core.outstanding) []
    (by rw [List.append_nil]; exact h)
  refine ⟨?_, rfl, rfl, rfl⟩
  unfold Promised
  rw [htold]
  rw [List.foldl_append] at hlaw
  exact hlaw

/-- No completion is left. -/
theorem law (h : Gone core) : Waiter.shape.Law [] core.told core.waiters := by
  have hheld : core.held none = [] := by
    unfold Core.held Core.outstanding
    rw [h.channel, h.requests]
    rfl
  have hpromised := h.promised
  unfold Promised at hpromised
  rw [hheld] at hpromised
  exact hpromised

end Gone

/-- Every operation of the host returns when it is polled, with a Reply exactly
    if that Reply has been sent to it. -/
structure Resolved (core : Core) : Prop where
  returns : ∀ waiter, waiter < core.waiters.length → ∃ result, core.Resolves waiter result
  replies : ∀ waiter reply, core.Resolves waiter (.ok reply) ↔ (waiter, reply) ∈ core.told
  once : (core.told.map Prod.fst).Nodup

/-- What polling makes of an operation. -/
theorem resolves_iff {core : Core} {waiter : Nat} {result : Except RuntimeError ErasedValue} :
    core.Resolves waiter result ↔ ∃ state, core.waiters[waiter]? = some state ∧
      (match state with
        | .replied reply => .returned (.ok reply)
        | .dropped => .returned (.error core.scope.requestEndedError)
        | state => state) = Waiter.returned result := by
  unfold Core.Resolves Core.poll
  rw [Core.withWaiter_waiters, List.getElem?_modify_eq]
  exact Option.map_eq_some_iff

theorem Gone.resolved {core : Core} (h : Gone core) : Resolved core := by
  refine ⟨fun waiter hwaiter => ?_, fun waiter reply => ?_, h.law.distinct⟩
  · -- No completion is left that an operation could wait for.
    have hstate := List.getElem?_eq_getElem hwaiter
    generalize core.waiters[waiter] = state at hstate
    have hsettled := h.law.settled hstate
    cases state with
    | pending => cases hsettled
    | replied reply => exact ⟨_, resolves_iff.mpr ⟨_, hstate, rfl⟩⟩
    | dropped => exact ⟨_, resolves_iff.mpr ⟨_, hstate, rfl⟩⟩
    | returned result => exact ⟨_, resolves_iff.mpr ⟨_, hstate, rfl⟩⟩
  · rw [resolves_iff, h.law.values]
    refine exists_congr fun state => and_congr_right fun _ => ?_
    match state with
    | .pending => exact ⟨nofun, nofun⟩
    | .dropped => exact ⟨nofun, nofun⟩
    | .replied other =>
        constructor
        · rintro ⟨⟩
          rfl
        · rintro ⟨⟩
          rfl
    | .returned (.ok other) =>
        constructor
        · rintro ⟨⟩
          rfl
        · rintro ⟨⟩
          rfl
    | .returned (.error error) => exact ⟨nofun, nofun⟩

/-- The state that an ended owner leaves. -/
theorem gone_ended {result : EStateM.Result Stop Core Unit} (h : Promised none (Exec.final result))
    (hended : (reported result).isSome) : Gone (ended result) ∧ (ended result).told =
      (Exec.final result).told := by
  have hdropped {core : Core} (h : Promised none core) : Gone core.drop ∧ core.drop.told = core.told :=
    ⟨.dropped h, Promised.told_of_journal (drop_journal core)⟩
  cases result with
  | ok value core => exact hdropped h
  | error stop core =>
      cases stop with
      | outOfFuel | joining => cases hended
      | error error => exact hdropped h
      | panicked panic => exact hdropped h

/-- Whatever happens beside a live runtime and however its run ends: while the
    owner runs, an operation of the host waits exactly as long as the owner has
    its completion, on the channel or in its table of requests, and it has it
    once.  When the owner has ended, no operation waits any more, now or later:
    those that a continuation has answered return that Reply, the others an
    error. -/
theorem operations_resolve (program : Program) (bindings : Bindings)
    (schedule : List (List Activity)) (fuel : Nat) :
    Promised none (Exec.final (launch program bindings schedule fuel)) ∧
    ((reported (launch program bindings schedule fuel)).isSome → ∀ later,
      Resolved (afterwards program bindings schedule fuel later) ∧
      (afterwards program bindings schedule fuel later).told =
        (Exec.final (launch program bindings schedule fuel)).told) := by
  have hpromised := Promised.launch program bindings schedule fuel
  refine ⟨hpromised, fun hended later => ?_⟩
  obtain ⟨hgone, htold⟩ := gone_ended hpromised hended
  have hlater : Gone (afterwards program bindings schedule fuel later) :=
    acts_preserve (fun _ activity h => h.act activity) later hgone
  refine ⟨hlater.resolved, ?_⟩
  have hsame := @acts_preserve _ (fun core => core.journal =
      (ended (launch program bindings schedule fuel)).journal)
    (fun core activity h => (act_beside core activity).journal.trans h) later _ rfl
  exact (Promised.told_of_journal hsame).trans htold

end Live

end Samara

namespace Samara.Live

attribute [local instance] Sample.types

/-- The clerk has answered one operation; the next comes too late. -/
theorem operations_resolve_clerk :
    (reported (launch clerkProgram ⟨[()], []⟩ officeHours 30)).isSome ∧
      (afterwards clerkProgram ⟨[()], []⟩ officeHours 30
        [.request () () (⟨⟨"clerk"⟩, ⟨7⟩⟩ : Port ()) (.plain 5)]).waiters.length = 2 ∧
      Resolved (afterwards clerkProgram ⟨[()], []⟩ officeHours 30
        [.request () () (⟨⟨"clerk"⟩, ⟨7⟩⟩ : Port ()) (.plain 5)]) :=
  ⟨by decide +kernel, by decide +kernel,
    ((operations_resolve clerkProgram ⟨[()], []⟩ officeHours 30).2 (by decide +kernel) _).1⟩

end Samara.Live
