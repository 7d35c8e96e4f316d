/-
  Samara.Live.Waiters

  The host operations that wait for Replies.  While the owner runs, the
  completion of a waiting operation is on the channel, in the owner's hand or
  in the table of requests, unless the owner has discarded one; so a fault is
  stored before any of them is dropped.
-/
import Samara.Live.Admission

namespace Samara

open Relation (ReflTransGen)
open Exec (Triple)

variable [RustTypes]

namespace Live

/-! ## Completions -/

def completions (events : List LiveEvent) : List Nat := events.filterMap LiveEvent.completion?

namespace Core

def outstanding (core : Core) : List Nat := core.requests.filterMap OutstandingRequest.completion?

/-- The owner still has the completion of this operation. -/
def Holds (hand : Option LiveEvent) (core : Core) (waiter : Nat) : Prop :=
  waiter ∈ completions core.scope.channel ∨ waiter ∈ core.outstanding ∨
    hand.bind LiveEvent.completion? = some waiter

/-- The request of this operation was admitted. -/
def Admitted (core : Core) (waiter : Nat) : Prop := waiter ∈ completions core.scope.sent

/-- A continuation has been invoked with the Reply to this operation. -/
def Answered (core : Core) (waiter : Nat) : Prop :=
  ∃ request reply, Observation.continued request reply ∈ core.journal ∧
    request.completion? = some waiter

/-- The owner dropped the completion of this operation and went on. -/
def Discarded (core : Core) (waiter : Nat) : Prop := Observation.discarded waiter ∈ core.journal

/-- The owner went on after it had dropped a completion. -/
def Discards (core : Core) : Prop := ∃ completion, core.Discarded completion

end Core

/-- How the operations may fare that `core` knows of, with the fault that has
    been stored. -/
def Fares (fault : Option RuntimeError) (hand : Option LiveEvent) (core : Core) (waiter : Nat) :
    Waiter → Prop
  | .pending => core.Holds hand waiter
  | .replied _ => core.Answered waiter
  | .dropped => fault.isSome
  | .returned (.ok _) => core.Answered waiter
  | .returned (.error error) => core.Admitted waiter → fault = some error

/-- Every operation fares as it may, unless its completion has been discarded. -/
structure Cared (fault : Option RuntimeError) (hand : Option LiveEvent) (core : Core) : Prop where
  known : ∀ waiter, core.Admitted waiter → waiter < core.waiters.length
  fares : ∀ waiter state, core.waiters[waiter]? = some state →
    core.Discarded waiter ∨ Fares fault hand core waiter state

/-! ### Frames -/

section Frames

variable {fault : Option RuntimeError} {hand : Option LiveEvent} {core core' : Core}

theorem Core.Answered.mono (hjournal : core.journal ⊆ core'.journal) {waiter : Nat}
    (h : core.Answered waiter) : core'.Answered waiter := by
  obtain ⟨request, reply, hmem, hcompletion⟩ := h
  exact ⟨request, reply, hjournal hmem, hcompletion⟩

theorem Fares.mono {hand' : Option LiveEvent} {waiter : Nat} {state : Waiter}
    (hholds : core.Holds hand waiter → core'.Holds hand' waiter)
    (hadmitted : core'.Admitted waiter → core.Admitted waiter)
    (hjournal : core.journal ⊆ core'.journal) (h : Fares fault hand core waiter state) :
    Fares fault hand' core' waiter state := by
  match state with
  | .pending => exact hholds h
  | .replied reply => exact Core.Answered.mono hjournal h
  | .dropped => exact h
  | .returned (.ok reply) => exact Core.Answered.mono hjournal h
  | .returned (.error error) => exact fun hadmitted' => h (hadmitted hadmitted')

/-- A change that neither takes a completion away nor touches an operation. -/
theorem Cared.frame {hand' : Option LiveEvent} (h : Cared fault hand core)
    (hholds : ∀ waiter, core.Holds hand waiter → core'.Holds hand' waiter)
    (hadmitted : ∀ waiter, core'.Admitted waiter → core.Admitted waiter)
    (hjournal : core.journal ⊆ core'.journal) (hwaiters : core'.waiters = core.waiters) :
    Cared fault hand' core' := by
  refine ⟨?_, ?_⟩
  · intro waiter hwaiter
    rw [hwaiters]
    exact h.known waiter (hadmitted waiter hwaiter)
  · intro waiter state hstate
    rw [hwaiters] at hstate
    exact (h.fares waiter state hstate).imp (@hjournal _)
      (Fares.mono (hholds waiter) (hadmitted waiter) hjournal)

/-- Only tables that hold no completion differ. -/
theorem Cared.same (h : Cared fault hand core)
    (hscope : core'.scope = core.scope) (hrequests : core'.requests = core.requests)
    (hjournal : core.journal ⊆ core'.journal) (hwaiters : core'.waiters = core.waiters) : Cared fault hand core' := by
  refine h.frame ?_ ?_ hjournal hwaiters
  · intro waiter hwaiter
    unfold Core.Holds Core.outstanding at *
    rw [hscope, hrequests]
    exact hwaiter
  · intro waiter hwaiter
    unfold Core.Admitted at *
    rw [hscope] at hwaiter
    exact hwaiter

/-- A call appends the same to the channel and to what was ever sent. -/
theorem Scope.called_appends (scope : Scope) (call : ScopeCall) :
    ((scope.method call).1 = .ok () ∧
        (scope.called call).channel = scope.channel ++ call.appends ∧
        (scope.called call).sent = scope.sent ++ call.appends) ∨
      ((∃ error, (scope.method call).1 = .error error) ∧
        (scope.called call).channel = scope.channel ∧ (scope.called call).sent = scope.sent) := by
  have hsent : (scope.called call).sent = scope.sent ++ (scope.entry call).appended := by
    unfold Scope.sent
    rw [Scope.called_log, List.flatMap_append, List.flatMap_singleton]
  rcases scope.method_appends call with ⟨hok, hchannel⟩ | ⟨herror, hchannel⟩
  · have happended : (scope.entry call).appended = call.appends := by
      show (scope.method call).2.channel.drop _ = _
      rw [hchannel, List.drop_left]
    exact .inl ⟨hok, hchannel, hsent.trans (by rw [happended])⟩
  · have happended : (scope.entry call).appended = [] := by
      show (scope.method call).2.channel.drop _ = _
      rw [hchannel, List.drop_length]
    exact .inr ⟨herror, hchannel, hsent.trans (by rw [happended, List.append_nil])⟩

/-- Which completions a call brings. -/
theorem Scope.called_completions {scope : Scope} {call : ScopeCall}
    (hplain : completions call.appends = []) :
    completions (scope.called call).channel = completions scope.channel ∧
      completions (scope.called call).sent = completions scope.sent := by
  rcases scope.called_appends call with ⟨_, hchannel, hsent⟩ | ⟨_, hchannel, hsent⟩
  · unfold completions at *
    rw [hchannel, hsent, List.filterMap_append, List.filterMap_append, hplain, List.append_nil,
      List.append_nil]
    exact ⟨rfl, rfl⟩
  · rw [hchannel, hsent]
    exact ⟨rfl, rfl⟩

/-- A call that carries no completion. -/
theorem Cared.called {call : ScopeCall} (h : Cared fault hand core)
    (hplain : completions call.appends = [])
    (hscope : core'.scope = core.scope.called call) (hrequests : core'.requests = core.requests)
    (hjournal : core'.journal = core.journal) (hwaiters : core'.waiters = core.waiters) : Cared fault hand core' := by
  obtain ⟨hchannel, hsent⟩ := @Scope.called_completions _ core.scope call hplain
  refine h.frame ?_ ?_ (by rw [hjournal]; exact List.Subset.refl _) hwaiters
  · intro waiter hwaiter
    unfold Core.Holds Core.outstanding at *
    rw [hscope, hchannel, hrequests]
    exact hwaiter
  · intro waiter hwaiter
    unfold Core.Admitted at *
    rw [hscope, hsent] at hwaiter
    exact hwaiter

/-- A new operation. -/
theorem Cared.push {new : Waiter} (h : Cared fault hand core)
    (hholds : ∀ waiter, core.Holds hand waiter → core'.Holds hand waiter)
    (hadmitted : ∀ waiter, core'.Admitted waiter →
      core.Admitted waiter ∨ waiter = core.waiters.length)
    (hjournal : core.journal ⊆ core'.journal) (hwaiters : core'.waiters = core.waiters ++ [new])
    (hnew : Fares fault hand core' core.waiters.length new) : Cared fault hand core' := by
  refine ⟨?_, ?_⟩
  · intro waiter hwaiter
    rw [hwaiters, List.length_append, List.length_singleton]
    rcases hadmitted waiter hwaiter with hold | hlast
    · exact Nat.lt_succ_of_lt (h.known waiter hold)
    · omega
  · intro waiter state hstate
    rw [hwaiters] at hstate
    by_cases hlt : waiter < core.waiters.length
    · rw [List.getElem?_append_left hlt] at hstate
      refine (h.fares waiter state hstate).imp (@hjournal _)
        (Fares.mono (hholds waiter) ?_ hjournal)
      intro hwaiter
      rcases hadmitted waiter hwaiter with hold | hlast
      · exact hold
      · omega
    · have hlast : waiter = core.waiters.length := by
        by_contra hne
        rw [List.getElem?_eq_none (by rw [List.length_append, List.length_singleton]; omega)]
          at hstate
        cases hstate
      rw [hlast, List.getElem?_concat_length] at hstate
      cases hstate
      rw [hlast]
      exact .inr hnew

end Frames

/-! ### Activities -/

section Activities

variable {fault : Option RuntimeError} {hand : Option LiveEvent} {core : Core}

/-- A stored fault is the one that waiting operations are told about. -/
def Core.Tells (fault : Option RuntimeError) (core : Core) : Prop :=
  ∀ error, fault = some error → core.scope.phase = .faulted error

theorem Core.Tells.beats {core' : Core} (h : core.Tells fault) (hbeats : Beats core core') :
    core'.Tells fault := by
  intro error herror
  have hphase := h error herror
  rw [hbeats.phase_eq (by rw [hphase]; simp)]
  exact hphase

/-- The operation that an admitted request starts waits on the channel; the
    one that a refused request starts has returned. -/
theorem Cared.hostRequest (request : PortRequest) (hcompletion : request.completion = core.waiters.length)
    (h : Cared fault hand core) : Cared fault hand (core.hostRequest request) := by
  have hscope : (core.hostRequest request).scope =
      core.scope.called (.ingress (.portIngress (.request request))) := rfl
  have hmethod : (core.scope.method (.ingress (.portIngress (.request request)))).1 =
      (core.scope.acceptIngress (.portIngress (.request request))).1.mapError some := rfl
  rcases core.scope.called_appends (.ingress (.portIngress (.request request))) with
    ⟨hok, hchannel, hsent⟩ | ⟨⟨error, herror⟩, hchannel, hsent⟩
  · have haccepted : (core.scope.acceptIngress (.portIngress (.request request))).1 = .ok () := by
      rw [hmethod] at hok
      cases hresult : (core.scope.acceptIngress (.portIngress (.request request))).1 with
      | ok value => rfl
      | error error =>
          rw [hresult] at hok
          cases hok
    refine @Cared.push _ fault hand core _ .pending h ?_ ?_ (List.Subset.refl _) ?_ ?_
    · intro waiter hwaiter
      unfold Core.Holds completions at *
      rw [hscope, hchannel, List.filterMap_append]
      exact hwaiter.imp_left (List.mem_append_left _)
    · intro waiter hwaiter
      unfold Core.Admitted completions at *
      rw [hscope, hsent, List.filterMap_append] at hwaiter
      refine (List.mem_append.mp hwaiter).imp_right ?_
      intro hnew
      have heq : waiter = request.completion := by
        simpa [ScopeCall.appends, LiveEvent.completion?] using hnew
      exact heq.trans hcompletion
    · unfold Core.hostRequest
      dsimp only
      rw [haccepted]
    · refine .inl ?_
      unfold completions
      rw [hscope, hchannel, List.filterMap_append, ← hcompletion]
      exact List.mem_append_right _ (by simp [ScopeCall.appends, LiveEvent.completion?])
  · obtain ⟨reason, hrefused⟩ :
        ∃ reason, (core.scope.acceptIngress (.portIngress (.request request))).1 = .error reason := by
      rw [hmethod] at herror
      cases hresult : (core.scope.acceptIngress (.portIngress (.request request))).1 with
      | ok value =>
          rw [hresult] at herror
          cases herror
      | error reason => exact ⟨reason, rfl⟩
    have hadmitted : ∀ waiter, (core.hostRequest request).Admitted waiter → core.Admitted waiter := by
      intro waiter hwaiter
      unfold Core.Admitted at *
      rw [hscope, hsent] at hwaiter
      exact hwaiter
    refine @Cared.push _ fault hand core _ (.returned (.error reason)) h ?_
      (fun waiter hwaiter => .inl (hadmitted waiter hwaiter)) (List.Subset.refl _) ?_ ?_
    · intro waiter hwaiter
      unfold Core.Holds at *
      rw [hscope, hchannel]
      exact hwaiter
    · unfold Core.hostRequest
      dsimp only
      rw [hrefused]
    · intro hwaiter
      exact absurd (h.known _ (hadmitted _ hwaiter)) (Nat.lt_irrefl _)

/-- A change of one operation. -/
theorem Cared.modify {core' : Core} {update : Waiter → Waiter} {index : Nat}
    (h : Cared fault hand core)
    (hholds : ∀ waiter, waiter ≠ index → core.Holds hand waiter → core'.Holds hand waiter)
    (hadmitted : ∀ waiter, core'.Admitted waiter → core.Admitted waiter)
    (hjournal : core.journal ⊆ core'.journal)
    (hwaiters : core'.waiters = core.waiters.modify index update)
    (hupdate : ∀ state, Fares fault hand core index state → Fares fault hand core' index (update state)) : Cared fault hand core' := by
  refine ⟨?_, ?_⟩
  · intro waiter hwaiter
    rw [hwaiters, List.length_modify]
    exact h.known waiter (hadmitted waiter hwaiter)
  · intro waiter state hstate
    rw [hwaiters, List.getElem?_modify] at hstate
    obtain ⟨before, hbefore, rfl⟩ := Option.map_eq_some_iff.mp hstate
    by_cases hindex : index = waiter
    · rw [if_pos hindex]
      subst hindex
      exact (h.fares index before hbefore).imp (@hjournal _) (hupdate before)
    · rw [if_neg hindex]
      exact (h.fares waiter before hbefore).imp (@hjournal _)
        (Fares.mono (hholds waiter (Ne.symm hindex)) (hadmitted waiter) hjournal)

theorem Cared.poll (htells : core.Tells fault) (waiter : Nat) (h : Cared fault hand core) :
    Cared fault hand (core.poll waiter) := by
  refine @Cared.modify _ fault hand core (core.poll waiter) _ waiter h (fun _ _ hholds => hholds)
    (fun _ hadmitted => hadmitted) (List.Subset.refl _) rfl ?_
  intro state hstate
  match state with
  | .pending => exact hstate
  | .replied reply => exact hstate
  | .returned (.ok reply) => exact hstate
  | .returned (.error error) => exact hstate
  | .dropped =>
      intro _
      obtain ⟨error, herror⟩ := Option.isSome_iff_exists.mp hstate
      have hphase := htells error herror
      rw [herror]
      unfold Scope.requestEndedError
      rw [hphase]

theorem Cared.emit (generation : Nat) (event : ErasedSourceEvent) (h : Cared fault hand core) :
    Cared fault hand (core.emit generation event) := by
  unfold Core.emit
  split
  · exact h
  · split
    · exact h
    · rename_i gate _ _
      have hplain : completions
          (ScopeCall.source (.sourceEvent gate.stamp gate.terminalType event)).appends = [] := rfl
      dsimp only
      split <;> exact h.called hplain rfl rfl rfl rfl

theorem Cared.deliver {task : Nat} {event : LiveEvent} (hplain : event.completion? = none)
    (h : Cared fault hand core) : Cared fault hand (core.deliver task event) := by
  have hcompletions : completions (ScopeCall.finite event).appends = [] := by
    simp [completions, ScopeCall.appends, hplain]
  exact h.called hcompletions rfl rfl rfl rfl

theorem Cared.act (htells : core.Tells fault) (activity : Activity) (h : Cared fault hand core) :
    Cared fault hand (core.act activity) := by
  cases activity with
  | @send component target message =>
      have hplain : completions (ScopeCall.ingress (.message
          ⟨target.id, RustTypes.componentMessage component, ⟨_, message⟩, none⟩)).appends = [] := rfl
      exact h.called hplain rfl rfl rfl rfl
  | notify ingress =>
      have hplain : completions (ScopeCall.ingress
          (.portIngress (.notification ingress))).appends = [] := rfl
      exact h.called hplain rfl rfl rfl rfl
  | request protocol requestType port request => exact h.hostRequest _ rfl
  | poll waiter => exact h.poll htells waiter
  | beginShutdown mode =>
      have hplain : completions (ScopeCall.shutdown mode).appends = [] := rfl
      exact h.called hplain rfl rfl rfl rfl
  | emit generation event => exact h.emit generation event
  | installStopHook generation result =>
      show Cared fault hand (core.installStopHook generation result)
      unfold Core.installStopHook
      split
      · exact h
      · split
        · exact h
        · exact h.same rfl rfl (List.Subset.refl _) rfl
  | complete task outcome =>
      show Cared fault hand (core.complete task outcome)
      unfold Core.complete
      split
      · exact h
      · split
        · split
          · exact h.deliver rfl
          · exact h
        · exact h
  | fire task =>
      show Cared fault hand (core.fire task)
      unfold Core.fire
      split
      · exact h
      · split
        · exact h.deliver rfl
        · exact h
  | exit task outcome =>
      show Cared fault hand (core.exit task outcome)
      unfold Core.exit
      split
      · exact h
      · split
        · exact h
        · exact h.same rfl rfl (List.Subset.refl _) rfl

/-- What waits, and what it will be told, while the owner waits its turn. -/
theorem Cared.turn (htells : core.Tells fault) (h : Cared fault hand core) :
    Cared fault hand core.turn := by
  have hboth := @turn_preserves _ (fun core => core.Tells fault ∧ Cared fault hand core)
    (fun core activity hboth => ⟨hboth.1.beats (act_beats core activity), hboth.2.act hboth.1 activity⟩)
    (fun _ _ hboth => ⟨hboth.1, hboth.2.same rfl rfl (List.Subset.refl _) rfl⟩) core ⟨htells, h⟩
  exact hboth.2

end Activities

/-! ### Steps -/

section Steps

variable {fault : Option RuntimeError} {hand : Option LiveEvent} {core core' : Core}

/-- A completion is discarded: the other operations still have theirs. -/
theorem Cared.discard {hand' : Option LiveEvent} {completion : Option Nat}
    (h : Cared fault hand core)
    (hholds : ∀ waiter, completion ≠ some waiter → core.Holds hand waiter →
      core'.Holds hand' waiter)
    (hscope : core'.scope = core.scope) (hjournal : core'.journal = core.journal)
    (hwaiters : core'.waiters = core.waiters) : Cared fault hand' (core'.discard completion) := by
  have hadmitted : ∀ waiter, core'.Admitted waiter → core.Admitted waiter := by
    intro waiter hwaiter
    unfold Core.Admitted at *
    rw [hscope] at hwaiter
    exact hwaiter
  have hsubset : core.journal ⊆ core'.journal := by
    rw [hjournal]
    exact List.Subset.refl _
  cases completion with
  | none => exact h.frame (fun waiter => hholds waiter (by simp)) hadmitted hsubset hwaiters
  | some completion =>
      have hkept : core.journal ⊆ (core'.discard (some completion)).journal :=
        List.subset_append_of_subset_left _ hsubset
      refine ⟨?_, ?_⟩
      · intro waiter hwaiter
        show waiter < (core'.dropCompletion completion).waiters.length
        unfold Core.dropCompletion
        rw [Core.withWaiter_waiters, List.length_modify, hwaiters]
        exact h.known waiter (hadmitted waiter hwaiter)
      · intro waiter state hstate
        by_cases hindex : completion = waiter
        · exact .inl (List.mem_append_right _ (by simp [hindex]))
        · unfold Core.discard Core.observed Core.dropCompletion at hstate
          dsimp only at hstate
          rw [Core.withWaiter_waiters, List.getElem?_modify, hwaiters] at hstate
          obtain ⟨before, hbefore, rfl⟩ := Option.map_eq_some_iff.mp hstate
          rw [if_neg hindex]
          exact (h.fares waiter before hbefore).imp (@hkept _)
            (Fares.mono (hholds waiter (by simpa using hindex)) (hadmitted waiter) hkept)

theorem Cared.observed (h : Cared fault hand core) (observation : Observation) :
    Cared fault hand (core.observed observation) :=
  h.same rfl rfl (List.subset_append_left _ _) rfl

/-- Removing the row found leaves the completions of the others. -/
theorem outstanding_eraseP {requests : List OutstandingRequest} {p : OutstandingRequest → Bool}
    {request : OutstandingRequest} (hfound : requests.find? p = some request) {waiter : Nat}
    (hwaiter : request.completion? ≠ some waiter)
    (h : waiter ∈ requests.filterMap OutstandingRequest.completion?) :
    waiter ∈ (requests.eraseP p).filterMap OutstandingRequest.completion? := by
  induction requests with
  | nil => cases h
  | cons row requests ih =>
      obtain ⟨found, hfound', hcompletion⟩ := List.mem_filterMap.mp h
      by_cases hp : p row = true
      · rw [List.find?_cons_of_pos hp] at hfound
        cases hfound
        rw [List.eraseP_cons_of_pos hp]
        rcases List.mem_cons.mp hfound' with rfl | hmem
        · exact absurd hcompletion hwaiter
        · exact List.mem_filterMap.mpr ⟨found, hmem, hcompletion⟩
      · rw [List.find?_cons_of_neg hp] at hfound
        rw [List.eraseP_cons_of_neg hp]
        rcases List.mem_cons.mp hfound' with rfl | hmem
        · exact List.mem_filterMap.mpr ⟨found, List.mem_cons_self, hcompletion⟩
        · have hrest := ih hfound (List.mem_filterMap.mpr ⟨found, hmem, hcompletion⟩)
          obtain ⟨other, hother, hcompletion'⟩ := List.mem_filterMap.mp hrest
          exact List.mem_filterMap.mpr ⟨other, List.mem_cons_of_mem _ hother, hcompletion'⟩

/-- So does removing the last row. -/
theorem outstanding_dropLast {requests : List OutstandingRequest} {waiter : Nat}
    (hwaiter : requests.getLast?.bind OutstandingRequest.completion? ≠ some waiter)
    (h : waiter ∈ requests.filterMap OutstandingRequest.completion?) :
    waiter ∈ requests.dropLast.filterMap OutstandingRequest.completion? := by
  rcases List.eq_nil_or_concat requests with rfl | ⟨rows, row, rfl⟩
  · exact h
  · rw [List.concat_eq_append] at *
    rw [List.getLast?_concat, Option.bind_some] at hwaiter
    rw [List.dropLast_concat]
    rw [List.filterMap_append] at h
    rcases List.mem_append.mp h with hrest | hlast
    · exact hrest
    · obtain ⟨found, hfound, hcompletion⟩ := List.mem_filterMap.mp hlast
      rw [List.mem_singleton.mp hfound] at hcompletion
      exact absurd hcompletion hwaiter

theorem Cared.withoutRequest {correlation : Nat} {request : OutstandingRequest}
    (h : Cared fault hand core)
    (hrequest : core.requests.find? (·.correlation = correlation) = some request)
    (hcompletion : request.completion? = none) :
    Cared fault hand (core.withoutRequest correlation) := by
  refine h.frame ?_ (fun _ hadmitted => hadmitted) (List.Subset.refl _) rfl
  intro waiter hwaiter
  rcases hwaiter with hchannel | houtstanding | hhand
  · exact .inl hchannel
  · refine .inr (.inl (outstanding_eraseP hrequest ?_ houtstanding))
    rw [hcompletion]
    simp
  · exact .inr (.inr hhand)

theorem Cared.replied {correlation completion : Nat} {request : OutstandingRequest}
    (h : Cared fault hand core)
    (hrequest : core.requests.find? (·.correlation = correlation) = some request)
    (hhost : request.completion? = some completion) (reply : ErasedValue) :
    Cared fault hand (((core.withoutRequest correlation).observed
      (.continued request reply)).withReply completion reply) := by
  have hanswered : Core.Answered (((core.withoutRequest correlation).observed
      (.continued request reply)).withReply completion reply) completion :=
    ⟨request, reply, List.mem_append_right _ (by simp), hhost⟩
  have hjournal : core.journal ⊆ (((core.withoutRequest correlation).observed
      (.continued request reply)).withReply completion reply).journal :=
    List.subset_append_left _ _
  refine @Cared.modify _ fault hand core _ _ completion h ?_ (fun _ hadmitted => hadmitted)
    hjournal rfl ?_
  · intro waiter hne hwaiter
    rcases hwaiter with hchannel | houtstanding | hhand
    · exact .inl hchannel
    · refine .inr (.inl (outstanding_eraseP hrequest ?_ houtstanding))
      rw [hhost]
      simpa using Ne.symm hne
    · exact .inr (.inr hhand)
  · intro state hstate
    match state with
    | .pending => exact hanswered
    | .replied reply => exact hanswered
    | .dropped => exact hstate
    | .returned (.ok reply) => exact hanswered
    | .returned (.error error) => exact hstate

theorem Cared.requested (h : Cared fault hand core) (request : OutstandingRequest) :
    Cared fault hand (core.requested request) := by
  refine h.frame ?_ (fun _ hadmitted => hadmitted) (List.subset_append_left _ _) rfl
  intro waiter hwaiter
  rcases hwaiter with hchannel | houtstanding | hhand
  · exact .inl hchannel
  · refine .inr (.inl ?_)
    show waiter ∈ (core.requests ++ [request]).filterMap _
    rw [List.filterMap_append]
    exact List.mem_append_left _ houtstanding
  · exact .inr (.inr hhand)

theorem Cared.accepted (h : Cared fault hand core) {event : LiveEvent}
    (hplain : event.completion? = none) : Cared fault hand (core.accepted event) := by
  have hcompletions : completions (ScopeCall.finite event).appends = [] := by
    simp [completions, ScopeCall.appends, hplain]
  exact h.called hcompletions rfl rfl rfl rfl

theorem Cared.privately (h : Cared fault hand core) (hprivate : Privately core core') :
    Cared fault hand core' := by
  refine h.same (congrArg Core.scope hprivate :) (congrArg Core.requests hprivate :) ?_
    (congrArg Core.waiters hprivate :)
  rw [show core'.journal = core.journal from (congrArg Core.journal hprivate :)]
  exact List.Subset.refl _

/-- The owner looks after the completions that it has. -/
theorem Cared.step (htells : core.Tells fault) (h : Cared fault hand core)
    (hstep : Step core core') : Cared fault hand core' := by
  have hsame {next : Core} (hscope : next.scope = core.scope)
      (hrequests : next.requests = core.requests) (hjournal : core.journal ⊆ next.journal)
      (hwaiters : next.waiters = core.waiters) : Cared fault hand next :=
    h.same hscope hrequests hjournal hwaiters
  cases hstep with
  | turned => exact h.turn htells
  | privately hprivate => exact h.privately hprivate
  | sent hplain => exact h.accepted rfl
  | activated component subscription context =>
      have hrealized : Cared fault hand (core.realized component subscription) :=
        hsame rfl rfl (List.Subset.refl _) rfl
      have hturned := @Cared.turn _ _ _ (core.realized component subscription) htells hrealized
      exact (hturned.same rfl rfl (List.Subset.refl _) rfl : Cared fault hand
        ((core.realized component subscription).turn.spawned context .none)).same rfl rfl
          (List.subset_append_left _ _) rfl
  | requested => exact h.requested _
  | mistyped hrequest =>
      refine h.discard ?_ rfl rfl rfl
      rintro waiter hne (hchannel | houtstanding | hhand)
      · exact .inl hchannel
      · exact .inr (.inl (outstanding_eraseP hrequest hne houtstanding))
      · exact .inr (.inr hhand)
  | continued hrequest hcomponent reply => exact (h.withoutRequest hrequest hcomponent).observed _
  | replied hrequest hhost reply => exact h.replied hrequest hhost reply
  | popped =>
      refine h.discard ?_ rfl rfl rfl
      rintro waiter hne (hchannel | houtstanding | hhand)
      · exact .inl hchannel
      · exact .inr (.inl (outstanding_dropLast hne houtstanding))
      · exact .inr (.inr hhand)
  | discarded completion => exact h.discard (fun _ _ hholds => hholds) rfl rfl rfl
  | withdrawn stamp => exact hsame rfl rfl (List.subset_append_left _ _) rfl
  | retained hsource subscription => exact hsame rfl rfl (List.subset_append_left _ _) rfl
  | _ => exact hsame rfl rfl (List.Subset.refl _) rfl

theorem Cared.advance (htells : core.Tells fault) (h : Cared fault hand core)
    (hadvance : Advance core core') : Cared fault hand core' := by
  cases hadvance with
  | step hstep => exact h.step htells hstep
  | transitioned message => exact h.observed _
  | planned generation plan => exact h.same rfl rfl (List.Subset.refl _) rfl
  | mapped stamp event subscription outer messages => exact h.observed _
  | finished generation => exact h.same rfl rfl (List.Subset.refl _) rfl
  | sentMapped message => exact h.accepted rfl

theorem Cared.exit {stop : Stop} (h : Cared fault hand core) (hexit : Exit stop core core') :
    Cared fault hand core' := by
  cases hexit with
  | fault => exact h
  | halted => exact h.same rfl rfl (List.Subset.refl _) rfl
  | caught => exact h.observed _
  | unwound => exact h.observed _

/-- An event that nobody waits for can be out of the owner's hand. -/
theorem Cared.empty {event : LiveEvent} (hplain : event.completion? = none)
    (h : Cared fault (some event) core) : Cared fault none core := by
  refine h.frame ?_ (fun _ hadmitted => hadmitted) (List.Subset.refl _) rfl
  intro waiter hwaiter
  rcases hwaiter with hchannel | houtstanding | hhand
  · exact .inl hchannel
  · exact .inr (.inl houtstanding)
  · rw [Option.bind_some, hplain] at hhand
    cases hhand

/-- The completion of the event in the owner's hand is discarded. -/
theorem Cared.dropped {event : LiveEvent} {completion : Nat}
    (hcompletion : event.completion? = some completion) (h : Cared fault (some event) core) :
    Cared fault none (core.discard (some completion)) := by
  refine h.discard ?_ rfl rfl rfl
  rintro waiter hne (hchannel | houtstanding | hhand)
  · exact .inl hchannel
  · exact .inr (.inl houtstanding)
  · rw [Option.bind_some, hcompletion] at hhand
    exact absurd hhand hne

/-- The completion of an event goes with it from the channel into the hand. -/
theorem Cared.taken {event : LiveEvent} {channel : List LiveEvent} (h : Cared fault none core)
    (hchannel : core.scope.channel = event :: channel) :
    Cared fault (some event)
      ((core.withScope { core.scope with channel }).observed (.received event)) := by
  refine h.frame ?_ (fun _ hadmitted => hadmitted) (List.subset_append_left _ _) rfl
  intro waiter hwaiter
  rcases hwaiter with hmem | houtstanding | hhand
  · unfold completions at hmem
    rw [hchannel, List.filterMap_cons] at hmem
    cases hcompletion : event.completion? with
    | none =>
        rw [hcompletion] at hmem
        exact .inl hmem
    | some completion =>
        rw [hcompletion] at hmem
        rcases List.mem_cons.mp hmem with rfl | hrest
        · exact .inr (.inr hcompletion)
        · exact .inl hrest
  · exact .inr (.inl houtstanding)
  · cases hhand

end Steps

/-! ## Runs -/

section Runs

theorem tells_none (core : Core) : core.Tells none := fun _ h => by cases h

/-- Events that nobody waits for. -/
theorem dispatch_plain {event : LiveEvent} (hevent : event ≠ .shutdown .cancel)
    (hplain : event.completion? = none) :
    Triple (fun core => Base (some event) core ∧ Cared none (some event) core) (dispatch event)
      (fun _ => Cared none none) (fun _ => Cared none none) := by
  have hfollows : Triple (fun core => Base (some event) core ∧ Cared none none core)
      (dispatch event) (fun _ core => Base (some event) core ∧ Cared none none core)
      (fun _ => Cared none none) := by
    refine Exec.triple_of_follows (fun core hcore => dispatch_follows hevent hcore.1) ?_ ?_
    · rintro core core' ⟨hbase, hcared⟩ hadvance
      exact ⟨hbase.advance hadvance, hcared.advance (tells_none core) hadvance⟩
    · rintro stop core core' ⟨_, hcared⟩ hexit
      exact hcared.exit hexit
  exact Exec.triple_conseq hfollows (fun core hcore => ⟨hcore.1, hcore.2.empty hplain⟩)
    (fun _ _ hboth => hboth.2) fun _ _ => id

/-- A host request passes from the owner's hand to the table, or is discarded. -/
theorem processPortRequest_cared (ingress : PortRequest) :
    Triple (Cared none (some (.portIngress (.request ingress)))) (processPortRequest ingress)
      (fun _ => Cared none none) (fun _ => Cared none none) := by
  intro core hcared
  unfold processPortRequest
  have hwork : nextWork.run core = .ok core.nextWork { core with nextWork := core.nextWork + 1 } :=
    rfl
  rw [Exec.run_bind_ok hwork]
  have hcounted : Cared none (some (.portIngress (.request ingress)))
      { core with nextWork := core.nextWork + 1 } := hcared.privately rfl
  generalize ({ core with nextWork := core.nextWork + 1 } : Core) = next at hcounted
  rcases resolveRequestPort_run ingress core.nextWork next with ⟨binding, hrun⟩ | ⟨error, hrun⟩
  · rw [Exec.run_bind_ok hrun]
    have hpushed : Cared none none
        (({ next with nextRequest := next.nextRequest + 1 } : Core).requested
          ⟨next.nextRequest, ingress.replyType, .host ingress.completion⟩) := by
      have hnumbered : Cared none (some (.portIngress (.request ingress)))
          { next with nextRequest := next.nextRequest + 1 } := hcounted.privately rfl
      refine (hnumbered.requested ⟨next.nextRequest, ingress.replyType,
        .host ingress.completion⟩).frame ?_ (fun _ hadmitted => hadmitted) (List.Subset.refl _) rfl
      intro waiter hwaiter
      rcases hwaiter with hchannel | houtstanding | hhand
      · exact .inl hchannel
      · exact .inr (.inl houtstanding)
      · refine .inr (.inl ?_)
        have heq : ingress.completion = waiter := Option.some.inj hhand
        show waiter ∈ (next.requests ++ [_]).filterMap _
        rw [List.filterMap_append, ← heq]
        exact List.mem_append_right _ (by simp [OutstandingRequest.completion?])
    have hconvert := moves_convertRequest ingress next.nextRequest binding core.nextWork
    exact Exec.triple_of_follows (fun core _ => hconvert core)
      (fun core _ hcared hstep => hcared.step (tells_none core) hstep)
      (fun _ _ _ hcared hexit => hcared.exit hexit) _ hpushed
  · rw [EStateM.run_bind, hrun]
    exact hcounted.dropped rfl

theorem dispatch_cared {event : LiveEvent} (hevent : event ≠ .shutdown .cancel) :
    Triple (fun core => Base (some event) core ∧ Cared none (some event) core) (dispatch event)
      (fun _ => Cared none none) (fun _ => Cared none none) := by
  cases event with
  | portIngress ingress =>
      cases ingress with
      | request ingress =>
          exact Exec.triple_conseq (processPortRequest_cared ingress) (fun _ h => h.2)
            (fun _ _ => id) fun _ _ => id
      | notification ingress => exact dispatch_plain hevent rfl
  | _ => exact dispatch_plain hevent rfl

theorem retain_cared (event : LiveEvent) :
    Triple (Cared none (some event)) (retainPreCancelEffectOutcome event)
      (fun _ => Cared none none) (fun _ => Cared none none) := by
  cases event with
  | effectOutcome effect outcome =>
      refine Exec.triple_conseq (Exec.triple_of_follows
        (fun core _ => moves_processEffect effect outcome core)
        (fun core _ (hcared : Cared none none core) hstep => hcared.step (tells_none core) hstep)
        fun _ _ _ hcared hexit => hcared.exit hexit) ?_ (fun _ _ => id) fun _ _ => id
      exact fun core hcared => hcared.empty rfl
  | portIngress ingress =>
      cases ingress with
      | request ingress => exact fun core hcared => hcared.dropped rfl
      | notification ingress => exact fun core hcared => hcared.empty rfl
  | _ => exact fun core hcared => hcared.empty rfl

/-! ### The end of the owner -/

/-- Dropped completions reach the operations that wait for them. -/
theorem dropped_waiter (completions : List Nat) (core : Core) (waiter : Nat) (state : Waiter)
    (h : (completions.foldl Core.dropCompletion core).waiters[waiter]? = some state) :
    ∃ before, core.waiters[waiter]? = some before ∧
      (state = before ∧ (before = .pending → waiter ∉ completions) ∨
        state = .dropped) := by
  induction completions generalizing core with
  | nil => exact ⟨state, h, .inl ⟨rfl, by simp⟩⟩
  | cons completion completions ih =>
      obtain ⟨middle, hmiddle, hcases⟩ := ih (core.dropCompletion completion) h
      unfold Core.dropCompletion at hmiddle
      rw [Core.withWaiter_waiters, List.getElem?_modify] at hmiddle
      obtain ⟨before, hbefore, hupdate⟩ := Option.map_eq_some_iff.mp hmiddle
      refine ⟨before, hbefore, ?_⟩
      by_cases hindex : completion = waiter
      · rw [if_pos hindex] at hupdate
        cases before with
        | pending =>
            dsimp only at hupdate
            rcases hcases with ⟨rfl, _⟩ | hdropped
            · exact .inr hupdate.symm
            · exact .inr hdropped
        | replied reply | dropped | returned result =>
            dsimp only at hupdate
            rcases hcases with ⟨rfl, _⟩ | hdropped
            · exact .inl ⟨hupdate.symm, by simp⟩
            · exact .inr hdropped
      · rw [if_neg hindex] at hupdate
        rcases hcases with ⟨rfl, hnotin⟩ | hdropped
        · refine .inl ⟨hupdate.symm, ?_⟩
          intro hpending hmem
          rcases List.mem_cons.mp hmem with heq | hmem
          · exact hindex heq.symm
          · exact hnotin (by rw [← hupdate]; exact hpending) hmem
        · exact .inr hdropped

theorem length_dropped (completions : List Nat) (core : Core) :
    (completions.foldl Core.dropCompletion core).waiters.length = core.waiters.length := by
  induction completions generalizing core with
  | nil => rfl
  | cons completion completions ih =>
      rw [List.foldl_cons, ih]
      exact List.length_modify _ _ _

/-- Once a fault is stored, completions can be dropped. -/
theorem Cared.drops {error : RuntimeError} {core core' : Core} {completions : List Nat}
    (h : Cared (some error) none core)
    (hholds : ∀ waiter, core.Holds none waiter → waiter ∉ completions → core'.Holds none waiter)
    (hadmitted : ∀ waiter, core'.Admitted waiter → core.Admitted waiter)
    (hjournal : core.journal ⊆ core'.journal)
    (hwaiters : core'.waiters = (completions.foldl Core.dropCompletion core).waiters) :
    Cared (some error) none core' := by
  refine ⟨?_, ?_⟩
  · intro waiter hwaiter
    rw [hwaiters, length_dropped]
    exact h.known waiter (hadmitted waiter hwaiter)
  · intro waiter state hstate
    rw [hwaiters] at hstate
    obtain ⟨before, hbefore, hcases⟩ := dropped_waiter completions core waiter state hstate
    rcases hcases with ⟨rfl, hnotin⟩ | rfl
    · refine (h.fares waiter _ hbefore).imp (@hjournal _) fun hfares => ?_
      match state with
      | .pending => exact hholds waiter hfares (hnotin rfl)
      | .replied reply => exact Core.Answered.mono hjournal hfares
      | .dropped => exact hfares
      | .returned (.ok reply) => exact Core.Answered.mono hjournal hfares
      | .returned (.error error) => exact fun hadmitted' => hfares (hadmitted waiter hadmitted')
    · exact .inr rfl

theorem waits_journal {core core' : Core} (h : Waits core core') : core'.journal = core.journal :=
  (congrArg Core.journal h :)

theorem waits_requests {core core' : Core} (h : Waits core core') :
    core'.requests = core.requests :=
  (congrArg Core.requests h :)

/-- Dropping touches nothing but the operations that wait. -/
theorem foldl_waiters {core core' : Core} (h : core'.waiters = core.waiters)
    (completions : List Nat) : (completions.foldl Core.dropCompletion core').waiters =
      (completions.foldl Core.dropCompletion core).waiters := by
  induction completions generalizing core core' with
  | nil => exact h
  | cons completion completions ih =>
      refine ih ?_
      unfold Core.dropCompletion
      rw [Core.withWaiter_waiters, Core.withWaiter_waiters, h]

theorem Cared.ending {error : RuntimeError} {core core' : Core} (htells : core.Tells (some error))
    (h : Cared (some error) none core) (hending : Ending core core') :
    Cared (some error) none core' := by
  cases hending with
  | turned => exact h.turn htells
  | gateStopped hgate => exact h.same rfl rfl (List.Subset.refl _) rfl
  | cleared => exact h.same rfl rfl (List.Subset.refl _) rfl
  | joined => exact h.same rfl rfl (List.Subset.refl _) rfl
  | requestsDropped =>
      have hwaits := waits_dropRequests ({ core with requests := [] } : Core) core.requests
      refine @Cared.drops _ error core _ core.outstanding h ?_ ?_ ?_
        (@foldl_waiters _ core { core with requests := [] } rfl core.outstanding)
      · intro waiter hholds hnotin
        rcases hholds with hchannel | houtstanding | hhand
        · refine .inl ?_
          rw [waits_scope hwaits]
          exact hchannel
        · exact absurd houtstanding hnotin
        · cases hhand
      · intro waiter hwaiter
        unfold Core.Admitted at *
        rw [waits_scope hwaits] at hwaiter
        exact hwaiter
      · rw [waits_journal hwaits]
        exact List.Subset.refl _
  | channelDropped =>
      have hwaits := waits_dropEvents (core.withScope { core.scope with channel := [] })
        core.scope.channel
      refine @Cared.drops _ error core _ (completions core.scope.channel) h ?_ ?_ ?_
        (@foldl_waiters _ core (core.withScope { core.scope with channel := [] }) rfl _)
      · intro waiter hholds hnotin
        rcases hholds with hchannel | houtstanding | hhand
        · exact absurd hchannel hnotin
        · refine .inr (.inl ?_)
          unfold Core.outstanding
          rw [waits_requests hwaits]
          exact houtstanding
        · cases hhand
      · intro waiter hwaiter
        unfold Core.Admitted at *
        rw [waits_scope hwaits] at hwaiter
        exact hwaiter
      · rw [waits_journal hwaits]
        exact List.Subset.refl _

/-- A fault is stored before any completion is dropped. -/
theorem Cared.faulted {error : RuntimeError} {core : Core} (halive : core.scope.Alive)
    (h : Cared none none core) :
    (core.faulted error).Tells (some error) ∧ Cared (some error) none (core.faulted error) := by
  have hturned := h.turn (tells_none core)
  have hnotFinal := ((turn_beats core).alive halive).notFinal
  constructor
  · rintro _ ⟨⟩
    show (core.turn.scope.fault error).phase = _
    unfold Scope.fault
    rw [hnotFinal]
    rfl
  · have hplain : completions (ScopeCall.fault error).appends = [] := rfl
    have hcalled : Cared none none (core.faulted error) := hturned.called hplain rfl rfl rfl rfl
    refine ⟨hcalled.known, ?_⟩
    intro waiter state hstate
    refine (hcalled.fares waiter state hstate).imp_right fun hfares => ?_
    match state with
    | .pending => exact hfares
    | .replied reply => exact hfares
    | .dropped => rfl
    | .returned (.ok reply) => exact hfares
    | .returned (.error other) =>
        intro hwaiter
        cases hfares hwaiter

/-- The operations after the owner has ended with a fault. -/
structure Told (error : RuntimeError) (core : Core) : Prop where
  tells : core.Tells (some error)
  cared : Cared (some error) none core

theorem cared_rule : Rule (fun hand core => Cared none hand core)
    (fun _ core => Cared none none core)
    (fun fault core => ∀ error, fault = some error → Told error core)
    (fun result core => ∀ error, result = .error (.error error) → Told error core) where
  step {_ core _} _ hcared hstep := hcared.step (tells_none core) hstep
  exit _ hcared hexit := hcared.exit hexit
  taken _ hcared hchannel := hcared.taken hchannel
  joined _ hcared _ := hcared.same rfl rfl (List.Subset.refl _) rfl
  dispatched event hevent := dispatch_cared hevent
  retained event := Exec.triple_conseq (retain_cared event) (fun _ h => h.2.2) (fun _ _ => id)
    fun _ _ => id
  marker hcared := hcared.empty rfl
  halted _ _ hcared := hcared.same rfl rfl (List.Subset.refl _) rfl
  drained _ _ _ _ _ := fun _ h => by cases h
  cancelled _ _ _ := fun _ h => by cases h
  faulted halive hcared := by
    rintro _ ⟨⟩
    exact ⟨(hcared.faulted halive).1, (hcared.faulted halive).2⟩
  joining _ _ := fun _ h => by cases h
  ending hA hending := by
    intro error herror
    have htold := hA error herror
    exact ⟨htold.tells.beats hending.beats, htold.cared.ending htold.tells hending⟩
  closed _ _ := fun _ h => by cases h
  failed hA := by
    rintro _ ⟨⟩
    exact hA _ rfl
  panicked _ := fun _ h => by cases h
  running _ _ := fun _ h => by cases h

theorem Cared.fresh (program : Program) (bindings : Bindings) (schedule : List (List Activity)) :
    Cared none none (Core.fresh program bindings schedule) :=
  ⟨fun _ hnone => absurd hnone List.not_mem_nil, nofun⟩

/-! ### After the owner -/

/-- A run that has ended with its scope faulted has reported that fault. -/
theorem launch_of_faulted {program : Program} {bindings : Bindings}
    {schedule : List (List Activity)} {fuel : Nat} {error : RuntimeError}
    (hended : (reported (launch program bindings schedule fuel)).isSome)
    (hfault : (ended (launch program bindings schedule fuel)).scope.phase = .faulted error) :
    ∃ core, launch program bindings schedule fuel = .error (.error error) core := by
  have hends := (@Rule.launch _ _ _ _ _ Rule.trivial program bindings schedule .intro fuel).1
  cases hres : launch program bindings schedule fuel with
  | ok value core =>
      rw [hres] at hends hfault
      have hclosed : core.scope.phase = .closed := hends.closed rfl
      have hcontra := hclosed.symm.trans hfault
      cases hcontra
  | error stop core =>
      rw [hres] at hends hfault hended
      cases stop with
      | error other =>
          have hphase : core.scope.phase = .faulted other := hends.faulted other rfl
          have heq := hphase.symm.trans hfault
          cases heq
          exact ⟨core, rfl⟩
      | panicked panic =>
          have halive := (hends.alive _ rfl (by simp) (by simp)).notFinal
          have hphase : core.scope.phase = .faulted error := hfault
          have hcontra : core.scope.phase.isFinal = false := halive
          rw [hphase] at hcontra
          cases hcontra
      | outOfFuel | joining => cases hended

/-- Nothing waits any more that could not be told of the fault. -/
structure Settled (error : RuntimeError) (core : Core) : Prop where
  told : Told error core
  channel : core.scope.channel = []
  requests : core.requests = []

theorem drop_journal (core : Core) : core.drop.journal = core.journal := by
  have hwaits : Waits core ((core.dropEvents core.scope.channel).dropRequests core.requests) :=
    (waits_dropEvents core core.scope.channel).trans (waits_dropRequests _ core.requests)
  have hjournal := waits_journal hwaits
  exact hjournal

theorem Told.drop {error : RuntimeError} {core : Core} (h : Told error core) :
    Settled error core.drop := by
  refine ⟨⟨h.tells, ?_⟩, rfl, rfl⟩
  refine @Cared.drops _ error core _ (completions core.scope.channel ++ core.outstanding) h.cared
    ?_ (fun _ hadmitted => hadmitted) ?_ ?_
  · intro waiter hholds hnotin
    rcases hholds with hchannel | houtstanding | hhand
    · exact absurd (List.mem_append_left _ hchannel) hnotin
    · exact absurd (List.mem_append_right _ houtstanding) hnotin
    · cases hhand
  · rw [drop_journal]
    exact List.Subset.refl _
  · rw [List.foldl_append]
    rfl

theorem Settled.act {error : RuntimeError} {core : Core} (h : Settled error core)
    (activity : Activity) : Settled error (core.act activity) := by
  have hbeats := act_beats core activity
  have hphase := h.told.tells error rfl
  refine ⟨⟨h.told.tells.beats hbeats, h.told.cared.act h.told.tells activity⟩, ?_, ?_⟩
  · have hboth := @Exec.path_preserves _ Scope.Beat
      (fun scope => scope.phase = .faulted error ∧ scope.channel = [])
      (fun scope scope' hboth hbeat => by
        obtain ⟨hfaulted, hchannel⟩ := hboth
        refine ⟨(hbeat.phase_eq (by rw [hfaulted]; simp)).trans hfaulted, ?_⟩
        cases hbeat with
        | taken hsublist =>
            rw [hchannel] at hsublist
            exact List.sublist_nil.mp hsublist
        | called hcall =>
            rename_i call
            rcases scope.called_appends call with ⟨hok, happended, _⟩ | ⟨_, hsame, _⟩
            · by_contra hne
              have hopen := scope.method_open call hok (by
                intro hnil
                rw [happended, hnil, hchannel] at hne
                exact hne rfl)
              rw [hfaulted] at hopen
              cases call with
              | ingress event | source event | shutdown mode => cases hopen
              | finite event => rcases hopen with hopen | hopen <;> cases hopen
              | fault other => cases hopen
              | close => cases hopen
            · rw [hsame]
              exact hchannel)
      _ _ hbeats ⟨hphase, h.channel⟩
    exact hboth.2
  · rw [(act_beside core activity).requests]
    exact h.requests

/-- The operation, polled, returns this. -/
def Core.Resolves (core : Core) (waiter : Nat) (result : Except RuntimeError ErasedValue) : Prop :=
  (core.poll waiter).waiters[waiter]? = some (.returned result)

theorem Settled.resolves {error : RuntimeError} {core : Core} (h : Settled error core)
    {waiter : Nat} (hkept : ¬ core.Discarded waiter) (hadmitted : core.Admitted waiter)
    (hunanswered : ¬ core.Answered waiter) : core.Resolves waiter (.error error) := by
  have hcared := h.told.cared
  obtain ⟨state, hstate⟩ : ∃ state, core.waiters[waiter]? = some state :=
    ⟨_, List.getElem?_eq_getElem (hcared.known waiter hadmitted)⟩
  have hfares := (hcared.fares waiter state hstate).resolve_left hkept
  unfold Core.Resolves Core.poll
  rw [Core.withWaiter_waiters, List.getElem?_modify_eq, hstate]
  match state with
  | .pending =>
      exfalso
      rcases hfares with hchannel | houtstanding | hhand
      · rw [h.channel] at hchannel
        cases hchannel
      · unfold Core.outstanding at houtstanding
        rw [h.requests] at houtstanding
        cases houtstanding
      · cases hhand
  | .replied reply => exact absurd hfares hunanswered
  | .returned (.ok reply) => exact absurd hfares hunanswered
  | .dropped =>
      show some (Waiter.returned (.error core.scope.requestEndedError)) = _
      unfold Scope.requestEndedError
      rw [h.told.tells error rfl]
  | .returned (.error other) =>
      have heq := hfares hadmitted
      cases heq
      rfl

/-! ### Looking at a run -/

def Waiter.error? : Waiter → Option RuntimeError
  | .returned (.error error) => some error
  | _ => none

def Observation.discards : Observation → Bool
  | .discarded _ => true
  | _ => false

def Observation.continues : Observation → Bool
  | .continued _ _ => true
  | _ => false

theorem not_discarded {core : Core} (h : core.journal.any Observation.discards = false)
    (waiter : Nat) : ¬ core.Discarded waiter := by
  intro hmem
  have hcontra := List.any_eq_false.mp h _ hmem
  exact hcontra rfl

theorem not_answered {core : Core} (h : core.journal.any Observation.continues = false)
    (waiter : Nat) : ¬ core.Answered waiter := by
  rintro ⟨request, reply, hmem, _⟩
  have hcontra := List.any_eq_false.mp h _ hmem
  exact hcontra rfl

theorem not_resolves {core : Core} {waiter : Nat} {error other : RuntimeError}
    (h : (core.poll waiter).waiters[waiter]?.bind Waiter.error? = some other)
    (hne : other ≠ error) : ¬ core.Resolves waiter (.error error) := by
  intro hresolves
  unfold Core.Resolves at hresolves
  rw [hresolves] at h
  exact hne (Option.some.inj h).symm

/-- A run that ends with a stored fault has reported it, and settles everything
    that waited. -/
theorem settled_afterwards {program : Program} {bindings : Bindings}
    {schedule : List (List Activity)} {fuel : Nat} {error : RuntimeError}
    (hended : (reported (launch program bindings schedule fuel)).isSome)
    (hfault : (ended (launch program bindings schedule fuel)).scope.phase = .faulted error)
    (later : List Activity) :
    reported (launch program bindings schedule fuel) = some (.error error) ∧
      Settled error (afterwards program bindings schedule fuel later) ∧
        (afterwards program bindings schedule fuel later).journal =
          (Exec.final (launch program bindings schedule fuel)).journal := by
  obtain ⟨core, hlaunch⟩ := launch_of_faulted hended hfault
  have htold := (cared_rule.launch (.fresh program bindings schedule) fuel).2 error (by rw [hlaunch]; rfl)
  rw [hlaunch] at htold
  unfold afterwards
  rw [hlaunch]
  refine ⟨rfl, ?_, ?_⟩
  · exact @acts_preserve _ (Settled error) (fun _ activity h => h.act activity) later _ htold.drop
  · exact @acts_preserve _ (fun next => next.journal = core.journal)
      (fun next activity h => (act_beside next activity).journal.trans h) later _
      (drop_journal core)

/-- An operation that was admitted and not answered learns of the fault. -/
theorem resolves_afterwards {program : Program} {bindings : Bindings}
    {schedule : List (List Activity)} {fuel : Nat} {error : RuntimeError}
    (hended : (reported (launch program bindings schedule fuel)).isSome)
    (hfault : (ended (launch program bindings schedule fuel)).scope.phase = .faulted error)
    {later : List Activity} {waiter : Nat}
    (hkept : ¬ (Exec.final (launch program bindings schedule fuel)).Discarded waiter)
    (hadmitted : (afterwards program bindings schedule fuel later).Admitted waiter)
    (hunanswered : ¬ (afterwards program bindings schedule fuel later).Answered waiter) :
    (afterwards program bindings schedule fuel later).Resolves waiter (.error error) := by
  obtain ⟨_, hsettled, hjournal⟩ := settled_afterwards hended hfault later
  refine hsettled.resolves ?_ hadmitted hunanswered
  unfold Core.Discarded
  rw [hjournal]
  exact hkept

/-- In every run that ends with a stored fault, every admitted host request that
    was not answered, and whose completion the owner did not drop before, returns
    that fault, which is also what the task of the runtime returns. -/
theorem host_requests_see_fault {program : Program} {bindings : Bindings}
    {schedule : List (List Activity)} {fuel : Nat} {later : List Activity} {error : RuntimeError}
    (hended : (reported (launch program bindings schedule fuel)).isSome)
    (hfault : (ended (launch program bindings schedule fuel)).scope.phase = .faulted error) :
    reported (launch program bindings schedule fuel) = some (.error error) ∧
      ∀ waiter, ¬ (Exec.final (launch program bindings schedule fuel)).Discarded waiter →
        (afterwards program bindings schedule fuel later).Admitted waiter →
          ¬ (afterwards program bindings schedule fuel later).Answered waiter →
            (afterwards program bindings schedule fuel later).Resolves waiter (.error error) :=
  ⟨(settled_afterwards hended hfault later).1, fun _ => resolves_afterwards hended hfault⟩

end Runs

end Live

end Samara

namespace Samara.Live

attribute [local instance] Sample.types

/-- A Component that starts an effect and answers nobody. -/
def teller : Component () where
  init := ((0 : Nat), .declaration (.effect ⟨⟨0, ⟨7⟩⟩, (), .plain 1, none⟩))
  update := fun (model : Nat) _ => (model + 1, .ok .none)
  subscriptions _ := .ok []

def tellerBuilder : ProgramBuilder :=
  ((((ProgramBuilder.new ⟨7⟩).effect ()).component ⟨"teller"⟩ teller).port () ⟨"teller"⟩).bindPort
    (⟨⟨"teller"⟩, ⟨7⟩⟩ : Port ()) (⟨⟨"teller"⟩, ⟨7⟩⟩ : ComponentRef ())

def tellerProgram : Program := tellerBuilder.build.toOption.get rfl

/-- The host asks the teller. -/
def ask : Activity := .request () () (⟨⟨"teller"⟩, ⟨7⟩⟩ : Port ()) (.plain 3)

/-- What the owner makes of a Driver that panics in the effect of the teller. -/
def tellerFault : RuntimeError :=
  .fault ⟨"teller"⟩ (some "u64") 1 "runtime-owned Driver task panicked"

/-- The host asks, and later the Driver panics. -/
def robbed : List (List Activity) :=
  List.replicate 9 [] ++ [[ask], [], [], [], [], [.exit 0 .panicked]]

/-- The host asks and begins to cancel, and the Driver panics; the operation is
    polled while the owner finishes the Cancel. -/
def hurried : List (List Activity) :=
  List.replicate 9 [] ++ [[ask, .beginShutdown .cancel, .exit 0 .panicked], [], [.poll 0]]

theorem host_requests_see_fault_robbed :
    reported (launch tellerProgram ⟨[()], []⟩ robbed 10) = some (.error tellerFault) ∧
      (afterwards tellerProgram ⟨[()], []⟩ robbed 10 []).Resolves 0 (.error tellerFault) :=
  And.imp_right (fun hall => hall 0 (not_discarded (by decide +kernel) 0)
      (show 0 ∈ completions _ by decide +kernel) (not_answered (by decide +kernel) 0))
    (@host_requests_see_fault _ tellerProgram ⟨[()], []⟩ robbed 10 [] tellerFault
      (by decide +kernel) (by decide +kernel))

/-- The request was admitted and not answered, the owner reported a fault, and
    the operation was told that the runtime had ended before a Reply. -/
theorem host_request_told_otherwise :
    (afterwards tellerProgram ⟨[()], []⟩ hurried 10 []).scope.phase = .faulted tellerFault ∧
      reported (launch tellerProgram ⟨[()], []⟩ hurried 10) = some (.error tellerFault) ∧
        (afterwards tellerProgram ⟨[()], []⟩ hurried 10 []).Admitted 0 ∧
          ¬ (afterwards tellerProgram ⟨[()], []⟩ hurried 10 []).Answered 0 ∧
            ¬ (afterwards tellerProgram ⟨[()], []⟩ hurried 10 []).Resolves 0
              (.error tellerFault) :=
  ⟨by decide +kernel, by decide +kernel, show 0 ∈ completions _ by decide +kernel,
    not_answered (by decide +kernel) 0,
    @not_resolves _ _ 0 tellerFault (.harness "live runtime ended before a reply")
      (by decide +kernel) (by decide +kernel)⟩

end Samara.Live
