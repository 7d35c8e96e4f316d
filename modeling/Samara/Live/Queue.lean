/-
  Samara.Live.Queue

  The event channel of a live runtime.  What the owner has taken off the
  channel, followed by what is on it, is what the scope ever accepted: events
  are neither lost, repeated nor reordered while the owner runs.
-/
import Samara.Live.Waiters

namespace Samara

open Exec (Triple)

variable [RustTypes]

namespace Live

/-! ## Events taken and events accepted -/

def Observation.received? : Observation → Option LiveEvent
  | .received event => some event
  | _ => none

/-- The events that the owner has taken, in order. -/
def Core.received (core : Core) : List LiveEvent := core.journal.filterMap Observation.received?

theorem received_observed (core : Core) (observation : Observation) :
    (core.observed observation).received = core.received ++ observation.received?.toList := by
  unfold Core.received
  rw [Core.observed_journal, List.filterMap_append]
  cases observation <;> rfl

theorem received_of_journal {core core' : Core} (h : core'.journal = core.journal) :
    core'.received = core.received := by
  unfold Core.received
  rw [h]

/-- Observations of anything else. -/
theorem received_quiet {core : Core} {observation : Observation}
    (h : observation.received? = none) : (core.observed observation).received = core.received := by
  rw [received_observed, h]
  exact List.append_nil _

theorem received_discard (core : Core) (completion : Option Nat) :
    (core.discard completion).received = core.received := by
  cases completion with
  | none => rfl
  | some completion => exact received_quiet rfl

/-- A Source event has the type of the terminal descriptor of its Source. -/
def LiveEvent.WellTyped : LiveEvent → Prop
  | .sourceEvent _ terminalType event => event.type = terminalType.eventType
  | _ => True

/-- The channel is what was accepted and has not been taken. -/
structure Queued (core : Core) : Prop where
  sent : core.scope.sent = core.received ++ core.scope.channel
  typed : ∀ event ∈ core.scope.sent, event.WellTyped

/-- What is left of the law once the owner cleans up: the channel is dropped. -/
structure Taken (core : Core) : Prop where
  sent : core.received <+: core.scope.sent
  typed : ∀ event ∈ core.scope.sent, event.WellTyped

theorem Queued.taken {core : Core} (h : Queued core) : Taken core :=
  ⟨⟨core.scope.channel, h.sent.symm⟩, h.typed⟩

section Frames

variable {core core' : Core}

/-- Only tables that the channel does not depend on differ. -/
theorem Queued.same (h : Queued core) (hscope : core'.scope = core.scope)
    (hreceived : core'.received = core.received) : Queued core' :=
  ⟨by rw [hscope, hreceived]; exact h.sent, by rw [hscope]; exact h.typed⟩

theorem Taken.same (h : Taken core) (hsent : core'.scope.sent = core.scope.sent)
    (hreceived : core'.received = core.received) : Taken core' :=
  ⟨by rw [hsent, hreceived]; exact h.sent, by rw [hsent]; exact h.typed⟩

/-- What a call appends it appends to both. -/
theorem Queued.called {call : ScopeCall} (h : Queued core)
    (htyped : ∀ event ∈ call.appends, event.WellTyped)
    (hscope : core'.scope = core.scope.called call) (hreceived : core'.received = core.received) :
    Queued core' := by
  rcases core.scope.called_appends call with ⟨_, hchannel, hsent⟩ | ⟨_, hchannel, hsent⟩
  · refine ⟨?_, ?_⟩
    · rw [hscope, hsent, hchannel, hreceived, h.sent, List.append_assoc]
    · rw [hscope, hsent]
      intro event hevent
      exact (List.mem_append.mp hevent).elim (h.typed event) (htyped event)
  · refine ⟨?_, ?_⟩
    · rw [hscope, hsent, hchannel, hreceived]
      exact h.sent
    · rw [hscope, hsent]
      exact h.typed

theorem Taken.called {call : ScopeCall} (h : Taken core)
    (htyped : ∀ event ∈ call.appends, event.WellTyped)
    (hscope : core'.scope = core.scope.called call) (hreceived : core'.received = core.received) :
    Taken core' := by
  rcases core.scope.called_appends call with ⟨_, _, hsent⟩ | ⟨_, _, hsent⟩
  · refine ⟨?_, ?_⟩
    · rw [hscope, hsent, hreceived]
      exact h.sent.trans (List.prefix_append _ _)
    · rw [hscope, hsent]
      intro event hevent
      exact (List.mem_append.mp hevent).elim (h.typed event) (htyped event)
  · exact h.same (by rw [hscope, hsent]) hreceived

end Frames

/-! ## Activities -/

section Activities

/-- The gate takes only events of the type of its terminal descriptor. -/
theorem emit_called (core : Core) (generation : Nat) (event : ErasedSourceEvent) :
    (core.emit generation event).scope = core.scope ∨ ∃ gate,
      core.gates[generation]? = some gate ∧ event.type = gate.terminalType.eventType ∧
        (core.emit generation event).scope =
          core.scope.called (.source (.sourceEvent gate.stamp gate.terminalType event)) := by
  unfold Core.emit
  cases hgate : core.gates[generation]? with
  | none => exact .inl rfl
  | some gate =>
      dsimp only
      by_cases hclosed : (gate.state ≠ .active || event.type ≠ gate.terminalType.eventType) = true
      · rw [if_pos hclosed]
        exact .inl rfl
      · rw [if_neg hclosed]
        have htype : event.type = gate.terminalType.eventType := by
          by_contra hne
          exact hclosed (Bool.or_eq_true_iff.mpr (.inr (decide_eq_true hne)))
        refine .inr ⟨gate, rfl, htype, ?_⟩
        split <;> rfl

/-- An activity makes one well-typed call at most. -/
theorem act_called (core : Core) (activity : Activity) :
    (core.act activity).scope = core.scope ∨ ∃ call : ScopeCall,
      (core.act activity).scope = core.scope.called call ∧
        ∀ event ∈ call.appends, event.WellTyped := by
  have hplain {event : LiveEvent} (hevent : event.WellTyped) :
      ∀ other ∈ [event], other.WellTyped := by
    intro other hother
    rw [List.mem_singleton.mp hother]
    exact hevent
  cases activity with
  | @send component target message =>
      let accepted : LiveEvent := .message
        ⟨target.id, RustTypes.componentMessage component, ⟨_, message⟩, none⟩
      exact .inr ⟨.ingress accepted, rfl, @hplain accepted trivial⟩
  | notify ingress =>
      exact .inr ⟨.ingress (.portIngress (.notification ingress)), rfl,
        @hplain (.portIngress (.notification ingress)) trivial⟩
  | request protocol requestType port request =>
      let accepted : LiveEvent := .portIngress (.request
        ⟨protocol, requestType, port, request, core.waiters.length⟩)
      exact .inr ⟨.ingress accepted, rfl, @hplain accepted trivial⟩
  | poll waiter => exact .inl rfl
  | beginShutdown mode => exact .inr ⟨.shutdown mode, rfl, @hplain (.shutdown mode) trivial⟩
  | emit generation event =>
      rcases emit_called core generation event with hscope | ⟨gate, _, htype, hscope⟩
      · exact .inl hscope
      · exact .inr ⟨_, hscope, @hplain (.sourceEvent gate.stamp gate.terminalType event) htype⟩
  | installStopHook generation result => exact .inl (installStopHook_scope core generation result)
  | complete task outcome =>
      rcases complete_cases core task outcome with hsame | ⟨_, id, _, _, _, hdelivered⟩
      · exact .inl (congrArg Core.scope hsame :)
      · exact .inr ⟨.finite (.effectOutcome id outcome), (congrArg Core.scope hdelivered :),
          @hplain (.effectOutcome id outcome) trivial⟩
  | fire task =>
      rcases fire_cases core task with hsame | ⟨_, id, message, _, _, hdelivered⟩
      · exact .inl (congrArg Core.scope hsame :)
      · exact .inr ⟨.finite (.timerFired id message), (congrArg Core.scope hdelivered :),
          @hplain (.timerFired id message) trivial⟩
  | exit task outcome => exact .inl (exit_scope core task outcome)

theorem received_act (core : Core) (activity : Activity) :
    (core.act activity).received = core.received :=
  received_of_journal (act_beside core activity).journal

variable {core : Core}

theorem Queued.act (h : Queued core) (activity : Activity) : Queued (core.act activity) := by
  rcases act_called core activity with hscope | ⟨call, hscope, htyped⟩
  · exact h.same hscope (received_act core activity)
  · exact h.called htyped hscope (received_act core activity)

theorem Taken.act (h : Taken core) (activity : Activity) : Taken (core.act activity) := by
  rcases act_called core activity with hscope | ⟨call, hscope, htyped⟩
  · exact h.same (by rw [hscope]) (received_act core activity)
  · exact h.called htyped hscope (received_act core activity)

theorem Queued.turn (h : Queued core) : Queued core.turn :=
  @turn_preserves _ Queued (fun _ activity h => h.act activity) (fun _ _ h => h.same rfl rfl) core h

theorem Taken.turn (h : Taken core) : Taken core.turn :=
  @turn_preserves _ Taken (fun _ activity h => h.act activity) (fun _ _ h => h.same rfl rfl) core h

end Activities

/-! ## Steps -/

section Steps

variable {core core' : Core}

/-- Only `tryRecv` takes an event. -/
theorem Step.received (h : Step core core') : core'.received = core.received := by
  cases h with
  | turned => exact received_of_journal (turn_beside core).journal
  | privately h => exact received_of_journal (congrArg Core.journal h :)
  | activated component subscription context =>
      have hturned := received_of_journal (turn_beside (core.realized component subscription)).journal
      exact (received_quiet rfl).trans hturned
  | requested => exact received_quiet rfl
  | mistyped => exact received_discard _ _
  | continued => exact received_quiet rfl
  | replied => exact received_quiet rfl
  | popped => exact received_discard _ _
  | discarded => exact received_discard _ _
  | withdrawn => exact received_quiet rfl
  | retained => exact received_quiet rfl
  | _ => rfl

theorem Advance.received (h : Advance core core') : core'.received = core.received := by
  cases h with
  | step h => exact h.received
  | transitioned message => exact received_quiet rfl
  | mapped stamp event subscription outer messages => exact received_quiet rfl
  | _ => rfl

theorem typed_message {message : QueuedMessage} :
    ∀ event ∈ (ScopeCall.finite (.message message)).appends, event.WellTyped := by
  intro event hevent
  rw [List.mem_singleton.mp hevent]
  trivial

theorem Queued.step (h : Queued core) (hstep : Step core core') : Queued core' := by
  have hreceived := hstep.received
  cases hstep with
  | turned => exact h.turn
  | privately hprivate => exact h.same (congrArg Core.scope hprivate :) hreceived
  | sent hplain => exact h.called typed_message rfl hreceived
  | activated component subscription context =>
      have hrealized : Queued (core.realized component subscription) := h.same rfl rfl
      exact hrealized.turn.same rfl (received_quiet rfl)
  | mistyped hrequest => exact h.same (discard_scope _ _) hreceived
  | popped => exact h.same (discard_scope _ _) hreceived
  | discarded completion => exact h.same (discard_scope _ _) hreceived
  | _ => exact h.same rfl hreceived

theorem Queued.advance (h : Queued core) (hadvance : Advance core core') : Queued core' := by
  have hreceived := hadvance.received
  cases hadvance with
  | step hstep => exact h.step hstep
  | sentMapped message => exact h.called typed_message rfl hreceived
  | _ => exact h.same rfl hreceived

/-- A failure is about no event. -/
theorem Exit.queued {stop : Stop} (h : Exit stop core core') (hqueued : Queued core) :
    Queued core' := by
  cases h with
  | fault error => exact hqueued
  | halted error core generation => exact hqueued.same rfl rfl
  | caught error => exact hqueued.same rfl (received_quiet rfl)
  | unwound panic => exact hqueued.same rfl (received_quiet rfl)

/-- The event at the front is taken. -/
theorem Queued.take (h : Queued core) {event : LiveEvent} {channel : List LiveEvent}
    (hchannel : core.scope.channel = event :: channel) :
    Queued ((core.withScope { core.scope with channel }).observed (.received event)) := by
  refine ⟨?_, h.typed⟩
  have hsent : core.scope.sent = core.received ++ event :: channel := hchannel ▸ h.sent
  have hreceived : ((core.withScope { core.scope with channel }).observed
      (.received event)).received = core.received ++ [event] := received_observed _ _
  rw [hreceived, List.append_assoc]
  exact hsent

theorem received_waits (h : Waits core core') : core'.received = core.received :=
  received_of_journal (waits_journal h)

theorem Taken.ending (h : Taken core) (hending : Ending core core') : Taken core' := by
  cases hending with
  | turned => exact h.turn
  | requestsDropped =>
      have hwaits := waits_dropRequests ({ core with requests := [] } : Core) core.requests
      have hreceived := received_waits hwaits
      exact h.same (by rw [waits_scope hwaits]) hreceived
  | channelDropped =>
      have hwaits := waits_dropEvents (core.withScope { core.scope with channel := [] })
        core.scope.channel
      have hsent : (core.withScope { core.scope with channel := [] }).scope.sent =
          core.scope.sent := rfl
      have hreceived := received_waits hwaits
      exact h.same (by rw [waits_scope hwaits, hsent]) hreceived
  | _ => exact h.same rfl rfl

end Steps

/-! ## Runs -/

theorem dispatch_queued {event : LiveEvent} (hevent : event ≠ .shutdown .cancel) :
    Triple (fun core => Base (some event) core ∧ Queued core) (dispatch event)
      (fun _ => Queued) (fun _ => Queued) := by
  have hfollows : Triple (fun core => Base (some event) core ∧ Queued core) (dispatch event)
      (fun _ core => Base (some event) core ∧ Queued core) (fun _ => Queued) := by
    refine Exec.triple_of_follows (fun core hcore => dispatch_follows hevent hcore.1) ?_ ?_
    · rintro core core' ⟨hbase, hqueued⟩ hadvance
      exact ⟨hbase.advance hadvance, hqueued.advance hadvance⟩
    · rintro stop core core' ⟨_, hqueued⟩ hexit
      exact hexit.queued hqueued
  exact Exec.triple_conseq hfollows (fun _ => id) (fun _ _ hboth => hboth.2) fun _ _ => id

theorem Queued.triple {α : Type} {x : Owner α} (hx : Moves Step x) :
    Triple Queued x (fun _ => Queued) (fun _ => Queued) :=
  Exec.triple_of_follows (fun core _ => hx core)
    (fun _ _ hqueued hstep => hqueued.step hstep) fun _ _ _ hqueued hexit => hexit.queued hqueued

/-- A call of the owner that appends nothing. -/
theorem Taken.called_silent {core : Core} (h : Taken core) {call : ScopeCall}
    (hsilent : call.appends = []) : Taken (core.withScope (core.scope.called call)) := by
  refine h.called ?_ rfl rfl
  rw [hsilent]
  exact fun event hnone => absurd hnone List.not_mem_nil

/-- While the owner runs, the channel is what it has not taken; whatever ends
    it, what it took came first. -/
theorem queue_rule : Rule (fun _ => Queued) (fun _ => Queued) (fun _ => Taken)
    (fun result core => Taken core ∧ (result = .error .outOfFuel → Queued core)) where
  step _ hqueued hstep := hqueued.step hstep
  exit _ hqueued hexit := hexit.queued hqueued
  taken _ hqueued hchannel := hqueued.take hchannel
  joined _ hqueued _ := hqueued.same rfl rfl
  dispatched event hevent := dispatch_queued hevent
  retained event := Exec.triple_conseq
    (Queued.triple (moves_retainPreCancelEffectOutcome event)) (fun _ h => h.2.2) (fun _ _ => id)
    fun _ _ => id
  marker hqueued := hqueued
  halted _ _ hqueued := hqueued.same rfl rfl
  drained {core} _ hqueued _ _ _ := by
    have hcleared : Taken ({ core with sources := [] } : Core) := hqueued.taken.same rfl rfl
    exact ⟨hcleared.turn.called_silent rfl, fun h => by cases h⟩
  cancelled _ _ hqueued := hqueued.taken
  faulted _ hqueued := hqueued.taken.turn.called_silent rfl
  ending htaken hending := htaken.ending hending
  closed _ htaken := ⟨htaken.turn.called_silent rfl, fun h => by cases h⟩
  failed htaken := ⟨htaken, fun h => by cases h⟩
  panicked hqueued := ⟨hqueued.taken, fun h => by cases h⟩
  joining _ htaken := ⟨htaken, fun h => by cases h⟩
  running _ hqueued := ⟨hqueued.taken, fun _ => hqueued⟩

/-- Nothing has been accepted by a scope that is new. -/
theorem Queued.fresh (program : Program) (bindings : Bindings)
    (schedule : List (List Activity)) : Queued (Core.fresh program bindings schedule) :=
  ⟨rfl, fun _ hnone => absurd hnone List.not_mem_nil⟩

theorem taken_launch (program : Program) (bindings : Bindings) (schedule : List (List Activity))
    (fuel : Nat) : Taken (Exec.final (launch program bindings schedule fuel)) :=
  (queue_rule.launch (Queued.fresh program bindings schedule) fuel).2.1

end Live

end Samara
