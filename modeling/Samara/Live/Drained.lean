/-
  Samara.Live.Drained

  A run of a live runtime that ends by itself, without a Cancel, has been
  drained, and nothing that it had accepted or issued is left undone.
-/
import Samara.Live.Ledger

namespace Samara

variable [RustTypes]

namespace Live

/-! ## The turn before the end -/

/-- The scope is draining, and no task is left: nothing can be accepted any
    more. -/
structure Core.Stale (sent : List LiveEvent) (core : Core) : Prop where
  phase : core.scope.phase = .draining
  tasks : core.tasks = []
  finished : core.finished = []
  sent : core.scope.sent = sent
  channel : core.scope.channel = []

namespace Core.Stale

variable {sent : List LiveEvent} {core core' : Core}

theorem called (h : core.Stale sent) (call : ScopeCall) (hclosed : call.closes = true)
    (hscope : core'.scope = core.scope.called call)
    (htasks : core'.tasks = core.tasks ∧ core'.finished = core.finished) : core'.Stale sent := by
  have hrefused : (core.scope.called call).phase = .draining ∧
      ∃ error, (core.scope.method call).1 = .error error := by
    have hphase := h.phase
    generalize core.scope = scope at hphase
    obtain ⟨phase, connected, channel, log⟩ := scope
    cases hphase
    cases call with
    | ingress event => exact ⟨rfl, _, rfl⟩
    | source event => exact ⟨rfl, _, rfl⟩
    | shutdown mode => exact ⟨rfl, _, rfl⟩
    | finite event => cases hclosed
    | fault error => cases hclosed
    | close => cases hclosed
  obtain ⟨hphase, error, herror⟩ := hrefused
  rcases core.scope.called_appends call with ⟨hok, _, _⟩ | ⟨_, hchannel, hsent⟩
  · rw [herror] at hok
    cases hok
  · refine ⟨?_, htasks.1.trans h.tasks, htasks.2.trans h.finished, ?_, ?_⟩
    · rw [hscope]
      exact hphase
    · rw [hscope]
      exact hsent.trans h.sent
    · rw [hscope]
      exact hchannel.trans h.channel

theorem act (h : core.Stale sent) (activity : Activity) : (core.act activity).Stale sent := by
  have htask (task : Nat) : core.task? task = none := by
    unfold Core.task?
    rw [h.tasks]
    rfl
  cases activity with
  | send target message => exact h.called (.ingress (.message _)) rfl rfl ⟨rfl, rfl⟩
  | notify ingress => exact h.called (.ingress (.portIngress _)) rfl rfl ⟨rfl, rfl⟩
  | request protocol requestType port request =>
      exact h.called (.ingress (.portIngress _)) rfl rfl ⟨rfl, rfl⟩
  | poll waiter => exact ⟨h.phase, h.tasks, h.finished, h.sent, h.channel⟩
  | beginShutdown mode => exact h.called (.shutdown mode) rfl rfl ⟨rfl, rfl⟩
  | emit generation event =>
      show (core.emit generation event).Stale sent
      have htasks : (core.emit generation event).tasks = core.tasks ∧
          (core.emit generation event).finished = core.finished := by
        unfold Core.emit
        split
        · exact ⟨rfl, rfl⟩
        · split
          · exact ⟨rfl, rfl⟩
          · dsimp only
            split <;> exact ⟨rfl, rfl⟩
      rcases emit_called core generation event with hscope | ⟨gate, _, _, hscope⟩
      · refine ⟨?_, htasks.1.trans h.tasks, htasks.2.trans h.finished, ?_, ?_⟩
        · rw [hscope]
          exact h.phase
        · rw [hscope]
          exact h.sent
        · rw [hscope]
          exact h.channel
      · exact h.called (.source (.sourceEvent _ _ _)) rfl hscope htasks
  | installStopHook generation result =>
      show (core.installStopHook generation result).Stale sent
      unfold Core.installStopHook
      split
      · exact h
      · split
        · exact h
        · exact ⟨h.phase, h.tasks, h.finished, h.sent, h.channel⟩
  | complete task outcome =>
      show (core.complete task outcome).Stale sent
      unfold Core.complete
      rw [htask]
      exact h
  | fire task =>
      show (core.fire task).Stale sent
      unfold Core.fire
      rw [htask]
      exact h
  | exit task outcome =>
      show (core.exit task outcome).Stale sent
      unfold Core.exit
      rw [htask]
      exact h

theorem turn (h : core.Stale sent) : core.turn.Stale sent :=
  @turn_preserves _ (Core.Stale sent) (fun _ activity h => h.act activity)
    (fun _ _ h => ⟨h.phase, h.tasks, h.finished, h.sent, h.channel⟩) core h

end Core.Stale

/-! ## The end -/

/-- Nothing is left undone of what the runtime has accepted and issued. -/
structure Completed (core : Core) : Prop where
  closed : core.scope.phase = .closed
  drained : .shutdown .drain ∈ core.scope.sent
  /-- Every event that was accepted has been taken, in order. -/
  received : core.received = core.scope.sent
  /-- Every Message that no Source has made has begun one transition, in order. -/
  begun : core.begun.filter (·.isPlain) = (messages core.scope.sent).filter (·.isPlain)
  /-- Every effect and every timer that was issued has delivered once. -/
  errands : ∀ (errand : Errand) (number : Nat), number < errand.issued core →
    (errand.delivered core).count number = 1
  /-- Every request that was issued has been answered once, at its type. -/
  requests : (Correlation.answered core.machine.history).Perm
    ((Correlation.issued core.machine.history).map (·.correlation))
  linear : Correlation.Linear (·.correlation) (·.replyType) core.machine.history
  /-- Every operation of the host that was admitted has its Reply. -/
  hosts : ∀ waiter, core.Admitted waiter → core.Answered waiter ∧ ∃ reply,
    core.waiters[waiter]? = some (.replied reply) ∨
      core.waiters[waiter]? = some (.returned (.ok reply))
  idle : core.effects = [] ∧ core.timers = [] ∧ core.requests = [] ∧ core.tasks = [] ∧
    core.finished = [] ∧ core.sources = [] ∧ core.scope.channel = []

/-- An operation that was admitted has its Reply, once the owner has nothing in
    its hands. -/
theorem hosts_of_cared {core : Core} (h : Cared none none core) (hdiscards : ¬ core.Discards)
    (hchannel : core.scope.channel = []) (hrequests : core.requests = []) {waiter : Nat}
    (hadmitted : core.Admitted waiter) :
    core.Answered waiter ∧ ∃ reply, core.waiters[waiter]? = some (.replied reply) ∨
      core.waiters[waiter]? = some (.returned (.ok reply)) := by
  obtain ⟨state, hstate⟩ : ∃ state, core.waiters[waiter]? = some state :=
    ⟨_, List.getElem?_eq_getElem (h.known waiter hadmitted)⟩
  have hfare := (h.fares waiter state hstate).resolve_left fun hmem => hdiscards ⟨waiter, hmem⟩
  rw [hstate]
  match state with
  | .pending =>
      have hholds : core.Holds none waiter := hfare
      unfold Core.Holds Core.outstanding completions at hholds
      rw [hchannel, hrequests] at hholds
      simp at hholds
  | .replied reply => exact ⟨hfare, reply, .inl rfl⟩
  | .dropped => cases hfare
  | .returned (.ok reply) => exact ⟨hfare, reply, .inr rfl⟩
  | .returned (.error error) => cases hfare hadmitted

/-- The state in which a drained owner has closed the scope. -/
theorem completed_closed {core : Core} (hbase : Base none core) (hopen : core.scope.Open)
    (hcared : Cared none none core) (hspent : core.Spent)
    (hbooked : Booked core.received core.received core.received core) :
    Completed (({ core with sources := [] } : Core).closed) := by
  have hphase := hbase.draining hspent.draining
  have hrunning : core.scope.phase ≠ .cancelling := by
    rw [hphase]
    simp
  obtain ⟨hlaw, hdiscards⟩ := hbooked.kept hrunning
  have hsent : core.scope.sent = core.received := by
    rw [hbooked.queued.sent, hspent.channel, List.append_nil]
  have hstale : ({ core with sources := [] } : Core).turn.Stale core.received :=
    Core.Stale.turn ⟨hphase, hspent.tasks, hspent.finished, hsent, hspent.channel⟩
  have hbeside := turn_beside { core with sources := [] }
  have hjournal : (({ core with sources := [] } : Core).closed).journal = core.journal :=
    hbeside.journal
  have hhush : Hush core (({ core with sources := [] } : Core).closed) := .of_journal hjournal
  have hcalled := ({ core with sources := [] } : Core).turn.scope.called_appends .close
  have hsent' : (({ core with sources := [] } : Core).closed).scope.sent = core.received := by
    rcases hcalled with ⟨_, _, hsame⟩ | ⟨_, _, hsame⟩
    · exact (hsame.trans (List.append_nil _)).trans hstale.sent
    · exact hsame.trans hstale.sent
  have hchannel' : (({ core with sources := [] } : Core).closed).scope.channel = [] := hstale.channel
  have heffects : (({ core with sources := [] } : Core).closed).effects = [] :=
    hbeside.effects.trans hspent.effects
  have htimers : (({ core with sources := [] } : Core).closed).timers = [] :=
    hbeside.timers.trans hspent.timers
  have hrequests : (({ core with sources := [] } : Core).closed).requests = [] :=
    hbeside.requests.trans hspent.requests
  refine ⟨rfl, ?_, ?_, ?_, ?_, ?_, ?_, ?_, ?_⟩
  · rw [hsent', ← hsent]
    exact (hopen.announced .drain).mp hphase
  · rw [hhush.received, hsent']
  · rw [hhush.begun, hsent']
    exact hbooked.plain
  · intro errand number hnumber
    have hissued : errand.issued (({ core with sources := [] } : Core).closed) = errand.issued core := by
      have hturned := @Errand.issued_beside _ errand _ _ hbeside
      cases errand <;> exact hturned
    have hdelivered : errand.delivered (({ core with sources := [] } : Core).closed) =
        core.received.filterMap errand.delivered? := congrArg (List.filterMap _) hsent'
    have hrows : errand.rows core = [] := by
      cases errand with
      | effect => exact congrArg (List.map _) hspent.effects
      | timer => exact congrArg (List.map _) hspent.timers
    have haccounted := hbooked.accounted errand
    unfold Errand.Accounted at haccounted
    rw [hrows] at haccounted
    rw [hissued] at hnumber
    rw [hdelivered]
    exact haccounted.complete hnumber
  · rw [hhush.history]
    have hnone : (Correlation.issued core.machine.history).filter
        (·.correlation ∉ Correlation.answered core.machine.history) = [] :=
      hlaw.outstanding.symm.trans hspent.requests
    refine (List.perm_ext_iff_of_nodup hlaw.once hlaw.distinct).mpr fun number => ?_
    constructor
    · intro hnumber
      obtain ⟨row, hrow, rfl⟩ := hlaw.named number hnumber
      exact List.mem_map_of_mem hrow
    · intro hnumber
      obtain ⟨row, hrow, rfl⟩ := List.mem_map.mp hnumber
      by_contra hopen
      have hmem : row ∈ (Correlation.issued core.machine.history).filter
          (·.correlation ∉ Correlation.answered core.machine.history) :=
        List.mem_filter.mpr ⟨hrow, by simpa using hopen⟩
      rw [hnone] at hmem
      exact List.not_mem_nil hmem
  · rw [hhush.history]
    exact hbooked.linear
  · intro waiter hadmitted
    have hcleared : Cared none none ({ core with sources := [] } : Core) :=
      hcared.same rfl rfl (List.Subset.refl _) rfl
    have hturned := hcleared.turn (tells_none _)
    have hclosed : Cared none none (({ core with sources := [] } : Core).closed) :=
      @Cared.called _ _ _ _ _ .close hturned rfl rfl rfl rfl rfl
    refine hosts_of_cared hclosed ?_ hchannel' hrequests hadmitted
    exact fun hnow => hdiscards (discards_of_journal hjournal hnow)
  · exact ⟨heffects, htimers, hrequests, hstale.tasks, hstale.finished, hbeside.sources, hchannel'⟩

/-- A run of a live runtime that ends by itself, and that nobody has cancelled,
    has completed whatever it accepted and issued. -/
theorem drain_completes {program : Program} {bindings : Bindings} {schedule : List (List Activity)}
    {fuel : Nat} {core : Core} (hrun : launch program bindings schedule fuel = .ok () core)
    (hcancel : .shutdown .cancel ∉ core.scope.sent) : Completed core := by
  have hends : Conduct.Ends Ledger (fun _ => Remains) (.ok ()) core := by
    have hlaunch := ledger_launch program bindings schedule fuel
    rw [hrun] at hlaunch
    exact hlaunch
  obtain ⟨reached, hheld, hspent, rfl⟩ := (hends.undisturbed hcancel).2 rfl
  obtain ⟨hcared, handled, hbooked⟩ := hheld.inv
  rw [Option.toList_none, List.append_nil] at hbooked
  have hreceived := hbooked.taken
  rw [← hreceived] at hbooked
  exact completed_closed hheld.base hheld.opened hcared hspent hbooked

end Live

end Samara

namespace Samara.Live

attribute [local instance] Sample.types

/-- A Component that starts an effect and a timer, and answers who asks. -/
def clerk : Component () where
  init := ((0 : Nat), .batch [
    .declaration (.effect ⟨⟨0, ⟨7⟩⟩, (), .plain 1, some fun _ => .ok (.plain 2)⟩),
    .declaration (.after 5 (.plain 3))])
  update := fun (model : Nat) message => (model + 1, .ok (
    match message with
    | .asking number correlation => .declaration (.reply ⟨(), ⟨correlation⟩, .plain number⟩)
    | .plain _ => .none))
  subscriptions _ := .ok []

def clerkProgram : Program :=
  (((((ProgramBuilder.new ⟨7⟩).effect ()).component ⟨"clerk"⟩ clerk).port () ⟨"clerk"⟩).bindPort
    (⟨⟨"clerk"⟩, ⟨7⟩⟩ : Port ()) (⟨⟨"clerk"⟩, ⟨7⟩⟩ : ComponentRef ())).build.toOption.get rfl

/-- The host asks, the effect and the timer are over, and Drain begins. -/
def officeHours : List (List Activity) :=
  List.replicate 12 [] ++ [[
    .request () () (⟨⟨"clerk"⟩, ⟨7⟩⟩ : Port ()) (.plain 4),
    .complete 0 ⟨(), (), .succeeded (.plain 9)⟩, .exit 0 .returned, .fire 1, .exit 1 .returned,
    .beginShutdown .drain]]

def returns : EStateM.Result Stop Core Unit → Bool
  | .ok _ _ => true
  | .error _ _ => false

theorem eq_ok_of_returns {result : EStateM.Result Stop Core Unit} (h : returns result = true) :
    result = .ok () (Exec.final result) := by
  cases result with
  | ok value core => rfl
  | error stop core => cases h

def LiveEvent.isCancel : LiveEvent → Bool
  | .shutdown .cancel => true
  | _ => false

theorem not_cancelled {events : List LiveEvent} (h : events.any LiveEvent.isCancel = false) :
    .shutdown .cancel ∉ events := by
  intro hmem
  have hany : events.any LiveEvent.isCancel = true := List.any_eq_true.mpr ⟨_, hmem, rfl⟩
  rw [h] at hany
  cases hany

theorem drain_completes_clerk :
    Completed (Exec.final (launch clerkProgram ⟨[()], []⟩ officeHours 30)) :=
  drain_completes (eq_ok_of_returns (by decide +kernel)) (not_cancelled (by decide +kernel))

end Samara.Live
