/-
  Samara.Live.Handover

  A transition that moves standard input from one Subscription to another.

  Such a transition is never the first thing that a runtime does: it takes an
  event for it.  So the states that the owner comes to are listed here with the
  events that it takes and the tasks that it joins, as `Reached`.
-/
import Samara.Live.Frame
import Samara.Live.Lease

namespace Samara

open Relation (ReflTransGen)
open Exec (Leads bind_cut leads_pure leads_throw leads_bind leads_ite)

variable [RustTypes]

namespace Live

/-! ## Where the owner comes -/

/-- The states of a run, up to its end or the clean-up before that. -/
inductive Reached (program : Program) (bindings : Bindings) (schedule : List (List Activity)) :
    Core → Prop
  | fresh : Reached program bindings schedule (Core.fresh program bindings schedule)
  | advance {core core' : Core} (h : Reached program bindings schedule core)
      (hadvance : Advance core core') : Reached program bindings schedule core'
  /-- An event is taken off the channel. -/
  | received {core : Core} {event : LiveEvent} {channel : List LiveEvent}
      (h : Reached program bindings schedule core) (hchannel : core.scope.channel = event :: channel) :
      Reached program bindings schedule
        ((core.withScope { core.scope with channel }).observed (.received event))
  /-- A task is joined. -/
  | joined {core : Core} {exit : TaskExit} {finished : List TaskExit}
      (h : Reached program bindings schedule core) (hfinished : core.finished = exit :: finished) :
      Reached program bindings schedule { core with finished }
  /-- A Source is stopped for Cancel. -/
  | halted {core : Core} (h : Reached program bindings schedule core) (generation : Nat) :
      Reached program bindings schedule (core.halted generation false)

namespace Reached

variable {program : Program} {bindings : Bindings} {schedule : List (List Activity)}
  {core core' : Core}

theorem path (h : Reached program bindings schedule core) (hpath : ReflTransGen Advance core core') :
    Reached program bindings schedule core' :=
  Exec.path_preserves (fun _ _ h hadvance => h.advance hadvance) hpath h

theorem moves (h : Reached program bindings schedule core) {α : Type} {x : Owner α} {value : α}
    (hx : Moves Advance x) (hrun : x.run core = .ok value core') :
    Reached program bindings schedule core' := by
  have hfollows := hx core
  rw [hrun] at hfollows
  exact h.path hfollows.1

/-- These are states of the owner. -/
theorem rule : Rule (fun _ => Reached program bindings schedule) (fun _ _ => True) (fun _ _ => True)
    (fun result core => result = .error .outOfFuel → Reached program bindings schedule core) where
  step _ h hstep := h.advance (.step hstep)
  exit _ _ _ := trivial
  taken _ h hchannel := h.received hchannel
  joined _ h hfinished := h.joined hfinished
  dispatched event hevent := by
    refine Exec.triple_conseq (Exec.triple_of_follows
      (fun core hcore => dispatch_follows hevent hcore.1) ?_ (fun _ _ _ _ _ => trivial))
      (fun _ hcore => hcore) (fun _ _ hcore => hcore.2) fun _ _ _ => trivial
    rintro core core' ⟨hbase, h⟩ hadvance
    exact ⟨hbase.advance hadvance, h.advance hadvance⟩
  retained event := by
    refine Exec.triple_conseq (Exec.triple_of_follows
      (fun core _ => (moves_retainPreCancelEffectOutcome event).advance core)
      (fun _ _ h hadvance => h.advance hadvance) fun _ _ _ _ _ => trivial)
      (fun _ hcore => hcore.2.2) (fun _ _ h => h) fun _ _ _ => trivial
  marker h := h
  halted _ _ h := h.halted _
  drained _ _ _ _ _ := nofun
  cancelled _ _ _ := trivial
  faulted _ _ := trivial
  ending _ _ := trivial
  closed _ _ := nofun
  failed _ := nofun
  panicked _ := nofun
  joining _ _ := nofun
  running _ h _ := h

/-- A run that is cut short is in one of these. -/
theorem launch {fuel : Nat}
    (h : outcome (Live.launch program bindings schedule fuel) = .error .outOfFuel) :
    Reached program bindings schedule (Exec.final (Live.launch program bindings schedule fuel)) :=
  (rule.launch .fresh fuel).2 h

theorem tryRecv (h : Reached program bindings schedule core) {event : Option LiveEvent}
    (hrun : Live.tryRecv.run core = .ok event core') : Reached program bindings schedule core' := by
  have hturned := h.advance (.step .turned)
  unfold Live.tryRecv at hrun
  rw [Exec.run_bind_ok (show turn.run core = .ok () core.turn from rfl),
    Exec.run_bind_ok (EStateM.run_get core.turn)] at hrun
  cases hchannel : core.turn.scope.channel with
  | nil =>
      rw [hchannel] at hrun
      cases hrun
      exact hturned
  | cons event channel =>
      rw [hchannel] at hrun
      cases hrun
      exact hturned.received hchannel

theorem generated (h : Reached program bindings schedule core) : Generated core := by
  induction h with
  | fresh => exact ⟨List.nodup_nil, fun _ hmem => absurd hmem List.not_mem_nil⟩
  | advance _ hadvance ih => exact ih.advance hadvance
  | received _ _ ih => exact ih.of_eq rfl rfl
  | joined _ _ ih => exact ih.of_eq rfl rfl
  | halted _ generation ih => exact ih.withSource generation fun _ => rfl

/-- A runtime that drains no longer runs. -/
theorem draining_stopped (h : Reached program bindings schedule core)
    (hdraining : core.draining = true) : core.scope.phase ≠ .running := by
  induction h with
  | fresh => cases hdraining
  | advance _ hadvance ih =>
      rcases hadvance.draining hdraining with hbefore | hphase
      · rw [hadvance.beats.phase_eq (ih hbefore)]
        exact ih hbefore
      · rw [hphase]
        exact nofun
  | received _ _ ih => exact ih hdraining
  | joined _ _ ih => exact ih hdraining
  | halted _ _ ih => exact ih hdraining

theorem between (h : Reached program bindings schedule core) (hphase : core.scope.phase = .running) :
    Between core := by
  refine ⟨h.generated, ?_⟩
  by_contra hdraining
  exact h.draining_stopped (Bool.eq_true_of_not_eq_false hdraining) hphase

end Reached

/-! ## A transition up to its changes -/

/-- What `process_message` does before it applies the changes that it returns,
    with the Command of the transition; nothing if it stops short of them. -/
def reconcileMessage (message : QueuedMessage) :
    Owner (Option (TraceId × List ErasedSubscriptionChange × ErasedCommand)) := do
  let work ← nextWork
  let core ← get
  match core.program.component? message.target message.targetMessageType with
  | none =>
      runtimeFault message.target none work
        "Message target is absent or has a different Message type"
  | some kernel => do
      observe (.transition message)
      let (transitioned, kernel) ← onComponent message.target message.targetMessageType kernel
        (ErasedComponentKernel.transitionErased message.message)
      let command ← caught transitioned message.target none work "Component transition panicked"
      match command with
      | none => throw (.error (.harness "internal typed Message delivery mismatch"))
      | some command => do
          if ← isCancelling then pure none
          else do
            observeDrainCutoff
            uncaught kernel.reconciles
            let (reconciled, _) ← onComponent message.target message.targetMessageType kernel
              ErasedComponentKernel.reconcileSubscriptionsErased
            let result ← uncaught reconciled
            let changes ← requireChanges message.target work result
            if ← isCancelling then pure none
            else do
              observeDrainCutoff
              pure (some (work, changes, command))

/-- What `process_message` does with the changes and the Command. -/
def applyTransition (target : ComponentId) :
    Option (TraceId × List ErasedSubscriptionChange × ErasedCommand) → Owner Unit
  | none => pure ()
  | some (work, changes, command) => do
      applySubscriptionChanges target changes work
      if ← isCancelling then pure ()
      else interpret target command

theorem deliverMessage_eq (message : QueuedMessage) :
    deliverMessage message = reconcileMessage message >>= applyTransition message.target := by
  refine bind_cut fun work => bind_cut fun core => ?_
  cases core.program.component? message.target message.targetMessageType with
  | none => rfl
  | some kernel =>
      refine bind_cut fun _ => bind_cut fun transitioned => bind_cut fun command => ?_
      cases command with
      | none => rfl
      | some command =>
          refine bind_cut fun cancelling => ?_
          cases cancelling with
          | true => rfl
          | false =>
              refine bind_cut fun _ => bind_cut fun _ => bind_cut fun _ => bind_cut fun _ =>
                bind_cut fun changes => bind_cut fun cancelling => ?_
              cases cancelling with
              | true => rfl
              | false => exact bind_cut fun _ => rfl

/-! ## What a transition leaves alone until its changes -/

/-- While the scope is running, nothing is done to the rows, and nothing that
    matters to a lease. -/
structure Tacit (core core' : Core) : Prop where
  beats : Beats core core'
  sources : core.draining = false → core'.scope.phase = .running → core'.sources = core.sources
  draining : core.draining = false → core'.scope.phase = .running → core'.draining = false
  journal : core.draining = false → core'.scope.phase = .running →
    ∃ records, core'.journal = core.journal ++ records ∧
      ∀ observation ∈ records, observation.isInstallation = false

namespace Tacit

variable {core core' : Core}

theorem beside (hbeats : Beats core core') (hbeside : Beside core core') : Tacit core core' :=
  ⟨hbeats, fun _ _ => hbeside.sources, fun hdraining _ => hbeside.draining.trans hdraining,
    fun _ _ => ⟨[], by rw [hbeside.journal, List.append_nil], nofun⟩⟩

instance : IsPreorder Core Tacit where
  refl core := beside (.refl core) (.refl core)
  trans first second third h h' := by
    have hrunning (hphase : third.scope.phase = .running) := h'.beats.running hphase
    refine ⟨h.beats.trans h'.beats, ?_, ?_, ?_⟩
    · intro hdraining hphase
      have hmiddle := h.draining hdraining (hrunning hphase)
      exact (h'.sources hmiddle hphase).trans (h.sources hdraining (hrunning hphase))
    · intro hdraining hphase
      exact h'.draining (h.draining hdraining (hrunning hphase)) hphase
    · intro hdraining hphase
      obtain ⟨records, hjournal, hrecords⟩ := h.journal hdraining (hrunning hphase)
      obtain ⟨more, hjournal', hmore⟩ :=
        h'.journal (h.draining hdraining (hrunning hphase)) hphase
      refine ⟨records ++ more, by rw [hjournal', hjournal, List.append_assoc], ?_⟩
      intro observation hmem
      exact (List.mem_append.mp hmem).elim (hrecords observation) (hmore observation)

theorem observed {observation : Observation} (h : observation.isInstallation = false) :
    Tacit core (core.observed observation) := by
  refine ⟨.of_eq rfl, fun _ _ => rfl, fun hdraining _ => hdraining, fun _ _ => ⟨_, rfl, ?_⟩⟩
  intro other hother
  rw [List.mem_singleton.mp hother]
  exact h

end Tacit

section Tacitly

variable {α : Type}

/-- Whatever `action` comes to, it spares the rows and the lease. -/
abbrev Tacitly (action : Owner α) : Prop := Leads Tacit action

theorem tacitly_turn : Tacitly turn := fun core =>
  .beside (turn_beats core) (turn_beside core)

theorem tacitly_look {rest : Core → Owner α} (h : ∀ core, Tacitly (rest core)) :
    Tacitly (get >>= rest) :=
  Exec.leads_get fun core => h core core

theorem tacitly_isCancelling : Tacitly isCancelling :=
  leads_bind (leads_bind tacitly_turn fun _ => tacitly_look fun _ => leads_pure _) fun _ =>
    leads_pure _

theorem tacitly_caught (result : Callback α) (component : ComponentId)
    (descriptorType : Option String) (work : TraceId) (reason : String) :
    Tacitly (caught result component descriptorType work reason) := by
  cases result with
  | ok value => exact leads_pure value
  | error panic => exact fun _ => .observed rfl

theorem tacitly_uncaught (result : Callback α) : Tacitly (uncaught result) := by
  cases result with
  | ok value => exact leads_pure value
  | error panic => exact fun _ => .observed rfl

theorem tacitly_nextWork : Tacitly nextWork := fun _ =>
  ⟨.of_eq rfl, fun _ _ => rfl, fun hdraining _ => hdraining,
    fun _ _ => ⟨[], (List.append_nil _).symm, nofun⟩⟩

theorem tacitly_onComponent (id : ComponentId) (messageType : TypeId)
    (kernel : ErasedComponentKernel) (action : EStateM Panic ErasedComponentKernel α) :
    Tacitly (onComponent id messageType kernel action) := by
  intro core
  unfold onComponent EStateM.run
  cases action kernel <;>
    exact ⟨.of_eq rfl, fun _ _ => rfl, fun hdraining _ => hdraining,
      fun _ _ => ⟨[], (List.append_nil _).symm, nofun⟩⟩

theorem tacitly_requireChanges (component : ComponentId) (work : TraceId)
    (changes : Except SubscriptionId (List ErasedSubscriptionChange)) :
    Tacitly (requireChanges component work changes) := by
  cases changes with
  | error duplicate => exact leads_throw _
  | ok changes => exact leads_pure changes

/-- Whatever follows steps, the scope goes through ordinary things. -/
theorem beats_of_follows {core : Core} {result : EStateM.Result Stop Core α}
    (h : Exec.Follows Step Exit core result fun _ _ => True) : Beats core (Exec.final result) :=
  Exec.follows_preserves (fun _ _ hbeats hstep => hbeats.trans hstep.beats)
    (fun _ _ _ hbeats hexit => hbeats.trans (.of_eq hexit.scope)) h (.refl core)

/-- A scope at its drain cutoff is not running. -/
theorem tacitly_observeDrainCutoff : Tacitly observeDrainCutoff := by
  refine tacitly_look fun before => leads_ite (fun _ => leads_pure ()) fun _ => ?_
  intro core
  have hturned : Tacit core core.turn := .beside (turn_beats core) (turn_beside core)
  have hlook : isDraining.run core = .ok (decide (core.turn.scope.phase = .draining)) core.turn := rfl
  rw [Exec.run_bind_ok hlook]
  by_cases hphase : core.turn.scope.phase = .draining
  · -- `begin_drain` stops Sources, but a draining scope does not come to run again.
    rw [decide_eq_true hphase, if_pos rfl]
    have hbeats := beats_of_follows (beginDrain_follows hphase)
    have hstopped : (Exec.final (beginDrain.run core.turn)).scope.phase ≠ .running := by
      rw [hbeats.phase_eq (by rw [hphase]; exact nofun), hphase]
      exact nofun
    refine ⟨hturned.beats.trans hbeats, ?_, ?_, ?_⟩ <;>
      exact fun _ hrunning => absurd hrunning hstopped
  · rw [decide_eq_false hphase, if_neg Bool.false_ne_true]
    exact hturned

theorem tacitly_reconcileMessage (message : QueuedMessage) : Tacitly (reconcileMessage message) := by
  refine leads_bind tacitly_nextWork fun work => tacitly_look fun reached => ?_
  cases reached.program.component? message.target message.targetMessageType with
  | none => exact leads_throw _
  | some kernel =>
      refine leads_bind (fun _ => .observed rfl) fun _ => ?_
      refine leads_bind (tacitly_onComponent _ _ _ _) fun transitioned => ?_
      refine leads_bind (tacitly_caught _ _ _ _ _) fun command => ?_
      cases command with
      | none => exact leads_throw _
      | some command =>
          refine leads_bind tacitly_isCancelling fun _ => leads_ite (fun _ => leads_pure _) fun _ => ?_
          refine leads_bind tacitly_observeDrainCutoff fun _ => ?_
          refine leads_bind (tacitly_uncaught _) fun _ => ?_
          refine leads_bind (tacitly_onComponent _ _ _ _) fun reconciled => ?_
          refine leads_bind (tacitly_uncaught _) fun result => ?_
          refine leads_bind (tacitly_requireChanges _ _ _) fun changes => ?_
          refine leads_bind tacitly_isCancelling fun _ => leads_ite (fun _ => leads_pure _) fun _ => ?_
          exact leads_bind tacitly_observeDrainCutoff fun _ => leads_pure _

end Tacitly

theorem moves_reconcileMessage (message : QueuedMessage) :
    Moves Advance (reconcileMessage message) := by
  refine moves_bind moves_nextWork.advance fun work => moves_bind moves_get fun core => ?_
  cases core.program.component? message.target message.targetMessageType with
  | none => exact moves_fault _ _ _ _
  | some kernel =>
      refine moves_bind (moves_step (fun _ => rfl) fun _ => .transitioned message) fun _ => ?_
      refine moves_bind (moves_onComponent _ _ _ _).advance fun transitioned => ?_
      refine moves_bind (moves_caught _ _ _ _ _) fun command => ?_
      cases command with
      | none => exact moves_throw _
      | some command =>
          refine moves_bind moves_isCancelling.advance fun _ => moves_ite (moves_pure _) ?_
          refine moves_bind moves_observeDrainCutoff.advance fun _ => ?_
          refine moves_bind (moves_uncaught _) fun _ => ?_
          refine moves_bind (moves_onComponent _ _ _ _).advance fun reconciled => ?_
          refine moves_bind (moves_uncaught _) fun result => ?_
          refine moves_bind (moves_requireChanges _ _ _).advance fun changes => ?_
          refine moves_bind moves_isCancelling.advance fun _ => moves_ite (moves_pure _) ?_
          exact moves_bind moves_observeDrainCutoff.advance fun _ => moves_pure _

/-! ## The handover -/

section Handover

variable {core before core' : Core} {binding : SourceBinding}

theorem Step.journal (h : Step core core') : core.journal <+: core'.journal := by
  have hkept {reached : Core} (hjournal : reached.journal = core.journal) :
      core.journal <+: reached.journal := ⟨[], (List.append_nil _).trans hjournal.symm⟩
  have hdiscard {reached : Core} (completion : Option Nat) (hjournal : reached.journal = core.journal) :
      core.journal <+: (reached.discard completion).journal := by
    cases completion with
    | none => exact hkept hjournal
    | some completion => exact (hkept hjournal).trans (List.prefix_append _ _)
  cases h with
  | turned => exact hkept (turn_beside core).journal
  | privately hprivate => exact hkept (congrArg Core.journal hprivate :)
  | activated component subscription context =>
      have hturn := (turn_beside (core.realized component subscription)).journal
      show core.journal <+: (core.realized component subscription).turn.journal ++ [_]
      rw [hturn]
      exact List.prefix_append _ _
  | mistyped hrequest => exact hdiscard _ rfl
  | popped => exact hdiscard _ rfl
  | discarded completion => exact hdiscard _ rfl
  | retained hsource subscription => exact List.prefix_append _ _
  | withdrawn stamp => exact List.prefix_append _ _
  | requested => exact List.prefix_append _ _
  | continued hrequest hcomponent reply => exact List.prefix_append _ _
  | replied hrequest hhost reply => exact List.prefix_append _ _
  | _ => exact List.prefix_rfl

/-- Only what is installed and withdrawn matters to a lease. -/
theorem foldl_after {records : List Observation}
    (h : ∀ observation ∈ records, observation.isInstallation = false) (lease : StdinLease) :
    records.foldl (StdinLease.after binding) lease = lease := by
  induction records with
  | nil => rfl
  | cons observation records ih =>
      have hsame : lease.after binding observation = lease := by
        have hfirst := h observation List.mem_cons_self
        cases observation <;> first | rfl | cases hfirst
      rw [List.foldl_cons, hsame]
      exact ih fun other hother => h other (List.mem_cons_of_mem _ hother)

theorem through_of_tacit {records : List Observation} (hjournal : before.journal = core.journal ++ records)
    (htacit : ∀ observation ∈ records, observation.isInstallation = false)
    (hlater : before.journal <+: core'.journal) (lease : StdinLease) :
    lease.through binding core core' = lease.through binding before core' := by
  obtain ⟨more, hmore⟩ := hlater
  unfold StdinLease.through
  rw [← hmore, List.drop_left, hjournal, List.append_assoc, List.drop_left, List.foldl_append,
    foldl_after htacit]

end Handover

/-- In every state that the owner comes to, a transition that withdraws the
    reader of standard input and starts one under another identity, while the
    scope is running, hands the lease over exactly when the identity that is
    withdrawn sorts before the one that is started.  Otherwise the new
    realization is refused. -/
theorem handover_iff {program : Program} {bindings : Bindings} {schedule : List (List Activity)}
    {core before core' : Core} (hreach : Reached program bindings schedule core)
    {message : QueuedMessage} {work : TraceId} {changes : List ErasedSubscriptionChange}
    {command : ErasedCommand}
    (hreconcile : (reconcileMessage message).run core = .ok (some (work, changes, command)) before)
    (hrun : (applySubscriptionChanges message.target changes work).run before = .ok () core')
    (hphase : core'.scope.phase = .running)
    {binding : SourceBinding} {old new : SubscriptionId} (hmoves : Handover binding changes old new)
    {source : ActiveSource} (hsource : core.source? message.target old = some source)
    {lease : StdinLease} (hreader : lease.reader = some source.stamp) :
    Acquires message.target new lease (lease.through binding core core') ↔ old.name < new.name := by
  -- The scope runs after the changes, so it ran before them.
  have hsteps := moves_applyChanges message.target work (sortChanges changes) before
  rw [show (applyChanges message.target work (sortChanges changes)).run before = .ok () core'
    from hrun] at hsteps
  have hrunning : before.scope.phase = .running := (beats_of_follows hsteps).running hphase
  -- Up to the changes the rows and the lease are as the transition found them.
  have htacit := tacitly_reconcileMessage message core
  rw [hreconcile, Exec.final_ok] at htacit
  have hbefore : Between core := hreach.between (htacit.beats.running hrunning)
  have hbetween : Between before :=
    (hreach.moves (moves_reconcileMessage message) hreconcile).between hrunning
  have hstamp : before.stamp? message.target old = some source.stamp := by
    unfold Core.stamp? Core.source?
    rw [htacit.sources hbefore.draining hrunning]
    exact congrArg (Option.map _) hsource
  -- What is left is what the sorted changes do to the lease.
  have hperm : (sortChanges changes).Perm changes := List.perm_insertionSort _ changes
  obtain ⟨generation, hlease⟩ := handover_lease hbetween (sorted_sortChanges changes)
    (hmoves.perm hperm) hstamp hreader hrun hphase
  obtain ⟨records, hjournal, hrecords⟩ := htacit.journal hbefore.draining hrunning
  have hlater : before.journal <+: core'.journal :=
    @Exec.path_relates _ Step (fun first second => first.journal <+: second.journal)
      (fun _ => List.prefix_rfl) (fun _ _ _ => List.IsPrefix.trans) (fun _ _ => Step.journal) _ _
      hsteps.1
  rw [through_of_tacit hjournal hrecords hlater, hlease]
  by_cases hlt : old.name < new.name
  · rw [if_pos hlt]
    exact ⟨fun _ => hlt, fun _ => ⟨⟨_, rfl, rfl, rfl⟩, rfl⟩⟩
  · rw [if_neg hlt]
    refine ⟨?_, fun h => absurd h hlt⟩
    rintro ⟨⟨stamp, hnone, _⟩, _⟩
    cases hnone

end Live

end Samara

namespace Samara.Live

attribute [local instance] Sample.types

/-- Standard input, as a Source under an identity. -/
def stdinLines (id : SubscriptionId) : Subscription () :=
  ⟨id, ⟨0, ⟨7⟩⟩, .custom (), trivial, .plain 0, fun _ => .ok (.plain 1)⟩

/-- A Component that reads standard input under one identity, and under another
    when it has had a Message. -/
def prompt (first second : SubscriptionId) : Component () where
  init := ((0 : Nat), .none)
  update := fun (model : Nat) _ => (model + 1, .ok .none)
  subscriptions := fun (model : Nat) => .ok [stdinLines (if model = 0 then first else second)]

def promptProgram (first second : SubscriptionId) : Program :=
  ((((ProgramBuilder.new ⟨7⟩).source (.custom ())).component ⟨"prompt"⟩
    (prompt first second)).build).toOption.get rfl

/-- `StdinBinding`: it is exact, and starts without a panic. -/
def stdinBinding : SourceBinding := ⟨.custom (), some ⟨0, ⟨7⟩⟩, fun _ => .ok ()⟩

/-- A Message comes in, and later the tasks of the two readers end: that of the
    first, which is aborted, and that of the second, as it does when `acquire`
    has refused it. -/
def promptSchedule : List (List Activity) :=
  [.send (⟨⟨"prompt"⟩, ⟨7⟩⟩ : ComponentRef ()) (.plain 1)] :: (List.replicate 30 [] ++
    [[.exit 0 .cancelled,
      .exit 1 (.failed "process standard input already has an active Source realization")]])

/-- The run until the owner is about to take the Message. -/
def prompting (first second : SubscriptionId) : EStateM.Result Stop Core Unit :=
  launch (promptProgram first second) ⟨[], [stdinBinding]⟩ promptSchedule 0

/-- The runtime that has the Message off the channel. -/
def prompted (first second : SubscriptionId) : Core :=
  Exec.final (tryRecv.run (Exec.final (prompting first second)))

def promptMessage : QueuedMessage := ⟨⟨"prompt"⟩, (), ⟨(), .plain 1⟩, none⟩

/-- What its transition comes to before the changes. -/
def promptReconciled (first second : SubscriptionId) :
    EStateM.Result Stop Core (Option (TraceId × List ErasedSubscriptionChange × ErasedCommand)) :=
  (reconcileMessage promptMessage).run (prompted first second)

/-- What it comes to with the changes. -/
def promptApplied (first second : SubscriptionId) (work : TraceId)
    (changes : List ErasedSubscriptionChange) : EStateM.Result Stop Core Unit :=
  (applySubscriptionChanges ⟨"prompt"⟩ changes work).run
    (Exec.final (promptReconciled first second))

/-- What the owner has done to the lease until it takes the Message. -/
def promptLease (first second : SubscriptionId) : StdinLease :=
  (⟨none, []⟩ : StdinLease).through stdinBinding
    (Core.fresh (promptProgram first second) ⟨[], [stdinBinding]⟩ promptSchedule)
    (prompted first second)

/-- What a computation returned, if it did. -/
def returned {α : Type} : EStateM.Result Stop Core (Option α) → Option α
  | .ok value _ => value
  | .error _ _ => none

theorem eq_of_returned {α : Type} {result : EStateM.Result Stop Core (Option α)} {value : α}
    (h : returned result = some value) : result = .ok (some value) (Exec.final result) := by
  cases result with
  | ok value core => rw [show value = _ from h]; rfl
  | error stop core => cases h

theorem eq_of_outcome {result : EStateM.Result Stop Core Unit} (h : outcome result = .ok ()) :
    result = .ok () (Exec.final result) := by
  cases result with
  | ok value core => rfl
  | error stop core => cases h

def promptValue (message : QueuedMessage) : Sample.Value := message.message.value

def isPromptMessage : LiveEvent → Bool
  | .message message => decide (message.target = ⟨"prompt"⟩ ∧ promptValue message = .plain 1 ∧
      message.source = none)
  | _ => false

theorem prompted_run {first second : SubscriptionId}
    (h : (returned (tryRecv.run (Exec.final (prompting first second)))).any isPromptMessage = true) :
    tryRecv.run (Exec.final (prompting first second)) =
      .ok (some (.message promptMessage)) (prompted first second) := by
  obtain ⟨event, hevent, hprompt⟩ := (Option.any_eq_true _ _).mp h
  have hmessage : event = .message promptMessage := by
    cases event with
    | message message =>
        obtain ⟨htarget, hvalue, hsource⟩ := of_decide_eq_true hprompt
        obtain ⟨target, _, ⟨_, value⟩, source⟩ := message
        cases htarget
        cases hvalue
        cases hsource
        rfl
    | _ => cases hprompt
  rw [← hmessage]
  exact eq_of_returned hevent

/-- Whether the changes are a handover that is applied while the scope runs. -/
def promptMoves (first second : SubscriptionId) : Bool :=
  match returned (promptReconciled first second) with
  | some (work, changes, _) =>
      decide (Handover stdinBinding changes first second) &&
        decide (outcome (promptApplied first second work changes) = .ok ()) &&
        decide ((Exec.final (promptApplied first second work changes)).scope.phase = .running)
  | none => false

/-- The state after the changes. -/
def promptMoved (first second : SubscriptionId) : Core :=
  match returned (promptReconciled first second) with
  | some (work, changes, _) => Exec.final (promptApplied first second work changes)
  | none => prompted first second

theorem exists_of_promptMoves {first second : SubscriptionId} (h : promptMoves first second = true) :
    ∃ work changes command,
      (reconcileMessage promptMessage).run (prompted first second) =
        .ok (some (work, changes, command)) (Exec.final (promptReconciled first second)) ∧
      (applySubscriptionChanges ⟨"prompt"⟩ changes work).run
        (Exec.final (promptReconciled first second)) = .ok () (promptMoved first second) ∧
      (promptMoved first second).scope.phase = .running ∧
      Handover stdinBinding changes first second := by
  unfold promptMoves at h
  unfold promptMoved
  cases hreturned : returned (promptReconciled first second) with
  | none =>
      rw [hreturned] at h
      cases h
  | some value =>
      obtain ⟨work, changes, command⟩ := value
      rw [hreturned] at h
      simp only [Bool.and_eq_true, decide_eq_true_eq] at h
      obtain ⟨⟨hmoves, happlied⟩, hphase⟩ := h
      exact ⟨work, changes, command, eq_of_returned hreturned, eq_of_outcome happlied, hphase, hmoves⟩

theorem handover_iff_prompt :
    Acquires ⟨"prompt"⟩ ⟨"b"⟩ (promptLease ⟨"a"⟩ ⟨"b"⟩)
      ((promptLease ⟨"a"⟩ ⟨"b"⟩).through stdinBinding (prompted ⟨"a"⟩ ⟨"b"⟩)
        (promptMoved ⟨"a"⟩ ⟨"b"⟩)) := by
  have hreach : Reached (promptProgram ⟨"a"⟩ ⟨"b"⟩) ⟨[], [stdinBinding]⟩ promptSchedule
      (prompted ⟨"a"⟩ ⟨"b"⟩) :=
    (Reached.launch (by decide +kernel)).tryRecv (prompted_run (by decide +kernel))
  obtain ⟨work, changes, command, hreconcile, hrun, hphase, hmoves⟩ :=
    @exists_of_promptMoves ⟨"a"⟩ ⟨"b"⟩ (by decide +kernel)
  have hstamp : ((prompted ⟨"a"⟩ ⟨"b"⟩).source? ⟨"prompt"⟩ ⟨"a"⟩).map (·.stamp) =
      some ⟨⟨"prompt"⟩, ⟨"a"⟩, 0⟩ := by decide +kernel
  obtain ⟨source, hsource, hsourceStamp⟩ := Option.map_eq_some_iff.mp hstamp
  have hreader : (promptLease ⟨"a"⟩ ⟨"b"⟩).reader = some source.stamp := by
    rw [hsourceStamp]
    decide +kernel
  exact (handover_iff hreach hreconcile hrun hphase hmoves hsource hreader).mpr (by decide)

/-- A Subscription that moves from "b" to "a" with a Message: the new reader is
    refused the lease before the old one gives it up, and its task faults the
    runtime. -/
theorem reader_refused :
    outcome (prompting ⟨"b"⟩ ⟨"a"⟩) = .error .outOfFuel ∧
      tryRecv.run (Exec.final (prompting ⟨"b"⟩ ⟨"a"⟩)) =
        .ok (some (.message promptMessage)) (prompted ⟨"b"⟩ ⟨"a"⟩) ∧
      (promptLease ⟨"b"⟩ ⟨"a"⟩).reader = some ⟨⟨"prompt"⟩, ⟨"b"⟩, 0⟩ ∧
      (∃ work changes command,
        (reconcileMessage promptMessage).run (prompted ⟨"b"⟩ ⟨"a"⟩) =
          .ok (some (work, changes, command)) (Exec.final (promptReconciled ⟨"b"⟩ ⟨"a"⟩)) ∧
        (applySubscriptionChanges ⟨"prompt"⟩ changes work).run
          (Exec.final (promptReconciled ⟨"b"⟩ ⟨"a"⟩)) = .ok () (promptMoved ⟨"b"⟩ ⟨"a"⟩) ∧
        (promptMoved ⟨"b"⟩ ⟨"a"⟩).scope.phase = .running ∧
        Handover stdinBinding changes ⟨"b"⟩ ⟨"a"⟩) ∧
      ¬ Acquires ⟨"prompt"⟩ ⟨"a"⟩ (promptLease ⟨"b"⟩ ⟨"a"⟩)
        ((promptLease ⟨"b"⟩ ⟨"a"⟩).through stdinBinding (prompted ⟨"b"⟩ ⟨"a"⟩)
          (promptMoved ⟨"b"⟩ ⟨"a"⟩)) ∧
      outcome (launch (promptProgram ⟨"b"⟩ ⟨"a"⟩) ⟨[], [stdinBinding]⟩ promptSchedule 4) =
        .error (.error (.fault ⟨"prompt"⟩ (some "u64") 1
          "process standard input already has an active Source realization")) := by
  have hrefused : (promptLease ⟨"b"⟩ ⟨"a"⟩).through stdinBinding (prompted ⟨"b"⟩ ⟨"a"⟩)
      (promptMoved ⟨"b"⟩ ⟨"a"⟩) = ⟨none, [⟨⟨"prompt"⟩, ⟨"a"⟩, 1⟩]⟩ := by decide +kernel
  refine ⟨by decide +kernel, prompted_run (by decide +kernel), by decide +kernel,
    exists_of_promptMoves (by decide +kernel), ?_, by decide +kernel⟩
  rintro ⟨⟨stamp, hreader, _⟩, _⟩
  rw [hrefused] at hreader
  cases hreader

end Samara.Live
