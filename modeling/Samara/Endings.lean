/-
  Samara.Endings

  Runs of `process_source_event` over the events of one realization, in both
  profiles: whatever else happens between the calls, they hand the mapper what
  the plan makes of the events, and stop where it ends.
-/
import Samara.Terminals
import Samara.Controlled.Cutover
import Samara.Live.Lease

namespace Samara

variable [RustTypes]

/-! ## Runs of one realization -/

section Feeds

variable {σ : Type} (Row : σ → SourcePlan → Bool → Prop) (outer : σ → List SourceEventKind)
  (process : ErasedSourceEvent → σ → σ → Prop)

/-- Calls of `process_source_event` with the events of one realization, between
    other steps.  Those may withdraw the realization, but neither touch its
    plan nor let it take events again. -/
inductive Feeds : σ → List ErasedSourceEvent → σ → Prop where
  | done (state : σ) : Feeds state [] state
  | other {state next last : σ} {events : List ErasedSourceEvent}
      (hrow : ∀ plan takes, Row next plan takes → Row state plan takes)
      (houter : outer next = outer state) (hrest : Feeds next events last) :
      Feeds state events last
  | event {state next last : σ} {event : ErasedSourceEvent} {events : List ErasedSourceEvent}
      (hprocess : process event state next) (hrest : Feeds next events last) :
      Feeds state (event :: events) last

/-- What one call does to the row of the realization and to what the mapper
    has been handed. -/
structure Processes (terminalType : DescriptorType TypeId) : Prop where
  takes {state next : σ} {plan : SourcePlan} {event : ErasedSourceEvent}
    (hrow : Row state plan true) (hterminal : plan.terminalType = terminalType)
    (hprocess : process event state next) :
    ∃ made plan', (SourcePlan.mapEvent event).run plan = .ok made plan' ∧
      (∀ plan'' takes, Row next plan'' takes → plan'' = plan' ∧ takes = !event.ends made) ∧
      outer next = outer state ++ kinds made
  drops {state next : σ} {event : ErasedSourceEvent} (hrow : ∀ plan, ¬ Row state plan true)
    (hprocess : process event state next) :
    outer next = outer state ∧ ∀ plan takes, Row next plan takes → Row state plan takes

variable {Row outer process} {terminalType : DescriptorType TypeId}
  (hprocesses : Processes Row outer process terminalType)
include hprocesses

theorem Feeds.closed {state last : σ} {events : List ErasedSourceEvent}
    (h : Feeds Row outer process state events last) (hrow : ∀ plan, ¬ Row state plan true) :
    outer last = outer state ∧ ∀ plan takes, Row last plan takes → Row state plan takes := by
  induction h with
  | done state => exact ⟨rfl, fun _ _ h => h⟩
  | other hother houter hrest ih =>
      obtain ⟨hlast, hrows⟩ := ih fun plan hopen => hrow plan (hother plan true hopen)
      exact ⟨hlast.trans houter, fun plan takes h => hother plan takes (hrows plan takes h)⟩
  | event hprocess hrest ih =>
      obtain ⟨houter, hnext⟩ := hprocesses.drops hrow hprocess
      obtain ⟨hlast, hrows⟩ := ih fun plan hopen => hrow plan (hnext plan true hopen)
      exact ⟨hlast.trans houter, fun plan takes h => hnext plan takes (hrows plan takes h)⟩

/-- Until it is withdrawn, a realization has exactly the history of its plan. -/
theorem Feeds.history {state last : σ} {events : List ErasedSourceEvent}
    (h : Feeds Row outer process state events last) {plan : SourcePlan}
    (hrow : ∀ plan' takes, Row state plan' takes → plan' = plan ∧ takes = true)
    (hterminal : plan.terminalType = terminalType) :
    ∃ taken, taken <+: events ∧ plan.Returns taken ∧
      outer last = outer state ++ outerKinds (plan.passes taken) ∧
      ∀ plan' takes, Row last plan' takes →
        taken = events ∧ (plan', takes) = plan.after events := by
  induction h generalizing plan with
  | done state =>
      refine ⟨[], List.prefix_rfl, trivial, (List.append_nil _).symm, fun plan' takes h => ?_⟩
      obtain ⟨rfl, rfl⟩ := hrow plan' takes h
      exact ⟨rfl, rfl⟩
  | other hother houter hrest ih =>
      obtain ⟨taken, hprefix, hreturns, hlast, hrows⟩ :=
        ih (fun plan' takes h => hrow plan' takes (hother plan' takes h)) hterminal
      exact ⟨taken, hprefix, hreturns, houter ▸ hlast, hrows⟩
  | @event state next last event events hprocess hrest ih =>
      by_cases hopen : Row state plan true
      · obtain ⟨made, plan', hmap, hnext, houter⟩ := hprocesses.takes hopen hterminal hprocess
        by_cases hends : event.ends made = true
        · -- the realization has ended: the rest of the events are dropped
          have hclosed : ∀ plan'', ¬ Row next plan'' true := by
            intro plan'' hrow''
            have htakes := (hnext plan'' true hrow'').2
            rw [hends] at htakes
            cases htakes
          obtain ⟨hlast, hrows⟩ := hrest.closed hprocesses hclosed
          refine ⟨event :: events, List.prefix_rfl, ?_, ?_, fun plan'' takes h => ⟨rfl, ?_⟩⟩
          · rw [SourcePlan.returns_cons hmap, hends]
            intro hcontinues
            cases hcontinues
          · rw [SourcePlan.passes_cons hmap, if_pos hends, hlast, houter]
            simp [outerKinds]
          · obtain ⟨rfl, rfl⟩ := hnext plan'' takes (hrows plan'' takes h)
            rw [SourcePlan.after_cons hmap, if_pos hends, hends]
            rfl
        · have hcontinues := Bool.eq_false_of_not_eq_true hends
          obtain ⟨taken, hprefix, hreturns, hlast, hrows⟩ := @ih plan'
            (fun plan'' takes h => by
              obtain ⟨hplan, htakes⟩ := hnext plan'' takes h
              rw [hcontinues] at htakes
              exact ⟨hplan, htakes⟩)
            ((SourcePlan.terminalType_mapEvent hmap).trans hterminal)
          refine ⟨event :: taken, List.prefix_cons_inj event |>.mpr hprefix, ?_, ?_,
            fun plan'' takes h => ?_⟩
          · exact (SourcePlan.returns_cons hmap).mpr fun _ => hreturns
          · rw [SourcePlan.passes_cons hmap, if_neg hends, hlast, houter]
            simp [outerKinds]
          · obtain ⟨rfl, hafter⟩ := hrows plan'' takes h
            rw [SourcePlan.after_cons hmap, if_neg hends]
            exact ⟨rfl, hafter⟩
      · have hnone : ∀ plan' takes, ¬ Row state plan' takes := by
          intro plan' takes h
          obtain ⟨rfl, rfl⟩ := hrow plan' takes h
          exact hopen h
        obtain ⟨houter, hnext⟩ := hprocesses.drops (fun plan' => hnone plan' true) hprocess
        obtain ⟨hlast, hrows⟩ := hrest.closed hprocesses fun plan' h =>
          hnone plan' true (hnext plan' true h)
        refine ⟨[], List.nil_prefix, trivial, ?_, fun plan' takes h => ?_⟩
        · rw [hlast, houter]
          exact (List.append_nil _).symm
        · exact absurd (hnext plan' takes (hrows plan' takes h)) (hnone plan' takes)

end Feeds

/-! ## The controlled profile -/

namespace Controlled

variable {stamp : SourceStamp} {core core' : Core}

/-- The plan of the realization `stamp`, and whether it takes events. -/
def Core.Row (stamp : SourceStamp) (core : Core) (plan : SourcePlan) (takes : Bool) : Prop :=
  ∃ source, core.source? stamp.component stamp.subscription = some source ∧
    source.stamp.generation = stamp.generation ∧ source.plan = plan ∧ source.running = takes

/-- The outer events an observation hands to the mapper of `stamp`. -/
def Observation.outerOf (stamp : SourceStamp) : Observation → List SourceEventKind
  | .mapped stamp' _ outer => if stamp' = stamp then kinds outer else []
  | _ => []

/-- The outer events handed to the mapper of the realization `stamp`. -/
def Core.outerOf (stamp : SourceStamp) (core : Core) : List SourceEventKind :=
  core.journal.flatMap (Observation.outerOf stamp)

/-- `process_source_event` returns on an event of the realization `stamp`. -/
def ProcessesEvent (stamp : SourceStamp) (terminalType : DescriptorType TypeId)
    (event : ErasedSourceEvent) (core core' : Core) : Prop :=
  ∃ cause transitions,
    (processSourceEvent ⟨stamp, terminalType, event, cause⟩).run core = .ok transitions core'

theorem stamp_of_source? {source : ActiveSource}
    (h : core.source? stamp.component stamp.subscription = some source)
    (hgeneration : source.stamp.generation = stamp.generation) : source.stamp = stamp := by
  have hkey : ActiveSource.isOf stamp.component stamp.subscription source = true :=
    List.find?_some h
  simp only [ActiveSource.isOf, Bool.and_eq_true, decide_eq_true_eq] at hkey
  obtain ⟨⟨component, subscription, generation⟩, _⟩ := source
  obtain ⟨rfl, rfl⟩ := hkey
  cases hgeneration
  rfl

/-- An update of the row leaves its key alone. -/
theorem source?_withSource {update : ActiveSource → ActiveSource}
    (hupdate : ∀ source, (update source).stamp = source.stamp) (component : ComponentId)
    (subscription : SubscriptionId) (core : Core) :
    (core.withSource component subscription update).source? component subscription =
      (core.source? component subscription).map update := by
  refine Table.find?_modifyFirst_self (fun source hsource => ?_) core.sources
  unfold ActiveSource.isOf at hsource ⊢
  rw [hupdate]
  exact hsource

/-- A call that maps the event. -/
theorem run_processSourceEvent {terminalType : DescriptorType TypeId} {event : ErasedSourceEvent}
    {cause : TraceId} {transitions : Nat} {source : ActiveSource}
    (hsource : core.source? stamp.component stamp.subscription = some source)
    (haccepts : Core.Accepts source ⟨stamp, terminalType, event, cause⟩)
    (h : (processSourceEvent ⟨stamp, terminalType, event, cause⟩).run core =
      .ok transitions core') :
    ∃ made plan', (SourcePlan.mapEvent event).run source.plan = .ok made plan' ∧
      core'.source? stamp.component stamp.subscription = some
        { source with plan := plan', running := source.running && !event.ends made } ∧
      core'.outerOf stamp = core.outerOf stamp ++ kinds made := by
  obtain rfl := stamp_of_source? hsource haccepts.1
  unfold processSourceEvent at h
  rw [Exec.run_bind_ok (EStateM.run_get core)] at h
  dsimp only at h
  rw [hsource] at h
  dsimp only at h
  split at h
  · rename_i hrejected
    simp [haccepts.1, haccepts.2.1, haccepts.2.2] at hrejected
  obtain ⟨made, core₁, hmap, h⟩ := Exec.run_bind_eq_ok.mp h
  cases hplan : (SourcePlan.mapEvent event).run source.plan with
  | error panic plan' =>
      rw [run_mapTerminalEvent_error hplan] at hmap
      cases hmap
  | ok outer plan' =>
      rw [run_mapTerminalEvent_ok hplan] at hmap
      cases hmap
      obtain ⟨mapped, core₂, hmapped, h⟩ := Exec.run_bind_eq_ok.mp h
      cases hmapper : mapOuterEvents source.subscription made with
      | error panic =>
          rw [hmapper] at hmapped
          cases hmapped
      | ok messages =>
          rw [hmapper] at hmapped
          cases hmapped
          simp only [EStateM.run_bind, EStateM.run_modify, run_scheduleMapped,
            EStateM.run_pure] at h
          cases h
          refine ⟨made, plan', rfl, ?_, ?_⟩
          · unfold Core.source?
            rw [Core.foldl_withMappedEvent_sources]
            show ((core.withPlan source plan' event made).withSource source.stamp.component
              source.stamp.subscription _).source? _ _ = _
            have hplanned : (core.withPlan source plan' event made).source? source.stamp.component
                source.stamp.subscription = some { source with plan := plan' } := by
              show (core.withSource source.stamp.component source.stamp.subscription _).source?
                _ _ = _
              rw [source?_withSource, hsource]
              · rfl
              · exact fun _ => rfl
            rw [source?_withSource, hplanned]
            · rfl
            · exact fun _ => rfl
          · unfold Core.outerOf
            rw [Core.foldl_withMappedEvent_journal]
            show ((core.journal ++ [_]) ++ [_]).flatMap _ = _
            rw [List.flatMap_append, List.flatMap_append]
            simp [Observation.outerOf]

/-- A call that drops the event. -/
theorem run_processSourceEvent_stale {terminalType : DescriptorType TypeId}
    {event : ErasedSourceEvent} {cause : TraceId} {transitions : Nat}
    (hstale : ∀ source, core.source? stamp.component stamp.subscription = some source →
      ¬ Core.Accepts source ⟨stamp, terminalType, event, cause⟩)
    (h : (processSourceEvent ⟨stamp, terminalType, event, cause⟩).run core =
      .ok transitions core') : core'.sources = core.sources ∧ core'.journal = core.journal := by
  unfold processSourceEvent at h
  rw [Exec.run_bind_ok (EStateM.run_get core)] at h
  dsimp only at h
  cases hsource : core.source? stamp.component stamp.subscription with
  | none =>
      rw [hsource] at h
      cases h
      exact ⟨rfl, rfl⟩
  | some source =>
      rw [hsource] at h
      dsimp only at h
      split at h
      · cases h
        exact ⟨rfl, rfl⟩
      · rename_i haccepted
        refine absurd ?_ (hstale source hsource)
        simpa [Core.Accepts, and_assoc] using haccepted

theorem processes_events (stamp : SourceStamp) (terminalType : DescriptorType TypeId) :
    Processes (fun core : Core => core.Row stamp) (Core.outerOf stamp)
      (ProcessesEvent stamp terminalType) terminalType where
  takes := by
    rintro core core' plan event ⟨source, hsource, hgeneration, rfl, hrunning⟩ hterminal
      ⟨cause, transitions, h⟩
    obtain ⟨made, plan', hmap, hafter, houter⟩ :=
      run_processSourceEvent hsource ⟨hgeneration, hrunning, hterminal⟩ h
    refine ⟨made, plan', hmap, ?_, houter⟩
    rintro plan'' takes ⟨source', hsource', -, rfl, rfl⟩
    rw [hafter] at hsource'
    cases hsource'
    rw [hrunning]
    exact ⟨rfl, rfl⟩
  drops := by
    rintro core core' event hrow ⟨cause, transitions, h⟩
    obtain ⟨hsources, hjournal⟩ := run_processSourceEvent_stale (fun source hsource haccepts =>
      hrow source.plan ⟨source, hsource, haccepts.1, rfl, haccepts.2.1⟩) h
    constructor
    · unfold Core.outerOf
      rw [hjournal]
    · rintro plan takes ⟨source, hsource, hrest⟩
      refine ⟨source, ?_, hrest⟩
      unfold Core.source? at hsource ⊢
      rw [← hsources]
      exact hsource

end Controlled

/-! ## The live profile -/

namespace Live

variable {stamp : SourceStamp} {core core' : Core}

/-- Whether a row still takes events; a Source that drains takes those already
    accepted. -/
def ActiveSource.takes (source : ActiveSource) : Bool :=
  !source.terminalObserved && (source.running || source.drainRetained)

/-- The plan of the realization `stamp`, and whether it takes events. -/
def Core.Row (stamp : SourceStamp) (core : Core) (plan : SourcePlan) (takes : Bool) : Prop :=
  ∃ source, core.source? stamp.component stamp.subscription = some source ∧
    source.stamp.generation = stamp.generation ∧ source.plan = plan ∧ source.takes = takes

/-- The outer events an observation hands to the mapper of `stamp`. -/
def Observation.outerOf (stamp : SourceStamp) : Observation → List SourceEventKind
  | .mapped stamp' _ _ outer _ => if stamp' = stamp then kinds outer else []
  | _ => []

/-- The outer events handed to the mapper of the realization `stamp`. -/
def Core.outerOf (stamp : SourceStamp) (core : Core) : List SourceEventKind :=
  core.journal.flatMap (Observation.outerOf stamp)

/-- `process_source_event` returns on an event of the realization `stamp`, in a
    state where generations tell realizations apart. -/
def ProcessesEvent (stamp : SourceStamp) (terminalType : DescriptorType TypeId)
    (event : ErasedSourceEvent) (core core' : Core) : Prop :=
  Generated core ∧ (processSourceEvent stamp terminalType event).run core = .ok () core'

theorem stamp_of_source? {source : ActiveSource}
    (h : core.source? stamp.component stamp.subscription = some source)
    (hgeneration : source.stamp.generation = stamp.generation) : source.stamp = stamp := by
  have hkey := List.find?_some h
  simp only [Bool.and_eq_true, decide_eq_true_eq] at hkey
  obtain ⟨⟨component, subscription, generation⟩, _⟩ := source
  obtain ⟨rfl, rfl⟩ := hkey
  cases hgeneration
  rfl

/-- An update by generation reaches the row that the key finds. -/
theorem source?_withSource (core : Core) (source : ActiveSource)
    (update : ActiveSource → ActiveSource)
    (hupdate : ∀ source, (update source).stamp = source.stamp)
    (hnodup : (core.sources.map (·.stamp.generation)).Nodup)
    (h : core.source? source.stamp.component source.stamp.subscription = some source) :
    (core.withSource source.stamp.generation update).source? source.stamp.component
      source.stamp.subscription = some (update source) := by
  unfold Core.source? at h ⊢
  rw [Core.withSource_sources, Table.modifyFirst_eq_map hnodup source.stamp.generation
    (fun row hrow => of_decide_eq_true hrow), List.find?_map]
  have hkey : ∀ row : ActiveSource, (if decide (row.stamp.generation = source.stamp.generation)
      then update row else row).stamp = row.stamp := by
    intro row
    split
    · exact hupdate row
    · rfl
  simp only [Function.comp_def, hkey]
  rw [h]
  simp

/-- The Source table and the history are the same. -/
def Quiet (core core' : Core) : Prop :=
  core'.sources = core.sources ∧ core'.journal = core.journal

theorem Quiet.trans {first second third : Core} (h : Quiet first second)
    (h' : Quiet second third) : Quiet first third :=
  ⟨h'.1.trans h.1, h'.2.trans h.2⟩

theorem quiet_turn (core : Core) : Quiet core core.turn :=
  ⟨(turn_beside core).sources, (turn_beside core).journal⟩

theorem quiet_sendMapped {source : ActiveSource} {messages : List ErasedValue}
    (h : (sendMapped source messages).run core = .ok () core') : Quiet core core' := by
  induction messages generalizing core with
  | nil =>
      cases h
      exact ⟨rfl, rfl⟩
  | cons message messages ih =>
      obtain ⟨accepted, core₁, haccepted, h⟩ := Exec.run_bind_eq_ok.mp h
      cases haccepted
      have hrest := ih h
      exact (quiet_turn core).trans ⟨hrest.1, hrest.2⟩

theorem quiet_stopGate {generation : Nat} {stopped : Except String Unit}
    (h : (stopGate generation).run core = .ok stopped core') : Quiet core core' := by
  obtain ⟨_, core₁, hturn, h⟩ := Exec.run_bind_eq_ok.mp h
  cases hturn
  rw [Exec.run_bind_ok (EStateM.run_get _)] at h
  split at h
  · cases h
    exact quiet_turn core
  · cases h
    exact quiet_turn core

theorem run_endSource {source : ActiveSource} {work : TraceId}
    (h : (endSource source work).run core = .ok () core') :
    Quiet (core.withSource source.stamp.generation fun source =>
      { source with terminalObserved := true, running := false }) core' := by
  obtain ⟨_, core₁, hcore₁, h⟩ := Exec.run_bind_eq_ok.mp h
  cases hcore₁
  split at h
  · cases h
    exact ⟨rfl, rfl⟩
  · obtain ⟨stopped, core₂, hstopped, h⟩ := Exec.run_bind_eq_ok.mp h
    obtain ⟨_, core₃, haborted, h⟩ := Exec.run_bind_eq_ok.mp h
    have hquiet := quiet_stopGate hstopped
    cases haborted
    cases stopped with
    | error reason => cases h
    | ok _ =>
        cases h
        exact hquiet.trans (quiet_turn core₂)

theorem run_mapTerminalEvent_ok {source : ActiveSource} {event : ErasedSourceEvent}
    {outer : List ErasedSourceEvent} {plan : SourcePlan}
    (h : (SourcePlan.mapEvent event).run source.plan = .ok outer plan) (core : Core) :
    (mapTerminalEvent source event).run core =
      .ok (.ok outer) (core.withSource source.stamp.generation ({ · with plan })) := by
  unfold mapTerminalEvent EStateM.run
  unfold EStateM.run at h
  rw [h]

theorem run_mapTerminalEvent_error {source : ActiveSource} {event : ErasedSourceEvent}
    {panic : Panic} {plan : SourcePlan}
    (h : (SourcePlan.mapEvent event).run source.plan = .error panic plan) (core : Core) :
    (mapTerminalEvent source event).run core =
      .ok (.error panic) (core.withSource source.stamp.generation ({ · with plan })) := by
  unfold mapTerminalEvent EStateM.run
  unfold EStateM.run at h
  rw [h]

/-- A call that maps the event. -/
theorem run_processSourceEvent {terminalType : DescriptorType TypeId} {event : ErasedSourceEvent}
    {source : ActiveSource} (hgenerated : Generated core)
    (hsource : core.source? stamp.component stamp.subscription = some source)
    (haccepts : source.accepts stamp terminalType = true)
    (h : (processSourceEvent stamp terminalType event).run core = .ok () core') :
    ∃ made plan', (SourcePlan.mapEvent event).run source.plan = .ok made plan' ∧
      (∀ found, core'.source? stamp.component stamp.subscription = some found →
        found.plan = plan' ∧ found.takes = !event.ends made) ∧
      core'.outerOf stamp = core.outerOf stamp ++ kinds made := by
  have hgeneration : source.stamp.generation = stamp.generation := by
    simp only [ActiveSource.accepts, Bool.and_eq_true, decide_eq_true_eq] at haccepts
    exact haccepts.1.1.1
  have htakes : source.takes = true := by
    simp only [ActiveSource.accepts, Bool.and_eq_true, decide_eq_true_eq] at haccepts
    simp [ActiveSource.takes, haccepts.1.1.2, haccepts.1.2]
  obtain rfl := stamp_of_source? hsource hgeneration
  unfold processSourceEvent at h
  rw [Exec.run_bind_ok (EStateM.run_get core)] at h
  dsimp only at h
  rw [hsource] at h
  dsimp only at h
  rw [haccepts] at h
  obtain ⟨work, core₁, hwork, h⟩ := Exec.run_bind_eq_ok.mp h
  cases hwork
  obtain ⟨mapped, core₂, hmapped, h⟩ := Exec.run_bind_eq_ok.mp h
  obtain ⟨made, core₃, hmade, h⟩ := Exec.run_bind_eq_ok.mp h
  obtain ⟨messages, core₄, hmessages, h⟩ := Exec.run_bind_eq_ok.mp h
  obtain ⟨_, core₅, hobserved, h⟩ := Exec.run_bind_eq_ok.mp h
  cases hobserved
  have hnew : ({ core with nextWork := core.nextWork + 1 } : Core).source? source.stamp.component
      source.stamp.subscription = some source := hsource
  cases hplan : (SourcePlan.mapEvent event).run source.plan with
  | error panic plan' =>
      rw [run_mapTerminalEvent_error hplan] at hmapped
      cases hmapped
      cases hmade
  | ok outer plan' =>
      rw [run_mapTerminalEvent_ok hplan] at hmapped
      cases hmapped
      cases hmade
      have hstate : core₄ = ({ core with nextWork := core.nextWork + 1 } : Core).withSource
          source.stamp.generation ({ · with plan := plan' }) := by
        cases hmapper : mapOuterEvents source.subscription made with
        | error panic =>
            rw [hmapper] at hmessages
            cases hmessages
        | ok mapped =>
            rw [hmapper] at hmessages
            cases hmessages
            rfl
      subst hstate
      have hplanned := source?_withSource { core with nextWork := core.nextWork + 1 }
        source ({ · with plan := plan' }) (fun _ => rfl) hgenerated.distinct hnew
      have hnext : Generated ({ core with nextWork := core.nextWork + 1 } : Core) :=
        hgenerated.of_eq rfl rfl
      have hnodup' := (@Generated.withSource _ _ hnext source.stamp.generation
        ({ · with plan := plan' }) fun _ => rfl).distinct
      have houter (base : Core) (hquiet : Quiet base core')
          (hjournal : base.journal = core.journal ++
            [.mapped source.stamp event source.subscription made messages]) :
          core'.outerOf source.stamp = core.outerOf source.stamp ++ kinds made := by
        unfold Core.outerOf
        rw [hquiet.2, hjournal, List.flatMap_append]
        simp [Observation.outerOf]
      by_cases hends : event.ends made = true
      · unfold ErasedSourceEvent.ends at hends
        rw [if_pos hends] at h
        obtain ⟨_, core₅, hended, h⟩ := Exec.run_bind_eq_ok.mp h
        have hquiet := (run_endSource hended).trans (quiet_sendMapped h)
        refine ⟨made, plan', rfl, fun found hfound => ?_, houter _ hquiet rfl⟩
        have hended' := source?_withSource _ { source with plan := plan' } (fun source =>
          { source with terminalObserved := true, running := false }) (fun _ => rfl) hnodup'
          hplanned
        unfold Core.source? at hfound hended'
        rw [hquiet.1] at hfound
        cases hfound.symm.trans hended'
        refine ⟨rfl, ?_⟩
        unfold ErasedSourceEvent.ends
        rw [hends]
        rfl
      · unfold ErasedSourceEvent.ends at hends
        rw [if_neg hends] at h
        have hquiet := quiet_sendMapped h
        refine ⟨made, plan', rfl, fun found hfound => ?_, houter _ hquiet rfl⟩
        unfold Core.source? at hfound hplanned
        rw [hquiet.1] at hfound
        cases hfound.symm.trans hplanned
        refine ⟨rfl, ?_⟩
        unfold ErasedSourceEvent.ends
        rw [Bool.eq_false_of_not_eq_true hends]
        exact htakes

/-- A call that drops the event changes nothing. -/
theorem run_processSourceEvent_stale {terminalType : DescriptorType TypeId}
    {event : ErasedSourceEvent}
    (hstale : ∀ source, core.source? stamp.component stamp.subscription = some source →
      ¬ source.accepts stamp terminalType = true)
    (h : (processSourceEvent stamp terminalType event).run core = .ok () core') : core' = core := by
  unfold processSourceEvent at h
  rw [Exec.run_bind_ok (EStateM.run_get core)] at h
  dsimp only at h
  cases hsource : core.source? stamp.component stamp.subscription with
  | none =>
      rw [hsource] at h
      cases h
      rfl
  | some source =>
      rw [hsource] at h
      dsimp only at h
      rw [Bool.eq_false_of_not_eq_true (hstale source hsource)] at h
      cases h
      rfl

theorem processes_events (stamp : SourceStamp) (terminalType : DescriptorType TypeId) :
    Processes (fun core : Core => core.Row stamp) (Core.outerOf stamp)
      (ProcessesEvent stamp terminalType) terminalType where
  takes := by
    rintro core core' plan event ⟨source, hsource, hgeneration, rfl, htakes⟩ hterminal
      ⟨hgenerated, h⟩
    have haccepts : source.accepts stamp terminalType = true := by
      simp only [ActiveSource.takes, Bool.and_eq_true] at htakes
      simp [ActiveSource.accepts, hgeneration, htakes.1, htakes.2, hterminal]
    obtain ⟨made, plan', hmap, hafter, houter⟩ :=
      run_processSourceEvent hgenerated hsource haccepts h
    refine ⟨made, plan', hmap, ?_, houter⟩
    rintro plan'' takes ⟨found, hfound, -, rfl, rfl⟩
    exact hafter found hfound
  drops := by
    rintro core core' event hrow ⟨-, h⟩
    have hsame := run_processSourceEvent_stale (fun source hsource haccepts => by
      simp only [ActiveSource.accepts, Bool.and_eq_true, decide_eq_true_eq] at haccepts
      refine hrow source.plan ⟨source, hsource, haccepts.1.1.1, rfl, ?_⟩
      simp [ActiveSource.takes, haccepts.1.1.2, haccepts.1.2]) h
    subst hsame
    exact ⟨rfl, fun _ _ h => h⟩

end Live

/-! ## Ending once -/

/-- What feeding a fresh realization of `plan` came to: the mapper was handed
    the outer events of `taken`, which are all the events unless the
    realization was withdrawn, the row is left as these events leave it, and
    the realization ended at most once just when its decoders were orderly. -/
def SourcePlan.Fed (plan : SourcePlan) (events : List ErasedSourceEvent)
    (outer : List SourceEventKind) (row : SourcePlan → Bool → Prop) : Prop :=
  ∃ taken, taken <+: events ∧ outer = outerKinds (plan.passes taken) ∧
    (∀ plan' takes, row plan' takes → taken = events ∧ (plan', takes) = plan.after events) ∧
    (EndsOnce (plan.passes taken) ↔ plan.Orderly taken)

theorem Feeds.fed {σ : Type} {Row : σ → SourcePlan → Bool → Prop}
    {outer : σ → List SourceEventKind} {process : ErasedSourceEvent → σ → σ → Prop}
    {plan : SourcePlan} {state last : σ} {events : List ErasedSourceEvent}
    (hprocesses : Processes Row outer process plan.terminalType)
    (hunique : ∀ plan' takes, Row state plan' takes → plan' = plan ∧ takes = true)
    (hfresh : outer state = []) (h : Feeds Row outer process state events last) :
    plan.Fed events (outer last) (Row last) := by
  obtain ⟨taken, hprefix, hreturns, houter, hrow⟩ := h.history hprocesses hunique rfl
  rw [hfresh, List.nil_append] at houter
  exact ⟨taken, hprefix, houter, hrow, SourcePlan.orderly_of_endsOnce hreturns,
    SourcePlan.endsOnce_of_orderly⟩

/-- A realization ends at most once, for the mapper and in every layer, if no
    decoder refuses an event of a batch handed to it but the last; and only if,
    unless a layer panics.  This is so of every run of `process_source_event`
    over the events of a fresh realization, in both profiles. -/
theorem endsOnce_iff_orderly :
    (∀ (plan : SourcePlan) (events : List ErasedSourceEvent),
      (plan.Orderly events → EndsOnce (plan.passes events)) ∧
        (plan.Returns events → (EndsOnce (plan.passes events) ↔ plan.Orderly events))) ∧
      (∀ (stamp : SourceStamp) (plan : SourcePlan) (core last : Controlled.Core)
        (events : List ErasedSourceEvent), core.Row stamp plan true → core.outerOf stamp = [] →
        Feeds (fun core : Controlled.Core => core.Row stamp) (Controlled.Core.outerOf stamp)
          (Controlled.ProcessesEvent stamp plan.terminalType) core events last →
        plan.Fed events (last.outerOf stamp) (last.Row stamp)) ∧
      ∀ (stamp : Live.SourceStamp) (plan : SourcePlan) (core last : Live.Core)
        (events : List ErasedSourceEvent), core.Row stamp plan true → core.outerOf stamp = [] →
        Feeds (fun core : Live.Core => core.Row stamp) (Live.Core.outerOf stamp)
          (Live.ProcessesEvent stamp plan.terminalType) core events last →
        plan.Fed events (last.outerOf stamp) (last.Row stamp) := by
  refine ⟨fun plan events => ⟨SourcePlan.endsOnce_of_orderly, fun hreturns =>
    ⟨SourcePlan.orderly_of_endsOnce hreturns, SourcePlan.endsOnce_of_orderly⟩⟩, ?_, ?_⟩
  · rintro stamp plan core last events ⟨source, hsource, -, rfl, hrunning⟩ hfresh h
    refine h.fed (Controlled.processes_events stamp _) ?_ hfresh
    rintro plan' takes ⟨source', hsource', -, rfl, rfl⟩
    cases hsource.symm.trans hsource'
    exact ⟨rfl, hrunning⟩
  · rintro stamp plan core last events ⟨source, hsource, -, rfl, htakes⟩ hfresh h
    refine h.fed (Live.processes_events stamp _) ?_ hfresh
    rintro plan' takes ⟨source', hsource', -, rfl, rfl⟩
    cases hsource.symm.trans hsource'
    exact ⟨rfl, htakes⟩

end Samara

namespace Samara.Sample

attribute [local instance] Sample.types

/-- A stream whose chunks one decoder splits in two, and a second one refuses
    when they are odd. -/
def splitThenRefused : (DescriptorType.framed (.framed (.stream ()) ()) ()).Val :=
  (("chunks", Value.plain 0), Value.plain 1)

/-- An odd chunk of that stream. -/
def oddChunk : ErasedSourceEvent := ⟨⟨(), .infallible⟩, .item (Value.plain 1)⟩

/-- An even chunk: of its two frames, the last is refused. -/
def evenChunk : ErasedSourceEvent := ⟨⟨(), .infallible⟩, .item (Value.plain 2)⟩

theorem endsOnce_iff_orderly_even :
    outerKinds ((SourcePlan.lower _ splitThenRefused).passes [evenChunk]) = [.item, .failed] ∧
      EndsOnce ((SourcePlan.lower _ splitThenRefused).passes [evenChunk]) := by
  refine ⟨by decide +kernel, (endsOnce_iff_orderly.1 _ [evenChunk]).1 ⟨⟨?_, ⟨?_, ?_⟩, trivial⟩, ?_⟩⟩
  · exact ⟨fun h => absurd rfl h, trivial⟩
  · rintro - ⟨chunk, state, error, hchunk, hpush⟩
    cases hchunk
    cases hpush
  · exact ⟨fun h => absurd rfl h, trivial⟩
  · exact fun _ => trivial

/-- A realization can hand the mapper an item after its failure. -/
theorem item_after_failure : ¬ ∀ (descriptorType : DescriptorType TypeId)
    (descriptor : descriptorType.Val) (events : List ErasedSourceEvent),
    EndsOnce ((SourcePlan.lower descriptorType descriptor).passes events) := by
  intro h
  have honce := h _ splitThenRefused [oddChunk]
  have houter : outerKinds ((SourcePlan.lower _ splitThenRefused).passes [oddChunk]) =
      [] ++ .failed :: [.item] := by
    decide +kernel
  have hnone := honce.outer [] .failed [.item] houter rfl
  cases hnone

end Samara.Sample
