/-
  Samara.Live.Lease

  The lease on standard input, which one realization holds at a time, while a
  transition moves it from one Subscription to another.

  `apply_subscription_changes` handles the changes in the order of their
  identities, and each acquires or releases at once.  So what a transition that
  withdraws one reader and starts another comes to depends on which of the two
  identities sorts first.
-/
import Samara.Live.Owner

namespace Samara

open Relation (ReflTransGen)

variable [RustTypes]

namespace Live

/-! ## The lease -/

/-- `active` of a `StdinBinding`, as the realization whose reader runs, and the
    realizations that were refused: their futures are errors. -/
structure StdinLease where
  reader : Option SourceStamp
  refused : List SourceStamp
  deriving DecidableEq

namespace StdinLease

/-- `acquire` when a realization is started. -/
def acquire (lease : StdinLease) (stamp : SourceStamp) : StdinLease :=
  match lease.reader with
  | some _ => { lease with refused := lease.refused ++ [stamp] }
  | none => { lease with reader := some stamp }

/-- The stop hook of a realization, which only one that has a reader installs:
    `stop_and_join`. -/
def release (lease : StdinLease) (stamp : SourceStamp) : StdinLease :=
  if lease.reader = some stamp then { lease with reader := none } else lease

/-- What one step of the owner does to the lease of `binding`. -/
def after (binding : SourceBinding) (lease : StdinLease) : Observation → StdinLease
  | .activated stamp subscription =>
      if binding.matches subscription.sourcePlan then lease.acquire stamp else lease
  | .withdrawn stamp => lease.release stamp
  | _ => lease

/-- What the owner has done to the lease between two states. -/
def through (binding : SourceBinding) (lease : StdinLease) (core core' : Core) : StdinLease :=
  (core'.journal.drop core.journal.length).foldl (after binding) lease

end StdinLease

/-! ## What one change does while the scope is running -/

section Running

variable {core core' : Core} {component : ComponentId} {work : TraceId}

theorem beats_of_moves {α : Type} {x : Owner α} {value : α} (hx : Moves Step x)
    (hrun : x.run core = .ok value core') : Beats core core' := by
  have hfollows := hx core
  rw [hrun] at hfollows
  exact Exec.path_relates Beats.refl (fun _ _ _ => Beats.trans) (fun _ _ => Step.beats) hfollows.1

/-- What runs now has run all along. -/
theorem Beats.running (h : Beats core core') (hphase : core'.scope.phase = .running) :
    core.scope.phase = .running := by
  by_contra hnot
  exact hnot ((h.phase_eq hnot).symm.trans hphase)

theorem run_observeDrainCutoff (hdraining : core.draining = false) {core' : Core}
    (hrun : observeDrainCutoff.run core = .ok () core') (hphase : core'.scope.phase = .running) :
    Beside core core' := by
  unfold observeDrainCutoff at hrun
  rw [Exec.run_bind_ok (EStateM.run_get core), hdraining] at hrun
  have hlook : isDraining.run core = .ok (decide (core.turn.scope.phase = .draining)) core.turn := rfl
  rw [if_neg Bool.false_ne_true, Exec.run_bind_ok hlook] at hrun
  by_cases hdrain : core.turn.scope.phase = .draining
  · rw [decide_eq_true hdrain, if_pos rfl] at hrun
    have hfollows := beginDrain_follows hdrain
    rw [hrun] at hfollows
    have hbeats : Beats core.turn core' :=
      Exec.path_relates Beats.refl (fun _ _ _ => Beats.trans) (fun _ _ => Step.beats) hfollows.1
    rw [hbeats.running hphase] at hdrain
    cases hdrain
  · rw [decide_eq_false hdrain, if_neg Bool.false_ne_true] at hrun
    cases hrun
    exact turn_beside core

/-- An activation puts one realization in place. -/
theorem run_activateSource (hdraining : core.draining = false)
    {subscription : ErasedRuntimeSubscription}
    (hrun : (activateSource component subscription work).run core = .ok () core')
    (hphase : core'.scope.phase = .running) :
    ∃ context, core' = core.turn.activated component subscription context := by
  unfold activateSource at hrun
  rw [Exec.run_bind_ok (EStateM.run_get core), hdraining, if_neg Bool.false_ne_true] at hrun
  have hlook : isRunning.run core = .ok (decide (core.turn.scope.phase = .running)) core.turn := rfl
  rw [Exec.run_bind_ok hlook] at hrun
  by_cases hrunning : core.turn.scope.phase = .running
  · rw [decide_eq_true hrunning, if_neg (by decide)] at hrun
    obtain ⟨_, reached, hstarts, hrun⟩ := Exec.run_bind_eq_ok.mp hrun
    obtain rfl : core.turn = reached := by
      unfold uncaught at hstarts
      split at hstarts <;> cases hstarts
      rfl
    dsimp only at hrun
    split at hrun
    · cases hrun
    · split at hrun
      · cases hrun
      · split at hrun
        · cases hrun
        · rename_i binding _
          have hrealized : (newRealization component subscription).run core.turn =
              .ok (core.turn.nextStamp component subscription)
                (core.turn.realized component subscription) := rfl
          rw [Exec.run_bind_ok hrealized] at hrun
          cases hstart : binding.start (core.turn.nextStamp component subscription) with
          | error panic =>
              rw [hstart] at hrun
              cases hrun
          | ok value =>
              rw [hstart] at hrun
              cases hrun
              exact ⟨_, rfl⟩
  · rw [decide_eq_false hrunning] at hrun
    cases hrun
    exact absurd hphase hrunning

/-- Stopping a Source marks its row. -/
theorem run_stopSource {source : ActiveSource}
    (hrun : (stopSource source false work).run core = .ok () core') :
    ∃ reached, Beside core reached ∧ core' = reached.halted source.stamp.generation false := by
  unfold stopSource at hrun
  obtain ⟨stopped, core₁, hgate, hrest⟩ := Exec.run_bind_eq_ok.mp hrun
  have hbeside : Beside core core₁ := by
    unfold stopGate at hgate
    have hturn : turn.run core = .ok () core.turn := rfl
    rw [Exec.run_bind_ok hturn, Exec.run_bind_ok (EStateM.run_get _)] at hgate
    split at hgate
    · cases hgate
      exact turn_beside core
    · cases hgate
      exact (turn_beside core).trans rfl
  have habort : (abort source.task).run core₁ = .ok () (core₁.turn.taskAborted source.task) := rfl
  rw [Exec.run_bind_ok habort, Exec.run_bind_ok (EStateM.run_modify _ _)] at hrest
  cases stopped with
  | ok value =>
      cases hrest
      refine ⟨core₁.turn.taskAborted source.task, ?_, rfl⟩
      exact (hbeside.trans (turn_beside core₁)).trans rfl
  | error reason => cases hrest

/-- A withdrawal removes the row found, if there is one. -/
theorem run_withdrawSource (hdraining : core.draining = false) {id : SubscriptionId} {removed : Bool}
    (hrun : (withdrawSource component id work).run core = .ok removed core') :
    removed = true ∧ ((core.source? component id = none ∧ core' = core) ∨
      ∃ source reached, core.source? component id = some source ∧ Beside core reached ∧
        core' = reached.withdrawn source.stamp) := by
  unfold withdrawSource at hrun
  rw [Exec.run_bind_ok (EStateM.run_get core)] at hrun
  cases hsource : core.source? component id with
  | none =>
      rw [hsource] at hrun
      cases hrun
      exact ⟨rfl, .inl ⟨rfl, rfl⟩⟩
  | some source =>
      rw [hsource] at hrun
      dsimp only at hrun
      rw [hdraining, Bool.false_and, if_neg Bool.false_ne_true] at hrun
      obtain ⟨_, core₁, hstop, hrest⟩ := Exec.run_bind_eq_ok.mp hrun
      obtain ⟨reached, hbeside, rfl⟩ := run_stopSource hstop
      cases hrest
      exact ⟨rfl, .inr ⟨source, reached, rfl, hbeside, rfl⟩⟩

/-! ## Generations -/

/-- No two rows are of one generation, and none is of a generation to come. -/
structure Generated (core : Core) : Prop where
  distinct : (core.sources.map (·.stamp.generation)).Nodup
  issued : ∀ source ∈ core.sources, source.stamp.generation < core.nextGeneration

namespace Generated

theorem of_eq (h : Generated core)
    (hsources : core'.sources.map (·.stamp.generation) = core.sources.map (·.stamp.generation))
    (hnext : core'.nextGeneration = core.nextGeneration) : Generated core' := by
  refine ⟨hsources ▸ h.distinct, ?_⟩
  intro source hsource
  have hmem : source.stamp.generation ∈ core.sources.map (·.stamp.generation) := by
    rw [← hsources]
    exact List.mem_map_of_mem hsource
  obtain ⟨old, hold, heq⟩ := List.mem_map.mp hmem
  rw [hnext, ← heq]
  exact h.issued old hold

theorem beside (h : Generated core) (hbeside : Beside core core') : Generated core' :=
  h.of_eq (by rw [hbeside.sources]) hbeside.nextGeneration

theorem withSource (h : Generated core) (generation : Nat) {update : ActiveSource → ActiveSource}
    (hupdate : ∀ source, (update source).stamp = source.stamp) :
    Generated (core.withSource generation update) := by
  refine h.of_eq (Table.map_modifyFirst ?_ core.sources) rfl
  intro source _
  rw [hupdate]

theorem realized (h : Generated core) (component : ComponentId)
    (subscription : ErasedRuntimeSubscription) : Generated (core.realized component subscription) :=
  ⟨h.distinct, fun source hsource => Nat.lt_succ_of_lt (h.issued source hsource)⟩

theorem installed (h : Generated core) (component : ComponentId)
    (subscription : ErasedRuntimeSubscription) (context : TaskContext) :
    Generated (core.activated component subscription context) := by
  have hturn := turn_beside (core.realized component subscription)
  have hsources : (core.activated component subscription context).sources = core.sources ++
      [⟨core.nextStamp component subscription, true, false, false, subscription,
        subscription.sourcePlan, (core.realized component subscription).turn.nextTask⟩] :=
    congrArg (· ++ _) hturn.sources
  have hnext : (core.activated component subscription context).nextGeneration =
      core.nextGeneration + 1 := hturn.nextGeneration
  constructor
  · rw [hsources, List.map_append]
    refine List.nodup_append.mpr ⟨h.distinct, List.nodup_singleton _, ?_⟩
    intro generation hgeneration last hlast heq
    obtain ⟨source, hsource, rfl⟩ := List.mem_map.mp hgeneration
    have hlt := h.issued source hsource
    rw [List.mem_singleton.mp hlast] at heq
    have hnew : source.stamp.generation = core.nextGeneration := heq
    omega
  · rw [hsources, hnext]
    intro source hsource
    rcases List.mem_append.mp hsource with hold | hnew
    · exact Nat.lt_succ_of_lt (h.issued source hold)
    · rw [List.mem_singleton.mp hnew]
      exact Nat.lt_succ_self _

theorem withoutSource (h : Generated core) (generation : Nat) :
    Generated (core.withoutSource generation) :=
  ⟨h.distinct.sublist (List.eraseP_sublist.map _),
    fun source hsource => h.issued source (List.mem_of_mem_eraseP hsource)⟩

theorem discard (h : Generated core) (completion : Option Nat) :
    Generated (core.discard completion) := by
  cases completion <;> exact h.of_eq rfl rfl

theorem step (h : Generated core) (hstep : Step core core') : Generated core' := by
  cases hstep with
  | turned => exact h.beside (turn_beside core)
  | privately hprivate =>
      exact h.of_eq (by rw [(congrArg Core.sources hprivate :)])
        ((congrArg Core.nextGeneration hprivate :))
  | halted generation => exact h.withSource generation fun _ => rfl
  | withdrawn stamp =>
      have hmarked : Generated (core.halted stamp.generation false) :=
        h.withSource stamp.generation fun _ => rfl
      exact (hmarked.withoutSource stamp.generation).of_eq rfl rfl
  | @retained source hsource subscription =>
      have hkept : Generated (core.withSource source.stamp.generation ({ · with subscription })) :=
        h.withSource source.stamp.generation fun _ => rfl
      exact hkept.of_eq rfl rfl
  | realized component subscription => exact h.realized component subscription
  | activated component subscription context => exact h.installed component subscription context
  | @mistyped correlation request hrequest =>
      have herased : Generated (core.withoutRequest correlation) := h.of_eq rfl rfl
      exact herased.discard _
  | popped =>
      have herased : Generated ({ core with requests := core.requests.dropLast } : Core) :=
        h.of_eq rfl rfl
      exact herased.discard _
  | discarded completion => exact h.discard completion
  | _ => exact h.of_eq rfl rfl

theorem advance (h : Generated core) (hadvance : Advance core core') : Generated core' := by
  cases hadvance with
  | step hstep => exact h.step hstep
  | planned generation plan => exact h.withSource generation fun _ => rfl
  | finished generation => exact h.withSource generation fun _ => rfl
  | _ => exact h.of_eq rfl rfl

theorem moves {α : Type} {x : Owner α} {value : α} (h : Generated core) (hx : Moves Step x)
    (hrun : x.run core = .ok value core') : Generated core' := by
  have hfollows := hx core
  rw [hrun] at hfollows
  exact Exec.path_preserves (fun _ _ h hstep => h.step hstep) hfollows.1 h

end Generated

/-! ## Which realization a Subscription has -/

/-- The realization of a Subscription. -/
def Core.stamp? (core : Core) (component : ComponentId) (id : SubscriptionId) :
    Option SourceStamp := (core.source? component id).map (·.stamp)

theorem stamp?_eq (core : Core) (component : ComponentId) (id : SubscriptionId) :
    core.stamp? component id = (core.sources.map (·.stamp)).find? fun stamp =>
      stamp.component = component && stamp.subscription = id := by
  rw [List.find?_map]
  rfl

theorem stamp?_of_eq (h : core'.sources.map (·.stamp) = core.sources.map (·.stamp))
    (component : ComponentId) (id : SubscriptionId) :
    core'.stamp? component id = core.stamp? component id := by
  rw [stamp?_eq, stamp?_eq, h]

theorem stamps_withSource (core : Core) (generation : Nat) {update : ActiveSource → ActiveSource}
    (hupdate : ∀ source, (update source).stamp = source.stamp) :
    (core.withSource generation update).sources.map (·.stamp) = core.sources.map (·.stamp) :=
  Table.map_modifyFirst (fun source _ => hupdate source) core.sources

/-- Removing the row of one Subscription does not affect the row of another. -/
theorem stamp?_withdrawn (h : Generated core) {id other : SubscriptionId} (hne : other ≠ id)
    {source : ActiveSource} (hsource : core.source? component id = some source) :
    (core.withdrawn source.stamp).stamp? component other = core.stamp? component other := by
  have hmarked : (core.halted source.stamp.generation false).sources.map (·.stamp) =
      core.sources.map (·.stamp) := stamps_withSource core source.stamp.generation fun _ => rfl
  have hsources : (core.withdrawn source.stamp).sources.map (·.stamp) =
      (core.sources.map (·.stamp)).eraseP (·.generation = source.stamp.generation) := by
    rw [← hmarked, List.eraseP_map]
    rfl
  rw [stamp?_eq, stamp?_eq, hsources]
  refine Table.find?_eraseP_of_ne ?_
  intro stamp hstamp
  -- The generation is that of the row found, whose Subscription is another.
  have hnodup : ((core.sources.map (·.stamp)).map (·.generation)).Nodup := by
    rw [List.map_map]
    exact h.distinct
  have hmem : source.stamp ∈ core.sources.map (·.stamp) :=
    List.mem_map_of_mem (List.mem_of_find?_eq_some hsource)
  have hfound := Table.find?_of_nodup hnodup hmem
  rw [hfound] at hstamp
  cases hstamp
  have hid := List.find?_some hsource
  simp only [Bool.and_eq_true, decide_eq_true_eq] at hid
  simp [hid.2, Ne.symm hne]

theorem stamp?_activated {id : SubscriptionId} {subscription : ErasedRuntimeSubscription}
    (hne : id ≠ subscription.id) (context : TaskContext) :
    (core.activated component subscription context).stamp? component id =
      core.stamp? component id := by
  have hsources : (core.activated component subscription context).sources.map (·.stamp) =
      core.sources.map (·.stamp) ++ [core.nextStamp component subscription] := by
    have hturn := turn_beside (core.realized component subscription)
    show ((core.realized component subscription).turn.sources ++ [_]).map ActiveSource.stamp = _
    rw [hturn.sources, List.map_append]
    rfl
  rw [stamp?_eq, stamp?_eq, hsources, List.find?_append]
  have hnew : [core.nextStamp component subscription].find? (fun stamp =>
      decide (stamp.component = component) && decide (stamp.subscription = id)) = none := by
    simp [Core.nextStamp, Ne.symm hne]
  rw [hnew, Option.or_none]

/-! ## What one change does -/

/-- The record of a withdrawal, if there is a realization to withdraw. -/
def Core.withdrawal (core : Core) (component : ComponentId) (id : SubscriptionId) :
    List Observation := ((core.stamp? component id).map Observation.withdrawn).toList

/-- What a change that was applied has added to the history. -/
inductive Records (core : Core) (component : ComponentId) :
    ErasedSubscriptionChange → List Observation → Prop
  | started (subscription : ErasedRuntimeSubscription) (generation : Nat) :
      Records core component (.start subscription)
        [.activated ⟨component, subscription.id, generation⟩ subscription]
  | absent (subscription : ErasedRuntimeSubscription) :
      Records core component (.retain subscription) []
  | retained (subscription : ErasedRuntimeSubscription) (stamp : SourceStamp) :
      Records core component (.retain subscription) [.retained stamp subscription]
  | replaced (subscription : ErasedRuntimeSubscription) (generation : Nat) :
      Records core component (.replace subscription) (core.withdrawal component subscription.id ++
        [.activated ⟨component, subscription.id, generation⟩ subscription])
  | cancelled (id : SubscriptionId) :
      Records core component (.cancel id) (core.withdrawal component id)

/-- The owner between two changes of a running scope. -/
structure Between (core : Core) : Prop where
  generated : Generated core
  draining : core.draining = false

/-- What the application of some changes does. -/
structure Applies (core : Core) (component : ComponentId) (ids : List SubscriptionId)
    (records : List Observation) (core' : Core) : Prop where
  between : Between core'
  journal : core'.journal = core.journal ++ records
  others : ∀ id ∉ ids, core'.stamp? component id = core.stamp? component id

theorem Applies.beside {reached : Core} {ids : List SubscriptionId} {records : List Observation}
    (hbeside : Beside core reached) (h : Applies reached component ids records core') :
    Applies core component ids records core' := by
  refine ⟨h.between, hbeside.journal ▸ h.journal, ?_⟩
  intro id hid
  rw [h.others id hid]
  exact stamp?_of_eq (by rw [hbeside.sources]) component id

theorem applies_activateSource (h : Between core) {subscription : ErasedRuntimeSubscription}
    (hrun : (activateSource component subscription work).run core = .ok () core')
    (hphase : core'.scope.phase = .running) : ∃ generation,
      Applies core component [subscription.id]
        [.activated ⟨component, subscription.id, generation⟩ subscription] core' := by
  have hgenerated := h.generated.moves (moves_activateSource component subscription work) hrun
  obtain ⟨context, rfl⟩ := run_activateSource h.draining hrun hphase
  have hturn := turn_beside core
  have hinner := turn_beside (core.turn.realized component subscription)
  refine ⟨core.turn.nextGeneration, .beside hturn ⟨⟨hgenerated, ?_⟩, ?_, ?_⟩⟩
  · exact (hinner.draining.trans hturn.draining).trans h.draining
  · exact congrArg (· ++ _) hinner.journal
  · intro id hid
    exact stamp?_activated (by simpa using hid) context

theorem applies_withdrawSource (h : Between core) {id : SubscriptionId} {removed : Bool}
    (hrun : (withdrawSource component id work).run core = .ok removed core') :
    removed = true ∧ Applies core component [id] (core.withdrawal component id) core' := by
  have hgenerated := h.generated.moves (moves_withdrawSource component id work) hrun
  obtain ⟨hremoved, ⟨hnone, rfl⟩ | ⟨source, reached, hsource, hbeside, rfl⟩⟩ :=
    run_withdrawSource h.draining hrun
  · refine ⟨hremoved, ⟨hgenerated, h.draining⟩, ?_, fun _ _ => rfl⟩
    unfold Core.withdrawal Core.stamp?
    rw [hnone]
    exact (List.append_nil _).symm
  · have hfound : reached.source? component id = some source := by
      unfold Core.source?
      rw [hbeside.sources]
      exact hsource
    refine ⟨hremoved, .beside hbeside ⟨⟨hgenerated, hbeside.draining.trans h.draining⟩, ?_, ?_⟩⟩
    · unfold Core.withdrawal Core.stamp?
      rw [hsource]
      rfl
    · intro other hother
      exact stamp?_withdrawn (h.generated.beside hbeside) (by simpa using hother) hfound

theorem applies_change (h : Between core) {change : ErasedSubscriptionChange}
    (hrun : (applySubscriptionChange component work change).run core = .ok () core')
    (hphase : core'.scope.phase = .running) :
    ∃ records, Records core component change records ∧
      Applies core component [change.id] records core' := by
  have hgenerated := h.generated.moves (moves_applySubscriptionChange component work change) hrun
  cases change with
  | start subscription =>
      obtain ⟨generation, happlies⟩ := applies_activateSource h hrun hphase
      exact ⟨_, .started subscription generation, happlies⟩
  | retain subscription =>
      unfold applySubscriptionChange at hrun
      dsimp only at hrun
      rw [Exec.run_bind_ok (EStateM.run_get core)] at hrun
      cases hsource : core.source? component subscription.id with
      | none =>
          rw [hsource] at hrun
          cases hrun
          exact ⟨_, .absent subscription, h, (List.append_nil _).symm, fun _ _ => rfl⟩
      | some source =>
          rw [hsource] at hrun
          cases hrun
          refine ⟨_, .retained subscription source.stamp, ⟨hgenerated, h.draining⟩, rfl, ?_⟩
          intro id _
          have hstamps : (core.withSource source.stamp.generation
              ({ · with subscription })).sources.map (·.stamp) = core.sources.map (·.stamp) :=
            stamps_withSource core source.stamp.generation fun _ => rfl
          exact stamp?_of_eq hstamps component id
  | replace subscription =>
      unfold applySubscriptionChange at hrun
      dsimp only at hrun
      obtain ⟨removed, core₁, hwithdraw, hrest⟩ := Exec.run_bind_eq_ok.mp hrun
      obtain ⟨rfl, hremoved⟩ := applies_withdrawSource h hwithdraw
      rw [if_pos rfl] at hrest
      obtain ⟨generation, hactivated⟩ := applies_activateSource hremoved.between hrest hphase
      refine ⟨_, .replaced subscription generation, hactivated.between, ?_, ?_⟩
      · rw [hactivated.journal, hremoved.journal, List.append_assoc]
      · intro id hid
        exact (hactivated.others id hid).trans (hremoved.others id hid)
  | cancel id =>
      unfold applySubscriptionChange at hrun
      dsimp only at hrun
      obtain ⟨removed, core₁, hwithdraw, hrest⟩ := Exec.run_bind_eq_ok.mp hrun
      cases hrest
      exact ⟨_, .cancelled id, (applies_withdrawSource h hwithdraw).2⟩

theorem Applies.trans {middle : Core} {ids ids' : List SubscriptionId}
    {records records' : List Observation} (h : Applies core component ids records middle)
    (h' : Applies middle component ids' records' core') :
    Applies core component (ids ++ ids') (records ++ records') core' := by
  refine ⟨h'.between, ?_, ?_⟩
  · rw [h'.journal, h.journal, List.append_assoc]
  · intro id hid
    rw [List.mem_append, not_or] at hid
    exact (h'.others id hid.2).trans (h.others id hid.1)

theorem withdrawal_of_eq (h : core'.sources.map (·.stamp) = core.sources.map (·.stamp))
    (id : SubscriptionId) : core'.withdrawal component id = core.withdrawal component id := by
  unfold Core.withdrawal
  rw [stamp?_of_eq h]

theorem Records.of_eq (h : core'.sources.map (·.stamp) = core.sources.map (·.stamp))
    {change : ErasedSubscriptionChange} {records : List Observation}
    (hrecords : Records core' component change records) :
    Records core component change records := by
  cases hrecords with
  | started subscription generation => exact .started subscription generation
  | absent subscription => exact .absent subscription
  | retained subscription stamp => exact .retained subscription stamp
  | replaced subscription generation =>
      rw [withdrawal_of_eq h]
      exact .replaced subscription generation
  | cancelled id =>
      rw [withdrawal_of_eq h]
      exact .cancelled id

/-- The first of several changes, and the rest after it. -/
theorem applies_cons (h : Between core) {change : ErasedSubscriptionChange}
    {changes : List ErasedSubscriptionChange}
    (hrun : (applyChanges component work (change :: changes)).run core = .ok () core')
    (hphase : core'.scope.phase = .running) :
    ∃ records middle, Records core component change records ∧
      Applies core component [change.id] records middle ∧
        (applyChanges component work changes).run middle = .ok () core' := by
  unfold applyChanges at hrun
  obtain ⟨_, core₁, hcutoff, hrest⟩ := Exec.run_bind_eq_ok.mp hrun
  obtain ⟨_, core₂, hchange, hchanges⟩ := Exec.run_bind_eq_ok.mp hrest
  have hphase₂ := (beats_of_moves (moves_applyChanges component work changes) hchanges).running hphase
  have hphase₁ := (beats_of_moves (moves_applySubscriptionChange component work change)
    hchange).running hphase₂
  have hbeside := run_observeDrainCutoff h.draining hcutoff hphase₁
  have hbetween : Between core₁ :=
    ⟨h.generated.beside hbeside, hbeside.draining.trans h.draining⟩
  obtain ⟨records, hrecords, happlies⟩ := applies_change hbetween hchange hphase₂
  exact ⟨records, core₂, hrecords.of_eq (by rw [hbeside.sources]), happlies.beside hbeside, hchanges⟩

theorem run_applyChanges_append {first rest : List ErasedSubscriptionChange}
    (hrun : (applyChanges component work (first ++ rest)).run core = .ok () core') :
    ∃ middle, (applyChanges component work first).run core = .ok () middle ∧
      (applyChanges component work rest).run middle = .ok () core' := by
  induction first generalizing core with
  | nil => exact ⟨core, rfl, hrun⟩
  | cons change changes ih =>
      rw [List.cons_append] at hrun
      unfold applyChanges at hrun
      obtain ⟨_, core₁, hcutoff, hrest⟩ := Exec.run_bind_eq_ok.mp hrun
      obtain ⟨_, core₂, hchange, hchanges⟩ := Exec.run_bind_eq_ok.mp hrest
      obtain ⟨middle, hfirst, hlast⟩ := ih hchanges
      refine ⟨middle, ?_, hlast⟩
      unfold applyChanges
      rw [Exec.run_bind_ok hcutoff, Exec.run_bind_ok hchange]
      exact hfirst

end Running

/-! ## What the changes do to the lease -/

/-- The Subscription that a change starts a realization of. -/
def starts : ErasedSubscriptionChange → Option ErasedRuntimeSubscription
  | .start subscription | .replace subscription => some subscription
  | .retain _ | .cancel _ => none

/-- Whether a change withdraws a realization. -/
def withdraws : ErasedSubscriptionChange → Bool
  | .replace _ | .cancel _ => true
  | .start _ | .retain _ => false

/-- Whether a change starts a realization of what `binding` binds. -/
def reads (binding : SourceBinding) (change : ErasedSubscriptionChange) : Bool :=
  (starts change).any fun subscription => binding.matches subscription.sourcePlan

/-- Changes that withdraw the reader of `old` and start one for `new` alone. -/
structure Handover (binding : SourceBinding) (changes : List ErasedSubscriptionChange)
    (old new : SubscriptionId) : Prop where
  distinct : (changes.map (·.id)).Nodup
  different : old ≠ new
  withdrawn : ∃ change ∈ changes, change.id = old ∧ withdraws change = true
  started : ∃ change ∈ changes, change.id = new ∧ reads binding change = true
  only : ∀ change ∈ changes, reads binding change = true → change.id = new

instance (binding : SourceBinding) (changes : List ErasedSubscriptionChange)
    (old new : SubscriptionId) : Decidable (Handover binding changes old new) :=
  decidable_of_iff ((changes.map (·.id)).Nodup ∧ old ≠ new ∧
      (∃ change ∈ changes, change.id = old ∧ withdraws change = true) ∧
      (∃ change ∈ changes, change.id = new ∧ reads binding change = true) ∧
      ∀ change ∈ changes, reads binding change = true → change.id = new)
    ⟨fun ⟨hdistinct, hdifferent, hwithdrawn, hstarted, honly⟩ =>
      ⟨hdistinct, hdifferent, hwithdrawn, hstarted, honly⟩,
    fun ⟨hdistinct, hdifferent, hwithdrawn, hstarted, honly⟩ =>
      ⟨hdistinct, hdifferent, hwithdrawn, hstarted, honly⟩⟩

/-- The new realization has the lease, and none was refused it. -/
def Acquires (component : ComponentId) (new : SubscriptionId) (before after : StdinLease) : Prop :=
  (∃ stamp, after.reader = some stamp ∧ stamp.component = component ∧ stamp.subscription = new) ∧
    after.refused = before.refused

section Lease

variable {core core' : Core} {component : ComponentId} {work : TraceId} {binding : SourceBinding}
  {old new : SubscriptionId}

theorem reads_eq_false {change : ErasedSubscriptionChange} (h : ¬ reads binding change = true)
    {subscription : ErasedRuntimeSubscription} (hstarts : starts change = some subscription) :
    binding.matches subscription.sourcePlan = false := by
  unfold reads at h
  rw [hstarts] at h
  exact Bool.eq_false_of_not_eq_true h

/-- A change that concerns neither of the two Subscriptions. -/
structure Neutral (binding : SourceBinding) (old new : SubscriptionId)
    (change : ErasedSubscriptionChange) : Prop where
  old : change.id ≠ old
  new : change.id ≠ new
  starts : ∀ subscription, starts change = some subscription →
    binding.matches subscription.sourcePlan = false

/-- The reader of the lease, if any, is that of one of the two Subscriptions. -/
def StdinLease.Held (old new : SubscriptionId) (lease : StdinLease) : Prop :=
  ∀ stamp, lease.reader = some stamp → stamp.subscription = old ∨ stamp.subscription = new

omit [RustTypes] in
theorem release_of_ne {lease : StdinLease} {stamp : SourceStamp} (h : lease.reader ≠ some stamp) :
    lease.release stamp = lease := by
  unfold StdinLease.release
  rw [if_neg h]

theorem stamp?_subscription {id : SubscriptionId} {stamp : SourceStamp}
    (h : core.stamp? component id = some stamp) : stamp.subscription = id := by
  rw [stamp?_eq] at h
  have hfound := List.find?_some h
  simp only [Bool.and_eq_true, decide_eq_true_eq] at hfound
  exact hfound.2

/-- A withdrawal matters only to the realization that has the lease. -/
theorem foldl_withdrawal {id : SubscriptionId} {lease : StdinLease}
    (h : ∀ stamp, core.stamp? component id = some stamp → lease.reader ≠ some stamp) :
    (core.withdrawal component id).foldl (StdinLease.after binding) lease = lease := by
  unfold Core.withdrawal
  cases hstamp : core.stamp? component id with
  | none => rfl
  | some stamp => exact release_of_ne (h stamp hstamp)

theorem foldl_activated {stamp : SourceStamp} {subscription : ErasedRuntimeSubscription}
    (h : binding.matches subscription.sourcePlan = false) (lease : StdinLease) :
    [Observation.activated stamp subscription].foldl (StdinLease.after binding) lease = lease := by
  show (if binding.matches subscription.sourcePlan = true then lease.acquire stamp else lease) = lease
  rw [if_neg (by rw [h]; exact Bool.false_ne_true)]

theorem Records.neutral {change : ErasedSubscriptionChange} {records : List Observation}
    (hrecords : Records core component change records) (hneutral : Neutral binding old new change)
    {lease : StdinLease} (hheld : lease.Held old new) :
    records.foldl (StdinLease.after binding) lease = lease := by
  have hother {id : SubscriptionId} (hold : id ≠ old) (hnew : id ≠ new) :
      ∀ stamp, core.stamp? component id = some stamp → lease.reader ≠ some stamp := by
    intro stamp hstamp hreader
    rcases hheld stamp hreader with heq | heq
    · exact hold ((stamp?_subscription hstamp).symm.trans heq)
    · exact hnew ((stamp?_subscription hstamp).symm.trans heq)
  cases hrecords with
  | started subscription generation => exact foldl_activated (hneutral.starts subscription rfl) lease
  | absent subscription => rfl
  | retained subscription stamp => rfl
  | replaced subscription generation =>
      rw [List.foldl_append, foldl_withdrawal (@hother subscription.id hneutral.old hneutral.new)]
      exact foldl_activated (hneutral.starts subscription rfl) lease
  | cancelled id => exact foldl_withdrawal (@hother id hneutral.old hneutral.new)

theorem neutral_changes {changes : List ErasedSubscriptionChange} (h : Between core)
    (hneutral : ∀ change ∈ changes, Neutral binding old new change)
    (hrun : (applyChanges component work changes).run core = .ok () core')
    (hphase : core'.scope.phase = .running) :
    ∃ records, Applies core component (changes.map (·.id)) records core' ∧
      ∀ lease : StdinLease, lease.Held old new →
        records.foldl (StdinLease.after binding) lease = lease := by
  induction changes generalizing core with
  | nil =>
      cases hrun
      exact ⟨[], ⟨h, (List.append_nil _).symm, fun _ _ => rfl⟩, fun _ _ => rfl⟩
  | cons change changes ih =>
      obtain ⟨records, middle, hrecords, happlies, hrest⟩ := applies_cons h hrun hphase
      obtain ⟨more, hmore, hkeep⟩ := ih happlies.between
        (fun other hother => hneutral other (List.mem_cons_of_mem _ hother)) hrest
      refine ⟨records ++ more, happlies.trans hmore, ?_⟩
      intro lease hheld
      rw [List.foldl_append, hrecords.neutral (hneutral change List.mem_cons_self) hheld]
      exact hkeep lease hheld

/-- The withdrawal of the reader releases the lease. -/
theorem Records.releases {change : ErasedSubscriptionChange} {records : List Observation}
    (hrecords : Records core component change records) (hwithdraws : withdraws change = true)
    (hstarts : ∀ subscription, starts change = some subscription →
      binding.matches subscription.sourcePlan = false)
    {lease : StdinLease} {stamp : SourceStamp} (hstamp : core.stamp? component change.id = some stamp)
    (hreader : lease.reader = some stamp) :
    records.foldl (StdinLease.after binding) lease = { lease with reader := none } := by
  have hrelease {id : SubscriptionId} (hid : core.stamp? component id = some stamp) :
      (core.withdrawal component id).foldl (StdinLease.after binding) lease =
        { lease with reader := none } := by
    unfold Core.withdrawal
    rw [hid]
    exact if_pos hreader
  cases hrecords with
  | started subscription generation => cases hwithdraws
  | absent subscription => cases hwithdraws
  | retained subscription stamp => cases hwithdraws
  | replaced subscription generation =>
      rw [List.foldl_append, @hrelease subscription.id hstamp]
      exact foldl_activated (hstarts subscription rfl) _
  | cancelled id => exact hrelease hstamp

/-- The start of the new realization asks for the lease. -/
theorem Records.acquires {change : ErasedSubscriptionChange} {records : List Observation}
    (hrecords : Records core component change records) {subscription : ErasedRuntimeSubscription}
    (hstarts : starts change = some subscription)
    (hmatches : binding.matches subscription.sourcePlan = true) {lease : StdinLease}
    (hother : ∀ stamp, lease.reader = some stamp → stamp.subscription ≠ change.id) :
    ∃ generation, records.foldl (StdinLease.after binding) lease =
      lease.acquire ⟨component, change.id, generation⟩ := by
  have hacquire (generation : Nat) :
      [Observation.activated ⟨component, subscription.id, generation⟩ subscription].foldl
        (StdinLease.after binding) lease = lease.acquire ⟨component, subscription.id, generation⟩ :=
    if_pos hmatches
  cases hrecords with
  | started other generation =>
      cases hstarts
      exact ⟨generation, hacquire generation⟩
  | absent other => cases hstarts
  | retained other stamp => cases hstarts
  | replaced other generation =>
      cases hstarts
      refine ⟨generation, ?_⟩
      rw [List.foldl_append, foldl_withdrawal, hacquire]
      · rfl
      · intro stamp hstamp hreader
        exact hother stamp hreader (stamp?_subscription hstamp)
  | cancelled id => cases hstarts

/-! ## The order of the two -/

omit [RustTypes] in
/-- Two elements of a sorted list, the smaller of which comes first. -/
theorem sorted_split {α : Type} {key : α → String} {items : List α}
    (hsorted : items.Pairwise fun left right => key left ≤ key right) {first second : α}
    (hfirst : first ∈ items) (hsecond : second ∈ items) (hlt : key first < key second) :
    ∃ before between after, items = before ++ first :: (between ++ second :: after) := by
  obtain ⟨before, rest, rfl⟩ := List.append_of_mem hfirst
  obtain ⟨_, hrest, hacross⟩ := List.pairwise_append.mp hsorted
  rcases List.mem_append.mp hsecond with hbefore | hafter
  · have hle := hacross second hbefore first List.mem_cons_self
    exact absurd hlt (not_lt.mpr hle)
  · rcases List.mem_cons.mp hafter with rfl | hlater
    · exact absurd hlt (lt_irrefl _)
    · obtain ⟨between, after, rfl⟩ := List.append_of_mem hlater
      exact ⟨before, between, after, rfl⟩

theorem sorted_sortChanges (changes : List ErasedSubscriptionChange) :
    (sortChanges changes).Pairwise fun left right => left.id.name ≤ right.id.name :=
  List.pairwise_insertionSort (fun left right : ErasedSubscriptionChange =>
    left.id.name ≤ right.id.name) changes

theorem Handover.perm {changes changes' : List ErasedSubscriptionChange}
    (h : Handover binding changes old new) (hperm : changes'.Perm changes) :
    Handover binding changes' old new := by
  refine ⟨((hperm.map _).nodup_iff).mpr h.distinct, h.different, ?_, ?_, ?_⟩
  · obtain ⟨change, hchange, hrest⟩ := h.withdrawn
    exact ⟨change, hperm.mem_iff.mpr hchange, hrest⟩
  · obtain ⟨change, hchange, hrest⟩ := h.started
    exact ⟨change, hperm.mem_iff.mpr hchange, hrest⟩
  · exact fun change hchange => h.only change (hperm.mem_iff.mp hchange)

/-- What comes before, between and after the two changes is neutral. -/
theorem Handover.neutral {before between after : List ErasedSubscriptionChange}
    {first second : ErasedSubscriptionChange}
    (h : Handover binding (before ++ first :: (between ++ second :: after)) old new)
    (hids : first.id = old ∧ second.id = new ∨ first.id = new ∧ second.id = old) :
    ∀ change, change ∈ before ∨ change ∈ between ∨ change ∈ after →
      Neutral binding old new change := by
  intro change hchange
  have hdistinct := h.distinct
  have hmem : change ∈ before ++ first :: (between ++ second :: after) := by
    rcases hchange with hmem | hmem | hmem <;> simp [hmem]
  have hne : change.id ≠ first.id ∧ change.id ≠ second.id := by
    simp only [List.map_append, List.map_cons, List.nodup_append, List.nodup_cons, List.mem_append,
      List.mem_cons, List.mem_map, not_or] at hdistinct
    obtain ⟨_, ⟨hfirst, _, ⟨hsecond, _⟩, hmiddle⟩, hbefore⟩ := hdistinct
    rcases hchange with hmem | hmem | hmem
    · exact ⟨hbefore _ ⟨change, hmem, rfl⟩ _ (.inl rfl),
        hbefore _ ⟨change, hmem, rfl⟩ _ (.inr (.inr (.inl rfl)))⟩
    · exact ⟨fun heq => hfirst.1 ⟨change, hmem, heq⟩, hmiddle _ ⟨change, hmem, rfl⟩ _ (.inl rfl)⟩
    · exact ⟨fun heq => hfirst.2.2 ⟨change, hmem, heq⟩, fun heq => hsecond ⟨change, hmem, heq⟩⟩
  have hold : change.id ≠ old := by
    rcases hids with ⟨hfirst, _⟩ | ⟨_, hsecond⟩
    · exact hfirst ▸ hne.1
    · exact hsecond ▸ hne.2
  have hnew : change.id ≠ new := by
    rcases hids with ⟨_, hsecond⟩ | ⟨hfirst, _⟩
    · exact hsecond ▸ hne.2
    · exact hfirst ▸ hne.1
  refine ⟨hold, hnew, fun subscription hstarts => ?_⟩
  exact reads_eq_false (fun hreads => hnew (h.only change hmem hreads)) hstarts

/-- Only the two changes matter to the lease. -/
theorem two_changes {before between after : List ErasedSubscriptionChange}
    {first second : ErasedSubscriptionChange} (h : Between core)
    (hneutral : ∀ change, change ∈ before ∨ change ∈ between ∨ change ∈ after →
      Neutral binding old new change)
    (hids : first.id = old ∧ second.id = new ∨ first.id = new ∧ second.id = old) (hne : old ≠ new)
    (hrun : (applyChanges component work (before ++ first :: (between ++ second :: after))).run core =
      .ok () core') (hphase : core'.scope.phase = .running) :
    ∃ core₁ core₂ firstRecords secondRecords,
      Records core₁ component first firstRecords ∧
      Records core₂ component second secondRecords ∧
      core₁.stamp? component first.id = core.stamp? component first.id ∧
      core₂.stamp? component second.id = core.stamp? component second.id ∧
      ∀ lease : StdinLease, lease.Held old new →
        (firstRecords.foldl (StdinLease.after binding) lease).Held old new →
        (secondRecords.foldl (StdinLease.after binding)
          (firstRecords.foldl (StdinLease.after binding) lease)).Held old new →
        lease.through binding core core' = secondRecords.foldl (StdinLease.after binding)
          (firstRecords.foldl (StdinLease.after binding) lease) := by
  have hrunning {changes : List ErasedSubscriptionChange} {middle : Core}
      (hrest : (applyChanges component work changes).run middle = .ok () core') :
      middle.scope.phase = .running :=
    (beats_of_moves (moves_applyChanges component work changes) hrest).running hphase
  obtain ⟨core₁, hbefore, hrest₁⟩ := run_applyChanges_append hrun
  obtain ⟨records₁, happlies₁, hkeep₁⟩ :=
    neutral_changes h (fun change hmem => hneutral change (.inl hmem)) hbefore (hrunning hrest₁)
  obtain ⟨firstRecords, core₂, hfirst, happlies₂, hrest₂⟩ := applies_cons happlies₁.between hrest₁ hphase
  obtain ⟨core₃, hbetween, hrest₃⟩ := run_applyChanges_append hrest₂
  obtain ⟨records₃, happlies₃, hkeep₃⟩ := neutral_changes happlies₂.between
    (fun change hmem => hneutral change (.inr (.inl hmem))) hbetween (hrunning hrest₃)
  obtain ⟨secondRecords, core₄, hsecond, happlies₄, hrest₄⟩ :=
    applies_cons happlies₃.between hrest₃ hphase
  obtain ⟨records₅, happlies₅, hkeep₅⟩ := neutral_changes happlies₄.between
    (fun change hmem => hneutral change (.inr (.inr hmem))) hrest₄ hphase
  -- Neutral changes have other identities than the two.
  have hapart {changes : List ErasedSubscriptionChange}
      (hall : ∀ change ∈ changes, Neutral binding old new change) {id : SubscriptionId}
      (hid : id = old ∨ id = new) : id ∉ changes.map (·.id) := by
    intro hmem
    obtain ⟨change, hchange, rfl⟩ := List.mem_map.mp hmem
    exact hid.elim (hall change hchange).old (hall change hchange).new
  have hfirstId : first.id = old ∨ first.id = new := hids.imp And.left And.left
  have hsecondId : second.id = old ∨ second.id = new := (hids.imp And.right And.right).symm
  have hdifferent : second.id ≠ first.id := by
    rcases hids with ⟨hold, hnew⟩ | ⟨hnew, hold⟩
    · rw [hold, hnew]
      exact hne.symm
    · rw [hold, hnew]
      exact hne
  have hbeforeApart := fun change hmem => hneutral change (.inl hmem)
  have hbetweenApart := fun change hmem => hneutral change (.inr (.inl hmem))
  refine ⟨core₁, core₃, firstRecords, secondRecords, hfirst, hsecond, ?_, ?_, ?_⟩
  · exact happlies₁.others _ (hapart hbeforeApart hfirstId)
  · rw [happlies₃.others _ (hapart hbetweenApart hsecondId),
      happlies₂.others _ (by simpa using hdifferent),
      happlies₁.others _ (hapart hbeforeApart hsecondId)]
  · intro lease hheld hheld₂ hheld₄
    have hall := happlies₁.trans (happlies₂.trans (happlies₃.trans (happlies₄.trans happlies₅)))
    unfold StdinLease.through
    rw [hall.journal, List.drop_left, List.foldl_append, List.foldl_append, List.foldl_append,
      List.foldl_append, hkeep₁ lease hheld, hkeep₃ _ hheld₂, hkeep₅ _ hheld₄]

/-- What sorted changes do to the lease of the withdrawn reader. -/
theorem handover_lease {changes : List ErasedSubscriptionChange} (h : Between core)
    (hsorted : changes.Pairwise fun left right => left.id.name ≤ right.id.name)
    (hmoves : Handover binding changes old new) {stamp : SourceStamp}
    (hstamp : core.stamp? component old = some stamp) {lease : StdinLease}
    (hreader : lease.reader = some stamp)
    (hrun : (applyChanges component work changes).run core = .ok () core')
    (hphase : core'.scope.phase = .running) :
    ∃ generation, lease.through binding core core' =
      if old.name < new.name then ⟨some ⟨component, new, generation⟩, lease.refused⟩
      else ⟨none, lease.refused ++ [⟨component, new, generation⟩]⟩ := by
  obtain ⟨leaving, hleaving, hleavingId, hwithdraws⟩ := hmoves.withdrawn
  obtain ⟨coming, hcoming, hcomingId, hreads⟩ := hmoves.started
  obtain ⟨subscription, hstarts, hmatches⟩ := (Option.any_eq_true _ _).mp hreads
  have hsubscription := stamp?_subscription hstamp
  have hheld : lease.Held old new := by
    intro other hother
    rw [hreader] at hother
    cases hother
    exact .inl hsubscription
  -- The change that withdraws the reader starts nothing that could read.
  have hquiet : ∀ subscription, starts leaving = some subscription →
      binding.matches subscription.sourcePlan = false := by
    intro subscription hstarts
    refine reads_eq_false (fun hreads => ?_) hstarts
    exact hmoves.different (hleavingId.symm.trans (hmoves.only leaving hleaving hreads))
  by_cases hlt : old.name < new.name
  · simp only [if_pos hlt]
    obtain ⟨before, between, after, rfl⟩ := sorted_split hsorted hleaving hcoming
      (by rw [hleavingId, hcomingId]; exact hlt)
    have hids : leaving.id = old ∧ coming.id = new ∨ leaving.id = new ∧ coming.id = old :=
      .inl ⟨hleavingId, hcomingId⟩
    obtain ⟨core₁, core₂, first, second, hfirst, hsecond, hstamp₁, _, hthrough⟩ :=
      two_changes h (hmoves.neutral hids) hids hmoves.different hrun hphase
    rw [hleavingId, hstamp] at hstamp₁
    have hreleased := hfirst.releases hwithdraws hquiet (by rw [hleavingId]; exact hstamp₁) hreader
    obtain ⟨generation, hacquired⟩ := @Records.acquires _ _ _ _ _ _ hsecond _ hstarts hmatches
      { lease with reader := none } (fun _ hnone => by cases hnone)
    rw [hcomingId] at hacquired
    refine ⟨generation, ?_⟩
    rw [hthrough lease hheld, hreleased, hacquired]
    · rfl
    · rw [hreleased]
      exact fun _ hnone => by cases hnone
    · rw [hreleased, hacquired]
      intro other hother
      cases hother
      exact .inr rfl
  · simp only [if_neg hlt]
    have hgt : new.name < old.name := by
      rcases lt_trichotomy old.name new.name with hless | heq | hmore
      · exact absurd hless hlt
      · exact absurd (congrArg SubscriptionId.mk heq) hmoves.different
      · exact hmore
    obtain ⟨before, between, after, rfl⟩ := sorted_split hsorted hcoming hleaving
      (by rw [hleavingId, hcomingId]; exact hgt)
    have hids : coming.id = old ∧ leaving.id = new ∨ coming.id = new ∧ leaving.id = old :=
      .inr ⟨hcomingId, hleavingId⟩
    obtain ⟨core₁, core₂, first, second, hfirst, hsecond, _, hstamp₂, hthrough⟩ :=
      two_changes h (hmoves.neutral hids) hids hmoves.different hrun hphase
    rw [hleavingId, hstamp] at hstamp₂
    obtain ⟨generation, hrefused⟩ := @Records.acquires _ _ _ _ _ _ hfirst _ hstarts hmatches lease (by
      intro other hother heq
      rw [hreader] at hother
      cases hother
      rw [hsubscription, hcomingId] at heq
      exact hmoves.different heq)
    rw [hcomingId] at hrefused
    have hstill : lease.acquire ⟨component, new, generation⟩ =
        ⟨some stamp, lease.refused ++ [⟨component, new, generation⟩]⟩ := by
      unfold StdinLease.acquire
      rw [hreader]
    have hreleased := @Records.releases _ _ _ _ _ _ hsecond hwithdraws hquiet
      ⟨some stamp, lease.refused ++ [⟨component, new, generation⟩]⟩ stamp
        (by rw [hleavingId]; exact hstamp₂) rfl
    refine ⟨generation, ?_⟩
    rw [hthrough lease hheld, hrefused, hstill, hreleased]
    · rw [hrefused, hstill]
      intro other hother
      cases hother
      exact .inl hsubscription
    · rw [hrefused, hstill, hreleased]
      exact fun _ hnone => by cases hnone

end Lease

end Live

end Samara
