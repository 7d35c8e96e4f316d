/-
  Samara.Live.Cleanup

  A run that Cancel has ended well has lost nothing that was accepted: every
  event was taken, and every outcome that an effect had delivered was handed to
  its mapper.  What the clean-up then aborts are the effects that had delivered
  none, and it leaves nothing behind.
-/
import Samara.Live.Cancelled

namespace Samara

open Exec (Triple)
open Relation (ReflTransGen)

variable [RustTypes]

namespace Live

/-! ## Outcomes are settled to the last -/

/-- `received` has been taken off the channel, and the outcomes among `handled`
    have found their effects. -/
structure Settles (received handled : List LiveEvent) (core : Core) : Prop where
  queued : Queued core
  taken : core.received = received
  accounted : Errand.effect.Accounted handled core

namespace Settles

variable {received handled : List LiveEvent} {event : LiveEvent} {core core' : Core}

/-- A step that touches neither channel nor history, nor effects nor tasks. -/
theorem same (h : Settles received handled core) (hscope : core'.scope = core.scope)
    (hreceived : core'.received = core.received)
    (heffects : core'.nextEffect = core.nextEffect ∧ core'.effects = core.effects)
    (htasks : core'.tasks = core.tasks) : Settles received handled core' := by
  refine ⟨h.queued.same hscope hreceived, hreceived.trans h.taken, ?_⟩
  have haccounted := h.accounted
  unfold Errand.Accounted Errand.issued Errand.carried Errand.delivered Errand.rows at *
  dsimp only at *
  rw [hscope, heffects.1, heffects.2, htasks]
  exact haccounted

theorem deed (h : Settles received handled core) (hdeed : Deed core core') :
    Settles received handled core' :=
  ⟨h.queued.deed hdeed, hdeed.books.2.1.trans h.taken, h.accounted.deed hdeed⟩

theorem wind (h : Settles received handled core) (hwind : Wind core core') :
    Settles received handled core' := by
  cases hwind with
  | turned => exact h.deed .turned
  | counted => exact h.deed .counted
  | refused hplain => exact h.deed (.sent hplain)
  | aborted task => exact h.deed (.aborted task)
  | gateStopped hgate => exact h.deed (.gateStopped hgate)
  | halted generation => exact h.same rfl rfl ⟨rfl, rfl⟩ rfl

/-- An event that delivers no outcome has none settled. -/
theorem passes (h : Settles received handled core)
    (hnone : Errand.effect.delivered? event = none) : Settles received (handled ++ [event]) core := by
  refine ⟨h.queued, h.taken, ?_⟩
  unfold Errand.Accounted
  rw [List.filterMap_append, List.filterMap_cons_none hnone, List.filterMap_nil, List.append_nil]
  exact h.accounted

theorem discard (h : Settles received handled core) (completion : Option Nat) :
    Settles received handled (core.discard completion) := by
  have hreceived := received_discard core completion
  cases completion with
  | none => exact h
  | some completion => exact h.same rfl hreceived ⟨rfl, rfl⟩ rfl

theorem take (h : Settles handled handled core) {channel : List LiveEvent}
    (hchannel : core.scope.channel = event :: channel) : Settles (handled ++ [event]) handled
      ((core.withScope { core.scope with channel }).observed (.received event)) := by
  refine ⟨h.queued.take hchannel, ?_, h.accounted⟩
  rw [received_observed]
  exact congrArg (· ++ [event]) h.taken

/-- The outcome at hand finds its effect, whose row is closed. -/
theorem settle {id : Nat} {outcome : ErasedOutcome}
    (h : Settles (handled ++ [.effectOutcome id outcome]) handled core) :
    (∃ effect, core.effects.find? (·.id = id) = some effect) ∧
      Settles (handled ++ [.effectOutcome id outcome]) (handled ++ [.effectOutcome id outcome])
        { core with effects := core.effects.eraseP (·.id = id) } := by
  have hnumber : Errand.effect.delivered? (.effectOutcome id outcome) = some id := rfl
  obtain ⟨hmem, hcustody⟩ := Custody.settle h.accounted (h.queued.next h.taken hnumber)
  refine ⟨?_, h.queued.same rfl rfl, h.taken, ?_⟩
  · obtain ⟨effect, heffect, hid⟩ := List.mem_map.mp hmem
    exact Option.isSome_iff_exists.mp (List.find?_isSome.mpr ⟨effect, heffect, decide_eq_true hid⟩)
  · unfold Errand.Accounted
    rw [List.filterMap_append]
    show Custody _ _ _ _ ((core.effects.eraseP _).map _)
    rw [Table.map_eraseP]
    exact hcustody

end Settles

/-- Failures do not matter here: nothing is promised of a run that fails. -/
def Anyhow (_ : Stop) (_ : Core) : Prop := True

section Settling

variable {received handled : List LiveEvent}

theorem Moves.settles {α : Type} {x : Owner α} (h : Moves Wind x) :
    Triple (Settles received handled) x (fun _ => Settles received handled) Anyhow :=
  Exec.triple_of_follows (fun core _ => h core) (fun _ _ hsettles hwind => hsettles.wind hwind)
    fun _ _ _ _ _ => trivial

theorem failing_anyhow {P : Core → Prop} {action : Owner Unit} {Q : Unit → Core → Prop}
    (h : Triple P action Q Anyhow) : Triple P (failing action) Q Anyhow := by
  refine failing_triple h fun error => ?_
  refine Exec.triple_bind (Q := fun _ _ => True) (fun _ _ => trivial) fun _ => ?_
  refine Exec.triple_bind (Q := fun _ _ => True) (fun core _ => ?_) fun _ =>
    Exec.triple_throw fun _ _ => trivial
  obtain ⟨core', _, ⟨hrun, _⟩ | ⟨hrun, _⟩⟩ := cleanupAbort_run core <;> rw [hrun] <;> trivial

/-- What Cancel does with an event settles the outcome that it may bring. -/
theorem retain_settles (event : LiveEvent) :
    Triple (Settles (handled ++ [event]) handled) (retainPreCancelEffectOutcome event)
      (fun _ => Settles (handled ++ [event]) (handled ++ [event])) Anyhow := by
  cases event with
  | effectOutcome id outcome =>
      have hprocessed : Triple (Settles (handled ++ [.effectOutcome id outcome]) handled)
          (processEffect id outcome) (fun _ => Settles (handled ++ [.effectOutcome id outcome])
            (handled ++ [.effectOutcome id outcome])) Anyhow := by
        intro core h
        obtain ⟨⟨effect, hfound⟩, hsettled⟩ := h.settle
        rw [processEffect_some hfound]
        exact (winds_deliverOutcome effect outcome).settles _ hsettled
      exact hprocessed
  | _ => exact fun core h => (h.passes rfl).discard _

/-- All is settled but what the owner may have in its hand. -/
def Balanced (hand : Option LiveEvent) (core : Core) : Prop :=
  ∃ handled, Settles (handled ++ hand.toList) handled core

theorem Moves.balanced {α : Type} {x : Owner α} (h : Moves Wind x) :
    Triple (Balanced none) x (fun _ => Balanced none) Anyhow := by
  rintro core ⟨handled, hsettles⟩
  have hrun := h.settles core hsettles
  cases hres : x.run core with
  | ok value core' =>
      rw [hres] at hrun
      exact ⟨handled, hrun⟩
  | error stop core' => trivial

theorem retain_balanced (event : LiveEvent) : Triple (Balanced (some event))
    (retainPreCancelEffectOutcome event) (fun _ => Balanced none) Anyhow := by
  rintro core ⟨handled, hsettles⟩
  have hrun := retain_settles event core hsettles
  cases hres : (retainPreCancelEffectOutcome event).run core with
  | ok value core' =>
      rw [hres] at hrun
      refine ⟨handled ++ [event], ?_⟩
      rw [Option.toList_none, List.append_nil]
      exact hrun
  | error stop core' => trivial

theorem retainFirst_balanced (first : Option LiveEvent) :
    Triple (Balanced first) (retainFirst first) (fun _ => Balanced none) Anyhow := by
  cases first with
  | none => exact Exec.triple_pure fun _ h => h
  | some event => exact failing_anyhow (retain_balanced event)

theorem tryRecv_balanced : Triple (Balanced none) tryRecv Balanced Anyhow := by
  rintro core ⟨handled, hsettles⟩
  rw [Option.toList_none, List.append_nil] at hsettles
  have hturned := hsettles.deed .turned
  rcases tryRecv_run core with ⟨_, hrun⟩ | ⟨event, channel, hchannel, hrun⟩
  · rw [hrun]
    refine ⟨handled, ?_⟩
    rw [Option.toList_none, List.append_nil]
    exact hturned
  · rw [hrun]
    exact ⟨handled, hturned.take hchannel⟩

theorem retainQueued_balanced (fuel : Nat) :
    Triple (Balanced none) (retainQueued fuel) (fun _ => Balanced none) Anyhow := by
  rw [takes_retainQueued.loop]
  refine Exec.triple_bind (Exec.triple_loop (Q := fun _ => Balanced none) ?_ (fun _ _ => trivial) fuel)
    fun _ => Exec.triple_pure fun _ h => h
  refine Exec.triple_bind tryRecv_balanced fun event => ?_
  cases event with
  | none => exact Exec.triple_pure fun _ h => h
  | some event =>
      exact Exec.triple_bind (failing_anyhow (retain_balanced event)) fun _ =>
        Exec.triple_pure fun _ h => h

theorem tryJoinNext_balanced : Triple (Balanced none) tryJoinNext (fun _ => Balanced none) Anyhow := by
  rintro core ⟨handled, hsettles⟩
  have hturned := hsettles.deed .turned
  rcases tryJoinNext_run core with ⟨_, hrun⟩ | ⟨exit, finished, _, hrun⟩
  · rw [hrun]
    exact ⟨handled, hturned⟩
  · rw [hrun]
    exact ⟨handled, hturned.same rfl rfl ⟨rfl, rfl⟩ rfl⟩

theorem joinFinished_balanced (fuel : Nat) :
    Triple (Balanced none) (joinFinished fuel) (fun _ => Balanced none) Anyhow := by
  rw [takes_joinFinished.loop]
  refine Exec.triple_bind (Exec.triple_loop (Q := fun _ => Balanced none) ?_ (fun _ _ => trivial) fuel)
    fun _ => Exec.triple_pure fun _ h => h
  refine Exec.triple_bind tryJoinNext_balanced fun exit => ?_
  cases exit with
  | none => exact Exec.triple_pure fun _ h => h
  | some exit =>
      exact Exec.triple_bind (failing_anyhow (winds_joinTask exit).balanced) fun _ =>
        Exec.triple_pure fun _ h => h

theorem stopSourcesForCancel_balanced (sources : List ActiveSource) :
    Triple (Balanced none) (stopSourcesForCancel sources) (fun _ => Balanced none) Anyhow := by
  induction sources with
  | nil => exact Exec.triple_pure fun _ h => h
  | cons source sources ih =>
      exact Exec.triple_bind winds_nextWork.balanced fun work =>
        Exec.triple_bind (failing_anyhow (winds_stopSource source work).balanced) fun _ => ih

end Settling

/-! ## The clean-up leaves nothing -/

theorem Ending.journal {core core' : Core} (h : Ending core core') : core'.journal = core.journal := by
  cases h with
  | turned => exact (turn_beside core).journal
  | requestsDropped =>
      have hsame := waits_journal
        (waits_dropRequests ({ core with requests := [] } : Core) core.requests)
      exact hsame
  | channelDropped =>
      have hsame := waits_journal
        (waits_dropEvents (core.withScope { core.scope with channel := [] }) core.scope.channel)
      exact hsame
  | _ => rfl

/-- Whatever happens beside a shut owner, its tasks do not come back. -/
theorem Still.idle {base core : Core} (h : Still base core) (hload : base.load = 0) :
    core.tasks = [] ∧ core.finished = [] := by
  have hnone : core.tasks.length + core.finished.length ≤ 0 := hload ▸ h.load
  exact ⟨List.eq_nil_of_length_eq_zero (by omega), List.eq_nil_of_length_eq_zero (by omega)⟩

theorem Core.Vacant.closed {core : Core} (h : core.Vacant)
    (hshut : core.scope.phase.admits = false) : core.closed.Vacant := by
  have hstill : Still core core.turn := (Still.refl hshut).turn
  have hload : core.load = 0 := by
    unfold Core.load
    rw [h.tasks, h.finished]
    rfl
  have hidle := hstill.idle hload
  have hchannel : core.turn.scope.channel = [] := List.suffix_nil.mp (h.channel ▸ hstill.channel)
  have hcleared := h.cleared.beside (turn_beside core)
  exact ⟨⟨hcleared.sources, hcleared.effects, hcleared.timers, hcleared.requests⟩, hidle.1, hidle.2,
    hchannel⟩

/-! ## The end of a Cancel -/

/-- What `run` does until it has drained, or cleans up after a Cancel; `true` says
    which. -/
def windUp (fuel : Nat) : Owner Bool := do
  let (finish, left) ← runRounds fuel
  match finish with
  | .drained => pure false
  | .cancel first => do
      retainFirst first
      retainQueued left
      joinFinished left
      let core ← get
      stopSourcesForCancel core.sources
      pure true

/-- What `run` does last in a Cancel. -/
def cleanUp : Owner Unit := do
  cleanupAbort
  closeScope

/-- A run is one of `windUp`, with the clean-up after a Cancel. -/
theorem run_windUp (fuel : Nat) :
    run fuel = windUp fuel >>= fun cancelled => if cancelled then cleanUp else pure () := by
  rw [run_eq]
  unfold windUp
  rw [bind_assoc]
  refine bind_congr fun result => ?_
  obtain ⟨finish, left⟩ := result
  cases finish with
  | drained => rfl
  | cancel first =>
      show finishCancel left first = _
      rw [finishCancel_eq]
      simp only [closeDown, cleanUp, bind_assoc, pure_bind, if_true]

/-- What a run that Cancel has ended well has made of what it had accepted;
    `reached` is where it began to clean up. -/
structure WoundUp (reached core : Core) : Prop where
  closed : core.scope.phase = .closed
  /-- Nothing was accepted after Cancel. -/
  last : ∃ earlier, core.scope.sent = earlier ++ [.shutdown .cancel]
  /-- Every event that was accepted has been taken, in order, and before the
      clean-up. -/
  received : reached.received = core.scope.sent ∧ core.received = core.scope.sent
  /-- An effect has delivered one outcome at most, whose row is closed when the
      clean-up begins; what it finds and aborts are the effects that have
      delivered none. -/
  once : (Errand.effect.delivered core).Nodup
  aborted : ∀ id, id ∈ reached.effects.map (·.id) ↔
    id < core.nextEffect ∧ id ∉ Errand.effect.delivered core
  /-- Every task is joined, and nothing is left. -/
  vacant : core.Vacant

/-- Cancel starts with the books up to date. -/
theorem balanced_of_cancelled {first : Option LiveEvent} {core : Core}
    (h : Conduct.Cancelled Ledger first core) : Balanced first core := by
  obtain ⟨hand, hlays, hheld, _⟩ := h
  obtain ⟨_, handled, hbooked⟩ := hheld.inv
  have hsettles : Settles (handled ++ hand.toList) handled core :=
    ⟨hbooked.queued, hbooked.taken, hbooked.accounted .effect⟩
  cases hlays with
  | holds hand => exact ⟨handled, hsettles⟩
  | marker =>
      refine ⟨handled ++ [.shutdown .cancel], ?_⟩
      rw [Option.toList_none, List.append_nil]
      exact hsettles.passes rfl

/-- What the state in which the clean-up starts says of the end. -/
theorem woundUp_of_cleanup {core reached : Core} (hshut : reached.scope.phase.admits = false)
    (hlast : ∃ earlier, reached.scope.sent = earlier ++ [.shutdown .cancel])
    (hchannel : reached.scope.channel = []) (hbalanced : Balanced none reached)
    (hrun : cleanUp.run reached = .ok () core) : WoundUp reached core := by
  obtain ⟨_, core₁, hcleanup, hclose⟩ := Exec.run_bind_eq_ok.mp hrun
  obtain ⟨core₂, hpath, ⟨hcleaned, hvacant⟩ | ⟨hwaits, _⟩⟩ := cleanupAbort_run reached
  · have hsame := hcleaned.symm.trans hcleanup
    injection hsame with _ hsame
    subst hsame
    have hclosed : EStateM.Result.ok () core₂.closed =
        (EStateM.Result.ok () core : EStateM.Result Stop Core Unit) := hclose
    injection hclosed with _ hclosed
    subst hclosed
    -- The clean-up accepts nothing and observes nothing.
    have hstill : Still reached core₂ := (Still.refl hshut).endings hpath
    have hend : Still reached core₂.closed :=
      hstill.turn.called .close rfl rfl ⟨rfl, rfl, rfl, rfl⟩ le_rfl
    have hjournal : core₂.closed.journal = reached.journal := by
      have hkept : core₂.journal = reached.journal := @Exec.path_preserves _ Ending
        (fun core => core.journal = reached.journal)
        (fun _ _ hsame hending => hending.journal.trans hsame) _ _ hpath rfl
      exact (turn_beside core₂).journal.trans hkept
    -- The channel is empty, so all that was accepted has been handled.
    obtain ⟨handled, hsettles⟩ := hbalanced
    rw [Option.toList_none, List.append_nil] at hsettles
    have hsent : reached.scope.sent = handled := by
      rw [hsettles.queued.sent, hsettles.taken, hchannel, List.append_nil]
    refine ⟨rfl, ?_, ⟨?_, ?_⟩, ?_, fun id => ?_, hvacant.closed hstill.shut⟩
    · rw [hend.sent]
      exact hlast
    · rw [hend.sent, hsettles.taken, hsent]
    · rw [received_of_journal hjournal, hend.sent, hsettles.taken, hsent]
    · unfold Errand.delivered
      rw [hend.sent]
      exact hsettles.accounted.carriage.delivered_nodup
    · have hdelivered : Errand.effect.delivered core₂.closed =
          handled.filterMap Errand.effect.delivered? := by
        unfold Errand.delivered
        rw [hend.sent, hsent]
      rw [hend.issued.1, hdelivered]
      exact hsettles.accounted.opened id
  · rw [hwaits] at hcleanup
    cases hcleanup

/-- An owner that has drained was not cancelled. -/
theorem not_cancelled_of_drained {core : Core} (h : Conduct.Drained Ledger core) :
    .shutdown .cancel ∉ core.scope.sent := by
  obtain ⟨reached, hheld, hspent, rfl⟩ := h
  have hphase : ({ reached with sources := [] } : Core).turn.scope.phase = .draining :=
    @Deed.phase _ _ _ .turned _ (hheld.base.draining hspent.draining) (by simp)
  have hopen : ({ reached with sources := [] } : Core).turn.scope.Open :=
    Scope.Open.beats hheld.opened (turn_beats { reached with sources := [] })
  -- Closing accepts nothing, and a Cancel would have left its phase.
  have hsent : (({ reached with sources := [] } : Core).closed).scope.sent =
      ({ reached with sources := [] } : Core).turn.scope.sent := by
    rcases ({ reached with sources := [] } : Core).turn.scope.called_appends .close with
      ⟨_, _, hsame⟩ | ⟨_, _, hsame⟩
    · exact hsame.trans (List.append_nil _)
    · exact hsame
  rw [hsent]
  intro hmem
  rw [← hopen.announced .cancel, hphase] at hmem
  cases hmem

/-- A Cancel that has come to the clean-up. -/
theorem woundUp_of_cancelled {left : Nat} {first : Option LiveEvent}
    {start core₁ core₂ core₃ reached core : Core}
    (hcancelled : Conduct.Cancelled Ledger first start)
    (hfirst : (retainFirst first).run start = .ok () core₁)
    (hretain : (retainQueued left).run core₁ = .ok () core₂)
    (hjoin : (joinFinished left).run core₂ = .ok () core₃)
    (hstop : (stopSourcesForCancel core₃.sources).run core₃ = .ok () reached)
    (hrun : cleanUp.run reached = .ok () core) : WoundUp reached core := by
  have hbalanced := balanced_of_cancelled hcancelled
  obtain ⟨hand, _, hheld, hphase⟩ := hcancelled
  have hshut : start.scope.phase.admits = false := admits_of_cancelling hphase
  -- Nothing but cleaning up happens on the way, so the channel stays empty.
  have hstill₁ : Still start core₁ := (still_retainFirst first).ok (.refl hshut) hfirst
  have hstill₂ := (still_retainQueued left).ok hstill₁ hretain
  have hstill₃ := (still_joinFinished left).ok (Still.refl hstill₂.1.shut) hjoin
  have hstill₅ : Still core₂ reached :=
    (still_stopSourcesForCancel core₃.sources).ok hstill₃.1 hstop
  have hchannel : reached.scope.channel = [] := List.suffix_nil.mp (hstill₂.2 ▸ hstill₅.channel)
  -- On the way every outcome is settled.
  have hbalanced₁ := (retainFirst_balanced first).ok hbalanced hfirst
  have hbalanced₂ := (retainQueued_balanced left).ok hbalanced₁ hretain
  have hbalanced₃ := (joinFinished_balanced left).ok hbalanced₂ hjoin
  have hbalanced₅ := (stopSourcesForCancel_balanced core₃.sources).ok hbalanced₃ hstop
  refine woundUp_of_cleanup hstill₅.shut ?_ hchannel hbalanced₅ hrun
  rw [hstill₅.sent, hstill₂.1.sent]
  exact hheld.opened.last hphase

/-- A run of a live runtime that Cancel has ended without a fault comes to a state
    in which it begins to clean up.  It has taken every event that was accepted
    by then, and settled every outcome that was delivered; the rest it aborts,
    and it leaves nothing behind. -/
theorem cancel_completes {program : Program} {bindings : Bindings} {schedule : List (List Activity)}
    {fuel : Nat} {core : Core} (hrun : launch program bindings schedule fuel = .ok () core)
    (hcancel : .shutdown .cancel ∈ core.scope.sent) :
    ∃ reached, (windUp fuel).run (Core.fresh program bindings schedule) = .ok true reached ∧
      cleanUp.run reached = .ok () core ∧ WoundUp reached core := by
  unfold launch at hrun
  rw [run_windUp] at hrun
  obtain ⟨cancelled, reached, hwind, hrest⟩ := Exec.run_bind_eq_ok.mp hrun
  have hpath := hwind
  obtain ⟨⟨finish, left⟩, start, hrounds, hwind⟩ := Exec.run_bind_eq_ok.mp hwind
  have hcomes := (ledger_conduct.runRounds_triple fuel).ok
    (.fresh (Ledger.fresh program bindings schedule)) hrounds
  cases finish with
  | drained =>
      cases hwind
      cases hrest
      exact absurd hcancel (not_cancelled_of_drained hcomes.2)
  | cancel first =>
      obtain ⟨_, core₁, hfirst, hwind⟩ := Exec.run_bind_eq_ok.mp hwind
      obtain ⟨_, core₂, hretain, hwind⟩ := Exec.run_bind_eq_ok.mp hwind
      obtain ⟨_, core₃, hjoin, hwind⟩ := Exec.run_bind_eq_ok.mp hwind
      rw [Exec.run_bind_ok (EStateM.run_get core₃)] at hwind
      obtain ⟨_, core₅, hstop, hwind⟩ := Exec.run_bind_eq_ok.mp hwind
      cases hwind
      exact ⟨_, hpath, hrest, woundUp_of_cancelled hcomes hfirst hretain hjoin hstop hrest⟩

end Live

end Samara

namespace Samara.Live

attribute [local instance] Sample.types

theorem cancelled_of_any {events : List LiveEvent} (h : events.any LiveEvent.isCancel = true) :
    .shutdown .cancel ∈ events := by
  obtain ⟨event, hmem, hcancel⟩ := List.any_eq_true.mp h
  match event with
  | .shutdown .cancel => exact hmem

theorem cancel_completes_clerk :
    ∃ reached, (windUp 10).run (Core.fresh clerkProgram ⟨[()], []⟩ closingTime) = .ok true reached ∧
      cleanUp.run reached = .ok () (Exec.final (launch clerkProgram ⟨[()], []⟩ closingTime 10)) ∧
        WoundUp reached (Exec.final (launch clerkProgram ⟨[()], []⟩ closingTime 10)) :=
  cancel_completes (eq_ok_of_returns (by decide +kernel)) (cancelled_of_any (by decide +kernel))

end Samara.Live
