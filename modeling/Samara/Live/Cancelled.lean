/-
  Samara.Live.Cancelled

  What Cancel promises.  Once it has been accepted the owner task ends by
  itself, whatever happens beside it: it begins no transition and issues
  nothing more.  If it ends well, every event that was accepted has been taken,
  the last of them is the marker of Cancel, every outcome that an effect had
  delivered has been handed to its mapper, and nothing is left running.
-/
import Samara.Live.Drained
import Samara.Live.Still

namespace Samara

open Exec (Triple)
open Relation (ReflTransGen)

variable [RustTypes]

namespace Live

/-! ## Computations that need no fuel -/

/-- `x` does not run out of fuel, whatever it is run on. -/
abbrev Sure {α : Type} (x : Owner α) : Prop :=
  Triple (fun _ => True) x (fun _ _ => True) fun stop _ => stop ≠ .outOfFuel

theorem Sure.ne {α : Type} {x : Owner α} (h : Sure x) (core core' : Core) :
    x.run core ≠ .error .outOfFuel core' := by
  intro hrun
  have hstop := h core trivial
  rw [hrun] at hstop
  exact hstop rfl

theorem Moves.sure {α : Type} {R : Core → Core → Prop} {x : Owner α} (h : Moves R x) : Sure x :=
  Exec.triple_of_follows (fun core _ => h core) (fun _ _ _ _ => trivial)
    fun _ _ _ _ hexit => hexit.ne_outOfFuel

/-- A computation that always returns. -/
theorem sure_step {α : Type} {x : Owner α} {value : Core → α} {next : Core → Core}
    (hrun : ∀ core, x.run core = .ok (value core) (next core)) : Sure x := by
  intro core _
  rw [hrun core]
  trivial

theorem sure_cleanupAbort : Sure cleanupAbort := by
  intro core _
  obtain ⟨core', _, ⟨hrun, _⟩ | ⟨hrun, _⟩⟩ := cleanupAbort_run core
  · rw [hrun]
    trivial
  · rw [hrun]
    simp

theorem sure_failing {action : Owner Unit} (h : Sure action) : Sure (failing action) := by
  refine failing_triple h fun error => ?_
  have hend : Sure (do
      faultScope error
      cleanupAbort
      throw (.error error) : Owner Unit) :=
    Exec.triple_bind (sure_step fun _ => rfl) fun _ =>
      Exec.triple_bind sure_cleanupAbort fun _ => Exec.triple_throw fun _ _ => by simp
  exact fun core _ => hend core trivial

theorem sure_tryRecv : Sure tryRecv := by
  intro core _
  rcases tryRecv_run core with ⟨_, hrun⟩ | ⟨event, channel, _, hrun⟩
  · rw [hrun]
    trivial
  · rw [hrun]
    trivial

theorem sure_tryJoinNext : Sure tryJoinNext := by
  intro core _
  rcases tryJoinNext_run core with ⟨_, hrun⟩ | ⟨exit, finished, _, hrun⟩
  · rw [hrun]
    trivial
  · rw [hrun]
    trivial

theorem sure_beginDrain : Sure beginDrain := by
  refine Exec.triple_bind (sure_step fun _ => rfl) fun core => ?_
  refine Exec.triple_ite (fun _ => Exec.triple_pure fun _ h => h) fun _ => ?_
  exact Exec.triple_bind (sure_step fun _ => rfl) fun _ => (moves_stopSourcesForDrain _).sure

theorem sure_dispatch (event : LiveEvent) : Sure (dispatch event) := by
  cases event with
  | shutdown mode => exact sure_beginDrain
  | _ => exact (moves_dispatch (by simp)).sure

theorem sure_ownerRound : Sure ownerRound := by
  have hagain {action : Owner Unit} (h : Sure action) : Sure (do
      failing action
      pure none : Owner (Option Finish)) :=
    Exec.triple_bind (sure_failing h) fun _ => Exec.triple_pure fun _ h => h
  refine Exec.triple_bind moves_isCancelling.sure fun cancelling => ?_
  refine Exec.triple_ite (fun _ => Exec.triple_pure fun _ h => h) fun _ => ?_
  refine Exec.triple_bind (sure_failing moves_observeDrainCutoff.sure) fun _ => ?_
  refine Exec.triple_bind (sure_step fun _ => rfl) fun finished => ?_
  refine Exec.triple_ite (fun _ => ?_) fun _ => ?_
  · exact Exec.triple_bind (sure_step fun _ => rfl) fun _ =>
      Exec.triple_bind (sure_step fun _ => rfl) fun _ => Exec.triple_pure fun _ h => h
  · refine Exec.triple_bind sure_tryJoinNext fun exit => ?_
    cases exit with
    | some exit => exact hagain (moves_joinTask exit).sure
    | none =>
        refine Exec.triple_bind sure_tryRecv fun event => ?_
        cases event with
        | none => exact Exec.triple_pure fun _ h => h
        | some event =>
            refine Exec.triple_bind moves_isCancelling.sure fun cancelling => ?_
            refine Exec.triple_ite (fun _ => Exec.triple_pure fun _ h => h) fun _ => ?_
            cases event with
            | shutdown mode =>
                cases mode with
                | cancel => exact Exec.triple_pure fun _ h => h
                | drain => exact hagain (sure_dispatch _)
            | _ => exact hagain (sure_dispatch _)

/-! ## The loops of Cancel -/

/-- One round of a loop of `finish_cancel`, which takes what there is and handles
    it. -/
def takeRound {α : Type} (next : Owner (Option α)) (handle : α → Owner Unit) :
    Owner (Option Unit) := do
  match ← next with
  | none => pure (some ())
  | some item => do
      failing (handle item)
      pure none

theorem sure_takeRound {α : Type} {next : Owner (Option α)} {handle : α → Owner Unit}
    (hnext : Sure next) (hhandle : ∀ item, Sure (handle item)) : Sure (takeRound next handle) := by
  refine Exec.triple_bind hnext fun item => ?_
  cases item with
  | none => exact Exec.triple_pure fun _ h => h
  | some item =>
      exact Exec.triple_bind (sure_failing (hhandle item)) fun _ => Exec.triple_pure fun _ h => h

/-- `x` is a loop of `finish_cancel`. -/
structure Takes {α : Type} (next : Owner (Option α)) (handle : α → Owner Unit)
    (x : Nat → Owner Unit) : Prop where
  dry : x 0 = throw .outOfFuel
  round : ∀ fuel, x (fuel + 1) = next >>= fun
    | none => pure ()
    | some item => do
        failing (handle item)
        x fuel

theorem takes_retainQueued : Takes tryRecv retainPreCancelEffectOutcome retainQueued := by
  refine ⟨rfl, fun fuel => bind_congr fun event => ?_⟩
  cases event <;> rfl

theorem takes_joinFinished : Takes tryJoinNext joinTask joinFinished := by
  refine ⟨rfl, fun fuel => bind_congr fun exit => ?_⟩
  cases exit <;> rfl

namespace Takes

variable {α : Type} {next : Owner (Option α)} {handle : α → Owner Unit} {x : Nat → Owner Unit}
  {fuel more : Nat} {core core' : Core}

theorem loop (h : Takes next handle x) (fuel : Nat) :
    x fuel = Exec.loop .outOfFuel (takeRound next handle) fuel >>= fun _ => pure () := by
  induction fuel with
  | zero => exact h.dry
  | succ fuel ih =>
      rw [h.round]
      unfold Exec.loop takeRound
      rw [bind_assoc, bind_assoc]
      refine bind_congr fun item => ?_
      cases item with
      | none => rfl
      | some item =>
          dsimp only
          rw [bind_assoc]
          exact bind_congr fun _ => ih

/-- It goes on where it has run out of fuel. -/
theorem resumes (h : Takes next handle x) (hsure : Sure (takeRound next handle))
    (hrun : (x fuel).run core = .error .outOfFuel core') :
    (x (fuel + more)).run core = (x more).run core' := by
  rw [h.loop, EStateM.run_bind] at hrun
  rw [h.loop, h.loop, EStateM.run_bind, EStateM.run_bind]
  cases hloop : (Exec.loop .outOfFuel (takeRound next handle) fuel).run core with
  | ok value reached =>
      rw [hloop] at hrun
      cases hrun
  | error stop reached =>
      rw [hloop] at hrun
      cases hrun
      rw [Exec.loop_resumes hsure.ne hloop]

/-- Once it is over it does not need more fuel. -/
theorem suffices_more (h : Takes next handle x) (hrun : (x fuel).run core = .ok () core') :
    (x (fuel + more)).run core = .ok () core' := by
  rw [h.loop, EStateM.run_bind] at hrun ⊢
  cases hloop : (Exec.loop .outOfFuel (takeRound next handle) fuel).run core with
  | error stop reached =>
      rw [hloop] at hrun
      cases hrun
  | ok value reached =>
      rw [hloop] at hrun
      cases hrun
      rw [Exec.loop_extends hloop]
      rfl

end Takes

/-! ## A shut owner cleans up -/

/-- How a computation of a shut owner fails. -/
def Ceases (base : Core) (stop : Stop) (core : Core) : Prop := Still base core ∧ stop ≠ .outOfFuel

section Shut

variable {base : Core}

theorem Moves.still {α : Type} {x : Owner α} (h : Moves Wind x) :
    Triple (Still base) x (fun _ => Still base) (Ceases base) :=
  Exec.triple_of_follows (fun core _ => h core) (fun _ _ hstill hwind => hstill.wind hwind)
    fun _ _ _ hstill hexit => ⟨hstill.exit hexit, hexit.ne_outOfFuel⟩

theorem Still.endings {core core' : Core} (h : Still base core)
    (hpath : ReflTransGen Ending core core') : Still base core' :=
  @Exec.path_preserves _ Ending (Still base) (fun _ _ hstill hending => hstill.ending hending)
    _ _ hpath h

theorem still_cleanupAbort :
    Triple (Still base) cleanupAbort (fun _ => Still base) (Ceases base) := by
  intro core h
  obtain ⟨core', hpath, ⟨hrun, _⟩ | ⟨hrun, _⟩⟩ := cleanupAbort_run core
  · rw [hrun]
    exact h.endings hpath
  · rw [hrun]
    exact ⟨h.endings hpath, by simp⟩

/-- A call of the scope that is not refused appends nothing. -/
theorem still_called {E : Stop → Core → Prop} (call : ScopeCall) : Triple (Still base) (do
    turn
    modify fun core => core.withScope (core.scope.called call)) (fun _ => Still base) E :=
  fun _ h => h.turn.called call rfl rfl ⟨rfl, rfl, rfl, rfl⟩ le_rfl

theorem still_failing {P : Core → Prop} {action : Owner Unit} {Q : Unit → Core → Prop}
    (h : Triple P action Q (Ceases base)) : Triple P (failing action) Q (Ceases base) := by
  refine failing_triple h fun error => ?_
  refine Exec.triple_conseq (P := Still base) ?_ (fun _ h => h.1) (fun _ _ h => h) fun _ _ h => h
  exact Exec.triple_bind (still_called (.fault error)) fun _ =>
    Exec.triple_bind still_cleanupAbort fun _ => Exec.triple_throw fun _ h => ⟨h, by simp⟩

theorem still_retain (event : LiveEvent) :
    Triple (Still base) (retainPreCancelEffectOutcome event) (fun _ => Still base) (Ceases base) := by
  cases event with
  | effectOutcome id outcome =>
      have hprocessed : Triple (Still base) (processEffect id outcome) (fun _ => Still base)
          (Ceases base) := by
        intro core h
        cases hfound : core.effects.find? (·.id = id) with
        | none =>
            rw [processEffect_none hfound]
            exact h
        | some effect =>
            rw [processEffect_some hfound]
            exact (winds_deliverOutcome effect outcome).still _
              (h.frame rfl rfl ⟨rfl, rfl, rfl, rfl⟩ le_rfl)
      exact hprocessed
  | _ => exact fun core h => h.discard _

/-- What is left when there was something to take, or nothing. -/
def Spends {α : Type} (used : Core → Nat) (Q : Core → Prop) (base : Core) : Option α → Core → Prop
  | none, core => Still base core ∧ Q core
  | some _, core => Still base core ∧ used core < used base

/-- What is taken off the channel is one event less. -/
theorem still_tryRecv : Triple (Still base) tryRecv
    (Spends (·.scope.channel.length) (·.scope.channel = []) base) (Ceases base) := by
  intro core h
  rcases tryRecv_run core with ⟨hempty, hrun⟩ | ⟨event, channel, hchannel, hrun⟩
  · rw [hrun]
    exact ⟨h.turn, hempty⟩
  · rw [hrun]
    have hsuffix : channel <:+ core.turn.scope.channel := hchannel ▸ List.suffix_cons event channel
    have htaken : Still base (core.turn.withScope { core.turn.scope with channel }) :=
      h.turn.trans ⟨h.turn.shut, rfl, hsuffix, ⟨[], (List.append_nil _).symm, nofun⟩,
        ⟨rfl, rfl, rfl, rfl⟩, le_rfl⟩
    refine ⟨htaken.observed rfl, ?_⟩
    have hlength := h.turn.channel.length_le
    rw [hchannel, List.length_cons] at hlength
    exact hlength

/-- A task that is joined is one task less. -/
theorem still_tryJoinNext : Triple (Still base) tryJoinNext
    (Spends Core.load (fun _ => True) base) (Ceases base) := by
  intro core h
  rcases tryJoinNext_run core with ⟨_, hrun⟩ | ⟨exit, finished, hfinished, hrun⟩
  · rw [hrun]
    exact ⟨h.turn, trivial⟩
  · rw [hrun]
    have hload : ({ core.turn with finished } : Core).load < core.turn.load := by
      show core.turn.tasks.length + finished.length < core.turn.tasks.length + core.turn.finished.length
      rw [hfinished, List.length_cons]
      omega
    exact ⟨h.turn.frame rfl rfl ⟨rfl, rfl, rfl, rfl⟩ hload.le, hload.trans_le h.turn.load⟩

section Takes

variable {α : Type} {next : Owner (Option α)} {handle : α → Owner Unit} {used : Core → Nat}
  {Q : Core → Prop}

/-- A round of a loop of `finish_cancel` is the last one, or uses something up
    that nothing adds to any more. -/
theorem still_takeRound (hused : ∀ {core core' : Core}, Still core core' → used core' ≤ used core)
    (hnext : Triple (Still base) next (Spends used Q base) (Ceases base))
    (hhandle : ∀ base item, Triple (Still base) (handle item) (fun _ => Still base) (Ceases base)) :
    Triple (Still base) (takeRound next handle)
      (Exec.After (fun core => Still base core ∧ used core < used base)
        fun _ core => Still base core ∧ Q core) (Ceases base) := by
  refine Exec.triple_bind hnext fun item => ?_
  cases item with
  | none => exact Exec.triple_pure fun _ h => h
  | some item =>
      have hhandled : Triple (Spends used Q base (some item)) (handle item)
          (fun _ core => Still base core ∧ used core < used base) (Ceases base) := by
        rintro core ⟨h, hless⟩
        have hrun := hhandle core item core (.refl h.shut)
        cases hres : (handle item).run core with
        | ok value core' =>
            rw [hres] at hrun
            exact ⟨h.trans hrun, (hused hrun).trans_lt hless⟩
        | error stop core' =>
            rw [hres] at hrun
            exact ⟨h.trans hrun.1, hrun.2⟩
      exact Exec.triple_bind (still_failing hhandled) fun _ => Exec.triple_pure fun _ h => h

/-- With fuel for all there is to use up, the loop is done in the end. -/
theorem Takes.still {x : Nat → Owner Unit} (h : Takes next handle x)
    (hused : ∀ {core core' : Core}, Still core core' → used core' ≤ used core)
    (hnext : ∀ base, Triple (Still base) next (Spends used Q base) (Ceases base))
    (hhandle : ∀ base item, Triple (Still base) (handle item) (fun _ => Still base) (Ceases base))
    (fuel : Nat) : Triple (Still base) (x fuel) (fun _ core => Still base core ∧ Q core)
      (fun stop core => Still base core ∧ (used base < fuel → stop ≠ .outOfFuel)) := by
  -- The rounds use up what is left of `used base`.
  have hround (n : Nat) : Triple (fun core => Still base core ∧ used core ≤ n) (takeRound next handle)
      (Exec.After (fun core => ∃ m, m < n ∧ Still base core ∧ used core ≤ m)
        fun _ core => Still base core ∧ Q core) (Ceases base) := by
    rintro core ⟨hstill, hn⟩
    have hrun := still_takeRound hused (hnext core) hhandle core (.refl hstill.shut)
    cases hres : (takeRound next handle).run core with
    | error stop core' =>
        rw [hres] at hrun
        exact ⟨hstill.trans hrun.1, hrun.2⟩
    | ok value core' =>
        rw [hres] at hrun
        cases value with
        | none => exact ⟨used core', hrun.2.trans_le hn, hstill.trans hrun.1, le_rfl⟩
        | some value => exact ⟨hstill.trans hrun.1, hrun.2⟩
  have hfrom : ∀ core, Still base core → Still base core ∧ used core ≤ used base :=
    fun core hstill => ⟨hstill, hused hstill⟩
  rw [h.loop]
  by_cases hfuel : used base < fuel
  · refine Exec.triple_bind (Exec.triple_conseq
      (Exec.triple_loop_uses hround fuel (used base) hfuel) hfrom (fun _ _ hq => hq)
      fun _ _ hceases => ⟨hceases.1, fun _ => hceases.2⟩) fun _ => Exec.triple_pure fun _ hq => hq
  · refine Exec.triple_bind (Exec.triple_loop (Q := fun _ core => Still base core ∧ Q core) ?_ ?_ fuel)
      fun _ => Exec.triple_pure fun _ hq => hq
    · refine Exec.triple_conseq (hround (used base)) hfrom (fun value core hafter => ?_)
        fun _ _ hceases => ⟨hceases.1, fun hless => absurd hless hfuel⟩
      cases value with
      | none =>
          obtain ⟨_, _, hstill, _⟩ := hafter
          exact hstill
      | some value => exact hafter
    · exact fun core hstill => ⟨hstill, fun hless => absurd hless hfuel⟩

end Takes

theorem still_retainQueued (fuel : Nat) : Triple (Still base) (retainQueued fuel)
    (fun _ core => Still base core ∧ core.scope.channel = [])
    (fun stop core => Still base core ∧ (base.scope.channel.length < fuel → stop ≠ .outOfFuel)) :=
  @Takes.still _ base _ _ _ (·.scope.channel.length) _ _ takes_retainQueued
    (fun h => h.channel.length_le) (fun _ => still_tryRecv) (fun _ event => still_retain event) fuel

theorem still_joinFinished (fuel : Nat) : Triple (Still base) (joinFinished fuel)
    (fun _ core => Still base core ∧ True)
    (fun stop core => Still base core ∧ (base.load < fuel → stop ≠ .outOfFuel)) :=
  takes_joinFinished.still (fun h => h.load) (fun _ => still_tryJoinNext)
    (fun _ exit => (winds_joinTask exit).still) fuel

theorem still_stopSourcesForCancel (sources : List ActiveSource) :
    Triple (Still base) (stopSourcesForCancel sources) (fun _ => Still base) (Ceases base) := by
  induction sources with
  | nil => exact Exec.triple_pure fun _ h => h
  | cons source sources ih =>
      exact Exec.triple_bind winds_nextWork.still fun work =>
        Exec.triple_bind (still_failing (winds_stopSource source work).still) fun _ => ih

/-- What `finish_cancel` does after its loops. -/
def closeDown : Owner Unit := do
  let core ← get
  stopSourcesForCancel core.sources
  cleanupAbort
  closeScope

theorem still_closeDown : Triple (Still base) closeDown (fun _ => Still base) (Ceases base) := by
  refine Exec.triple_bind (Q := fun _ => Still base) (fun _ h => h) fun core => ?_
  exact Exec.triple_bind (still_stopSourcesForCancel core.sources) fun _ =>
    Exec.triple_bind still_cleanupAbort fun _ => still_called .close

end Shut

/-! ## Cancel ends by itself -/

/-- A result that is not for want of fuel, before which the owner has done nothing
    but clean up. -/
structure Halts (base : Core) (result : EStateM.Result Stop Core Unit) : Prop where
  still : Still base (Exec.final result)
  ended : ∀ core, result ≠ .error .outOfFuel core

section Halts

variable {base core reached : Core} {fuel fuel' more : Nat} {first : Option LiveEvent}

theorem halts_of_triple {x : Owner Unit}
    (h : Triple (Still base) x (fun _ => Still base) (Ceases base)) (hcore : Still base core) :
    Halts base (x.run core) := by
  have hrun := h core hcore
  cases hres : x.run core with
  | ok value core' =>
      rw [hres] at hrun
      exact ⟨hrun, nofun⟩
  | error stop core' =>
      rw [hres] at hrun
      refine ⟨hrun.1, fun other hother => ?_⟩
      injection hother with hstop
      exact hrun.2 hstop

/-- What is done with the event that the owner has in its hand. -/
def retainFirst : Option LiveEvent → Owner Unit
  | none => pure ()
  | some event => failing (retainPreCancelEffectOutcome event)

theorem finishCancel_eq (fuel : Nat) (first : Option LiveEvent) : finishCancel fuel first =
    retainFirst first >>= fun _ => retainQueued fuel >>= fun _ => joinFinished fuel >>= fun _ =>
      closeDown := by
  cases first <;> rfl

theorem still_retainFirst (first : Option LiveEvent) :
    Triple (Still base) (retainFirst first) (fun _ => Still base) (Ceases base) := by
  cases first with
  | none => exact Exec.triple_pure fun _ h => h
  | some event => exact still_failing (still_retain event)

theorem sure_retainFirst (first : Option LiveEvent) : Sure (retainFirst first) := by
  cases first with
  | none => exact Exec.triple_pure fun _ h => h
  | some event => exact sure_failing (moves_retainPreCancelEffectOutcome event).sure

/-- The second loop has fuel for all tasks. -/
theorem still_join (hfuel : base.load < fuel) : Triple (Still base)
    (joinFinished fuel >>= fun _ => closeDown) (fun _ => Still base) (Ceases base) :=
  Exec.triple_bind (Exec.triple_conseq (still_joinFinished fuel) (fun _ h => h) (fun _ _ h => h.1)
    fun _ _ h => ⟨h.1, h.2 hfuel⟩) fun _ => still_closeDown

/-- The loops have fuel for all events and all tasks. -/
theorem still_queue (hqueue : base.scope.channel.length < fuel) (hfuel : base.load < fuel') :
    Triple (Still base) (retainQueued fuel >>= fun _ => joinFinished fuel' >>= fun _ => closeDown)
      (fun _ => Still base) (Ceases base) :=
  Exec.triple_bind (Exec.triple_conseq (still_retainQueued fuel) (fun _ h => h) (fun _ _ h => h.1)
    fun _ _ h => ⟨h.1, h.2 hqueue⟩) fun _ => still_join hfuel

theorem still_finishCancel (hqueue : base.scope.channel.length < fuel) (hfuel : base.load < fuel) :
    Triple (Still base) (finishCancel fuel first) (fun _ => Still base) (Ceases base) := by
  rw [finishCancel_eq]
  exact Exec.triple_bind (still_retainFirst first) fun _ => still_queue hqueue hfuel

theorem sure_closeDown : Sure closeDown := by
  refine Exec.triple_bind (sure_step fun _ => rfl) fun core => ?_
  refine Exec.triple_bind ?_ fun _ => Exec.triple_bind sure_cleanupAbort fun _ => sure_step fun _ => rfl
  generalize core.sources = sources
  induction sources with
  | nil => exact Exec.triple_pure fun _ h => h
  | cons source sources ih =>
      exact Exec.triple_bind moves_nextWork.sure fun work =>
        Exec.triple_bind (sure_failing (winds_stopSource source work).sure) fun _ => ih

/-- A computation goes on from where its first part goes on. -/
theorem run_bind_congr {α β : Type} {x y : Owner α} {core core' : Core} (f : α → Owner β)
    (h : x.run core = y.run core') : (x >>= f).run core = (y >>= f).run core' := by
  rw [EStateM.run_bind, EStateM.run_bind, h]

theorem joinFinished_halts
    (hrun : (joinFinished fuel >>= fun _ => closeDown).run core = .error .outOfFuel reached)
    (hshut : reached.scope.phase.admits = false) (hmore : reached.load < more) :
    Halts reached ((joinFinished (fuel + more) >>= fun _ => closeDown).run core) := by
  rw [EStateM.run_bind] at hrun
  cases hjoin : (joinFinished fuel).run core with
  | error stop core₁ =>
      rw [hjoin] at hrun
      cases hrun
      have hresumes : (joinFinished (fuel + more)).run core = (joinFinished more).run reached :=
        takes_joinFinished.resumes
          (sure_takeRound sure_tryJoinNext fun exit => (moves_joinTask exit).sure) hjoin
      rw [run_bind_congr _ hresumes]
      exact halts_of_triple (still_join hmore) (.refl hshut)
  | ok value core₁ =>
      rw [hjoin] at hrun
      exact absurd hrun (sure_closeDown.ne core₁ reached)

/-- A Cancel that has run out of fuel ends when it is given more. -/
theorem finishCancel_halts (hrun : (finishCancel fuel first).run core = .error .outOfFuel reached)
    (hshut : reached.scope.phase.admits = false)
    (hqueue : reached.scope.channel.length < more) (hload : reached.load < more) :
    Halts reached ((finishCancel (fuel + more) first).run core) := by
  rw [finishCancel_eq, EStateM.run_bind] at hrun
  rw [finishCancel_eq]
  cases hfirst : (retainFirst first).run core with
  | error stop core₁ =>
      rw [hfirst] at hrun
      cases hrun
      exact absurd hfirst ((sure_retainFirst first).ne core reached)
  | ok value core₁ =>
      rw [hfirst] at hrun
      rw [Exec.run_bind_ok hfirst]
      have hrest : (retainQueued fuel >>= fun _ => joinFinished fuel >>= fun _ => closeDown).run core₁ =
          .error .outOfFuel reached := hrun
      rw [EStateM.run_bind] at hrest
      cases hretain : (retainQueued fuel).run core₁ with
      | error stop core₂ =>
          -- The first loop was still taking events.
          rw [hretain] at hrest
          cases hrest
          have hresumes : (retainQueued (fuel + more)).run core₁ = (retainQueued more).run reached :=
            takes_retainQueued.resumes
              (sure_takeRound sure_tryRecv fun event => (moves_retainPreCancelEffectOutcome event).sure)
              hretain
          rw [run_bind_congr _ hresumes]
          exact halts_of_triple (still_queue hqueue (hload.trans_le (Nat.le_add_left _ _))) (.refl hshut)
      | ok value core₂ =>
          -- The second loop was still joining tasks.
          rw [hretain] at hrest
          rw [Exec.run_bind_ok (takes_retainQueued.suffices_more hretain)]
          exact joinFinished_halts hrest hshut hload

/-- An owner that finds its scope in Cancel, at the beginning of a round. -/
theorem ownerLoop_cancelling (hphase : core.scope.phase = .cancelling) (fuel : Nat) :
    (ownerLoop (fuel + 1)).run core = (finishCancel fuel none).run core.turn := by
  have hturned : core.turn.scope.phase = .cancelling := Deed.turned.phase hphase (by simp)
  have hrun : isCancelling.run core = .ok (decide (core.turn.scope.phase = .cancelling)) core.turn :=
    rfl
  unfold ownerLoop
  rw [Exec.run_bind_ok hrun, decide_eq_true hturned]
  rfl

theorem ownerLoop_halts (hrun : (ownerLoop fuel).run core = .error .outOfFuel reached)
    (hphase : reached.scope.phase = .cancelling)
    (hmore : reached.scope.channel.length + reached.load + 1 < more) :
    Halts reached ((ownerLoop (fuel + more)).run core) := by
  have hshut : reached.scope.phase.admits = false := admits_of_cancelling hphase
  rw [ownerLoop_eq, EStateM.run_bind] at hrun
  cases hloop : (Exec.loop .outOfFuel ownerRound fuel).run core with
  | error stop core₁ =>
      -- The owner was between two rounds, and finds out in the next one.
      rw [hloop] at hrun
      cases hrun
      have hresumes : (ownerLoop (fuel + more)).run core = (ownerLoop more).run reached := by
        rw [ownerLoop_eq, ownerLoop_eq]
        exact run_bind_congr _ (Exec.loop_resumes sure_ownerRound.ne hloop)
      obtain ⟨rounds, rfl⟩ := Nat.exists_eq_add_of_lt hmore
      rw [hresumes]
      have hrounds : reached.scope.channel.length + reached.load + 1 + rounds + 1 =
          (reached.scope.channel.length + reached.load + 1 + rounds) + 1 := rfl
      rw [hrounds, ownerLoop_cancelling hphase]
      exact halts_of_triple (still_finishCancel (by omega) (by omega)) (Still.refl hshut).turn
  | ok result core₁ =>
      rw [hloop] at hrun
      obtain ⟨finish, left⟩ := result
      rw [ownerLoop_eq, Exec.run_bind_ok (Exec.loop_extends hloop)]
      cases finish with
      | cancel first => exact finishCancel_halts hrun hshut (by omega) (by omega)
      | drained => cases hrun

/-- A run in which Cancel has been accepted ends when it is given more fuel. -/
theorem run_halts (hrun : (run fuel).run core = .error .outOfFuel reached)
    (hphase : reached.scope.phase = .cancelling)
    (hmore : reached.scope.channel.length + reached.load + 1 < more) :
    Halts reached ((run (fuel + more)).run core) := by
  have hshut : reached.scope.phase.admits = false := admits_of_cancelling hphase
  have hlook : isCancelling.run core = .ok (decide (core.turn.scope.phase = .cancelling)) core.turn :=
    rfl
  unfold run at hrun ⊢
  rw [Exec.run_bind_ok hlook] at hrun ⊢
  by_cases hcancelling : decide (core.turn.scope.phase = .cancelling) = true
  · rw [if_pos hcancelling] at hrun ⊢
    exact finishCancel_halts hrun hshut (by omega) (by omega)
  · rw [if_neg hcancelling] at hrun ⊢
    rw [EStateM.run_bind] at hrun
    cases hinit : (failing initializeProgram).run core.turn with
    | error stop core₁ =>
        rw [hinit] at hrun
        cases hrun
        exact absurd hinit ((sure_failing moves_initializeProgram.sure).ne _ _)
    | ok value core₁ =>
        rw [hinit] at hrun
        rw [Exec.run_bind_ok hinit]
        exact ownerLoop_halts hrun hphase hmore

end Halts

section Runs

variable {program : Program} {bindings : Bindings} {schedule : List (List Activity)}

/-- Once Cancel has been accepted, the owner task ends by itself, whatever happens
    beside it, unless a task that it has aborted never ends: with more fuel than
    there are events on the channel and tasks to join, it reports, or it waits in
    `cleanup_abort` for aborted tasks that nothing ends any more.  Until then it
    only cleans up: it accepts nothing, begins no transition, issues nothing, and
    takes what is on the channel. -/
theorem cancel_terminates {fuel more : Nat} {core : Core}
    (hrun : launch program bindings schedule fuel = .error .outOfFuel core)
    (hphase : core.scope.phase = .cancelling)
    (hmore : core.scope.channel.length + core.load + 1 < more) :
    Still core (Exec.final (launch program bindings schedule (fuel + more))) ∧
      ((∃ report, reported (launch program bindings schedule (fuel + more)) = some report) ∨
        Hangs (launch program bindings schedule (fuel + more))) := by
  have hhalts : Halts core (launch program bindings schedule (fuel + more)) :=
    run_halts hrun hphase hmore
  refine ⟨hhalts.still, ?_⟩
  cases hres : launch program bindings schedule (fuel + more) with
  | ok value core' => exact .inl ⟨_, rfl⟩
  | error stop core' =>
      cases stop with
      | error error => exact .inl ⟨_, rfl⟩
      | panicked panic => exact .inl ⟨_, rfl⟩
      | outOfFuel => exact absurd hres (hhalts.ended core')
      | joining => exact .inr (by rw [← hres]; exact hangs_of_joining hres)

end Runs

end Live

end Samara

namespace Samara.Live

attribute [local instance] Sample.types

/-- A Message is sent, the effect is over, and Cancel begins; in the clean-up the
    task of the timer ends when it has been aborted. -/
def closingTime : List (List Activity) :=
  List.replicate 12 [] ++ [[
    .send (⟨⟨"clerk"⟩, ⟨7⟩⟩ : ComponentRef ()) (.plain 4),
    .complete 0 ⟨(), (), .succeeded (.plain 9)⟩, .exit 0 .returned, .beginShutdown .cancel]] ++
      List.replicate 20 [] ++ [[.exit 1 .cancelled]]

def starves : EStateM.Result Stop Core Unit → Bool
  | .error .outOfFuel _ => true
  | _ => false

theorem eq_dry_of_starves {result : EStateM.Result Stop Core Unit} (h : starves result = true) :
    result = .error .outOfFuel (Exec.final result) := by
  cases result with
  | ok value core => cases h
  | error stop core =>
      cases stop with
      | outOfFuel => rfl
      | error error => cases h
      | panicked panic => cases h
      | joining => cases h

theorem cancel_terminates_clerk :
    Still (Exec.final (launch clerkProgram ⟨[()], []⟩ closingTime 1))
        (Exec.final (launch clerkProgram ⟨[()], []⟩ closingTime (1 + 7))) ∧
      ∃ report, reported (launch clerkProgram ⟨[()], []⟩ closingTime (1 + 7)) = some report :=
  And.imp_right (fun h => h.resolve_right fun hhangs => absurd hhangs.1 (by decide +kernel))
    (cancel_terminates (eq_dry_of_starves (by decide +kernel)) (by decide +kernel)
      (by decide +kernel))

end Samara.Live
