/-
  Samara.Live.Panics

  Panics of application code on the owner of a live runtime.  Behind a
  `catch_unwind` a panic becomes a fault that the scope stores; outside of one
  it unwinds the owner, and the scope never learns of it.
-/
import Samara.Live.Waiters

namespace Samara

open Exec (Triple)

variable [RustTypes]

namespace Live

/-- Whether an observation is a panic, and then whether it was guarded. -/
def Observation.panic? : Observation → Option Bool
  | .panicked guarded => some guarded
  | _ => none

/-- The panics of application code in a run, `false` where nothing caught them. -/
def Core.panics (core : Core) : List Bool := core.journal.filterMap Observation.panic?

section Steps

variable {core core' : Core}

theorem panics_observed (core : Core) (observation : Observation) :
    (core.observed observation).panics = core.panics ++ observation.panic?.toList := by
  unfold Core.panics
  rw [Core.observed_journal, List.filterMap_append]
  congr 1

theorem panics_of_journal (h : core'.journal = core.journal) : core'.panics = core.panics := by
  unfold Core.panics
  rw [h]

theorem panics_quiet {observation : Observation} (h : observation.panic? = none) :
    (core.observed observation).panics = core.panics := by
  rw [panics_observed, h]
  exact List.append_nil _

theorem panics_discard (core : Core) (completion : Option Nat) :
    (core.discard completion).panics = core.panics := by
  cases completion with
  | none => rfl
  | some completion => exact panics_quiet rfl

/-- Only a panic is recorded as one. -/
theorem Step.panics (h : Step core core') : core'.panics = core.panics := by
  cases h with
  | turned => exact panics_of_journal (turn_beside core).journal
  | privately h => exact panics_of_journal (congrArg Core.journal h :)
  | activated component subscription context =>
      have hturned := panics_of_journal (turn_beside (core.realized component subscription)).journal
      exact (panics_quiet rfl).trans hturned
  | requested => exact panics_quiet rfl
  | mistyped => exact panics_discard _ _
  | continued => exact panics_quiet rfl
  | replied => exact panics_quiet rfl
  | popped => exact panics_discard _ _
  | discarded => exact panics_discard _ _
  | withdrawn => exact panics_quiet rfl
  | retained => exact panics_quiet rfl
  | _ => rfl

theorem Advance.panics (h : Advance core core') : core'.panics = core.panics := by
  cases h with
  | step h => exact h.panics
  | transitioned message => exact panics_quiet rfl
  | mapped stamp event subscription outer messages => exact panics_quiet rfl
  | _ => rfl

/-- What a failure says of the panics so far, when none came before it. -/
def Blames (stop : Stop) (core : Core) : Prop :=
  false ∈ core.panics ↔ ∃ panic, stop = .panicked panic

theorem Exit.blames {stop : Stop} (h : Exit stop core core') (hcalm : core.panics = []) :
    Blames stop core' := by
  cases h with
  | fault error =>
      unfold Blames
      rw [hcalm]
      simp
  | halted error core generation =>
      have hpanics : (core.halted generation false).panics = [] := hcalm
      unfold Blames
      rw [hpanics]
      simp
  | caught error =>
      unfold Blames
      rw [panics_observed, hcalm]
      simp [Observation.panic?]
  | unwound panic =>
      unfold Blames
      rw [panics_observed, hcalm]
      simp [Observation.panic?]

end Steps

/-! ## Runs -/

theorem dispatch_calm {event : LiveEvent} (hevent : event ≠ .shutdown .cancel) :
    Triple (fun core => Base (some event) core ∧ core.panics = []) (dispatch event)
      (fun _ core => core.panics = []) Blames := by
  have hfollows : Triple (fun core => Base (some event) core ∧ core.panics = []) (dispatch event)
      (fun _ core => Base (some event) core ∧ core.panics = []) Blames := by
    refine Exec.triple_of_follows (fun core hcore => dispatch_follows hevent hcore.1) ?_ ?_
    · rintro core core' ⟨hbase, hcalm⟩ hadvance
      exact ⟨hbase.advance hadvance, hadvance.panics.trans hcalm⟩
    · rintro stop core core' ⟨_, hcalm⟩ hexit
      exact hexit.blames hcalm
  exact Exec.triple_conseq hfollows (fun _ => id) (fun _ _ hboth => hboth.2) fun _ _ => id

theorem retain_calm (event : LiveEvent) :
    Triple (fun core => core.panics = []) (retainPreCancelEffectOutcome event)
      (fun _ core => core.panics = []) Blames :=
  Exec.triple_of_follows (fun core _ => moves_retainPreCancelEffectOutcome event core)
    (fun _ _ hcalm hstep => hstep.panics.trans hcalm) fun _ _ _ hcalm hexit => hexit.blames hcalm

theorem waits_panics {core core' : Core} (h : Waits core core') : core'.panics = core.panics :=
  panics_of_journal (waits_journal h)

theorem Ending.panics {core core' : Core} (h : Ending core core') : core'.panics = core.panics := by
  cases h with
  | turned => exact panics_of_journal (turn_beside core).journal
  | requestsDropped =>
      have hwaits := waits_dropRequests ({ core with requests := [] } : Core) core.requests
      have hpanics := waits_panics hwaits
      exact hpanics
  | channelDropped =>
      have hwaits := waits_dropEvents (core.withScope { core.scope with channel := [] })
        core.scope.channel
      have hpanics := waits_panics hwaits
      exact hpanics
  | _ => rfl

theorem panics_turn (core : Core) : core.turn.panics = core.panics :=
  panics_of_journal (turn_beside core).journal

/-- A run without panics goes on, or ends for other reasons; an unguarded panic
    unwinds the owner, and nothing else does. -/
theorem panic_rule : Rule (fun _ core => core.panics = []) Blames
    (fun fault core => (fault = none → core.panics = []) ∧ false ∉ core.panics)
    (fun result core => (result = .ok () → core.panics = []) ∧
      (result = .error .outOfFuel → core.panics = []) ∧
        (result = .error .joining → core.scope.phase = .cancelling → core.panics = []) ∧
          (false ∈ core.panics ↔ ∃ panic, result = .error (.panicked panic))) where
  step _ hcalm hstep := hstep.panics.trans hcalm
  exit _ hcalm hexit := hexit.blames hcalm
  taken _ hcalm _ := (panics_quiet rfl).trans hcalm
  joined _ hcalm _ := hcalm
  dispatched event hevent := dispatch_calm hevent
  retained event := Exec.triple_conseq (retain_calm event) (fun _ h => h.2.2) (fun _ _ => id)
    fun _ _ => id
  marker hcalm := hcalm
  halted _ _ hcalm := hcalm
  drained {core} _ hcalm _ _ _ := by
    have hpanics : (({ core with sources := [] } : Core).closed).panics = [] :=
      (panics_turn { core with sources := [] }).trans hcalm
    rw [hpanics]
    simp
  cancelled _ _ hcalm := by
    rw [hcalm]
    simp
  faulted {core error} _ hblames := by
    have hpanics : (core.faulted error).panics = core.panics := panics_turn core
    rw [hpanics]
    refine ⟨fun h => (by cases h), ?_⟩
    intro hmem
    obtain ⟨panic, hpanic⟩ := hblames.mp hmem
    cases hpanic
  ending hA hending := by
    rw [hending.panics]
    exact hA
  closed {core} _ hA := by
    have hpanics : core.closed.panics = [] := (panics_turn core).trans (hA.1 rfl)
    rw [hpanics]
    simp
  failed hA := by
    refine ⟨fun h => (by cases h), fun h => (by cases h), fun h => (by cases h), ?_⟩
    simpa using hA.2
  joining {fault core} hphase hA := by
    refine ⟨fun h => (by cases h), fun h => (by cases h), fun _ hcancelling => ?_, ?_⟩
    · cases fault with
      | none => exact hA.1 rfl
      | some error =>
          have hcontra := hphase.symm.trans hcancelling
          cases hcontra
    · simpa using hA.2
  panicked hblames := by
    refine ⟨fun h => (by cases h), fun h => (by cases h), fun h => (by cases h), ?_⟩
    exact ⟨fun _ => ⟨_, rfl⟩, fun _ => hblames.mpr ⟨_, rfl⟩⟩
  running _ hcalm := by
    rw [hcalm]
    simp

/-- The owner has reported the fault, or still waits for the tasks that it has
    aborted. -/
def Reports (error : RuntimeError) (result : EStateM.Result Stop Core Unit) : Prop :=
  reported result = some (.error error) ∨ Hangs result

/-- A run with panics, all of them guarded, ends in a fault. -/
theorem faulted_of_guarded {program : Program} {bindings : Bindings}
    {schedule : List (List Activity)} {fuel : Nat}
    (hpanicked : (Exec.final (launch program bindings schedule fuel)).panics ≠ [])
    (hguarded : false ∉ (Exec.final (launch program bindings schedule fuel)).panics) :
    ∃ error, Reports error (launch program bindings schedule fuel) ∧
      (ended (launch program bindings schedule fuel)).scope.phase = .faulted error := by
  obtain ⟨hended, hok, hfuel, hjoining, hunwound⟩ :=
    @Rule.launch _ _ _ _ _ panic_rule program bindings schedule rfl fuel
  cases hlaunch : launch program bindings schedule fuel with
  | ok value core =>
      rw [hlaunch] at hok hpanicked
      exact absurd (hok rfl) hpanicked
  | error stop core =>
      rw [hlaunch] at hended hfuel hjoining hunwound hpanicked hguarded
      cases stop with
      | outOfFuel => exact absurd (hfuel rfl) hpanicked
      | panicked panic => exact absurd (hunwound.mpr ⟨panic, rfl⟩) hguarded
      | error error => exact ⟨error, .inl rfl, hended.faulted error rfl⟩
      | joining =>
          obtain ⟨hstalled, fault, hphase⟩ := hended.joining rfl
          cases fault with
          | none => exact absurd (hjoining rfl hphase) hpanicked
          | some error => exact ⟨error, .inr ⟨rfl, hstalled⟩, hphase⟩

/-- An owner that a panic has unwound has left the scope as it was. -/
theorem not_faulted_of_unwound {program : Program} {bindings : Bindings}
    {schedule : List (List Activity)} {fuel : Nat}
    (hunguarded : false ∈ (Exec.final (launch program bindings schedule fuel)).panics)
    (error : RuntimeError) :
    (ended (launch program bindings schedule fuel)).scope.phase ≠ .faulted error := by
  obtain ⟨hended, _, _, _, hunwound⟩ :=
    @Rule.launch _ _ _ _ _ panic_rule program bindings schedule rfl fuel
  obtain ⟨panic, hpanic⟩ := hunwound.mp hunguarded
  have halive := (hended.alive _ hpanic nofun nofun).notFinal
  intro hphase
  cases hlaunch : launch program bindings schedule fuel with
  | ok value core =>
      rw [hlaunch] at hpanic
      cases hpanic
  | error stop core =>
      rw [hlaunch] at hpanic halive hphase
      cases hpanic
      have hscope : core.scope.phase = .faulted error := hphase
      rw [Exec.final_error, hscope] at halive
      cases halive

/-- A run in which application code panics becomes a preserved fault exactly
    when it panics nowhere outside a `catch_unwind`: then the scope stores the
    fault, which later ingress returns.  The task of the runtime reports it once
    the aborted tasks have ended, and then every admitted host request that was
    not answered returns it, unless its completion was dropped before. -/
theorem panics_become_faults {program : Program} {bindings : Bindings}
    {schedule : List (List Activity)} {fuel : Nat}
    (hpanicked : (Exec.final (launch program bindings schedule fuel)).panics ≠ []) :
    (∃ error, Reports error (launch program bindings schedule fuel) ∧
      ∀ later, (afterwards program bindings schedule fuel later).scope.phase = .faulted error ∧
        (∀ event, ((afterwards program bindings schedule fuel later).scope.acceptIngress event).1 =
          .error error) ∧
        ((reported (launch program bindings schedule fuel)).isSome → ∀ waiter,
          ¬ (Exec.final (launch program bindings schedule fuel)).Discarded waiter →
            (afterwards program bindings schedule fuel later).Admitted waiter →
              ¬ (afterwards program bindings schedule fuel later).Answered waiter →
                (afterwards program bindings schedule fuel later).Resolves waiter
                  (.error error))) ↔
      false ∉ (Exec.final (launch program bindings schedule fuel)).panics := by
  constructor
  · rintro ⟨error, _, hlater⟩ hunguarded
    exact not_faulted_of_unwound hunguarded error (hlater []).1
  · intro hguarded
    obtain ⟨error, hreports, hphase⟩ := faulted_of_guarded hpanicked hguarded
    have hlater : ∀ later, (afterwards program bindings schedule fuel later).scope.phase =
        .faulted error := by
      intro later
      exact @acts_preserve _ (fun core => core.scope.phase = .faulted error)
        (fun core activity h => ((act_beats core activity).phase_eq (by rw [h]; simp)).trans h)
        later _ hphase
    refine ⟨error, hreports, fun later => ⟨hlater later, ?_, ?_⟩⟩
    · intro event
      unfold Scope.acceptIngress
      rw [hlater later]
    · exact fun hended _ => resolves_afterwards hended hphase

end Live

end Samara

namespace Samara.Live

attribute [local instance] Sample.types

/-- A Component whose update panics. -/
def clumsy : Component () where
  init := ((0 : Nat), .none)
  update := fun (model : Nat) _ => (model, .error .application)
  subscriptions _ := .ok []

def clumsyProgram : Program :=
  (((ProgramBuilder.new ⟨7⟩).component ⟨"clumsy"⟩ clumsy).build).toOption.get rfl

/-- A Component whose Subscriptions cannot be computed once it has had a Message. -/
def dizzy : Component () where
  init := ((0 : Nat), .none)
  update := fun (model : Nat) _ => (model + 1, .ok .none)
  subscriptions := fun (model : Nat) => if model = 0 then .ok [] else .error .application

def dizzyProgram : Program :=
  (((ProgramBuilder.new ⟨7⟩).component ⟨"dizzy"⟩ dizzy).build).toOption.get rfl

def greeting : List (List Activity) :=
  [[.send (⟨⟨"clumsy"⟩, ⟨7⟩⟩ : ComponentRef ()) (.plain 1)]]

/-- A Message for the dizzy Component. -/
def nudge : List (List Activity) :=
  [[.send (⟨⟨"dizzy"⟩, ⟨7⟩⟩ : ComponentRef ()) (.plain 1)]]

theorem panics_become_faults_clumsy :
    ∃ error, reported (launch clumsyProgram ⟨[], []⟩ greeting 10) = some (.error error) :=
  Exists.imp (fun _ h => h.1.resolve_right fun hwaits => absurd hwaits.1 (by decide +kernel))
    ((@panics_become_faults _ clumsyProgram ⟨[], []⟩ greeting 10 (by decide +kernel)).mpr
      (by decide +kernel))

/-- The Program passes the checks of the builder.  A panic of
    `Component::subscriptions` after a Message leaves the scope Running: the task
    of the runtime reports that it panicked, and ingress that no one is there. -/
theorem panic_unwinds_owner :
    dizzyProgram.components.map (·.validateInitialCapabilities dizzyProgram) = [.ok ()] ∧
      (Exec.final (launch dizzyProgram ⟨[], []⟩ nudge 10)).panics = [false] ∧
      (afterwards dizzyProgram ⟨[], []⟩ nudge 10 []).scope.phase = .running ∧
      reported (launch dizzyProgram ⟨[], []⟩ nudge 10) =
        some (.error (.harness "live runtime owner task panicked")) :=
  ⟨rfl, by decide +kernel, by decide +kernel, by decide +kernel⟩

end Samara.Live
