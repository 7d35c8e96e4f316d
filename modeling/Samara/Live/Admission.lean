/-
  Samara.Live.Admission

  The admission cutoff over whole runs of a live runtime: what its handles and
  Drivers do, what the owner does, and what the handles do after it has ended.
-/
import Samara.Live.Owner

namespace Samara

variable [RustTypes]

namespace Live

/-- Nothing has to be shown of a run beyond what the rule shows of its scope. -/
theorem Rule.trivial : Rule (fun _ _ => True) (fun _ _ => True) (fun _ _ => True)
    (fun _ _ => True) where
  step _ _ _ := .intro
  exit _ _ _ := .intro
  taken _ _ _ := .intro
  joined _ _ _ := .intro
  dispatched _ _ := Exec.triple_true
  retained _ := Exec.triple_true
  marker _ := .intro
  halted _ _ _ := .intro
  drained _ _ _ _ _ := .intro
  cancelled _ _ _ := .intro
  faulted _ _ := .intro
  ending _ _ := .intro
  closed _ _ := .intro
  failed _ := .intro
  panicked _ := .intro
  joining _ _ := .intro
  running _ _ := .intro

/-- An owner that waits for aborted tasks waits for good. -/
theorem hangs_of_joining {program : Program} {bindings : Bindings} {schedule : List (List Activity)}
    {fuel : Nat} {core : Core} (hrun : launch program bindings schedule fuel = .error .joining core) :
    Hangs (launch program bindings schedule fuel) := by
  have hends := (@Rule.launch _ _ _ _ _ Rule.trivial program bindings schedule .intro fuel).1
  rw [hrun] at hends ⊢
  exact ⟨rfl, (hends.joining rfl).1⟩

/-- The scope after the owner has ended, whatever happens later. -/
def afterwards (program : Program) (bindings : Bindings) (schedule : List (List Activity))
    (fuel : Nat) (later : List Activity) : Core :=
  later.foldl Core.act (ended (launch program bindings schedule fuel))

theorem ended_recorded {result : EStateM.Result Stop Core Unit}
    (h : (Exec.final result).scope.Recorded) : (ended result).scope.Recorded := by
  cases result with
  | ok value core => exact ⟨h.chained, h.sound⟩
  | error stop core =>
      cases stop with
      | outOfFuel | joining => exact h
      | error error => exact ⟨h.chained, h.sound⟩
      | panicked panic => exact ⟨h.chained, h.sound⟩

/-- Under any interleaving of the calls of handles, Drivers and the owner,
    while the owner runs and after it has ended, one cutoff decides what the
    channel takes. -/
theorem single_cutoff (program : Program) (bindings : Bindings)
    (schedule : List (List Activity)) (fuel : Nat) (later : List Activity) :
    Admission (afterwards program bindings schedule fuel later).scope.log
      (afterwards program bindings schedule fuel later).scope.phase := by
  have hends := @Rule.launch _ _ _ _ _ Rule.trivial program bindings schedule .intro fuel
  have hended := ended_recorded hends.1.recorded
  have hlater : (afterwards program bindings schedule fuel later).scope.Recorded :=
    acts_preserve (fun core activity hrecorded => (act_beats core activity).recorded hrecorded)
      later hended
  exact hlater.chained.admission hlater.sound

end Live

end Samara
