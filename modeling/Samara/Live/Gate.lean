/-
  Samara.Live.Gate

  The gate of one Source realization (`SourceGate` in `live_runtime.rs`) while
  any number of threads call it: Drivers that emit, whoever stops the Source,
  and the Driver that installs its stop hook.

  A call holds the lock of the gate over its critical section and runs a hook
  outside of it.  Everything else that happens to the scope happens in between.
-/
import Samara.Logic.Threads
import Samara.Live.Step

namespace Samara

open Relation (ReflTransGen)
open Threads (Pool Protocol)

variable [RustTypes]

namespace Live

/-! ## The calls -/

/-- The gate with its lock, the scope, and the history: the events that were
    accepted, with their `terminal` flags, and how often a hook was run. -/
structure GateShared where
  gate : SourceGate
  locked : Bool
  scope : Scope
  accepted : List (LiveEvent × Bool)
  hookRuns : Nat

/-- Where a call of `accept` is. -/
inductive AcceptAt where
  | waiting
  | checking
  | sending
  | admitted
  | leaving (accepted : Bool)
  | returned (accepted : Bool)
  deriving DecidableEq

/-- Where a call of `stop` is, with the hook that it has taken. -/
inductive StopAt where
  | waiting
  | stopping
  | leaving (hook : Option (Except String Unit))
  | running (hook : Option (Except String Unit))
  | returned (result : Except String Unit)

/-- Where a call of `install_stop_hook` is; `panicked` is its assertion. -/
inductive InstallAt where
  | waiting
  | checking
  | leaving (runNow : Bool)
  | running
  | returned (result : Except String Bool)
  | panicked

/-- A thread in a call; a hook is what it will return. -/
inductive GateThread where
  | accept (event : LiveEvent) (terminal : Bool) (place : AcceptAt)
  | stop (place : StopAt)
  | install (hook : Except String Unit) (place : InstallAt)

namespace GateShared

/-- `SourceGate::new`, under a scope. -/
def new (stamp : SourceStamp) (terminalType : DescriptorType TypeId) (scope : Scope) :
    GateShared where
  gate := ⟨stamp, terminalType, .active, none⟩
  locked := false
  scope := scope
  accepted := []
  hookRuns := 0

/-- `lock(&self.inner)`; it blocks while another thread has the lock. -/
def acquire (shared : GateShared) (thread : GateThread) : Option (GateShared × GateThread) :=
  if shared.locked then none else some ({ shared with locked := true }, thread)

/-- The guard is dropped. -/
def release (shared : GateShared) (thread : GateThread) : Option (GateShared × GateThread) :=
  some ({ shared with locked := false }, thread)

def withState (shared : GateShared) (state : SourceGateState) : GateShared :=
  { shared with gate := { shared.gate with state } }

def withHook (shared : GateShared) (stopHook : Option (Except String Unit)) : GateShared :=
  { shared with gate := { shared.gate with stopHook } }

/-- A hook has been run. -/
def ran (shared : GateShared) : GateShared := { shared with hookRuns := shared.hookRuns + 1 }

/-- `scope.accept_source(event)` has taken the event. -/
def sent (shared : GateShared) (event : LiveEvent) (terminal : Bool) : GateShared :=
  { shared with
    scope := shared.scope.called (.source event)
    accepted := shared.accepted ++ [(event, terminal)] }

/-- `scope.accept_source(event)` has refused the event. -/
def refused (shared : GateShared) (event : LiveEvent) : GateShared :=
  { shared with scope := shared.scope.called (.source event) }

end GateShared

namespace GateThread

/-- The next atomic step of `SourceGate::accept`. -/
def actAccept (event : LiveEvent) (terminal : Bool) (shared : GateShared) :
    AcceptAt → Option (GateShared × GateThread)
  | .waiting => shared.acquire (.accept event terminal .checking)
  | .checking =>
      if shared.gate.state ≠ .active then some (shared, .accept event terminal (.leaving false))
      else some (shared, .accept event terminal .sending)
  | .sending =>
      if (shared.scope.acceptSource event).1 then
        some (shared.sent event terminal, .accept event terminal .admitted)
      else some (shared.refused event, .accept event terminal (.leaving false))
  | .admitted =>
      if terminal then
        some (shared.withState .terminalAccepted, .accept event terminal (.leaving true))
      else some (shared, .accept event terminal (.leaving true))
  | .leaving accepted => shared.release (.accept event terminal (.returned accepted))
  | .returned _ => none

/-- The next atomic step of `SourceGate::stop`. -/
def actStop (shared : GateShared) : StopAt → Option (GateShared × GateThread)
  | .waiting => shared.acquire (.stop .stopping)
  | .stopping =>
      some ((shared.withState .stopped).withHook none, .stop (.leaving shared.gate.stopHook))
  | .leaving hook => shared.release (.stop (.running hook))
  | .running none => some (shared, .stop (.returned (.ok ())))
  | .running (some result) => some (shared.ran, .stop (.returned result))
  | .returned _ => none

/-- The next atomic step of `SourceGate::install_stop_hook`. -/
def actInstall (hook : Except String Unit) (shared : GateShared) :
    InstallAt → Option (GateShared × GateThread)
  | .waiting => shared.acquire (.install hook .checking)
  | .checking =>
      if shared.gate.state = .stopped then some (shared, .install hook (.leaving true))
      else
        match shared.gate.stopHook with
        | none => some (shared.withHook (some hook), .install hook (.leaving false))
        | some _ => shared.release (.install hook .panicked)
  | .leaving runNow =>
      shared.release (.install hook (if runNow then .running else .returned (.ok true)))
  | .running => some (shared.ran, .install hook (.returned (hook.map fun () => false)))
  | .returned _ => none
  | .panicked => none

/-- The next atomic step of a call. -/
def act (shared : GateShared) : GateThread → Option (GateShared × GateThread)
  | .accept event terminal place => actAccept event terminal shared place
  | .stop place => actStop shared place
  | .install hook place => actInstall hook shared place

def isInstall : GateThread → Bool
  | .install _ _ => true
  | .accept _ _ _ | .stop _ => false

/-- A new call; a realization installs at most one hook. -/
inductive Begins (threads : List GateThread) : GateThread → Prop
  | accept (event : LiveEvent) (terminal : Bool) : Begins threads (.accept event terminal .waiting)
  | stop : Begins threads (.stop .waiting)
  | install (hook : Except String Unit) (hfirst : threads.countP isInstall = 0) :
      Begins threads (.install hook .waiting)

end GateThread

/-- What happens to the scope beside the gate. -/
inductive GateShared.Moves (shared : GateShared) : GateShared → Prop
  | called (call : ScopeCall) : Moves shared { shared with scope := shared.scope.called call }
  | received (channel : List LiveEvent) :
      Moves shared { shared with scope := { shared.scope with channel } }
  | disconnected : Moves shared { shared with
      scope := { shared.scope with channel := [], connected := false } }

def gateProtocol : Protocol GateShared GateThread where
  Enters pool := GateThread.Begins pool.threads
  Acts shared thread shared' thread' := thread.act shared = some (shared', thread')
  Moves := GateShared.Moves

/-! ## What one step does -/

namespace GateThread

/-- What a step of one thread can be. -/
inductive Acted (shared : GateShared) : GateThread → GateShared → GateThread → Prop
  | acceptLocked {event : LiveEvent} {terminal : Bool} (hfree : shared.locked = false) :
      Acted shared (.accept event terminal .waiting) { shared with locked := true }
        (.accept event terminal .checking)
  | closed {event : LiveEvent} {terminal : Bool} (hstate : shared.gate.state ≠ .active) :
      Acted shared (.accept event terminal .checking) shared
        (.accept event terminal (.leaving false))
  | checked {event : LiveEvent} {terminal : Bool} (hstate : shared.gate.state = .active) :
      Acted shared (.accept event terminal .checking) shared (.accept event terminal .sending)
  | sent {event : LiveEvent} {terminal : Bool}
      (haccepted : (shared.scope.acceptSource event).1 = true) :
      Acted shared (.accept event terminal .sending) (shared.sent event terminal)
        (.accept event terminal .admitted)
  | refused {event : LiveEvent} {terminal : Bool}
      (hrefused : (shared.scope.acceptSource event).1 = false) :
      Acted shared (.accept event terminal .sending) (shared.refused event)
        (.accept event terminal (.leaving false))
  | ended {event : LiveEvent} :
      Acted shared (.accept event true .admitted) (shared.withState .terminalAccepted)
        (.accept event true (.leaving true))
  | passed {event : LiveEvent} :
      Acted shared (.accept event false .admitted) shared (.accept event false (.leaving true))
  | acceptLeft {event : LiveEvent} {terminal accepted : Bool} :
      Acted shared (.accept event terminal (.leaving accepted)) { shared with locked := false }
        (.accept event terminal (.returned accepted))
  | stopLocked (hfree : shared.locked = false) :
      Acted shared (.stop .waiting) { shared with locked := true } (.stop .stopping)
  | stopped : Acted shared (.stop .stopping) ((shared.withState .stopped).withHook none)
      (.stop (.leaving shared.gate.stopHook))
  | stopLeft {hook : Option (Except String Unit)} :
      Acted shared (.stop (.leaving hook)) { shared with locked := false } (.stop (.running hook))
  | idled : Acted shared (.stop (.running none)) shared (.stop (.returned (.ok ())))
  | stopRan {result : Except String Unit} :
      Acted shared (.stop (.running (some result))) shared.ran (.stop (.returned result))
  | installLocked {hook : Except String Unit} (hfree : shared.locked = false) :
      Acted shared (.install hook .waiting) { shared with locked := true }
        (.install hook .checking)
  | late {hook : Except String Unit} (hstate : shared.gate.state = .stopped) :
      Acted shared (.install hook .checking) shared (.install hook (.leaving true))
  | installed {hook : Except String Unit} (hstate : shared.gate.state ≠ .stopped)
      (hnone : shared.gate.stopHook = none) :
      Acted shared (.install hook .checking) (shared.withHook (some hook))
        (.install hook (.leaving false))
  | doubled {hook : Except String Unit} (hsome : shared.gate.stopHook ≠ none) :
      Acted shared (.install hook .checking) { shared with locked := false }
        (.install hook .panicked)
  | lateLeft {hook : Except String Unit} :
      Acted shared (.install hook (.leaving true)) { shared with locked := false }
        (.install hook .running)
  | installLeft {hook : Except String Unit} :
      Acted shared (.install hook (.leaving false)) { shared with locked := false }
        (.install hook (.returned (.ok true)))
  | installRan {hook : Except String Unit} :
      Acted shared (.install hook .running) shared.ran
        (.install hook (.returned (hook.map fun () => false)))

theorem acquire_eq_some {shared shared' : GateShared} {thread thread' : GateThread}
    (h : shared.acquire thread = some (shared', thread')) :
    shared.locked = false ∧ shared' = { shared with locked := true } ∧ thread' = thread := by
  unfold GateShared.acquire at h
  split at h
  · cases h
  · rename_i hfree
    cases h
    exact ⟨Bool.eq_false_of_not_eq_true hfree, rfl, rfl⟩

theorem acted {shared shared' : GateShared} {thread thread' : GateThread}
    (h : thread.act shared = some (shared', thread')) : Acted shared thread shared' thread' := by
  cases thread with
  | accept event terminal place =>
      cases place with
      | waiting =>
          obtain ⟨hfree, rfl, rfl⟩ := acquire_eq_some h
          exact .acceptLocked hfree
      | checking =>
          unfold act actAccept at h
          dsimp only at h
          split at h
          · rename_i hstate
            cases h
            exact .closed hstate
          · rename_i hstate
            cases h
            exact .checked (not_not.mp hstate)
      | sending =>
          unfold act actAccept at h
          dsimp only at h
          split at h
          · rename_i haccepted
            cases h
            exact .sent haccepted
          · rename_i hrefused
            cases h
            exact .refused (Bool.eq_false_of_not_eq_true hrefused)
      | admitted =>
          cases terminal with
          | false =>
              cases h
              exact .passed
          | true =>
              cases h
              exact .ended
      | leaving accepted =>
          cases h
          exact .acceptLeft
      | returned accepted => cases h
  | stop place =>
      cases place with
      | waiting =>
          obtain ⟨hfree, rfl, rfl⟩ := acquire_eq_some h
          exact .stopLocked hfree
      | stopping =>
          cases h
          exact .stopped
      | leaving hook =>
          cases h
          exact .stopLeft
      | running hook =>
          cases hook with
          | none =>
              cases h
              exact .idled
          | some result =>
              cases h
              exact .stopRan
      | returned result => cases h
  | install hook place =>
      cases place with
      | waiting =>
          obtain ⟨hfree, rfl, rfl⟩ := acquire_eq_some h
          exact .installLocked hfree
      | checking =>
          unfold act actInstall at h
          dsimp only at h
          split at h
          · rename_i hstate
            cases h
            exact .late hstate
          · rename_i hstate
            cases hhook : shared.gate.stopHook with
            | none =>
                rw [hhook] at h
                cases h
                exact .installed hstate hhook
            | some other =>
                rw [hhook] at h
                cases h
                exact .doubled (by rw [hhook]; exact Option.some_ne_none other)
      | leaving runNow =>
          cases runNow with
          | false =>
              cases h
              exact .installLeft
          | true =>
              cases h
              exact .lateLeft
      | running =>
          cases h
          exact .installRan
      | returned result => cases h
      | panicked => cases h

/-! ## What a thread has in hand -/

/-- Whether the thread has the lock of the gate. -/
def holds : GateThread → Bool
  | .accept _ _ .checking | .accept _ _ .sending | .accept _ _ .admitted
  | .accept _ _ (.leaving _) => true
  | .stop .stopping | .stop (.leaving _) => true
  | .install _ .checking | .install _ (.leaving _) => true
  | _ => false

/-- Whether the thread is going to run a hook. -/
def carries : GateThread → Bool
  | .stop (.leaving hook) | .stop (.running hook) => hook.isSome
  | .install _ (.leaving runNow) => runNow
  | .install _ .running => true
  | _ => false

/-- Whether the thread has given its hook to the gate, or found the gate stopped. -/
def gave : GateThread → Bool
  | .install _ (.leaving _) | .install _ .running | .install _ (.returned _) => true
  | _ => false

/-- Whether the thread has stopped the gate. -/
def hasStopped : GateThread → Bool
  | .stop (.leaving _) | .stop (.running _) | .stop (.returned _) => true
  | _ => false

/-- Whether a terminal event was accepted that the gate has yet to note. -/
def marks : GateThread → Bool
  | .accept _ terminal .admitted => terminal
  | _ => false

/-- The event that was accepted for the thread. -/
def admission : GateThread → Option (LiveEvent × Bool)
  | .accept event terminal .admitted => some (event, terminal)
  | .accept event terminal (.leaving true) | .accept event terminal (.returned true) =>
      some (event, terminal)
  | _ => none

/-- Whether the call has come to its end. -/
def hasReturned : GateThread → Bool
  | .accept _ _ (.returned _) | .stop (.returned _) | .install _ (.returned _) => true
  | _ => false

/-- Whether the thread has a hook that it has yet to give away. -/
def awaits : GateThread → Bool
  | .install _ .waiting | .install _ .checking => true
  | _ => false

/-- What a thread knows where it is. -/
def Placed (shared : GateShared) : GateThread → Prop
  | .accept _ _ .sending =>
      shared.gate.state = .active ∧ ∀ entry ∈ shared.accepted, entry.2 = false
  | .accept event terminal .admitted =>
      shared.gate.state = .active ∧ (event, terminal) ∈ shared.accepted
  | .stop (.leaving _) | .stop (.running _) | .stop (.returned _) => shared.gate.state = .stopped
  | .install _ .panicked => False
  | _ => True

end GateThread

section Steps

open GateThread

variable {shared shared' : GateShared} {thread thread' : GateThread}

/-- Taking the lock and dropping it. -/
theorem GateThread.Acted.lock (h : Acted shared thread shared' thread')
    (hholds : thread.holds = true → shared.locked = true) :
    shared'.locked.toNat + thread.holds.toNat = shared.locked.toNat + thread'.holds.toNat := by
  cases h with
  | acceptLocked hfree | stopLocked hfree | installLocked hfree => simp [holds, hfree]
  | acceptLeft | stopLeft | doubled | lateLeft | installLeft => simp [holds, hholds rfl]
  | _ => rfl

/-- A thread without the lock leaves the gate alone. -/
theorem GateThread.Acted.apart (h : Acted shared thread shared' thread')
    (hholds : thread.holds = false) :
    shared'.gate = shared.gate ∧ shared'.accepted = shared.accepted := by
  cases h with
  | acceptLocked | stopLocked | installLocked => exact ⟨rfl, rfl⟩
  | idled | stopRan | installRan => exact ⟨rfl, rfl⟩
  | _ => cases hholds

/-- A hook is given to the gate, taken off it and run; none is made or lost. -/
theorem GateThread.Acted.hook (h : Acted shared thread shared' thread') :
    shared'.hookRuns + shared'.gate.stopHook.isSome.toNat + thread'.carries.toNat +
        thread.gave.toNat =
      shared.hookRuns + shared.gate.stopHook.isSome.toNat + thread.carries.toNat +
        thread'.gave.toNat := by
  cases h with
  | stopped =>
      show shared.hookRuns + 0 + shared.gate.stopHook.isSome.toNat + 0 =
        shared.hookRuns + shared.gate.stopHook.isSome.toNat + 0 + 0
      omega
  | stopRan =>
      show shared.hookRuns + 1 + shared.gate.stopHook.isSome.toNat + 0 + 0 =
        shared.hookRuns + shared.gate.stopHook.isSome.toNat + 1 + 0
      omega
  | installRan =>
      show shared.hookRuns + 1 + shared.gate.stopHook.isSome.toNat + 0 + 1 =
        shared.hookRuns + shared.gate.stopHook.isSome.toNat + 1 + 1
      omega
  | installed hstate hnone =>
      rw [hnone]
      rfl
  | late =>
      show shared.hookRuns + shared.gate.stopHook.isSome.toNat + 1 + 0 =
        shared.hookRuns + shared.gate.stopHook.isSome.toNat + 0 + 1
      omega
  | _ => rfl

theorem GateThread.Acted.single (h : Acted shared thread shared' thread') :
    thread'.awaits.toNat + thread'.gave.toNat ≤ thread.awaits.toNat + thread.gave.toNat := by
  cases h <;> simp [awaits, gave]

/-- A stopped gate stays stopped. -/
theorem GateThread.Acted.stays (h : Acted shared thread shared' thread')
    (hplaced : thread.Placed shared) (hstate : shared.gate.state = .stopped) :
    shared'.gate.state = .stopped := by
  cases h with
  | ended =>
      rw [hplaced.1] at hstate
      cases hstate
  | stopped => rfl
  | _ => exact hstate

/-- Only an accepted event is added to the history. -/
theorem GateThread.Acted.accepted (h : Acted shared thread shared' thread') :
    (shared'.accepted = shared.accepted ∧ thread'.admission = thread.admission) ∨
      ∃ event terminal, thread = .accept event terminal .sending ∧
        thread' = .accept event terminal .admitted ∧
          shared' = shared.sent event terminal := by
  cases h with
  | @sent event terminal haccepted => exact Or.inr ⟨event, terminal, rfl, rfl, rfl⟩
  | @acceptLeft event terminal accepted => cases accepted <;> exact Or.inl ⟨rfl, rfl⟩
  | _ => exact Or.inl ⟨rfl, rfl⟩

theorem GateThread.Placed.congr (h : thread.Placed shared) (hgate : shared'.gate = shared.gate)
    (haccepted : shared'.accepted = shared.accepted) : thread.Placed shared' := by
  unfold GateThread.Placed at h ⊢
  rw [hgate, haccepted]
  exact h

/-- A thread without the lock knows at most that the gate is stopped. -/
theorem GateThread.Placed.of_apart (h : thread.Placed shared) (hholds : thread.holds = false)
    (hstays : shared.gate.state = .stopped → shared'.gate.state = .stopped) :
    thread.Placed shared' := by
  cases thread with
  | accept event terminal place =>
      cases place with
      | sending => cases hholds
      | admitted => cases hholds
      | _ => trivial
  | stop place =>
      cases place with
      | leaving hook => exact hstays h
      | running hook => exact hstays h
      | returned result => exact hstays h
      | _ => trivial
  | install hook place =>
      cases place with
      | panicked => exact h
      | _ => trivial

end Steps

/-! ## The invariant -/

/-- The gate and its lock, the events it has accepted, and where its hook is. -/
structure Guarded (pool : Pool GateShared GateThread) : Prop where
  mutex : pool.threads.countP GateThread.holds = pool.shared.locked.toNat
  single : pool.threads.countP GateThread.awaits + pool.threads.countP GateThread.gave ≤ 1
  hook : pool.shared.hookRuns + pool.shared.gate.stopHook.isSome.toNat +
    pool.threads.countP GateThread.carries = pool.threads.countP GateThread.gave
  emptied : pool.shared.gate.state = .stopped → pool.shared.gate.stopHook = none
  ended : pool.shared.gate.state = .terminalAccepted →
    ∃ entry ∈ pool.shared.accepted, entry.2 = true
  noted : (∃ entry ∈ pool.shared.accepted, entry.2 = true) →
    pool.shared.gate.state ≠ .active ∨ ∃ thread ∈ pool.threads, thread.marks = true
  items : ∀ entry ∈ pool.shared.accepted.dropLast, entry.2 = false
  admitted : pool.shared.accepted.Perm (pool.threads.filterMap GateThread.admission)
  placed : ∀ thread ∈ pool.threads, thread.Placed pool.shared

namespace Guarded

open GateThread

variable {pool : Pool GateShared GateThread} {index : Nat} {thread thread' : GateThread}
  {shared : GateShared}

theorem new (stamp : SourceStamp) (terminalType : DescriptorType TypeId) (scope : Scope) :
    Guarded ⟨.new stamp terminalType scope, []⟩ where
  mutex := rfl
  single := Nat.zero_le 1
  hook := rfl
  emptied _ := rfl
  ended h := by cases h
  noted := by
    rintro ⟨entry, hentry, _⟩
    cases hentry
  items entry hentry := by cases hentry
  admitted := .refl _
  placed other hother := by cases hother

/-- Only one thread has the lock. -/
theorem exclusive (h : Guarded pool) {other : GateThread} {place : Nat}
    (hthread : pool.threads[index]? = some thread) (hholds : thread.holds = true)
    (hother : pool.threads[place]? = some other) (hholds' : other.holds = true) :
    place = index := by
  have hone : pool.threads.countP holds ≤ 1 := by
    rw [h.mutex]
    cases pool.shared.locked <;> decide
  exact Threads.eq_of_countP_le_one hone hthread hholds hother hholds'

theorem locked (h : Guarded pool) (hthread : pool.threads[index]? = some thread)
    (hholds : thread.holds = true) : pool.shared.locked = true := by
  have hpos := Threads.countP_pos_of_getElem? hthread hholds
  rw [h.mutex] at hpos
  by_contra hfree
  rw [Bool.eq_false_of_not_eq_true hfree] at hpos
  exact absurd hpos (by decide)

/-- The gate has no hook yet when one is about to be installed. -/
theorem unhooked (h : Guarded pool) {hook : Except String Unit}
    (hthread : pool.threads[index]? = some (.install hook .checking)) :
    pool.shared.gate.stopHook = none := by
  have hawaits : 0 < pool.threads.countP awaits := Threads.countP_pos_of_getElem? hthread rfl
  have hsingle := h.single
  have hhook := h.hook
  cases hstored : pool.shared.gate.stopHook with
  | none => rfl
  | some other =>
      rw [hstored] at hhook
      simp only [Option.isSome_some, Bool.toNat_true] at hhook
      omega

/-- While an event can be accepted, none was terminal. -/
theorem allItems (h : Guarded pool) {event : LiveEvent} {terminal : Bool}
    (hthread : pool.threads[index]? = some (.accept event terminal .checking))
    (hstate : pool.shared.gate.state = .active) : ∀ entry ∈ pool.shared.accepted, entry.2 = false := by
  intro entry hentry
  by_contra hterminal
  have hmarked := h.noted ⟨entry, hentry, Bool.eq_true_of_not_eq_false hterminal⟩
  rcases hmarked with hclosed | ⟨other, hother, hmarks⟩
  · exact hclosed hstate
  -- The thread that is to note it has the lock, which is this one's.
  · obtain ⟨place, hplace⟩ := List.getElem?_of_mem hother
    have hholds : other.holds = true := by
      cases other with
      | accept event terminal place =>
          cases place with
          | admitted => rfl
          | _ => cases hmarks
      | _ => cases hmarks
    have hsame := h.exclusive hthread rfl hplace hholds
    rw [hsame, hthread] at hplace
    cases hplace
    cases hmarks

theorem placed_self (h : Guarded pool) (hthread : pool.threads[index]? = some thread)
    (hacted : Acted pool.shared thread shared thread') : thread'.Placed shared := by
  have hplaced := h.placed thread (List.mem_of_getElem? hthread)
  cases hacted with
  | checked hstate => exact ⟨hstate, h.allItems hthread hstate⟩
  | sent haccepted => exact ⟨hplaced.1, List.mem_append_right _ List.mem_cons_self⟩
  | stopped => rfl
  | stopLeft | idled | stopRan => exact hplaced
  | doubled hsome => exact hsome (h.unhooked hthread)
  | _ => trivial

theorem acted (h : Guarded pool) (hthread : pool.threads[index]? = some thread)
    (hacted : Acted pool.shared thread shared thread') :
    Guarded ⟨shared, pool.threads.set index thread'⟩ := by
  have hplaced := h.placed thread (List.mem_of_getElem? hthread)
  refine ⟨?_, ?_, ?_, ?_, ?_, ?_, ?_, ?_, ?_⟩
  · have hcount := Threads.countP_set holds hthread thread'
    have hlock := hacted.lock (h.locked hthread)
    have hmutex := h.mutex
    dsimp only
    omega
  · have hawaits := Threads.countP_set awaits hthread thread'
    have hgave := Threads.countP_set gave hthread thread'
    have hsame := hacted.single
    have hsingle := h.single
    dsimp only
    omega
  · have hcarries := Threads.countP_set carries hthread thread'
    have hgave := Threads.countP_set gave hthread thread'
    have hmoved := hacted.hook
    have hhook := h.hook
    dsimp only
    omega
  · intro hstopped
    cases hacted with
    | stopped => rfl
    | ended => cases hstopped
    | installed hstate hnone => exact absurd hstopped hstate
    | _ => exact h.emptied hstopped
  · intro hterminal
    cases hacted with
    | sent haccepted =>
        rw [show (pool.shared.sent _ _).gate.state = _ from hplaced.1] at hterminal
        cases hterminal
    | ended => exact ⟨_, hplaced.2, rfl⟩
    | stopped => cases hterminal
    | _ => exact h.ended hterminal
  · intro hterminal
    rcases hacted.accepted with ⟨haccepted, _⟩ | ⟨event, terminal, rfl, rfl, rfl⟩
    · rw [haccepted] at hterminal
      rcases h.noted hterminal with hclosed | hmarked
      · refine Or.inl ?_
        cases hacted with
        | ended => exact fun heq => by cases heq
        | stopped => exact fun heq => by cases heq
        | _ => exact hclosed
      · by_cases hmarks : thread.marks = true
        · cases hacted with
          | ended => exact Or.inl fun heq => by cases heq
          | passed => cases hmarks
          | _ => cases hmarks
        · exact Or.inr (Threads.exists_set hthread (Bool.eq_false_of_not_eq_true hmarks) thread'
            hmarked)
    · -- The new event is the only one that can be terminal.
      obtain ⟨entry, hentry, hends⟩ := hterminal
      rcases List.mem_append.mp hentry with hold | hnew
      · rw [hplaced.2 entry hold] at hends
        cases hends
      · rw [List.mem_singleton.mp hnew] at hends
        refine Or.inr ⟨.accept event terminal .admitted, ?_, hends⟩
        exact List.mem_of_getElem? (List.getElem?_set_self
          (List.getElem?_eq_some_iff.mp hthread).1)
  · rcases hacted.accepted with ⟨haccepted, _⟩ | ⟨event, terminal, rfl, rfl, rfl⟩
    · dsimp only
      rw [haccepted]
      exact h.items
    · intro entry hentry
      have hold : entry ∈ pool.shared.accepted := by
        rw [show (pool.shared.sent event terminal).accepted =
          pool.shared.accepted ++ [(event, terminal)] from rfl, List.dropLast_concat] at hentry
        exact hentry
      exact hplaced.2 entry hold
  · rcases hacted.accepted with ⟨haccepted, hsame⟩ | ⟨event, terminal, rfl, rfl, rfl⟩
    · dsimp only
      rw [haccepted, Threads.filterMap_set_of_eq hthread hsame]
      exact h.admitted
    · have hmore : ((pool.threads.set index (.accept event terminal .admitted)).filterMap
          admission).Perm (pool.threads.filterMap admission ++ [(event, terminal)]) :=
        Threads.filterMap_set_perm hthread rfl rfl
      exact (h.admitted.append_right _).trans hmore.symm
  · refine Threads.forall_set (h.placed_self hthread hacted) ?_
    intro place other hne hother
    have hknows := h.placed other (List.mem_of_getElem? hother)
    by_cases hholds : other.holds = true
    · have hapart : thread.holds = false := by
        by_contra hself
        exact hne (h.exclusive hthread (Bool.eq_true_of_not_eq_false hself) hother hholds)
      obtain ⟨hgate, haccepted⟩ := hacted.apart hapart
      exact hknows.congr hgate haccepted
    · exact hknows.of_apart (Bool.eq_false_of_not_eq_true hholds) (hacted.stays hplaced)

theorem entered (h : Guarded pool) (hbegins : Begins pool.threads thread) :
    Guarded ⟨pool.shared, pool.threads ++ [thread]⟩ := by
  have hfresh : thread.holds = false ∧ thread.gave = false ∧ thread.carries = false ∧
      thread.admission = none ∧ thread.Placed pool.shared := by
    cases hbegins <;> exact ⟨rfl, rfl, rfl, rfl, trivial⟩
  obtain ⟨hholds, hgave, hcarries, hadmission, hplaced⟩ := hfresh
  have hgaves := Threads.countP_snoc gave pool.threads thread
  rw [hgave] at hgaves
  refine ⟨?_, ?_, ?_, h.emptied, h.ended, ?_, h.items, ?_, Threads.forall_snoc hplaced h.placed⟩
  · rw [Threads.countP_snoc, hholds]
    exact h.mutex
  · have hawaits := Threads.countP_snoc awaits pool.threads thread
    have hsingle := h.single
    cases hbegins with
    | accept event terminal =>
        simp only [awaits, Bool.toNat_false] at hawaits hgaves
        dsimp only
        omega
    | stop =>
        simp only [awaits, Bool.toNat_false] at hawaits hgaves
        dsimp only
        omega
    | install hook hfirst =>
        -- Whoever has a hook to give or has given one is an installation.
        have hnone : pool.threads.countP awaits ≤ pool.threads.countP isInstall := by
          refine List.countP_mono_left fun other _ hawaits => ?_
          cases other with
          | install hook place => rfl
          | _ => cases hawaits
        have hnone' : pool.threads.countP gave ≤ pool.threads.countP isInstall := by
          refine List.countP_mono_left fun other _ hgave => ?_
          cases other with
          | install hook place => rfl
          | accept event terminal place => cases hgave
          | stop place => cases hgave
        simp only [awaits, Bool.toNat_true] at hawaits
        simp only [Bool.toNat_false] at hgaves
        dsimp only
        omega
  · have hcarrying := Threads.countP_snoc carries pool.threads thread
    rw [hcarries] at hcarrying
    have hhook := h.hook
    dsimp only
    omega
  · intro hterminal
    refine (h.noted hterminal).imp_right ?_
    rintro ⟨other, hother, hmarks⟩
    exact ⟨other, List.mem_append_left _ hother, hmarks⟩
  · dsimp only
    rw [List.filterMap_append, List.filterMap_cons_none hadmission, List.filterMap_nil,
      List.append_nil]
    exact h.admitted

theorem moved (h : Guarded pool) (hmoves : GateShared.Moves pool.shared shared) :
    Guarded { pool with shared } := by
  -- The scope is no part of the invariant.
  have hplaced : ∀ thread ∈ pool.threads, thread.Placed shared := by
    intro thread hthread
    cases hmoves <;> exact (h.placed thread hthread).congr rfl rfl
  cases hmoves <;> exact ⟨h.mutex, h.single, h.hook, h.emptied, h.ended, h.noted, h.items,
    h.admitted, hplaced⟩

theorem step {pool' : Pool GateShared GateThread} (h : Guarded pool)
    (hstep : gateProtocol.Step pool pool') : Guarded pool' := by
  cases hstep with
  | entered thread henters => exact h.entered henters
  | acted index hthread hacts => exact h.acted hthread (GateThread.acted hacts)
  | moved hmoves => exact h.moved hmoves

theorem reaches {stamp : SourceStamp} {terminalType : DescriptorType TypeId} {scope : Scope}
    (h : gateProtocol.Reaches (.new stamp terminalType scope) pool) : Guarded pool :=
  h.invariant (.new stamp terminalType scope) fun _ _ hguarded hstep => hguarded.step hstep

/-- A gate that is stopped, or has accepted a terminal event, accepts no more. -/
theorem closed_step {pool' : Pool GateShared GateThread} (h : Guarded pool)
    (hclosed : pool.shared.gate.state = .stopped ∨ ∃ entry ∈ pool.shared.accepted, entry.2 = true)
    (hstep : gateProtocol.Step pool pool') :
    pool'.shared.accepted = pool.shared.accepted ∧
      (pool'.shared.gate.state = .stopped ∨ ∃ entry ∈ pool'.shared.accepted, entry.2 = true) := by
  cases hstep with
  | entered thread henters => exact ⟨rfl, hclosed⟩
  | moved hmoves => cases hmoves <;> exact ⟨rfl, hclosed⟩
  | acted index hthread hacts =>
      have hacted := GateThread.acted hacts
      have hplaced := h.placed _ (List.mem_of_getElem? hthread)
      rcases hacted.accepted with ⟨haccepted, _⟩ | ⟨event, terminal, rfl, rfl, rfl⟩
      · refine ⟨haccepted, ?_⟩
        dsimp only
        rw [haccepted]
        exact hclosed.imp_left (hacted.stays hplaced)
      · -- An event is only sent while the gate is active and has taken items.
        rcases hclosed with hstopped | ⟨entry, hentry, hends⟩
        · rw [hplaced.1] at hstopped
          cases hstopped
        · rw [hplaced.2 entry hentry] at hends
          cases hends

theorem closed_run {pool' : Pool GateShared GateThread} (h : Guarded pool)
    (hclosed : pool.shared.gate.state = .stopped ∨ ∃ entry ∈ pool.shared.accepted, entry.2 = true)
    (hpath : ReflTransGen gateProtocol.Step pool pool') :
    pool'.shared.accepted = pool.shared.accepted := by
  have hall := @Exec.path_preserves _ gateProtocol.Step (fun later => Guarded later ∧
      later.shared.accepted = pool.shared.accepted ∧
        (later.shared.gate.state = .stopped ∨ ∃ entry ∈ later.shared.accepted, entry.2 = true))
    (by
      rintro first second ⟨hguarded, hsame, hstill⟩ hstep
      obtain ⟨haccepted, hlater⟩ := hguarded.closed_step hstill hstep
      exact ⟨hguarded.step hstep, haccepted.trans hsame, hlater⟩) _ _ hpath ⟨h, rfl, hclosed⟩
  exact hall.2.1

/-- The events are items, and then at most one is terminal. -/
theorem ordered (h : Guarded pool) : ∃ items last, pool.shared.accepted = items ++ last ∧
    (∀ entry ∈ items, entry.2 = false) ∧ last.length ≤ 1 ∧ ∀ entry ∈ last, entry.2 = true := by
  have hitems := h.items
  cases hlast : pool.shared.accepted.getLast? with
  | none =>
      rw [List.getLast?_eq_none_iff] at hlast
      exact ⟨[], [], hlast, by simp, by simp, by simp⟩
  | some entry =>
      obtain ⟨items, heq⟩ := List.getLast?_eq_some_iff.mp hlast
      rw [heq, List.dropLast_concat] at hitems
      by_cases hends : entry.2 = true
      · exact ⟨items, [entry], heq, hitems, Nat.le_refl 1, by simpa using hends⟩
      · refine ⟨items ++ [entry], [], by rw [heq, List.append_nil], ?_, Nat.zero_le 1, by simp⟩
        intro other hother
        rcases List.mem_append.mp hother with hmem | hmem
        · exact hitems other hmem
        · rw [List.mem_singleton.mp hmem]
          exact Bool.eq_false_of_not_eq_true hends

/-- With a hook given and the gate stopped, the hook has run or a thread is
    about to run it. -/
theorem hook_once (h : Guarded pool) {hook : Except String Unit} {installed : Except String Bool}
    {stopped : Except String Unit} (hinstall : .install hook (.returned installed) ∈ pool.threads)
    (hstop : .stop (.returned stopped) ∈ pool.threads) :
    pool.shared.hookRuns + pool.threads.countP carries = 1 := by
  have hgave : 0 < pool.threads.countP gave := List.countP_pos_iff.mpr ⟨_, hinstall, rfl⟩
  have hnone := h.emptied (h.placed _ hstop)
  have hhook := h.hook
  have hsingle := h.single
  rw [hnone] at hhook
  simp only [Option.isSome_none, Bool.toNat_false] at hhook
  omega

end Guarded

/-! ## The protocol -/

/-- What holds of a gate whatever its threads do. -/
structure GateLaw (pool : Pool GateShared GateThread) : Prop where
  ordered : ∃ items last, pool.shared.accepted = items ++ last ∧
    (∀ entry ∈ items, entry.2 = false) ∧ last.length ≤ 1 ∧ ∀ entry ∈ last, entry.2 = true
  /-- One event for each call that succeeds, and none for a call that fails. -/
  admitted : pool.shared.accepted.Perm (pool.threads.filterMap GateThread.admission)
  /-- Nothing is accepted after a stop or after a terminal event. -/
  final : ∀ later, ReflTransGen gateProtocol.Step pool later →
    (∃ thread ∈ pool.threads, thread.hasStopped = true) ∨
      (∃ entry ∈ pool.shared.accepted, entry.2 = true) →
    later.shared.accepted = pool.shared.accepted
  /-- What the scope refuses leaves no trace at the gate. -/
  refused : ∀ (index : Nat) event terminal shared thread,
    pool.threads[index]? = some (GateThread.accept event terminal .sending) →
    (pool.shared.scope.acceptSource event).1 = false →
    (GateThread.accept event terminal .sending).act pool.shared = some (shared, thread) →
    shared.gate = pool.shared.gate ∧ shared.accepted = pool.shared.accepted ∧
      thread = .accept event terminal (.leaving false)
  /-- Only an accepted event ends the gate. -/
  ended : pool.shared.gate.state = .terminalAccepted →
    ∃ entry ∈ pool.shared.accepted, entry.2 = true
  hookAtMostOnce : pool.shared.hookRuns ≤ 1
  /-- Once the installation and a stop have returned, the hook has run, or one
      call that is not blocked is about to run it. -/
  hookRuns : ∀ hook installed stopped, GateThread.install hook (.returned installed) ∈ pool.threads →
    GateThread.stop (.returned stopped) ∈ pool.threads →
    pool.shared.hookRuns + pool.threads.countP GateThread.carries = 1
  runnable : ∀ thread ∈ pool.threads, thread.carries = true → (thread.act pool.shared).isSome = true
  /-- When all calls have returned, it has run. -/
  hookRan : ∀ hook installed stopped, GateThread.install hook (.returned installed) ∈ pool.threads →
    GateThread.stop (.returned stopped) ∈ pool.threads → (∀ thread ∈ pool.threads, thread.hasReturned = true) →
    pool.shared.hookRuns = 1

/-- The protocol of a Source gate, for any number of threads that emit, stop
    and install at most one hook, under a scope that changes in any way. -/
theorem gate_protocol {stamp : SourceStamp} {terminalType : DescriptorType TypeId} {scope : Scope}
    {pool : Pool GateShared GateThread}
    (hreach : gateProtocol.Reaches (.new stamp terminalType scope) pool) : GateLaw pool := by
  have h := Guarded.reaches hreach
  refine ⟨h.ordered, h.admitted, ?_, ?_, h.ended, ?_, ?_, ?_, ?_⟩
  · intro later hpath hclosed
    refine h.closed_run (hclosed.imp_left ?_) hpath
    rintro ⟨thread, hthread, hstopped⟩
    have hplaced := h.placed thread hthread
    cases thread with
    | stop place =>
        cases place with
        | leaving hook => exact hplaced
        | running hook => exact hplaced
        | returned result => exact hplaced
        | _ => cases hstopped
    | _ => cases hstopped
  · intro index event terminal shared thread _ hrefused hact
    cases GateThread.acted hact with
    | sent haccepted =>
        rw [hrefused] at haccepted
        cases haccepted
    | refused _ => exact ⟨rfl, rfl, rfl⟩
  · have hhook := h.hook
    have hsingle := h.single
    omega
  · intro hook installed stopped hinstall hstop
    exact h.hook_once hinstall hstop
  · intro thread _ hcarries
    cases thread with
    | accept event terminal place => cases hcarries
    | stop place =>
        cases place with
        | leaving hook => rfl
        | running hook => cases hook <;> rfl
        | _ => cases hcarries
    | install hook place =>
        cases place with
        | leaving runNow => rfl
        | running => rfl
        | _ => cases hcarries
  · intro hook installed stopped hinstall hstop hreturned
    have honce := h.hook_once hinstall hstop
    have hnone : pool.threads.countP GateThread.carries = 0 := by
      refine List.countP_eq_zero.mpr ?_
      intro thread hthread hcarries
      have hdone := hreturned thread hthread
      cases thread with
      | accept event terminal place => cases hcarries
      | stop place =>
          cases place with
          | returned result => cases hcarries
          | _ => cases hdone
      | install hook place =>
          cases place with
          | returned result => cases hcarries
          | _ => cases hdone
    omega

/-! ## Calls that are not disturbed -/

/-- A call of a thread that nothing interrupts. -/
def GateThread.alone (shared : GateShared) (thread : GateThread) : GateShared :=
  (Pool.play (fun shared thread => thread.act shared) ⟨shared, [thread]⟩ [0, 0, 0, 0, 0]).shared

/-- The gate of a realization and its scope, between calls. -/
def Core.gateShared (core : Core) (gate : SourceGate) : GateShared :=
  ⟨gate, false, core.scope, [], 0⟩

/-- An emission is an undisturbed `accept`. -/
theorem emit_alone (core : Core) {generation : Nat} {gate : SourceGate} {event : ErasedSourceEvent}
    (hgate : core.gates[generation]? = some gate)
    (htype : event.type = gate.terminalType.eventType) :
    (core.emit generation event).scope = (GateThread.alone (core.gateShared gate)
        (.accept (.sourceEvent gate.stamp gate.terminalType event) event.isTerminal .waiting)).scope ∧
      (core.emit generation event).gates[generation]? = some (GateThread.alone
        (core.gateShared gate) (.accept (.sourceEvent gate.stamp gate.terminalType event)
          event.isTerminal .waiting)).gate := by
  have hlt := (List.getElem?_eq_some_iff.mp hgate).1
  unfold Core.emit
  rw [hgate]
  by_cases hstate : gate.state = .active
  · have hopen : ¬ ((gate.state ≠ .active || event.type ≠ gate.terminalType.eventType) = true) := by
      simp [hstate, htype]
    dsimp only
    rw [if_neg hopen]
    cases haccepted : (core.scope.acceptSource
        (.sourceEvent gate.stamp gate.terminalType event)).1 with
    | false =>
        simp [GateThread.alone, Pool.play, GateThread.act, GateThread.actAccept,
          GateShared.acquire, GateShared.release, GateShared.refused, Core.gateShared, hstate,
          haccepted, hgate]
    | true =>
        cases hterminal : event.isTerminal with
        | false =>
            simp [GateThread.alone, Pool.play, GateThread.act, GateThread.actAccept,
              GateShared.acquire, GateShared.release, GateShared.sent, Core.gateShared, hstate,
              haccepted, hgate]
        | true =>
            simp [GateThread.alone, Pool.play, GateThread.act, GateThread.actAccept,
              GateShared.acquire, GateShared.release, GateShared.sent, GateShared.withState,
              Core.gateShared, hstate, haccepted, hlt]
  · have hclosed : (gate.state ≠ .active || event.type ≠ gate.terminalType.eventType) = true := by
      simp [hstate]
    dsimp only
    rw [if_pos hclosed]
    simp [GateThread.alone, Pool.play, GateThread.act, GateThread.actAccept, GateShared.acquire,
      GateShared.release, Core.gateShared, hstate, hgate]

/-- An installation, unless it finds the gate stopped, is an undisturbed
    `install_stop_hook`. -/
theorem installStopHook_alone (core : Core) {generation : Nat} {gate : SourceGate}
    (hgate : core.gates[generation]? = some gate) (hnone : gate.stopHook = none)
    (hook : Except String Unit) :
    (core.installStopHook generation hook).gates[generation]? =
      some (GateThread.alone (core.gateShared gate) (.install hook .waiting)).gate := by
  have hlt := (List.getElem?_eq_some_iff.mp hgate).1
  unfold Core.installStopHook
  rw [hgate]
  dsimp only
  by_cases hstate : gate.state = .stopped
  · rw [if_pos hstate, hgate]
    simp [GateThread.alone, Pool.play, GateThread.act, GateThread.actInstall, GateShared.acquire,
      GateShared.release, GateShared.ran, Core.gateShared, hstate]
  · rw [if_neg hstate]
    simp [GateThread.alone, Pool.play, GateThread.act, GateThread.actInstall, GateShared.acquire,
      GateShared.release, GateShared.withHook, Core.gateShared, hstate, hnone, hlt]

/-- The owner's `stop` is an undisturbed one. -/
theorem stop_alone (core : Core) (generation : Nat) (gate : SourceGate) :
    (core.gateStopped generation gate).gates = core.gates.set generation
      (GateThread.alone (core.gateShared gate) (.stop .waiting)).gate := by
  cases hhook : gate.stopHook with
  | none =>
      simp [GateThread.alone, Pool.play, GateThread.act, GateThread.actStop, GateShared.acquire,
        GateShared.release, GateShared.withState, GateShared.withHook, Core.gateShared,
        Core.gateStopped, hhook]
  | some hook =>
      simp [GateThread.alone, Pool.play, GateThread.act, GateThread.actStop, GateShared.acquire,
        GateShared.release, GateShared.withState, GateShared.withHook, GateShared.ran,
        Core.gateShared, Core.gateStopped, hhook]

end Live

end Samara

/-! ## Three calls at once -/

namespace Samara.Live

open Relation (ReflTransGen)
open Threads (Pool)

attribute [local instance] Sample.types

def bellStamp : SourceStamp := ⟨⟨"bell"⟩, ⟨"ring"⟩, 0⟩

def ring (event : SourceEvent Sample.Value Sample.Value) : LiveEvent :=
  .sourceEvent bellStamp (.custom ()) ⟨⟨(), .base ()⟩, event⟩

/-- A Driver that installs its hook, one that emits and ends, and a stop. -/
def callers : List GateThread :=
  [.install (.ok ()) .waiting, .accept (ring (.item (.plain 1))) false .waiting,
    .accept (ring .ended) true .waiting, .stop .waiting]

def belfry : Pool GateShared GateThread := ⟨.new bellStamp (.custom ()) Scope.new, callers⟩

/-- The end comes before the item, and the stop last. -/
def rung : Pool GateShared GateThread :=
  belfry.play (fun shared thread => thread.act shared)
    [2, 1, 2, 0, 2, 2, 3, 2, 1, 1, 0, 1, 0, 0, 3, 0, 3, 3, 3, 3]

theorem rung_reached : gateProtocol.Reaches (.new bellStamp (.custom ()) Scope.new) rung := by
  have hinstall : gateProtocol.Step ⟨.new bellStamp (.custom ()) Scope.new, []⟩
      ⟨.new bellStamp (.custom ()) Scope.new, callers.take 1⟩ := .entered _ (.install _ rfl)
  have hitem : gateProtocol.Step ⟨.new bellStamp (.custom ()) Scope.new, callers.take 1⟩
      ⟨.new bellStamp (.custom ()) Scope.new, callers.take 2⟩ := .entered _ (.accept _ _)
  have hend : gateProtocol.Step ⟨.new bellStamp (.custom ()) Scope.new, callers.take 2⟩
      ⟨.new bellStamp (.custom ()) Scope.new, callers.take 3⟩ := .entered _ (.accept _ _)
  have hstop : gateProtocol.Step ⟨.new bellStamp (.custom ()) Scope.new, callers.take 3⟩ belfry :=
    .entered _ .stop
  have hcallers := ((ReflTransGen.single hinstall).tail hitem).tail hend |>.tail hstop
  exact hcallers.trans (Pool.play_steps (fun _ _ _ _ hacts => hacts) _ belfry)

example : rung.shared.gate.state = .stopped ∧ rung.shared.accepted.map (·.2) = [true] :=
  ⟨rfl, rfl⟩

theorem gate_protocol_rung : rung.shared.hookRuns = 1 := by
  have hinstall : .install (.ok ()) (.returned (.ok true)) ∈ rung.threads :=
    List.mem_of_getElem? (show rung.threads[0]? = _ from rfl)
  have hstop : .stop (.returned (.ok ())) ∈ rung.threads :=
    List.mem_of_getElem? (show rung.threads[3]? = _ from rfl)
  have hreturned : rung.threads.all GateThread.hasReturned = true := rfl
  exact (gate_protocol rung_reached).hookRan _ _ _ hinstall hstop (List.all_eq_true.mp hreturned)

end Samara.Live
