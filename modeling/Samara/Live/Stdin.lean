/-
  Samara.Live.Stdin

  The lease on the standard input of the process (`StdinBinding`,
  `StdinReader` and `StdinReaderControl` in `live_runtime.rs`) while any number
  of bindings acquire it and any number of threads stop the readers: stop
  hooks, `run_stdin_reader` and `Drop` all call `stop_and_join`.

  The compare-exchange, the stores, the locks and the condition variable are
  atomic steps.
-/
import Samara.Logic.Threads

namespace Samara

open Relation (ReflTransGen)
open Threads (Pool Protocol)

namespace Live

/-! ## The calls -/

/-- `StdinReaderControlState`, without what `Running` owns. -/
inductive StdinReaderControlState where
  | running
  | stopping
  | stopped (result : Except String Unit)

/-- `StdinReaderControl` and the thread it controls.  `ended` is what a join of
    the thread returns; `joins` and `clears` are history: how often it has been
    joined, and the flag cleared for it. -/
structure StdinReaderControl where
  state : StdinReaderControlState
  locked : Bool
  cancelled : Bool
  ended : Option (Except String Unit)
  joins : Nat
  clears : Nat

/-- `process_stdin_lease`, and the readers in the order in which they were
    spawned. -/
structure StdinShared where
  active : Bool
  readers : List StdinReaderControl

/-- Where a call of `acquire` is. -/
inductive AcquireAt where
  | exchanging
  | spawning
  | releasing (error : String)
  | returned (result : Except String Nat)

/-- Where a call of `stop_and_join` is. -/
inductive JoinAt where
  | waiting
  | checking
  | sleeping
  | taken
  | cancelling
  | joining
  | clearing (result : Except String Unit)
  | relocking (result : Except String Unit)
  | storing (result : Except String Unit)
  | leaving (result : Except String Unit)
  | returned (result : Except String Unit)

/-- A thread in a call: `spawned` is what `StdinReader::spawn` will return, and
    `reader` is the number of the reader to stop. -/
inductive StdinThread where
  | acquire (spawned : Except String Unit) (place : AcquireAt)
  | stopAndJoin (reader : Nat) (place : JoinAt)

namespace StdinShared

/-- The lease of a process in which nothing has read standard input. -/
def new : StdinShared := ⟨false, []⟩

def withReader (shared : StdinShared) (reader : Nat) (control : StdinReaderControl) : StdinShared :=
  { shared with readers := shared.readers.set reader control }

end StdinShared

namespace StdinThread

/-- The next atomic step of `StdinBinding::acquire`. -/
def actAcquire (spawned : Except String Unit) (shared : StdinShared) :
    AcquireAt → Option (StdinShared × StdinThread)
  | .exchanging =>
      if shared.active then
        some (shared, .acquire spawned (.returned
          (.error "process standard input already has an active Source realization")))
      else some ({ shared with active := true }, .acquire spawned .spawning)
  | .spawning =>
      match spawned with
      | .error error => some (shared, .acquire spawned (.releasing error))
      | .ok () =>
          some ({ shared with readers := shared.readers ++ [⟨.running, false, false, none, 0, 0⟩] },
            .acquire spawned (.returned (.ok shared.readers.length)))
  | .releasing error =>
      some ({ shared with active := false }, .acquire spawned (.returned (.error error)))
  | .returned _ => none

/-- The next atomic step of `StdinReaderControl::stop_and_join`.  `wait` gives
    up the lock as it falls asleep, and may wake at any time. -/
def actJoin (reader : Nat) (shared : StdinShared) (control : StdinReaderControl) :
    JoinAt → Option (StdinShared × StdinThread)
  | .waiting =>
      if control.locked then none
      else some (shared.withReader reader { control with locked := true },
        .stopAndJoin reader .checking)
  | .checking =>
      match control.state with
      | .running => some (shared.withReader reader { control with state := .stopping },
          .stopAndJoin reader .taken)
      | .stopping => some (shared.withReader reader { control with locked := false },
          .stopAndJoin reader .sleeping)
      | .stopped result => some (shared, .stopAndJoin reader (.leaving result))
  | .sleeping => some (shared, .stopAndJoin reader .waiting)
  | .taken => some (shared.withReader reader { control with locked := false },
      .stopAndJoin reader .cancelling)
  | .cancelling => some (shared.withReader reader { control with cancelled := true },
      .stopAndJoin reader .joining)
  | .joining =>
      -- A join blocks until the thread has ended.
      match control.ended with
      | none => none
      | some result => some (shared.withReader reader { control with joins := control.joins + 1 },
          .stopAndJoin reader (.clearing result))
  | .clearing result =>
      some ({ shared.withReader reader { control with clears := control.clears + 1 } with
        active := false }, .stopAndJoin reader (.relocking result))
  | .relocking result =>
      if control.locked then none
      else some (shared.withReader reader { control with locked := true },
        .stopAndJoin reader (.storing result))
  | .storing result => some (shared.withReader reader { control with state := .stopped result },
      .stopAndJoin reader (.leaving result))
  | .leaving result => some (shared.withReader reader { control with locked := false },
      .stopAndJoin reader (.returned result))
  | .returned _ => none

/-- The next atomic step of a call. -/
def act (shared : StdinShared) : StdinThread → Option (StdinShared × StdinThread)
  | .acquire spawned place => actAcquire spawned shared place
  | .stopAndJoin reader place =>
      (shared.readers[reader]?).bind fun control => actJoin reader shared control place

/-- A new call; a reader can be stopped once it has been spawned. -/
inductive Begins (shared : StdinShared) : StdinThread → Prop
  | acquire (spawned : Except String Unit) : Begins shared (.acquire spawned .exchanging)
  | stopAndJoin {reader : Nat} (hspawned : reader < shared.readers.length) :
      Begins shared (.stopAndJoin reader .waiting)

end StdinThread

/-- The thread of a reader ends by itself, or because it was cancelled. -/
inductive StdinShared.Moves (shared : StdinShared) : StdinShared → Prop
  | ended {reader : Nat} {control : StdinReaderControl}
      (hreader : shared.readers[reader]? = some control) (hlives : control.ended = none)
      (result : Except String Unit) :
      Moves shared (shared.withReader reader { control with ended := some result })

def stdinProtocol : Protocol StdinShared StdinThread where
  Enters pool := StdinThread.Begins pool.shared
  Acts shared thread shared' thread' := thread.act shared = some (shared', thread')
  Moves := StdinShared.Moves

/-! ## What is known of a reader -/

namespace StdinReaderControl

/-- Whether the flag is still set for a reader. -/
def leased (control : StdinReaderControl) : Bool := control.clears = 0

/-- Whether the thread of a reader has yet to be joined. -/
def unjoined (control : StdinReaderControl) : Bool := control.joins = 0

def isStopping (control : StdinReaderControl) : Bool :=
  match control.state with
  | .stopping => true
  | .running | .stopped _ => false

/-- A reader is joined and then the flag cleared, once each, before it is
    stopped. -/
def Fits (control : StdinReaderControl) : Prop :=
  match control.state with
  | .running => control.joins = 0 ∧ control.clears = 0
  | .stopping => control.joins ≤ 1 ∧ control.clears ≤ control.joins
  | .stopped result => control.joins = 1 ∧ control.clears = 1 ∧ control.ended = some result

/-- What a call of `stop_and_join` knows of its reader where it is. -/
def Known (control : StdinReaderControl) : JoinAt → Prop
  | .waiting | .checking | .sleeping => True
  | .taken | .cancelling | .joining =>
      control.state = .stopping ∧ control.joins = 0 ∧ control.clears = 0
  | .clearing result => control.state = .stopping ∧ control.joins = 1 ∧ control.clears = 0 ∧
      control.ended = some result
  | .relocking result | .storing result => control.state = .stopping ∧ control.joins = 1 ∧
      control.clears = 1 ∧ control.ended = some result
  | .leaving result | .returned result => control.state = .stopped result

end StdinReaderControl

/-- Whether a call is the one that stops its reader. -/
def JoinAt.stops : JoinAt → Bool
  | .taken | .cancelling | .joining | .clearing _ | .relocking _ | .storing _ => true
  | .waiting | .checking | .sleeping | .leaving _ | .returned _ => false

namespace StdinThread

/-- Whether the call has the flag for a reader that is being spawned. -/
def spawns : StdinThread → Bool
  | .acquire _ .spawning | .acquire _ (.releasing _) => true
  | _ => false

/-- Whether the call is the one that stops the reader of this number. -/
def stops (reader : Nat) : StdinThread → Bool
  | .stopAndJoin other place => other = reader && place.stops
  | .acquire _ _ => false

/-- What a thread knows where it is. -/
def Placed (shared : StdinShared) : StdinThread → Prop
  | .acquire _ _ => True
  | .stopAndJoin reader place => ∃ control, shared.readers[reader]? = some control ∧
      control.Known place

end StdinThread

/-! ## What one step of `stop_and_join` does -/

/-- A step of `stop_and_join`: the flag, the reader and the place after it. -/
inductive Joined (active : Bool) (control : StdinReaderControl) :
    JoinAt → Bool → StdinReaderControl → JoinAt → Prop
  | locked : Joined active control .waiting active { control with locked := true } .checking
  | taken (hstate : control.state = .running) :
      Joined active control .checking active { control with state := .stopping } .taken
  | slept (hstate : control.state = .stopping) :
      Joined active control .checking active { control with locked := false } .sleeping
  | found {result : Except String Unit} (hstate : control.state = .stopped result) :
      Joined active control .checking active control (.leaving result)
  | woken : Joined active control .sleeping active control .waiting
  | unlocked : Joined active control .taken active { control with locked := false } .cancelling
  | cancelled : Joined active control .cancelling active { control with cancelled := true } .joining
  | joined {result : Except String Unit} (hended : control.ended = some result) :
      Joined active control .joining active { control with joins := control.joins + 1 }
        (.clearing result)
  | cleared {result : Except String Unit} :
      Joined active control (.clearing result) false { control with clears := control.clears + 1 }
        (.relocking result)
  | relocked {result : Except String Unit} :
      Joined active control (.relocking result) active { control with locked := true }
        (.storing result)
  | stored {result : Except String Unit} :
      Joined active control (.storing result) active { control with state := .stopped result }
        (.leaving result)
  | left {result : Except String Unit} :
      Joined active control (.leaving result) active { control with locked := false }
        (.returned result)

section Joins

variable {active active' : Bool} {control control' : StdinReaderControl} {place place' : JoinAt}

theorem set_self {α : Type} {rows : List α} {index : Nat} {row : α} (h : rows[index]? = some row) :
    rows.set index row = rows := by
  obtain ⟨hlt, rfl⟩ := List.getElem?_eq_some_iff.mp h
  exact List.set_getElem_self hlt

theorem actJoin_joined {shared shared' : StdinShared} {thread' : StdinThread} {reader : Nat}
    (hreader : shared.readers[reader]? = some control)
    (h : StdinThread.actJoin reader shared control place = some (shared', thread')) :
    ∃ active' control' place', Joined shared.active control place active' control' place' ∧
      shared' = ⟨active', shared.readers.set reader control'⟩ ∧
        thread' = .stopAndJoin reader place' := by
  have hsame : shared = ⟨shared.active, shared.readers.set reader control⟩ := by
    rw [set_self hreader]
  cases place with
  | waiting =>
      unfold StdinThread.actJoin at h
      dsimp only at h
      split at h
      · cases h
      · cases h
        exact ⟨_, _, _, .locked, rfl, rfl⟩
  | checking =>
      unfold StdinThread.actJoin at h
      dsimp only at h
      split at h
      · rename_i hstate
        cases h
        exact ⟨_, _, _, .taken hstate, rfl, rfl⟩
      · rename_i hstate
        cases h
        exact ⟨_, _, _, .slept hstate, rfl, rfl⟩
      · rename_i hstate
        cases h
        exact ⟨_, _, _, .found hstate, hsame, rfl⟩
  | sleeping =>
      cases h
      exact ⟨_, _, _, .woken, hsame, rfl⟩
  | taken =>
      cases h
      exact ⟨_, _, _, .unlocked, rfl, rfl⟩
  | cancelling =>
      cases h
      exact ⟨_, _, _, .cancelled, rfl, rfl⟩
  | joining =>
      unfold StdinThread.actJoin at h
      dsimp only at h
      split at h
      · cases h
      · rename_i hended
        cases h
        exact ⟨_, _, _, .joined hended, rfl, rfl⟩
  | clearing result =>
      cases h
      exact ⟨_, _, _, .cleared, rfl, rfl⟩
  | relocking result =>
      unfold StdinThread.actJoin at h
      dsimp only at h
      split at h
      · cases h
      · cases h
        exact ⟨_, _, _, .relocked, rfl, rfl⟩
  | storing result =>
      cases h
      exact ⟨_, _, _, .stored, rfl, rfl⟩
  | leaving result =>
      cases h
      exact ⟨_, _, _, .left, rfl, rfl⟩
  | returned result => cases h

namespace Joined

/-- The place after a step is known of. -/
theorem known (h : Joined active control place active' control' place')
    (hfits : control.Fits) (hknown : control.Known place) : control'.Known place' := by
  cases h with
  | locked | slept | woken => trivial
  | taken hstate =>
      unfold StdinReaderControl.Fits at hfits
      rw [hstate] at hfits
      exact ⟨rfl, hfits⟩
  | found hstate => exact hstate
  | unlocked | cancelled => exact hknown
  | joined hended =>
      obtain ⟨hstate, hjoins, hclears⟩ := hknown
      exact ⟨hstate, congrArg Nat.succ hjoins, hclears, hended⟩
  | cleared =>
      obtain ⟨hstate, hjoins, hclears, hended⟩ := hknown
      exact ⟨hstate, hjoins, congrArg Nat.succ hclears, hended⟩
  | relocked => exact hknown
  | stored => rfl
  | left => exact hknown

theorem fits (h : Joined active control place active' control' place')
    (hfits : control.Fits) (hknown : control.Known place) : control'.Fits := by
  cases h with
  | taken hstate =>
      unfold StdinReaderControl.Fits at hfits
      rw [hstate] at hfits
      obtain ⟨hjoins, hclears⟩ := hfits
      show control.joins ≤ 1 ∧ control.clears ≤ control.joins
      omega
  | joined hended =>
      obtain ⟨hstate, hjoins, hclears⟩ := hknown
      unfold StdinReaderControl.Fits
      dsimp only
      rw [hstate]
      show control.joins + 1 ≤ 1 ∧ control.clears ≤ control.joins + 1
      omega
  | cleared =>
      obtain ⟨hstate, hjoins, hclears, _⟩ := hknown
      unfold StdinReaderControl.Fits
      dsimp only
      rw [hstate]
      show control.joins ≤ 1 ∧ control.clears + 1 ≤ control.joins
      omega
  | stored =>
      obtain ⟨hstate, hjoins, hclears, hended⟩ := hknown
      exact ⟨hjoins, hclears, hended⟩
  | _ => exact hfits

/-- The call that stops a reader is the one it is stopping for. -/
theorem stopping (h : Joined active control place active' control' place')
    (hknown : control.Known place) :
    control'.isStopping.toNat + place.stops.toNat = control.isStopping.toNat + place'.stops.toNat := by
  cases h with
  | taken hstate =>
      unfold StdinReaderControl.isStopping
      rw [hstate]
      rfl
  | stored =>
      unfold StdinReaderControl.isStopping
      rw [hknown.1]
      rfl
  | _ => rfl

/-- The flag is cleared for the reader that it is set for. -/
theorem flag (h : Joined active control place active' control' place')
    (hknown : control.Known place) (hleased : control.leased = true → active = true) :
    active'.toNat + control.leased.toNat = active.toNat + control'.leased.toNat := by
  cases h with
  | cleared =>
      obtain ⟨_, _, hclears, _⟩ := hknown
      have hbefore : control.leased = true := decide_eq_true hclears
      rw [hleased hbefore, hbefore]
      rfl
  | _ => rfl

/-- What another call knows of the reader survives the step: the two do not
    both stop it. -/
theorem other (h : Joined active control place active' control' place') {elsewhere : JoinAt}
    (hknown : control.Known place) (helsewhere : control.Known elsewhere)
    (hone : place.stops = true → elsewhere.stops = false) : control'.Known elsewhere := by
  have hstill (hstop : place.stops = true) (hstate : control.state = .stopping) :
      control'.Known elsewhere := by
    have hnot := hone hstop
    cases elsewhere with
    | waiting | checking | sleeping => trivial
    | leaving result =>
        rw [show control.state = .stopped result from helsewhere] at hstate
        cases hstate
    | returned result =>
        rw [show control.state = .stopped result from helsewhere] at hstate
        cases hstate
    | _ => cases hnot
  cases h with
  | taken hstate =>
      cases elsewhere with
      | waiting | checking | sleeping => trivial
      | leaving result =>
          rw [show control.state = .stopped result from helsewhere] at hstate
          cases hstate
      | returned result =>
          rw [show control.state = .stopped result from helsewhere] at hstate
          cases hstate
      | _ =>
          rw [helsewhere.1] at hstate
          cases hstate
  | unlocked | cancelled | joined | cleared | relocked | stored => exact hstill rfl hknown.1
  | locked | slept | found | woken | left => exact helsewhere

end Joined

end Joins

/-! ## The invariant -/

/-- The flag is set for one reader, or for one that is being spawned; a reader
    that is being stopped is stopped by one call. -/
structure Leased (pool : Pool StdinShared StdinThread) : Prop where
  flag : pool.shared.readers.countP StdinReaderControl.leased +
    pool.threads.countP StdinThread.spawns = pool.shared.active.toNat
  stoppers : ∀ (reader : Nat) control, pool.shared.readers[reader]? = some control →
    pool.threads.countP (StdinThread.stops reader) = control.isStopping.toNat
  fits : ∀ control ∈ pool.shared.readers, control.Fits
  placed : ∀ thread ∈ pool.threads, thread.Placed pool.shared

namespace Leased

open StdinThread (spawns stops Placed)

variable {pool : Pool StdinShared StdinThread} {index reader : Nat} {thread thread' : StdinThread}
  {shared : StdinShared} {control : StdinReaderControl}

theorem new : Leased ⟨.new, []⟩ where
  flag := rfl
  stoppers reader control hreader := by cases hreader
  fits control hcontrol := by cases hcontrol
  placed thread hthread := by cases hthread

theorem active_of_leased (h : Leased pool) (hreader : pool.shared.readers[reader]? = some control)
    (hleased : control.leased = true) : pool.shared.active = true := by
  have hpos := Threads.countP_pos_of_getElem? hreader hleased
  have hflag := h.flag
  by_contra hfree
  rw [eq_false_of_ne_true hfree] at hflag
  simp only [Bool.toNat_false] at hflag
  omega

theorem active_of_spawns (h : Leased pool) (hthread : pool.threads[index]? = some thread)
    (hspawns : thread.spawns = true) : pool.shared.active = true := by
  have hpos := Threads.countP_pos_of_getElem? hthread hspawns
  have hflag := h.flag
  by_contra hfree
  rw [eq_false_of_ne_true hfree] at hflag
  simp only [Bool.toNat_false] at hflag
  omega

/-- A reader is stopped by one call. -/
theorem one_stopper (h : Leased pool) {place elsewhere : JoinAt} {other : Nat} (hne : other ≠ index)
    (hreader : pool.shared.readers[reader]? = some control)
    (hthread : pool.threads[index]? = some (.stopAndJoin reader place))
    (hother : pool.threads[other]? = some (.stopAndJoin reader elsewhere))
    (hstops : place.stops = true) : elsewhere.stops = false := by
  have hone : pool.threads.countP (stops reader) ≤ 1 := by
    rw [h.stoppers reader control hreader]
    cases control.isStopping <;> decide
  have hself {at' : JoinAt} (hat : at'.stops = true) :
      stops reader (.stopAndJoin reader at') = true := by
    simp [stops, hat]
  by_contra hboth
  exact hne (Threads.eq_of_countP_le_one hone hthread (hself hstops) hother
    (hself (eq_true_of_ne_false hboth)))

/-- A call that has nothing to do with the readers. -/
theorem acquire_stops {spawned : Except String Unit} {place place' : AcquireAt}
    (hthread : pool.threads[index]? = some (.acquire spawned place)) (reader : Nat) :
    (pool.threads.set index (.acquire spawned place')).countP (stops reader) =
      pool.threads.countP (stops reader) :=
  Threads.countP_set_of_eq hthread rfl

/-- A step of `acquire` that leaves the readers alone. -/
theorem acquired (h : Leased pool) {spawned : Except String Unit} {place place' : AcquireAt}
    {active : Bool} (hthread : pool.threads[index]? = some (.acquire spawned place))
    (hflag : active.toNat + (spawns (.acquire spawned place)).toNat =
      pool.shared.active.toNat + (spawns (.acquire spawned place')).toNat) :
    Leased ⟨{ pool.shared with active }, pool.threads.set index (.acquire spawned place')⟩ := by
  refine ⟨?_, ?_, h.fits, Threads.forall_set trivial ?_⟩
  · have hspawns := Threads.countP_set spawns hthread (.acquire spawned place')
    have hbefore := h.flag
    dsimp only
    omega
  · intro reader control hreader
    rw [acquire_stops hthread]
    exact h.stoppers reader control hreader
  · intro place other _ hother
    exact h.placed other (List.mem_of_getElem? hother)

/-- A reader has been spawned. -/
theorem spawned (h : Leased pool) {spawned : Except String Unit}
    (hthread : pool.threads[index]? = some (.acquire spawned .spawning)) (number : Nat) :
    Leased ⟨{ pool.shared with
        readers := pool.shared.readers ++ [⟨.running, false, false, none, 0, 0⟩] },
      pool.threads.set index (.acquire spawned (.returned (.ok number)))⟩ := by
  have hbound {reader : Nat} {place : JoinAt}
      (hplaced : Placed pool.shared (.stopAndJoin reader place)) :
      reader < pool.shared.readers.length := by
    obtain ⟨control, hreader, _⟩ := hplaced
    exact (List.getElem?_eq_some_iff.mp hreader).1
  have hsame {other : StdinThread} (hplaced : Placed pool.shared other) :
      Placed { pool.shared with
        readers := pool.shared.readers ++ [⟨.running, false, false, none, 0, 0⟩] } other := by
    cases other with
    | acquire spawned place => trivial
    | stopAndJoin reader place =>
        have hlt := hbound hplaced
        obtain ⟨control, hreader, hknown⟩ := hplaced
        refine ⟨control, ?_, hknown⟩
        rw [List.getElem?_append_left hlt]
        exact hreader
  refine ⟨?_, ?_, Threads.forall_snoc ⟨rfl, rfl⟩ h.fits, Threads.forall_set trivial ?_⟩
  · have hspawns := Threads.countP_set spawns hthread (.acquire spawned (.returned (.ok number)))
    have hleased := Threads.countP_snoc StdinReaderControl.leased pool.shared.readers
      ⟨.running, false, false, none, 0, 0⟩
    have hflag := h.flag
    simp only [spawns, StdinReaderControl.leased, decide_true, Bool.toNat_true,
      Bool.toNat_false] at hspawns hleased
    dsimp only
    omega
  · intro reader control hreader
    rw [acquire_stops hthread]
    by_cases hlt : reader < pool.shared.readers.length
    · rw [List.getElem?_append_left hlt] at hreader
      exact h.stoppers reader control hreader
    · -- No call can have named the new reader.
      have hnone : pool.threads.countP (stops reader) = 0 := by
        refine List.countP_eq_zero.mpr ?_
        intro other hother hstops
        cases other with
        | acquire spawned place => cases hstops
        | stopAndJoin named place =>
            have hnamed : named = reader := by
              simp only [stops, Bool.and_eq_true, decide_eq_true_eq] at hstops
              exact hstops.1
            exact hlt (hnamed ▸ hbound (h.placed _ hother))
      rw [List.getElem?_append_right (Nat.le_of_not_lt hlt)] at hreader
      rw [hnone, List.mem_singleton.mp (List.mem_of_getElem? hreader)]
      rfl
  · intro place other _ hother
    exact hsame (h.placed other (List.mem_of_getElem? hother))

/-- A step of `stop_and_join`. -/
theorem joined (h : Leased pool) {place place' : JoinAt} {active : Bool}
    {control' : StdinReaderControl}
    (hthread : pool.threads[index]? = some (.stopAndJoin reader place))
    (hreader : pool.shared.readers[reader]? = some control)
    (hjoined : Joined pool.shared.active control place active control' place') :
    Leased ⟨⟨active, pool.shared.readers.set reader control'⟩,
      pool.threads.set index (.stopAndJoin reader place')⟩ := by
  have hlt := (List.getElem?_eq_some_iff.mp hreader).1
  have hfits := h.fits control (List.mem_of_getElem? hreader)
  have hknown : control.Known place := by
    obtain ⟨found, hfound, hknown⟩ := h.placed _ (List.mem_of_getElem? hthread)
    rw [hreader] at hfound
    cases hfound
    exact hknown
  refine ⟨?_, ?_, ?_, ?_⟩
  · have hleased := Threads.countP_set StdinReaderControl.leased hreader control'
    have hspawns : (pool.threads.set index (.stopAndJoin reader place')).countP spawns =
        pool.threads.countP spawns := Threads.countP_set_of_eq hthread rfl
    have hmoved := hjoined.flag hknown (h.active_of_leased hreader)
    have hflag := h.flag
    dsimp only
    omega
  · intro named found hfound
    dsimp only at hfound ⊢
    have hcount := Threads.countP_set (stops named) hthread (.stopAndJoin reader place')
    by_cases hsame : reader = named
    · subst hsame
      rw [List.getElem?_set_self hlt] at hfound
      cases hfound
      have hmoved := hjoined.stopping hknown
      have hbefore := h.stoppers reader control hreader
      simp only [stops, decide_true, Bool.true_and] at hcount
      omega
    · rw [List.getElem?_set_ne hsame] at hfound
      have hbefore := h.stoppers named found hfound
      simp only [stops, hsame, decide_false, Bool.false_and, Bool.toNat_false] at hcount
      omega
  · refine Threads.forall_set (hjoined.fits hfits hknown) ?_
    intro named found _ hfound
    exact h.fits found (List.mem_of_getElem? hfound)
  · refine Threads.forall_set ⟨control', List.getElem?_set_self hlt, hjoined.known hfits hknown⟩ ?_
    intro other found hne hother
    have hplaced := h.placed found (List.mem_of_getElem? hother)
    cases found with
    | acquire spawned elsewhere => trivial
    | stopAndJoin named elsewhere =>
        obtain ⟨known, hnamed, hthere⟩ := hplaced
        by_cases hsame : reader = named
        · subst hsame
          rw [hreader] at hnamed
          cases hnamed
          exact ⟨control', List.getElem?_set_self hlt, hjoined.other hknown hthere
            (h.one_stopper hne hreader hthread hother)⟩
        · exact ⟨known, (List.getElem?_set_ne hsame).trans hnamed, hthere⟩

theorem acted (h : Leased pool) (hthread : pool.threads[index]? = some thread)
    (hacts : thread.act pool.shared = some (shared, thread')) :
    Leased ⟨shared, pool.threads.set index thread'⟩ := by
  cases thread with
  | stopAndJoin reader place =>
      obtain ⟨control, hreader, hjoin⟩ := Option.bind_eq_some_iff.mp hacts
      obtain ⟨active, control', place', hjoined, rfl, rfl⟩ := actJoin_joined hreader hjoin
      exact h.joined hthread hreader hjoined
  | acquire spawned place =>
      cases place with
      | exchanging =>
          unfold StdinThread.act StdinThread.actAcquire at hacts
          dsimp only at hacts
          split at hacts
          · cases hacts
            exact h.acquired hthread rfl
          · rename_i hfree
            cases hacts
            refine h.acquired hthread ?_
            rw [eq_false_of_ne_true hfree]
            rfl
      | spawning =>
          cases spawned with
          | error error =>
              cases hacts
              exact h.acquired hthread rfl
          | ok value =>
              cases hacts
              exact h.spawned hthread _
      | releasing error =>
          cases hacts
          refine h.acquired hthread ?_
          rw [h.active_of_spawns hthread rfl]
          rfl
      | returned result => cases hacts

theorem entered (h : Leased pool) (hbegins : StdinThread.Begins pool.shared thread) :
    Leased ⟨pool.shared, pool.threads ++ [thread]⟩ := by
  have hfresh : thread.spawns = false ∧ (∀ reader, thread.stops reader = false) ∧
      thread.Placed pool.shared := by
    cases hbegins with
    | acquire spawned => exact ⟨rfl, fun _ => rfl, trivial⟩
    | stopAndJoin hspawned =>
        refine ⟨rfl, fun reader => Bool.and_false _, _, List.getElem?_eq_getElem hspawned, trivial⟩
  obtain ⟨hspawns, hstops, hplaced⟩ := hfresh
  refine ⟨?_, ?_, h.fits, Threads.forall_snoc hplaced h.placed⟩
  · have hcount := Threads.countP_snoc spawns pool.threads thread
    rw [hspawns] at hcount
    exact (congrArg _ hcount).trans h.flag
  · intro reader control hreader
    have hcount := Threads.countP_snoc (stops reader) pool.threads thread
    rw [hstops reader] at hcount
    exact hcount.trans (h.stoppers reader control hreader)

/-- The thread of a reader has ended. -/
theorem ended (h : Leased pool) (hreader : pool.shared.readers[reader]? = some control)
    (hlives : control.ended = none) (result : Except String Unit) :
    Leased { pool with
      shared := pool.shared.withReader reader { control with ended := some result } } := by
  have hlt := (List.getElem?_eq_some_iff.mp hreader).1
  have hfits := h.fits control (List.mem_of_getElem? hreader)
  refine ⟨?_, ?_, ?_, ?_⟩
  · have hleased : (pool.shared.readers.set reader { control with ended := some result }).countP
        StdinReaderControl.leased = pool.shared.readers.countP StdinReaderControl.leased :=
      Threads.countP_set_of_eq hreader rfl
    exact (congrArg (· + _) hleased).trans h.flag
  · intro named found hfound
    by_cases hsame : reader = named
    · subst hsame
      rw [show (pool.shared.withReader reader _).readers[reader]? = _ from
        List.getElem?_set_self hlt] at hfound
      cases hfound
      exact h.stoppers reader control hreader
    · rw [show (pool.shared.withReader reader _).readers[named]? = _ from
        List.getElem?_set_ne hsame] at hfound
      exact h.stoppers named found hfound
  · refine Threads.forall_set ?_ fun named found _ hfound =>
      h.fits found (List.mem_of_getElem? hfound)
    unfold StdinReaderControl.Fits at hfits ⊢
    dsimp only
    cases hstate : control.state with
    | running =>
        rw [hstate] at hfits
        exact hfits
    | stopping =>
        rw [hstate] at hfits
        exact hfits
    | stopped joined =>
        rw [hstate, hlives] at hfits
        cases hfits.2.2
  · intro thread hthread
    have hplaced := h.placed thread hthread
    cases thread with
    | acquire spawned place => trivial
    | stopAndJoin named place =>
        obtain ⟨known, hnamed, hknown⟩ := hplaced
        by_cases hsame : reader = named
        · subst hsame
          rw [hreader] at hnamed
          cases hnamed
          refine ⟨_, List.getElem?_set_self hlt, ?_⟩
          cases place with
          | clearing joined =>
              rw [hknown.2.2.2] at hlives
              cases hlives
          | relocking joined =>
              rw [hknown.2.2.2] at hlives
              cases hlives
          | storing joined =>
              rw [hknown.2.2.2] at hlives
              cases hlives
          | _ => exact hknown
        · exact ⟨known, (List.getElem?_set_ne hsame).trans hnamed, hknown⟩

theorem step {pool' : Pool StdinShared StdinThread} (h : Leased pool)
    (hstep : stdinProtocol.Step pool pool') : Leased pool' := by
  cases hstep with
  | entered thread henters => exact h.entered henters
  | acted index hthread hacts => exact h.acted hthread hacts
  | moved hmoves =>
      cases hmoves with
      | ended hreader hlives result => exact h.ended hreader hlives result

theorem reaches (h : stdinProtocol.Reaches .new pool) : Leased pool :=
  h.invariant .new fun _ _ hleased hstep => hleased.step hstep

end Leased

/-! ## The lease -/

/-- What holds of the lease whatever its threads do. -/
structure StdinLaw (pool : Pool StdinShared StdinThread) : Prop where
  /-- At most one reader has been acquired, or is being spawned, and has yet to
      be joined. -/
  exclusive : pool.shared.readers.countP StdinReaderControl.unjoined +
    pool.threads.countP StdinThread.spawns ≤ 1
  /-- The flag is set exactly while a reader has it, or one is being spawned. -/
  lease : pool.shared.active = true ↔ (∃ control ∈ pool.shared.readers, control.clears = 0) ∨
    ∃ thread ∈ pool.threads, thread.spawns = true
  /-- No reader is joined twice, or the flag cleared twice for one. -/
  once : ∀ control ∈ pool.shared.readers, control.joins ≤ 1 ∧ control.clears ≤ control.joins
  /-- When a call has returned, its reader has been joined and the flag cleared
      for it, and the call returns what the join did. -/
  stopped : ∀ reader result, StdinThread.stopAndJoin reader (.returned result) ∈ pool.threads →
    ∃ control, pool.shared.readers[reader]? = some control ∧ control.joins = 1 ∧
      control.clears = 1 ∧ control.ended = some result
  same : ∀ reader first second,
    StdinThread.stopAndJoin reader (.returned first) ∈ pool.threads →
    StdinThread.stopAndJoin reader (.returned second) ∈ pool.threads → first = second
  /-- A call that stops a reader clears the flag for that reader alone. -/
  releases : ∀ (index reader : Nat) place shared thread,
    pool.threads[index]? = some (StdinThread.stopAndJoin reader place) →
    (StdinThread.stopAndJoin reader place).act pool.shared = some (shared, thread) →
    shared.active = pool.shared.active ∨
      (∃ control, pool.shared.readers[reader]? = some control ∧ control.clears = 0) ∧
        (∀ (other : Nat) control, pool.shared.readers[other]? = some control → other ≠ reader →
          control.clears ≠ 0) ∧
        ∀ thread ∈ pool.threads, thread.spawns = false
  /-- So does an acquisition whose reader could not be spawned. -/
  withdraws : ∀ (index : Nat) spawned error,
    pool.threads[index]? = some (StdinThread.acquire spawned (.releasing error)) →
    ∀ control ∈ pool.shared.readers, control.clears ≠ 0

namespace Leased

open StdinThread (spawns)

variable {pool : Pool StdinShared StdinThread} {index reader : Nat} {control : StdinReaderControl}

theorem returned (h : Leased pool) {result : Except String Unit}
    (hreturned : StdinThread.stopAndJoin reader (.returned result) ∈ pool.threads) :
    ∃ control, pool.shared.readers[reader]? = some control ∧ control.state = .stopped result ∧
      control.joins = 1 ∧ control.clears = 1 ∧ control.ended = some result := by
  obtain ⟨control, hreader, hstate⟩ := h.placed _ hreturned
  have hfits := h.fits control (List.mem_of_getElem? hreader)
  unfold StdinReaderControl.Fits at hfits
  rw [show control.state = .stopped result from hstate] at hfits
  exact ⟨control, hreader, hstate, hfits⟩

theorem leased_le_one (h : Leased pool) :
    pool.shared.readers.countP StdinReaderControl.leased + pool.threads.countP spawns ≤ 1 := by
  rw [h.flag]
  cases pool.shared.active <;> decide

/-- A reader that has the flag is the only one, and none is being spawned. -/
theorem alone (h : Leased pool) (hreader : pool.shared.readers[reader]? = some control)
    (hleased : control.leased = true) :
    (∀ (other : Nat) control, pool.shared.readers[other]? = some control → other ≠ reader →
        control.clears ≠ 0) ∧ ∀ thread ∈ pool.threads, thread.spawns = false := by
  have hone := h.leased_le_one
  have hpos := Threads.countP_pos_of_getElem? hreader hleased
  constructor
  · intro other found hfound hne hclears
    refine hne (Threads.eq_of_countP_le_one ?_ hreader hleased hfound (decide_eq_true hclears))
    omega
  · intro thread hthread
    have hnone : pool.threads.countP spawns = 0 := by omega
    exact eq_false_of_ne_true (List.countP_eq_zero.mp hnone thread hthread)

/-- The flag is only cleared for a reader that still has it. -/
theorem cleared (h : Leased pool) {place : JoinAt} {shared : StdinShared} {thread : StdinThread}
    (hthread : pool.threads[index]? = some (.stopAndJoin reader place))
    (hact : (StdinThread.stopAndJoin reader place).act pool.shared = some (shared, thread)) :
    shared.active = pool.shared.active ∨
      ∃ control, pool.shared.readers[reader]? = some control ∧ control.leased = true := by
  obtain ⟨control, hreader, hknown⟩ := h.placed _ (List.mem_of_getElem? hthread)
  obtain ⟨found, hfound, hjoin⟩ := Option.bind_eq_some_iff.mp hact
  rw [hreader] at hfound
  cases hfound
  obtain ⟨active, control', place', hjoined, rfl, rfl⟩ := actJoin_joined hreader hjoin
  cases hjoined with
  | cleared =>
      obtain ⟨_, _, hclears, _⟩ := hknown
      exact Or.inr ⟨control, hreader, decide_eq_true hclears⟩
  | _ => exact Or.inl rfl

end Leased

/-- The lease on standard input is exclusive, and is given up once for each
    reader, for any number of bindings that acquire it and of calls that stop
    their readers. -/
theorem stdin_lease {pool : Pool StdinShared StdinThread}
    (hreach : stdinProtocol.Reaches .new pool) : StdinLaw pool := by
  have h := Leased.reaches hreach
  refine ⟨?_, ?_, ?_, ?_, ?_, ?_, ?_⟩
  · have hone := h.leased_le_one
    have hmost : pool.shared.readers.countP StdinReaderControl.unjoined ≤
        pool.shared.readers.countP StdinReaderControl.leased := by
      refine List.countP_mono_left fun control hcontrol hunjoined => ?_
      have hfits := h.fits control hcontrol
      have hjoins : control.joins = 0 := of_decide_eq_true hunjoined
      refine decide_eq_true ?_
      unfold StdinReaderControl.Fits at hfits
      split at hfits
      · exact hfits.2
      · omega
      · omega
    omega
  · have hflag := h.flag
    constructor
    · intro hactive
      rw [hactive] at hflag
      by_cases hspawns : pool.threads.countP StdinThread.spawns = 0
      · have hpos : 0 < pool.shared.readers.countP StdinReaderControl.leased := by
          rw [hspawns] at hflag
          exact Nat.lt_of_lt_of_eq Nat.zero_lt_one hflag.symm
        obtain ⟨control, hcontrol, hleased⟩ := List.countP_pos_iff.mp hpos
        exact Or.inl ⟨control, hcontrol, of_decide_eq_true hleased⟩
      · exact Or.inr (List.countP_pos_iff.mp (Nat.pos_of_ne_zero hspawns))
    · rintro (⟨control, hcontrol, hclears⟩ | ⟨thread, hthread, hspawns⟩)
      · obtain ⟨reader, hreader⟩ := List.getElem?_of_mem hcontrol
        exact h.active_of_leased hreader (decide_eq_true hclears)
      · obtain ⟨index, hindex⟩ := List.getElem?_of_mem hthread
        exact h.active_of_spawns hindex hspawns
  · intro control hcontrol
    have hfits := h.fits control hcontrol
    unfold StdinReaderControl.Fits at hfits
    split at hfits
    · omega
    · exact hfits
    · omega
  · intro reader result hreturned
    obtain ⟨control, hreader, _, hrest⟩ := h.returned hreturned
    exact ⟨control, hreader, hrest⟩
  · intro reader first second hfirst hsecond
    obtain ⟨control, hreader, hstate, _⟩ := h.returned hfirst
    obtain ⟨control', hreader', hstate', _⟩ := h.returned hsecond
    rw [hreader] at hreader'
    cases hreader'
    rw [hstate] at hstate'
    cases hstate'
    rfl
  · intro index reader place shared thread hthread hact
    rcases h.cleared hthread hact with hsame | ⟨control, hreader, hleased⟩
    · exact Or.inl hsame
    · exact Or.inr ⟨⟨control, hreader, of_decide_eq_true hleased⟩, h.alone hreader hleased⟩
  · intro index spawned error hthread control hcontrol hclears
    have hpos := Threads.countP_pos_of_getElem? hthread
      (show StdinThread.spawns (.acquire spawned (.releasing error)) = true from rfl)
    have hleased : 0 < pool.shared.readers.countP StdinReaderControl.leased :=
      List.countP_pos_iff.mpr ⟨control, hcontrol, decide_eq_true hclears⟩
    have hone := h.leased_le_one
    omega

/-! ## One reader after another -/

/-- A reader is acquired while another binding tries to. -/
def acquired : Pool StdinShared StdinThread :=
  Pool.play (fun shared thread => thread.act shared)
    ⟨.new, [.acquire (.ok ()) .exchanging, .acquire (.ok ()) .exchanging]⟩ [0, 1, 0]

/-- Its stop hook and its `Drop` both stop it. -/
def stopping : Pool StdinShared StdinThread :=
  Pool.play (fun shared thread => thread.act shared)
    { acquired with threads := acquired.threads ++
      [.stopAndJoin 0 .waiting, .stopAndJoin 0 .waiting] }
    [2, 2, 3, 2, 3, 3, 2]

def endedReader : StdinReaderControl := ⟨.stopping, false, true, some (.ok ()), 0, 0⟩

/-- Its thread ends, and the flag is cleared; then the next reader is acquired
    before the second call looks at the first. -/
def reacquired : Pool StdinShared StdinThread :=
  Pool.play (fun shared thread => thread.act shared)
    ⟨stopping.shared.withReader 0 endedReader, stopping.threads ++ [.acquire (.ok ()) .exchanging]⟩
    [2, 2, 4, 4, 2, 2, 2, 3, 3, 3, 3]

theorem reacquired_reached : stdinProtocol.Reaches .new reacquired := by
  have hplay := @Pool.play_steps _ _ stdinProtocol (fun shared thread => thread.act shared)
    fun _ _ _ _ hacts => hacts
  have hfirst : stdinProtocol.Step ⟨.new, []⟩ ⟨.new, [.acquire (.ok ()) .exchanging]⟩ :=
    .entered _ (.acquire _)
  have hsecond : stdinProtocol.Step ⟨.new, [.acquire (.ok ()) .exchanging]⟩
      ⟨.new, [.acquire (.ok ()) .exchanging, .acquire (.ok ()) .exchanging]⟩ :=
    .entered _ (.acquire _)
  have hhook : stdinProtocol.Step acquired
      { acquired with threads := acquired.threads ++ [.stopAndJoin 0 .waiting] } :=
    .entered _ (.stopAndJoin (by decide))
  have hdrop : stdinProtocol.Step
      { acquired with threads := acquired.threads ++ [.stopAndJoin 0 .waiting] }
      { acquired with threads := acquired.threads ++
        [.stopAndJoin 0 .waiting, .stopAndJoin 0 .waiting] } :=
    .entered _ (.stopAndJoin (by decide))
  have hended : stdinProtocol.Step stopping
      ⟨stopping.shared.withReader 0 endedReader, stopping.threads⟩ :=
    .moved (.ended (show stopping.shared.readers[0]? = some { endedReader with ended := none }
      from rfl) rfl (.ok ()))
  have hnext : stdinProtocol.Step ⟨stopping.shared.withReader 0 endedReader, stopping.threads⟩
      ⟨stopping.shared.withReader 0 endedReader,
        stopping.threads ++ [.acquire (.ok ()) .exchanging]⟩ := .entered _ (.acquire _)
  have hacquired := ((ReflTransGen.single hfirst).tail hsecond).trans (hplay [0, 1, 0] _)
  have hstopping := ((hacquired.tail hhook).tail hdrop).trans (hplay [2, 2, 3, 2, 3, 3, 2] _)
  exact ((hstopping.tail hended).tail hnext).trans (hplay [2, 2, 4, 4, 2, 2, 2, 3, 3, 3, 3] _)

example : reacquired.shared.active = true := rfl

theorem stdin_lease_reacquired : ∃ control, reacquired.shared.readers[0]? = some control ∧
    control.joins = 1 ∧ control.clears = 1 ∧ control.ended = some (.ok ()) := by
  have hreturned : StdinThread.stopAndJoin 0 (.returned (.ok ())) ∈ reacquired.threads :=
    List.mem_of_getElem? (show reacquired.threads[3]? = _ from rfl)
  exact (stdin_lease reacquired_reached).stopped 0 (.ok ()) hreturned

end Live

end Samara
