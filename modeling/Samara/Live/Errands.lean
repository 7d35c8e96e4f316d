/-
  Samara.Live.Errands

  Effects and timers of a live runtime: each is issued once, with a row and a
  task; the task delivers once, or is lost; and the owner closes the row with
  what was delivered.
-/
import Samara.Live.Deeds
import Samara.Logic.Custody

namespace Samara

open Relation (ReflTransGen)

variable [RustTypes]

namespace Live

/-- What a task is spawned to deliver to its owner. -/
inductive Errand where
  | effect
  | timer

namespace Errand

/-- The number that a task still has to deliver. -/
def carried? : Errand → TaskDelivery → Option Nat
  | .effect, .effect id _ => some id
  | .timer, .timer id _ => some id
  | _, _ => none

/-- The number that an event delivers. -/
def delivered? : Errand → LiveEvent → Option Nat
  | .effect, .effectOutcome id _ => some id
  | .timer, .timerFired id _ => some id
  | _, _ => none

def issued : Errand → Core → Nat
  | .effect, core => core.nextEffect
  | .timer, core => core.nextTimer

def rows : Errand → Core → List Nat
  | .effect, core => core.effects.map (·.id)
  | .timer, core => core.timers.map (·.id)

def carried (errand : Errand) (core : Core) : List Nat :=
  core.tasks.filterMap fun task => errand.carried? task.delivery

def delivered (errand : Errand) (core : Core) : List Nat :=
  core.scope.sent.filterMap errand.delivered?

/-- No number is with two tasks, and none is delivered twice. -/
def Afoot (errand : Errand) (core : Core) : Prop :=
  Carriage (errand.issued core) (errand.carried core) (errand.delivered core)

/-- The errands are in custody, when the events `handled` have been handled. -/
def Accounted (errand : Errand) (handled : List LiveEvent) (core : Core) : Prop :=
  Custody (errand.issued core) (errand.carried core) (errand.delivered core)
    (handled.filterMap errand.delivered?) (errand.rows core)

variable {errand : Errand} {handled : List LiveEvent} {core core' : Core}

theorem Afoot.same (h : errand.Afoot core) (hissued : errand.issued core' = errand.issued core)
    (hcarried : errand.carried core' = errand.carried core)
    (hdelivered : errand.delivered core' = errand.delivered core) : errand.Afoot core' := by
  unfold Afoot
  rw [hissued, hcarried, hdelivered]
  exact h

/-- Neither numbers nor tasks nor what was delivered differ. -/
theorem Afoot.rest (h : errand.Afoot core)
    (hissued : core'.nextEffect = core.nextEffect ∧ core'.nextTimer = core.nextTimer)
    (htasks : core'.tasks = core.tasks) (hsent : core'.scope.sent = core.scope.sent) :
    errand.Afoot core' := by
  refine h.same ?_ ?_ ?_
  · cases errand with
    | effect => exact hissued.1
    | timer => exact hissued.2
  · unfold carried
    rw [htasks]
  · unfold delivered
    rw [hsent]

/-- The tasks left are among those there were. -/
theorem Afoot.lose (h : errand.Afoot core) (hissued : errand.issued core' = errand.issued core)
    (hcarried : (errand.carried core').Subperm (errand.carried core))
    (hdelivered : errand.delivered core' = errand.delivered core) : errand.Afoot core' := by
  unfold Afoot
  rw [hissued, hdelivered]
  exact Carriage.lose h hcarried

/-! ## Activities -/

theorem rows_beside (h : Beside core core') : errand.rows core' = errand.rows core := by
  cases errand with
  | effect => exact congrArg (List.map _) h.effects
  | timer => exact congrArg (List.map _) h.timers

theorem issued_beside (h : Beside core core') : errand.issued core' = errand.issued core := by
  cases errand with
  | effect => exact (congrArg Core.nextEffect h :)
  | timer => exact (congrArg Core.nextTimer h :)

/-- A call that delivers nothing. -/
theorem delivered_called {call : ScopeCall} (hscope : core'.scope = core.scope.called call)
    (hplain : call.appends.filterMap errand.delivered? = []) :
    errand.delivered core' = errand.delivered core := by
  unfold delivered
  rw [hscope]
  rcases core.scope.called_appends call with ⟨_, _, hsent⟩ | ⟨_, _, hsent⟩
  · rw [hsent, List.filterMap_append, hplain, List.append_nil]
  · rw [hsent]

theorem Afoot.beside (h : errand.Afoot core) (hbeside : Beside core core')
    (htasks : core'.tasks = core.tasks) {call : ScopeCall}
    (hscope : core'.scope = core.scope ∨ core'.scope = core.scope.called call)
    (hplain : call.appends.filterMap errand.delivered? = []) : errand.Afoot core' := by
  refine h.same (issued_beside hbeside) ?_ ?_
  · unfold carried
    rw [htasks]
  · rcases hscope with hsame | hcalled
    · unfold delivered
      rw [hsame]
    · exact delivered_called hcalled hplain

/-- A task delivers the number it carries, unless the scope refuses it. -/
theorem Afoot.deliver (h : errand.Afoot core) {task : Nat} {found : Task}
    {event : LiveEvent} (hfound : core.task? task = some found)
    (hcarries : errand.carried? found.delivery = errand.delivered? event) :
    errand.Afoot (core.deliver task event) := by
  have hissued : errand.issued (core.deliver task event) = errand.issued core := by
    cases errand <;> rfl
  have hnone : errand.carried? .none = none := by
    cases errand <;> rfl
  cases hnumber : errand.delivered? event with
  | none =>
      refine h.same hissued ?_ ?_
      · refine Table.filterMap_modifyFirst_none ?_
        intro row hrow
        have heq : row = found := Option.some.inj (hrow.symm.trans hfound)
        show errand.carried? .none = errand.carried? row.delivery
        rw [heq, hcarries, hnumber, hnone]
      · have happends : (ScopeCall.finite event).appends.filterMap errand.delivered? = [] :=
          List.filterMap_cons_none hnumber
        exact delivered_called rfl happends
  | some number =>
      have hpart : errand.carried? found.delivery = some number := hcarries.trans hnumber
      have hperm : (errand.carried core).Perm (number :: errand.carried (core.deliver task event)) :=
        Table.filterMap_modifyFirst_found hfound hpart hnone
      unfold Afoot
      rw [hissued]
      have hscope : (core.deliver task event).scope = core.scope.called (.finite event) := rfl
      rcases core.scope.called_appends (.finite event) with ⟨_, _, hsent⟩ | ⟨_, _, hsent⟩
      · have hdelivered : errand.delivered (core.deliver task event) =
            errand.delivered core ++ [number] := by
          unfold delivered
          rw [hscope, hsent, List.filterMap_append]
          exact congrArg _ (List.filterMap_cons_some hnumber)
        rw [hdelivered]
        exact Carriage.deliver h hperm
      · have hdelivered : errand.delivered (core.deliver task event) = errand.delivered core := by
          unfold delivered
          rw [hscope, hsent]
        rw [hdelivered]
        exact Carriage.lose h ((List.sublist_cons_self number _).subperm.trans hperm.symm.subperm)

theorem Afoot.act (h : errand.Afoot core) (activity : Activity) :
    errand.Afoot (core.act activity) := by
  have hbeside := act_beside core activity
  cases activity with
  | @send component target message =>
      exact h.beside hbeside rfl (.inr (rfl : _ = core.scope.called (.ingress (.message
        ⟨target.id, RustTypes.componentMessage component, ⟨_, message⟩, none⟩))))
        (by cases errand <;> rfl)
  | notify ingress =>
      exact h.beside hbeside rfl (.inr (rfl : _ = core.scope.called (.ingress
        (.portIngress (.notification ingress))))) (by cases errand <;> rfl)
  | request protocol requestType port request =>
      exact h.beside hbeside rfl (.inr (rfl : _ = core.scope.called (.ingress (.portIngress (.request
        ⟨protocol, requestType, port, request, core.waiters.length⟩))))) (by cases errand <;> rfl)
  | poll waiter =>
      exact @Afoot.beside _ _ _ _ h hbeside rfl .close (.inl rfl) rfl
  | beginShutdown mode =>
      exact h.beside hbeside rfl (.inr (rfl : _ = core.scope.called (.shutdown mode)))
        (by cases errand <;> rfl)
  | emit generation event =>
      have htasks : (core.emit generation event).tasks = core.tasks := by
        unfold Core.emit
        split
        · rfl
        · split
          · rfl
          · dsimp only
            split <;> rfl
      rcases emit_called core generation event with hscope | ⟨gate, _, _, hscope⟩
      · exact @Afoot.beside _ _ _ _ h hbeside htasks .close (.inl hscope) rfl
      · exact h.beside hbeside htasks (.inr hscope) (by cases errand <;> rfl)
  | installStopHook generation result =>
      have htasks : (core.installStopHook generation result).tasks = core.tasks := by
        unfold Core.installStopHook
        split
        · rfl
        · split <;> rfl
      exact @Afoot.beside _ _ _ _ h hbeside htasks .close
        (.inl (installStopHook_scope core generation result)) rfl
  | complete task outcome =>
      show errand.Afoot (core.complete task outcome)
      rcases complete_cases core task outcome with hsame | ⟨found, id, type, hfound, hdelivery, hdelivered⟩
      · rw [hsame]
        exact h
      · rw [hdelivered]
        refine h.deliver hfound ?_
        rw [hdelivery]
        cases errand <;> rfl
  | fire task =>
      show errand.Afoot (core.fire task)
      rcases fire_cases core task with hsame | ⟨found, id, message, hfound, hdelivery, hdelivered⟩
      · rw [hsame]
        exact h
      · rw [hdelivered]
        refine h.deliver hfound ?_
        rw [hdelivery]
        cases errand <;> rfl
  | exit task outcome =>
      show errand.Afoot (core.exit task outcome)
      unfold Core.exit
      split
      · exact h
      · split
        · exact h
        · exact h.lose (by cases errand <;> rfl) (List.eraseP_sublist.filterMap _).subperm rfl

theorem Afoot.turn (h : errand.Afoot core) : errand.Afoot core.turn :=
  @turn_preserves _ errand.Afoot (fun _ activity h => h.act activity)
    (fun _ _ h => h.rest ⟨rfl, rfl⟩ rfl rfl) core h

/-! ## Deeds -/

theorem delivered_of_beats (h : Beats core core') :
    errand.delivered core <+: errand.delivered core' := (sent_of_beats h).filterMap _

/-- A task that carries nothing of this kind. -/
theorem carried_append {task : Task} (hnone : errand.carried? task.delivery = none)
    (htasks : core'.tasks = core.tasks ++ [task]) : errand.carried core' = errand.carried core := by
  have hempty : [task].filterMap (fun task => errand.carried? task.delivery) = [] :=
    List.filterMap_cons_none hnone
  unfold carried
  rw [htasks, List.filterMap_append, hempty, List.append_nil]

theorem carried_performed {effect : PendingEffect} (context : TaskContext)
    (hid : effect.id = core.nextEffect) :
    Errand.effect.carried (core.performed effect context) =
      Errand.effect.carried core ++ [core.nextEffect] := by
  unfold carried Core.performed
  rw [List.filterMap_append, ← hid]
  rfl

theorem carried_delayed {timer : PendingTimer} {message : QueuedMessage} (context : TaskContext)
    (hid : timer.id = core.nextTimer) :
    Errand.timer.carried (core.delayed timer message context) =
      Errand.timer.carried core ++ [core.nextTimer] := by
  unfold carried Core.delayed
  rw [List.filterMap_append, ← hid]
  rfl

/-- A Message delivers nothing. -/
theorem Afoot.message (h : errand.Afoot core) (message : QueuedMessage) :
    errand.Afoot (core.accepted (.message message)) := by
  have hscope : (core.accepted (.message message)).scope =
      core.scope.called (.finite (.message message)) := rfl
  refine h.same (by cases errand <;> rfl) rfl (delivered_called hscope ?_)
  cases errand <;> rfl

theorem Afoot.deed (h : errand.Afoot core) (hdeed : Deed core core') : errand.Afoot core' := by
  cases hdeed with
  | turned => exact h.turn
  | sent hplain => exact h.message _
  | sentMapped hstamp => exact h.message _
  | @performed effect context hid =>
      cases errand with
      | effect =>
          unfold Afoot
          rw [carried_performed context hid]
          exact Carriage.issue h
      | timer => exact h.same rfl (carried_append rfl rfl) rfl
  | @delayed timer message context hid hplain =>
      cases errand with
      | effect => exact h.same rfl (carried_append rfl rfl) rfl
      | timer =>
          unfold Afoot
          rw [carried_delayed context hid]
          exact Carriage.issue h
  | aborted task =>
      refine h.same (by cases errand <;> rfl) ?_ rfl
      exact Table.filterMap_modifyFirst_none fun _ _ => rfl
  | activated component subscription context =>
      have hrealized : errand.Afoot (core.realized component subscription) := h.rest ⟨rfl, rfl⟩ rfl rfl
      exact hrealized.turn.same (by cases errand <;> rfl)
        (carried_append (by cases errand <;> rfl) rfl) rfl
  | _ => exact h.rest ⟨rfl, rfl⟩ rfl rfl

/-- A deed opens the row of a new errand, or touches no number and no row. -/
theorem rows_deed (hdeed : Deed core core') :
    (errand.issued core' = errand.issued core ∧ errand.rows core' = errand.rows core) ∨
      (errand.issued core' = errand.issued core + 1 ∧
        errand.rows core' = errand.rows core ++ [errand.issued core]) := by
  cases hdeed with
  | turned => exact .inl ⟨issued_beside (turn_beside core), rows_beside (turn_beside core)⟩
  | @performed effect context hid =>
      cases errand with
      | effect =>
          refine .inr ⟨rfl, ?_⟩
          show (core.effects ++ [effect]).map (·.id) = _
          rw [List.map_append, List.map_singleton, hid]
          rfl
      | timer => exact .inl ⟨rfl, rfl⟩
  | @delayed timer message context hid hplain =>
      cases errand with
      | effect => exact .inl ⟨rfl, rfl⟩
      | timer =>
          refine .inr ⟨rfl, ?_⟩
          show (core.timers ++ [timer]).map (·.id) = _
          rw [List.map_append, List.map_singleton, hid]
          rfl
  | activated component subscription context =>
      have hbeside := turn_beside (core.realized component subscription)
      refine .inl ⟨?_, ?_⟩
      · have hissued := @issued_beside _ errand _ _ hbeside
        cases errand <;> exact hissued
      · have hrows := @rows_beside _ errand _ _ hbeside
        cases errand <;> exact hrows
  | _ => exact .inl (by cases errand <;> exact ⟨rfl, rfl⟩)

theorem Accounted.deed (h : errand.Accounted handled core) (hdeed : Deed core core') :
    errand.Accounted handled core' := by
  have hcarriage : errand.Afoot core' := Afoot.deed h.carriage hdeed
  have hdelivered : errand.delivered core <+: errand.delivered core' := delivered_of_beats hdeed.beats
  unfold Afoot at hcarriage
  unfold Accounted
  rcases @rows_deed _ errand _ _ hdeed with ⟨hissued, hrows⟩ | ⟨hissued, hrows⟩
  · rw [hissued] at hcarriage ⊢
    rw [hrows]
    exact Custody.carry h hcarriage hdelivered
  · rw [hissued] at hcarriage ⊢
    rw [hrows]
    exact (Custody.issue h).carry hcarriage hdelivered

end Errand

end Live

end Samara
