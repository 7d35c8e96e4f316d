/-
  Samara.Live.Ledger

  The books of a live runtime.  Every event that the scope accepts is taken in
  order; a Message that comes for its own sake begins one transition; an effect
  or a timer is delivered once and then settled; a request is answered once and
  at its type.  The books balance while the owner runs, so a run that ends by
  itself, without a Cancel, leaves nothing undone.
-/
import Samara.Logic.Correlation
import Samara.Live.Errands
import Samara.Live.Rounds

namespace Samara

open Exec (Triple)
open Relation (ReflTransGen)

variable [RustTypes]

namespace Live

/-! ## What the history says -/

def Observation.transition? : Observation → Option QueuedMessage
  | .transition message => some message
  | _ => none

/-- The Messages whose transitions have begun, in order. -/
def Core.begun (core : Core) : List QueuedMessage :=
  core.journal.filterMap Observation.transition?

/-- The Message that an event brings. -/
def LiveEvent.message? : LiveEvent → Option QueuedMessage
  | .message queued => some queued
  | .timerFired _ queued => some queued
  | _ => none

def messages (events : List LiveEvent) : List QueuedMessage := events.filterMap LiveEvent.message?

/-- No Source has made this Message. -/
def QueuedMessage.isPlain (message : QueuedMessage) : Bool := message.source.isNone

def Observation.request? : Observation → Option (Correlation.Event OutstandingRequest TypeId)
  | .requested request => some (.issued request)
  | .continued request reply => some (.answered request.correlation reply.type)
  | _ => none

/-- The requests of the runtime, issued and answered, and its table of them. -/
def Core.machine (core : Core) : Correlation.Machine OutstandingRequest TypeId :=
  ⟨core.nextRequest, core.journal.filterMap Observation.request?, core.requests⟩

theorem begun_observed (core : Core) (observation : Observation) :
    (core.observed observation).begun = core.begun ++ observation.transition?.toList := by
  unfold Core.begun
  rw [Core.observed_journal, List.filterMap_append]
  cases observation <;> rfl

/-- Nothing is observed that the books are about. -/
structure Hush (core core' : Core) : Prop where
  begun : core'.begun = core.begun
  received : core'.received = core.received
  history : core'.machine.history = core.machine.history

namespace Hush

variable {core core' : Core}

theorem of_journal (h : core'.journal = core.journal) : Hush core core' := by
  refine ⟨?_, received_of_journal h, ?_⟩
  · unfold Core.begun
    rw [h]
  · show core'.journal.filterMap _ = core.journal.filterMap _
    rw [h]

theorem observed {observation : Observation} (htransition : observation.transition? = none)
    (hreceived : observation.received? = none) (hrequest : observation.request? = none) :
    Hush core (core.observed observation) := by
  refine ⟨?_, received_quiet hreceived, ?_⟩
  · rw [begun_observed, htransition]
    exact List.append_nil _
  · show (core.journal ++ [observation]).filterMap _ = core.journal.filterMap _
    rw [List.filterMap_append, List.filterMap_cons_none hrequest]
    exact List.append_nil _

theorem trans {core'' : Core} (h : Hush core core') (h' : Hush core' core'') : Hush core core'' :=
  ⟨h'.begun.trans h.begun, h'.received.trans h.received, h'.history.trans h.history⟩

theorem discard (core : Core) (completion : Option Nat) : Hush core (core.discard completion) := by
  cases completion with
  | none => exact .of_journal rfl
  | some completion =>
      have hdropped : Hush core (core.dropCompletion completion) := .of_journal rfl
      exact hdropped.trans (.observed rfl rfl rfl)

end Hush

/-- A request that is issued under the next number. -/
theorem asked_books {core : Core} {request : OutstandingRequest}
    (hcorrelation : request.correlation = core.nextRequest) :
    (core.asked request).begun = core.begun ∧ (core.asked request).received = core.received ∧
      Correlation.Exchange (·.correlation) (·.replyType) core.machine (core.asked request).machine := by
  have hhistory : (core.asked request).machine.history =
      core.machine.history ++ [.issued request] := List.filterMap_append
  refine ⟨(begun_observed _ _).trans (List.append_nil _), received_quiet rfl, ?_⟩
  show Correlation.Exchange _ _ _ (Correlation.Machine.mk (core.nextRequest + 1)
    (core.asked request).machine.history (core.requests ++ [request]))
  rw [hhistory]
  exact .issue request hcorrelation

/-- A deed changes the table of requests as an exchange does, and begins no
    transition. -/
theorem Deed.books {core core' : Core} (h : Deed core core') :
    core'.begun = core.begun ∧ core'.received = core.received ∧
      Correlation.Exchange (·.correlation) (·.replyType) core.machine core'.machine := by
  -- Most deeds neither observe anything that is booked nor touch the table.
  have hquiet {core' : Core} (hhush : Hush core core') (hrequests : core'.requests = core.requests)
      (hnext : core'.nextRequest = core.nextRequest) :
      core'.begun = core.begun ∧ core'.received = core.received ∧
        Correlation.Exchange (·.correlation) (·.replyType) core.machine core'.machine := by
    have hmachine : core'.machine = core.machine := by
      show Correlation.Machine.mk core'.nextRequest core'.machine.history core'.requests = _
      rw [hnext, hhush.history, hrequests]
      rfl
    rw [hmachine]
    exact ⟨hhush.begun, hhush.received, .same⟩
  cases h with
  | turned =>
      have hbeside := turn_beside core
      exact hquiet (.of_journal hbeside.journal) hbeside.requests (congrArg Core.nextRequest hbeside :)
  | asked hcorrelation hcomponent => exact asked_books hcorrelation
  | @continued correlation request reply hrequest hcomponent htype =>
      have hhistory : ((core.withoutRequest correlation).observed
          (.continued request reply)).machine.history =
            core.machine.history ++ [.answered correlation request.replyType] := by
        have hkey : request.correlation = correlation := by simpa using List.find?_some hrequest
        rw [← htype, ← hkey]
        exact List.filterMap_append
      refine ⟨(begun_observed _ _).trans (List.append_nil _), received_quiet rfl, ?_⟩
      show Correlation.Exchange _ _ _ (Correlation.Machine.mk core.nextRequest
        ((core.withoutRequest correlation).observed (.continued request reply)).machine.history
        (core.requests.eraseP (·.correlation = correlation)))
      rw [hhistory]
      exact .redeem hrequest
  | @replied correlation request completion reply hrequest hhost htype =>
      have hhistory : ((core.withoutRequest correlation).observed
          (.continued request reply)).machine.history =
            core.machine.history ++ [.answered correlation request.replyType] := by
        have hkey : request.correlation = correlation := by simpa using List.find?_some hrequest
        rw [← htype, ← hkey]
        exact List.filterMap_append
      refine ⟨(begun_observed _ _).trans (List.append_nil _), received_quiet rfl, ?_⟩
      show Correlation.Exchange _ _ _ (Correlation.Machine.mk core.nextRequest
        ((core.withoutRequest correlation).observed (.continued request reply)).machine.history
        (core.requests.eraseP (·.correlation = correlation)))
      rw [hhistory]
      exact .redeem hrequest
  | @withdrawn source hsource =>
      have hrows : Hush core ((core.halted source.stamp.generation false).withoutSource
          source.stamp.generation) := .of_journal rfl
      exact hquiet (hrows.trans (.observed rfl rfl rfl)) rfl rfl
  | @retained source hsource subscription =>
      have hrows : Hush core (core.withSource source.stamp.generation ({ · with subscription })) :=
        .of_journal rfl
      exact hquiet (hrows.trans (.observed rfl rfl rfl)) rfl rfl
  | activated component subscription context =>
      have hbeside := turn_beside (core.realized component subscription)
      have hturned : Hush core (core.realized component subscription).turn :=
        .of_journal hbeside.journal
      have hspawned : Hush core ({ (core.realized component subscription).turn.spawned context .none with
          sources := (core.realized component subscription).turn.sources ++
            [ActiveSource.mk (core.nextStamp component subscription) true false false subscription
              subscription.sourcePlan (core.realized component subscription).turn.nextTask] } : Core) :=
        hturned.trans (.of_journal rfl)
      exact hquiet (hspawned.trans (.observed rfl rfl rfl)) hbeside.requests
        (congrArg Core.nextRequest hbeside :)
  | mapped stamp event subscription outer messages => exact hquiet (.observed rfl rfl rfl) rfl rfl
  | _ => exact hquiet (.of_journal rfl) rfl rfl

/-! ## What remains of the books -/

/-- What holds of every run, whatever becomes of it. -/
structure Remains (core : Core) : Prop where
  afoot : ∀ errand : Errand, errand.Afoot core
  ordered : core.begun.Sublist (messages core.received)
  plain : core.begun.filter (·.isPlain) <+: (messages core.received).filter (·.isPlain)
  correlated : Correlation.Remains (·.correlation) core.machine
  linear : Correlation.Linear (·.correlation) (·.replyType) core.machine.history

namespace Remains

variable {core core' : Core}

/-- Rows of the table of requests may be lost. -/
theorem same (h : Remains core) (hafoot : ∀ errand : Errand, errand.Afoot core')
    (hhush : Hush core core') (hrequests : core'.requests.Sublist core.requests)
    (hnext : core.nextRequest ≤ core'.nextRequest) : Remains core' := by
  have hmachine : core'.machine = ⟨core'.nextRequest, core.machine.history, core'.requests⟩ := by
    rw [← hhush.history]
    rfl
  refine ⟨hafoot, ?_, ?_, ?_, ?_⟩
  · rw [hhush.begun, hhush.received]
    exact h.ordered
  · rw [hhush.begun, hhush.received]
    exact h.plain
  · rw [hmachine]
    exact Correlation.Remains.lose h.correlated hnext hrequests
  · rw [hhush.history]
    exact h.linear

/-- Neither numbers nor tasks nor what was accepted differ. -/
theorem rest (h : Remains core)
    (hissued : core'.nextEffect = core.nextEffect ∧ core'.nextTimer = core.nextTimer)
    (htasks : core'.tasks = core.tasks) (hsent : core'.scope.sent = core.scope.sent)
    (hhush : Hush core core') (hrequests : core'.requests.Sublist core.requests)
    (hnext : core.nextRequest ≤ core'.nextRequest) : Remains core' :=
  h.same (fun errand => (h.afoot errand).rest hissued htasks hsent) hhush hrequests hnext

theorem observed (h : Remains core) {observation : Observation}
    (hhush : Hush core (core.observed observation)) : Remains (core.observed observation) :=
  h.rest ⟨rfl, rfl⟩ rfl rfl hhush (List.Sublist.refl _) le_rfl

theorem discard (h : Remains core) (completion : Option Nat) : Remains (core.discard completion) := by
  cases completion with
  | none => exact h
  | some completion =>
      exact h.rest ⟨rfl, rfl⟩ rfl rfl (Hush.discard core (some completion)) (List.Sublist.refl _) le_rfl

theorem waits (h : Remains core) (hwaits : Waits core core') : Remains core' := by
  have hscope : core'.scope = core.scope := waits_scope hwaits
  have hrequests : core'.requests = core.requests := waits_requests hwaits
  exact h.rest ⟨(congrArg Core.nextEffect hwaits :), (congrArg Core.nextTimer hwaits :)⟩
    (congrArg Core.tasks hwaits :) (by rw [hscope]) (.of_journal (waits_journal hwaits))
    (hrequests ▸ List.Sublist.refl _) (congrArg Core.nextRequest hwaits :).ge

theorem beside (h : Remains core) (hbeside : Beside core core')
    (hafoot : ∀ errand : Errand, errand.Afoot core') : Remains core' := by
  refine h.same hafoot (.of_journal hbeside.journal) ?_ (congrArg Core.nextRequest hbeside :).ge
  rw [hbeside.requests]

theorem deed (h : Remains core) (hdeed : Deed core core') : Remains core' := by
  obtain ⟨hbegun, hreceived, hexchange⟩ := hdeed.books
  refine ⟨fun errand => (h.afoot errand).deed hdeed, ?_, ?_, hexchange.remains h.correlated,
    hexchange.linear h.correlated h.linear⟩
  · rw [hbegun, hreceived]
    exact h.ordered
  · rw [hbegun, hreceived]
    exact h.plain

theorem failed (h : Remains core) {stop : Stop} (hfailure : Failure stop core core') :
    Remains core' := by
  cases hfailure with
  | fault => exact h
  | halted error core generation =>
      exact h.rest ⟨rfl, rfl⟩ rfl rfl (.of_journal rfl) (List.Sublist.refl _) le_rfl
  | caught error core => exact h.observed (.observed rfl rfl rfl)
  | unwound panic core => exact h.observed (.observed rfl rfl rfl)
  | converted panic core =>
      have hnumbered : Remains ({ core with nextRequest := core.nextRequest + 1 } : Core) :=
        h.rest ⟨rfl, rfl⟩ rfl rfl (.of_journal rfl) (List.Sublist.refl _) (Nat.le_succ _)
      exact hnumbered.observed (.observed rfl rfl rfl)
  | @mistyped error _ correlation request hrequest =>
      have herased : Remains (core.withoutRequest correlation) :=
        h.rest ⟨rfl, rfl⟩ rfl rfl (.of_journal rfl) List.eraseP_sublist le_rfl
      exact herased.discard _

theorem ending (h : Remains core) (hending : Ending core core') : Remains core' := by
  cases hending with
  | turned => exact h.beside (turn_beside core) fun errand => (h.afoot errand).turn
  | gateStopped hgate =>
      exact h.rest ⟨rfl, rfl⟩ rfl rfl (.of_journal rfl) (List.Sublist.refl _) le_rfl
  | cleared =>
      refine h.same (fun errand => ?_) (.of_journal rfl) (List.Sublist.refl _) le_rfl
      refine (h.afoot errand).same (by cases errand <;> rfl) ?_ rfl
      exact List.filterMap_map
  | requestsDropped =>
      have hcleared : Remains ({ core with requests := [] } : Core) :=
        h.rest ⟨rfl, rfl⟩ rfl rfl (.of_journal rfl) (List.nil_sublist _) le_rfl
      exact hcleared.waits (waits_dropRequests _ _)
  | joined =>
      refine h.same (fun errand => ?_) (.of_journal rfl) (List.Sublist.refl _) le_rfl
      exact (h.afoot errand).same (by cases errand <;> rfl) rfl rfl
  | channelDropped =>
      have hdropped : Remains (core.withScope { core.scope with channel := [] }) :=
        h.rest ⟨rfl, rfl⟩ rfl rfl (.of_journal rfl) (List.Sublist.refl _) le_rfl
      exact hdropped.waits (waits_dropEvents _ _)

/-- An event more has been taken. -/
theorem received (h : Remains core) (event : LiveEvent) (channel : List LiveEvent) :
    Remains ((core.withScope { core.scope with channel }).observed (.received event)) := by
  have hreceived : ((core.withScope { core.scope with channel }).observed
      (.received event)).received = core.received ++ [event] := received_observed _ _
  have hbegun : ((core.withScope { core.scope with channel }).observed
      (.received event)).begun = core.begun := (begun_observed _ _).trans (List.append_nil _)
  have hhistory : ((core.withScope { core.scope with channel }).observed
      (.received event)).machine = core.machine := by
    have hquiet : (core.journal ++ [Observation.received event]).filterMap Observation.request? =
        core.journal.filterMap Observation.request? :=
      List.filterMap_append.trans (List.append_nil _)
    exact congrArg (Correlation.Machine.mk core.nextRequest · core.requests) hquiet
  -- What was a prefix of what had been taken is one of what is taken now.
  have hgrown : messages core.received <+: messages (core.received ++ [event]) :=
    (List.prefix_append _ _).filterMap _
  refine ⟨fun errand => (h.afoot errand).rest ⟨rfl, rfl⟩ rfl rfl, ?_, ?_, ?_, ?_⟩
  · rw [hbegun, hreceived]
    exact h.ordered.trans hgrown.sublist
  · rw [hbegun, hreceived]
    exact h.plain.trans (hgrown.filter _)
  · rw [hhistory]
    exact h.correlated
  · rw [hhistory]
    exact h.linear

theorem abates {hand hand' : Option LiveEvent} (h : Remains core)
    (habates : Abates (hand, core) (hand', core')) : Remains core' := by
  cases habates with
  | deed hdeed => exact h.deed hdeed
  | failed hfailure => exact h.failed hfailure
  | ending hending => exact h.ending hending
  | dropped event => exact h.discard _
  | received hchannel => exact h.received _ _
  | @called _ call hsilent =>
      refine h.same (fun errand => ?_) (.of_journal rfl) (List.Sublist.refl _) le_rfl
      refine (h.afoot errand).same (by cases errand <;> rfl) rfl (Errand.delivered_called rfl ?_)
      rw [hsilent]
      rfl
  | _ => exact h.rest ⟨rfl, rfl⟩ rfl rfl (.of_journal rfl) (List.Sublist.refl _) le_rfl

end Remains

/-! ## The books of a running owner -/

/-- The books when `received` has been taken off the channel, the errands of
    `settled` are settled and the Messages of `handled` have been dealt with. -/
structure Booked (received settled handled : List LiveEvent) (core : Core) : Prop where
  queued : Queued core
  taken : core.received = received
  earlier : handled <+: received
  accounted : ∀ errand : Errand, errand.Accounted settled core
  ordered : core.begun.Sublist (messages handled)
  plain : core.begun.filter (·.isPlain) = (messages handled).filter (·.isPlain)
  correlated : Correlation.Remains (·.correlation) core.machine
  linear : Correlation.Linear (·.correlation) (·.replyType) core.machine.history
  /-- Requests are lost, and completions dropped, in Cancel only. -/
  kept : core.scope.phase ≠ .cancelling → Correlation.Law (·.correlation) core.machine ∧ ¬ core.Discards

theorem discards_of_journal {core core' : Core} (h : core'.journal = core.journal)
    (hdiscards : core'.Discards) : core.Discards := by
  unfold Core.Discards Core.Discarded at *
  rw [h] at hdiscards
  exact hdiscards

theorem discards_observed {core : Core} {observation : Observation}
    (hother : ∀ completion, observation ≠ .discarded completion) :
    (core.observed observation).Discards → core.Discards := by
  rintro ⟨completion, hmem⟩
  rcases List.mem_append.mp hmem with hold | hnew
  · exact ⟨completion, hold⟩
  · exact absurd (List.mem_singleton.mp hnew).symm (hother completion)

/-- A deed drops no completion. -/
theorem Deed.discards {core core' : Core} (h : Deed core core') (hdiscards : core'.Discards) :
    core.Discards := by
  cases h with
  | turned => exact discards_of_journal (turn_beside core).journal hdiscards
  | asked => exact discards_observed (by simp) hdiscards
  | continued => exact discards_observed (by simp) hdiscards
  | replied => exact discards_observed (by simp) hdiscards
  | withdrawn => exact discards_observed (by simp) hdiscards
  | retained => exact discards_observed (by simp) hdiscards
  | activated component subscription context =>
      exact discards_of_journal (turn_beside (core.realized component subscription)).journal
        (discards_observed (by simp) hdiscards)
  | mapped => exact discards_observed (by simp) hdiscards
  | _ => exact discards_of_journal rfl hdiscards

namespace Booked

variable {received settled handled : List LiveEvent} {event : LiveEvent} {core core' : Core}

theorem remains (h : Booked received settled handled core) : Remains core := by
  have hgrown : messages handled <+: messages core.received := by
    rw [h.taken]
    exact h.earlier.filterMap _
  refine ⟨fun errand => (h.accounted errand).carriage, h.ordered.trans hgrown.sublist, ?_,
    h.correlated, h.linear⟩
  rw [h.plain]
  exact hgrown.filter _

theorem deed (h : Booked received settled handled core) (hdeed : Deed core core') :
    Booked received settled handled core' := by
  obtain ⟨hbegun, hreceived, hexchange⟩ := hdeed.books
  refine ⟨h.queued.deed hdeed, hreceived.trans h.taken, h.earlier,
    fun errand => (h.accounted errand).deed hdeed, by rw [hbegun]; exact h.ordered,
    by rw [hbegun]; exact h.plain, hexchange.remains h.correlated,
    hexchange.linear h.correlated h.linear, ?_⟩
  intro hphase
  have hbefore : core.scope.phase ≠ .cancelling := fun hcancelling =>
    hphase (hdeed.phase hcancelling (by simp))
  obtain ⟨hlaw, hdiscards⟩ := h.kept hbefore
  exact ⟨hexchange.law hlaw, fun hnow => hdiscards (hdeed.discards hnow)⟩

/-- An event that delivers no errand has none settled. -/
theorem settles (h : Booked received settled handled core)
    (hnone : ∀ errand : Errand, errand.delivered? event = none) :
    Booked received (settled ++ [event]) handled core := by
  refine ⟨h.queued, h.taken, h.earlier, fun errand => ?_, h.ordered, h.plain, h.correlated,
    h.linear, h.kept⟩
  have hsame : (settled ++ [event]).filterMap errand.delivered? =
      settled.filterMap errand.delivered? := by
    rw [List.filterMap_append, List.filterMap_cons_none (hnone errand)]
    exact List.append_nil _
  unfold Errand.Accounted
  rw [hsame]
  exact h.accounted errand

/-- An event whose Message, if it brings any, begins no transition. -/
theorem passes (h : Booked received settled handled core) (hearlier : handled ++ [event] <+: received)
    (hother : ∀ message, event.message? = some message → message.isPlain = false) :
    Booked received settled (handled ++ [event]) core := by
  refine ⟨h.queued, h.taken, hearlier, h.accounted, ?_, ?_, h.correlated, h.linear, h.kept⟩
  · exact h.ordered.trans ((List.prefix_append handled [event]).filterMap _).sublist
  · -- A Message that is passed over is one of a Source, and not counted.
    rw [h.plain]
    unfold messages
    rw [List.filterMap_append]
    cases hmessage : event.message? with
    | none => rw [List.filterMap_cons_none hmessage, List.filterMap_nil, List.append_nil]
    | some message =>
        rw [List.filterMap_cons_some hmessage, List.filterMap_nil, List.filter_append,
          List.filter_cons_of_neg (by simp [hother message hmessage]), List.filter_nil,
          List.append_nil]

/-- The transition of the Message that an event brings begins. -/
theorem begins (h : Booked received settled handled core) (hearlier : handled ++ [event] <+: received)
    {message : QueuedMessage} (hmessage : event.message? = some message) :
    Booked received settled (handled ++ [event]) (core.observed (.transition message)) := by
  have hbegun : (core.observed (.transition message)).begun = core.begun ++ [message] :=
    begun_observed _ _
  have hmessages : messages (handled ++ [event]) = messages handled ++ [message] := by
    unfold messages
    rw [List.filterMap_append, List.filterMap_cons_some hmessage, List.filterMap_nil]
  have hmachine : (core.observed (.transition message)).machine = core.machine := by
    have hquiet : (core.journal ++ [Observation.transition message]).filterMap
        Observation.request? = core.journal.filterMap Observation.request? :=
      List.filterMap_append.trans (List.append_nil _)
    exact congrArg (Correlation.Machine.mk core.nextRequest · core.requests) hquiet
  have hreceived : (core.observed (.transition message)).received = core.received :=
    received_quiet rfl
  refine ⟨h.queued.same rfl hreceived, hreceived.trans h.taken, hearlier,
    fun errand => ?_, ?_, ?_, ?_, ?_, ?_⟩
  · cases errand with
    | effect => exact h.accounted .effect
    | timer => exact h.accounted .timer
  · rw [hbegun, hmessages]
    exact h.ordered.append_right _
  · rw [hbegun, hmessages, List.filter_append, List.filter_append, h.plain]
  · rw [hmachine]
    exact h.correlated
  · rw [hmachine]
    exact h.linear
  · intro hphase
    obtain ⟨hlaw, hdiscards⟩ := h.kept hphase
    rw [hmachine]
    exact ⟨hlaw, fun hnow => hdiscards (discards_observed (by simp) hnow)⟩

/-- Whatever follows deeds keeps the books. -/
theorem triple {α : Type} {x : Owner α} (hx : Does x) :
    Triple (Booked received settled handled) x (fun _ => Booked received settled handled)
      (Conduct.Fails fun _ => Remains) :=
  hx.triple (fun _ _ h hdeed => h.deed hdeed)
    fun _ _ _ h hfailure => ⟨h.remains.failed hfailure, hfailure.ne_outOfFuel⟩

end Booked

/-! ## Events -/

section Events

variable {received settled handled : List LiveEvent} {event : LiveEvent}

theorem deliverMessage_booked {message : QueuedMessage} (hmessage : event.message? = some message)
    (hearlier : handled ++ [event] <+: received) :
    Triple (Booked received settled handled) (deliverMessage message)
      (fun _ => Booked received settled (handled ++ [event])) (Conduct.Fails fun _ => Remains) := by
  refine Exec.triple_bind (Booked.triple does_nextWork) fun work => ?_
  intro core h
  rw [Exec.run_bind_ok (EStateM.run_get core)]
  cases core.program.component? message.target message.targetMessageType with
  | none => exact ⟨h.remains, by simp⟩
  | some kernel => exact Booked.triple (does_transition message work kernel) _ (h.begins hearlier hmessage)

/-- A Message begins its transition, unless its Source is not current. -/
theorem processMessage_booked {message : QueuedMessage} (hmessage : event.message? = some message)
    (hearlier : handled ++ [event] <+: received) :
    Triple (Booked received settled handled) (processMessage message)
      (fun _ => Booked received settled (handled ++ [event])) (Conduct.Fails fun _ => Remains) := by
  intro core h
  unfold processMessage
  rw [Exec.run_bind_ok (EStateM.run_get core)]
  cases hsource : message.source with
  | none => exact deliverMessage_booked hmessage hearlier core h
  | some stamp =>
      refine Exec.triple_ite (P := Booked received settled handled)
        (fun _ => deliverMessage_booked hmessage hearlier) (fun _ => Exec.triple_pure ?_) core h
      intro core h
      refine h.passes hearlier ?_
      intro other hother
      rw [hmessage] at hother
      cases hother
      unfold QueuedMessage.isPlain
      rw [hsource]
      rfl

/-- What the owner has in its hand was delivered after what is settled. -/
theorem Queued.next {errand : Errand} {core : Core} {number : Nat} (h : Queued core)
    (htaken : core.received = settled ++ [event]) (hnumber : errand.delivered? event = some number) :
    (settled.filterMap errand.delivered? ++ [number]).Sublist (errand.delivered core) := by
  have hsettled : (settled ++ [event]).filterMap errand.delivered? =
      settled.filterMap errand.delivered? ++ [number] := by
    rw [List.filterMap_append, List.filterMap_cons_some hnumber, List.filterMap_nil]
  have hsent : core.scope.sent = settled ++ [event] ++ core.scope.channel := by
    rw [h.sent, htaken]
  unfold Errand.delivered
  rw [hsent, ← hsettled]
  exact ((List.prefix_append _ _).filterMap _).sublist

theorem Booked.next {errand : Errand} {core : Core} {number : Nat}
    (h : Booked (settled ++ [event]) settled handled core)
    (hnumber : errand.delivered? event = some number) :
    (settled.filterMap errand.delivered? ++ [number]).Sublist (errand.delivered core) :=
  h.queued.next h.taken hnumber

/-- The row of an errand is there until its number is settled. -/
theorem Booked.settle {errand : Errand} {core core' : Core} {number : Nat}
    (h : Booked (settled ++ [event]) settled handled core)
    (hnumber : errand.delivered? event = some number)
    (hother : ∀ other : Errand, other ≠ errand → other.delivered? event = none)
    (hsame : core' = { core with effects := core'.effects, timers := core'.timers })
    (hrows : errand.rows core' = (errand.rows core).erase number)
    (hrest : ∀ other : Errand, other ≠ errand → other.rows core' = other.rows core) :
    Booked (settled ++ [event]) (settled ++ [event]) handled core' := by
  have hjournal : core'.journal = core.journal := (congrArg Core.journal hsame :)
  have hscope : core'.scope = core.scope := (congrArg Core.scope hsame :)
  have hhush : Hush core core' := .of_journal hjournal
  have hmachine : core'.machine = core.machine := by
    have hrequests : core'.requests = core.requests := (congrArg Core.requests hsame :)
    have hnext : core'.nextRequest = core.nextRequest := (congrArg Core.nextRequest hsame :)
    show Correlation.Machine.mk core'.nextRequest core'.machine.history core'.requests = _
    rw [hnext, hhush.history, hrequests]
    rfl
  refine ⟨h.queued.same hscope hhush.received, hhush.received.trans h.taken, h.earlier,
    fun other => ?_, ?_, ?_, ?_, ?_, ?_⟩
  · have hissued : other.issued core' = other.issued core := by
      cases other with
      | effect => exact (congrArg Core.nextEffect hsame :)
      | timer => exact (congrArg Core.nextTimer hsame :)
    have hcarried : other.carried core' = other.carried core := by
      unfold Errand.carried
      rw [(congrArg Core.tasks hsame :)]
    have hdelivered : other.delivered core' = other.delivered core := by
      unfold Errand.delivered
      rw [hscope]
    unfold Errand.Accounted
    rw [hissued, hcarried, hdelivered, List.filterMap_append]
    by_cases hthis : other = errand
    · subst hthis
      rw [hrows, List.filterMap_cons_some hnumber, List.filterMap_nil]
      exact (Custody.settle (h.accounted other) (h.next hnumber)).2
    · rw [hrest other hthis, List.filterMap_cons_none (hother other hthis), List.filterMap_nil,
        List.append_nil]
      exact h.accounted other
  · rw [hhush.begun]
    exact h.ordered
  · rw [hhush.begun]
    exact h.plain
  · rw [hmachine]
    exact h.correlated
  · rw [hmachine]
    exact h.linear
  · rw [hscope, hmachine]
    intro hphase
    obtain ⟨hlaw, hdiscards⟩ := h.kept hphase
    exact ⟨hlaw, fun hnow => hdiscards (discards_of_journal hjournal hnow)⟩

/-- The outcome of an effect finds its row. -/
theorem processEffect_booked (id : Nat) (outcome : ErasedOutcome) :
    Triple (Booked (settled ++ [.effectOutcome id outcome]) settled handled)
      (processEffect id outcome)
      (fun _ => Booked (settled ++ [.effectOutcome id outcome])
        (settled ++ [.effectOutcome id outcome]) handled) (Conduct.Fails fun _ => Remains) := by
  intro core h
  have hnumber : Errand.effect.delivered? (.effectOutcome id outcome) = some id := rfl
  cases hfound : core.effects.find? (·.id = id) with
  | none =>
      exfalso
      have hmem : id ∈ Errand.effect.rows core :=
        (Custody.settle (h.accounted .effect) (h.next hnumber)).1
      obtain ⟨effect, heffect, hid⟩ := List.mem_map.mp hmem
      have hnot := List.find?_eq_none.mp hfound effect heffect
      exact hnot (decide_eq_true hid)
  | some effect =>
      rw [processEffect_some hfound]
      refine Booked.triple (does_deliverOutcome effect outcome) _ (h.settle hnumber ?_ rfl
        (Table.map_eraseP _ _) ?_)
      · rintro (_ | _) hother
        · exact absurd rfl hother
        · rfl
      · rintro (_ | _) hother
        · exact absurd rfl hother
        · rfl

/-- A timer that fires finds its row, and its Message is dealt with. -/
theorem processTimer_booked (timer : Nat) (message : QueuedMessage) :
    Triple (Booked (handled ++ [.timerFired timer message]) handled handled)
      (processTimer timer message)
      (fun _ => Booked (handled ++ [.timerFired timer message])
        (handled ++ [.timerFired timer message]) (handled ++ [.timerFired timer message]))
      (Conduct.Fails fun _ => Remains) := by
  intro core h
  have hnumber : Errand.timer.delivered? (.timerFired timer message) = some timer := rfl
  cases hfound : core.timers.find? (·.id = timer) with
  | none =>
      exfalso
      have hmem : timer ∈ Errand.timer.rows core :=
        (Custody.settle (h.accounted .timer) (h.next hnumber)).1
      obtain ⟨row, hrow, hid⟩ := List.mem_map.mp hmem
      have hnot := List.find?_eq_none.mp hfound row hrow
      exact hnot (decide_eq_true hid)
  | some row =>
      rw [processTimer_some hfound]
      have hmessage : LiveEvent.message? (.timerFired timer message) = some message := rfl
      refine processMessage_booked hmessage List.prefix_rfl _ (h.settle hnumber ?_ rfl
        (Table.map_eraseP _ _) ?_)
      · rintro (_ | _) hother
        · rfl
        · exact absurd rfl hother
      · rintro (_ | _) hother
        · rfl
        · exact absurd rfl hother

/-- A finite event is refused in Cancel only. -/
theorem acceptFinite_open {scope : Scope} (halive : scope.Alive) (hopen : scope.Open)
    {event : LiveEvent} (hrefused : (scope.acceptFinite event).1 = false) :
    scope.phase = .cancelling := by
  obtain ⟨phase, connected, channel, log⟩ := scope
  have hconnected : connected = true := hopen.connected
  subst hconnected
  have hfinal := halive.notFinal
  cases phase with
  | cancelling => rfl
  | faulted error => cases hfinal
  | closed => cases hfinal
  | running => cases hrefused
  | draining => cases hrefused

/-- The request that could not be passed on is taken back. -/
theorem Booked.pop {core : Core} (h : Booked received settled handled core)
    (hphase : core.scope.phase = .cancelling) :
    Booked received settled handled core.popRequest := by
  have hhush : Hush core core.popRequest := by
    have herased : Hush core ({ core with requests := core.requests.dropLast } : Core) :=
      .of_journal rfl
    exact herased.trans (Hush.discard _ _)
  have hmachine : core.popRequest.machine =
      ⟨core.nextRequest, core.machine.history, core.requests.dropLast⟩ := by
    rw [← hhush.history]
    unfold Core.popRequest
    cases core.requests.getLast?.bind OutstandingRequest.completion? with
    | none | some => rfl
  have hscope : core.popRequest.scope = core.scope := discard_scope _ _
  refine ⟨h.queued.same hscope hhush.received, hhush.received.trans h.taken, h.earlier,
    fun errand => ?_, ?_, ?_, ?_, ?_, ?_⟩
  · unfold Core.popRequest
    cases core.requests.getLast?.bind OutstandingRequest.completion? with
    | none | some =>
      cases errand with
      | effect => exact h.accounted .effect
      | timer => exact h.accounted .timer
  · rw [hhush.begun]
    exact h.ordered
  · rw [hhush.begun]
    exact h.plain
  · rw [hmachine]
    exact Correlation.Remains.lose h.correlated le_rfl (List.dropLast_sublist _)
  · rw [hhush.history]
    exact h.linear
  · rw [hscope]
    exact fun hnot => absurd hphase hnot

/-- A request is issued under the next number. -/
theorem Booked.asked {core : Core} (h : Booked received settled handled core)
    {request : OutstandingRequest} (hcorrelation : request.correlation = core.nextRequest) :
    Booked received settled handled (core.asked request) := by
  obtain ⟨hbegun, hreceived, hexchange⟩ := asked_books hcorrelation
  refine ⟨h.queued.same rfl hreceived, hreceived.trans h.taken, h.earlier, fun errand => ?_,
    by rw [hbegun]; exact h.ordered, by rw [hbegun]; exact h.plain,
    hexchange.remains h.correlated, hexchange.linear h.correlated h.linear, fun hphase => ?_⟩
  · cases errand with
    | effect => exact h.accounted .effect
    | timer => exact h.accounted .timer
  · obtain ⟨hlaw, hdiscards⟩ := h.kept hphase
    exact ⟨hexchange.law hlaw, fun hnow => hdiscards (discards_observed (by simp) hnow)⟩

/-- A request of the host is outstanding from its number on. -/
theorem processPortRequest_booked (ingress : PortRequest) :
    Triple (fun core => core.scope.Alive ∧ core.scope.Open ∧ Booked received settled handled core)
      (processPortRequest ingress) (fun _ => Booked received settled handled)
      (Conduct.Fails fun _ => Remains) := by
  have hdoes {α : Type} {x : Owner α} (hx : Does x) :
      Triple (fun core => core.scope.Alive ∧ core.scope.Open ∧ Booked received settled handled core)
        x (fun _ core => core.scope.Alive ∧ core.scope.Open ∧ Booked received settled handled core)
        (Conduct.Fails fun _ => Remains) :=
    hx.triple
      (fun _ _ h hdeed => ⟨hdeed.beats.alive h.1, h.2.1.beats hdeed.beats, h.2.2.deed hdeed⟩)
      fun _ _ _ h hfailure => ⟨h.2.2.remains.failed hfailure, hfailure.ne_outOfFuel⟩
  refine Exec.triple_bind (hdoes does_nextWork) fun work => ?_
  have hresolve : Triple
      (fun core => core.scope.Alive ∧ core.scope.Open ∧ Booked received settled handled core)
      (resolveRequestPort ingress work)
      (fun _ core => core.scope.Alive ∧ core.scope.Open ∧ Booked received settled handled core)
      (Conduct.Fails fun _ => Remains) := by
    intro core hcore
    rcases resolveRequestPort_run ingress work core with ⟨binding, hrun⟩ | ⟨error, hrun⟩
    · rw [hrun]
      exact hcore
    · rw [hrun]
      exact ⟨hcore.2.2.remains.discard _, by simp⟩
  refine Exec.triple_bind hresolve fun binding => ?_
  rintro core ⟨halive, hopen, h⟩
  have hconverts : Triple
      (fun core => core.scope.Alive ∧ core.scope.Open ∧ Booked received settled handled core)
      (convertRequest ingress core.nextRequest binding work)
      (fun _ => Booked received settled handled) (Conduct.Fails fun _ => Remains) := by
    refine Exec.triple_bind (hdoes (does_caught _ _ _ _ _)) fun protocolMessage => ?_
    refine Exec.triple_bind (hdoes (does_caught _ _ _ _ _)) fun converted => ?_
    have haccept : Triple
        (fun core => core.scope.Alive ∧ core.scope.Open ∧ Booked received settled handled core)
        (acceptFinite (plainMessage binding.provider.id binding.providerMessageType converted))
        (fun accepted core => Booked received settled handled core ∧
          (accepted = false → core.scope.phase = .cancelling)) (Conduct.Fails fun _ => Remains) := by
      rintro core ⟨halive, hopen, h⟩
      have hbeats := turn_beats core
      have hsent : Deed core.turn (core.turn.accepted (.message
          ⟨binding.provider.id, binding.providerMessageType, converted, none⟩)) := .sent rfl
      refine ⟨(h.deed .turned).deed hsent, fun hrefused => ?_⟩
      exact hsent.phase (acceptFinite_open (hbeats.alive halive) (hopen.beats hbeats) hrefused)
        (by simp)
    refine Exec.triple_bind haccept fun accepted => Exec.triple_ite (fun _ => ?_) fun hrefused => ?_
    · exact Exec.triple_pure fun core h => h.1
    · exact fun core h => h.1.pop (h.2 (Bool.eq_false_of_not_eq_true hrefused))
  exact hconverts _ ⟨halive, hopen, h.asked rfl⟩

/-- An event that neither delivers an errand nor brings a Message. -/
theorem dispatch_plainly {x : Owner Unit}
    (hx : ∀ {received settled handled}, Triple (Booked received settled handled) x
      (fun _ => Booked received settled handled) (Conduct.Fails fun _ => Remains))
    (hnone : ∀ errand : Errand, errand.delivered? event = none) (hmessage : event.message? = none) :
    Triple (Booked (handled ++ [event]) handled handled) x
      (fun _ => Booked (handled ++ [event]) (handled ++ [event]) (handled ++ [event]))
      (Conduct.Fails fun _ => Remains) := by
  refine Exec.triple_conseq hx (fun core h => (h.settles hnone).passes List.prefix_rfl ?_)
    (fun _ _ h => h) fun _ _ h => h
  intro message hsome
  rw [hmessage] at hsome
  cases hsome

theorem dispatch_booked (hevent : event ≠ .shutdown .cancel) :
    Triple (fun core => Base (some event) core ∧ core.scope.Open ∧
        Booked (handled ++ [event]) handled handled core)
      (dispatch event)
      (fun _ => Booked (handled ++ [event]) (handled ++ [event]) (handled ++ [event]))
      (Conduct.Fails fun _ => Remains) := by
  have hplainly {x : Owner Unit} (hx : Triple (Booked (handled ++ [event]) handled handled) x
      (fun _ => Booked (handled ++ [event]) (handled ++ [event]) (handled ++ [event]))
      (Conduct.Fails fun _ => Remains)) :
      Triple (fun core => Base (some event) core ∧ core.scope.Open ∧
        Booked (handled ++ [event]) handled handled core) x
        (fun _ => Booked (handled ++ [event]) (handled ++ [event]) (handled ++ [event]))
        (Conduct.Fails fun _ => Remains) :=
    Exec.triple_conseq hx (fun _ h => h.2.2) (fun _ _ h => h) fun _ _ h => h
  have hnone {errand : Errand} {plain : LiveEvent} (hplain : errand.delivered? plain = none) :
      errand.delivered? plain = none := hplain
  cases event with
  | message message =>
      refine hplainly (Exec.triple_conseq (processMessage_booked rfl List.prefix_rfl)
        (fun core h => h.settles fun errand => ?_) (fun _ _ h => h) fun _ _ h => h)
      cases errand <;> rfl
  | portIngress ingress =>
      cases ingress with
      | notification ingress =>
          exact hplainly (dispatch_plainly (Booked.triple (does_processPortNotification ingress))
            (fun errand => by cases errand <;> rfl) rfl)
      | request ingress =>
          refine Exec.triple_conseq (processPortRequest_booked ingress) ?_ (fun _ _ h => h)
            fun _ _ h => h
          rintro core ⟨hbase, hopen, h⟩
          refine ⟨hbase.alive, hopen, (h.settles fun errand => ?_).passes List.prefix_rfl nofun⟩
          cases errand <;> rfl
  | sourceEvent stamp terminalType event =>
      exact hplainly (dispatch_plainly (Booked.triple (does_processSourceEvent stamp terminalType event))
        (fun errand => by cases errand <;> rfl) rfl)
  | effectOutcome id outcome =>
      exact hplainly (Exec.triple_conseq (processEffect_booked id outcome)
        (fun core h => h.passes List.prefix_rfl nofun) (fun _ _ h => h) fun _ _ h => h)
  | timerFired timer message => exact hplainly (processTimer_booked timer message)
  | shutdown mode =>
      -- The marker of Cancel is never dispatched.
      have hmode : mode = .drain := by
        cases mode with
        | drain => rfl
        | cancel => exact absurd rfl hevent
      subst hmode
      have hdrained : Triple (fun core => Base (some (.shutdown .drain)) core ∧
          Booked (handled ++ [.shutdown .drain]) (handled ++ [.shutdown .drain])
            (handled ++ [.shutdown .drain]) core) beginDrain
          (fun _ core => Base (some (.shutdown .drain)) core ∧
            Booked (handled ++ [.shutdown .drain]) (handled ++ [.shutdown .drain])
              (handled ++ [.shutdown .drain]) core) (Conduct.Fails fun _ => Remains) :=
        Exec.triple_of_follows (fun core h => beginDrain_deeds (h.1.marker .drain rfl))
          (fun _ _ h hdeed => ⟨h.1.deed hdeed, h.2.deed hdeed⟩)
          fun _ _ _ h hfailure => ⟨h.2.remains.failed hfailure, hfailure.ne_outOfFuel⟩
      refine Exec.triple_conseq hdrained ?_ (fun _ _ h => h.2) fun _ _ h => h
      rintro core ⟨hbase, _, h⟩
      refine ⟨hbase, (h.settles fun errand => ?_).passes List.prefix_rfl nofun⟩
      cases errand <;> rfl

/-- The event at the front is taken in hand. -/
theorem Booked.take {core : Core} (h : Booked handled handled handled core)
    {channel : List LiveEvent} (hchannel : core.scope.channel = event :: channel) :
    Booked (handled ++ [event]) handled handled
      ((core.withScope { core.scope with channel }).observed (.received event)) := by
  have hreceived : ((core.withScope { core.scope with channel }).observed
      (.received event)).received = core.received ++ [event] := received_observed _ _
  have hbegun : ((core.withScope { core.scope with channel }).observed
      (.received event)).begun = core.begun := (begun_observed _ _).trans (List.append_nil _)
  have hmachine : ((core.withScope { core.scope with channel }).observed
      (.received event)).machine = core.machine := by
    have hquiet : (core.journal ++ [Observation.received event]).filterMap Observation.request? =
        core.journal.filterMap Observation.request? :=
      List.filterMap_append.trans (List.append_nil _)
    exact congrArg (Correlation.Machine.mk core.nextRequest · core.requests) hquiet
  refine ⟨h.queued.take hchannel, by rw [hreceived, h.taken], List.prefix_append _ _,
    fun errand => ?_, ?_, ?_, ?_, ?_, ?_⟩
  · cases errand with
    | effect => exact h.accounted .effect
    | timer => exact h.accounted .timer
  · rw [hbegun]
    exact h.ordered
  · rw [hbegun]
    exact h.plain
  · rw [hmachine]
    exact h.correlated
  · rw [hmachine]
    exact h.linear
  · intro hphase
    obtain ⟨hlaw, hdiscards⟩ := h.kept hphase
    rw [hmachine]
    exact ⟨hlaw, fun hnow => hdiscards (discards_observed (by simp) hnow)⟩

theorem Booked.join {core : Core} (h : Booked received settled handled core)
    (finished : List TaskExit) : Booked received settled handled { core with finished } := by
  refine ⟨h.queued.same rfl rfl, h.taken, h.earlier, fun errand => ?_, h.ordered, h.plain,
    h.correlated, h.linear, h.kept⟩
  cases errand with
  | effect => exact h.accounted .effect
  | timer => exact h.accounted .timer

end Events

/-! ## Runs -/

/-- The books are up to date but for the event in the owner's hand, and every
    operation of the host that waits is taken care of. -/
def Ledger (hand : Option LiveEvent) (core : Core) : Prop :=
  Cared none hand core ∧ ∃ handled, Booked (handled ++ hand.toList) handled handled core

theorem ledger_conduct : Conduct Ledger (fun _ => Remains) where
  lasts := by
    rintro hand core _ ⟨_, handled, h⟩
    exact h.remains
  abates h habates := h.abates habates
  deed := by
    rintro hand core core' _ ⟨hcared, handled, h⟩ hdeed
    refine ⟨?_, handled, h.deed hdeed⟩
    exact Exec.path_preserves (fun core _ hcared hadvance => hcared.advance (tells_none core) hadvance)
      hdeed.advances hcared
  received := by
    rintro core event channel _ ⟨hcared, handled, h⟩ hchannel
    rw [Option.toList_none, List.append_nil] at h
    exact ⟨hcared.taken hchannel, handled, h.take hchannel⟩
  joined := by
    rintro core exit finished _ ⟨hcared, handled, h⟩ _
    exact ⟨hcared.same rfl rfl (List.Subset.refl _) rfl, handled, h.join finished⟩
  dispatched event hevent := by
    rintro core ⟨hbase, hopen, hcared, handled, h⟩
    -- The books, and the operations of the host, which are kept beside them.
    have hrun := Exec.triple_and (dispatch_booked hevent) (dispatch_cared hevent) core
      ⟨⟨hbase, hopen, h⟩, hbase, hcared⟩
    cases hres : (dispatch event).run core with
    | ok value core' =>
        rw [hres] at hrun
        refine ⟨hrun.2, handled ++ [event], ?_⟩
        rw [Option.toList_none, List.append_nil]
        exact hrun.1
    | error stop core' =>
        rw [hres] at hrun
        exact hrun.1

section Runs

variable (program : Program) (bindings : Bindings) (schedule : List (List Activity)) (fuel : Nat)

theorem Ledger.fresh : Ledger none (Core.fresh program bindings schedule) := by
  refine ⟨.fresh program bindings schedule, [],
    .fresh program bindings schedule, rfl, List.prefix_rfl, fun errand => ?_,
    List.Sublist.refl _, rfl, (Correlation.Law.empty _).remains, .empty,
    fun _ => ⟨Correlation.Law.empty _, ?_⟩⟩
  · cases errand <;> exact Custody.empty
  · rintro ⟨completion, hmem⟩
    exact List.not_mem_nil hmem

theorem ledger_launch : Conduct.Ends Ledger (fun _ => Remains) (outcome (launch program bindings schedule fuel))
    (Exec.final (launch program bindings schedule fuel)) :=
  ledger_conduct.launch (.fresh program bindings schedule) fuel

/-- The owner still runs, and nobody has cancelled it. -/
def Undisturbed (result : EStateM.Result Stop Core Unit) (core : Core) : Prop :=
  result = .error .outOfFuel core ∧ .shutdown .cancel ∉ core.scope.sent

theorem held_of_undisturbed {core : Core}
    (h : Undisturbed (launch program bindings schedule fuel) core) :
    Conduct.Held Ledger none core := by
  have hends : Conduct.Ends Ledger (fun _ => Remains) (.error .outOfFuel) core := by
    have hlaunch := ledger_launch program bindings schedule fuel
    rw [h.1] at hlaunch
    exact hlaunch
  exact (hends.undisturbed h.2).1 rfl

/-- The books of an owner that still runs are up to date. -/
theorem booked_of_undisturbed {core : Core}
    (h : Undisturbed (launch program bindings schedule fuel) core) :
    Booked core.received core.received core.received core := by
  obtain ⟨_, handled, hbooked⟩ := (held_of_undisturbed program bindings schedule fuel h).inv
  rw [Option.toList_none, List.append_nil] at hbooked
  rw [hbooked.taken]
  exact hbooked

/-- The owner takes events, and Messages begin their transitions, in the order
    in which the scope has accepted them. -/
structure InOrder (core : Core) : Prop where
  received : core.received <+: core.scope.sent
  ordered : core.begun.Sublist (messages core.received)
  plain : core.begun.filter (·.isPlain) <+: (messages core.received).filter (·.isPlain)

/-- Whatever happens beside a live runtime and however its run ends: events are
    taken and transitions begin in the order of acceptance, and of the Messages
    that no Source has made none is passed over and none begins two.  While the
    owner runs, all it has not dealt with is on the channel. -/
theorem transitions_in_order :
    InOrder (Exec.final (launch program bindings schedule fuel)) ∧
    ∀ core, Undisturbed (launch program bindings schedule fuel) core →
      core.scope.sent = core.received ++ core.scope.channel ∧
      core.begun.filter (·.isPlain) = (messages core.received).filter (·.isPlain) := by
  have hremains := (ledger_launch program bindings schedule fuel).1
  have htaken := taken_launch program bindings schedule fuel
  refine ⟨⟨htaken.sent, hremains.ordered, hremains.plain⟩, ?_⟩
  intro core h
  have hbooked := booked_of_undisturbed program bindings schedule fuel h
  exact ⟨hbooked.queued.sent, hbooked.plain⟩

/-- Whatever happens beside a live runtime and however its run ends: no effect
    and no timer is with two tasks, none delivers twice, and only those deliver
    that were issued.  While the owner runs, its rows are those that it has
    issued and whose delivery it has not taken. -/
theorem errands_in_custody (errand : Errand) :
    errand.Afoot (Exec.final (launch program bindings schedule fuel)) ∧
    ∀ core, Undisturbed (launch program bindings schedule fuel) core →
      errand.Accounted core.received core :=
  ⟨(ledger_launch program bindings schedule fuel).1.afoot errand, fun _ h =>
    (booked_of_undisturbed program bindings schedule fuel h).accounted errand⟩

/-- Every Reply that reaches a continuation names a request that was issued
    before, has its type, and is the first to it. -/
structure Redeemed (core : Core) : Prop where
  linear : Correlation.Linear (·.correlation) (·.replyType) core.machine.history
  distinct : ((Correlation.issued core.machine.history).map (·.correlation)).Nodup
  once : (Correlation.answered core.machine.history).Nodup

/-- Whatever happens beside a live runtime and however its run ends: a
    continuation is invoked once at most, and only with a Reply to its own
    request.  While the owner runs, its table is what it has issued and what
    has not been answered. -/
theorem requests_answered_once :
    Redeemed (Exec.final (launch program bindings schedule fuel)) ∧
    ∀ core, Undisturbed (launch program bindings schedule fuel) core →
      core.requests = (Correlation.issued core.machine.history).filter
        (·.correlation ∉ Correlation.answered core.machine.history) := by
  have hremains := (ledger_launch program bindings schedule fuel).1
  refine ⟨⟨hremains.linear, hremains.correlated.distinct, hremains.correlated.once⟩, ?_⟩
  intro core h
  have hopen := (held_of_undisturbed program bindings schedule fuel h).opened
  -- The table is complete as long as no Cancel has been announced.
  have hphase : core.scope.phase ≠ .cancelling := fun hcancelling =>
    h.2 ((hopen.announced .cancel).mp hcancelling)
  exact ((booked_of_undisturbed program bindings schedule fuel h).kept hphase).1.outstanding

end Runs

end Live

end Samara
