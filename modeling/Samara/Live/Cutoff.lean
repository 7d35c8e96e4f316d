/-
  Samara.Live.Cutoff

  The single admission cutoff of a live runtime.  The first half is about the
  scope alone, under any interleaving of its methods; the second shows that the
  owner calls `fault` and `close` only where the first half allows it.
-/
import Samara.Live.Step

namespace Samara

open Relation (ReflTransGen)

variable [RustTypes]

namespace Live

/-! ## Calls -/

/-- What an accept call would append. -/
def ScopeCall.accepts : ScopeCall → Option LiveEvent
  | .ingress event | .source event | .finite event => some event
  | .shutdown _ | .fault _ | .close => none

/-- What a successful call appends. -/
def ScopeCall.appends : ScopeCall → List LiveEvent
  | .ingress event | .source event | .finite event => [event]
  | .shutdown mode => [.shutdown mode]
  | .fault _ | .close => []

/-- The phases in which a call may append. -/
def ScopeCall.OpenIn : ScopeCall → ScopePhase → Prop
  | .ingress _, phase | .source _, phase | .shutdown _, phase => phase = .running
  | .finite _, phase => phase = .running ∨ phase = .draining
  | .fault _, _ | .close, _ => False

/-- The calls that a cutoff ends: ingress, Source events and shutdown. -/
def ScopeCall.closes : ScopeCall → Bool
  | .ingress _ | .source _ | .shutdown _ => true
  | .finite _ | .fault _ | .close => false

/-- The calls that hand a stored fault to their caller. -/
def ScopeCall.returnsFault : ScopeCall → Bool
  | .ingress _ | .shutdown _ => true
  | .source _ | .finite _ | .fault _ | .close => false

def LiveEvent.isMarker : LiveEvent → Bool
  | .shutdown _ => true
  | _ => false

/-- What `accept_ingress` is called with. -/
def LiveEvent.isIngress : LiveEvent → Bool
  | .message _ | .portIngress _ => true
  | _ => false

/-- What `accept_source` is called with. -/
def LiveEvent.isSource : LiveEvent → Bool
  | .sourceEvent _ _ _ => true
  | _ => false

/-- What `accept_finite` is called with. -/
def LiveEvent.isFinite : LiveEvent → Bool
  | .message _ | .effectOutcome _ _ | .timerFired _ _ => true
  | _ => false

/-- The events that nothing but Running admits. -/
def LiveEvent.isCutOff : LiveEvent → Bool
  | .portIngress _ | .sourceEvent _ _ _ | .shutdown _ => true
  | .message _ | .effectOutcome _ _ | .timerFired _ _ => false

/-- A call that may happen in this phase: each accepts events of its own kind,
    nobody but `begin_shutdown` makes a marker, and `close` ends a Drain or a
    Cancel. -/
def ScopeCall.Legal (phase : ScopePhase) : ScopeCall → Prop
  | .ingress event => event.isIngress = true
  | .source event => event.isSource = true
  | .finite event => event.isFinite = true
  | .shutdown _ | .fault _ => True
  | .close => phase = .draining ∨ phase = .cancelling

/-- No accept call is handed a marker. -/
theorem ScopeCall.Legal.isMarker {phase : ScopePhase} {call : ScopeCall} (h : call.Legal phase)
    {event : LiveEvent} (haccepts : call.accepts = some event) : event.isMarker = false := by
  cases call with
  | ingress accepted | source accepted | finite accepted =>
      cases haccepts
      cases event with
      | shutdown mode => cases h
      | _ => rfl
  | shutdown mode | fault error | close => cases haccepts

/-- The phase moves only this way. -/
inductive ScopePhase.Moves : ScopePhase → ScopePhase → Prop
  | stays (phase : ScopePhase) : Moves phase phase
  | drains : Moves .running .draining
  | cancels : Moves .running .cancelling
  | faults {phase : ScopePhase} (error : RuntimeError) (hphase : phase.isFinal = false) :
      Moves phase (.faulted error)
  | closes {phase : ScopePhase} (hphase : phase = .draining ∨ phase = .cancelling) :
      Moves phase .closed

omit [RustTypes] in
theorem ScopePhase.Moves.eq_of_isFinal {before after : ScopePhase} (h : before.Moves after)
    (hfinal : before.isFinal = true) : after = before := by
  cases h with
  | stays => rfl
  | drains => cases hfinal
  | cancels => cases hfinal
  | faults error hphase =>
      rw [hphase] at hfinal
      cases hfinal
  | closes hphase => rcases hphase with rfl | rfl <;> cases hfinal

omit [RustTypes] in
theorem ScopePhase.Moves.ne_running {before after : ScopePhase} (h : before.Moves after)
    (hbefore : before ≠ .running) : after ≠ .running := by
  cases h with
  | stays => exact hbefore
  | drains => simp
  | cancels => simp
  | faults => simp
  | closes => simp

/-- What the history says of one call. -/
structure ScopeEntry.Sound (entry : ScopeEntry) : Prop where
  success : entry.result = .ok () → entry.appended = entry.call.appends
  failure : entry.result ≠ .ok () → entry.appended = []
  phase : entry.appended ≠ [] → entry.call.OpenIn entry.before
  moves : entry.before.Moves entry.after
  legal : entry.call.Legal entry.before
  /-- A successful shutdown leaves Running. -/
  marker : (∃ event ∈ entry.appended, event.isMarker = true) → entry.after ≠ .running
  fault : ∀ error, entry.before = .faulted error → entry.call.returnsFault = true →
    entry.result = .error (some error)

namespace ScopeEntry.Sound

variable {entry : ScopeEntry}

theorem appended_of_mem (h : entry.Sound) {event : LiveEvent} (hevent : event ∈ entry.appended) :
    entry.appended = entry.call.appends := by
  refine h.success ?_
  by_contra hfailed
  rw [h.failure hfailed] at hevent
  cases hevent

/-- A marker is appended by a shutdown, and alone. -/
theorem shutdown_of_mem (h : entry.Sound) {event : LiveEvent} (hevent : event ∈ entry.appended)
    (hmarker : event.isMarker = true) :
    ∃ mode, entry.call = .shutdown mode ∧ entry.appended = [.shutdown mode] := by
  have happended := h.appended_of_mem hevent
  have hlegal := h.legal
  rw [happended] at hevent
  cases hcall : entry.call with
  | shutdown mode =>
      rw [hcall] at happended
      exact ⟨mode, rfl, happended⟩
  | fault error =>
      rw [hcall] at hevent
      cases hevent
  | close =>
      rw [hcall] at hevent
      cases hevent
  | ingress accepted | source accepted | finite accepted =>
      rw [hcall] at hevent hlegal
      have hplain : accepted.isMarker = false := hlegal.isMarker rfl
      rw [List.mem_singleton.mp hevent, hplain] at hmarker
      cases hmarker

/-- Once the scope has left Running, nothing that a cutoff ends is appended. -/
theorem closed_off (h : entry.Sound) (hbefore : entry.before ≠ .running)
    (hcloses : entry.call.closes = true) : entry.appended = [] := by
  by_contra hne
  have hopen := h.phase hne
  cases hcall : entry.call <;> rw [hcall] at hopen hcloses
  · exact hbefore hopen
  · exact hbefore hopen
  · cases hcloses
  · exact hbefore hopen
  · cases hcloses
  · cases hcloses

/-- What is cut off is appended in Running alone. -/
theorem running_of_mem (h : entry.Sound) {event : LiveEvent} (hevent : event ∈ entry.appended)
    (hcutOff : event.isCutOff = true) : entry.before = .running := by
  have hopen := h.phase (List.ne_nil_of_mem hevent)
  have hlegal := h.legal
  rw [h.appended_of_mem hevent] at hevent
  cases hcall : entry.call <;> rw [hcall] at hopen hlegal hevent
  case finite accepted =>
    cases List.mem_singleton.mp hevent
    cases event with
    | message message => cases hcutOff
    | effectOutcome effect outcome => cases hcutOff
    | timerFired timer message => cases hcutOff
    | portIngress ingress => cases hlegal
    | sourceEvent stamp terminalType event => cases hlegal
    | shutdown mode => cases hlegal
  case fault error => cases hevent
  case close => cases hevent
  all_goals exact hopen

theorem no_marker (h : entry.Sound) (hbefore : entry.before ≠ .running) :
    ∀ event ∈ entry.appended, event.isMarker = false := by
  intro event hevent
  by_contra hmarker
  obtain ⟨mode, hcall, _⟩ := h.shutdown_of_mem hevent (by simpa using hmarker)
  rw [h.closed_off hbefore (by rw [hcall]; rfl)] at hevent
  cases hevent

end ScopeEntry.Sound

namespace Scope

/-- What the history keeps of a call. -/
def entry (scope : Scope) (call : ScopeCall) : ScopeEntry :=
  ⟨call, scope.phase, (scope.method call).2.phase,
    (scope.method call).2.channel.drop scope.channel.length, (scope.method call).1⟩

theorem called_log (scope : Scope) (call : ScopeCall) :
    (scope.called call).log = scope.log ++ [scope.entry call] := rfl

theorem called_phase (scope : Scope) (call : ScopeCall) :
    (scope.called call).phase = (scope.method call).2.phase := rfl

theorem called_channel (scope : Scope) (call : ScopeCall) :
    (scope.called call).channel = (scope.method call).2.channel := rfl

/-- A method appends all or nothing, and says which. -/
theorem method_appends (scope : Scope) (call : ScopeCall) :
    ((scope.method call).1 = .ok () ∧
        (scope.method call).2.channel = scope.channel ++ call.appends) ∨
      ((∃ error, (scope.method call).1 = .error error) ∧
        (scope.method call).2.channel = scope.channel) := by
  obtain ⟨phase, connected, channel, log⟩ := scope
  cases call with
  | ingress event =>
      cases phase <;> cases connected <;>
        simp [method, acceptIngress, send, Except.mapError, ScopeCall.appends]
  | source event =>
      cases phase <;> cases connected <;>
        simp [method, acceptSource, send, ScopeCall.appends]
  | finite event =>
      cases phase <;> cases connected <;>
        simp [method, acceptFinite, send, ScopeCall.appends]
  | shutdown mode =>
      cases phase <;> cases connected <;>
        simp [method, beginShutdown, send, Except.mapError, ScopeCall.appends]
  | fault error =>
      cases phase <;> simp [method, fault, ScopePhase.isFinal, ScopeCall.appends]
  | close => simp [method, close, ScopeCall.appends]

theorem method_open (scope : Scope) (call : ScopeCall) (h : (scope.method call).1 = .ok ())
    (happends : call.appends ≠ []) : call.OpenIn scope.phase := by
  obtain ⟨phase, connected, channel, log⟩ := scope
  cases call with
  | ingress event =>
      cases phase <;> simp_all [method, acceptIngress, Except.mapError, ScopeCall.OpenIn]
  | source event => cases phase <;> simp_all [method, acceptSource, ScopeCall.OpenIn]
  | finite event => cases phase <;> simp_all [method, acceptFinite, ScopeCall.OpenIn]
  | shutdown mode =>
      cases phase <;> simp_all [method, beginShutdown, Except.mapError, ScopeCall.OpenIn]
  | fault error => exact absurd rfl happends
  | close => exact absurd rfl happends

theorem method_moves (scope : Scope) (call : ScopeCall) (h : call.Legal scope.phase) :
    scope.phase.Moves (scope.method call).2.phase := by
  obtain ⟨phase, connected, channel, log⟩ := scope
  cases call with
  | ingress event =>
      cases phase <;> cases connected <;> exact .stays _
  | source event => cases phase <;> cases connected <;> exact .stays _
  | finite event => cases phase <;> cases connected <;> exact .stays _
  | shutdown mode =>
      cases phase <;> cases connected <;> cases mode <;>
        first | exact .stays _ | exact .drains | exact .cancels
  | fault error =>
      cases phase <;> first | exact .stays _ | exact .faults error rfl
  | close => exact .closes h

theorem method_fault (scope : Scope) (call : ScopeCall) {error : RuntimeError}
    (hphase : scope.phase = .faulted error) (h : call.returnsFault = true) :
    (scope.method call).1 = .error (some error) := by
  cases call with
  | ingress event => simp [method, acceptIngress, hphase, Except.mapError]
  | shutdown mode => simp [method, beginShutdown, hphase, Except.mapError]
  | source event => cases h
  | finite event => cases h
  | fault error => cases h
  | close => cases h

/-- Only a successful shutdown appends a marker. -/
theorem method_marker (scope : Scope) (call : ScopeCall) (h : call.Legal scope.phase)
    (hok : (scope.method call).1 = .ok ())
    (hmarker : ∃ event ∈ call.appends, event.isMarker = true) :
    (scope.method call).2.phase ≠ .running := by
  obtain ⟨event, hevent, hmarker⟩ := hmarker
  cases call with
  | shutdown mode =>
      obtain ⟨phase, connected, channel, log⟩ := scope
      cases phase <;> cases connected <;> cases mode <;>
        simp_all [method, beginShutdown, send, shutdownPhase, Except.mapError]
  | ingress accepted | source accepted | finite accepted =>
      have hfalse : accepted.isMarker = false := h.isMarker rfl
      rw [List.mem_singleton.mp hevent, hfalse] at hmarker
      cases hmarker
  | fault error => cases hevent
  | close => cases hevent

theorem entry_sound (scope : Scope) (call : ScopeCall) (h : call.Legal scope.phase) :
    (scope.entry call).Sound := by
  have hmoves := method_moves scope call h
  rcases method_appends scope call with ⟨hok, hchannel⟩ | ⟨⟨error, herror⟩, hchannel⟩
  · have happended : (scope.entry call).appended = call.appends := by
      show (scope.method call).2.channel.drop _ = _
      rw [hchannel, List.drop_left]
    refine ⟨fun _ => happended, fun hne => absurd hok hne, ?_, hmoves, h, ?_, ?_⟩
    · intro hne
      rw [happended] at hne
      exact method_open scope call hok hne
    · intro hmarker
      rw [happended] at hmarker
      exact method_marker scope call h hok hmarker
    · intro error hphase hreturns
      exact method_fault scope call hphase hreturns
  · have happended : (scope.entry call).appended = [] := by
      show (scope.method call).2.channel.drop _ = _
      rw [hchannel, List.drop_length]
    refine ⟨fun hok => ?_, fun _ => happended, fun hne => absurd happended hne, hmoves, h, ?_, ?_⟩
    · have hcontra := herror.symm.trans hok
      cases hcontra
    · rintro ⟨event, hevent, _⟩
      rw [happended] at hevent
      cases hevent
    · intro error hphase hreturns
      exact method_fault scope call hphase hreturns

end Scope

/-! ## Histories of calls -/

/-- The entries take the scope from the first phase to the last. -/
def Chained : ScopePhase → List ScopeEntry → ScopePhase → Prop
  | first, [], last => first = last
  | first, entry :: entries, last => entry.before = first ∧ Chained entry.after entries last

theorem chained_append {first middle last : ScopePhase} {entries : List ScopeEntry}
    (h : Chained first entries middle) {entry : ScopeEntry} (hbefore : entry.before = middle)
    (hafter : entry.after = last) : Chained first (entries ++ [entry]) last := by
  induction entries generalizing first with
  | nil => exact ⟨hbefore.trans h.symm, hafter⟩
  | cons head entries ih => exact ⟨h.1, ih h.2⟩

theorem chained_split {first last : ScopePhase} {before after : List ScopeEntry}
    (h : Chained first (before ++ after) last) :
    ∃ middle, Chained first before middle ∧ Chained middle after last := by
  induction before generalizing first with
  | nil => exact ⟨first, rfl, h⟩
  | cons head before ih =>
      obtain ⟨middle, hbefore, hafter⟩ := ih h.2
      exact ⟨middle, ⟨h.1, hbefore⟩, hafter⟩

/-- A property of phases that no call ends holds from its start to the end. -/
theorem chained_keeps {P : ScopePhase → Prop}
    (hmoves : ∀ before after : ScopePhase, before.Moves after → P before → P after)
    {first last : ScopePhase} {entries : List ScopeEntry} (h : Chained first entries last)
    (hsound : ∀ entry ∈ entries, entry.Sound) (hfirst : P first) :
    (∀ entry ∈ entries, P entry.before ∧ P entry.after) ∧ P last := by
  induction entries generalizing first with
  | nil => exact ⟨by simp, h ▸ hfirst⟩
  | cons head entries ih =>
      have hbefore : P head.before := h.1 ▸ hfirst
      have hafter := hmoves _ _ (hsound head (by simp)).moves hbefore
      obtain ⟨hrest, hlast⟩ := ih h.2 (fun entry hentry =>
        hsound entry (List.mem_cons_of_mem _ hentry)) hafter
      refine ⟨?_, hlast⟩
      intro entry hentry
      rcases List.mem_cons.mp hentry with rfl | hmem
      · exact ⟨hbefore, hafter⟩
      · exact hrest entry hmem

/-- A history of calls with one admission cutoff. -/
structure Admission (log : List ScopeEntry) (phase : ScopePhase) : Prop where
  /-- An accept call reports success exactly when its event was appended. -/
  reports : ∀ entry ∈ log, ∀ event, entry.call.accepts = some event →
    (entry.result = .ok () ↔ entry.appended = [event]) ∧
      (entry.result ≠ .ok () → entry.appended = [])
  /-- Ingress and Source events are appended only in Running, the outcomes of
      effects, timers and Messages only in Running or Draining. -/
  phases : ∀ entry ∈ log, entry.appended ≠ [] → entry.call.OpenIn entry.before
  /-- So is it by the kind of the event, whichever call has appended it. -/
  kinds : ∀ entry ∈ log, ∀ event ∈ entry.appended,
    (event.isCutOff = true → entry.before = .running) ∧
      (entry.before = .running ∨ entry.before = .draining)
  /-- A marker is appended alone, no second one follows it, and neither does
      an ingress or Source event. -/
  marker : ∀ before entry after, log = before ++ entry :: after →
    (∃ event ∈ entry.appended, event.isMarker = true) →
      (∃ mode, entry.call = .shutdown mode ∧ entry.appended = [.shutdown mode]) ∧
        ∀ later ∈ after, (later.call.closes = true → later.appended = []) ∧
          ∀ event ∈ later.appended, event.isMarker = false ∧ event.isCutOff = false
  /-- The phase starts at Running, moves from call to call only as allowed, and
      the last call left it where it is. -/
  chained : Chained .running log phase
  moves : ∀ entry ∈ log, entry.before.Moves entry.after
  /-- Faulted and Closed are never left, and a stored fault is what every later
      ingress and shutdown call returns. -/
  final : ∀ before entry after, log = before ++ entry :: after → entry.after.isFinal = true →
    phase = entry.after ∧ ∀ later ∈ after, later.before = entry.after ∧
      later.after = entry.after ∧ ∀ error, entry.after = .faulted error →
        later.call.returnsFault = true → later.result = .error (some error)

theorem Chained.admission {log : List ScopeEntry} {phase : ScopePhase}
    (h : Chained .running log phase) (hsound : ∀ entry ∈ log, entry.Sound) :
    Admission log phase := by
  refine ⟨?_, fun entry hentry => (hsound entry hentry).phase, ?_, ?_, h,
    fun entry hentry => (hsound entry hentry).moves, ?_⟩
  · intro entry hentry event haccepts
    have happends : entry.call.appends = [event] := by
      cases hcall : entry.call <;> rw [hcall] at haccepts <;> cases haccepts <;> rfl
    refine ⟨⟨fun hok => ((hsound entry hentry).success hok).trans happends, ?_⟩,
      (hsound entry hentry).failure⟩
    intro happended
    by_contra hne
    rw [(hsound entry hentry).failure hne] at happended
    cases happended
  · intro entry hentry event hevent
    refine ⟨(hsound entry hentry).running_of_mem hevent, ?_⟩
    have hopen := (hsound entry hentry).phase (List.ne_nil_of_mem hevent)
    cases hcall : entry.call <;> rw [hcall] at hopen
    case finite accepted => exact hopen
    case fault error => cases hopen
    case close => cases hopen
    all_goals exact .inl hopen
  · rintro before entry after rfl hmarker
    have hentry := hsound entry (by simp)
    obtain ⟨middle, _, hafter⟩ := chained_split h
    obtain ⟨event, hevent, hisMarker⟩ := hmarker
    refine ⟨hentry.shutdown_of_mem hevent hisMarker, ?_⟩
    intro later hlater
    have hbefore := ((@chained_keeps _ (fun phase => phase ≠ .running) (fun _ _ hmoves => hmoves.ne_running)
      _ _ _ hafter.2 (fun entry hentry => hsound entry (by simp [hentry]))
      (hentry.marker ⟨event, hevent, hisMarker⟩)).1 later hlater).1
    have hlater' := hsound later (by simp [hlater])
    refine ⟨hlater'.closed_off hbefore, fun event hevent =>
      ⟨hlater'.no_marker hbefore event hevent, ?_⟩⟩
    by_contra hcutOff
    exact hbefore (hlater'.running_of_mem hevent (Bool.eq_true_of_not_eq_false hcutOff))
  · rintro before entry after rfl hfinal
    obtain ⟨middle, _, hafter⟩ := chained_split h
    have hkeeps := @chained_keeps _ (fun phase => phase = entry.after)
      (fun _ _ hmoves hp => by
        subst hp
        exact hmoves.eq_of_isFinal hfinal) _ _ _ hafter.2
      (fun entry hentry => hsound entry (by simp [hentry])) rfl
    refine ⟨hkeeps.2, ?_⟩
    intro later hlater
    obtain ⟨hbefore, hafter⟩ := hkeeps.1 later hlater
    refine ⟨hbefore, hafter, ?_⟩
    intro error herror hreturns
    exact (hsound later (by simp [hlater])).fault error (hbefore.trans herror) hreturns

/-! ## Runs of the scope -/

/-- The calls that come from beside the owner, and the owner's own sends. -/
def ScopeCall.Ordinary : ScopeCall → Prop
  | .ingress event => event.isIngress = true
  | .source event => event.isSource = true
  | .finite event => event.isFinite = true
  | .shutdown _ => True
  | .fault _ | .close => False

theorem ScopeCall.Ordinary.legal {call : ScopeCall} (h : call.Ordinary) (phase : ScopePhase) :
    call.Legal phase := by
  cases call with
  | ingress event | source event | finite event => exact h
  | shutdown mode => trivial
  | fault error => cases h
  | close => cases h

namespace Scope

/-- What happens to the scope while its owner runs. -/
inductive Beat (scope : Scope) : Scope → Prop
  | called {call : ScopeCall} (hcall : call.Ordinary) : Beat scope (scope.called call)
  | taken {channel : List LiveEvent} (h : channel.Sublist scope.channel) :
      Beat scope { scope with channel }

/-- The history of the scope is a sound chain that ends in its phase. -/
structure Recorded (scope : Scope) : Prop where
  chained : Chained .running scope.log scope.phase
  sound : ∀ entry ∈ scope.log, entry.Sound

/-- The scope of an owner that has neither faulted nor finished. -/
structure Alive (scope : Scope) : Prop where
  recorded : scope.Recorded
  notFinal : scope.phase.isFinal = false
  /-- A marker on the channel says which phase its shutdown began. -/
  marker : ∀ mode, .shutdown mode ∈ scope.channel → scope.phase = shutdownPhase mode

theorem Recorded.new : Scope.new.Recorded := ⟨rfl, by simp [Scope.new]⟩

theorem Alive.new : Scope.new.Alive := ⟨.new, rfl, by simp [Scope.new]⟩

theorem Recorded.called {scope : Scope} (h : scope.Recorded) {call : ScopeCall}
    (hlegal : call.Legal scope.phase) : (scope.called call).Recorded := by
  constructor
  · rw [called_log]
    exact chained_append h.chained rfl rfl
  · intro entry hentry
    rw [called_log] at hentry
    rcases List.mem_append.mp hentry with hold | hnew
    · exact h.sound entry hold
    · rw [List.mem_singleton.mp hnew]
      exact entry_sound scope call hlegal

theorem Recorded.beat {scope scope' : Scope} (h : scope.Recorded) (hbeat : Beat scope scope') :
    scope'.Recorded := by
  cases hbeat with
  | called hcall => exact h.called (hcall.legal _)
  | taken => exact ⟨h.chained, h.sound⟩

/-- An ordinary call leaves Running at most, and only for a cutoff. -/
theorem called_phase_eq {scope : Scope} {call : ScopeCall} (hcall : call.Ordinary)
    (hphase : scope.phase ≠ .running) : (scope.called call).phase = scope.phase := by
  obtain ⟨phase, connected, channel, log⟩ := scope
  rw [called_phase]
  cases call with
  | ingress event => cases phase <;> first | rfl | exact absurd rfl hphase
  | source event => cases phase <;> cases connected <;> rfl
  | finite event => cases phase <;> cases connected <;> rfl
  | shutdown mode => cases phase <;> first | rfl | exact absurd rfl hphase
  | fault error => cases hcall
  | close => cases hcall

theorem called_isFinal (scope : Scope) {call : ScopeCall} (hcall : call.Ordinary) :
    (scope.called call).phase.isFinal = scope.phase.isFinal := by
  obtain ⟨phase, connected, channel, log⟩ := scope
  rw [called_phase]
  cases call with
  | ingress event => cases phase <;> cases connected <;> rfl
  | source event => cases phase <;> cases connected <;> rfl
  | finite event => cases phase <;> cases connected <;> rfl
  | shutdown mode => cases phase <;> cases connected <;> cases mode <;> rfl
  | fault error => cases hcall
  | close => cases hcall

theorem Beat.phase_eq {scope scope' : Scope} (h : Beat scope scope')
    (hphase : scope.phase ≠ .running) : scope'.phase = scope.phase := by
  cases h with
  | called hcall => exact called_phase_eq hcall hphase
  | taken => rfl

theorem Alive.beat {scope scope' : Scope} (h : scope.Alive) (hbeat : Beat scope scope') :
    scope'.Alive := by
  refine ⟨h.recorded.beat hbeat, ?_, ?_⟩
  · cases hbeat with
    | taken => exact h.notFinal
    | called hcall => exact (called_isFinal scope hcall).trans h.notFinal
  · intro mode hmode
    cases hbeat with
    | taken hsublist => exact h.marker mode (hsublist.subset hmode)
    | called hcall =>
        rename_i call
        rw [called_channel] at hmode
        rcases method_appends scope call with ⟨hok, hchannel⟩ | ⟨_, hchannel⟩
        · rw [hchannel] at hmode
          rcases List.mem_append.mp hmode with hold | hnew
          · have hbefore := h.marker mode hold
            rw [called_phase_eq hcall (by rw [hbefore]; cases mode <;> simp [shutdownPhase])]
            exact hbefore
          · obtain ⟨phase, connected, channel, log⟩ := scope
            cases call with
            | shutdown mode' =>
                cases List.mem_singleton.mp hnew
                cases phase <;> cases connected <;> first | rfl | cases hok
            | ingress event | source event | finite event =>
                have hplain : event.isMarker = false := (hcall.legal phase).isMarker rfl
                rw [← List.mem_singleton.mp hnew] at hplain
                cases hplain
            | fault error => cases hnew
            | close => cases hnew
        · rw [hchannel] at hmode
          have hbefore := h.marker mode hmode
          rw [called_phase_eq hcall (by rw [hbefore]; cases mode <;> simp [shutdownPhase])]
          exact hbefore

end Scope

end Live

end Samara
