/-
  Samara.Controlled.Tags

  The types that the tables of a runtime record are the types of what is boxed
  in them.  A row keeps its type beside a boxed value or a mapper, and the step
  that writes the row writes both; every other step leaves them alone.
-/
import Samara.Controlled.Conformance
import Samara.Controlled.Fitting

namespace Samara

open Relation (ReflTransGen)

variable [RustTypes]

/-! ## Mappers -/

/-- The mapper unboxes the outcome of an Effect of type `effectType` and boxes
    the Message that the typed map of an Effect command makes of it.  If it
    panics on such an outcome, that map does. -/
def MapsOutcome (mapper : ErasedOutcomeMapper) (effectType messageType : TypeId) : Prop :=
  ∃ (command : EffectCommand messageType)
    (map : EffectOutcome (Val (RustTypes.effectOutput command.descriptorType))
      (Val (RustTypes.effectError command.descriptorType)) → Callback (Val messageType)),
    command.descriptorType = effectType ∧ command.map = some map ∧
      command.mapper = some mapper ∧
        ∀ outcome, mapper ⟨_, _, outcome⟩ = (map outcome).map (ErasedValue.mk messageType)

/-- The mapper unboxes a Reply of type `replyType` and boxes the Message that the
    typed map of a Request makes of it.  If it panics on such a Reply, that map
    does. -/
def MapsReply (mapper : ErasedMessageMapper) (replyType messageType : TypeId) : Prop :=
  ∃ command : RequestCommand messageType, command.replyType = replyType ∧
    mapper = command.mapper ∧ ∀ reply, mapper ⟨command.replyType, reply⟩ =
      (command.map (.replied reply)).map (ErasedValue.mk messageType)

theorem EffectCommand.mapsOutcome {message : TypeId} {command : EffectCommand message}
    {mapper : ErasedOutcomeMapper} (h : command.mapper = some mapper) :
    MapsOutcome mapper command.descriptorType message := by
  have hmapper := h
  unfold EffectCommand.mapper at h
  obtain ⟨map, hmap, rfl⟩ := Option.map_eq_some_iff.mp h
  refine ⟨command, map, rfl, hmap, hmapper, ?_⟩
  intro outcome
  simp only [ErasedOutcome.downcast_self]

/-- The mapper of a Request is given a Reply of its own type. -/
theorem RequestCommand.mapper_reply {message : TypeId} (command : RequestCommand message)
    (reply : Val command.replyType) : command.mapper ⟨command.replyType, reply⟩ =
      (command.map (.replied reply)).map (ErasedValue.mk message) := by
  unfold RequestCommand.mapper
  rw [ErasedValue.downcast_self]

theorem RequestCommand.mapsReply {message : TypeId} (command : RequestCommand message) :
    MapsReply command.mapper command.replyType message :=
  ⟨command, rfl, rfl, command.mapper_reply⟩

namespace Controlled

/-! ## Where tagged rows come from -/

section Origins

variable {phase : Phase} {core core' : Core}

/-- An event in the schedule was there before, or was typed when it came in. -/
theorem Action.events (h : Action core phase core') {work : ScheduledWork}
    {event : QueuedSourceEvent} (hwork : work ∈ core'.scheduled)
    (hkind : work.kind = .sourceEvent event) :
    work ∈ core.scheduled ∨ event.event.type = event.terminalType.eventType := by
  have hmessage {base : List ScheduledWork} {deadline : Duration} {ticket : Nat}
      {message : QueuedMessage} (hmem : work ∈ base ++ [⟨deadline, ticket, .message message⟩])
      (hbase : base = core.scheduled) : work ∈ core.scheduled := by
    rcases List.mem_append.mp hmem with hold | hnew
    · exact hbase ▸ hold
    · rw [List.mem_singleton.mp hnew] at hkind
      cases hkind
  have hpopped {popped : ScheduledWork} (hmem : work ∈ (core.popped popped).scheduled) :
      work ∈ core.scheduled := List.mem_of_mem_eraseP hmem
  cases h with
  | sendDeclared => exact .inl (hmessage hwork (by simp))
  | notifyDeclared => exact .inl (hmessage hwork (by simp))
  | requestDeclared => exact .inl (hmessage hwork (by simp))
  | replyDeclared => exact .inl (hmessage hwork (by simp))
  | timerDeclared => exact .inl (hmessage hwork (by simp))
  | messageInput => exact .inl (hmessage hwork (by simp))
  | effectMapped => exact .inl (hmessage hwork (by simp))
  | sourceInput source given _ _ htype =>
      rcases List.mem_append.mp hwork with hold | hnew
      · exact .inl hold
      · rw [List.mem_singleton.mp hnew] at hkind
        cases hkind
        exact .inr htype
  | sourceEventStale => exact .inl (hpopped hwork)
  | messageStale => exact .inl (hpopped hwork)
  | sourceEventMapped popped given source plan outer mapped =>
      obtain ⟨records, works, heq, _, _, _, hkinds⟩ :=
        Core.foldl_withMappedEvent source given.cause mapped
          ((((core.popped popped).withPlan source plan given.event outer).withEmission source
            given.cause outer mapped).withRunning source
              (given.event.isTerminal || outer.any (·.isTerminal)))
      rw [heq] at hwork
      rcases List.mem_append.mp hwork with hold | hnew
      · exact .inl (hpopped hold)
      · obtain ⟨_, _, _, hnewKind⟩ := hkinds work hnew
        rw [hnewKind] at hkind
        cases hkind
  | messageDelivered => exact .inl (hpopped (by simpa using hwork))
  | deliveryFaulted => exact .inl (hpopped (by simpa using hwork))
  | deliveryMismatched => exact .inl (hpopped (by simpa using hwork))
  | _ =>
      refine .inl ?_
      simpa using hwork

/-- An outstanding request was outstanding before, or a Request created it. -/
theorem Action.creates (h : Action core phase core') {request : OutstandingRequest}
    (hrequest : request ∈ core'.requests) : request ∈ core.requests ∨ core'.Creates request := by
  cases h with
  | @requestDeclared message component cause command _ protocolMessage _ _ _ _ hmessage _ =>
      rcases List.mem_append.mp hrequest with hold | hnew
      · exact .inl hold
      · rw [List.mem_singleton.mp hnew]
        refine .inr ⟨core.nextTrace, core.now, message, command, protocolMessage, ?_, hmessage, rfl⟩
        refine List.mem_filterMap.mpr ⟨.declared core.nextTrace component core.now
          ⟨message, .request command⟩, ?_, rfl⟩
        simp
  | replyDeclared => exact .inl (List.mem_of_mem_eraseP hrequest)
  | replyMistyped => exact .inl (List.mem_of_mem_eraseP hrequest)
  | sourceEventMapped =>
      refine .inl ?_
      simpa [Core.withPlan, Core.withRunning] using hrequest
  | _ =>
      refine .inl ?_
      simpa using hrequest

end Origins

/-! ## Tagged tables -/

/-- Boxed values have the types that their rows record. -/
structure Tagged (core : Core) : Prop where
  events : ∀ work ∈ core.scheduled, ∀ event, work.kind = .sourceEvent event →
    event.event.type = event.terminalType.eventType
  descriptors : ∀ entry ∈ core.effects, ∀ descriptor, entry.descriptor = some descriptor →
    descriptor.type = entry.descriptorType
  requests : ∀ request ∈ core.requests, core.Creates request

theorem Tagged.action {phase : Phase} {core core' : Core} (h : Tagged core)
    (haction : Action core phase core') : Tagged core' := by
  constructor
  · intro work hwork event hkind
    rcases haction.events hwork hkind with hold | htype
    · exact h.events work hold event hkind
    · exact htype
  · intro entry hentry descriptor hdescriptor
    rcases haction.effects hentry with ⟨old, hold, rfl | rfl⟩ | ⟨_, _, command, rfl, _⟩
    · exact h.descriptors _ hold descriptor hdescriptor
    · cases hdescriptor
    · cases hdescriptor
      rfl
  · intro request hrequest
    rcases haction.creates hrequest with hold | hcreates
    · exact (h.requests request hold).mono (declarations_grow haction)
    · exact hcreates

theorem Tagged.fresh (program : Program) (bindings : Bindings) :
    Tagged (Core.fresh program bindings) := by
  constructor <;> simp [Core.fresh]

/-! ## Runs -/

/-- What every state of a run satisfies, faulted or not. -/
structure Upright (builder : ProgramBuilder) (core : Core) : Prop where
  founded : Founded builder core
  addressed : Addressed core
  typed : Typed core
  owed : Owed core
  tagged : Tagged core

namespace Upright

variable {builder : ProgramBuilder} {core core' : Core}

theorem action (h : Upright builder core) {phase : Phase} (haction : Action core phase core') :
    Upright builder core' where
  founded := h.founded.action haction
  addressed := h.addressed.action h.founded haction
  typed := h.typed.action haction
  owed := h.owed.action haction
  tagged := h.tagged.action haction

/-- Nothing in the tables is about the time. -/
theorem passed (h : Upright builder core) (time : Duration) :
    Upright builder { core with now := time } := by
  obtain ⟨⟨hnumbered, hwired, hcomplete, hshape⟩, ⟨hmessages, heffects, hrows, hsources,
    hprojections⟩, ⟨htypes, hstamped, hmappers, hreplies⟩, howed, hevents, hdescriptors,
      hrequests⟩ := h
  exact ⟨⟨hnumbered, hwired, hcomplete, hshape⟩, ⟨hmessages, heffects, hrows, hsources,
    hprojections⟩, ⟨htypes, hstamped, hmappers, hreplies⟩, howed, hevents, hdescriptors,
      hrequests⟩

theorem path (h : Upright builder core) (hpath : ReflTransGen Move core core') :
    Upright builder core' :=
  move_preserves (fun _ _ _ hupright hacts => hupright.action hacts.2)
    (fun _ time hupright => hupright.passed time) hpath h

theorem acts (h : Upright builder core) {phase : Phase}
    (hpath : ReflTransGen (Acts phase) core core') : Upright builder core' :=
  h.path (ReflTransGen.mono (fun _ _ => Acts.move) _ _ hpath)

theorem fresh {program : Program} {bindings : Bindings} (hassembled : builder.Assembled)
    (hbuild : builder.build = .ok program) (hvalid : bindings.validate program = .ok ()) :
    Upright builder (Core.fresh program bindings) := by
  have hharmless := Harmless.fresh hassembled hbuild hvalid
  exact ⟨hharmless.founded, hharmless.addressed, Typed.fresh _ _, Owed.fresh _ _,
    Tagged.fresh _ _⟩

/-- The mapper of a pending effect takes outcomes of its descriptor type. -/
theorem mapsOutcome (h : Upright builder core) {entry : PendingEffectEntry}
    (hentry : entry ∈ core.effects) {mapper : ErasedOutcomeMapper}
    (hmapper : entry.mapper = some mapper) :
    MapsOutcome mapper entry.descriptorType entry.messageType := by
  obtain ⟨message, command, _, _, hsame, htype, hmessage⟩ := h.owed entry hentry
  rw [htype, hmessage]
  exact EffectCommand.mapsOutcome (hsame.symm.trans hmapper)

/-- The mapper of an outstanding request takes Replies of its Reply type. -/
theorem mapsReply (h : Upright builder core) {request : OutstandingRequest}
    (hrequest : request ∈ core.requests) :
    MapsReply request.mapper request.replyType request.messageType := by
  obtain ⟨_, _, _, command, _, _, _, heq⟩ := h.tagged.requests request hrequest
  rw [heq]
  exact command.mapsReply

end Upright

end Controlled

end Samara
