/-
  Samara.Controlled.Effects

  Effects of the controlled runtime are claimed and completed one to one.

  The table of pending effects is the desk of `Samara.Logic.Desk` on which
  occurrences are claimed by descriptor type and settled by number, seen from a
  harness that claims and completes in any order between its other operations.
-/
import Samara.Logic.Desk
import Samara.Controlled.Emission
import Samara.Controlled.Follow
import Samara.Controlled.Likeness

namespace Samara

open Exec (Leads leads_bind leads_pure)

variable [RustTypes]

/-- The boxed mapper of an effect calls its mapper on the outcome in the box. -/
theorem EffectCommand.mapper_calls {message : TypeId} {command : EffectCommand message}
    {map : EffectOutcome (Val (RustTypes.effectOutput command.descriptorType))
      (Val (RustTypes.effectError command.descriptorType)) → Callback (Val message)}
    (hmap : command.map = some map) :
    ∃ mapper, command.mapper = some mapper ∧
      ∀ outcome, mapper ⟨_, _, outcome⟩ = (map outcome).map (ErasedValue.mk message) := by
  unfold EffectCommand.mapper
  rw [hmap]
  refine ⟨_, rfl, ?_⟩
  intro outcome
  simp only [ErasedOutcome.downcast_self]

namespace Controlled

/-! ## What a harness sees -/

/-- A `PendingEffect` of some descriptor type. -/
structure Claim where
  effectType : TypeId
  pending : PendingEffect effectType

/-- The occurrence of a number, as it is handed out. -/
def Occurrence.claim (occurrence : Occurrence) (program : ProgramId) (id : Nat) : Claim :=
  ⟨occurrence.descriptorType, occurrence.token program id⟩

/-- The claims of a run in order, and the numbers of the effects completed. -/
structure History where
  claims : List Claim
  settled : List Nat

/-- The numbers of the effects that were handed out. -/
def History.held (history : History) : List Nat := history.claims.map (·.pending.id)

/-- What an operation handed out. -/
def claimed : EStateM.Result Stop Core Returned → List Claim
  | .ok (.claimed effectType pending) _ => [⟨effectType, pending⟩]
  | _ => []

/-- What an operation completed.  A mapper that panics has been invoked. -/
def completed : Operation → EStateM.Result Stop Core Returned → List Nat
  | .complete pending _, .ok _ _ => [pending.id]
  | .complete pending _, .error (.panicked _) _ => [pending.id]
  | _, _ => []

def History.after (history : History) (operation : Operation) (core : Core) : History :=
  let result := (perform operation).run core
  ⟨history.claims ++ claimed result, history.settled ++ completed operation result⟩

/-- A `PendingEffect` of this runtime is one that it handed out: no other way
    to make one is public. -/
def Operation.IsHeld (history : History) (program : ProgramId) : Operation → Prop
  | @Operation.complete _ effectType pending _ =>
      pending.program = program → ⟨effectType, pending⟩ ∈ history.claims
  | _ => True

/-- The runs of a harness with what it saw; operations may stop in any way. -/
inductive Handled (start : Core) : History → Core → Prop where
  | refl : Handled start ⟨[], []⟩ start
  | operation {history : History} {core : Core} (operation : Operation)
      (h : Handled start history core) (hheld : operation.IsHeld history core.program.program) :
      Handled start (history.after operation core)
        (Exec.final ((perform operation).run core))

/-! ## The table as a desk -/

/-- The row of a pending occurrence, whose descriptor may be out. -/
def row (held : List Nat) (numbered : Occurrence × Nat) : PendingEffectEntry :=
  if numbered.2 ∈ held then { Occurrence.entry numbered with descriptor := none }
  else Occurrence.entry numbered

section Row

variable (held : List Nat) (numbered : Occurrence × Nat)

@[simp] theorem row_id : (row held numbered).id = numbered.2 := by
  unfold row
  split <;> rfl

@[simp] theorem row_component : (row held numbered).component = numbered.1.component := by
  unfold row
  split <;> rfl

@[simp] theorem row_descriptorType :
    (row held numbered).descriptorType = numbered.1.descriptorType := by
  unfold row
  split <;> rfl

@[simp] theorem row_mapper : (row held numbered).mapper = numbered.1.command.mapper := by
  unfold row
  split <;> rfl

@[simp] theorem row_requestTrace : (row held numbered).requestTrace = numbered.1.work := by
  unfold row
  split <;> rfl

@[simp] theorem row_messageType : (row held numbered).messageType = numbered.1.messageType := by
  unfold row
  split <;> rfl

theorem row_isClaimable (effectType : TypeId) :
    (row held numbered).isClaimable effectType =
      (Desk.isOf Occurrence.descriptorType effectType numbered && decide (numbered.2 ∉ held)) := by
  unfold PendingEffectEntry.isClaimable Desk.isOf
  rw [row_descriptorType]
  unfold row
  split
  · rename_i hheld
    simp [hheld]
  · rename_i hfree
    simp [hfree, Occurrence.entry, pendingEntry]

theorem row_isPending (effectType : TypeId) (id : Nat) :
    (row held numbered).isPending effectType id =
      (decide (numbered.2 = id) && decide (numbered.1.descriptorType = effectType)) := by
  unfold PendingEffectEntry.isPending
  rw [row_id, row_descriptorType]

/-- A claim takes the descriptor out of one row. -/
theorem row_claimed (id : Nat) :
    row (held ++ [id]) numbered = if (row held numbered).id = id then
      { row held numbered with descriptor := none } else row held numbered := by
  rw [row_id]
  by_cases hid : numbered.2 = id
  · rw [if_pos hid]
    unfold row
    rw [if_pos (by simp [hid])]
    split <;> rfl
  · rw [if_neg hid]
    unfold row
    simp [hid]

end Row

/-- The effects `desk` stands for are those of the runtime and of what its
    harness has seen. -/
structure Tracks (desk : Desk Occurrence) (history : History) (core : Core) : Prop where
  law : desk.Law Occurrence.descriptorType
  claims : history.claims = desk.claimed.map fun numbered =>
    numbered.1.claim core.program.program numbered.2
  settled : history.settled = desk.settled
  inOrder : desk.issued.Sublist core.emittedEffects
  all : core.fault = none → desk.issued = core.emittedEffects
  rows : core.effects = desk.pending.map (row desk.held)
  nextEffect : core.nextEffect = desk.issued.length

/-- The state in which the descriptor of one occurrence has been handed out. -/
def Core.claiming (core : Core) (id : Nat) : Core :=
  { core with effects := core.effects.map fun entry =>
      if entry.id = id then { entry with descriptor := none } else entry }

/-- The state in which one obligation is gone. -/
def Core.settling (core : Core) (id : Nat) : Core :=
  { core with effects := core.effects.filter fun entry => decide (entry.id ≠ id) }

namespace Tracks

variable {desk : Desk Occurrence} {history : History} {core core' : Core}

theorem held (h : Tracks desk history core) : history.held = desk.held := by
  unfold History.held Desk.held
  rw [h.claims, List.map_map]
  rfl

theorem rows_nodup (h : Tracks desk history core) : (core.effects.map (·.id)).Nodup := by
  have hids : core.effects.map (·.id) = desk.pending.map (·.2) := by
    rw [h.rows, List.map_map]
    exact List.map_congr_left fun numbered _ => row_id desk.held numbered
  rw [hids]
  exact desk.numbered_nodup.sublist (List.filter_sublist.map _)

/-- What the runtime does on its own issues occurrences and nothing else. -/
theorem enlists (h : Tracks desk history core) (henlists : Enlists core core') :
    ∃ desk', Tracks desk' history core' := by
  obtain ⟨declared, accepted, hjournal, hinOrder, hall, hrows, hnext, hprogram⟩ := henlists
  refine ⟨desk.issue accepted, h.law.issue accepted, ?_, h.settled, ?_, ?_, ?_, ?_⟩
  · rw [hprogram]
    exact h.claims
  · rw [hjournal]
    exact h.inOrder.append hinOrder
  · intro hok
    obtain ⟨hbefore, haccepted⟩ := hall hok
    rw [hjournal, ← h.all hbefore, ← haccepted]
    rfl
  · rw [hrows, h.rows, Desk.pending_issue h.law, List.map_append, h.nextEffect]
    congr 1
    refine List.map_congr_left ?_
    intro numbered hnumbered
    have hlater : desk.issued.length ≤ numbered.2 :=
      (List.mem_zipIdx (x := numbered.1) hnumbered).1
    have hfree : numbered.2 ∉ desk.held := fun hheld =>
      Nat.not_lt.mpr hlater (h.law.held_lt hheld)
    exact (if_neg hfree).symm
  · rw [hnext, h.nextEffect]
    exact List.length_append.symm

/-- The row a claim finds is the next occurrence of the type on the desk. -/
theorem find?_isClaimable (h : Tracks desk history core) (effectType : TypeId) :
    core.effects.find? (PendingEffectEntry.isClaimable effectType) =
      (desk.next? Occurrence.descriptorType effectType).map (row desk.held) := by
  rw [h.rows, List.find?_map]
  unfold Desk.next?
  congr 2
  funext numbered
  exact row_isClaimable desk.held numbered effectType

/-- `next_effect` hands out the next occurrence, and takes its descriptor only. -/
theorem nextEffect_run (h : Tracks desk history core) (hok : core.fault = none)
    {effectType : TypeId} {numbered : Occurrence × Nat}
    (hnext : desk.next? Occurrence.descriptorType effectType = some numbered) :
    (perform (.nextEffect effectType)).run core =
      .ok (.claimed numbered.1.descriptorType
        (numbered.1.token core.program.program numbered.2)) (core.claiming numbered.2) := by
  obtain ⟨_, hkind, hfree⟩ := Desk.next?_eq_some hnext
  subst hkind
  have hfound := h.find?_isClaimable numbered.1.descriptorType
  rw [hnext, Option.map_some] at hfound
  have hclaim : core.withClaim numbered.1.descriptorType = core.claiming numbered.2 := by
    unfold Core.withClaim Core.claiming
    rw [Table.modifyFirst_found h.rows_nodup hfound, row_id]
  have hrow : row desk.held numbered = Occurrence.entry numbered := if_neg hfree
  have hdescriptor : (Occurrence.entry numbered).descriptor.bind
      (·.downcast numbered.1.descriptorType) = some numbered.1.command.effect :=
    ErasedValue.downcast_self _ _
  unfold perform Controlled.nextEffect
  simp only [bind_assoc]
  rw [Exec.run_bind_ok (run_ensureNotFaulted hok), Exec.run_bind_ok (EStateM.run_get core), hfound,
    hrow]
  simp only [bind_assoc, hdescriptor]
  rw [Exec.run_bind_ok (EStateM.run_set _ _), hclaim]
  rfl

theorem nextEffect_run_none (h : Tracks desk history core) (hok : core.fault = none)
    {effectType : TypeId} (hnext : desk.next? Occurrence.descriptorType effectType = none) :
    (perform (.nextEffect effectType)).run core =
      .error (.error (.harness "no pending effect of the requested descriptor type")) core := by
  have hfound := h.find?_isClaimable effectType
  rw [hnext, Option.map_none] at hfound
  unfold perform Controlled.nextEffect
  simp only [bind_assoc]
  rw [Exec.run_bind_ok (run_ensureNotFaulted hok), Exec.run_bind_ok (EStateM.run_get core), hfound]
  rfl

/-- The row a completion finds is that of the occurrence. -/
theorem find?_isPending (h : Tracks desk history core) {numbered : Occurrence × Nat}
    (hmem : numbered ∈ desk.pending) :
    core.effects.find? (PendingEffectEntry.isPending numbered.1.descriptorType numbered.2) =
      some (row desk.held numbered) := by
  have hrow : row desk.held numbered ∈ core.effects := by
    rw [h.rows]
    exact List.mem_map_of_mem hmem
  cases hfound : core.effects.find?
      (PendingEffectEntry.isPending numbered.1.descriptorType numbered.2) with
  | none =>
      have hnone := List.find?_eq_none.mp hfound _ hrow
      rw [row_isPending] at hnone
      simp at hnone
  | some entry =>
      have hid := List.find?_some hfound
      simp only [PendingEffectEntry.isPending, Bool.and_eq_true, decide_eq_true_eq] at hid
      have hsame : entry.id = (row desk.held numbered).id := hid.1.trans (row_id _ _).symm
      rw [List.inj_on_of_nodup_map h.rows_nodup (List.mem_of_find?_eq_some hfound) hrow hsame]

/-- An occurrence that was completed has no row any more. -/
theorem find?_isPending_none (h : Tracks desk history core) {id : Nat} (hid : id ∈ desk.settled)
    (effectType : TypeId) :
    core.effects.find? (PendingEffectEntry.isPending effectType id) = none := by
  refine List.find?_eq_none.mpr ?_
  intro entry hentry
  rw [h.rows] at hentry
  obtain ⟨numbered, hnumbered, rfl⟩ := List.mem_map.mp hentry
  rw [row_isPending]
  have hopen := (List.mem_filter.mp hnumbered).2
  simp only [decide_eq_true_eq] at hopen
  have hne : numbered.2 ≠ id := fun heq => hopen (heq ▸ hid)
  simp [hne]

end Tracks

/-- What completing an occurrence does: its obligation is gone and its outcome
    on record, and what its own mapper makes of the outcome is scheduled for the
    Component that emitted it. -/
def Occurrence.completion (occurrence : Occurrence) (core : Core) (id : Nat)
    (outcome : EffectOutcome (Val (RustTypes.effectOutput occurrence.descriptorType))
      (Val (RustTypes.effectError occurrence.descriptorType))) : EStateM.Result Stop Core Unit :=
  let settled := (core.settling id).traced none (.effectOutcome occurrence.work
    occurrence.component (typeName occurrence.descriptorType) (.of outcome))
  match occurrence.command.map with
  | none => .ok () settled
  | some map =>
      match map outcome with
      | .error panic => .error (.panicked panic) settled
      | .ok message => .ok () (settled.messageScheduled (plainMessage occurrence.component
          occurrence.messageType ⟨occurrence.messageType, message⟩ core.nextTrace))

/-- A completion returns or its mapper panics; either way one obligation is gone. -/
theorem Occurrence.completion_cases (occurrence : Occurrence) (core : Core) (id : Nat)
    (outcome : EffectOutcome (Val (RustTypes.effectOutput occurrence.descriptorType))
      (Val (RustTypes.effectError occurrence.descriptorType))) :
    ∃ core', (occurrence.completion core id outcome = .ok () core' ∨
        ∃ panic, occurrence.completion core id outcome = .error (.panicked panic) core') ∧
      core'.effects = (core.settling id).effects ∧
      core'.program.program = core.program.program ∧ core'.fault = core.fault ∧
        core'.nextEffect = core.nextEffect ∧ core'.emittedEffects = core.emittedEffects := by
  unfold completion
  cases occurrence.command.map with
  | none => exact ⟨_, .inl rfl, rfl, rfl, rfl, rfl, rfl⟩
  | some map =>
      dsimp only
      cases map outcome with
      | error panic => exact ⟨_, .inr ⟨panic, rfl⟩, rfl, rfl, rfl, rfl, rfl⟩
      | ok message => exact ⟨_, .inl rfl, rfl, rfl, rfl, rfl, rfl⟩

namespace Tracks

variable {desk : Desk Occurrence} {history : History} {core core' : Core}

/-- `complete` on a pending occurrence. -/
theorem complete_run (h : Tracks desk history core) (hok : core.fault = none)
    {numbered : Occurrence × Nat} (hmem : numbered ∈ desk.pending)
    (outcome : EffectOutcome (Val (RustTypes.effectOutput numbered.1.descriptorType))
      (Val (RustTypes.effectError numbered.1.descriptorType))) :
    (complete (numbered.1.token core.program.program numbered.2) outcome).run core =
      numbered.1.completion core numbered.2 outcome := by
  have hfound := h.find?_isPending hmem
  have hsettling :
      core.withoutEffect numbered.1.descriptorType numbered.2 = core.settling numbered.2 := by
    unfold Core.withoutEffect Core.settling
    rw [Table.eraseP_found h.rows_nodup hfound, row_id]
  unfold complete Occurrence.completion
  rw [Exec.run_bind_ok (run_ensureNotFaulted hok), Exec.run_bind_ok (EStateM.run_get core),
    if_neg (by simp [Occurrence.token])]
  have hid : (numbered.1.token core.program.program numbered.2).id = numbered.2 := rfl
  rw [hid, hfound]
  dsimp only
  rw [Exec.run_bind_ok (EStateM.run_set _ _), Exec.run_bind_ok (run_pushRoot _ _), row_mapper]
  show EStateM.run _ ((core.withoutEffect numbered.1.descriptorType numbered.2).traced _ _) = _
  rw [hsettling, row_requestTrace, row_component, row_messageType, row_descriptorType]
  cases hmap : numbered.1.command.map with
  | none =>
      have hmapper : numbered.1.command.mapper = none := by
        unfold EffectCommand.mapper
        rw [hmap, Option.map_none]
      rw [hmapper]
      rfl
  | some map =>
      obtain ⟨mapper, hmapper, hcalls⟩ := EffectCommand.mapper_calls hmap
      rw [hmapper]
      show EStateM.run (callback (mapper ⟨_, _, outcome⟩) >>= _) _ = _
      rw [hcalls outcome]
      cases hresult : map outcome with
      | error panic =>
          dsimp only
          rw [hresult]
          rfl
      | ok message =>
          dsimp only
          rw [hresult]
          rfl

theorem complete_run_settled (h : Tracks desk history core) (hok : core.fault = none)
    {effectType : TypeId} {pending : PendingEffect effectType}
    (hprogram : pending.program = core.program.program) (hid : pending.id ∈ desk.settled)
    (outcome : EffectOutcome (Val (RustTypes.effectOutput effectType))
      (Val (RustTypes.effectError effectType))) :
    (complete pending outcome).run core =
      .error (.error (.harness "pending effect is no longer owned by this runtime")) core := by
  unfold complete
  rw [Exec.run_bind_ok (run_ensureNotFaulted hok), Exec.run_bind_ok (EStateM.run_get core),
    if_neg (by simp [hprogram]), h.find?_isPending_none hid effectType]
  rfl

/-- A claim that was handed out is on the desk. -/
theorem claiming (h : Tracks desk history core) {numbered : Occurrence × Nat} {k : TypeId}
    (hnext : desk.next? Occurrence.descriptorType k = some numbered) :
    Tracks (desk.claim numbered)
      ⟨history.claims ++ [numbered.1.claim core.program.program numbered.2], history.settled⟩
      (core.claiming numbered.2) where
  law := h.law.claim hnext
  claims := by
    show history.claims ++ _ = (desk.claimed ++ [numbered]).map _
    rw [h.claims, List.map_append]
    rfl
  settled := h.settled
  inOrder := h.inOrder
  all := h.all
  rows := by
    show core.effects.map _ = desk.pending.map _
    rw [h.rows, List.map_map]
    refine List.map_congr_left ?_
    intro other _
    show _ = row ((desk.claimed ++ [numbered]).map (·.2)) other
    rw [List.map_append]
    exact (row_claimed desk.held other numbered.2).symm
  nextEffect := h.nextEffect

/-- A completion that took an occurrence off the table. -/
theorem settling (h : Tracks desk history core) {id : Nat} (hheld : id ∈ desk.held)
    (hpending : id ∉ desk.settled) (hafter : core'.effects = (core.settling id).effects)
    (hsame : core'.program.program = core.program.program ∧ core'.fault = core.fault ∧
      core'.nextEffect = core.nextEffect ∧ core'.emittedEffects = core.emittedEffects) :
    Tracks (desk.settle id) ⟨history.claims, history.settled ++ [id]⟩ core' where
  law := h.law.settle hheld hpending
  claims := by
    rw [hsame.1]
    exact h.claims
  settled := by
    rw [h.settled]
    rfl
  inOrder := by
    rw [hsame.2.2.2]
    exact h.inOrder
  all := by
    rw [hsame.2.1, hsame.2.2.2]
    exact h.all
  rows := by
    rw [hafter, Desk.pending_settle]
    show core.effects.filter _ = _
    rw [h.rows, List.filter_map]
    congr 1
    refine List.filter_congr ?_
    intro other _
    simp
  nextEffect := hsame.2.2.1.trans h.nextEffect

/-- Operations that are no business of effects only issue occurrences. -/
theorem others (h : Tracks desk history core) {operation : Operation}
    (hleads : Leads Enlists (perform operation))
    (hclaimed : claimed ((perform operation).run core) = [])
    (hcompleted : ∀ result, completed operation result = []) :
    (∃ desk', Tracks desk' (history.after operation core)
      (Exec.final ((perform operation).run core))) ∧
      core.effects ⊆ (Exec.final ((perform operation).run core)).effects := by
  have henlists := hleads core
  obtain ⟨desk', htracks⟩ := h.enlists henlists
  have hhistory : history.after operation core = history := by
    unfold History.after
    dsimp only
    rw [hclaimed, hcompleted, List.append_nil, List.append_nil]
  rw [hhistory]
  refine ⟨⟨desk', htracks⟩, ?_⟩
  obtain ⟨declared, accepted, henlisting⟩ := henlists
  rw [henlisting.rows]
  exact List.subset_append_left _ _

end Tracks

/-- An operation of the harness that returns something else than a claim. -/
theorem claimed_bind {α : Type} {x : Run α} {f : α → Returned}
    (hf : ∀ a core, claimed (.ok (f a) core) = []) (core : Core) :
    claimed ((x >>= fun a => pure (f a)).run core) = [] := by
  rw [EStateM.run_bind]
  cases x.run core with
  | ok a core' => exact hf a core'
  | error stop core' => rfl

/-- An operation that is refused leaves no trace of itself. -/
theorem after_refused {history : History} {operation : Operation} {core core' : Core}
    {error : RuntimeError} (h : (perform operation).run core = .error (.error error) core') :
    history.after operation core = history := by
  unfold History.after
  rw [h]
  cases operation <;> simp [claimed, completed]

/-- A runtime that has faulted refuses everything. -/
theorem run_faulted {α : Type} {core : Core} {error : RuntimeError}
    (hfault : core.fault = some error) (x : Run α) :
    (ensureNotFaulted >>= fun _ => x).run core = .error (.error error) core := by
  unfold ensureNotFaulted
  simp [hfault]

/-- Operations keep the desk, and every row they neither claim nor complete. -/
structure Keeps (history : History) (operation : Operation) (core : Core) : Prop where
  tracked : ∃ desk, Tracks desk (history.after operation core)
    (Exec.final ((perform operation).run core))
  rows : ∀ entry ∈ core.effects,
    entry.id ∉ (claimed ((perform operation).run core)).map (·.pending.id) →
    entry.id ∉ completed operation ((perform operation).run core) →
      entry ∈ (Exec.final ((perform operation).run core)).effects

namespace Tracks

variable {desk : Desk Occurrence} {history : History} {core : Core}

theorem refused (h : Tracks desk history core) {operation : Operation} (error : RuntimeError)
    (hrun : (perform operation).run core = .error (.error error) core) :
    Keeps history operation core where
  tracked := by
    rw [after_refused hrun, hrun]
    exact ⟨desk, h⟩
  rows := by
    intro entry hentry _ _
    rw [hrun]
    exact hentry

theorem keeps_nextEffect (h : Tracks desk history core) (effectType : TypeId) :
    Keeps history (.nextEffect effectType) core := by
  cases hfault : core.fault with
  | some error =>
      refine h.refused error ?_
      unfold perform Controlled.nextEffect
      simp only [bind_assoc]
      exact run_faulted hfault _
  | none =>
      cases hnext : desk.next? Occurrence.descriptorType effectType with
      | none => exact h.refused _ (h.nextEffect_run_none hfault hnext)
      | some numbered =>
          have hrun := h.nextEffect_run hfault hnext
          refine ⟨⟨desk.claim numbered, ?_⟩, ?_⟩
          · have hafter : history.after (.nextEffect effectType) core = ⟨history.claims ++
                [numbered.1.claim core.program.program numbered.2], history.settled⟩ := by
              unfold History.after
              rw [hrun]
              simp [claimed, completed, Occurrence.claim]
            rw [hafter, hrun]
            exact h.claiming hnext
          · intro entry hentry hid _
            rw [hrun] at hid ⊢
            have hne : entry.id ≠ numbered.2 := by
              simpa [claimed, Occurrence.token] using hid
            exact List.mem_map.mpr ⟨entry, hentry, if_neg hne⟩

theorem keeps_complete (h : Tracks desk history core) {effectType : TypeId}
    (pending : PendingEffect effectType)
    (outcome : EffectOutcome (Val (RustTypes.effectOutput effectType))
      (Val (RustTypes.effectError effectType)))
    (hheld : (Operation.complete pending outcome).IsHeld history core.program.program) :
    Keeps history (.complete pending outcome) core := by
  cases hfault : core.fault with
  | some error =>
      refine h.refused error ?_
      unfold perform complete
      simp only [bind_assoc]
      exact run_faulted hfault _
  | none =>
      by_cases hprogram : pending.program = core.program.program
      · -- The token was handed out for an occurrence on the desk,
        have hclaim : (⟨effectType, pending⟩ : Claim) ∈ history.claims := hheld hprogram
        rw [h.claims] at hclaim
        obtain ⟨numbered, hnumbered, heq⟩ := List.mem_map.mp hclaim
        have hid : numbered.2 ∈ desk.held := List.mem_map_of_mem hnumbered
        unfold Occurrence.claim at heq
        cases heq
        by_cases hsettled : numbered.2 ∈ desk.settled
        · -- which has been completed before,
          have hrun := @complete_run_settled _ desk history core h hfault
            numbered.1.descriptorType (numbered.1.token core.program.program numbered.2) rfl
            hsettled outcome
          refine h.refused (.harness "pending effect is no longer owned by this runtime") ?_
          unfold perform
          rw [EStateM.run_bind, hrun]
        · -- or is completed now.
          have hpending : numbered ∈ desk.pending :=
            List.mem_filter.mpr ⟨h.law.claimed_subset hnumbered, decide_eq_true hsettled⟩
          have hrun := h.complete_run hfault hpending outcome
          obtain ⟨core', hends, heffects, hsame⟩ :=
            numbered.1.completion_cases core numbered.2 outcome
          have htracks := h.settling hid hsettled heffects hsame
          have hkept : ∀ entry ∈ core.effects, entry.id ≠ numbered.2 → entry ∈ core'.effects := by
            intro entry hentry hne
            rw [heffects]
            exact List.mem_filter.mpr ⟨hentry, decide_eq_true hne⟩
          have hperform : ∃ result, (perform (.complete (numbered.1.token core.program.program
              numbered.2) outcome)).run core = result ∧ Exec.final result = core' ∧
                claimed result = [] ∧ completed (.complete (numbered.1.token core.program.program
                  numbered.2) outcome) result = [numbered.2] := by
            unfold perform
            rw [EStateM.run_bind, hrun]
            rcases hends with hok | ⟨panic, hpanic⟩
            · rw [hok]
              exact ⟨_, rfl, rfl, rfl, rfl⟩
            · rw [hpanic]
              exact ⟨_, rfl, rfl, rfl, rfl⟩
          obtain ⟨result, hresult, hfinal, hclaimed, hcompleted⟩ := hperform
          refine ⟨⟨desk.settle numbered.2, ?_⟩, ?_⟩
          · unfold History.after
            dsimp only
            rw [hresult, hfinal, hclaimed, hcompleted, List.append_nil]
            exact htracks
          · intro entry hentry _ hne
            rw [hresult, hcompleted] at hne
            rw [hresult, hfinal]
            exact hkept entry hentry fun heq => hne (by simp [heq])
      · refine h.refused (.harness "pending effect belongs to another controlled runtime") ?_
        unfold perform complete
        simp only [bind_assoc]
        rw [Exec.run_bind_ok (run_ensureNotFaulted hfault), Exec.run_bind_ok (EStateM.run_get core),
          if_pos hprogram]
        rfl

/-- An operation that returns something else than a claim. -/
theorem keeps_other (h : Tracks desk history core) {operation : Operation}
    {α : Type} {x : Run α} {f : α → Returned} (hrun : perform operation = x >>= fun a => pure (f a))
    (hleads : Leads Enlists x) (hf : ∀ a core, claimed (.ok (f a) core) = [])
    (hcompleted : ∀ result, completed operation result = []) : Keeps history operation core := by
  have hperform : Leads Enlists (perform operation) := by
    rw [hrun]
    exact leads_bind hleads fun a => leads_pure (f a)
  have hclaimed : claimed ((perform operation).run core) = [] := by
    rw [hrun]
    exact claimed_bind hf core
  obtain ⟨htracked, hrows⟩ := h.others hperform hclaimed hcompleted
  exact ⟨htracked, fun entry hentry _ _ => hrows hentry⟩

theorem keeps (h : Tracks desk history core) (operation : Operation)
    (hheld : operation.IsHeld history core.program.program) : Keeps history operation core := by
  cases operation with
  | send target message =>
      exact h.keeps_other rfl (leads_send target message) (fun _ _ => rfl) fun _ => rfl
  | emitStream streamItem stream item =>
      exact h.keeps_other rfl (leads_emitStream streamItem stream item) (fun _ _ => rfl) fun _ => rfl
  | closeStream stream =>
      exact h.keeps_other rfl (leads_closeStream stream) (fun _ _ => rfl) fun _ => rfl
  | emitSource target id descriptorType event =>
      exact h.keeps_other rfl (leads_emitSource target id descriptorType event) (fun _ _ => rfl)
        fun _ => rfl
  | nextEffect effectType => exact h.keeps_nextEffect effectType
  | complete pending outcome => exact h.keeps_complete pending outcome hheld
  | runUntilIdle fuel =>
      exact h.keeps_other rfl (leads_runUntilIdle fuel) (fun _ _ => rfl) fun _ => rfl
  | advance fuel duration =>
      exact h.keeps_other rfl (leads_advance fuel duration) (fun _ _ => rfl) fun _ => rfl
  | advanceToNext fuel =>
      exact h.keeps_other rfl (leads_advanceToNext fuel) (fun _ _ => rfl) fun _ => rfl

end Tracks

/-! ## Runs -/

theorem Tracks.launched {core : Core} (h : Launched core) :
    ∃ desk, Tracks desk ⟨[], []⟩ core := by
  obtain ⟨builder, program, bindings, _, _, hlaunch⟩ := h
  obtain ⟨_, _, hnew⟩ := launch_eq_ok.mp hlaunch
  have hfresh : Tracks ⟨[], [], []⟩ ⟨[], []⟩ (Core.fresh program bindings) :=
    ⟨Desk.Law.fresh, rfl, rfl, .refl _, fun _ => rfl, rfl, rfl⟩
  have henlists := leads_initializeComponents (initializationOrder program)
    (Core.fresh program bindings)
  have hfinal : Exec.final ((initializeComponents (initializationOrder program)).run
      (Core.fresh program bindings)) = core := by
    unfold Core.new at hnew
    split at hnew
    · rename_i core' hrun
      cases hnew
      rw [hrun]
      rfl
    · rename_i error core' hrun
      cases hnew
      rw [hrun]
      rfl
    · cases hnew
  rw [hfinal] at henlists
  exact hfresh.enlists henlists

theorem Handled.tracks {start core : Core} {history : History} (hstart : Launched start)
    (h : Handled start history core) : ∃ desk, Tracks desk history core := by
  induction h with
  | refl => exact Tracks.launched hstart
  | operation operation _ hheld ih =>
      obtain ⟨desk, htracks⟩ := ih
      exact (htracks.keeps operation hheld).tracked

/-- The occurrences `issued` as they are handed out. -/
def offers (program : ProgramId) (issued : List Occurrence) : List Claim :=
  issued.zipIdx.map fun numbered => numbered.1.claim program numbered.2

/-- What a harness has seen of the effects `issued` so far, and sees next. -/
structure OneToOne (issued : List Occurrence) (history : History) (core : Core) : Prop where
  /-- The claims of a type took its occurrences in emission order. -/
  claims : ∀ effectType, (history.claims.filter (·.effectType = effectType)) <+:
    (offers core.program.program issued).filter (·.effectType = effectType)
  /-- No occurrence was claimed or completed twice. -/
  once : history.held.Nodup ∧ history.settled.Nodup
  settled : history.settled ⊆ history.held
  /-- What is pending are the occurrences that were not completed, each with its
      own mapper, and with its descriptor unless that was handed out. -/
  rows : core.effects = (issued.zipIdx.filter fun numbered =>
    decide (numbered.2 ∉ history.settled)).map (row history.held)
  next : core.fault = none → ∀ effectType, (perform (.nextEffect effectType)).run core =
    match ((offers core.program.program issued).filter (·.effectType = effectType))[
        (history.claims.filter (·.effectType = effectType)).length]? with
    | some claim => .ok (.claimed claim.effectType claim.pending) (core.claiming claim.pending.id)
    | none => .error (.error (.harness "no pending effect of the requested descriptor type")) core
  completes : core.fault = none → ∀ occurrence id, issued[id]? = some occurrence →
    id ∈ history.held → id ∉ history.settled → ∀ outcome,
      (complete (occurrence.token core.program.program id) outcome).run core =
        occurrence.completion core id outcome
  /-- An occurrence that was completed cannot be completed again. -/
  spent : core.fault = none → ∀ claim ∈ history.claims, claim.pending.id ∈ history.settled →
    ∀ outcome, (complete claim.pending outcome).run core =
      .error (.error (.harness "pending effect is no longer owned by this runtime")) core
  /-- An operation leaves the rows alone that it neither claims nor completes. -/
  keeps : ∀ operation : Operation, operation.IsHeld history core.program.program →
    ∀ entry ∈ core.effects,
      entry.id ∉ (claimed ((perform operation).run core)).map (·.pending.id) →
      entry.id ∉ completed operation ((perform operation).run core) →
        entry ∈ (Exec.final ((perform operation).run core)).effects

theorem Tracks.oneToOne {desk : Desk Occurrence} {history : History} {core : Core}
    (h : Tracks desk history core) : OneToOne desk.issued history core := by
  have hoffered (effectType : TypeId) (rows : List (Occurrence × Nat)) :
      (rows.map fun numbered => numbered.1.claim core.program.program numbered.2).filter
          (·.effectType = effectType) =
        (rows.filter (Desk.isOf Occurrence.descriptorType effectType)).map
          fun numbered => numbered.1.claim core.program.program numbered.2 := by
    rw [List.filter_map]
    rfl
  constructor
  · intro effectType
    rw [h.claims, hoffered]
    unfold offers
    rw [hoffered]
    exact (h.law.ordered effectType).map _
  · rw [h.held, h.settled]
    exact ⟨h.law.once, h.law.settledOnce⟩
  · rw [h.held, h.settled]
    exact h.law.settled
  · rw [h.held, h.settled]
    exact h.rows
  · intro hok effectType
    have hnext := h.law.next?_eq effectType
    rw [h.claims, hoffered, List.length_map]
    unfold offers
    rw [hoffered, List.getElem?_map]
    have hindex : (desk.issued.zipIdx.filter (Desk.isOf Occurrence.descriptorType effectType))[
        (desk.claimed.filter (Desk.isOf Occurrence.descriptorType effectType)).length]? =
          desk.next? Occurrence.descriptorType effectType := hnext.symm
    rw [hindex]
    cases hfound : desk.next? Occurrence.descriptorType effectType with
    | none => exact h.nextEffect_run_none hok hfound
    | some numbered => exact h.nextEffect_run hok hfound
  · intro hok occurrence id hissued _ hopen outcome
    rw [h.settled] at hopen
    have hmem : (occurrence, id) ∈ desk.pending :=
      List.mem_filter.mpr ⟨Desk.mem_numbered.mpr hissued, decide_eq_true hopen⟩
    exact h.complete_run hok hmem outcome
  · intro hok claim hclaim hsettled outcome
    rw [h.claims] at hclaim
    obtain ⟨numbered, _, rfl⟩ := List.mem_map.mp hclaim
    rw [h.settled] at hsettled
    exact h.complete_run_settled hok rfl hsettled outcome
  · intro operation hheld
    exact (h.keeps operation hheld).rows

/-- In every run of a harness, whatever its Components emit and in whatever
    order it claims and completes: effects are claimed in emission order and
    completed one to one. -/
theorem effects_one_to_one {start core : Core} {history : History} (hstart : Launched start)
    (h : Handled start history core) :
    ∃ issued, issued.Sublist core.emittedEffects ∧
      (core.fault = none → issued = core.emittedEffects) ∧ OneToOne issued history core := by
  obtain ⟨desk, htracks⟩ := h.tracks hstart
  exact ⟨desk.issued, htracks.inOrder, htracks.all, htracks.oneToOne⟩

end Controlled

end Samara

namespace Samara.Controlled

attribute [local instance] Sample.types

/-- A Component that starts with three effects that look alike: two outcomes
    become different Messages, and one is discarded. -/
def printer : Component () where
  init := ((0 : Nat), .batch [
    .declaration (.effect ⟨⟨0, ⟨7⟩⟩, (), .plain 7, some fun _ => .ok (.plain 1)⟩),
    .declaration (.effect ⟨⟨0, ⟨7⟩⟩, (), .plain 7, some fun _ => .ok (.plain 2)⟩),
    .declaration (.effect ⟨⟨0, ⟨7⟩⟩, (), .plain 7, none⟩)])
  update := fun (model : Nat) message => (model + message.number, .ok .none)
  subscriptions _ := .ok []

def printerBuilder : ProgramBuilder :=
  ((ProgramBuilder.new ⟨7⟩).effect ()).component ⟨"printer"⟩ printer

theorem printerBuilder_assembled : printerBuilder.Assembled :=
  .component _ printer (.effect _ (.new ⟨7⟩))

def printerCore : Core := (assemble printerBuilder ⟨[()], [], []⟩).get rfl

/-- The second occurrence, which looks like the first. -/
def secondPage : PendingEffect () := ⟨.plain 7, 1, ⟨7⟩⟩

def printerHistory : History :=
  ((History.mk [] []).after (.nextEffect ()) printerCore).after (.nextEffect ())
    (Exec.final ((perform (.nextEffect ())).run printerCore))

/-- The printer when two pages were claimed. -/
def printerClaimed : Core := Exec.final ((perform (.nextEffect ())).run
  (Exec.final ((perform (.nextEffect ())).run printerCore)))

/-- The second page is completed before the first. -/
def printerDone : Core :=
  Exec.final ((perform (.complete secondPage (.succeeded (.plain 70)))).run printerClaimed)

theorem printer_handled : Handled printerCore
    (printerHistory.after (.complete secondPage (.succeeded (.plain 70))) printerClaimed)
      printerDone := by
  refine .operation (.complete secondPage (.succeeded (.plain 70))) ?_ ?_
  · exact .operation (.nextEffect ()) (.operation (.nextEffect ()) .refl trivial) trivial
  · intro _
    exact List.mem_cons_of_mem _ List.mem_cons_self

theorem effects_one_to_one_printer :
    (∃ issued, issued.Sublist printerDone.emittedEffects ∧
      (printerDone.fault = none → issued = printerDone.emittedEffects) ∧ OneToOne issued
        (printerHistory.after (.complete secondPage (.succeeded (.plain 70))) printerClaimed)
          printerDone) ∧
      printerDone.effects.map (·.id) = [0, 2] ∧ printerDone.scheduled.length = 1 :=
  ⟨effects_one_to_one (launched_of_assemble printerBuilder_assembled (Option.some_get _).symm)
    printer_handled, by decide +kernel⟩

end Samara.Controlled
