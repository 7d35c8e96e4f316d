/-
  Samara.Controlled.Order

  The order in which Components and bindings were registered does not show in a
  controlled run.  Two runtimes whose Programs are rearrangements of each other
  run side by side: every operation of the runtime reads its Program through
  lookups that see no order, and ends alike in both.
-/
import Samara.Controlled.Likeness
import Samara.Order

namespace Samara

variable [RustTypes]

namespace Controlled

/-- Two runtimes that differ in the order of their Components and bindings alone. -/
def Core.Rearranges (first second : Core) : Prop :=
  ∃ program, first.program.Rearranges program ∧ second = { first with program }

/-- Rearranged Programs hold the same kernels. -/
def rearrangement : Likeness where
  programs := Program.Rearranges
  kernels := Eq
  journals := Eq
  program h := h.program
  declaresEffect h := h.declaresEffect
  declaresSourcePlan h := h.declaresSourcePlan
  sourceRequirement h := h.sourceRequirement
  binding? h := h.binding?
  component? {first second} h id messageType := by
    rw [h.component?]
    cases first.component? id messageType with
    | none => exact .none
    | some kernel => exact .some rfl
  setComponent := by
    rintro first second h kernel _ rfl messageType
    exact h.setComponent rfl messageType
  observe := by
    rintro first _ rfl observation
    rfl
  desired := by
    rintro kernel _ rfl
    cases kernel.desired with
    | error panic => exact .inl ⟨panic, rfl, rfl⟩
    | ok desired => exact .inr ⟨desired, desired, rfl, rfl, fun _ _ _ h => h ▸ rfl⟩
  transition := by
    rintro kernel _ rfl message
    exact Exec.endsBy_refl (fun _ => rfl) (fun _ => rfl) _
  reconcile := by
    rintro kernel _ rfl
    apply Exec.endsBy_refl
    · exact fun _ => rfl
    · exact fun _ => rfl
  takeInitialCommand := by
    rintro kernel _ rfl
    exact Exec.endsBy_refl (fun _ => rfl) (fun _ => rfl) _

theorem cores_rearrangement {first second : Core} :
    rearrangement.Cores first second ↔ first.Rearranges second := by
  constructor
  · rintro ⟨program, journal, hprogram, rfl, rfl⟩
    exact ⟨program, hprogram, rfl⟩
  · rintro ⟨program, hprogram, rfl⟩
    exact ⟨program, first.journal, hprogram, rfl, rfl⟩

/-! ## Initialization -/

/-- Distinct identities leave one order to initialize in. -/
theorem initializationOrder_eq {first second : Program} (h : first.Rearranges second) :
    initializationOrder second = initializationOrder first := by
  let before (left right : ComponentId × TypeId) : Prop := left.1.name ≤ right.1.name
  have : Std.Total before := ⟨fun _ _ => String.le_total _ _⟩
  have : IsTrans _ before := ⟨fun _ _ _ => String.le_trans⟩
  let entry (kernel : ErasedComponentKernel) := (kernel.id, kernel.messageType)
  have hsecond := List.perm_insertionSort before (second.components.map entry)
  have hfirst := List.perm_insertionSort before (first.components.map entry)
  have hperm := (hsecond.trans (h.components.map entry).symm).trans hfirst.symm
  have hdistinct : ((first.components.map entry).map Prod.fst).Nodup := by
    rw [List.map_map]
    exact h.distinct
  refine List.Perm.eq_of_pairwise ?_ (List.pairwise_insertionSort before _)
    (List.pairwise_insertionSort before _) hperm
  intro left right hleft hright hle hge
  -- One name means one identity, and one identity one Component.
  have hname : left.1 = right.1 := congrArg ComponentId.mk (String.le_antisymm hle hge)
  exact List.inj_on_of_nodup_map hdistinct (hfirst.mem_iff.mp (hperm.mem_iff.mp hleft))
    (hfirst.mem_iff.mp hright) hname

/-! ## Assembly -/

theorem validate_rearranges {first second : Program} (h : first.Rearranges second)
    (bindings : Bindings) : bindings.validate second = bindings.validate first :=
  validate_congr h.program h.effectRequirements h.sourceRequirements bindings

/-- The controlled `build` accepts a rearranged Program too. -/
theorem launch_rearranges {first second : Program} (h : first.Rearranges second)
    {bindings : Bindings} {core : Core} (hlaunch : launch first bindings = .ok core) :
    ∃ core', launch second bindings = .ok core' ∧ core.Rearranges core' := by
  obtain ⟨hvalidate, hcomponents, hnew⟩ := launch_eq_ok.mp hlaunch
  obtain ⟨core', hnew', hstates⟩ := @new_same _ rearrangement _ _ h (initializationOrder_eq h) rfl
    bindings _ hnew
  refine ⟨core', launch_eq_ok.mpr ⟨?_, ?_, hnew'⟩, cores_rearrangement.mp hstates⟩
  · rw [validate_rearranges h]
    exact hvalidate
  · rw [validateComponents_eq_ok] at hcomponents ⊢
    intro component hcomponent
    rw [h.declaresAlike.validateInitialCapabilities]
    exact hcomponents component (h.components.mem_iff.mpr hcomponent)

/-! ## Runs -/

/-- The two runtimes are in one state, wherever their Programs keep a Component:
    every Component has one kernel, its Model included, and all that is not
    Program is equal. -/
structure Core.SameState (first second : Core) : Prop where
  components : ∀ id messageType,
    second.program.component? id messageType = first.program.component? id messageType
  now : second.now = first.now
  pendingWork : second.pendingWork = first.pendingWork
  scheduled : second.scheduled = first.scheduled
  sources : second.sources = first.sources
  effects : second.effects = first.effects
  requests : second.requests = first.requests
  tickets : second.nextTicket = first.nextTicket ∧ second.nextEffect = first.nextEffect ∧
    second.nextCorrelation = first.nextCorrelation ∧ second.nextGeneration = first.nextGeneration
  fault : second.fault = first.fault
  trace : second.trace = first.trace
  journal : second.journal = first.journal

theorem Core.Rearranges.sameState {first second : Core} (h : first.Rearranges second) :
    first.SameState second := by
  obtain ⟨program, hprogram, rfl⟩ := h
  exact ⟨hprogram.component?, rfl, rfl, rfl, rfl, rfl, rfl, ⟨rfl, rfl, rfl, rfl⟩, rfl, rfl, rfl⟩

/-- Registration order does not matter.  When `build` accepts one of two builders
    that registered the same Components and bindings in different orders, it
    accepts the other, and so does the `build` of the controlled profile; every
    sequence of operations then returns the same in both runtimes and leaves
    them in the same state. -/
theorem assembly_order_irrelevant {first second : ProgramBuilder} (h : first.Rearranges second)
    (hports : first.BindsOwnPorts) {program : Program} (hbuild : first.build = .ok program) :
    ∃ program', second.build = .ok program' ∧
      ∀ (bindings : Bindings) (core : Core), launch program bindings = .ok core →
        ∃ core', launch program' bindings = .ok core' ∧ ∀ operations : List Operation,
          (performAll operations core').1 = (performAll operations core).1 ∧
            (performAll operations core).2.SameState (performAll operations core').2 := by
  refine ⟨second.blueprint, h.build hbuild, ?_⟩
  intro bindings core hlaunch
  obtain ⟨core', hlaunch', hstates⟩ := launch_rearranges (h.blueprint hports hbuild) hlaunch
  refine ⟨core', hlaunch', fun operations => ?_⟩
  obtain ⟨hresults, hcores⟩ := performAll_same operations (cores_rearrangement.mpr hstates)
  exact ⟨hresults, (cores_rearrangement.mp hcores).sameState⟩

end Controlled

end Samara

namespace Samara.Controlled

attribute [local instance] Sample.types

/-- A Component that counts its Messages. -/
def counter : Component () where
  init := ((0 : Nat), .none)
  update := fun (model : Nat) _ => (model + 1, .ok .none)
  subscriptions _ := .ok []

def portOf (name : String) : Port () := ⟨⟨name⟩, ⟨9⟩⟩

def providerOf (name : String) : ComponentRef () := ⟨⟨name⟩, ⟨9⟩⟩

def portsBuilder : ProgramBuilder :=
  ((ProgramBuilder.new ⟨9⟩).port () ⟨"ask"⟩).port () ⟨"tell"⟩

def forwardBuilder : ProgramBuilder :=
  (((portsBuilder.component ⟨"east"⟩ counter).component ⟨"west"⟩ counter).bindPort
    (portOf "ask") (providerOf "east")).bindPort (portOf "tell") (providerOf "west")

def backwardBuilder : ProgramBuilder :=
  (((portsBuilder.component ⟨"west"⟩ counter).bindPort (portOf "tell")
    (providerOf "west")).component ⟨"east"⟩ counter).bindPort (portOf "ask") (providerOf "east")

theorem assembly_order_irrelevant_counters :
    ∃ program', backwardBuilder.build = .ok program' ∧
      ∀ (bindings : Bindings) (core : Core),
        launch forwardBuilder.blueprint bindings = .ok core →
          ∃ core', launch program' bindings = .ok core' ∧ ∀ operations : List Operation,
            (performAll operations core').1 = (performAll operations core).1 ∧
              (performAll operations core).2.SameState (performAll operations core').2 :=
  assembly_order_irrelevant
    (show forwardBuilder.Rearranges backwardBuilder from
      ⟨rfl, List.Perm.swap _ _ _, rfl, List.Perm.swap _ _ _, rfl, rfl⟩)
    (show ∀ binding ∈ forwardBuilder.bindings, forwardBuilder.IssuesPort binding.port by decide)
    rfl

end Samara.Controlled
