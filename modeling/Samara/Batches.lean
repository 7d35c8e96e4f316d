/-
  Samara.Batches

  The inspections of a Command (`effect_intents` and its siblings in `lib.rs`),
  and why its batches carry no meaning: the inspections, the validator and the
  interpreter see the declarations at the positions of the tree, from left to
  right, and nothing of how they are nested.
-/
import Samara.Controlled.Runtime
import Samara.Validation

namespace Samara

variable [RustTypes]

/-! ## Inspection -/

section Inspection

variable {message : TypeId} {α : Type}

namespace Command

mutual

/-- The recursion of the `collect_*_intents`: what `inspect` makes of a
    declaration is pushed to `intents`. -/
def collectIntents (inspect : Declaration message → Option α) :
    Command message → List α → List α
  | .none, intents => intents
  | .declaration leaf, intents => intents ++ (inspect leaf).toList
  | .batch commands, intents => collectAllIntents inspect commands intents

def collectAllIntents (inspect : Declaration message → Option α) :
    List (Command message) → List α → List α
  | [], intents => intents
  | command :: commands, intents =>
      collectAllIntents inspect commands (command.collectIntents inspect intents)

end

end Command

namespace Declaration

/-- What `collect_effect_intents` finds in a declaration. -/
def effectIntent (descriptorType : TypeId) : Declaration message → Option (Val descriptorType)
  | .effect command => (ErasedValue.mk command.descriptorType command.effect).downcast descriptorType
  | .send _ | .notify _ | .request _ | .reply _ | .after _ _ => none

/-- What `collect_notification_intents` finds in a declaration. -/
def notificationIntent (notificationType : TypeId) :
    Declaration message → Option (PortId × Val notificationType)
  | .notify command =>
      ((ErasedValue.mk command.notificationType command.notification).downcast
        notificationType).map (command.port.id, ·)
  | .effect _ | .send _ | .request _ | .reply _ | .after _ _ => none

/-- What `collect_request_intents` finds in a declaration. -/
def requestIntent (requestType : TypeId) :
    Declaration message → Option (PortId × Val requestType)
  | .request command =>
      ((ErasedValue.mk command.requestType command.request).downcast requestType).map
        (command.port.id, ·)
  | .effect _ | .send _ | .notify _ | .reply _ | .after _ _ => none

/-- What `collect_reply_intents` finds in a declaration. -/
def replyIntent (replyType : TypeId) : Declaration message → Option (Val replyType)
  | .reply command => (ErasedValue.mk command.replyType command.reply).downcast replyType
  | .effect _ | .send _ | .notify _ | .request _ | .after _ _ => none

end Declaration

namespace Command

def effectIntents (descriptorType : TypeId) (command : Command message) :
    List (Val descriptorType) := command.collectIntents (·.effectIntent descriptorType) []

/-- `effect_intent`. -/
def effectIntent (descriptorType : TypeId) (command : Command message) :
    Option (Val descriptorType) := (command.effectIntents descriptorType).head?

def notificationIntents (notificationType : TypeId) (command : Command message) :
    List (PortId × Val notificationType) :=
  command.collectIntents (·.notificationIntent notificationType) []

def requestIntents (requestType : TypeId) (command : Command message) :
    List (PortId × Val requestType) := command.collectIntents (·.requestIntent requestType) []

def replyIntents (replyType : TypeId) (command : Command message) : List (Val replyType) :=
  command.collectIntents (·.replyIntent replyType) []

mutual

/-- A collection pushes what it finds in the declarations, one after the other. -/
theorem collectIntents_eq (inspect : Declaration message → Option α) (command : Command message)
    (intents : List α) : command.collectIntents inspect intents =
      intents ++ command.intoDeclarations.flatMap fun leaf => (inspect leaf).toList := by
  cases command with
  | none => simp [collectIntents, intoDeclarations]
  | declaration leaf => simp [collectIntents, intoDeclarations]
  | batch commands =>
      unfold collectIntents intoDeclarations
      exact collectAllIntents_eq inspect commands intents

theorem collectAllIntents_eq (inspect : Declaration message → Option α)
    (commands : List (Command message)) (intents : List α) :
    collectAllIntents inspect commands intents =
      intents ++ (appendDeclarations commands).flatMap fun leaf => (inspect leaf).toList := by
  cases commands with
  | nil => simp [collectAllIntents, appendDeclarations]
  | cons command commands =>
      unfold collectAllIntents appendDeclarations
      rw [collectAllIntents_eq inspect commands, collectIntents_eq inspect command,
        List.flatMap_append, List.append_assoc]

end

/-- An inspection of a tree is the inspection of its declarations. -/
theorem collectIntents_leaves (inspect : Declaration message → Option α)
    (command : Command message) : command.collectIntents inspect [] =
      command.intoDeclarations.flatMap fun leaf =>
        (Command.declaration leaf).collectIntents inspect [] := by
  rw [collectIntents_eq, List.nil_append]
  refine List.flatMap_congr fun leaf _ => ?_
  rw [collectIntents]
  exact (List.nil_append _).symm

end Command

end Inspection

/-! ## Positions -/

section Positions

variable {message : TypeId}

namespace Command

/-- The Command at a position: which member of each batch to go down to. -/
def at? : List Nat → Command message → Option (Command message)
  | [], command => some command
  | index :: position, .batch commands => (commands[index]?).bind (at? position)
  | _ :: _, .none | _ :: _, .declaration _ => Option.none

/-- `leaves` are the declarations of a tree, in the order of their positions. -/
def Leaves (command : Command message) (leaves : List (Declaration message)) : Prop :=
  ∃ placed : List (List Nat × Declaration message),
    placed.Pairwise (fun left right => left.1 < right.1) ∧
      (∀ position leaf, (position, leaf) ∈ placed ↔
        command.at? position = some (.declaration leaf)) ∧
      placed.map (·.2) = leaves

mutual

/-- The declarations of a tree with their positions. -/
def placed : Command message → List (List Nat × Declaration message)
  | .none => []
  | .declaration leaf => [([], leaf)]
  | .batch commands => placedFrom 0 commands

def placedFrom : Nat → List (Command message) → List (List Nat × Declaration message)
  | _, [] => []
  | index, command :: commands =>
      command.placed.map (fun entry => (index :: entry.1, entry.2)) ++
        placedFrom (index + 1) commands

end

mutual

theorem map_placed (command : Command message) :
    command.placed.map (·.2) = command.intoDeclarations := by
  cases command with
  | none => rfl
  | declaration leaf => rfl
  | batch commands =>
      unfold placed intoDeclarations
      exact map_placedFrom 0 commands

theorem map_placedFrom (index : Nat) (commands : List (Command message)) :
    (placedFrom index commands).map (·.2) = appendDeclarations commands := by
  cases commands with
  | nil => rfl
  | cons command commands =>
      unfold placedFrom appendDeclarations
      rw [List.map_append, List.map_map, map_placedFrom (index + 1) commands, ← map_placed command]
      rfl

end

/-- The entries of a batch are those of its members. -/
theorem mem_placedFrom {index : Nat} {commands : List (Command message)}
    {entry : List Nat × Declaration message} : entry ∈ placedFrom index commands ↔
      ∃ offset command, commands[offset]? = some command ∧
        ∃ inner ∈ command.placed, entry = ((index + offset) :: inner.1, inner.2) := by
  induction commands generalizing index with
  | nil => simp [placedFrom]
  | cons command commands ih =>
      unfold placedFrom
      rw [List.mem_append, List.mem_map, ih]
      constructor
      · rintro (⟨inner, hinner, rfl⟩ | ⟨offset, found, hfound, inner, hinner, rfl⟩)
        · exact ⟨0, command, rfl, inner, hinner, rfl⟩
        · refine ⟨offset + 1, found, hfound, inner, hinner, ?_⟩
          rw [Nat.add_right_comm, Nat.add_assoc]
      · rintro ⟨offset, found, hfound, inner, hinner, rfl⟩
        cases offset with
        | zero =>
            cases hfound
            exact Or.inl ⟨inner, hinner, rfl⟩
        | succ offset =>
            refine Or.inr ⟨offset, found, hfound, inner, hinner, ?_⟩
            rw [Nat.add_right_comm, Nat.add_assoc]

mutual

/-- The entries are the declarations at the positions of the tree. -/
theorem mem_placed (command : Command message) (position : List Nat) (leaf : Declaration message) :
    (position, leaf) ∈ command.placed ↔ command.at? position = some (.declaration leaf) := by
  cases command with
  | none => cases position <;> simp [placed, at?]
  | declaration other =>
      cases position with
      | nil => simp [placed, at?, eq_comm]
      | cons index position => simp [placed, at?]
  | batch commands =>
      unfold placed
      rw [mem_placedFrom]
      cases position with
      | nil =>
          constructor
          · rintro ⟨offset, command, hcommand, inner, hinner, heq⟩
            cases heq
          · intro h
            cases h
      | cons index position =>
          have hmember := mem_placedAll commands position leaf
          show _ ↔ (commands[index]?).bind (at? position) = some (.declaration leaf)
          rw [Option.bind_eq_some_iff]
          constructor
          · rintro ⟨offset, command, hcommand, ⟨path, found⟩, hinner, heq⟩
            simp only [Nat.zero_add, Prod.mk.injEq, List.cons.injEq] at heq
            obtain ⟨⟨rfl, rfl⟩, rfl⟩ := heq
            have hmem : command ∈ commands := List.mem_of_getElem? hcommand
            exact ⟨command, hcommand, (hmember command hmem).mp hinner⟩
          · rintro ⟨command, hcommand, hat⟩
            have hmem : command ∈ commands := List.mem_of_getElem? hcommand
            refine ⟨index, command, hcommand, (position, leaf), (hmember command hmem).mpr hat, ?_⟩
            rw [Nat.zero_add]

theorem mem_placedAll (commands : List (Command message)) (position : List Nat)
    (leaf : Declaration message) : ∀ command ∈ commands,
      ((position, leaf) ∈ command.placed ↔ command.at? position = some (.declaration leaf)) := by
  cases commands with
  | nil =>
      intro command hcommand
      cases hcommand
  | cons first commands =>
      intro command hcommand
      rcases List.mem_cons.mp hcommand with hfirst | hmem
      · rw [hfirst]
        exact mem_placed first position leaf
      · exact mem_placedAll commands position leaf command hmem

end

mutual

/-- The entries are in the order of their positions. -/
theorem pairwise_placed (command : Command message) :
    command.placed.Pairwise fun left right => left.1 < right.1 := by
  cases command with
  | none => exact .nil
  | declaration leaf => exact List.pairwise_singleton _ _
  | batch commands =>
      unfold placed
      exact pairwise_placedFrom 0 commands

theorem pairwise_placedFrom (index : Nat) (commands : List (Command message)) :
    (placedFrom index commands).Pairwise fun left right => left.1 < right.1 := by
  cases commands with
  | nil => exact .nil
  | cons command commands =>
      unfold placedFrom
      refine List.pairwise_append.mpr ⟨?_, pairwise_placedFrom (index + 1) commands, ?_⟩
      · refine List.pairwise_map.mpr ((pairwise_placed command).imp ?_)
        intro left right hlt
        exact List.cons_lt_cons_iff.mpr (Or.inr ⟨rfl, hlt⟩)
      · intro left hleft right hright
        obtain ⟨inner, _, rfl⟩ := List.mem_map.mp hleft
        obtain ⟨offset, other, _, found, _, rfl⟩ := mem_placedFrom.mp hright
        have hlt : index < index + 1 + offset := by omega
        exact List.cons_lt_cons_iff.mpr (Or.inl hlt)

end

theorem leaves_intoDeclarations (command : Command message) :
    command.Leaves command.intoDeclarations :=
  ⟨command.placed, pairwise_placed command, mem_placed command, map_placed command⟩

/-- A tree has its leaves in one order. -/
theorem Leaves.unique {command : Command message} {first second : List (Declaration message)}
    (hfirst : command.Leaves first) (hsecond : command.Leaves second) : first = second := by
  obtain ⟨placed, hplaced, hmem, rfl⟩ := hfirst
  obtain ⟨placed', hplaced', hmem', rfl⟩ := hsecond
  have hnodup {entries : List (List Nat × Declaration message)}
      (h : entries.Pairwise fun left right => left.1 < right.1) : entries.Nodup :=
    h.imp fun {left right} (hlt : left.1 < right.1) (heq : left = right) =>
      List.lt_irrefl _ (heq ▸ hlt)
  have hperm : placed.Perm placed' := by
    refine (List.perm_ext_iff_of_nodup (hnodup hplaced) (hnodup hplaced')).mpr ?_
    rintro ⟨position, leaf⟩
    rw [hmem, hmem']
  have heq : placed = placed' := by
    refine hperm.eq_of_pairwise ?_ hplaced hplaced'
    intro left right _ _ hlt hgt
    exact absurd (List.lt_trans hlt hgt) (List.lt_irrefl _)
  rw [heq]

end Command

/-! ## Batches -/

/-- Batches carry no meaning: a Command comes down to its declarations, from
    left to right, for the inspections, the validator and the interpreter. -/
theorem batches_carry_nothing (command : Command message) :
    command.Leaves command.intoDeclarations ∧
      (∀ descriptorType, command.effectIntents descriptorType =
        command.intoDeclarations.flatMap fun leaf =>
          (Command.declaration leaf).effectIntents descriptorType) ∧
      (∀ notificationType, command.notificationIntents notificationType =
        command.intoDeclarations.flatMap fun leaf =>
          (Command.declaration leaf).notificationIntents notificationType) ∧
      (∀ requestType, command.requestIntents requestType =
        command.intoDeclarations.flatMap fun leaf =>
          (Command.declaration leaf).requestIntents requestType) ∧
      (∀ replyType, command.replyIntents replyType =
        command.intoDeclarations.flatMap fun leaf =>
          (Command.declaration leaf).replyIntents replyType) ∧
      (∀ (program : Program) (component : ComponentId),
        validateCommand program component command = .ok () ↔
          ∀ leaf ∈ command.intoDeclarations,
            validateCommand program component (.declaration leaf) = .ok ()) ∧
      ∀ (other : Command message) (leaves : List (Declaration message)), command.Leaves leaves →
        other.Leaves leaves → ∀ (component : ComponentId) (cause : TraceId) (core : Controlled.Core),
          (Controlled.interpretCommand component cause other).run core =
            (Controlled.interpretCommand component cause command).run core := by
  refine ⟨command.leaves_intoDeclarations, fun _ => command.collectIntents_leaves _,
    fun _ => command.collectIntents_leaves _, fun _ => command.collectIntents_leaves _,
    fun _ => command.collectIntents_leaves _, ?_, ?_⟩
  · intro program component
    exact validateCommand_eq_ok command
  · intro other leaves hleaves hother component cause core
    have hcommand := hleaves.unique command.leaves_intoDeclarations
    have hsame := hother.unique other.leaves_intoDeclarations
    unfold Controlled.interpretCommand
    rw [← hcommand, ← hsame]

end Positions

end Samara

/-! ## A nested tree -/

namespace Samara.Sample

attribute [local instance] Sample.types

/-- An effect that discards its outcome. -/
def printing (number : Nat) : Declaration () := .effect ⟨⟨0, ⟨7⟩⟩, (), .plain number, none⟩

def nested : Command () :=
  .batch [.batch [.none, .declaration (printing 1)],
    .batch [.declaration (.after 5 (.plain 2)), .batch []], .declaration (printing 3)]

def flat : Command () :=
  .batch [.declaration (printing 1), .declaration (.after 5 (.plain 2)), .declaration (printing 3)]

example : nested.effectIntents () = [.plain 1, .plain 3] := rfl

example : nested.at? [1, 0] = some (.declaration (.after 5 (.plain 2))) := rfl

def printer : Controlled.Core := Controlled.Core.fresh
  (((ProgramBuilder.new ⟨7⟩).effect ()).build.toOption.get rfl) ⟨[()], [], []⟩

theorem batches_carry_nothing_nested :
    (Controlled.interpretCommand ⟨"printer"⟩ 0 flat).run printer =
      (Controlled.interpretCommand ⟨"printer"⟩ 0 nested).run printer := by
  obtain ⟨hleaves, _, _, _, _, _, hinterpret⟩ := batches_carry_nothing nested
  have hflat : flat.Leaves nested.intoDeclarations := flat.leaves_intoDeclarations
  exact hinterpret flat nested.intoDeclarations hleaves hflat ⟨"printer"⟩ 0 printer

end Samara.Sample
