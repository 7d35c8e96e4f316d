/-
  Samara.Logic.Exec

  Reasoning about `EStateM` programs whose state survives an error.

  A program is compared with a step relation over its state: `Follows` says
  that whatever a computation does, returning or failing, it leaves the state
  at the end of a path of steps.  An invariant of the steps is then an
  invariant of the program, however its code is nested.
-/
import Mathlib.Logic.Relation
import Mathlib.Order.Defs.Unbundled

namespace Exec

open Relation (ReflTransGen)

variable {ε σ τ α β : Type}

@[simp] theorem run_throw (e : ε) (s : σ) :
    (throw e : EStateM ε σ α).run s = .error e s := rfl

/-- A computation whose first part returns continues from where that part left. -/
theorem run_bind_ok {x : EStateM ε σ α} {f : α → EStateM ε σ β} {s s' : σ} {a : α}
    (h : x.run s = .ok a s') : (x >>= f).run s = (f a).run s' := by
  rw [EStateM.run_bind, h]

/-- A computation returns exactly when its parts do, one after the other. -/
theorem run_bind_eq_ok {x : EStateM ε σ α} {f : α → EStateM ε σ β} {s s'' : σ} {b : β} :
    (x >>= f).run s = .ok b s'' ↔ ∃ a s', x.run s = .ok a s' ∧ (f a).run s' = .ok b s'' := by
  rw [EStateM.run_bind]
  cases x.run s with
  | ok a s' =>
      constructor
      · intro h
        exact ⟨a, s', rfl, h⟩
      · rintro ⟨_, _, hx, h⟩
        cases hx
        exact h
  | error e s' => simp

/-- A computation is cut in two where what follows its first part is. -/
theorem bind_cut {γ : Type} {x : EStateM ε σ α} {f : α → EStateM ε σ γ} {g : α → EStateM ε σ β}
    {k : β → EStateM ε σ γ} (h : ∀ a, f a = g a >>= k) : x >>= f = (x >>= g) >>= k := by
  rw [bind_assoc]
  exact bind_congr h

/-- Two computations whose values are put together. -/
theorem run_both_eq_ok {γ : Type} {x : EStateM ε σ α} {y : EStateM ε σ β} {f : α → β → γ}
    {s s'' : σ} {c : γ} :
    (x >>= fun a => y >>= fun b => pure (f a b)).run s = .ok c s'' ↔
      ∃ a s' b, x.run s = .ok a s' ∧ y.run s' = .ok b s'' ∧ c = f a b := by
  rw [run_bind_eq_ok]
  constructor
  · rintro ⟨a, s', hx, hrest⟩
    obtain ⟨b, last, hy, hpure⟩ := run_bind_eq_ok.mp hrest
    cases hpure
    exact ⟨a, s', b, hx, hy, rfl⟩
  · rintro ⟨a, s', b, hx, hy, rfl⟩
    exact ⟨a, s', hx, run_bind_eq_ok.mpr ⟨b, s'', hy, rfl⟩⟩

/-- The state a computation leaves behind, whether it returned or failed. -/
def final : EStateM.Result ε σ α → σ
  | .ok _ s => s
  | .error _ s => s

@[simp] theorem final_ok (a : α) (s : σ) : final (.ok a s : EStateM.Result ε σ α) = s := rfl

@[simp] theorem final_error (e : ε) (s : σ) :
    final (.error e s : EStateM.Result ε σ α) = s := rfl

/-! ## Paths of steps -/

/-- A property kept by every step holds at the end of every path. -/
theorem path_preserves {Step : σ → σ → Prop} {Inv : σ → Prop}
    (hstep : ∀ s s', Inv s → Step s s' → Inv s') {s s' : σ}
    (hpath : ReflTransGen Step s s') (h : Inv s) : Inv s' := by
  induction hpath with
  | refl => exact h
  | tail _ hlast ih => exact hstep _ _ ih hlast

/-- A step property that may rely on an invariant: both hold along a path. -/
theorem path_preserves_of_inv {Step : σ → σ → Prop} {Inv Goal : σ → Prop}
    (hinv : ∀ s s', Inv s → Step s s' → Inv s')
    (hstep : ∀ s s', Inv s → Goal s → Step s s' → Goal s') {s s' : σ}
    (hpath : ReflTransGen Step s s') (h : Inv s) (hgoal : Goal s) : Goal s' := by
  have hboth := @path_preserves σ Step (fun t => Inv t ∧ Goal t)
    (fun a b hab hs => ⟨hinv a b hab.1 hs, hstep a b hab.1 hab.2 hs⟩) s s' hpath ⟨h, hgoal⟩
  exact hboth.2

/-- A transitive relation that every step satisfies relates the ends of a path. -/
theorem path_relates {Step R : σ → σ → Prop} (hrefl : ∀ s, R s s)
    (htrans : ∀ a b c, R a b → R b c → R a c) (hstep : ∀ s s', Step s s' → R s s') {s s' : σ}
    (hpath : ReflTransGen Step s s') : R s s' := by
  induction hpath with
  | refl => exact hrefl _
  | tail _ hlast ih => exact htrans _ _ _ ih (hstep _ _ hlast)

/-! ## Computations that follow a step relation -/

/-- The result `r` ends a path of steps from `s`.  A returned value satisfies
    `Q` at the state reached; an error satisfies `Exit` between the last state
    the path reached and the state the error left. -/
def Follows (Step : σ → σ → Prop) (Exit : ε → σ → σ → Prop) (s : σ)
    (r : EStateM.Result ε σ α) (Q : α → σ → Prop) : Prop :=
  match r with
  | .ok a s' => ReflTransGen Step s s' ∧ Q a s'
  | .error e s' => ∃ m, ReflTransGen Step s m ∧ Exit e m s'

variable {Step : σ → σ → Prop} {Exit : ε → σ → σ → Prop}

theorem follows_pure {s s₀ : σ} {a : α} {Q : α → σ → Prop} (hpath : ReflTransGen Step s s₀)
    (h : Q a s₀) : Follows Step Exit s ((pure a : EStateM ε σ α).run s₀) Q :=
  ⟨hpath, h⟩

theorem follows_throw {s s₀ m : σ} {e : ε} {Q : α → σ → Prop} (hpath : ReflTransGen Step s m)
    (h : Exit e m s₀) : Follows Step Exit s ((throw e : EStateM ε σ α).run s₀) Q :=
  ⟨m, hpath, h⟩

/-- A path in front of a computation that follows the steps. -/
theorem follows_of_path {s t : σ} {r : EStateM.Result ε σ α} {Q : α → σ → Prop}
    (hpath : ReflTransGen Step s t) (h : Follows Step Exit t r Q) : Follows Step Exit s r Q := by
  cases r with
  | ok a s' => exact ⟨hpath.trans h.1, h.2⟩
  | error e s' =>
      obtain ⟨m, hm, he⟩ := h
      exact ⟨m, hpath.trans hm, he⟩

/-- Sequencing: the second computation continues the path of the first. -/
theorem follows_bind {s s₀ : σ} {x : EStateM ε σ α} {f : α → EStateM ε σ β}
    {Q : α → σ → Prop} {Q' : β → σ → Prop} (hx : Follows Step Exit s (x.run s₀) Q)
    (hf : ∀ a s', ReflTransGen Step s s' → Q a s' → Follows Step Exit s' ((f a).run s') Q') :
    Follows Step Exit s ((x >>= f).run s₀) Q' := by
  rw [EStateM.run_bind]
  cases hres : x.run s₀ with
  | error e s' =>
      rw [hres] at hx
      exact hx
  | ok a s' =>
      rw [hres] at hx
      exact follows_of_path hx.1 (hf a s' hx.1 hx.2)

theorem follows_conseq {s : σ} {r : EStateM.Result ε σ α} {Q Q' : α → σ → Prop}
    (h : Follows Step Exit s r Q) (hQ : ∀ a s', ReflTransGen Step s s' → Q a s' → Q' a s') :
    Follows Step Exit s r Q' := by
  cases r with
  | ok a s' => exact ⟨h.1, hQ a s' h.1 h.2⟩
  | error e s' => exact h

/-- A computation that follows some steps follows any relation they are part
    of, with any account of its errors that theirs implies. -/
theorem follows_mono {Step' : σ → σ → Prop} {Exit' : ε → σ → σ → Prop}
    (hsub : ∀ s s', Step s s' → Step' s s') (hexit : ∀ e s s', Exit e s s' → Exit' e s s')
    {s : σ} {r : EStateM.Result ε σ α} {Q : α → σ → Prop} (h : Follows Step Exit s r Q) :
    Follows Step' Exit' s r Q := by
  cases r with
  | ok a s' => exact ⟨ReflTransGen.mono hsub _ _ h.1, h.2⟩
  | error e s' =>
      obtain ⟨m, hm, he⟩ := h
      exact ⟨m, ReflTransGen.mono hsub _ _ hm, hexit e m s' he⟩

/-- A computation that follows the steps keeps every invariant of the steps
    that its error exits keep. -/
theorem follows_preserves {Inv : σ → Prop} (hstep : ∀ s s', Inv s → Step s s' → Inv s')
    (hexit : ∀ e m s', Inv m → Exit e m s' → Inv s') {s : σ} {r : EStateM.Result ε σ α}
    {Q : α → σ → Prop} (h : Follows Step Exit s r Q) (hs : Inv s) : Inv (final r) := by
  cases r with
  | ok a s' => exact path_preserves hstep h.1 hs
  | error e s' =>
      obtain ⟨m, hm, he⟩ := h
      exact hexit e m s' (path_preserves hstep hm hs) he

/-! ## Triples -/

/-- From a state that satisfies `P`, `x` returns with `Q` or fails with `E`. -/
def Triple (P : σ → Prop) (x : EStateM ε σ α) (Q : α → σ → Prop) (E : ε → σ → Prop) : Prop :=
  ∀ s, P s → match x.run s with
    | .ok a s' => Q a s'
    | .error e s' => E e s'

variable {P : σ → Prop} {E : ε → σ → Prop}

theorem triple_pure {a : α} {Q : α → σ → Prop} (h : ∀ s, P s → Q a s) :
    Triple P (pure a : EStateM ε σ α) Q E := h

theorem triple_throw {e : ε} {Q : α → σ → Prop} (h : ∀ s, P s → E e s) :
    Triple P (throw e : EStateM ε σ α) Q E := h

theorem triple_true {x : EStateM ε σ α} :
    Triple P x (fun _ _ => True) (fun _ _ => True) := by
  intro s _
  cases x.run s <;> trivial

theorem triple_bind {x : EStateM ε σ α} {f : α → EStateM ε σ β} {Q : α → σ → Prop}
    {Q' : β → σ → Prop} (hx : Triple P x Q E) (hf : ∀ a, Triple (Q a) (f a) Q' E) :
    Triple P (x >>= f) Q' E := by
  intro s hs
  have hrun := hx s hs
  rw [EStateM.run_bind]
  cases hres : x.run s with
  | ok a s' =>
      rw [hres] at hrun
      exact hf a s' hrun
  | error e s' =>
      rw [hres] at hrun
      exact hrun

theorem triple_conseq {P' : σ → Prop} {x : EStateM ε σ α} {Q Q' : α → σ → Prop}
    {E' : ε → σ → Prop} (h : Triple P x Q E) (hP : ∀ s, P' s → P s) (hQ : ∀ a s, Q a s → Q' a s)
    (hE : ∀ e s, E e s → E' e s) : Triple P' x Q' E' := by
  intro s hs
  have hrun := h s (hP s hs)
  cases hres : x.run s with
  | ok a s' =>
      rw [hres] at hrun
      exact hQ a s' hrun
  | error e s' =>
      rw [hres] at hrun
      exact hE e s' hrun

theorem triple_ite {p : Prop} [Decidable p] {x y : EStateM ε σ α} {Q : α → σ → Prop}
    (hx : p → Triple P x Q E) (hy : ¬p → Triple P y Q E) :
    Triple P (if p then x else y) Q E := by
  split
  · exact hx ‹p›
  · exact hy ‹¬p›

/-- Two triples about one computation hold together. -/
theorem triple_and {P' : σ → Prop} {x : EStateM ε σ α} {Q Q' : α → σ → Prop} {E' : ε → σ → Prop}
    (h : Triple P x Q E) (h' : Triple P' x Q' E') :
    Triple (fun s => P s ∧ P' s) x (fun a s => Q a s ∧ Q' a s) (fun e s => E e s ∧ E' e s) := by
  intro s hs
  have hrun := h s hs.1
  have hrun' := h' s hs.2
  cases hres : x.run s with
  | ok a s' =>
      rw [hres] at hrun hrun'
      exact ⟨hrun, hrun'⟩
  | error e s' =>
      rw [hres] at hrun hrun'
      exact ⟨hrun, hrun'⟩

/-- A computation that follows steps keeps what the steps keep. -/
theorem triple_of_follows {x : EStateM ε σ α} {Q : α → σ → Prop}
    (hfollows : ∀ s, P s → Follows Step Exit s (x.run s) Q)
    (hstep : ∀ s s', P s → Step s s' → P s') (hexit : ∀ e m s', P m → Exit e m s' → E e s') :
    Triple P x (fun _ => P) E := by
  intro s hs
  have hrun := hfollows s hs
  cases hres : x.run s with
  | ok a s' =>
      rw [hres] at hrun
      exact path_preserves hstep hrun.1 hs
  | error e s' =>
      rw [hres] at hrun
      obtain ⟨m, hpath, he⟩ := hrun
      exact hexit e m s' (path_preserves hstep hpath hs) he

/-- A triple whose ends agree is about the state a computation leaves. -/
theorem Triple.final {x : EStateM ε σ α} {Q : σ → Prop} (h : Triple P x (fun _ => Q) (fun _ => Q))
    {s : σ} (hs : P s) : Q (final (x.run s)) := by
  have hrun := h s hs
  cases hres : x.run s with
  | ok a s' =>
      rw [hres] at hrun
      exact hrun
  | error e s' =>
      rw [hres] at hrun
      exact hrun

/-- What a triple says of a computation that returns. -/
theorem Triple.ok {x : EStateM ε σ α} {Q : α → σ → Prop} (h : Triple P x Q E) {s s' : σ} {a : α}
    (hs : P s) (hreturns : x.run s = .ok a s') : Q a s' := by
  have hrun := h s hs
  rw [hreturns] at hrun
  exact hrun

/-! ## Computations that follow steps from any state -/

/-- Whatever state it starts in, `x` follows the steps. -/
def Traces (Step : σ → σ → Prop) (Exit : ε → σ → σ → Prop) (x : EStateM ε σ α) : Prop :=
  ∀ s, Follows Step Exit s (x.run s) fun _ _ => True

section Traces

theorem traces_pure (a : α) : Traces Step Exit (pure a : EStateM ε σ α) :=
  fun _ => follows_pure .refl trivial

theorem traces_throw {e : ε} (h : ∀ s, Exit e s s) : Traces Step Exit (throw e : EStateM ε σ α) :=
  fun s => follows_throw .refl (h s)

theorem traces_bind {x : EStateM ε σ α} {f : α → EStateM ε σ β} (hx : Traces Step Exit x)
    (hf : ∀ a, Traces Step Exit (f a)) : Traces Step Exit (x >>= f) :=
  fun s => follows_bind (hx s) fun a s' _ _ => hf a s'

/-- The state is only looked at. -/
theorem traces_look {f : σ → EStateM ε σ α} (h : ∀ s, Traces Step Exit (f s)) :
    Traces Step Exit (get >>= f) := fun s => h s s

/-- A computation that reads its state first. -/
theorem traces_get {f : σ → EStateM ε σ α}
    (h : ∀ s, Follows Step Exit s ((f s).run s) fun _ _ => True) :
    Traces Step Exit (get >>= f) := h

/-- A computation that is one step. -/
theorem traces_step {x : EStateM ε σ α} {value : σ → α} {next : σ → σ}
    (hrun : ∀ s, x.run s = .ok (value s) (next s)) (hstep : ∀ s, Step s (next s)) :
    Traces Step Exit x := by
  intro s
  rw [hrun s]
  exact ⟨.single (hstep s), trivial⟩

theorem traces_ite {p : Prop} [Decidable p] {x y : EStateM ε σ α} (hx : p → Traces Step Exit x)
    (hy : ¬p → Traces Step Exit y) : Traces Step Exit (if p then x else y) := by
  split
  · exact hx ‹p›
  · exact hy ‹¬p›

theorem Traces.triple {x : EStateM ε σ α} (h : Traces Step Exit x)
    (hstep : ∀ s s', P s → Step s s' → P s') (hexit : ∀ e m s', P m → Exit e m s' → E e s') :
    Triple P x (fun _ => P) E := triple_of_follows (fun s _ => h s) hstep hexit

end Traces

/-! ## How computations stop -/

/-- A result that is a failure satisfies `E`. -/
def Stops (E : ε → σ → Prop) : EStateM.Result ε σ α → Prop
  | .ok _ _ => True
  | .error e s => E e s

/-- Sequencing: the second part may fail where the first one returns. -/
theorem stops_bind {x : EStateM ε σ α} {f : α → EStateM ε σ β} {s : σ} (hx : Stops E (x.run s))
    (hf : ∀ a s', x.run s = .ok a s' → Stops E ((f a).run s')) :
    Stops E ((x >>= f).run s) := by
  rw [EStateM.run_bind]
  cases hres : x.run s with
  | ok a s' => exact hf a s' hres
  | error e s' =>
      rw [hres] at hx
      exact hx

theorem Triple.stops {x : EStateM ε σ α} {Q : α → σ → Prop} (h : Triple P x Q E) {s : σ}
    (hs : P s) : Stops E (x.run s) := by
  have hrun := h s hs
  cases hres : x.run s with
  | ok a s' => trivial
  | error e s' =>
      rw [hres] at hrun
      exact hrun

/-! ## Computations that relate their ends -/

/-- However `x` ends, `R` relates the state it starts in to the one it leaves. -/
def Leads (R : σ → σ → Prop) (x : EStateM ε σ α) : Prop := ∀ s, R s (final (x.run s))

section Leads

variable {R : σ → σ → Prop}

theorem leads_modify {f : σ → σ} (h : ∀ s, R s (f s)) :
    Leads R (modify f : EStateM ε σ PUnit) := h

/-- A computation that reads its state first. -/
theorem leads_get {f : σ → EStateM ε σ α} (h : ∀ s, R s (final ((f s).run s))) :
    Leads R (get >>= f) := h

theorem leads_ite {p : Prop} [Decidable p] {x y : EStateM ε σ α} (hx : p → Leads R x)
    (hy : ¬p → Leads R y) : Leads R (if p then x else y) := by
  split
  · exact hx ‹p›
  · exact hy ‹¬p›

variable [IsPreorder σ R]

theorem leads_pure (a : α) : Leads R (pure a : EStateM ε σ α) := fun s => refl s

theorem leads_throw (e : ε) : Leads R (throw e : EStateM ε σ α) := fun s => refl s

/-- Sequencing, from a state where the first part is known to lead on. -/
theorem final_bind {x : EStateM ε σ α} {f : α → EStateM ε σ β} {s s₀ : σ}
    (hx : R s (final (x.run s₀))) (hf : ∀ a, Leads R (f a)) :
    R s (final ((x >>= f).run s₀)) := by
  rw [EStateM.run_bind]
  cases hrun : x.run s₀ with
  | ok a s' =>
      rw [hrun] at hx
      exact IsTrans.trans _ _ _ hx (hf a s')
  | error e s' =>
      rw [hrun] at hx
      exact hx

theorem leads_bind {x : EStateM ε σ α} {f : α → EStateM ε σ β} (hx : Leads R x)
    (hf : ∀ a, Leads R (f a)) : Leads R (x >>= f) := fun s => final_bind (hx s) hf

end Leads

end Exec
