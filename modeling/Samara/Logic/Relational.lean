/-
  Samara.Logic.Relational

  Two `EStateM` programs run side by side.

  `Relates R Q x y` says that from any two states that `R` relates the programs
  end alike: both return one value, which satisfies `Q`, or both fail with one
  error, and `R` relates the states they leave.
-/
import Samara.Logic.Exec

namespace Exec

variable {ε σ τ α β : Type}

/-- Two results that a caller cannot tell apart, in related states. -/
inductive EndsAlike (R : σ → τ → Prop) (Q : α → Prop) :
    EStateM.Result ε σ α → EStateM.Result ε τ α → Prop where
  | ok {a : α} {s : σ} {t : τ} (hvalue : Q a) (hstates : R s t) :
      EndsAlike R Q (.ok a s) (.ok a t)
  | error {e : ε} {s : σ} {t : τ} (hstates : R s t) : EndsAlike R Q (.error e s) (.error e t)

def Relates (R : σ → τ → Prop) (Q : α → Prop) (x : EStateM ε σ α) (y : EStateM ε τ α) : Prop :=
  ∀ s t, R s t → EndsAlike R Q (x.run s) (y.run t)

/-- Two results whose values `V` relates. -/
inductive EndsBy (R : σ → τ → Prop) (V : α → β → Prop) :
    EStateM.Result ε σ α → EStateM.Result ε τ β → Prop where
  | ok {a : α} {b : β} {s : σ} {t : τ} (hvalues : V a b) (hstates : R s t) :
      EndsBy R V (.ok a s) (.ok b t)
  | error {e : ε} {s : σ} {t : τ} (hstates : R s t) : EndsBy R V (.error e s) (.error e t)

theorem endsBy_refl {R : σ → σ → Prop} {V : α → α → Prop} (hstates : ∀ s, R s s)
    (hvalues : ∀ a, V a a) (result : EStateM.Result ε σ α) : EndsBy R V result result := by
  cases result with
  | ok a s => exact .ok (hvalues a) (hstates s)
  | error e s => exact .error (hstates s)

variable {R : σ → τ → Prop} {Q : α → Prop}

theorem relates_pure {a : α} (h : Q a) :
    Relates R Q (pure a : EStateM ε σ α) (pure a : EStateM ε τ α) :=
  fun _ _ hstates => .ok h hstates

theorem relates_throw {e : ε} :
    Relates R Q (throw e : EStateM ε σ α) (throw e : EStateM ε τ α) :=
  fun _ _ hstates => .error hstates

/-- Sequencing: the continuations are compared at the value both parts return. -/
theorem relates_bind {x : EStateM ε σ α} {y : EStateM ε τ α} {f : α → EStateM ε σ β}
    {g : α → EStateM ε τ β} {Q' : β → Prop} (hx : Relates R Q x y)
    (hf : ∀ a, Q a → Relates R Q' (f a) (g a)) : Relates R Q' (x >>= f) (y >>= g) := by
  intro s t hstates
  have hends := hx s t hstates
  rw [EStateM.run_bind, EStateM.run_bind]
  cases hxs : x.run s with
  | ok a s' =>
      cases hyt : y.run t with
      | ok b t' =>
          rw [hxs, hyt] at hends
          cases hends with
          | ok hvalue hleft => exact hf a hvalue s' t' hleft
      | error e t' =>
          rw [hxs, hyt] at hends
          cases hends
  | error e s' =>
      cases hyt : y.run t with
      | ok b t' =>
          rw [hxs, hyt] at hends
          cases hends
      | error e' t' =>
          rw [hxs, hyt] at hends
          cases hends with
          | error hleft => exact .error hleft

theorem relates_ite {p : Prop} [Decidable p] {x x' : EStateM ε σ α} {y y' : EStateM ε τ α}
    (h : p → Relates R Q x y) (h' : ¬p → Relates R Q x' y') :
    Relates R Q (if p then x else x') (if p then y else y') := by
  split
  · exact h ‹p›
  · exact h' ‹¬p›

/-- Programs that read their state are compared at any two related states. -/
theorem relates_get {f : σ → EStateM ε σ α} {g : τ → EStateM ε τ α}
    (h : ∀ s t, R s t → Relates R Q (f s) (g t)) : Relates R Q (get >>= f) (get >>= g) :=
  fun s t hstates => h s t hstates s t hstates

theorem relates_set {s : σ} {t : τ} (h : R s t) :
    Relates R (fun _ => True) (set s : EStateM ε σ PUnit) (set t : EStateM ε τ PUnit) :=
  fun _ _ _ => .ok trivial h

theorem relates_modify {f : σ → σ} {g : τ → τ} (h : ∀ s t, R s t → R (f s) (g t)) :
    Relates R (fun _ => True) (modify f : EStateM ε σ PUnit) (modify g : EStateM ε τ PUnit) :=
  fun s t hstates => .ok trivial (h s t hstates)

end Exec
