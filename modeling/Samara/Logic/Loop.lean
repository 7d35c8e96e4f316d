/-
  Samara.Logic.Loop

  Loops that count their rounds.  A loop that has run dry goes on from where it
  stands when it is given more rounds, and one whose rounds use something up
  does not run dry.
-/
import Samara.Logic.Exec

namespace Exec

variable {ε σ β : Type}

/-- `body` over and over, until it returns something.  It comes with the number
    of rounds that are left then; with none left the loop is `dry`. -/
def loop (dry : ε) (body : EStateM ε σ (Option β)) : Nat → EStateM ε σ (β × Nat)
  | 0 => throw dry
  | rounds + 1 => do
      match ← body with
      | none => loop dry body rounds
      | some value => pure (value, rounds)

section Rounds

variable {dry : ε} {body : EStateM ε σ (Option β)} {rounds more left : Nat} {value : β} {s s' : σ}

/-- A round that goes on. -/
theorem loop_again {m : σ} (hround : body.run s = .ok none m) :
    (loop dry body (rounds + 1)).run s = (loop dry body rounds).run m := by
  show (body >>= _).run s = _
  rw [run_bind_ok hround]

/-- The last round. -/
theorem loop_last {m : σ} (hround : body.run s = .ok (some value) m) :
    (loop dry body (rounds + 1)).run s = .ok (value, rounds) m := by
  show (body >>= _).run s = _
  rw [run_bind_ok hround]
  rfl

/-- A round that fails. -/
theorem loop_fails {e : ε} {m : σ} (hround : body.run s = .error e m) :
    (loop dry body (rounds + 1)).run s = .error e m := by
  show (body >>= _).run s = _
  rw [EStateM.run_bind, hround]

/-- A loop that has run dry goes on with the rounds it is given. -/
theorem loop_resumes (hbody : ∀ s s', body.run s ≠ .error dry s')
    (h : (loop dry body rounds).run s = .error dry s') :
    (loop dry body (rounds + more)).run s = (loop dry body more).run s' := by
  induction rounds generalizing s with
  | zero =>
      have hdry : s = s' := by
        have hrun : (loop dry body 0).run s = .error dry s := rfl
        rw [hrun] at h
        injection h
      rw [Nat.zero_add, hdry]
  | succ rounds ih =>
      rw [Nat.add_right_comm]
      cases hround : body.run s with
      | error e m =>
          rw [loop_fails hround] at h
          injection h with hdry
          exact absurd (hdry ▸ hround) (hbody s m)
      | ok result m =>
          cases result with
          | none =>
              rw [loop_again hround] at h ⊢
              exact ih h
          | some value =>
              rw [loop_last hround] at h
              cases h

/-- A loop that is over does not need the rounds it is given besides. -/
theorem loop_extends (h : (loop dry body rounds).run s = .ok (value, left) s') :
    (loop dry body (rounds + more)).run s = .ok (value, left + more) s' := by
  induction rounds generalizing s with
  | zero => cases h
  | succ rounds ih =>
      rw [Nat.add_right_comm]
      cases hround : body.run s with
      | error e m =>
          rw [loop_fails hround] at h
          cases h
      | ok result m =>
          cases result with
          | none =>
              rw [loop_again hround] at h ⊢
              exact ih h
          | some last =>
              rw [loop_last hround] at h ⊢
              cases h
              rfl

end Rounds

section Rules

variable {dry : ε} {body : EStateM ε σ (Option β)} {Q : β → σ → Prop} {E : ε → σ → Prop}

/-- What a round leaves: the invariant, or the end of the loop. -/
def After (I : σ → Prop) (Q : β → σ → Prop) : Option β → σ → Prop
  | none, s => I s
  | some value, s => Q value s

/-- An invariant of the rounds holds until the loop is over or has run dry. -/
theorem triple_loop {I : σ → Prop} (hbody : Triple I body (After I Q) E)
    (hdry : ∀ s, I s → E dry s) (rounds : Nat) :
    Triple I (loop dry body rounds) (fun result => Q result.1) E := by
  induction rounds with
  | zero => exact triple_throw hdry
  | succ rounds ih =>
      refine triple_bind hbody fun result => ?_
      cases result with
      | none => exact ih
      | some value => exact triple_pure fun _ hq => hq

/-- With more rounds than there is to use up, the loop does not run dry. -/
theorem triple_loop_uses {I : Nat → σ → Prop}
    (hbody : ∀ n, Triple (I n) body (After (fun s => ∃ m, m < n ∧ I m s) Q) E)
    (rounds : Nat) : ∀ n, n < rounds →
      Triple (I n) (loop dry body rounds) (fun result => Q result.1) E := by
  -- What the first round has left is used up in the rounds after it.
  induction rounds with
  | zero =>
      intro n hn
      exact absurd hn (Nat.not_lt_zero n)
  | succ rounds ih =>
      intro n hn
      refine triple_bind (hbody n) fun result => ?_
      cases result with
      | none =>
          rintro s ⟨m, hm, hs⟩
          exact ih m (by omega) s hs
      | some value => exact triple_pure fun _ hq => hq

end Rules

end Exec
