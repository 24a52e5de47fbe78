import Rulebook.Retry

/-!
# One attempt after the other

An attempt succeeds, fails for good, or fails in a way that may pass; and in the last case it
matters whether another attempt is allowed. What comes of each of the four is said here by an
equation, and whatever is true in all four is true of a whole run of attempts
(`Rulebook.Retry.attempts_induction`).

A first use of it: an operation may act on a state that says more than it needs, and its attempts
come to the same (`Rulebook.Retry.attempts_map`).
-/

namespace Rulebook.Retry

variable {σ τ ε α : Type} {p : Backoff} {op : Operation σ ε α} {left retries : Nat} {w w' : σ}
  {x : α} {e : ε} {log : List Event}

/-! ### An attempt -/

theorem attempts_of_ok (h : op.attempt w = (.ok x, log, w')) :
    attempts p op left retries w = ⟨.ok x, [], log ++ successLog op.name retries, w'⟩ := by
  rw [attempts.eq_def]
  dsimp only
  rw [h]

theorem attempts_of_final (h : op.attempt w = (.error e, log, w')) (he : op.retryable e = false) :
    attempts p op left retries w =
      ⟨.error e, [], log ++ [.givenUp op.name (op.shown e)], w'⟩ := by
  rw [attempts.eq_def]
  dsimp only
  rw [h]
  dsimp only
  rw [he]
  rfl

theorem attempts_of_exhausted (h : op.attempt w = (.error e, log, w'))
    (he : op.retryable e = true) :
    attempts p op 0 retries w =
      ⟨.error e, [], log ++ [.exhausted op.name retries (op.shown e)], w'⟩ := by
  rw [attempts.eq_def]
  dsimp only
  rw [h]
  dsimp only
  rw [he]
  rfl

theorem attempts_of_retry (h : op.attempt w = (.error e, log, w')) (he : op.retryable e = true) :
    attempts p op (left + 1) retries w =
      let rest := attempts p op left (retries + 1) (op.pause (p.delay retries) w')
      ⟨rest.result, p.delay retries :: rest.delays,
        log ++ [.retrying op.name retries (p.delay retries) (op.shown e)] ++ rest.log,
        rest.state⟩ := by
  rw [attempts.eq_def]
  dsimp only
  rw [h]
  dsimp only
  rw [he]
  rfl

/-- **Attempts are made one after the other**, until one succeeds, one fails for good, or none is
left. The induction is on the attempts that are left. -/
theorem attempts_induction {P : Nat → Nat → σ → Outcome σ ε α → Prop}
    (hok : ∀ left retries w x log w', op.attempt w = (.ok x, log, w') →
      P left retries w ⟨.ok x, [], log ++ successLog op.name retries, w'⟩)
    (hfinal : ∀ left retries w e log w', op.attempt w = (.error e, log, w') →
      op.retryable e = false →
      P left retries w ⟨.error e, [], log ++ [.givenUp op.name (op.shown e)], w'⟩)
    (hexhausted : ∀ retries w e log w', op.attempt w = (.error e, log, w') →
      op.retryable e = true →
      P 0 retries w ⟨.error e, [], log ++ [.exhausted op.name retries (op.shown e)], w'⟩)
    (hretry : ∀ left retries w e log w', op.attempt w = (.error e, log, w') →
      op.retryable e = true → ∀ o, P left (retries + 1) (op.pause (p.delay retries) w') o →
      P (left + 1) retries w ⟨o.result, p.delay retries :: o.delays,
        log ++ [.retrying op.name retries (p.delay retries) (op.shown e)] ++ o.log, o.state⟩)
    (left retries : Nat) (w : σ) : P left retries w (attempts p op left retries w) := by
  induction left using Nat.strongRecOn generalizing retries w with
  | ind left ih =>
    rcases h : op.attempt w with ⟨e | x, log, w'⟩
    · cases he : op.retryable e with
      | false =>
        rw [attempts_of_final h he]
        exact hfinal left retries w e log w' h he
      | true =>
        rcases left with _ | left
        · rw [attempts_of_exhausted h he]
          exact hexhausted retries w e log w' h he
        · rw [attempts_of_retry h he]
          exact hretry left retries w e log w' h he _ (ih left (Nat.lt_succ_self left) _ _)
    · rw [attempts_of_ok h]
      exact hok left retries w x log w' h

/-! ### Another state -/

/-- An outcome in another state. -/
def Outcome.map (f : σ → τ) (o : Outcome σ ε α) : Outcome τ ε α :=
  ⟨o.result, o.delays, o.log, f o.state⟩

/-- **Attempts on a state that says more** come to the same, and to more in the end. -/
theorem attempts_map (op : Operation σ ε α) (op' : Operation τ ε α) (f : σ → τ)
    (hname : op'.name = op.name) (hretryable : op'.retryable = op.retryable)
    (hshown : op'.shown = op.shown)
    (hpause : ∀ delay w, op'.pause delay (f w) = f (op.pause delay w))
    (hattempt : ∀ w, op'.attempt (f w) =
      ((op.attempt w).1, (op.attempt w).2.1, f (op.attempt w).2.2))
    (left retries : Nat) (w : σ) :
    attempts p op' left retries (f w) = (attempts p op left retries w).map f := by
  refine attempts_induction
    (P := fun left retries w o => attempts p op' left retries (f w) = o.map f) ?_ ?_ ?_ ?_ _ _ _
  · intro left retries w x log w' h
    have h' := hattempt w
    rw [h] at h'
    rw [attempts_of_ok h', hname]
    rfl
  · intro left retries w e log w' h he
    have h' := hattempt w
    rw [h] at h'
    rw [attempts_of_final h' (hretryable ▸ he), hname, hshown]
    rfl
  · intro retries w e log w' h he
    have h' := hattempt w
    rw [h] at h'
    rw [attempts_of_exhausted h' (hretryable ▸ he), hname, hshown]
    rfl
  · intro left retries w e log w' h he o ih
    have h' := hattempt w
    rw [h] at h'
    rw [attempts_of_retry h' (hretryable ▸ he), hpause, ih, hname, hshown]
    rfl

end Rulebook.Retry
