import Rulebook.Backoff
import Rulebook.Journal

/-!
# Trying again

An operation that fails in a way that may pass is tried again, with the pauses of a
policy in between. It is given up when it fails in another way, or when the policy
allows no further retry; the failure of the last attempt is then the failure of the
whole.

How time passes is up to the state that the operation acts on. The pauses are also
returned, in order, for whoever has to make them.
-/

namespace Rulebook.Retry

/-- An operation that can be tried again. It acts on a state, and what it writes to
the journal is part of what it gives. -/
structure Operation (σ ε α : Type) where
  /-- The name of the operation in the journal. -/
  name : String
  attempt : σ → Except ε α × List Event × σ
  /-- What a pause of so many milliseconds makes of the state; a state that does not
  tell time stays as it is. -/
  pause : Nat → σ → σ := fun _ w => w
  /-- Whether a failure may pass. -/
  retryable : ε → Bool
  /-- A failure as the journal shows it. -/
  shown : ε → String

/-- What became of an operation. -/
structure Outcome (σ ε α : Type) where
  result : Except ε α
  /-- The pauses that were made, in order; there was one attempt more. -/
  delays : List Nat
  log : List Event
  state : σ

/-- The number of attempts. -/
def Outcome.attempts {σ ε α : Type} (o : Outcome σ ε α) : Nat := o.delays.length + 1

/-- The time that the pauses take. -/
def Outcome.elapsed {σ ε α : Type} (o : Outcome σ ε α) : Nat := o.delays.foldl (· + ·) 0

/-- What is written when an attempt succeeds after a number of retries. -/
def successLog (name : String) (retries : Nat) : List Event :=
  if retries = 0 then [] else [.recovered name retries]

/-- Tries an operation when there were `retries` retries before and `left` more are
allowed. -/
def attempts {σ ε α : Type} (p : Backoff) (op : Operation σ ε α) :
    (left retries : Nat) → σ → Outcome σ ε α
  | left, retries, w =>
    match op.attempt w with
    | (.ok x, log, w) => ⟨.ok x, [], log ++ successLog op.name retries, w⟩
    | (.error e, log, w) =>
      if ! op.retryable e then ⟨.error e, [], log ++ [.givenUp op.name (op.shown e)], w⟩
      else
        match left with
        | 0 => ⟨.error e, [], log ++ [.exhausted op.name retries (op.shown e)], w⟩
        | left + 1 =>
          let delay := p.delay retries
          let rest := attempts p op left (retries + 1) (op.pause delay w)
          ⟨rest.result, delay :: rest.delays,
            log ++ [.retrying op.name retries delay (op.shown e)] ++ rest.log, rest.state⟩

/-- Tries an operation as often as a policy allows. -/
def run {σ ε α : Type} (p : Backoff) (op : Operation σ ε α) (w : σ) : Outcome σ ε α :=
  attempts p op p.maxRetries 0 w

end Rulebook.Retry
