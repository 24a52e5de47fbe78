import Mathlib.Data.ENat.Lattice
import Rulebook.Proofs.Retry

/-!
# The course of the attempts

How often an operation is tried, and what happens on the way, is decided by what its attempts
would come to if they never ended. A *script* lists all of that
(`Rulebook.Retry.Script`), for ever, and the operation that follows it keeps a record of its calls
and of the pauses between them, which is its state.

The attempts end at the first one that is settled, which succeeds or fails for good, unless the
policy ends them before (`Rulebook.Retry.Script.firstSettled`). That number decides everything
else (`Rulebook.Retry.Script.run_follows`): calls and pauses alternate, the pauses are those of the
policy from the first one on, and each of them is announced in the journal.
-/

namespace Rulebook.Retry

variable {ε α : Type}

/-! ### Scripts -/

/-- What can be seen of an operation that is tried. -/
inductive Moment where
  | call
  | pause (delay : Nat)
  deriving DecidableEq

/-- What every attempt would come to, and how failures are told apart and shown. -/
structure Script (ε α : Type) where
  name : String
  retryable : ε → Bool
  shown : ε → String
  outcomes : Nat → Except ε α

namespace Script

/-- The operation that follows a script and records its calls and pauses. -/
def operation (s : Script ε α) : Operation (List Moment) ε α where
  name := s.name
  attempt h := (s.outcomes (h.count .call), [], h ++ [.call])
  pause delay h := h ++ [.pause delay]
  retryable := s.retryable
  shown := s.shown

/-- **Whether an attempt is settled**: it succeeds, or it fails in a way that does not pass. -/
def Settled (s : Script ε α) (i : Nat) : Prop :=
  ∀ e, s.outcomes i = .error e → s.retryable e = false

/-- **The first attempt that is settled**, infinity if none ever is. -/
noncomputable def firstSettled (s : Script ε α) : ℕ∞ := ⨅ i, ⨅ _ : s.Settled i, (i : ℕ∞)

/-- What the last attempt adds to the journal, if it is the one with the number `k`. -/
def closing (s : Script ε α) (k : Nat) : List Event :=
  match s.outcomes k with
  | .ok _ => if k = 0 then [] else [.recovered s.name k]
  | .error e => [if s.retryable e then .exhausted s.name k (s.shown e)
      else .givenUp s.name (s.shown e)]

variable {s : Script ε α} {p : Backoff} {k retries left : Nat} {h : List Moment} {e : ε}

/-- **The attempts that a policy allows** up to the first settled one. -/
theorem eq_min_firstSettled (hbefore : ∀ i < k, ¬s.Settled i) (hk : k ≤ left)
    (hend : k = left ∨ s.Settled k) : (k : ℕ∞) = min s.firstSettled left := by
  refine le_antisymm (le_min ?_ (Nat.cast_le.mpr hk)) ?_
  · refine le_iInf fun i => le_iInf fun hi => Nat.cast_le.mpr ?_
    exact Nat.le_of_not_lt fun hlt => hbefore i hlt hi
  · rcases hend with rfl | hsettled
    · exact min_le_right _ _
    · exact (min_le_left _ _).trans (iInf₂_le k hsettled)

/-! ### Attempts that follow a script -/

/-- **What comes of a script** from the attempt `retries` on, when `left` more are allowed after
it and `h` is the record so far: `n` attempts fail in a way that may pass, and one more is the
last. -/
structure Continues (s : Script ε α) (p : Backoff) (left retries : Nat) (h : List Moment) (n : Nat)
    (o : Outcome (List Moment) ε α) : Prop where
  le_left : n ≤ left
  ends : n = left ∨ s.Settled (retries + n)
  state : o.state =
    h ++ (List.range' retries n).flatMap (fun i => [.call, .pause (p.delay i)]) ++ [.call]
  result : o.result = s.outcomes (retries + n)
  delays : o.delays = (List.range' retries n).map p.delay
  announced : ∀ i < n, ∃ e, s.outcomes (retries + i) = .error e ∧ s.retryable e = true ∧
    o.log[i]? = some (.retrying s.name (retries + i) (p.delay (retries + i)) (s.shown e))
  closed : o.log.drop n = s.closing (retries + n)

/-- The last attempt, on its own. -/
theorem continues_zero {result : Except ε α} {log : List Event}
    (hresult : result = s.outcomes retries) (hend : 0 = left ∨ s.Settled retries)
    (hlog : log = s.closing retries) :
    s.Continues p left retries h 0 ⟨result, [], log, h ++ [.call]⟩ where
  le_left := Nat.zero_le left
  ends := hend
  state := by simp
  result := hresult
  delays := rfl
  announced i hi := absurd hi (Nat.not_lt_zero i)
  closed := hlog

/-- One more attempt that fails in a way that may pass, and the pause behind it. -/
theorem Continues.succ {n : Nat} {o : Outcome (List Moment) ε α}
    (ho : s.Continues p left (retries + 1) (h ++ [.call] ++ [.pause (p.delay retries)]) n o)
    (he : s.outcomes retries = .error e) (hretryable : s.retryable e = true) :
    s.Continues p (left + 1) retries h (n + 1)
      ⟨o.result, p.delay retries :: o.delays,
        .retrying s.name retries (p.delay retries) (s.shown e) :: o.log, o.state⟩ where
  le_left := Nat.succ_le_succ ho.le_left
  ends := by
    rw [← Nat.add_assoc, Nat.add_right_comm]
    exact ho.ends.imp_left (congrArg (· + 1))
  state := by
    rw [ho.state, List.range'_succ]
    simp
  result := by rw [ho.result, Nat.add_right_comm, Nat.add_assoc]
  delays := by rw [ho.delays, List.range'_succ, List.map_cons]
  announced i hi := by
    cases i with
    | zero => exact ⟨e, he, hretryable, rfl⟩
    | succ i =>
      rw [← Nat.add_assoc, Nat.add_right_comm]
      exact ho.announced i (Nat.lt_of_succ_lt_succ hi)
  closed := by rw [List.drop_succ_cons, ho.closed, Nat.add_right_comm, Nat.add_assoc]

/-- An attempt comes to what the script says, writes nothing, and is recorded as a call. -/
theorem outcomes_of_attempt {result : Except ε α} {log : List Event} {h' : List Moment}
    (hattempt : s.operation.attempt h = (result, log, h')) (hcalls : h.count .call = retries) :
    s.outcomes retries = result ∧ log = [] ∧ h' = h ++ [.call] := by
  rw [operation] at hattempt
  dsimp only at hattempt
  rw [hcalls] at hattempt
  cases hattempt
  exact ⟨rfl, rfl, rfl⟩

/-- **A script is followed** from any attempt on. The record has as many calls as there were
attempts. -/
theorem continues_attempts (s : Script ε α) (p : Backoff) (left retries : Nat) (h : List Moment)
    (hcalls : h.count .call = retries) :
    ∃ n, s.Continues p left retries h n (attempts p s.operation left retries h) := by
  refine attempts_induction
    (P := fun left retries h o => h.count .call = retries → ∃ n, s.Continues p left retries h n o)
    ?_ ?_ ?_ ?_ left retries h hcalls
  · intro left retries h x log h' hattempt hcalls
    obtain ⟨houtcome, rfl, rfl⟩ := outcomes_of_attempt hattempt hcalls
    refine ⟨0, continues_zero houtcome.symm (.inr fun e he => ?_) ?_⟩
    · cases houtcome.symm.trans he
    · rw [closing, houtcome]
      rfl
  · intro left retries h e log h' hattempt he hcalls
    change s.retryable e = false at he
    obtain ⟨houtcome, rfl, rfl⟩ := outcomes_of_attempt hattempt hcalls
    refine ⟨0, continues_zero houtcome.symm (.inr fun e' he' => ?_) ?_⟩
    · obtain rfl := Except.error.inj (houtcome.symm.trans he')
      exact he
    · rw [closing, houtcome]
      simp only [he]
      rfl
  · intro retries h e log h' hattempt he hcalls
    change s.retryable e = true at he
    obtain ⟨houtcome, rfl, rfl⟩ := outcomes_of_attempt hattempt hcalls
    refine ⟨0, continues_zero houtcome.symm (.inl rfl) ?_⟩
    rw [closing, houtcome]
    simp only [he]
    rfl
  · intro left retries h e log h' hattempt he o ih hcalls
    obtain ⟨houtcome, rfl, rfl⟩ := outcomes_of_attempt hattempt hcalls
    obtain ⟨n, hn⟩ := ih (by simp [operation, hcalls])
    exact ⟨n + 1, hn.succ houtcome he⟩

/-! ### The journal -/

/-- A failure for good or for the last time adds one warning. -/
theorem closing_of_error (houtcome : s.outcomes k = .error e) :
    ∃ event, s.closing k = [event] ∧ event.level = .warn := by
  rw [closing, houtcome]
  dsimp only
  split
  · exact ⟨_, rfl, rfl⟩
  · exact ⟨_, rfl, rfl⟩

/-- **How urgent the last events are**: a failure is a warning, and a success after retries is
worth knowing. -/
theorem levels_closing (s : Script ε α) (k : Nat) :
    (s.closing k).countP (·.level == .warn) = (if (s.outcomes k).isOk then 0 else 1) ∧
      ((∃ event ∈ s.closing k, event.level = .info) ↔ (s.outcomes k).isOk = true ∧ 0 < k) := by
  cases houtcome : s.outcomes k with
  | ok x =>
    rw [closing, houtcome]
    rcases Nat.eq_zero_or_pos k with rfl | hk
    · exact ⟨rfl, iff_of_false (by simp) (by simp)⟩
    · simp only [if_neg (Nat.ne_of_gt hk)]
      exact ⟨rfl, iff_of_true ⟨_, List.mem_singleton_self _, rfl⟩ ⟨rfl, hk⟩⟩
  | error e =>
    obtain ⟨event, hclosing, hlevel⟩ := closing_of_error houtcome
    rw [hclosing]
    refine ⟨?_, iff_of_false ?_ ?_⟩
    · rw [List.countP_singleton, hlevel]
      rfl
    · rintro ⟨event', hmem, hinfo⟩
      obtain rfl := List.mem_singleton.mp hmem
      cases hlevel.symm.trans hinfo
    · rintro ⟨⟨⟩, -⟩

/-- **What can be seen of a script that is followed** to the attempt with the number `k`. -/
structure Follows (s : Script ε α) (p : Backoff) (k : Nat) (o : Outcome (List Moment) ε α) :
    Prop where
  /-- There is one pause between two calls that follow each other, and nowhere else. -/
  state : o.state = (List.range k).flatMap (fun i => [.call, .pause (p.delay i)]) ++ [.call]
  attempts : o.attempts = k + 1
  delays : o.delays = (List.range k).map p.delay
  result : o.result = s.outcomes k
  /-- Each pause is announced with the number of retries before it. -/
  announced : ∀ i < k, ∃ e, s.outcomes i = .error e ∧ s.retryable e = true ∧
    o.log[i]? = some (.retrying s.name i (p.delay i) (s.shown e))
  closed : o.log.drop k = s.closing k
  warnings : o.log.countP (·.level == .warn) = k + if o.result.isOk then 0 else 1
  recovered : (∃ event ∈ o.log, event.level = .info) ↔ o.result.isOk = true ∧ 0 < k

theorem Continues.follows {o : Outcome (List Moment) ε α}
    (ho : s.Continues p left 0 [] k o) : s.Follows p k o := by
  have hannounced : ∀ i < k, ∃ e, s.outcomes i = .error e ∧ s.retryable e = true ∧
      o.log[i]? = some (.retrying s.name i (p.delay i) (s.shown e)) := by
    intro i hi
    have h := ho.announced i hi
    rwa [Nat.zero_add] at h
  have hclosed : o.log.drop k = s.closing k := by rw [ho.closed, Nat.zero_add]
  have hresult : o.result = s.outcomes k := by rw [ho.result, Nat.zero_add]
  have hdelays : o.delays = (List.range k).map p.delay := by
    rw [ho.delays, List.range_eq_range']
  -- the events before those of the last attempt are the announcements
  have hlength : (o.log.take k).length = k := by
    refine List.length_take_of_le (Nat.le_of_not_lt fun hlt => ?_)
    obtain ⟨e, -, -, hlog⟩ := hannounced o.log.length hlt
    rw [List.getElem?_eq_none (Nat.le_refl _)] at hlog
    cases hlog
  have hwarn : ∀ event ∈ o.log.take k, event.level = .warn := by
    intro event hevent
    obtain ⟨i, hi⟩ := List.mem_iff_getElem?.mp hevent
    have hik : i < k := hlength ▸ (List.getElem?_eq_some_iff.mp hi).1
    obtain ⟨e, -, -, hlog⟩ := hannounced i hik
    rw [List.getElem?_take_of_lt hik, hlog] at hi
    exact Option.some.inj hi ▸ rfl
  obtain ⟨hcount, hinfo⟩ := s.levels_closing k
  refine ⟨?_, ?_, hdelays, hresult, hannounced, hclosed, ?_, ?_⟩
  · rw [ho.state, List.nil_append, List.range_eq_range']
  · rw [Outcome.attempts, hdelays, List.length_map, List.length_range]
  · have hall : (o.log.take k).countP (·.level == .warn) = k := by
      rw [List.countP_eq_length.mpr fun event hevent => beq_iff_eq.mpr (hwarn event hevent),
        hlength]
    rw [← List.take_append_drop k o.log, List.countP_append, hall, hclosed, hcount, hresult]
  · rw [hresult, ← hinfo, ← hclosed]
    refine exists_congr fun event => and_congr_left fun hlevel =>
      ⟨fun hevent => ?_, List.mem_of_mem_drop⟩
    rw [← List.take_append_drop k o.log] at hevent
    refine (List.mem_append.mp hevent).resolve_left fun hmem => ?_
    cases (hwarn event hmem).symm.trans hlevel

/-- **A script is followed up to the first attempt that is settled**, as far as the policy
allows. -/
theorem run_follows (s : Script ε α) (p : Backoff) :
    ∃ k : Nat, (k : ℕ∞) = min s.firstSettled p.maxRetries ∧
      s.Follows p k (run p s.operation []) := by
  obtain ⟨k, hk⟩ := s.continues_attempts p p.maxRetries 0 [] rfl
  refine ⟨k, eq_min_firstSettled (fun i hi hsettled => ?_) hk.le_left ?_, hk.follows⟩
  · obtain ⟨e, he, hretryable, -⟩ := hk.follows.announced i hi
    cases (hsettled e he).symm.trans hretryable
  · have hends := hk.ends
    rwa [Nat.zero_add] at hends

end Script

end Rulebook.Retry
