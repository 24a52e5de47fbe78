import Rulebook.Proofs.Store.Exclusion

/-!
# What an operation leaves alone

Between them the two steps of an operation touch a store in two ways: the start makes an
entry in the registry of a guarded store, which the end takes out again, and the end
settles what the service has confirmed, if it confirmed anything. This file says how
little else there is.

* An operation is refused for one of four reasons (`Rulebook.Refusal`), all of which are
  found out before the service is asked.
* What a store shows – its rules, its snapshot and how often it was published – is the
  same after a start, and after an end without a confirmation (`Rulebook.Store.Alike`).
* The entry that a start makes is the one that the end takes out
  (`Rulebook.Store.abandon_of_enrol`). So an operation that is carried out in one go
  leaves the very same store behind, but for what is confirmed
  (`Rulebook.Store.perform_cases`).
-/

namespace Rulebook

open InFlight

/-- **Why an operation is refused** before the service is asked: its text is blank, it
names no rule, it names one that is not there, or the rule is busy. -/
inductive Refusal : Failure → Prop
  | emptyRuleText : Refusal .emptyRuleText
  | emptySelection : Refusal .emptySelection
  | ruleNotFound (id : RuleId) : Refusal (.ruleNotFound id)
  | busy (id : RuleId) (operation : Operation) : Refusal (.busy id operation)

namespace Store

/-- Two stores that show the same: the same rules and the same snapshot, published as
often. They may differ in their registry. -/
structure Alike (s s' : Store) : Prop where
  rules : s'.rules = s.rules
  snapshot : s'.snapshot = s.snapshot
  published : s'.published = s.published

variable {s s' : Store} {r : Request} {failure : Failure}

/-- **A store that has published rules**: they are its collection and its snapshot, and it was
published once more. Nothing else has changed. -/
structure Publishes (s : Store) (shown : List Rule) (s' : Store) : Prop where
  rules : s'.rules = shown
  snapshot : s'.snapshot = shown
  published : s'.published = s.published + 1
  guard? : s'.guard? = s.guard?

theorem publishes_publish (s : Store) (rules : List Rule) : s.Publishes rules (s.publish rules) :=
  ⟨rfl, rfl, rfl, rfl⟩

/-- There is one store only that has published the rules. -/
theorem Publishes.eq_publish {rules : List Rule} (h : s.Publishes rules s') :
    s' = s.publish rules := by
  cases s'
  exact Store.mk.injEq .. ▸ ⟨h.rules, h.snapshot, h.published, h.guard?⟩

theorem Alike.refl (s : Store) : s.Alike s := ⟨rfl, rfl, rfl⟩

theorem Alike.trans {s'' : Store} (h : s.Alike s') (h' : s'.Alike s'') : s.Alike s'' :=
  ⟨h'.rules.trans h.rules, h'.snapshot.trans h.snapshot, h'.published.trans h.published⟩

/-! ### Refusals -/

theorem refusal_of_check (h : s.check r = .error failure) : Refusal failure := by
  rcases check_error_cases h with rfl | rfl | ⟨x, rfl⟩
  · exact .emptyRuleText
  · exact .emptySelection
  · exact .ruleNotFound x

/-- The registry refuses nobody but who is busy. -/
theorem busy_of_enrol (h : s.enrol r = .error failure) : ∃ id op, failure = .busy id op := by
  rcases hg : s.guard? with _ | g
  · rw [enrol_of_unguarded hg] at h
    cases h
  · rcases ht : r.target? with _ | id
    · rw [enrol_of_untargeted ht] at h
      cases h
    · rw [enrol_of_guarded hg ht] at h
      cases ho : g.operationOn? id with
      | none =>
        rw [Registry.acquire_of_free ho] at h
        cases h
      | some op =>
        rw [Registry.acquire_of_busy ho] at h
        cases h
        exact ⟨id, op, rfl⟩

theorem refusal_of_enrol (h : s.enrol r = .error failure) : Refusal failure := by
  obtain ⟨id, op, rfl⟩ := busy_of_enrol h
  exact .busy id op

theorem refusal_of_start (h : (s.start r).result = .error failure) : Refusal failure := by
  cases hc : s.check r with
  | error failure' =>
    rw [start_of_check_error hc] at h
    cases h
    exact refusal_of_check hc
  | ok u =>
    cases he : s.enrol r with
    | error failure' =>
      rw [start_of_enrol_error hc he] at h
      cases h
      exact refusal_of_enrol he
    | ok s' =>
      rw [start_of_enrol hc he] at h
      cases h

/-! ### The registry -/

theorem abandon_of_unguarded (h : s.guard? = none) : s.abandon r = s := by
  rw [abandon, h]

/-- **What it means to be noted**: in a guarded store an operation on a rule that was not
busy has its entry, and in all other cases nothing was done. -/
theorem enrol_cases (h : s.enrol r = .ok s') :
    ((s.guard? = none ∨ r.target? = none) ∧ s' = s) ∨
      ∃ g g' id, s.guard? = some g ∧ r.target? = some id ∧
        g.acquire id r.operation = .ok g' ∧ s' = { s with guard? := some g' } := by
  rcases hg : s.guard? with _ | g
  · rw [enrol_of_unguarded hg] at h
    exact Or.inl ⟨Or.inl rfl, (Except.ok.inj h).symm⟩
  · rcases ht : r.target? with _ | id
    · rw [enrol_of_untargeted ht] at h
      exact Or.inl ⟨Or.inr rfl, (Except.ok.inj h).symm⟩
    · rw [enrol_of_guarded hg ht] at h
      cases ha : g.acquire id r.operation with
      | error failure => rw [ha] at h; cases h
      | ok g' =>
        rw [ha] at h
        exact Or.inr ⟨g, g', id, rfl, rfl, ha, (Except.ok.inj h).symm⟩

theorem alike_of_enrol (h : s.enrol r = .ok s') : s.Alike s' := by
  rcases enrol_cases h with ⟨-, rfl⟩ | ⟨g, g', id, hg, ht, ha, rfl⟩
  · exact .refl s'
  · exact ⟨rfl, rfl, rfl⟩

theorem alike_abandon (s : Store) (r : Request) : s.Alike (s.abandon r) := by
  rw [abandon]
  split
  · exact ⟨rfl, rfl, rfl⟩
  · exact .refl s

/-- **The end of an operation takes back what its start noted.** -/
theorem abandon_of_enrol (h : s.enrol r = .ok s') : s'.abandon r = s := by
  rcases enrol_cases h with ⟨hg | ht, rfl⟩ | ⟨g, g', id, hg, ht, ha, rfl⟩
  · exact abandon_of_unguarded hg
  · exact abandon_of_untargeted ht
  · rw [abandon_of_guarded rfl ht, Registry.release_of_acquire ha, ← hg]

/-! ### A whole operation -/

variable {σ : Type}

/-- An operation that asks the service and whose call goes wrong leaves the very same
store. -/
theorem perform_of_lapse {svc : Service σ} {w : σ} {lapse : CallFailure} (hc : s.check r = .ok ())
    (he : s.enrol r = .ok s') (hr : (svc.ask r.call w).1.bind r.confirm = .error lapse) :
    s.perform svc r w =
      (⟨s, .error (.call lapse), [.callFailed lapse, .finished .store]⟩,
        (svc.ask r.call w).2) := by
  -- the entry that the start has made is gone again
  simp only [perform, start_of_enrol hc he, finish_of_error hr, abandon_of_enrol he,
    List.nil_append, List.singleton_append]

/-- An operation that asks the service and is confirmed settles what was confirmed, and does
nothing else. -/
theorem perform_of_confirmed {svc : Service σ} {w : σ} {c : Confirmed} (hc : s.check r = .ok ())
    (he : s.enrol r = .ok s') (hr : (svc.ask r.call w).1.bind r.confirm = .ok c) :
    s.perform svc r w =
      (⟨s.apply c, .ok c, c.log s.rules ++ [.finished .store]⟩, (svc.ask r.call w).2) := by
  simp only [perform, start_of_enrol hc he, finish_of_ok hr, abandon_of_enrol he,
    List.nil_append, rules_of_enrol he]

/-- **An operation that is carried out in one go** is refused, and the service is not
asked; or the service is asked once, and the operation fails or is confirmed. Only what is
confirmed makes a difference to the store. -/
theorem perform_cases (svc : Service σ) (s : Store) (r : Request) (w : σ) :
    (∃ failure, Refusal failure ∧
        s.perform svc r w =
          (⟨s, .error failure, refusalLog failure ++ [.finished .store]⟩, w)) ∨
      s.check r = .ok () ∧
        ((∃ lapse, (svc.ask r.call w).1.bind r.confirm = .error lapse ∧
            s.perform svc r w =
              (⟨s, .error (.call lapse), [.callFailed lapse, .finished .store]⟩,
                (svc.ask r.call w).2)) ∨
          ∃ c, (svc.ask r.call w).1.bind r.confirm = .ok c ∧
            s.perform svc r w =
              (⟨s.apply c, .ok c, c.log s.rules ++ [.finished .store]⟩,
                (svc.ask r.call w).2)) := by
  rcases s.start_cases r with ⟨failure, hs⟩ | ⟨s', hc, he, hs⟩
  · refine Or.inl ⟨failure, refusal_of_start (r := r) (by rw [hs]), ?_⟩
    rw [perform, hs]
  · refine Or.inr ⟨hc, ?_⟩
    cases hr : (svc.ask r.call w).1.bind r.confirm with
    | error lapse => exact Or.inl ⟨lapse, rfl, perform_of_lapse hc he hr⟩
    | ok c => exact Or.inr ⟨c, rfl, perform_of_confirmed hc he hr⟩

end Store

end Rulebook
