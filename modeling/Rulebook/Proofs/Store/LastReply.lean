import Mathlib.Data.List.Induction
import Rulebook.Proofs.Store.Desk

/-!
# The last reply wins

Operations overlap, and their replies need not come in the order in which they were
started. What the collection says of a rule in the end is decided by the order of the
*replies*, and by few of them:

* whether the rule is there, by the last reply that settles it – a list, or the
  creation or deletion of that rule (`Rulebook.Confirmed.decides`);
* its text and its status, by the reply that brought it in, and by the last change of
  either that was confirmed after it.

The collection is a fold over what the answers confirm (`Rulebook.Desk.rules_after`),
and what it says of one rule is a fold over the answers as well
(`Rulebook.Desk.content?_after`). So the proof looks at one rule, cuts the history at
the last answer that settles it, and follows what comes after, where the two fields
evolve separately (`Rulebook.Heard.foldl_revise_of_not_decides`).
-/

namespace Rulebook

open Rule

/-- **The last thing that is kept of a list** is the last one that is kept of the rest, and if
there is none there, what is kept of the head. -/
theorem getLast?_filterMap_cons {α β : Type} (f : α → Option β) (a : α) (l : List α) :
    ((a :: l).filterMap f).getLast? = (l.filterMap f).getLast?.or (f a) := by
  rw [List.filterMap_cons]
  cases f a with
  | none => rw [Option.or_none]
  | some b => rw [List.getLast?_cons, Option.or_some]

namespace Heard

/-- Whether an answer settles if a rule is in the collection: a list does, and the
answer to the creation or the deletion of that rule. -/
def decides (x : RuleId) : Heard → Bool
  | ⟨.load, .rules _⟩ => true
  | ⟨.create _, .rule r⟩ => r.id == x
  | ⟨.delete y, .done⟩ => y == x
  | _ => false

/-- The rule that an answer brings in under an identifier, which for a list is the
first one that has it. -/
def brings? (x : RuleId) : Heard → Option Rule
  | ⟨.load, .rules listed⟩ => find? x listed
  | ⟨.create _, .rule r⟩ => if r.id = x then some r else none
  | _ => none

/-- The text that was submitted for a rule by an update that succeeded. -/
def textOf? (x : RuleId) : Heard → Option String
  | ⟨.update y text, .done⟩ => if y = x then some text else none
  | _ => none

/-- The status that the service answered for a rule. -/
def statusOf? (x : RuleId) : Heard → Option Bool
  | ⟨.toggle y, .status enabled⟩ => if y = x then some enabled else none
  | _ => none

/-- What is said of a rule after an answer, given what was said of it before. -/
def revise (x : RuleId) (before : Option Content) (e : Heard) : Option Content :=
  match e.confirmed? with
  | none => before
  | some c => c.revise x before

variable {x : RuleId} {e : Heard} {es : List Heard} {before : Option Content}

/-- An answer that settles whether a rule is there leaves nothing of what was said of it
before. -/
theorem revise_of_decides (h : e.decides x = true) :
    e.revise x before = (e.brings? x).map content := by
  obtain ⟨r, a⟩ := e
  cases r with
  | load =>
    cases a with
    | rules listed => rfl
    | _ => cases h
  | create text =>
    cases a with
    | rule q =>
      have hq : q.id = x := beq_iff_eq.mp h
      rw [brings?, if_pos hq]
      exact if_pos hq
    | _ => cases h
  | delete y =>
    cases a with
    | done => exact if_pos (beq_iff_eq.mp h)
    | _ => cases h
  | _ => cases h

/-- Every other answer changes a field of a rule that is there, or nothing. -/
theorem revise_of_not_decides (h : e.decides x = false) :
    e.revise x before =
      before.map fun v => ⟨(e.textOf? x).getD v.text, (e.statusOf? x).getD v.enabled⟩ := by
  have hsame : before = before.map fun v => ⟨v.text, v.enabled⟩ := Option.map_id'.symm
  obtain ⟨r, a⟩ := e
  cases r with
  | load =>
    cases a with
    | rules listed => cases h
    | _ => exact hsame
  | create text =>
    cases a with
    | rule q => exact (if_neg (beq_eq_false_iff_ne.mp h)).trans hsame
    | _ => exact hsame
  | delete y =>
    cases a with
    | done => exact (if_neg (beq_eq_false_iff_ne.mp h)).trans hsame
    | _ => exact hsame
  | toggle y =>
    cases a with
    | status enabled =>
      change (if y = x then _ else before) = _
      rw [statusOf?]
      by_cases hy : y = x
      · rw [if_pos hy, if_pos hy]
        rfl
      · rw [if_neg hy, if_neg hy]
        exact hsame
    | _ => exact hsame
  | update y text =>
    cases a with
    | done =>
      change (if y = x then _ else before) = _
      rw [textOf?]
      by_cases hy : y = x
      · rw [if_pos hy, if_pos hy]
        rfl
      · rw [if_neg hy, if_neg hy]
        exact hsame
    | _ => exact hsame
  | combine ids =>
    cases a with
    | _ => exact hsame

/-- **After the last answer that settles whether a rule is there, its fields evolve
separately**, each to its last value. -/
theorem foldl_revise_of_not_decides (h : ∀ e ∈ es, e.decides x = false) :
    es.foldl (revise x) before =
      before.map fun v =>
        ⟨(es.filterMap (textOf? x)).getLast?.getD v.text,
          (es.filterMap (statusOf? x)).getLast?.getD v.enabled⟩ := by
  induction es generalizing before with
  | nil => exact Option.map_id'.symm
  | cons e es ih =>
    rw [List.forall_mem_cons] at h
    rw [List.foldl_cons, ih h.2, revise_of_not_decides h.1, Option.map_map]
    simp only [getLast?_filterMap_cons, Option.getD_or]
    rfl

/-- **A history cut at the last answer that settles whether a rule is there.** -/
theorem foldl_revise_split {front rest : List Heard} (he : e.decides x = true)
    (h : ∀ e' ∈ rest, e'.decides x = false) :
    (front ++ e :: rest).foldl (revise x) before =
      (e.brings? x).map fun r =>
        ⟨(rest.filterMap (textOf? x)).getLast?.getD r.text,
          (rest.filterMap (statusOf? x)).getLast?.getD r.enabled⟩ := by
  rw [List.foldl_append, List.foldl_cons, revise_of_decides he, foldl_revise_of_not_decides h,
    Option.map_map]
  rfl

theorem decides_of_brings? (h : (e.brings? x).isSome) : e.decides x = true := by
  obtain ⟨r, a⟩ := e
  cases r with
  | load =>
    cases a with
    | rules listed => rfl
    | _ => cases h
  | create text =>
    cases a with
    | rule q =>
      rw [brings?] at h
      by_cases hq : q.id = x
      · exact beq_iff_eq.mpr hq
      · rw [if_neg hq] at h
        cases h
    | _ => cases h
  | _ => cases h

/-- A history in which nothing settles whether a rule is there, or its cut at the last
answer that does. -/
theorem exists_last_decides (x : RuleId) (es : List Heard) :
    ((es.filter (·.decides x)).getLast? = none ∧ ∀ e ∈ es, e.decides x = false) ∨
      ∃ front e rest, es = front ++ e :: rest ∧ (es.filter (·.decides x)).getLast? = some e ∧
        e.decides x = true ∧ ∀ e' ∈ rest, e'.decides x = false := by
  induction es using List.reverseRecOn with
  | nil => exact Or.inl ⟨rfl, fun e he => by cases he⟩
  | append_singleton es e ih =>
    rw [List.filter_append, List.filter_singleton]
    cases he : e.decides x with
    | true =>
      refine Or.inr ⟨es, e, [], rfl, ?_, he, fun e' he' => by cases he'⟩
      rw [cond_true, List.getLast?_append, List.getLast?_singleton, Option.some_or]
    | false =>
      rw [cond_false, List.append_nil]
      rcases ih with ⟨hnone, hall⟩ | ⟨front, d, rest, hes, hlast, hd, hrest⟩
      · refine Or.inl ⟨hnone, List.forall_mem_append.mpr ⟨hall, ?_⟩⟩
        rw [List.forall_mem_singleton]
        exact he
      · refine Or.inr ⟨front, d, rest ++ [e], ?_, hlast, hd, ?_⟩
        · rw [hes, List.append_assoc, List.cons_append]
        · rw [List.forall_mem_append, List.forall_mem_singleton]
          exact ⟨hrest, he⟩

end Heard

namespace Desk

open Heard

variable {x : RuleId}

/-- **What is said of one rule is what the answers make of it.** -/
theorem content?_after (d : Desk) (turns : List Turn) :
    content? x (d.after turns).store.rules =
      (d.heard turns).foldl (revise x) (content? x d.store.rules) := by
  rw [rules_after, confirmed, List.foldl_filterMap]
  generalize d.store.rules = rules
  induction d.heard turns generalizing rules with
  | nil => rfl
  | cons e es ih =>
    rw [List.foldl_cons, List.foldl_cons, ih, revise]
    cases e.confirmed? with
    | none => rfl
    | some c => rw [Confirmed.content?_settle]

/-- **The last reply wins, rule by rule and field by field.** After any history of a
store, guarded or not, let `es` be the answers that have come in, in the order in which
they did.

* A rule is in the collection exactly when the last answer that settles whether it is
  there brings it in.
* Then its text is that of the answer that brought it in, or the last one submitted by
  an update that succeeded after that, and its status is likewise that of the answer
  that brought it in or the last one answered after it. -/
theorem last_reply_wins (guarded : Bool) (turns : List Turn) (x : RuleId) :
    let s := ((empty guarded).after turns).store
    let es := (empty guarded).heard turns
    (s.contains x = true ↔
        ∃ e, (es.filter (·.decides x)).getLast? = some e ∧ (e.brings? x).isSome) ∧
      ∀ front e rest r, es = front ++ e :: rest → (∀ e' ∈ rest, e'.decides x = false) →
        e.brings? x = some r →
        s.get? x = some ⟨x, (rest.filterMap (textOf? x)).getLast?.getD r.text,
          (rest.filterMap (statusOf? x)).getLast?.getD r.enabled⟩ := by
  intro s es
  have hfold : content? x s.rules = es.foldl (revise x) none := content?_after (empty guarded) turns
  constructor
  · rw [Store.contains, listed_iff, ← content?_isSome_iff, hfold]
    rcases exists_last_decides x es with ⟨hnone, hall⟩ | ⟨front, e, rest, hes, hlast, he, hrest⟩
    · rw [foldl_revise_of_not_decides hall, hnone]
      constructor
      · intro h
        cases h
      · rintro ⟨e, he, -⟩
        cases he
    · rw [hlast, hes, foldl_revise_split he hrest, Option.isSome_map]
      constructor
      · exact fun h => ⟨e, rfl, h⟩
      · rintro ⟨e', he', h⟩
        rw [Option.some.inj he']
        exact h
  · intro front e rest r hes hrest hr
    have he : e.decides x = true := decides_of_brings? (by rw [hr]; rfl)
    refine find?_eq_some_iff.mpr ⟨rfl, ?_⟩
    rw [hfold, hes, foldl_revise_split he hrest, hr]
    rfl

end Desk

end Rulebook
