import Mathlib.Data.List.Induction
import Mathlib.Data.Finset.Card
import Rulebook.Proofs.Rule.Collection

/-!
# First occurrences

A list of rules from outside may have an identifier twice, and is cut down before it becomes a
collection. It is cut from left to right, each rule against those that were kept before it. What
is kept can be said without that order (`Rulebook.Rule.foremost`): the rule at a place is kept if
no place before it has the same identifier, and the places keep their order
(`Rulebook.Rule.firsts_eq_foremost`).

What is dropped is found in a way of its own, against all the identifiers that have gone by, and
it is what is at the other places (`Rulebook.Rule.repeats_eq_repeated`). So each rule of the list
is kept or dropped, and none is both (`Rulebook.Rule.length_repeats_add`).
-/

namespace Rulebook.Rule

variable {r : Rule} {rules : List Rule} {test : List RuleId → Rule → Bool}

/-! ### A rule against those before it -/

/-- The rules of a list that pass a test, each with the identifiers before it, in the order of the
list. -/
def chosen (test : List RuleId → Rule → Bool) (rules : List Rule) : List Rule :=
  (List.range rules.length).filterMap fun i => rules[i]?.filter (test (ids (rules.take i)))

/-- What is chosen of a list does not depend on what comes after it. -/
theorem chosen_concat :
    chosen test (rules ++ [r]) = chosen test rules ++ if test (ids rules) r then [r] else [] := by
  have hbefore : ∀ i ∈ List.range rules.length,
      (rules ++ [r])[i]?.filter (test (ids ((rules ++ [r]).take i))) =
        rules[i]?.filter (test (ids (rules.take i))) := by
    intro i hi
    have hlt : i < rules.length := List.mem_range.mp hi
    rw [List.getElem?_append_left hlt, List.take_append_of_le_length (Nat.le_of_lt hlt)]
  have hlast : (rules ++ [r])[rules.length]?.filter
      (test (ids ((rules ++ [r]).take rules.length))) =
        if test (ids rules) r then some r else none := by
    rw [List.getElem?_concat_length, List.take_left]
    rfl
  rw [chosen, List.length_append, List.length_singleton, List.range_succ, List.filterMap_append,
    List.filterMap_congr hbefore, ← chosen]
  refine congrArg (chosen test rules ++ ·) ?_
  by_cases hr : test (ids rules) r = true
  · rw [if_pos hr] at hlast ⊢
    exact List.filterMap_cons_some hlast
  · rw [if_neg hr] at hlast ⊢
    exact List.filterMap_cons_none hlast

/-- **What is chosen and what is not** make up the list. -/
theorem chosen_append_perm (test : List RuleId → Rule → Bool) (rules : List Rule) :
    (chosen test rules ++ chosen (fun before r => !test before r) rules).Perm rules := by
  induction rules using List.reverseRecOn with
  | nil => exact .refl _
  | append_singleton rules r ih =>
    rw [chosen_concat, chosen_concat]
    cases test (ids rules) r with
    | true =>
      -- the rule has gone to the end of the first part
      rw [if_pos rfl, if_neg (by simp), List.append_nil, List.append_assoc]
      refine .trans ?_ (ih.append_right [r])
      rw [List.append_assoc]
      exact List.perm_append_comm.append_left _
    | false =>
      rw [if_neg Bool.false_ne_true, if_pos Bool.not_false, List.append_nil, ← List.append_assoc]
      exact ih.append_right [r]

/-! ### What is kept -/

/-- The rule at a place of a list, if its identifier stands at no place before. -/
def foremostAt (rules : List Rule) (i : Nat) : Option Rule :=
  rules[i]?.filter (·.id ∉ ids (rules.take i))

/-- **The rules whose identifier stands at no place before them**, in the order of the list. -/
def foremost (rules : List Rule) : List Rule :=
  (List.range rules.length).filterMap (foremostAt rules)

theorem foremost_eq_chosen : foremost rules = chosen (fun before r => r.id ∉ before) rules := rfl

theorem foremost_concat :
    foremost (rules ++ [r]) = foremost rules ++ if r.id ∈ ids rules then [] else [r] := by
  rw [foremost_eq_chosen, foremost_eq_chosen, chosen_concat]
  by_cases hr : r.id ∈ ids rules
  · rw [if_pos hr, if_neg (by simpa using hr)]
  · rw [if_neg hr, if_pos (by simpa using hr)]

/-- **A list that is cut down** is left with the first rule of each identifier. -/
theorem firsts_eq_foremost (rules : List Rule) : firsts rules = foremost rules := by
  induction rules using List.reverseRecOn with
  | nil => rfl
  | append_singleton rules r ih =>
    have hids : listed r.id (firsts rules) = true ↔ r.id ∈ ids rules := by
      rw [listed_iff, ← content?_isSome_iff, content?_firsts, content?_isSome_iff]
    rw [foremost_concat, ← ih, firsts, List.foldl_concat, ← firsts]
    by_cases hr : r.id ∈ ids rules
    · rw [if_pos (hids.mpr hr), if_pos hr, List.append_nil]
    · rw [if_neg (fun h => hr (hids.mp h)), if_neg hr]

/-- Of each identifier one rule is left, so there are as many as identifiers. -/
theorem length_firsts : (firsts rules).length = (ids rules).toFinset.card := by
  have hids : (ids (firsts rules)).toFinset = (ids rules).toFinset := by
    ext x
    rw [List.mem_toFinset, List.mem_toFinset, ← content?_isSome_iff, content?_firsts,
      content?_isSome_iff]
  rw [← hids, List.toFinset_card_of_nodup nodup_ids_firsts, ids, List.length_map]

/-! ### What is dropped -/

/-- **The rules whose identifier stands at a place before them**, in the order of the list. -/
def repeated (rules : List Rule) : List Rule := chosen (fun before r => r.id ∈ before) rules

theorem repeatsGo_concat (seen : List RuleId) (rules : List Rule) (r : Rule) :
    repeats.go seen (rules ++ [r]) =
      repeats.go seen rules ++ if r.id ∈ seen ∨ r.id ∈ ids rules then [r] else [] := by
  induction rules generalizing seen with
  | nil => simp [repeats.go]
  | cons q rules ih =>
    rw [List.cons_append, repeats.go, repeats.go]
    by_cases hq : seen.contains q.id = true
    · -- the identifier of `q` is known, so that it has gone by adds nothing
      have hmem : q.id ∈ seen := List.contains_iff_mem.mp hq
      have hiff : r.id ∈ seen ∨ r.id ∈ ids rules ↔ r.id ∈ seen ∨ r.id ∈ ids (q :: rules) := by
        have himp : r.id = q.id → r.id ∈ seen := fun h => h ▸ hmem
        rw [ids_cons, List.mem_cons, ← or_assoc, or_iff_left_of_imp himp]
      rw [if_pos hq, if_pos hq, ih, List.cons_append]
      exact congrArg (fun l => q :: (repeats.go seen rules ++ l)) (if_congr hiff rfl rfl)
    · have hiff : r.id ∈ q.id :: seen ∨ r.id ∈ ids rules ↔
          r.id ∈ seen ∨ r.id ∈ ids (q :: rules) := by
        rw [ids_cons, List.mem_cons, List.mem_cons, or_assoc, or_left_comm]
      rw [if_neg hq, if_neg hq, ih]
      exact congrArg (repeats.go (q.id :: seen) rules ++ ·) (if_congr hiff rfl rfl)

/-- **What is dropped** is what is at the other places. -/
theorem repeats_eq_repeated (rules : List Rule) : repeats rules = repeated rules := by
  induction rules using List.reverseRecOn with
  | nil => rfl
  | append_singleton rules r ih =>
    have hconcat := repeatsGo_concat [] rules r
    rw [← repeats, ← repeats, ih] at hconcat
    rw [hconcat, repeated, repeated, chosen_concat]
    simp

/-- Each rule of a list is kept or dropped. -/
theorem length_repeats_add (rules : List Rule) :
    (repeats rules).length + (firsts rules).length = rules.length := by
  have hperm := (chosen_append_perm (fun before r => r.id ∈ before) rules).length_eq
  rw [List.length_append] at hperm
  rw [repeats_eq_repeated, firsts_eq_foremost, ← hperm, foremost_eq_chosen, repeated]
  simp

end Rulebook.Rule
