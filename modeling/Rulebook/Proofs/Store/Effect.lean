import Rulebook.Proofs.Rule.Collection
import Rulebook.Store.Basic

/-!
# What a confirmation does to the collection

Whatever happens to a store, its collection only ever changes by what the service
has confirmed. `Rulebook.Confirmed.settle` is that change as a function of
collections, and this file reads it in the two ways a collection is read:

* on identifiers (`Rulebook.Confirmed.ids_settle`) – only a list that was loaded
  disturbs the order of those that stay;
* on contents (`Rulebook.Confirmed.content?_settle`) – what is said of an identifier
  afterwards depends on nothing but what was said of *it* before, through
  `Rulebook.Confirmed.revise`. That is what lets confirmations of different rules
  change places, and what lets the history of one rule be followed alone.
-/

namespace Rulebook

open Rule

/-- The collection after something was confirmed. -/
def Confirmed.settle (rules : List Rule) (c : Confirmed) : List Rule :=
  (c.effect rules).getD rules

/-- **A store's collection changes by what was confirmed.** -/
@[simp] theorem Store.apply_rules (s : Store) (c : Confirmed) :
    (s.apply c).rules = c.settle s.rules := by
  rw [Store.apply, Confirmed.settle]
  cases c.effect s.rules with
  | none => rfl
  | some rules => rfl

@[simp] theorem Store.apply_guard? (s : Store) (c : Confirmed) :
    (s.apply c).guard? = s.guard? := by
  rw [Store.apply]
  cases c.effect s.rules with
  | none => rfl
  | some rules => rfl

namespace Confirmed

variable {x y : RuleId} {rules listed : List Rule} {r : Rule} {enabled : Bool} {text : String}

/-! ### The six kinds -/

@[simp] theorem settle_loaded : settle rules (.loaded listed) = firsts listed := rfl

theorem settle_created_of_mem (h : r.id ∈ ids rules) :
    settle rules (.created r) = amend r.id (fun _ => r) rules := by
  rw [settle, effect, if_pos (listed_iff.mpr h), Option.getD_some]

theorem settle_created_of_not_mem (h : r.id ∉ ids rules) :
    settle rules (.created r) = rules ++ [r] := by
  rw [settle, effect, if_neg (fun hl => h (listed_iff.mp hl)), Option.getD_some]

@[simp] theorem settle_deleted : settle rules (.deleted y) = rules.filter (·.id != y) := by
  rw [settle, effect]
  by_cases h : listed y rules = true
  · rw [if_pos h, Option.getD_some]
  · rw [if_neg h, Option.getD_none, filter_ne_of_not_mem fun hy => h (listed_iff.mpr hy)]

@[simp] theorem settle_toggled :
    settle rules (.toggled y enabled) = amend y ({ · with enabled }) rules := by
  rw [settle, effect]
  by_cases h : listed y rules = true
  · rw [if_pos h, Option.getD_some]
  · rw [if_neg h, Option.getD_none, amend_of_not_mem fun hy => h (listed_iff.mpr hy)]

@[simp] theorem settle_updated :
    settle rules (.updated y text) = amend y ({ · with text }) rules := by
  rw [settle, effect]
  by_cases h : listed y rules = true
  · rw [if_pos h, Option.getD_some]
  · rw [if_neg h, Option.getD_none, amend_of_not_mem fun hy => h (listed_iff.mpr hy)]

@[simp] theorem settle_combined {count : Nat} {tree : Json.Value} :
    settle rules (.combined count tree) = rules := rfl

/-! ### Identifiers -/

/-- The identifiers after something was confirmed, as far as it depends on the
identifiers before. -/
def reorder (before : List RuleId) : Confirmed → List RuleId
  | loaded listed => ids (firsts listed)
  | created r => if r.id ∈ before then before else before ++ [r.id]
  | deleted y => before.filter (· != y)
  | toggled _ _ => before
  | updated _ _ => before
  | combined _ _ => before

/-- **Confirmations on identifiers**: a rule that was created goes behind the
others, or keeps its place; a rule that was deleted leaves; and but for a list that
was loaded nothing else happens. -/
theorem ids_settle (c : Confirmed) : ids (c.settle rules) = c.reorder (ids rules) := by
  cases c with
  | loaded listed => rfl
  | created r =>
    rw [reorder]
    by_cases h : r.id ∈ ids rules
    · rw [if_pos h, settle_created_of_mem h, ids_amend fun _ _ => rfl]
    · rw [if_neg h, settle_created_of_not_mem h, ids_append]
      rfl
  | deleted y => rw [settle_deleted, ids_filter_ne]; rfl
  | toggled y enabled =>
    rw [settle_toggled]
    exact ids_amend fun _ hq => hq
  | updated y text =>
    rw [settle_updated]
    exact ids_amend fun _ hq => hq
  | combined count tree => rfl

/-! ### Contents -/

/-- What is said of an identifier after something was confirmed, given what was said
of it before. -/
def revise (x : RuleId) (before : Option Content) : Confirmed → Option Content
  | loaded listed => content? x listed
  | created r => if r.id = x then some r.content else before
  | deleted y => if y = x then none else before
  | toggled y enabled => if y = x then before.map ({ · with enabled }) else before
  | updated y text => if y = x then before.map ({ · with text }) else before
  | combined _ _ => before

/-- What is said of `x` after the first rule of `y` was changed, for a change that
can be seen on contents alone. -/
theorem content?_amend_map {change : Rule → Rule} {f : Content → Content}
    (hid : ∀ q, (change q).id = q.id) (hf : ∀ q, (change q).content = f q.content) :
    content? x (amend y change rules) =
      if y = x then (content? x rules).map f else content? x rules := by
  rw [content?_amend fun q hq => (hid q).trans hq]
  by_cases h : y = x
  · subst h
    rw [if_pos rfl, if_pos rfl, content?, Option.map_map]
    exact congrArg (Option.map · _) (funext hf)
  · rw [if_neg h, if_neg h]

/-- **Confirmations on contents**: what is said of an identifier afterwards depends
only on what was said of that identifier before. -/
theorem content?_settle (c : Confirmed) :
    content? x (c.settle rules) = c.revise x (content? x rules) := by
  cases c with
  | loaded listed => exact content?_firsts
  | created r =>
    rw [revise]
    by_cases h : r.id ∈ ids rules
    · rw [settle_created_of_mem h, content?_amend fun _ _ => rfl]
      by_cases hx : r.id = x
      · -- the rule is there, so there is something to replace
        obtain ⟨q, hq⟩ := Option.isSome_iff_exists.mp
          (Option.isSome_map.symm.trans (content?_isSome_iff.mpr h))
        rw [if_pos hx, if_pos hx, hq, Option.map_some]
      · rw [if_neg hx, if_neg hx]
    · rw [settle_created_of_not_mem h, content?_append, content?_cons, content?_nil]
      by_cases hx : r.id = x
      · rw [if_pos hx, if_pos hx, content?_eq_none_iff.mpr (hx ▸ h), Option.none_or]
      · rw [if_neg hx, if_neg hx, Option.or_none]
  | deleted y => rw [settle_deleted, content?_filter_ne]; rfl
  | toggled y enabled =>
    rw [settle_toggled]
    exact content?_amend_map (fun _ => rfl) fun _ => rfl
  | updated y text =>
    rw [settle_updated]
    exact content?_amend_map (fun _ => rfl) fun _ => rfl
  | combined count tree => rfl

/-! ### Confirmations of different rules -/

/-- Whether something that was confirmed can change what is said of a rule. -/
def Touches (x : RuleId) : Confirmed → Prop
  | loaded _ => True
  | created r => r.id = x
  | deleted y => y = x
  | toggled y _ => y = x
  | updated y _ => y = x
  | combined _ _ => False

/-- The rules that something confirmed names. -/
def names : Confirmed → List RuleId
  | loaded listed => ids listed
  | created r => [r.id]
  | deleted y => [y]
  | toggled y _ => [y]
  | updated y _ => [y]
  | combined _ _ => []

variable {c : Confirmed} {cs : List Confirmed} {before : Option Content}

/-- What does not touch a rule leaves what is said of it. -/
theorem revise_of_not_touches (h : ¬c.Touches x) : c.revise x before = before := by
  cases c with
  | loaded listed => exact absurd trivial h
  | created r => exact if_neg h
  | deleted y => exact if_neg h
  | toggled y enabled => exact if_neg h
  | updated y text => exact if_neg h
  | combined count tree => rfl

theorem foldl_revise_of_not_touches (h : ∀ c ∈ cs, ¬c.Touches x) :
    cs.foldl (revise x) before = before := by
  induction cs with
  | nil => rfl
  | cons c cs ih =>
    rw [List.forall_mem_cons] at h
    rw [List.foldl_cons, revise_of_not_touches h.1, ih h.2]

/-- **Confirmations that touch no rule in common change places.** -/
theorem foldl_revise_comm (h : ∀ c' ∈ cs, ¬(c.Touches x ∧ c'.Touches x)) :
    cs.foldl (revise x) (revise x before c) = revise x (cs.foldl (revise x) before) c := by
  by_cases hc : c.Touches x
  · -- then none of the others touches `x`
    have hcs : ∀ c' ∈ cs, ¬c'.Touches x := fun c' hc' ht => h c' hc' ⟨hc, ht⟩
    rw [foldl_revise_of_not_touches hcs, foldl_revise_of_not_touches hcs]
  · rw [revise_of_not_touches hc, revise_of_not_touches hc]

/-- A rule that is touched is named, but for a list, which touches all. -/
theorem mem_names_of_touches (h : c.Touches x) :
    x ∈ c.names ∨ ∃ listed, c = .loaded listed := by
  cases c with
  | loaded listed => exact Or.inr ⟨listed, rfl⟩
  | created r => exact Or.inl (List.mem_singleton.mpr h.symm)
  | deleted y => exact Or.inl (List.mem_singleton.mpr h.symm)
  | toggled y enabled => exact Or.inl (List.mem_singleton.mpr h.symm)
  | updated y text => exact Or.inl (List.mem_singleton.mpr h.symm)
  | combined count tree => exact h.elim

theorem ids_firsts_subset (h : x ∈ ids (firsts listed)) : x ∈ ids listed := by
  rw [← content?_isSome_iff, content?_firsts, content?_isSome_iff] at h
  exact h

/-- **No identifier comes from nowhere**: after something was confirmed, a rule is in the
collection that was there, or that the confirmation names. -/
theorem mem_or_mem_names_of_mem_settle (h : x ∈ ids (c.settle rules)) :
    x ∈ ids rules ∨ x ∈ c.names := by
  rw [ids_settle] at h
  cases c with
  | loaded listed => exact Or.inr (ids_firsts_subset h)
  | created r =>
    rw [reorder] at h
    split at h
    · exact Or.inl h
    · exact List.mem_append.mp h
  | deleted y => exact Or.inl (List.mem_filter.mp h).1
  | toggled y enabled => exact Or.inl h
  | updated y text => exact Or.inl h
  | combined count tree => exact Or.inl h

end Confirmed

end Rulebook
