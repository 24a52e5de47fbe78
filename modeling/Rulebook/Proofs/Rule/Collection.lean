import Mathlib.Data.List.Nodup
import Rulebook.Rule

/-!
# Collections of rules

A collection is a list of rules, and the library changes it in four ways: a rule
is put behind the others, the rules of an identifier are taken out, the first rule
of an identifier is changed in its place, and a list from outside is cut down to
the first rule of each identifier. This file says what each of them does to the two
things that can be seen of a collection:

* `Rulebook.Rule.ids` – its identifiers, in its order, which is where uniqueness
  and order are read off;
* `Rulebook.Rule.content?` – what it says of an identifier, which is how it is read
  as a map.

Between them they determine what `Rulebook.Rule.find?` finds
(`Rulebook.Rule.find?_eq_some_iff`), so nothing after this file has to look into a
list of rules.
-/

namespace Rulebook.Rule

/-- What there is to a rule besides its identifier. -/
structure Content where
  text : String
  enabled : Bool
  deriving DecidableEq

/-- The content of a rule. -/
def content (r : Rule) : Content := ⟨r.text, r.enabled⟩

/-- The identifiers of a collection, in its order. -/
def ids (rules : List Rule) : List RuleId := rules.map (·.id)

/-- What a collection says of an identifier: the content of the first rule that has
it. -/
def content? (x : RuleId) (rules : List Rule) : Option Content := (find? x rules).map content

variable {x y : RuleId} {r : Rule} {rules rules' : List Rule}

/-! ### Identifiers -/

@[simp] theorem ids_nil : ids [] = [] := rfl

@[simp] theorem ids_cons : ids (r :: rules) = r.id :: ids rules := rfl

@[simp] theorem ids_append : ids (rules ++ rules') = ids rules ++ ids rules' :=
  List.map_append

theorem listed_iff : listed x rules = true ↔ x ∈ ids rules := by
  simp [listed, ids]

/-! ### Looking up a rule -/

theorem find?_cons : find? x (r :: rules) = if r.id = x then some r else find? x rules := by
  rw [find?, List.find?_cons]
  by_cases h : r.id = x
  · rw [if_pos h, beq_iff_eq.mpr h]
  · rw [if_neg h, beq_eq_false_iff_ne.mpr h]
    rfl

theorem content?_nil : content? x [] = none := rfl

theorem content?_cons :
    content? x (r :: rules) = if r.id = x then some r.content else content? x rules := by
  rw [content?, find?_cons]
  split
  · rfl
  · rfl

/-- A rule that is found has the identifier that was looked for. -/
theorem id_of_find? (h : find? x rules = some r) : r.id = x := by
  simpa using List.find?_some h

/-- **A rule is its identifier and its content**: what is found under an identifier
is the rule made of the two. -/
theorem find?_eq_some_iff :
    find? x rules = some r ↔ r.id = x ∧ content? x rules = some r.content := by
  constructor
  · intro h
    exact ⟨id_of_find? h, by rw [content?, h]; rfl⟩
  · rintro ⟨rfl, h⟩
    obtain ⟨q, hq, hqr⟩ := Option.map_eq_some_iff.mp h
    have hid : q.id = r.id := id_of_find? hq
    rw [hq]
    cases q
    cases r
    simp_all [content]

theorem content?_eq_none_iff : content? x rules = none ↔ x ∉ ids rules := by
  simp [content?, find?, ids]

theorem content?_isSome_iff : (content? x rules).isSome ↔ x ∈ ids rules := by
  rw [← not_iff_not, ← content?_eq_none_iff, Option.not_isSome_iff_eq_none]

theorem content?_append :
    content? x (rules ++ rules') = (content? x rules).or (content? x rules') := by
  induction rules with
  | nil => rfl
  | cons r rules ih =>
    rw [List.cons_append, content?_cons, content?_cons]
    by_cases h : r.id = x
    · rw [if_pos h, if_pos h]
      rfl
    · rw [if_neg h, if_neg h, ih]

/-! ### Taking rules out -/

theorem ids_filter_ne : ids (rules.filter (·.id != y)) = (ids rules).filter (· != y) := by
  rw [ids, ids, List.filter_map]
  rfl

/-- An identifier that no rule has is not taken out of anything. -/
theorem filter_ne_of_not_mem (h : y ∉ ids rules) : rules.filter (·.id != y) = rules := by
  refine List.filter_eq_self.mpr fun q hq => ?_
  rw [bne_iff_ne]
  rintro rfl
  exact h (List.mem_map.mpr ⟨q, hq, rfl⟩)

/-- Once the rules of an identifier are taken out, nothing is said of it, and the
same as before of every other one. -/
theorem content?_filter_ne :
    content? x (rules.filter (·.id != y)) = if y = x then none else content? x rules := by
  induction rules with
  | nil => rw [List.filter_nil, content?_nil, ite_self]
  | cons r rules ih =>
    rw [List.filter_cons, content?_cons]
    by_cases hy : r.id = y
    · rw [if_neg (by simp [hy]), ih, hy]
      split
      · rfl
      · rfl
    · rw [if_pos (by simp [hy]), content?_cons, ih]
      by_cases hx : r.id = x
      · have hyx : y ≠ x := fun h => hy (hx.trans h.symm)
        rw [if_pos hx, if_neg hyx, if_pos hx]
      · rw [if_neg hx, if_neg hx]

/-! ### Changing a rule in its place -/

variable {change : Rule → Rule}

theorem amend_of_not_mem (h : y ∉ ids rules) :
    amend y change rules = rules := by
  induction rules with
  | nil => rfl
  | cons r rules ih =>
    rw [ids_cons, List.mem_cons, not_or] at h
    rw [amend, if_neg (Ne.symm h.1), ih h.2]

/-- A change that keeps the identifier keeps every identifier in its place. -/
theorem ids_amend (hid : ∀ q, q.id = y → (change q).id = y) :
    ids (amend y change rules) = ids rules := by
  induction rules with
  | nil => rfl
  | cons r rules ih =>
    rw [amend]
    by_cases h : r.id = y
    · rw [if_pos h, ids_cons, ids_cons, hid r h, h]
    · rw [if_neg h, ids_cons, ids_cons, ih]

/-- A change shows where it was made and nowhere else. -/
theorem content?_amend (hid : ∀ q, q.id = y → (change q).id = y) :
    content? x (amend y change rules) =
      if y = x then (find? y rules).map fun q => (change q).content else content? x rules := by
  induction rules with
  | nil => rw [amend, content?_nil, find?, List.find?_nil, Option.map_none, ite_self]
  | cons r rules ih =>
    rw [amend, find?_cons]
    by_cases hy : r.id = y
    · rw [if_pos hy, if_pos hy, content?_cons, content?_cons, hid r hy, hy]
      split
      · rfl
      · rfl
    · rw [if_neg hy, if_neg hy, content?_cons, content?_cons, ih]
      by_cases hx : r.id = x
      · have hyx : y ≠ x := fun h => hy (hx.trans h.symm)
        rw [if_pos hx, if_neg hyx, if_pos hx]
      · rw [if_neg hx, if_neg hx]

/-- Where no identifier stands twice, to change the first rule of one is to change every
rule of it. -/
theorem amend_eq_map (h : (ids rules).Nodup) :
    amend y change rules = rules.map fun q => if q.id = y then change q else q := by
  induction rules with
  | nil => rfl
  | cons r rules ih =>
    rw [ids_cons, List.nodup_cons] at h
    rw [amend, List.map_cons, ← ih h.2]
    by_cases hy : r.id = y
    · rw [if_pos hy, if_pos hy, amend_of_not_mem (hy ▸ h.1)]
    · rw [if_neg hy, if_neg hy]

/-! ### Two changes -/

/-- What is taken out does not feel a change, and a change does not reach what is taken
out. -/
theorem filter_ne_amend (hid : ∀ q, (change q).id = q.id) :
    (amend y change rules).filter (·.id != x) = amend y change (rules.filter (·.id != x)) := by
  induction rules with
  | nil => rfl
  | cons r rules ih =>
    rw [amend]
    by_cases hy : r.id = y
    · rw [if_pos hy]
      by_cases hx : r.id = x
      · -- the rule that is changed is taken out, and so is every other one of `y`
        have hout : y ∉ ids (rules.filter (·.id != x)) := by
          simp [ids, ← hy, ← hx]
        rw [List.filter_cons_of_neg (by simp [hid, hx]), List.filter_cons_of_neg (by simp [hx]),
          amend_of_not_mem hout]
      · rw [List.filter_cons_of_pos (by simp [hid, hx]), List.filter_cons_of_pos (by simp [hx]),
          amend, if_pos hy]
    · rw [if_neg hy]
      by_cases hx : r.id = x
      · rw [List.filter_cons_of_neg (by simp [hx]), List.filter_cons_of_neg (by simp [hx]), ih]
      · rw [List.filter_cons_of_pos (by simp [hx]), List.filter_cons_of_pos (by simp [hx]), amend,
          if_neg hy, ih]

/-- **Two changes change places** if they are made to different rules, or if it does not
matter to a rule which of them comes first. -/
theorem amend_comm {change' : Rule → Rule} (hid : ∀ q, (change q).id = q.id)
    (hid' : ∀ q, (change' q).id = q.id)
    (h : x = y → ∀ q, change (change' q) = change' (change q)) :
    amend x change (amend y change' rules) = amend y change' (amend x change rules) := by
  induction rules with
  | nil => rfl
  | cons r rules ih =>
    by_cases hx : r.id = x
    · by_cases hy : r.id = y
      · obtain rfl : x = y := hx.symm.trans hy
        have hc : (change r).id = x := (hid r).trans hx
        have hc' : (change' r).id = x := (hid' r).trans hx
        simp only [amend, if_pos hx, if_pos hc, if_pos hc', h rfl]
      · have hx' : (change r).id ≠ y := by rwa [hid]
        simp only [amend, if_pos hx, if_neg hy, if_neg hx']
    · by_cases hy : r.id = y
      · have hy' : (change' r).id ≠ x := by rwa [hid']
        simp only [amend, if_neg hx, if_pos hy, if_neg hy']
      · simp only [amend, if_neg hx, if_neg hy, ih]

/-! ### The first rule of each identifier -/

/-- The rules kept so far, and then the first rule of each identifier that is not
among them: `Rulebook.Rule.firsts` once some of the list is behind it. -/
def firstsFrom (kept rules : List Rule) : List Rule :=
  rules.foldl (fun kept r => if listed r.id kept then kept else kept ++ [r]) kept

theorem firsts_eq_firstsFrom : firsts rules = firstsFrom [] rules := rfl

theorem firstsFrom_cons {kept : List Rule} :
    firstsFrom kept (r :: rules) =
      if listed r.id kept then firstsFrom kept rules else firstsFrom (kept ++ [r]) rules := by
  rw [firstsFrom, List.foldl_cons]
  split
  · rfl
  · rfl

theorem nodup_ids_firstsFrom {kept : List Rule} (h : (ids kept).Nodup) :
    (ids (firstsFrom kept rules)).Nodup := by
  induction rules generalizing kept with
  | nil => exact h
  | cons r rules ih =>
    rw [firstsFrom_cons]
    by_cases hr : listed r.id kept = true
    · rw [if_pos hr]
      exact ih h
    · rw [if_neg hr]
      refine ih ?_
      have hnew : r.id ∉ ids kept := fun hmem => hr (listed_iff.mpr hmem)
      rw [ids_append, ids_cons, ids_nil]
      exact List.nodup_append.mpr ⟨h, List.nodup_singleton _, by
        rintro a ha b hb rfl
        rw [List.mem_singleton] at hb
        exact hnew (hb ▸ ha)⟩

theorem content?_firstsFrom {kept : List Rule} :
    content? x (firstsFrom kept rules) = (content? x kept).or (content? x rules) := by
  induction rules generalizing kept with
  | nil => rw [content?_nil, Option.or_none]; rfl
  | cons r rules ih =>
    rw [firstsFrom_cons, content?_cons]
    by_cases hr : listed r.id kept = true
    · rw [if_pos hr, ih]
      by_cases hx : r.id = x
      · -- what is kept already says something of `x`, so the rest does not matter
        obtain ⟨c, hc⟩ := Option.isSome_iff_exists.mp
          (content?_isSome_iff.mpr (hx ▸ listed_iff.mp hr))
        rw [hc, Option.some_or, Option.some_or]
      · rw [if_neg hx]
    · rw [if_neg hr, ih, content?_append, content?_cons, content?_nil, Option.or_assoc]
      by_cases hx : r.id = x
      · rw [if_pos hx, if_pos hx, Option.some_or]
      · rw [if_neg hx, if_neg hx, Option.none_or]

theorem firstsFrom_of_nodup {kept : List Rule} (h : (ids (kept ++ rules)).Nodup) :
    firstsFrom kept rules = kept ++ rules := by
  induction rules generalizing kept with
  | nil => exact (List.append_nil kept).symm
  | cons r rules ih =>
    have hsplit : kept ++ r :: rules = kept ++ [r] ++ rules := by
      rw [List.append_assoc, List.singleton_append]
    have hnew : ¬listed r.id kept = true := by
      rw [listed_iff]
      intro hr
      rw [ids_append, List.nodup_append] at h
      exact h.2.2 _ hr _ List.mem_cons_self rfl
    rw [firstsFrom_cons, if_neg hnew, ih (hsplit ▸ h), hsplit]

/-- Where no identifier stands twice, nothing is cut. -/
theorem firsts_of_nodup (h : (ids rules).Nodup) : firsts rules = rules :=
  firstsFrom_of_nodup h

/-- **No identifier is left twice.** -/
theorem nodup_ids_firsts : (ids (firsts rules)).Nodup :=
  nodup_ids_firstsFrom List.nodup_nil

/-- **What is kept of a list says the same of every identifier as the list.** -/
theorem content?_firsts : content? x (firsts rules) = content? x rules := by
  rw [firsts_eq_firstsFrom, content?_firstsFrom, content?_nil, Option.none_or]

end Rulebook.Rule
