import Rulebook.Settings.Entry

/-!
# What is found under a path

Layers are put together entry by entry, and each entry may go to a place deep inside, be merged
with a table that is there, or replace what is there. Here it is said what all this comes to at a
single path. What is found there afterwards is what the last entry says that says anything about
the path (`Rulebook.Settings.Entry.seen_addLayer`), and there is no more to it: what an entry says
about other paths does not matter, nor does what was there before.

What an entry says is defined without looking at how entries are put together
(`Rulebook.Settings.Entry.said`). For a path inside a table this takes care in one case: an entry
that puts something else in the place of the table takes away what is inside. It is left out
here (`Rulebook.Settings.Entry.Spares`).

Tables and lists are no values, and it does not matter which one is found: only the values in
them can be told apart (`Rulebook.Settings.Entry.seen`).
-/

namespace Rulebook.Settings

namespace Entry

/-! ### Looking and saying -/

/-- The entry itself, if it is a value: no table, no list and not nothing. -/
def value? : Entry → Option Entry
  | flag o b => some (flag o b)
  | integer o n => some (integer o n)
  | float o x => some (float o x)
  | text o s => some (text o s)
  | _ => none

/-- What is found under a path of names. -/
def under : List String → Option Entry → Option Entry
  | [], e => e
  | k :: path, e => under path ((e.getD .absent).entries.lookup k)

/-- **What is seen under a path**: nothing, or something; and if it is a value, then this value. -/
def seen (path : List String) (e : Option Entry) : Option (Option Entry) :=
  (under path e).map value?

/-- **What the entries of a table say about a path**, one after the other. -/
def saidWithin : List String → Entry → List Entry
  | [], e => [e]
  | k :: path, e => e.entries.flatMap fun p => if p.1 = k then saidWithin path p.2 else []

/-- **What an entry says about a path** when it is put at the end of some steps. If the steps go on
behind the path, it says that there is something which is no value. -/
def said : List String → List Access → Entry → List Entry
  | path, [], e => saidWithin path e
  | [], _ :: _, _ => [.absent]
  | k :: path, .key k' :: steps, e => if k' = k then said path steps e else []
  | _ :: _, .item _ :: _, _ => []

/-- An entry that is a table wherever the path goes on. -/
def SparesWithin : List String → Entry → Prop
  | [], _ => True
  | k :: path, e => (∃ o es, e = .table o es) ∧ ∀ p ∈ e.entries, p.1 = k → SparesWithin path p.2

/-- **An entry that spares what is inside a table**: when it is put at the end of some steps, no
table on the path is replaced by something else. -/
def Spares : List String → List Access → Entry → Prop
  | path, [], e => SparesWithin path e
  | [], _ :: _, _ => True
  | k :: path, .key k' :: steps, e => k' = k → Spares path steps e
  | _ :: _, .item _ :: _, _ => False

/-! ### One place -/

variable {k k' : String} {path : List String} {steps : List Access} {e : Entry}

theorem lookup_change_self (f : Option Entry → Entry) (es : List (String × Entry)) :
    (change k f es).lookup k = some (f (es.lookup k)) := by
  induction es with
  | nil => simp [change]
  | cons p es ih =>
    obtain ⟨k', e⟩ := p
    rw [change]
    split
    · rename_i h
      subst h
      simp
    · rename_i h
      have hne : (k == k') = false := by simpa using Ne.symm h
      rw [List.lookup_cons, hne, List.lookup_cons, hne]
      exact ih

theorem lookup_change_of_ne (h : k' ≠ k) (f : Option Entry → Entry) (es : List (String × Entry)) :
    (change k' f es).lookup k = es.lookup k := by
  have hk : (k == k') = false := by simpa using Ne.symm h
  induction es with
  | nil => simpa [change] using Ne.symm h
  | cons p es ih =>
    obtain ⟨j, e⟩ := p
    rw [change]
    split
    · rename_i hj
      subst hj
      rw [List.lookup_cons, hk, List.lookup_cons, hk]
    · rw [List.lookup_cons, List.lookup_cons, ih]

theorem seen_cons (e : Option Entry) :
    seen (k :: path) e = seen path ((e.getD .absent).entries.lookup k) := rfl

/-! ### Putting an entry -/

/-- What is seen after something was said. -/
def after (ds : List Entry) (before : Option (Option Entry)) : Option (Option Entry) :=
  (ds.getLast?.map value?).or before

theorem after_nil (before : Option (Option Entry)) : after [] before = before := rfl

theorem after_append (ds ds' : List Entry) (before : Option (Option Entry)) :
    after (ds ++ ds') before = after ds' (after ds before) := by
  rw [after, after, after, List.getLast?_append, Option.map_or, Option.or_assoc]

/-- **Putting an entry in the place of another.** The induction is on the path; within a table, its
entries are put one after the other. -/
theorem seen_put (h : SparesWithin path e) (before : Option Entry) :
    seen path (some (put e before)) = after (saidWithin path e) (seen path before) := by
  induction path generalizing e before with
  | nil =>
    cases e <;> rfl
  | cons k path ih =>
    obtain ⟨⟨o, es, rfl⟩, hinner⟩ := h
    change ∀ p ∈ es, p.1 = k → SparesWithin path p.2 at hinner
    rw [put, seen_cons, seen_cons, saidWithin]
    change seen path ((putAll es _).lookup k) = after (es.flatMap _) _
    generalize ((before.getD .absent).entries) = into
    induction es generalizing into with
    | nil => rfl
    | cons p es ihes =>
      obtain ⟨k', e⟩ := p
      obtain ⟨he, hes⟩ := List.forall_mem_cons.mp hinner
      rw [putAll, ihes hes, List.flatMap_cons, after_append]
      by_cases hk : k' = k
      · subst hk
        rw [lookup_change_self, ih (he rfl), if_pos rfl]
      · rw [lookup_change_of_ne hk, if_neg hk, after_nil]

/-- **Putting an entry at the end of some steps.** -/
theorem seen_changeAt (h : Spares path steps e) (before : Option Entry) :
    seen path (some (changeAt (put e) steps before)) =
      after (said path steps e) (seen path before) := by
  induction steps generalizing path before with
  | nil =>
    rw [said, changeAt]
    rw [Spares] at h
    exact seen_put h before
  | cons step steps ih =>
    cases path with
    | nil => cases step <;> rfl
    | cons k path =>
      cases step with
      | item i => exact h.elim
      | key k' =>
        rw [changeAt, seen_cons, seen_cons, said]
        change seen path ((change k' _ _).lookup k) = _
        by_cases hk : k' = k
        · subst hk
          rw [lookup_change_self, ih (h rfl), if_pos rfl]
        · rw [lookup_change_of_ne hk, if_neg hk, after_nil]

/-! ### Layers -/

/-- **What a layer says about a path.** -/
def saidBy (path : List String) (layer : List (String × Entry)) : List Entry :=
  layer.flatMap fun p => said path (accesses p.1) p.2

theorem seen_addLayer {layer : List (String × Entry)}
    (h : ∀ p ∈ layer, Spares path (accesses p.1) p.2) (whole : Entry) :
    seen path (some (whole.addLayer layer)) =
      after (saidBy path layer) (seen path (some whole)) := by
  induction layer generalizing whole with
  | nil => rfl
  | cons p layer ih =>
    obtain ⟨hp, hlayer⟩ := List.forall_mem_cons.mp h
    rw [saidBy, List.flatMap_cons, after_append, ← saidBy, ← seen_changeAt hp]
    exact ih hlayer (whole.set p.1 p.2)

/-- **What is seen when layers are put together** is what was said last. -/
theorem seen_addLayers {layers : List (List (String × Entry))}
    (h : ∀ layer ∈ layers, ∀ p ∈ layer, Spares path (accesses p.1) p.2) (whole : Entry) :
    seen path (some (layers.foldl addLayer whole)) =
      after (layers.flatMap (saidBy path)) (seen path (some whole)) := by
  induction layers generalizing whole with
  | nil => rfl
  | cons layer layers ih =>
    obtain ⟨hlayer, hlayers⟩ := List.forall_mem_cons.mp h
    rw [List.foldl_cons, ih hlayers, seen_addLayer hlayer, List.flatMap_cons, after_append]

end Entry

end Rulebook.Settings
