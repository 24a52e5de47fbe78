import Mathlib.Data.List.Find
import Mathlib.Data.List.Nodup
import Rulebook.InFlight

/-!
# The registry as a table of rules

A registry is a list of entries, and this file reads it as a table: which rules have
an entry (`Rulebook.InFlight.Registry.busyIds`), and what each of the two operations
does to that. `Rulebook.InFlight.Registry.acquire` lets an operation in exactly when
its rule has no entry, and then puts the new entry behind the others;
`Rulebook.InFlight.Registry.release` takes out the entries of one rule and leaves the
others where they are.

As long as no rule has two entries – which the first of the two facts preserves –
looking a rule up and finding an entry of it are the same thing
(`Rulebook.InFlight.Registry.operationOn?_eq_some_iff`).
-/

namespace Rulebook.InFlight.Registry

/-- The rules that have an entry, in the order of the entries. -/
def busyIds (g : Registry) : List RuleId := g.entries.map (·.1)

variable {g g' : Registry} {id id' : RuleId} {op op' : Operation}

/-! ### Looking a rule up -/

theorem mem_of_operationOn? (h : g.operationOn? id = some op) : (id, op) ∈ g.entries := by
  obtain ⟨⟨id', op'⟩, hfind, rfl⟩ := Option.map_eq_some_iff.mp h
  have hid : id' = id := by simpa using List.find?_some hfind
  rw [← hid]
  exact List.mem_of_find?_eq_some hfind

/-- A rule can be acquired when it has no entry. -/
theorem operationOn?_eq_none_iff : g.operationOn? id = none ↔ id ∉ g.busyIds := by
  rw [operationOn?, busyIds, Option.map_eq_none_iff, List.find?_eq_none, List.mem_map]
  constructor
  · rintro h ⟨e, he, rfl⟩
    exact h e he (beq_self_eq_true _)
  · rintro h e he hid
    exact h ⟨e, he, beq_iff_eq.mp hid⟩

/-- A rule that has an entry has an operation under way. -/
theorem exists_operationOn? (h : id ∈ g.busyIds) : ∃ op, g.operationOn? id = some op :=
  Option.ne_none_iff_exists'.mp fun hnone => operationOn?_eq_none_iff.mp hnone h

theorem mem_busyIds_of_mem (h : (id, op) ∈ g.entries) : id ∈ g.busyIds :=
  List.mem_map.mpr ⟨(id, op), h, rfl⟩

/-- Two entries of one rule are one entry, when no rule has two. -/
theorem op_eq_of_mem (hg : g.busyIds.Nodup) (h : (id, op) ∈ g.entries)
    (h' : (id, op') ∈ g.entries) : op = op' := by
  have he : (id, op) = (id, op') := List.inj_on_of_nodup_map hg h h' rfl
  exact congrArg Prod.snd he

/-- **Looking up is finding an entry**, when no rule has two. -/
theorem operationOn?_eq_some_iff (hg : g.busyIds.Nodup) :
    g.operationOn? id = some op ↔ (id, op) ∈ g.entries := by
  refine ⟨mem_of_operationOn?, fun h => ?_⟩
  cases ho : g.operationOn? id with
  | none => exact absurd (mem_busyIds_of_mem h) (operationOn?_eq_none_iff.mp ho)
  | some op' => rw [op_eq_of_mem hg h (mem_of_operationOn? ho)]

/-! ### Acquiring -/

theorem acquire_of_busy (h : g.operationOn? id = some op') :
    g.acquire id op = .error (.busy id op') := by
  rw [acquire, h]

theorem acquire_of_free (h : g.operationOn? id = none) :
    g.acquire id op = .ok ⟨g.entries ++ [(id, op)]⟩ := by
  rw [acquire, h]

/-- **What it takes to be let in**: the rule had no entry, and its entry is now behind
the others. -/
theorem acquire_eq_ok_iff :
    g.acquire id op = .ok g' ↔ id ∉ g.busyIds ∧ g' = ⟨g.entries ++ [(id, op)]⟩ := by
  rw [← operationOn?_eq_none_iff]
  cases h : g.operationOn? id with
  | none =>
    rw [acquire_of_free h]
    exact ⟨fun he => ⟨rfl, (Except.ok.inj he).symm⟩, fun he => congrArg _ he.2.symm⟩
  | some op' =>
    rw [acquire_of_busy h]
    constructor
    · intro he
      cases he
    · rintro ⟨hn, -⟩
      cases hn

/-! ### Releasing -/

/-- **A rule that was released is free, and nothing is changed for any other rule.** -/
theorem operationOn?_release (g : Registry) (x id : RuleId) :
    (g.release x).operationOn? id = if id = x then none else g.operationOn? id := by
  by_cases h : id = x
  · rw [if_pos h, operationOn?_eq_none_iff, busyIds, release]
    simp [h]
  · -- an entry of the rule that is looked up is not taken out
    have hkept : ∀ e ∈ g.entries,
        decide ((e.1 != x) = true ∧ (e.1 == id) = true) = (e.1 == id) := by
      intro e _
      by_cases he : e.1 = id
      · simp [he, h]
      · simp [he]
    rw [if_neg h, operationOn?, operationOn?, release, List.find?_filter, List.find?_congr hkept]

/-- **An entry is taken out of its place**: in a registry where no rule has two, the
entries before and after it stay. -/
theorem release_entries {before after : List (RuleId × Operation)}
    (he : g.entries = before ++ (id, op) :: after) (hg : g.busyIds.Nodup) :
    (g.release id).entries = before ++ after := by
  rw [busyIds, he, List.map_append, List.map_cons] at hg
  obtain ⟨hid, -⟩ := List.nodup_cons.mp (List.nodup_middle.mp hg)
  have hkeep : ∀ e ∈ before ++ after, (e.1 != id) = true := by
    intro e hmem
    rw [bne_iff_ne]
    rintro rfl
    rw [← List.map_append] at hid
    exact hid (List.mem_map.mpr ⟨e, hmem, rfl⟩)
  rw [List.forall_mem_append] at hkeep
  rw [release, he, List.filter_append, List.filter_cons, if_neg (by simp),
    List.filter_eq_self.mpr hkeep.1, List.filter_eq_self.mpr hkeep.2]

/-- **Acquired and released at once**, a rule leaves the registry as it was. -/
theorem release_of_acquire (h : g.acquire id op = .ok g') : g'.release id = g := by
  obtain ⟨hfree, rfl⟩ := acquire_eq_ok_iff.mp h
  have hkeep : ∀ e ∈ g.entries, (e.1 != id) = true := by
    intro e he
    rw [bne_iff_ne]
    rintro rfl
    exact hfree (mem_busyIds_of_mem he)
  have hself : ((id, op).1 != id) = false := by simp
  rw [release, List.filter_append, List.filter_eq_self.mpr hkeep, List.filter_singleton, hself,
    cond_false, List.append_nil]

end Rulebook.InFlight.Registry
