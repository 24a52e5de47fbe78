import Mathlib.Data.List.TakeWhile
import Rulebook.Proofs.Settings.Leaf

/-!
# Layers with sections

A section is a table, but nothing keeps a layer from putting something else in its place. Such a
layer takes away what the layers before it say about the settings of the section. All others
are called *sectioned* here (`Rulebook.Settings.Sectioned`). When sectioned layers are put together,
every setting is spared by what they say about others (`Rulebook.Settings.Sectioned.spares`), and
there are tables in the places of the sections again (`Rulebook.Settings.tabular_addLayers`).

A file in which the sections are tables is sectioned (`Rulebook.Settings.HasSections.sectioned`).
-/

namespace Rulebook.Settings

/-- Whether an entry is a table. -/
def Entry.isTable : Entry → Bool
  | table _ _ => true
  | _ => false

/-- **An entry that leaves a section a table**: if the steps to it lead to the section, it is a
table, and if they lead into the section, they go on with a name. -/
def Entry.Keeps (name : String) (e : Entry) : List Access → Prop
  | [.key k] => k = name → e.isTable
  | .key k :: .item _ :: _ => k ≠ name
  | _ => True

instance (name : String) (e : Entry) : DecidablePred (e.Keeps name)
  | [.key k] => inferInstanceAs (Decidable (k = name → e.isTable))
  | .key k :: .item _ :: _ => inferInstanceAs (Decidable (k ≠ name))
  | [] | .item _ :: _ | .key _ :: .key _ :: _ => inferInstanceAs (Decidable True)

/-- **A layer with tables in the places of the sections.** -/
def Sectioned (layer : List (String × Entry)) : Prop :=
  ∀ p ∈ layer, ∀ sec ∈ sections, p.2.Keeps sec.name (accesses p.1)

instance : DecidablePred Sectioned := fun layer =>
  inferInstanceAs (Decidable (∀ p ∈ layer, ∀ sec ∈ sections, p.2.Keeps sec.name (accesses p.1)))

theorem Entry.exists_eq_table {e : Entry} (h : e.isTable) : ∃ o es, e = .table o es := by
  cases e with
  | table o es => exact ⟨o, es, rfl⟩
  | _ => cases h

/-- Every name begins with a name. -/
theorem exists_accesses_eq (name : String) : ∃ k steps, accesses name = .key k :: steps := by
  rw [accesses]
  split_ifs with h
  · exact ⟨name, [], rfl⟩
  · cases readAccesses name.toList.length (name.toList.dropWhile isNameChar) with
    | none => exact ⟨name, [], rfl⟩
    | some steps => exact ⟨_, steps, rfl⟩

/-- The path of a setting is a name, which is not that of a section, or the name of a section and
another name. -/
theorem Leaf.path_cases (x : Leaf) :
    (∃ k, (∀ sec ∈ sections, k ≠ sec.name) ∧ x.path = [k]) ∨
      ∃ sec ∈ sections, ∃ k, x.path = [sec.name, k] := by
  cases x <;> simp [path, sections]

theorem Sectioned.spares {layer : List (String × Entry)} (h : Sectioned layer) (x : Leaf) :
    ∀ p ∈ layer, Entry.Spares x.path (accesses p.1) p.2 := by
  intro p hp
  obtain ⟨k, steps, hsteps⟩ := exists_accesses_eq p.1
  have hroot (k' : String) : Entry.Spares [k'] (accesses p.1) p.2 := by
    rw [hsteps]
    intro _
    cases steps <;> trivial
  rcases x.path_cases with ⟨k', -, hpath⟩ | ⟨sec, hsec, k', hpath⟩
  · rw [hpath]
    exact hroot k'
  · rw [hpath, hsteps]
    rintro rfl
    have hkeeps := h p hp sec hsec
    rw [hsteps] at hkeeps
    rcases steps with _ | ⟨_ | _, steps⟩
    · exact ⟨Entry.exists_eq_table (hkeeps rfl), fun _ _ _ => trivial⟩
    · intro _
      cases steps <;> trivial
    · exact absurd rfl hkeeps

/-- **Sections stay tables** when layers are put together. -/
theorem Sectioned.tabular {layer : List (String × Entry)} (h : Sectioned layer) {whole : Entry}
    (hwhole : Tabular whole) : Tabular (whole.addLayer layer) := by
  induction layer generalizing whole with
  | nil => exact hwhole
  | cons p layer ih =>
    obtain ⟨hp, hlayer⟩ := List.forall_mem_cons.mp h
    refine ih hlayer ?_
    obtain ⟨k, steps, hsteps⟩ := exists_accesses_eq p.1
    have hset : (whole.set p.1 p.2).entries =
        change k (Entry.changeAt (Entry.put p.2) steps) whole.entries := by
      rw [Entry.set, hsteps]
      rfl
    intro sec hsec e he
    rw [hset] at he
    by_cases hk : k = sec.name
    · subst hk
      rw [Entry.lookup_change_self] at he
      have hkeeps := hp sec hsec
      rw [hsteps] at hkeeps
      rw [← Option.some.inj he]
      rcases steps with _ | ⟨_ | _, steps⟩
      · obtain ⟨o, es, hes⟩ := Entry.exists_eq_table (hkeeps rfl)
        rw [hes]
        exact ⟨_, _, rfl⟩
      · exact ⟨_, _, rfl⟩
      · exact absurd rfl hkeeps
    · rw [Entry.lookup_change_of_ne hk] at he
      exact hwhole sec hsec e he

theorem tabular_addLayers {layers : List (List (String × Entry))}
    (h : ∀ layer ∈ layers, Sectioned layer) {whole : Entry} (hwhole : Tabular whole) :
    Tabular (layers.foldl Entry.addLayer whole) := by
  induction layers generalizing whole with
  | nil => exact hwhole
  | cons layer layers ih =>
    obtain ⟨hlayer, hlayers⟩ := List.forall_mem_cons.mp h
    exact ih hlayers (hlayer.tabular hwhole)

/-! ### Files with sections -/

/-- **A file with tables for the sections**: what is named like a section is a table, and no name in
front of the sections has dots or brackets in it. -/
def HasSections (file : List (String × Toml.Value)) : Prop :=
  ∀ p ∈ file, (∀ c ∈ p.1.toList, isNameChar c = true) ∧
    ∀ sec ∈ sections, p.1 = sec.name → ∃ es, p.2 = .table es

theorem accesses_of_forall {name : String} (h : ∀ c ∈ name.toList, isNameChar c = true) :
    accesses name = [.key name] := by
  have hread (n : Nat) : readAccesses n [] = some [] := by cases n <;> rfl
  rw [accesses, List.takeWhile_eq_self_iff.mpr h, List.dropWhile_eq_nil_iff.mpr h, hread]
  split_ifs with hnil
  · rfl
  · rw [String.ofList_toList]
    rfl

theorem mem_ofTomlEntries {origin : String} {file : List (String × Toml.Value)}
    {p : String × Entry} (h : p ∈ Entry.ofTomlEntries origin file) :
    ∃ q ∈ file, p = (q.1, Entry.ofToml origin q.2) := by
  induction file with
  | nil => cases h
  | cons q file ih =>
    rcases List.mem_cons.mp h with rfl | h
    · exact ⟨q, List.mem_cons_self, rfl⟩
    · obtain ⟨q', hq', hp⟩ := ih h
      exact ⟨q', List.mem_cons_of_mem q hq', hp⟩

/-- **A file with tables for the sections is such a layer.** -/
theorem HasSections.sectioned {file : List (String × Toml.Value)} (h : HasSections file)
    (origin : String) : Sectioned (Entry.ofTomlEntries origin file) := by
  intro p hp sec hsec
  obtain ⟨⟨name, v⟩, hq, rfl⟩ := mem_ofTomlEntries hp
  obtain ⟨hname, hsections⟩ := h _ hq
  rw [accesses_of_forall hname]
  intro heq
  obtain ⟨es, rfl⟩ := hsections sec hsec heq
  rfl

end Rulebook.Settings
