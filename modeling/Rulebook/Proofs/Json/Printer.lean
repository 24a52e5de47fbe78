import Rulebook.Proofs.Json.Reader

/-!
# Reading what was written

Both ways to write a value spell it (`Rulebook.Json.spells_compact`,
`Rulebook.Json.spells_pretty`), if there is no double in it, its integers are in range and
it is nested no deeper than the reader goes (`Rulebook.Json.Value.Exact`). A double is left
out because the reader does not promise the nearest one, and an infinite one is written as
`null`.

The two writers differ only in the spaces between the parts, and a reader passes over
those. So each of them has a case here for every kind of value, with an induction on the
elements or the members inside.
-/

namespace Rulebook.Json

/-- **The values that texts keep exactly**: there is no double in them, their integers are in
range, and arrays and objects are nested at most `depth` deep. -/
inductive Value.Exact : Nat → Value → Prop
  | null {depth : Nat} : Exact depth .null
  | bool {depth : Nat} (b : Bool) : Exact depth (.bool b)
  | integer {depth : Nat} {n : Int} (hn : InIntegerRange n) : Exact depth (.integer n)
  | string {depth : Nat} (s : String) : Exact depth (.string s)
  | array {depth : Nat} {xs : List Value} (hxs : ∀ x ∈ xs, Exact depth x) :
      Exact (depth + 1) (.array xs)
  | object {depth : Nat} {ms : List Member} (hms : ∀ m ∈ ms, Exact depth m.2) :
      Exact (depth + 1) (.object ms)

attribute [simp] Value.Exact.null Value.Exact.bool Value.Exact.string

variable {item : List Char → Except Stop (Read Value)} {xs : List Value} {ms : List Member}
  {depth : Nat} {v : Value}

@[simp] theorem exact_integer_iff {n : Int} :
    (Value.integer n).Exact depth ↔ InIntegerRange n := by
  refine ⟨fun h => ?_, .integer⟩
  cases h
  assumption

@[simp] theorem exact_array_iff :
    (Value.array xs).Exact (depth + 1) ↔ ∀ x ∈ xs, x.Exact depth := by
  refine ⟨fun h => ?_, .array⟩
  cases h
  assumption

@[simp] theorem exact_object_iff :
    (Value.object ms).Exact (depth + 1) ↔ ∀ m ∈ ms, m.2.Exact depth := by
  refine ⟨fun h => ?_, .object⟩
  cases h
  assumption

/-! ### The compact form -/

theorem elementsFollow_compact (h : ∀ x ∈ xs, Spells item x (writeCompact x)) :
    ElementsFollow item xs (writeCompactElements xs) := by
  induction xs with
  | nil => exact elementsFollow_nil gap_nil
  | cons x xs ih =>
    rw [List.forall_mem_cons] at h
    rw [writeCompactElements, List.cons_append]
    exact elementsFollow_cons gap_nil h.1 (ih h.2)

theorem membersFollow_compact (h : ∀ m ∈ ms, Spells item m.2 (writeCompact m.2)) :
    MembersFollow item ms (writeCompactMembers ms) := by
  induction ms with
  | nil => exact membersFollow_nil gap_nil
  | cons m ms ih =>
    obtain ⟨k, v⟩ := m
    rw [List.forall_mem_cons] at h
    simp only [writeCompactMembers, List.cons_append, List.append_assoc]
    exact membersFollow_cons gap_nil gap_nil h.1 (ih h.2)

/-- **The compact form spells its value.** -/
theorem spells_compact (h : v.Exact depth) : Spells (readValue depth) v (writeCompact v) := by
  induction h with
  | null => exact spells_null
  | bool b =>
    cases b with
    | true => exact spells_true
    | false => exact spells_false
  | integer hn => exact spells_integer hn
  | string s => exact spells_text s
  | @array depth xs _ ih =>
    cases xs with
    | nil => exact spells_array_nil
    | cons x xs =>
      rw [List.forall_mem_cons] at ih
      rw [writeCompact, List.cons_append]
      exact spells_array_cons gap_nil ih.1 (elementsFollow_compact ih.2)
  | @object depth ms _ ih =>
    cases ms with
    | nil => exact spells_object_nil
    | cons m ms =>
      obtain ⟨k, v⟩ := m
      rw [List.forall_mem_cons] at ih
      simp only [writeCompact, List.cons_append, List.append_assoc]
      exact spells_object_cons gap_nil gap_nil ih.1 (membersFollow_compact ih.2)

/-- **The compact form means its value**, settled. -/
theorem parse_compact (h : v.Exact 127) : parse v.compact = .ok v.settled := by
  refine parse_of_spells ?_
  rw [Value.compact, String.toList_ofList]
  exact spells_compact h

/-! ### The spread form -/

theorem gap_newLine (level : Nat) : Gap (newLine level) := by
  intro c hc
  rw [newLine, List.mem_cons] at hc
  rcases hc with rfl | hc
  · rfl
  · obtain rfl : c = ' ' := List.eq_of_mem_replicate hc
    rfl

theorem gap_space : Gap [' '] := by
  intro c hc
  obtain rfl : c = ' ' := List.mem_singleton.mp hc
  rfl

theorem elementsFollow_pretty (level : Nat)
    (h : ∀ x ∈ xs, Spells item x (writePretty (level + 1) x)) :
    ElementsFollow item xs (writePrettyElements level xs) := by
  induction xs with
  | nil => exact elementsFollow_nil (gap_newLine level)
  | cons x xs ih =>
    rw [List.forall_mem_cons] at h
    rw [writePrettyElements, List.cons_append, List.cons_append, List.append_assoc]
    exact elementsFollow_cons (gap_newLine (level + 1)) h.1 (ih h.2)

theorem membersFollow_pretty (level : Nat)
    (h : ∀ m ∈ ms, Spells item m.2 (writePretty (level + 1) m.2)) :
    MembersFollow item ms (writePrettyMembers level ms) := by
  induction ms with
  | nil => exact membersFollow_nil (gap_newLine level)
  | cons m ms ih =>
    obtain ⟨k, v⟩ := m
    rw [List.forall_mem_cons] at h
    simp only [writePrettyMembers, List.cons_append, List.append_assoc]
    exact membersFollow_cons (gap_newLine (level + 1)) gap_space h.1 (ih h.2)

/-- **The spread form spells its value**, at any level. -/
theorem spells_pretty (h : v.Exact depth) (level : Nat) :
    Spells (readValue depth) v (writePretty level v) := by
  induction h generalizing level with
  | null => exact spells_null
  | bool b =>
    cases b with
    | true => exact spells_true
    | false => exact spells_false
  | integer hn => exact spells_integer hn
  | string s => exact spells_text s
  | @array depth xs _ ih =>
    cases xs with
    | nil => exact spells_array_nil
    | cons x xs =>
      rw [List.forall_mem_cons] at ih
      have hfollow := elementsFollow_pretty level fun y hy => ih.2 y hy (level + 1)
      rw [writePretty, List.cons_append, List.cons_append, List.append_assoc]
      exact spells_array_cons (gap_newLine (level + 1)) (ih.1 (level + 1)) hfollow
  | @object depth ms _ ih =>
    cases ms with
    | nil => exact spells_object_nil
    | cons m ms =>
      obtain ⟨k, v⟩ := m
      rw [List.forall_mem_cons] at ih
      have hfollow := membersFollow_pretty level fun m hm => ih.2 m hm (level + 1)
      simp only [writePretty, List.cons_append, List.append_assoc]
      exact spells_object_cons (gap_newLine (level + 1)) gap_space (ih.1 (level + 1)) hfollow

end Rulebook.Json
