import Rulebook.Json.Value

/-!
# Values as they are meant

What a text means is *in order* (`Rulebook.Json.Value.Ordered`): every object, at any depth,
has its names in strictly increasing order, and so each of them once. Settling puts any
value in order (`Rulebook.Json.Value.ordered_settled`) and leaves a value that is in order
as it is (`Rulebook.Json.Value.Ordered.settled_eq`), so it need never be done twice.
-/

namespace Rulebook.Json

variable {k : String} {v : Value} {ms acc : List Member}

/-! ### Members in order -/

/-- **Whether the names of members strictly increase.** -/
def Increasing (ms : List Member) : Prop := (ms.map (·.1)).Pairwise (· < ·)

instance (ms : List Member) : Decidable (Increasing ms) :=
  inferInstanceAs (Decidable (List.Pairwise _ _))

@[simp] theorem increasing_nil : Increasing [] := List.Pairwise.nil

theorem increasing_cons {m : Member} :
    Increasing (m :: ms) ↔ (∀ n ∈ ms, m.1 < n.1) ∧ Increasing ms := by
  rw [Increasing, List.map_cons, List.pairwise_cons, List.forall_mem_map]
  exact Iff.rfl

/-- A member is put behind those with smaller names. -/
theorem putMember_of_lt (h : ∀ m ∈ acc, m.1 < k) : putMember k v acc = acc ++ [(k, v)] := by
  induction acc with
  | nil => rfl
  | cons m acc ih =>
    obtain ⟨k', v'⟩ := m
    rw [List.forall_mem_cons] at h
    have hne : k ≠ k' := fun heq => String.lt_irrefl k (heq ▸ h.1)
    have hnlt : ¬k < k' := String.lt_asymm h.1
    rw [putMember, if_neg hne, if_neg hnlt, ih h.2, List.cons_append]

/-- Members that come in order are put one behind the other. -/
theorem foldl_putMember_of_increasing (h : Increasing (acc ++ ms)) :
    ms.foldl (fun acc m => putMember m.1 m.2 acc) acc = acc ++ ms := by
  induction ms generalizing acc with
  | nil => exact (List.append_nil acc).symm
  | cons m ms ih =>
    have hlt : ∀ n ∈ acc, n.1 < m.1 := by
      intro n hn
      rw [Increasing, List.map_append, List.pairwise_append] at h
      exact h.2.2 n.1 (List.mem_map_of_mem hn) m.1 List.mem_cons_self
    have hput : putMember m.1 m.2 acc = acc ++ [m] := putMember_of_lt hlt
    rw [List.append_cons] at h ⊢
    rw [List.foldl_cons, hput, ih h]

/-- **Members in order are left as they are.** -/
theorem settleMembers_of_increasing (h : Increasing ms) : settleMembers ms = ms :=
  foldl_putMember_of_increasing h

/-- A member that was put is the new one or one of the old. -/
theorem mem_of_mem_putMember {m : Member} (hm : m ∈ putMember k v ms) : m = (k, v) ∨ m ∈ ms := by
  induction ms with
  | nil => exact .inl (List.mem_singleton.mp hm)
  | cons n ms ih =>
    obtain ⟨k', v'⟩ := n
    rw [putMember] at hm
    split at hm
    · exact (List.mem_cons.mp hm).imp_right (List.mem_cons_of_mem _)
    · split at hm
      · exact List.mem_cons.mp hm
      · rcases List.mem_cons.mp hm with rfl | hm
        · exact .inr List.mem_cons_self
        · exact (ih hm).imp_right (List.mem_cons_of_mem _)

/-- **Putting a member keeps the order.** -/
theorem increasing_putMember (h : Increasing ms) : Increasing (putMember k v ms) := by
  induction ms with
  | nil => exact List.pairwise_singleton _ _
  | cons n ms ih =>
    obtain ⟨k', v'⟩ := n
    have hcons := increasing_cons.mp h
    rw [putMember]
    by_cases heq : k = k'
    · rw [if_pos heq]
      exact increasing_cons.mpr ⟨fun m hm => heq ▸ hcons.1 m hm, hcons.2⟩
    · rw [if_neg heq]
      by_cases hlt : k < k'
      · rw [if_pos hlt]
        refine increasing_cons.mpr ⟨fun m hm => ?_, h⟩
        rcases List.mem_cons.mp hm with rfl | hm
        · exact hlt
        · exact String.lt_trans hlt (hcons.1 m hm)
      · rw [if_neg hlt]
        have hgt : k' < k :=
          String.not_le.mp fun hle => heq (String.le_antisymm hle (String.not_lt.mp hlt))
        refine increasing_cons.mpr ⟨fun m hm => ?_, ih hcons.2⟩
        rcases mem_of_mem_putMember hm with rfl | hm
        · exact hgt
        · exact hcons.1 m hm

theorem foldl_putMember_increasing (h : Increasing acc) :
    Increasing (ms.foldl (fun acc m => putMember m.1 m.2 acc) acc) := by
  induction ms generalizing acc with
  | nil => exact h
  | cons m ms ih => exact ih (increasing_putMember h)

/-- **Settled members are in order.** -/
theorem increasing_settleMembers (ms : List Member) : Increasing (settleMembers ms) :=
  foldl_putMember_increasing increasing_nil

theorem mem_of_mem_foldl_putMember {m : Member}
    (hm : m ∈ ms.foldl (fun acc m => putMember m.1 m.2 acc) acc) : m ∈ acc ∨ m ∈ ms := by
  induction ms generalizing acc with
  | nil => exact .inl hm
  | cons n ms ih =>
    rcases ih hm with hm | hm
    · rcases mem_of_mem_putMember hm with rfl | hm
      · exact .inr List.mem_cons_self
      · exact .inl hm
    · exact .inr (List.mem_cons_of_mem _ hm)

/-- Settling members makes up none. -/
theorem mem_of_mem_settleMembers {m : Member} (hm : m ∈ settleMembers ms) : m ∈ ms :=
  (mem_of_mem_foldl_putMember hm).resolve_left List.not_mem_nil

/-! ### Values in order -/

namespace Value

/-- **Whether a value is in order**: the names of all objects in it strictly increase. -/
inductive Ordered : Value → Prop
  | null : Ordered .null
  | bool (b : Bool) : Ordered (.bool b)
  | integer (n : Int) : Ordered (.integer n)
  | float (x : Binary64) : Ordered (.float x)
  | string (s : String) : Ordered (.string s)
  | array {xs : List Value} (hxs : ∀ x ∈ xs, Ordered x) : Ordered (.array xs)
  | object {ms : List Member} (h : Increasing ms) (hms : ∀ m ∈ ms, Ordered m.2) :
      Ordered (.object ms)

attribute [simp] Ordered.null Ordered.bool Ordered.integer Ordered.float Ordered.string

@[simp] theorem ordered_array_iff {xs : List Value} :
    (array xs).Ordered ↔ ∀ x ∈ xs, x.Ordered := by
  refine ⟨fun h => ?_, .array⟩
  cases h
  assumption

@[simp] theorem ordered_object_iff :
    (object ms).Ordered ↔ Increasing ms ∧ ∀ m ∈ ms, m.2.Ordered := by
  refine ⟨fun h => ?_, fun h => .object h.1 h.2⟩
  cases h
  exact ⟨‹_›, ‹_›⟩

theorem settledElements_eq_map (xs : List Value) : settledElements xs = xs.map settled := by
  induction xs with
  | nil => rfl
  | cons x xs ih => rw [settledElements, ih, List.map_cons]

theorem settledMembers_eq_map (ms : List Member) :
    settledMembers ms = ms.map fun m => (m.1, m.2.settled) := by
  induction ms with
  | nil => rfl
  | cons m ms ih => rw [settledMembers, ih, List.map_cons]

/-- **A value in order is left as it is.** -/
theorem Ordered.settled_eq (h : v.Ordered) : v.settled = v := by
  induction h with
  | null => rfl
  | bool b => rfl
  | integer n => rfl
  | float x => rfl
  | string s => rfl
  | array _ ih => rw [settled, settledElements_eq_map, List.map_congr_left ih, List.map_id']
  | @object ms hinc _ ih =>
    have hms : ms.map (fun m => (m.1, m.2.settled)) = ms.map fun m => m :=
      List.map_congr_left fun m hm => Prod.ext rfl (ih m hm)
    rw [settled, settledMembers_eq_map, hms, List.map_id', settleMembers_of_increasing hinc]

mutual

/-- **Settling puts a value in order.** -/
theorem ordered_settled : ∀ v : Value, v.settled.Ordered
  | .null => .null
  | .bool b => .bool b
  | .integer n => .integer n
  | .float x => .float x
  | .string s => .string s
  | .array xs => .array (ordered_settledElements xs)
  | .object ms =>
    .object (increasing_settleMembers _) fun m hm =>
      ordered_settledMembers ms m (mem_of_mem_settleMembers hm)

theorem ordered_settledElements : ∀ xs : List Value, ∀ x ∈ settledElements xs, x.Ordered
  | [] => fun _ hx => absurd hx List.not_mem_nil
  | x :: xs => List.forall_mem_cons.mpr ⟨ordered_settled x, ordered_settledElements xs⟩

theorem ordered_settledMembers :
    ∀ ms : List (String × Value), ∀ m ∈ settledMembers ms, m.2.Ordered
  | [] => fun _ hm => absurd hm List.not_mem_nil
  | (_, v) :: ms => List.forall_mem_cons.mpr ⟨ordered_settled v, ordered_settledMembers ms⟩

end

end Value

end Rulebook.Json
