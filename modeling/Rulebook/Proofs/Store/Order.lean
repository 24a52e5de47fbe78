import Rulebook.Proofs.Store.Desk

/-!
# Each rule once, and in its place

The service may list a rule twice, create one under an identifier that is known, or
reply about a rule that is gone: the collection still holds each identifier at most
once (`Rulebook.Desk.nodup_ids_after`), because that is so of every list that was cut
down to its first rules and no other confirmation adds an identifier that is there.

Its order is steady as well. Between two loads a rule only ever joins at the end, and
the others close up where one leaves, so two rules that stay keep their order
(`Rulebook.Desk.precedes_after_iff`). The order is that of the places:
`Rulebook.Precedes` compares the places of two identifiers in a list. All of it is
read off `Rulebook.Confirmed.reorder`, which is what a confirmation does to the
identifiers.
-/

namespace Rulebook

open Rule

/-- One identifier stands before another in a list. -/
def Precedes (l : List RuleId) (x y : RuleId) : Prop := l.idxOf x < l.idxOf y

variable {x y : RuleId} {l l' : List RuleId}

/-! ### Places -/

/-- Identifiers that join at the end do not move those that are there. -/
theorem precedes_append_iff (hx : x ∈ l) (hy : y ∈ l) :
    Precedes (l ++ l') x y ↔ Precedes l x y := by
  rw [Precedes, Precedes, List.idxOf_append_of_mem hx, List.idxOf_append_of_mem hy]

/-- Those that are left when some leave stand as before. -/
theorem precedes_filter_iff {p : RuleId → Bool} (hx : p x = true) (hy : p y = true) :
    Precedes (l.filter p) x y ↔ Precedes l x y := by
  induction l with
  | nil => rfl
  | cons z l ih =>
    rw [List.filter_cons]
    by_cases hz : p z = true
    · rw [if_pos hz]
      simp only [Precedes, List.idxOf_cons, cond_eq_ite, beq_iff_eq] at ih ⊢
      by_cases hzx : z = x
      · by_cases hzy : z = y
        · simp only [if_pos hzx, if_pos hzy]
        · simp only [if_pos hzx, if_neg hzy, Nat.zero_lt_succ]
      · by_cases hzy : z = y
        · simp only [if_neg hzx, if_pos hzy, Nat.not_lt_zero]
        · simp only [if_neg hzx, if_neg hzy, Nat.add_lt_add_iff_right]
          exact ih
    · -- the one that leaves is neither of the two, and both move up by one place
      have hzx : z ≠ x := fun h => hz (h ▸ hx)
      have hzy : z ≠ y := fun h => hz (h ▸ hy)
      rw [if_neg hz, ih]
      simp only [Precedes, List.idxOf_cons, cond_eq_ite, beq_iff_eq, if_neg hzx, if_neg hzy,
        Nat.add_lt_add_iff_right]

/-! ### One confirmation -/

namespace Confirmed

variable {c : Confirmed}

/-- **No confirmation makes an identifier stand twice.** -/
theorem nodup_reorder (h : l.Nodup) (c : Confirmed) : (c.reorder l).Nodup := by
  cases c with
  | loaded listed => exact nodup_ids_firsts
  | created r =>
    rw [reorder]
    by_cases hr : r.id ∈ l
    · rw [if_pos hr]
      exact h
    · rw [if_neg hr, List.nodup_append]
      refine ⟨h, List.nodup_singleton _, ?_⟩
      rintro a ha b hb rfl
      rw [List.mem_singleton] at hb
      exact hr (hb ▸ ha)
  | deleted z => exact h.filter _
  | toggled z enabled => exact h
  | updated z text => exact h
  | combined count tree => exact h

/-- **Only a list that was loaded disturbs the order** of two identifiers that are
there before and after. -/
theorem precedes_reorder_iff (hc : ∀ listed, c ≠ .loaded listed) (hx : x ∈ l) (hy : y ∈ l)
    (hx' : x ∈ c.reorder l) (hy' : y ∈ c.reorder l) :
    Precedes (c.reorder l) x y ↔ Precedes l x y := by
  cases c with
  | loaded listed => exact absurd rfl (hc listed)
  | created r =>
    rw [reorder]
    by_cases hr : r.id ∈ l
    · rw [if_pos hr]
    · rw [if_neg hr]
      exact precedes_append_iff hx hy
  | deleted z => exact precedes_filter_iff (List.mem_filter.mp hx').2 (List.mem_filter.mp hy').2
  | toggled z enabled => exact Iff.rfl
  | updated z text => exact Iff.rfl
  | combined count tree => exact Iff.rfl

end Confirmed

/-! ### Histories -/

namespace Desk

variable {d : Desk} {t : Turn} {T : Turned}

/-- The identifiers in the collection of a desk, in its order. -/
def ids (d : Desk) : List RuleId := Rule.ids d.store.rules

/-- The desks that a history passes through, the first and the last one included. -/
def passed (d : Desk) : List Turn → List Desk
  | [] => [d]
  | t :: ts => d :: (d.turn t).desk.passed ts

theorem mem_passed_self (d : Desk) (turns : List Turn) : d ∈ d.passed turns := by
  cases turns with
  | nil => exact List.mem_singleton_self d
  | cons t ts => exact List.mem_cons_self

/-- A turn that confirms nothing leaves the identifiers alone. -/
theorem Goes.ids_of_none (h : d.Goes t T) (hc : T.upshot.confirmed? = none) :
    T.desk.ids = d.ids := by
  rw [ids, h.rules, hc]
  rfl

/-- A turn that confirms something does to the identifiers what was confirmed. -/
theorem Goes.ids_of_some {c : Confirmed} (h : d.Goes t T) (hc : T.upshot.confirmed? = some c) :
    T.desk.ids = c.reorder d.ids := by
  rw [ids, h.rules, hc]
  exact Confirmed.ids_settle c

theorem Goes.nodup_ids (h : d.Goes t T) (hd : d.ids.Nodup) : T.desk.ids.Nodup := by
  cases hc : T.upshot.confirmed? with
  | none =>
    rw [h.ids_of_none hc]
    exact hd
  | some c =>
    rw [h.ids_of_some hc]
    exact Confirmed.nodup_reorder hd c

/-- **Each rule once**, in every state of a store. -/
theorem nodup_ids_after (guarded : Bool) (turns : List Turn) :
    ((empty guarded).after turns).ids.Nodup :=
  after_induction (d := empty guarded) (P := fun d => d.ids.Nodup) List.nodup_nil
    (fun h hd => h.nodup_ids hd) turns

/-- **One turn keeps the order** of two rules that are there before and after it,
unless it brings in a list. -/
theorem Goes.precedes_iff (h : d.Goes t T)
    (hload : ∀ listed, T.upshot.confirmed? ≠ some (.loaded listed))
    (hx : x ∈ d.ids) (hy : y ∈ d.ids) (hx' : x ∈ T.desk.ids) (hy' : y ∈ T.desk.ids) :
    Precedes T.desk.ids x y ↔ Precedes d.ids x y := by
  cases hc : T.upshot.confirmed? with
  | none => rw [h.ids_of_none hc]
  | some c =>
    rw [h.ids_of_some hc] at hx' hy' ⊢
    refine Confirmed.precedes_reorder_iff (fun listed => ?_) hx hy hx' hy'
    rintro rfl
    exact hload listed hc

/-- Only a list that comes in confirms a load. -/
theorem loaded_notMem_confirmed {turns : List Turn}
    (hload : ∀ listed, ⟨.load, .rules listed⟩ ∉ d.heard turns) :
    ∀ listed, Confirmed.loaded listed ∉ d.confirmed turns := by
  intro listed hmem
  obtain ⟨e, he, hc⟩ := List.mem_filterMap.mp hmem
  obtain rfl := Heard.eq_of_loaded hc
  exact hload listed he

/-- **A stretch without a load keeps the order** of two rules that stay. -/
theorem precedes_after_iff {turns : List Turn}
    (hload : ∀ listed, Confirmed.loaded listed ∉ d.confirmed turns)
    (hstay : ∀ e ∈ d.passed turns, x ∈ e.ids ∧ y ∈ e.ids) :
    Precedes (d.after turns).ids x y ↔ Precedes d.ids x y := by
  induction turns generalizing d with
  | nil => exact Iff.rfl
  | cons t ts ih =>
    obtain ⟨hx, hy⟩ := hstay d List.mem_cons_self
    have hrest : ∀ e ∈ (d.turn t).desk.passed ts, x ∈ e.ids ∧ y ∈ e.ids :=
      fun e he => hstay e (List.mem_cons_of_mem d he)
    obtain ⟨hx', hy'⟩ := hrest _ (mem_passed_self _ ts)
    simp only [confirmed_cons, List.mem_append, not_or, Option.mem_toList] at hload
    have hstep := (d.goes_turn t).precedes_iff (fun listed => (hload listed).1) hx hy hx' hy'
    exact (ih (fun listed => (hload listed).2) hrest).trans hstep

/-- **Each rule once and in its place.** In every state of a store, guarded or not, and
after whatever the service replied, no identifier is in the collection twice. From
there on,

* over a stretch in which no list comes in, two rules that stay keep their order;
* a rule that was created stands behind every rule that is there, if it is new, and
  otherwise leaves every rule in its place. -/
theorem unique_and_ordered_after (guarded : Bool) (history : List Turn) :
    let d := (empty guarded).after history
    d.ids.Nodup ∧
      (∀ stretch x y, (∀ listed, ⟨.load, .rules listed⟩ ∉ d.heard stretch) →
        (∀ e ∈ d.passed stretch, x ∈ e.ids ∧ y ∈ e.ids) →
        (Precedes (d.after stretch).ids x y ↔ Precedes d.ids x y)) ∧
      ∀ t text r, d.heard? t = some ⟨.create text, .rule r⟩ →
        (r.id ∉ d.ids → (d.turn t).desk.ids = d.ids ++ [r.id]) ∧
        (r.id ∈ d.ids → (d.turn t).desk.ids = d.ids) := by
  intro d
  refine ⟨nodup_ids_after guarded history, fun stretch x y hload => ?_, ?_⟩
  · exact precedes_after_iff (loaded_notMem_confirmed hload)
  · intro t text r ht
    have hids : (d.turn t).desk.ids = Confirmed.reorder d.ids (.created r) := by
      refine (d.goes_turn t).ids_of_some ?_
      rw [confirmed?_turn, ht]
      rfl
    rw [hids, Confirmed.reorder]
    exact ⟨fun hr => if_neg hr, fun hr => if_pos hr⟩

end Desk

end Rulebook
