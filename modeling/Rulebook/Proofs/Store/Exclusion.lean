import Rulebook.Proofs.InFlight
import Rulebook.Proofs.Store.Desk

/-!
# One change at a time for each rule

A guarded store lets no two operations that change the same rule wait at the same
time. Nothing in it refers from an entry of the registry to the operation that is
behind it: an entry is made when an operation starts and is taken out, by its rule
alone, when that operation ends, however it ends – and meanwhile the rule itself may
have been deleted, loaded again or created again.

What makes this sound is the invariant `Rulebook.Desk.Guarded`: the registry is, entry
by entry and in the same order, the list of what the waiting operations claim
(`Rulebook.Request.claim?`), and no rule is claimed twice. So an entry that is taken
out by its rule is the entry of the operation that ended.

From the invariant everything that a caller sees follows
(`Rulebook.Desk.exclusion_after`): an operation on a rule is refused as busy exactly
when another one waits, the refusal names that one, and nobody else is ever refused.
-/

namespace Rulebook

open InFlight

/-- The entry of an operation in the registry, while it waits. -/
def Request.claim? (r : Request) : Option (RuleId × Operation) := r.target?.map (·, r.operation)

namespace Desk

/-- **The invariant of a guarded store**: its registry lists what the waiting
operations claim, and no rule is claimed twice. -/
structure Guarded (d : Desk) (g : Registry) : Prop where
  guard : d.store.guard? = some g
  entries : g.entries = d.waiting.filterMap Request.claim?
  nodup : (d.waiting.filterMap Request.target?).Nodup

variable {d : Desk} {g : Registry} {t : Turn} {T : Turned} {r q : Request} {id : RuleId}
  {op : Operation}

/-! ### Claims -/

theorem claim?_eq_some_iff : r.claim? = some (id, op) ↔ r.target? = some id ∧ r.operation = op := by
  simp [Request.claim?]

theorem claim?_of_target (h : r.target? = some id) : r.claim? = some (id, r.operation) :=
  claim?_eq_some_iff.mpr ⟨h, rfl⟩

theorem claim?_of_untargeted (h : r.target? = none) : r.claim? = none := by
  rw [Request.claim?, h]
  rfl

/-- The rules with an entry are the rules that the waiting operations are about. -/
theorem Guarded.busyIds (h : d.Guarded g) : g.busyIds = d.waiting.filterMap Request.target? := by
  rw [Registry.busyIds, h.entries, List.map_filterMap]
  refine List.filterMap_congr fun r _ => ?_
  rw [Request.claim?, Option.map_map]
  exact Option.map_id'

theorem Guarded.nodup_busyIds (h : d.Guarded g) : g.busyIds.Nodup := by
  rw [h.busyIds]
  exact h.nodup

theorem Guarded.mem_entries_iff (h : d.Guarded g) :
    (id, op) ∈ g.entries ↔ ∃ q ∈ d.waiting, q.target? = some id ∧ q.operation = op := by
  rw [h.entries, List.mem_filterMap]
  simp only [claim?_eq_some_iff]

/-! ### One step -/

theorem guarded_empty : (empty true).Guarded .empty :=
  ⟨rfl, rfl, List.nodup_nil⟩

/-- Starting an operation makes the entry it claims. -/
theorem Guarded.enrol (h : d.Guarded g) {store : Store} (he : d.store.enrol r = .ok store) :
    ∃ g', Guarded ⟨store, d.waiting ++ [r]⟩ g' := by
  cases ht : r.target? with
  | none =>
    rw [Store.enrol_of_untargeted ht] at he
    obtain rfl : d.store = store := Except.ok.inj he
    refine ⟨g, h.guard, ?_, ?_⟩
    · rw [h.entries, List.filterMap_append, List.filterMap_cons_none (claim?_of_untargeted ht),
        List.filterMap_nil, List.append_nil]
    · rw [List.filterMap_append, List.filterMap_cons_none ht, List.filterMap_nil, List.append_nil]
      exact h.nodup
  | some id =>
    rw [Store.enrol_of_guarded h.guard ht] at he
    cases ha : g.acquire id r.operation with
    | error failure => rw [ha] at he; cases he
    | ok g' =>
      rw [ha] at he
      obtain rfl := Except.ok.inj he
      obtain ⟨hfree, hg'⟩ := Registry.acquire_eq_ok_iff.mp ha
      refine ⟨g', rfl, ?_, ?_⟩
      · rw [hg', List.filterMap_append, List.filterMap_cons_some (claim?_of_target ht),
          List.filterMap_nil, h.entries]
      · rw [List.filterMap_append, List.filterMap_cons_some ht, List.filterMap_nil,
          ← h.busyIds]
        rw [List.nodup_append]
        refine ⟨h.nodup_busyIds, List.nodup_singleton _, ?_⟩
        rintro a ha b hb rfl
        rw [List.mem_singleton] at hb
        exact hfree (hb ▸ ha)

/-- Ending an operation takes out the entry it claimed, and no other. -/
theorem Guarded.abandon (h : d.Guarded g) {before after : List Request}
    (hw : d.waiting = before ++ r :: after) :
    ∃ g', Guarded ⟨d.store.abandon r, before ++ after⟩ g' := by
  have hn := h.nodup
  rw [hw, List.filterMap_append] at hn
  cases ht : r.target? with
  | none =>
    rw [List.filterMap_cons_none ht, ← List.filterMap_append] at hn
    refine ⟨g, ?_, ?_, hn⟩
    · rw [Store.abandon_of_untargeted ht]
      exact h.guard
    · rw [h.entries, hw, List.filterMap_append, List.filterMap_append,
        List.filterMap_cons_none (claim?_of_untargeted ht)]
  | some id =>
    rw [List.filterMap_cons_some ht] at hn
    have he : g.entries =
        before.filterMap Request.claim? ++ (id, r.operation) :: after.filterMap Request.claim? := by
      rw [h.entries, hw, List.filterMap_append, List.filterMap_cons_some (claim?_of_target ht)]
    refine ⟨g.release id, ?_, ?_, ?_⟩
    · rw [Store.abandon_of_guarded h.guard ht]
    · rw [Registry.release_entries he h.nodup_busyIds, List.filterMap_append]
    · rw [List.filterMap_append]
      exact (List.nodup_cons.mp (List.nodup_middle.mp hn)).2

/-- Whatever the reply is, the entry is taken out when it comes in. -/
theorem Guarded.finish (h : d.Guarded g) {before after : List Request}
    (hw : d.waiting = before ++ r :: after) (reply : Reply) :
    ∃ g', Guarded ⟨(d.store.finish r reply).store, before ++ after⟩ g' := by
  obtain ⟨g', hg'⟩ := h.abandon hw
  cases hr : reply.bind r.confirm with
  | error lapse =>
    rw [Store.finish_of_error hr]
    exact ⟨g', hg'⟩
  | ok c =>
    rw [Store.finish_of_ok hr]
    exact ⟨g', (Store.apply_guard? _ _).trans hg'.guard, hg'.entries, hg'.nodup⟩

/-- **Every turn preserves the invariant.** -/
theorem Guarded.goes (h : d.Guarded g) (ht : d.Goes t T) : ∃ g', T.desk.Guarded g' := by
  cases ht with
  | refused hs => exact ⟨g, h⟩
  | asked hc he => exact h.enrol he
  | failed hw hr => exact h.abandon hw
  | @confirmed before after r reply c hw hr =>
    have hf := h.finish hw reply
    rw [Store.finish_of_ok hr] at hf
    exact hf
  | dropped hw => exact h.abandon hw
  | idle => exact ⟨g, h⟩

/-- **The invariant holds in every state of a guarded store.** -/
theorem guarded_after (turns : List Turn) : ∃ g, ((empty true).after turns).Guarded g := by
  refine after_induction (P := fun d => ∃ g, d.Guarded g) ⟨.empty, guarded_empty⟩ ?_ turns
  rintro d t T ht ⟨g, hg⟩
  exact hg.goes ht

/-! ### What the invariant says of the waiting operations -/

/-- An operation that waits is the only one on its rule. -/
theorem Guarded.filter_target (h : d.Guarded g) (hr : r ∈ d.waiting) (ht : r.target? = some id) :
    d.waiting.filter (·.target? == some id) = [r] := by
  obtain ⟨before, after, hw⟩ := List.append_of_mem hr
  have hn := h.nodup
  rw [hw, List.filterMap_append, List.filterMap_cons_some ht] at hn
  obtain ⟨hid, -⟩ := List.nodup_cons.mp (List.nodup_middle.mp hn)
  rw [← List.filterMap_append] at hid
  have hother : ∀ q ∈ before ++ after, ¬(q.target? == some id) = true := fun q hq hqt =>
    hid (List.mem_filterMap.mpr ⟨q, hq, beq_iff_eq.mp hqt⟩)
  rw [List.forall_mem_append] at hother
  rw [hw, List.filter_append, List.filter_cons, if_pos (beq_iff_eq.mpr ht),
    List.filter_eq_nil_iff.mpr hother.1, List.filter_eq_nil_iff.mpr hother.2, List.nil_append]

/-- The entries are those of the rules on which exactly one operation waits. -/
theorem Guarded.mem_entries_iff_filter (h : d.Guarded g) :
    (id, op) ∈ g.entries ↔
      ∃ q, d.waiting.filter (·.target? == some id) = [q] ∧ q.operation = op := by
  rw [h.mem_entries_iff]
  constructor
  · rintro ⟨q, hq, ht, hop⟩
    exact ⟨q, h.filter_target hq ht, hop⟩
  · rintro ⟨q, hf, hop⟩
    have hq : q ∈ d.waiting.filter (·.target? == some id) := hf ▸ List.mem_singleton_self q
    obtain ⟨hmem, ht⟩ := List.mem_filter.mp hq
    exact ⟨q, hmem, beq_iff_eq.mp ht, hop⟩

/-- The operations that wait on one rule are one operation. -/
theorem Guarded.op_unique (h : d.Guarded g) (hr : r ∈ d.waiting) (hrt : r.target? = some id)
    (hq : q ∈ d.waiting) (hqt : q.target? = some id) : r.operation = q.operation :=
  Registry.op_eq_of_mem h.nodup_busyIds (h.mem_entries_iff.mpr ⟨r, hr, hrt, rfl⟩)
    (h.mem_entries_iff.mpr ⟨q, hq, hqt, rfl⟩)

theorem Guarded.length_filter_le (h : d.Guarded g) (id : RuleId) :
    (d.waiting.filter (·.target? == some id)).length ≤ 1 := by
  cases hf : d.waiting.filter (·.target? == some id) with
  | nil => exact Nat.zero_le 1
  | cons q qs =>
    have hq : q ∈ d.waiting.filter (·.target? == some id) := hf ▸ List.mem_cons_self
    obtain ⟨hmem, ht⟩ := List.mem_filter.mp hq
    rw [← hf, h.filter_target hmem (beq_iff_eq.mp ht)]
    exact Nat.le_refl 1

end Desk

/-! ### What a caller sees -/

namespace Store

variable {s : Store} {g : Registry} {r : Request} {id : RuleId} {op : Operation}

/-- Before the registry, an operation on a rule is held against the collection. -/
theorem check_of_target (ht : r.target? = some id)
    (htext : ∀ text, r = .update id text → Text.blank text = false) :
    s.check r = s.require id := by
  cases r with
  | delete id' => obtain rfl := Option.some.inj ht; rfl
  | toggle id' => obtain rfl := Option.some.inj ht; rfl
  | update id' text =>
    obtain rfl := Option.some.inj ht
    rw [check, checkRuleText, htext text rfl]
    rfl
  | _ => cases ht

/-- What no single check fails with, a list of checks does not fail with. -/
theorem forM_ne_error {check : RuleId → Except Failure Unit} {failure : Failure}
    (h : ∀ id, check id ≠ .error failure) (ids : List RuleId) :
    ids.forM check ≠ .error failure := by
  induction ids with
  | nil => intro h'; cases h'
  | cons id ids ih =>
    change (check id >>= fun _ => ids.forM check) ≠ .error failure
    cases hc : check id with
    | error failure' => exact fun h' => h id (hc.trans h')
    | ok u => exact ih

theorem require_of_not_contains (h : s.contains id = false) :
    s.require id = .error (.ruleNotFound id) := by
  rw [require, if_neg (by rw [h]; exact Bool.false_ne_true)]

theorem require_eq_ok_iff : s.require id = .ok () ↔ s.contains id = true := by
  cases h : s.contains id with
  | false =>
    rw [require_of_not_contains h]
    constructor
    · intro h'
      cases h'
    · intro h'
      cases h'
  | true => rw [require, if_pos h, eq_self_iff_true, eq_self_iff_true]

/-- **What the checks find fault with**: the text is blank, no rule is named, or one that is
named is not there. -/
theorem check_error_cases {failure : Failure} (h : s.check r = .error failure) :
    failure = .emptyRuleText ∨ failure = .emptySelection ∨ ∃ x, failure = .ruleNotFound x := by
  have hrequire : ∀ x, s.require x = .error failure → failure = .ruleNotFound x := by
    intro x h
    rw [require] at h
    split at h
    · cases h
    · exact (Except.error.inj h).symm
  have htext : ∀ text, checkRuleText text = .error failure → failure = .emptyRuleText := by
    intro text h
    rw [checkRuleText] at h
    split at h
    · exact (Except.error.inj h).symm
    · cases h
  cases r with
  | load => cases h
  | create text => exact Or.inl (htext text h)
  | delete x => exact Or.inr (Or.inr ⟨x, hrequire x h⟩)
  | toggle x => exact Or.inr (Or.inr ⟨x, hrequire x h⟩)
  | update x text =>
    cases ht : checkRuleText text with
    | error failure' =>
      rw [check, ht] at h
      exact Or.inl (htext text (ht.trans h))
    | ok u =>
      rw [check, ht] at h
      exact Or.inr (Or.inr ⟨x, hrequire x h⟩)
  | combine ids =>
    rw [check] at h
    split at h
    · exact Or.inr (Or.inl (Except.error.inj h).symm)
    · -- some rule of the list was not found
      by_contra hno
      exact forM_ne_error (fun x hx => hno (Or.inr (Or.inr ⟨x, hrequire x hx⟩))) ids h

/-- What is held against the collection and the text is never busy. -/
theorem check_ne_busy {other : RuleId} (h : s.check r = .error (.busy other op)) : False := by
  rcases check_error_cases h with h | h | ⟨x, h⟩
  · cases h
  · cases h
  · cases h

/-- **Busy**: an operation on a rule with an entry is refused, and the refusal names
the operation that has it. -/
theorem start_of_busy (hg : s.guard? = some g) (ht : r.target? = some id)
    (hc : s.check r = .ok ()) (ho : g.operationOn? id = some op) :
    s.start r = ⟨s, .error (.busy id op), []⟩ := by
  refine start_of_enrol_error hc ?_
  rw [enrol_of_guarded hg ht, Registry.acquire_of_busy ho]
  rfl

/-- **Free**: an operation on a rule without an entry asks the service. -/
theorem start_of_free (hg : s.guard? = some g) (ht : r.target? = some id)
    (hc : s.check r = .ok ()) (ho : g.operationOn? id = none) :
    s.start r =
      ⟨{ s with guard? := some ⟨g.entries ++ [(id, r.operation)]⟩ }, .ok r.call, []⟩ := by
  refine start_of_enrol hc ?_
  rw [enrol_of_guarded hg ht, Registry.acquire_of_free ho]
  rfl

/-- An operation that is refused asks the service nothing. -/
theorem perform_of_refused {failure : Failure} {log : List Event}
    (h : s.start r = ⟨s, .error failure, log⟩) {σ : Type} (svc : Service σ) (w : σ) :
    (s.perform svc r w).2 = w := by
  rw [perform, h]

end Store

namespace Desk

variable {d : Desk} {g : Registry} {r : Request} {id : RuleId} {op : Operation}

/-- **An operation on a known rule**: it is refused as busy, by the name of the
operation that waits on the rule, or else it asks the service. -/
theorem Guarded.start_present (h : d.Guarded g) (ht : r.target? = some id)
    (hc : d.store.check r = .ok ()) :
    (∃ q ∈ d.waiting, q.target? = some id ∧
        d.store.start r = ⟨d.store, .error (.busy id q.operation), []⟩) ∨
      ((∀ q ∈ d.waiting, q.target? ≠ some id) ∧
        (d.turn (.start r)).upshot = .asked r.call) := by
  cases ho : g.operationOn? id with
  | some op =>
    obtain ⟨q, hq, hqt, rfl⟩ := h.mem_entries_iff.mp (Registry.mem_of_operationOn? ho)
    exact Or.inl ⟨q, hq, hqt, Store.start_of_busy h.guard ht hc ho⟩
  | none =>
    refine Or.inr ⟨fun q hq hqt => ?_, ?_⟩
    · rw [Registry.operationOn?_eq_none_iff, h.busyIds] at ho
      exact ho (List.mem_filterMap.mpr ⟨q, hq, hqt⟩)
    · rw [turn_start_of_asked (Store.start_of_free h.guard ht hc ho)]

/-- **Who is refused as busy, in one state**: whoever asks for a rule on which an
operation waits, and that operation is named. The service is not asked then, and
otherwise it is. -/
theorem Guarded.start_known (h : d.Guarded g) (ht : r.target? = some id)
    (hc : d.store.check r = .ok ()) :
    (∀ op, (d.turn (.start r)).upshot = .refused (.busy id op) ↔
        ∃ q ∈ d.waiting, q.target? = some id ∧ q.operation = op) ∧
      ((∃ q ∈ d.waiting, q.target? = some id) →
        ∀ (σ : Type) (svc : Service σ) (w : σ), (d.store.perform svc r w).2 = w) ∧
      ((∀ q ∈ d.waiting, q.target? ≠ some id) → (d.turn (.start r)).upshot = .asked r.call) := by
  rcases h.start_present ht hc with ⟨q, hq, hqt, hs⟩ | ⟨hno, hasked⟩
  · refine ⟨fun op => ?_, fun _ σ svc w => Store.perform_of_refused hs svc w,
      fun hno => absurd hqt (hno q hq)⟩
    rw [turn_start_of_refused hs]
    constructor
    · intro hb
      injection hb with hb
      injection hb with hid hop
      exact ⟨q, hq, hqt, hop⟩
    · rintro ⟨q', hq', hqt', rfl⟩
      rw [h.op_unique hq hqt hq' hqt']
  · refine ⟨fun op => ?_, fun ⟨q, hq, hqt⟩ => absurd hqt (hno q hq), fun _ => hasked⟩
    rw [hasked]
    constructor
    · intro hb
      cases hb
    · rintro ⟨q, hq, hqt, -⟩
      exact absurd hqt (hno q hq)

/-- A registry is not asked about an operation without a target. -/
theorem start_untargeted (ht : r.target? = none) :
    (d.turn (.start r)).desk.store = d.store ∧
      ∀ id op, (d.turn (.start r)).upshot ≠ .refused (.busy id op) := by
  cases hc : d.store.check r with
  | ok u =>
    rw [turn_start_of_asked (Store.start_of_enrol hc (Store.enrol_of_untargeted ht))]
    exact ⟨rfl, fun id op h => by cases h⟩
  | error failure =>
    rw [turn_start_of_refused (Store.start_of_check_error hc)]
    refine ⟨rfl, fun id op h => ?_⟩
    obtain rfl := Upshot.refused.inj h
    exact Store.check_ne_busy hc

/-- **Exclusion, and exactly who is busy.** In every state of a guarded store, after
whatever was started, ended and given up:

* a rule has an entry, for an operation, exactly when one operation waits on it, which
  is that one; there are never two, and with nothing waiting the registry is empty;
* an operation on a rule in the collection is refused as busy, without asking the
  service, exactly when another one waits on the rule, and names that one; otherwise it
  asks the service;
* an operation on a rule that is not in the collection is told so, whoever waits on it;
* an operation that is on no single rule makes no entry and is never refused as busy. -/
theorem exclusion_after (turns : List Turn) :
    let d := (empty true).after turns
    ∃ g, d.store.guard? = some g ∧
      (∀ id op, (id, op) ∈ g.entries ↔
        ∃ q, d.waiting.filter (·.target? == some id) = [q] ∧ q.operation = op) ∧
      (∀ id, (d.waiting.filter (·.target? == some id)).length ≤ 1) ∧
      (d.waiting = [] → g = .empty) ∧
      (∀ r id, r.target? = some id → (∀ text, r = .update id text → Text.blank text = false) →
        (d.store.contains id = true →
          (∀ op, (d.turn (.start r)).upshot = .refused (.busy id op) ↔
            ∃ q ∈ d.waiting, q.target? = some id ∧ q.operation = op) ∧
          ((∃ q ∈ d.waiting, q.target? = some id) →
            ∀ (σ : Type) (svc : Service σ) (w : σ), (d.store.perform svc r w).2 = w) ∧
          ((∀ q ∈ d.waiting, q.target? ≠ some id) →
            (d.turn (.start r)).upshot = .asked r.call)) ∧
        (d.store.contains id = false →
          (d.turn (.start r)).upshot = .refused (.ruleNotFound id))) ∧
      ∀ r, r.target? = none →
        (d.turn (.start r)).desk.store.guard? = some g ∧
        ∀ id op, (d.turn (.start r)).upshot ≠ .refused (.busy id op) := by
  intro d
  obtain ⟨g, hg⟩ := guarded_after turns
  refine ⟨g, hg.guard, fun id op => hg.mem_entries_iff_filter, hg.length_filter_le, ?_, ?_, ?_⟩
  · intro hw
    have he : g.entries = [] := by
      rw [hg.entries]
      exact congrArg (List.filterMap Request.claim?) hw
    cases g
    rw [Registry.empty, ← he]
  · intro r id ht htext
    have hcheck : d.store.check r = d.store.require id := Store.check_of_target ht htext
    refine ⟨fun hp => ?_, fun hp => ?_⟩
    · exact hg.start_known ht (hcheck.trans (Store.require_eq_ok_iff.mpr hp))
    · rw [Store.require_of_not_contains hp] at hcheck
      rw [turn_start_of_refused (Store.start_of_check_error hcheck)]
  · intro r ht
    obtain ⟨hstore, hbusy⟩ := start_untargeted (d := d) ht
    rw [hstore]
    exact ⟨hg.guard, hbusy⟩

end Desk

end Rulebook
