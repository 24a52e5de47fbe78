import Rulebook.Proofs.Store.Frame

/-!
# A failed operation leaves no trace

An operation can come to nothing in many ways: it is refused, its call goes wrong, or it
is given up while it waits. In none of them does it leave anything behind, whatever else
is under way at the same time. What there could be left is of two kinds:

* what the store shows, that is the collection and what was published of it
  (`Rulebook.Store.Alike`);
* the entry in the registry, which a waiting operation has in a guarded store. It has to
  go, and the entries of the others have to stay (`Rulebook.Desk.Undone`). The entry is
  taken out by its rule alone, so this needs the invariant of the guard: no other waiting
  operation is on that rule.

The first kind is a matter of one step in any state, the second of the states that a
history leads to (`Rulebook.Desk.tallied_after`).
-/

namespace Rulebook

/-- What a part of the journal reports as errors. -/
def errors (log : List Event) : List Event := log.filter (·.level == .error)

/-- A refusal is no error for the journal. -/
theorem errors_refusalLog (failure : Failure) : errors (Store.refusalLog failure) = [] := by
  cases failure <;> rfl

namespace Store

variable {s : Store} {r : Request} {failure : Failure} {σ : Type}

/-- **A failed operation that was carried out in one go leaves the very same store**, the
registry included, and reports an error exactly if the call went wrong. -/
theorem perform_of_error {svc : Service σ} {w : σ}
    (h : (s.perform svc r w).1.result = .error failure) :
    (s.perform svc r w).1.store = s ∧
      ((Refusal failure ∧ errors (s.perform svc r w).1.log = []) ∨
        ∃ lapse, (svc.ask r.call w).1.bind r.confirm = .error lapse ∧
          failure = .call lapse ∧
          errors (s.perform svc r w).1.log = [.callFailed lapse]) := by
  rcases perform_cases svc s r w with
    ⟨failure', href, hp⟩ | ⟨-, ⟨lapse, hreply, hp⟩ | ⟨c, hreply, hp⟩⟩
  · rw [hp] at h ⊢
    obtain rfl : failure' = failure := Except.error.inj h
    refine ⟨rfl, Or.inl ⟨href, ?_⟩⟩
    cases href <;> rfl
  · rw [hp] at h ⊢
    exact ⟨rfl, Or.inr ⟨lapse, hreply, (Except.error.inj h).symm, rfl⟩⟩
  · rw [hp] at h
    cases h

end Store

namespace Desk

variable {d : Desk} {t : Turn} {T : Turned} {r : Request} {before after : List Request}
  {e : RuleId × Operation}

/-! ### Entries -/

/-- The entries in the registry of a desk; without a guard there are none. -/
def entries (d : Desk) : List (RuleId × Operation) :=
  match d.store.guard? with
  | some g => g.entries
  | none => []

/-- A desk that has no guard, or whose registry lists what the waiting operations
claim. -/
def Tallied (d : Desk) : Prop := d.store.guard? = none ∨ ∃ g, d.Guarded g

theorem entries_of_unguarded (h : d.store.guard? = none) : d.entries = [] := by
  rw [entries, h]

theorem entries_of_guarded {g : InFlight.Registry} (h : d.Guarded g) :
    d.entries = d.waiting.filterMap Request.claim? := by
  rw [entries, h.guard]
  exact h.entries

/-- No turn sets up a guard. -/
theorem Goes.unguarded (h : d.Goes t T) (hd : d.store.guard? = none) :
    T.desk.store.guard? = none := by
  cases h with
  | refused hs => exact hd
  | asked hc he =>
    rw [Store.enrol_of_unguarded hd] at he
    rw [← Except.ok.inj he]
    exact hd
  | failed hw hr => rw [Store.abandon_of_unguarded hd]; exact hd
  | confirmed hw hr => rw [Store.apply_guard?, Store.abandon_of_unguarded hd]; exact hd
  | dropped hw => rw [Store.abandon_of_unguarded hd]; exact hd
  | idle => exact hd

theorem Goes.tallied (h : d.Goes t T) (hd : d.Tallied) : T.desk.Tallied := by
  rcases hd with hd | ⟨g, hg⟩
  · exact Or.inl (h.unguarded hd)
  · exact Or.inr (hg.goes h)

/-- **The registry is in order in every state** of a store, guarded or not. -/
theorem tallied_after (guarded : Bool) (turns : List Turn) :
    ((empty guarded).after turns).Tallied := by
  refine after_induction ?_ (fun h hd => h.tallied hd) turns
  cases guarded with
  | false => exact Or.inl rfl
  | true => exact Or.inr ⟨.empty, guarded_empty⟩

/-- **A start makes the entry that it claims**, and no other. -/
theorem Tallied.mem_entries_asked (hd : d.Tallied) {s : Store} (he : d.store.enrol r = .ok s) :
    e ∈ entries ⟨s, d.waiting ++ [r]⟩ ↔
      e ∈ d.entries ∨ d.store.guarded = true ∧ r.claim? = some e := by
  rcases hd with hd | ⟨g, hg⟩
  · rw [Store.enrol_of_unguarded hd] at he
    obtain rfl : d.store = s := Except.ok.inj he
    have hno : entries ⟨d.store, d.waiting ++ [r]⟩ = [] := entries_of_unguarded hd
    simp [hno, entries_of_unguarded hd, Store.guarded, hd]
  · obtain ⟨g', hg'⟩ := hg.enrol he
    rw [entries_of_guarded hg', entries_of_guarded hg]
    simp [List.mem_filterMap, Store.guarded, hg.guard]

/-- **An end takes out the entry that was claimed**, and no other. -/
theorem Tallied.mem_entries_abandoned (hd : d.Tallied) (hw : d.waiting = before ++ r :: after) :
    e ∈ entries ⟨d.store.abandon r, before ++ after⟩ ↔ e ∈ d.entries ∧ r.claim? ≠ some e := by
  rcases hd with hd | ⟨g, hg⟩
  · rw [Store.abandon_of_unguarded hd]
    have hno : entries ⟨d.store, before ++ after⟩ = [] := entries_of_unguarded hd
    simp [hno, entries_of_unguarded hd]
  · obtain ⟨g', hg'⟩ := hg.abandon hw
    rw [entries_of_guarded hg', entries_of_guarded hg, hw, List.mem_filterMap, List.mem_filterMap]
    constructor
    · rintro ⟨q, hq, hqe⟩
      refine ⟨⟨q, List.perm_middle.mem_iff.mpr (List.mem_cons_of_mem r hq), hqe⟩, fun hre => ?_⟩
      -- two operations that claim one entry are on one rule, and so are one
      obtain ⟨id, op⟩ := e
      have hn := hg.nodup
      rw [hw, List.filterMap_append,
        List.filterMap_cons_some (claim?_eq_some_iff.mp hre).1] at hn
      refine (List.nodup_cons.mp (List.nodup_middle.mp hn)).1 ?_
      rw [← List.filterMap_append]
      exact List.mem_filterMap.mpr ⟨q, hq, (claim?_eq_some_iff.mp hqe).1⟩
    · rintro ⟨⟨q, hq, hqe⟩, hne⟩
      rcases List.mem_cons.mp (List.perm_middle.mem_iff.mp hq) with rfl | hq
      · exact absurd hqe hne
      · exact ⟨q, hq, hqe⟩

/-! ### Operations that come to nothing -/

/-- **An operation that waited is gone without a trace**: the store shows the same, and of
the entries only that of the operation is missing. -/
structure Undone (d : Desk) (r : Request) (d' : Desk) : Prop where
  alike : d.store.Alike d'.store
  entries : ∀ e, e ∈ d'.entries ↔ e ∈ d.entries ∧ r.claim? ≠ some e

theorem Tallied.undone (hd : d.Tallied) (hw : d.waiting = before ++ r :: after) :
    d.Undone r ⟨d.store.abandon r, before ++ after⟩ :=
  ⟨Store.alike_abandon _ _, fun _ => hd.mem_entries_abandoned hw⟩

/-- **A failed operation leaves no trace.** In every state of a store, guarded or not and
whatever else is waiting:

* an operation that is refused, for one of the four reasons there are, leaves everything
  as it is and reports no error;
* an operation that asks the service makes its entry, if the store is guarded, and nothing
  else;
* an operation that waited and whose call went wrong, or that is given up, leaves what the
  store shows as it is, and takes its own entry with it and no other. The caller is told
  the failure as the service gave it, and that is the one error that is reported, with its
  operation, its status, its body and its message; an operation that is given up reports
  none;
* and an operation that fails in one go leaves the very same store. -/
theorem no_trace_after (guarded : Bool) (history : List Turn) :
    let d := (empty guarded).after history
    (∀ r failure, (d.turn (.start r)).upshot = .refused failure →
      Refusal failure ∧ (d.turn (.start r)).desk = d ∧ errors (d.turn (.start r)).log = []) ∧
    (∀ r call, (d.turn (.start r)).upshot = .asked call →
      d.store.Alike (d.turn (.start r)).desk.store ∧
      (∀ e, e ∈ (d.turn (.start r)).desk.entries ↔
        e ∈ d.entries ∨ d.store.guarded = true ∧ r.claim? = some e) ∧
      errors (d.turn (.start r)).log = []) ∧
    (∀ place r, d.waiting[place]? = some r →
      (∀ lapse, (d.turn (.finish place (.error lapse))).upshot = .ended (.error (.call lapse))) ∧
      (∀ reply failure, (d.turn (.finish place reply)).upshot = .ended (.error failure) →
        d.Undone r (d.turn (.finish place reply)).desk ∧
        ∃ lapse, reply.bind r.confirm = .error lapse ∧ failure = .call lapse ∧
          errors (d.turn (.finish place reply)).log = [.callFailed lapse] ∧
          (Event.callFailed lapse).fields =
            [("operation", lapse.operation.name), ("status", Event.shownStatus lapse.fault.status),
              ("body", lapse.fault.body.getD ""), ("error", lapse.fault.message)]) ∧
      (d.turn (.abandon place)).upshot = .dropped ∧
      d.Undone r (d.turn (.abandon place)).desk ∧ errors (d.turn (.abandon place)).log = []) ∧
    ∀ (σ : Type) (svc : Service σ) (w : σ) (r : Request) (failure : Failure),
      (d.store.perform svc r w).1.result = .error failure →
      (d.store.perform svc r w).1.store = d.store ∧
        ((Refusal failure ∧ errors (d.store.perform svc r w).1.log = []) ∨
          ∃ lapse, (svc.ask r.call w).1.bind r.confirm = .error lapse ∧ failure = .call lapse ∧
            errors (d.store.perform svc r w).1.log = [.callFailed lapse]) := by
  intro d
  have hd : d.Tallied := tallied_after guarded history
  refine ⟨fun r failure h => ?_, fun r call h => ?_, fun place r hp => ?_,
    fun σ svc w r failure => Store.perform_of_error⟩
  · -- a refusal
    rcases d.store.start_cases r with ⟨failure', hs⟩ | ⟨s, hc, he, hs⟩
    · rw [turn_start_of_refused hs] at h ⊢
      obtain rfl : failure' = failure := Upshot.refused.inj h
      exact ⟨Store.refusal_of_start (r := r) (by rw [hs]), rfl, errors_refusalLog failure'⟩
    · rw [turn_start_of_asked hs] at h
      cases h
  · -- a start
    rcases d.store.start_cases r with ⟨failure', hs⟩ | ⟨s, hc, he, hs⟩
    · rw [turn_start_of_refused hs] at h
      cases h
    · rw [turn_start_of_asked hs]
      exact ⟨Store.alike_of_enrol he, fun e => hd.mem_entries_asked he, rfl⟩
  · -- an end
    obtain ⟨before, after, hw, rfl⟩ := exists_split_of_getElem? hp
    refine ⟨fun lapse => ?_, fun reply failure h => ?_, ?_⟩
    · have hr : Except.bind (.error lapse : Reply) r.confirm = .error lapse := rfl
      rw [turn_finish hw, Store.finish_of_error hr]
    · rw [turn_finish hw] at h ⊢
      cases hr : reply.bind r.confirm with
      | error lapse =>
        rw [Store.finish_of_error hr] at h ⊢
        obtain rfl : _ = failure := Except.error.inj (Upshot.ended.inj h)
        exact ⟨hd.undone hw, lapse, rfl, rfl, rfl, rfl⟩
      | ok c =>
        rw [Store.finish_of_ok hr] at h
        cases h
    · rw [turn_abandon hw]
      exact ⟨rfl, hd.undone hw, rfl⟩

end Desk

end Rulebook
