import Rulebook.Proofs.Rule.Firsts
import Rulebook.Proofs.Store.Frame

/-!
# Loading a list

A load brings in a list from outside, and it is the one operation that does not care what the
collection was before. It can come to its end in two ways, which `Rulebook.Store.IsLoad` holds
together: a load that was started waits, other operations begin and end meanwhile, and its reply
comes in; or it is carried out in one go.

Either way the list is cut down twice, once to what is kept and once to what the journal warns of,
by two recursions that know nothing of each other. The main result says that they agree
(`Rulebook.Store.load_keeps_foremost`): place by place, what is not kept is warned of, in the
order of the list.
-/

namespace Rulebook

/-- What a part of the journal warns of. -/
def warnings (log : List Event) : List Event := log.filter (·.level == .warn)

theorem warnings_append (log log' : List Event) :
    warnings (log ++ log') = warnings log ++ warnings log' :=
  List.filter_append log log'

/-- The warning that a rule of a list was dropped. -/
def Rule.droppedEvent (r : Rule) : Event := .duplicateListed r.id

/-- Of a list the journal warns for each rule that is dropped, and of nothing else. -/
theorem warnings_log_loaded (rules listed : List Rule) :
    warnings (Confirmed.log rules (.loaded listed)) =
      (Rule.repeated listed).map Rule.droppedEvent := by
  have hdropped : warnings ((Rule.repeats listed).map Rule.droppedEvent) =
      (Rule.repeats listed).map Rule.droppedEvent := by
    refine List.filter_eq_self.mpr fun event hevent => ?_
    obtain ⟨r, -, rfl⟩ := List.mem_map.mp hevent
    rfl
  have hcount : warnings [.listLoaded (Rule.firsts listed).length] = [] := rfl
  have hlog : Confirmed.log rules (.loaded listed) =
      (Rule.repeats listed).map Rule.droppedEvent ++ [.listLoaded (Rule.firsts listed).length] :=
    rfl
  rw [hlog, warnings_append, hdropped, hcount, List.append_nil, Rule.repeats_eq_repeated]

namespace Store

/-- **A list is loaded into a store**: the reply to a load that waits lists the rules, whatever
the store has become since the load was started, or the load is carried out in one go with a
service that lists them. -/
inductive IsLoad (s : Store) (listed : List Rule) : Step Confirmed → Prop
  | reply : IsLoad s listed (s.finish .load (.ok (.rules listed)))
  | whole {σ : Type} (svc : Service σ) (w : σ)
      (h : (svc.ask .listRules w).1 = .ok (.rules listed)) :
      IsLoad s listed (s.perform svc .load w).1

variable {s : Store} {listed : List Rule} {step : Step Confirmed}

/-- **A load comes to the same, however it ends**: it publishes the list without the rules that it
repeats, and warns of these. -/
theorem IsLoad.step_eq (h : s.IsLoad listed step) :
    step.store = s.publish (Rule.firsts listed) ∧ step.result = .ok (.loaded listed) ∧
      warnings step.log = (Rule.repeated listed).map Rule.droppedEvent := by
  cases h with
  | reply =>
    have hreply : (.ok (.rules listed) : Reply).bind Request.load.confirm = .ok (.loaded listed) :=
      rfl
    rw [finish_of_ok hreply, abandon_of_untargeted rfl]
    exact ⟨rfl, rfl, warnings_log_loaded s.rules listed⟩
  | whole svc w h =>
    have hreply : (svc.ask Request.load.call w).1.bind Request.load.confirm =
        .ok (.loaded listed) := by
      rw [Request.call, h]
      rfl
    rw [perform_of_confirmed rfl (enrol_of_untargeted rfl) hreply]
    refine ⟨rfl, rfl, ?_⟩
    rw [warnings_append, warnings_log_loaded]
    exact List.append_nil _

/-- **A load keeps the first rule of each identifier.** Let a list be loaded into a store in any
state.

* The collection is then made of the rules of the list whose identifier stands at no place before
  them, in the order of the list.
* The caller is given their number, which is that of the identifiers in the list.
* The journal warns of the other rules, of each one and in the order of the list, and of nothing
  else; so there are as many warnings as the list has rules more than the collection.
* If the list that is loaded next is the collection, then this stays as it is, and nothing is
  warned of. -/
theorem load_keeps_foremost (h : s.IsLoad listed step) :
    step.store.rules = Rule.foremost listed ∧
    step.result.map Confirmed.result = .ok (.count step.store.rules.length) ∧
    step.store.rules.length = (Rule.ids listed).toFinset.card ∧
    warnings step.log = (Rule.repeated listed).map Rule.droppedEvent ∧
    (warnings step.log).length + step.store.rules.length = listed.length ∧
    ∀ again, step.store.IsLoad step.store.rules again →
      again.store.rules = step.store.rules ∧ warnings again.log = [] := by
  obtain ⟨hstore, hresult, hlog⟩ := h.step_eq
  have hrules : step.store.rules = Rule.firsts listed := by
    rw [hstore]
    rfl
  refine ⟨?_, ?_, ?_, hlog, ?_, fun again hagain => ?_⟩
  · rw [hrules, Rule.firsts_eq_foremost]
  · rw [hresult, hrules]
    rfl
  · rw [hrules, Rule.length_firsts]
  · rw [hlog, hrules, List.length_map, ← Rule.repeats_eq_repeated, Rule.length_repeats_add]
  · obtain ⟨hstore', -, hlog'⟩ := hagain.step_eq
    -- no identifier stands twice in what was kept, so nothing is cut
    have hkept : Rule.firsts step.store.rules = step.store.rules := by
      rw [hrules]
      exact Rule.firsts_of_nodup Rule.nodup_ids_firsts
    have hnone : (Rule.repeated step.store.rules).length = 0 := by
      have hlength := Rule.length_repeats_add step.store.rules
      rw [hkept, Rule.repeats_eq_repeated] at hlength
      omega
    rw [hstore', hlog', List.length_eq_zero_iff.mp hnone]
    exact ⟨hkept, rfl⟩

/-- A list in which one identifier stands three times, the last time with the very same rule as the
first, and another one twice. It is loaded in one go into a store that had another rule. -/
theorem load_keeps_foremost_repeating :
    let s : Store := ⟨[⟨⟨"z"⟩, "z > 0", true⟩], [⟨⟨"z"⟩, "z > 0", true⟩], 1, some .empty⟩
    let listed : List Rule := [⟨⟨"a"⟩, "x > 1", true⟩, ⟨⟨"b"⟩, "y < 2", false⟩,
      ⟨⟨"a"⟩, "x > 3", false⟩, ⟨⟨"b"⟩, "y < 4", true⟩, ⟨⟨"a"⟩, "x > 1", true⟩]
    let step := (s.perform Rehearsal.service .load (.of [.ok (.rules listed)])).1
    s.IsLoad listed step ∧
      step.store.rules = [⟨⟨"a"⟩, "x > 1", true⟩, ⟨⟨"b"⟩, "y < 2", false⟩] ∧
      step.result.map Confirmed.result = .ok (.count 2) ∧
      warnings step.log =
        [.duplicateListed ⟨"a"⟩, .duplicateListed ⟨"b"⟩, .duplicateListed ⟨"a"⟩] ∧
      step.store.IsLoad step.store.rules
        (step.store.finish .load (.ok (.rules step.store.rules))) := by
  intro s listed step
  have hload : s.IsLoad listed step := .whole Rehearsal.service _ rfl
  obtain ⟨hrules, hcount, -, hwarned, -, -⟩ := load_keeps_foremost hload
  have hkept : Rule.foremost listed = [⟨⟨"a"⟩, "x > 1", true⟩, ⟨⟨"b"⟩, "y < 2", false⟩] := by decide
  refine ⟨hload, hrules.trans hkept, ?_, hwarned.trans (by decide), .reply⟩
  rw [hcount, hrules, hkept]
  rfl

end Store

end Rulebook
