import Rulebook.Proofs.Store.Publication

/-!
# Replies that change places

Two operations on rules wait, and their replies come in. Does it matter which one comes
first? It does if both set the same thing, the status of one rule or its text: then the
later one wins. In all other cases it does not (`Rulebook.Desk.replies_commute_after`),
and that is more than a matter of different rules. A switch and a new text may be about
one rule, since each sets a part of its own; and one of the two may take the rule away,
since the other then finds nothing to change, or has changed what is taken away next.

What is the same in the end is the collection with its order, the snapshot, the registry
and what each caller is told. How often something was published is not: a reply about a
rule that is still there is news, and a late one is not.

The argument has two halves that know nothing of each other. On the collection two
confirmations change places (`Rulebook.Confirmed.settle_comm`), and on the registry two
entries are taken out in either order, which needs no invariant.
-/

namespace Rulebook

/-! ### What is confirmed of single rules -/

/-- The rule that something confirmed is a change of. -/
def Confirmed.target? : Confirmed → Option RuleId
  | deleted x => some x
  | toggled x _ => some x
  | updated x _ => some x
  | _ => none

/-- Whether two confirmations set the same part of the same rule. -/
def Confirmed.Rivals : Confirmed → Confirmed → Prop
  | toggled x _, toggled y _ => x = y
  | updated x _, updated y _ => x = y
  | _, _ => False

/-- Whether two operations set the same part of the same rule. -/
def Request.Rivals : Request → Request → Prop
  | toggle x, toggle y => x = y
  | update x _, update y _ => x = y
  | _, _ => False

section Confirm

variable {r q : Request} {a b : Answer} {c c' : Confirmed}

theorem Request.target?_of_confirm (h : r.confirm a = .ok c) : c.target? = r.target? := by
  cases r <;> cases a <;> cases h <;> rfl

theorem Request.rivals_of_confirm (hc : r.confirm a = .ok c) (hc' : q.confirm b = .ok c')
    (h : c.Rivals c') : r.Rivals q := by
  cases r <;> cases a <;> cases hc <;> cases q <;> cases b <;> cases hc' <;> exact h

end Confirm

namespace Confirmed

variable {c c' : Confirmed} {x y : RuleId}

/-- **Confirmations that are not rivals change places**, each being a change of one
rule. -/
theorem settle_comm (hc : c.target? = some x) (hc' : c'.target? = some y) (h : ¬c.Rivals c')
    (rules : List Rule) : c'.settle (c.settle rules) = c.settle (c'.settle rules) := by
  cases c with
  | deleted x =>
    cases c' with
    | deleted y => simp only [settle_deleted, List.filter_filter, Bool.and_comm]
    | toggled y enabled =>
      simp only [settle_deleted, settle_toggled]
      symm
      exact Rule.filter_ne_amend fun _ => rfl
    | updated y text =>
      simp only [settle_deleted, settle_updated]
      symm
      exact Rule.filter_ne_amend fun _ => rfl
    | _ => cases hc'
  | toggled x enabled =>
    cases c' with
    | deleted y =>
      simp only [settle_deleted, settle_toggled]
      exact Rule.filter_ne_amend fun _ => rfl
    | toggled y enabled' =>
      simp only [settle_toggled]
      exact Rule.amend_comm (fun _ => rfl) (fun _ => rfl) fun hyx => absurd hyx.symm h
    | updated y text =>
      simp only [settle_toggled, settle_updated]
      exact Rule.amend_comm (fun _ => rfl) (fun _ => rfl) fun _ _ => rfl
    | _ => cases hc'
  | updated x text =>
    cases c' with
    | deleted y =>
      simp only [settle_deleted, settle_updated]
      exact Rule.filter_ne_amend fun _ => rfl
    | toggled y enabled =>
      simp only [settle_toggled, settle_updated]
      exact Rule.amend_comm (fun _ => rfl) (fun _ => rfl) fun _ _ => rfl
    | updated y text' =>
      simp only [settle_updated]
      exact Rule.amend_comm (fun _ => rfl) (fun _ => rfl) fun hyx => absurd hyx.symm h
    | _ => cases hc'
  | _ => cases hc

end Confirmed

/-! ### Two replies at a store -/

namespace InFlight.Registry

/-- Entries are taken out in either order. -/
theorem release_comm (g : Registry) (x y : RuleId) :
    (g.release x).release y = (g.release y).release x := by
  simp only [release, List.filter_filter, Bool.and_comm]

end InFlight.Registry

namespace Store

variable {s s' : Store} {r q : Request} {reply reply' : Reply} {x y : RuleId}

/-- What a caller is told is a matter of the reply alone. -/
theorem finish_result (s s' : Store) (r : Request) (reply : Reply) :
    (s.finish r reply).result = (s'.finish r reply).result := by
  cases hr : reply.bind r.confirm with
  | error lapse => rw [finish_of_error hr, finish_of_error hr]
  | ok c => rw [finish_of_ok hr, finish_of_ok hr]

theorem finish_rules_of_error {lapse : CallFailure} (h : reply.bind r.confirm = .error lapse) :
    (s.finish r reply).store.rules = s.rules := by
  rw [finish_of_error h, abandon_rules]

theorem finish_rules_of_ok {c : Confirmed} (h : reply.bind r.confirm = .ok c) :
    (s.finish r reply).store.rules = c.settle s.rules := by
  rw [finish_of_ok h, apply_rules, abandon_rules]

/-- A reply takes the entry out of the registry and does nothing else to it. -/
theorem finish_guard? (s : Store) (r : Request) (reply : Reply) :
    (s.finish r reply).store.guard? = (s.abandon r).guard? := by
  cases hr : reply.bind r.confirm with
  | error lapse => rw [finish_of_error hr]
  | ok c => rw [finish_of_ok hr, apply_guard?]

theorem abandon_guard? (ht : r.target? = some x) :
    (s.abandon r).guard? = s.guard?.map (·.release x) := by
  cases hg : s.guard? with
  | none => rw [abandon_of_unguarded hg, hg, Option.map_none]
  | some g => rw [abandon_of_guarded hg ht, Option.map_some]

/-- Two replies take two entries out in either order. -/
theorem finish_guard?_comm (hr : r.target? = some x) (hq : q.target? = some y) :
    ((s.finish r reply).store.finish q reply').store.guard? =
      ((s.finish q reply').store.finish r reply).store.guard? := by
  simp only [finish_guard?, abandon_guard? hr, abandon_guard? hq, Option.map_map]
  congr 1
  funext g
  exact g.release_comm x y

/-- An answer that is wanted confirms a change of the rule that it was asked for. -/
theorem exists_confirm {c : Confirmed} (h : reply.bind r.confirm = .ok c) :
    ∃ a, r.confirm a = .ok c := by
  cases reply with
  | error lapse => cases h
  | ok a => exact ⟨a, h⟩

/-- **Two replies settle the collection in either order**, unless they are rivals. -/
theorem finish_rules_comm (hr : r.target? = some x) (hq : q.target? = some y)
    (h : ¬r.Rivals q) :
    ((s.finish r reply).store.finish q reply').store.rules =
      ((s.finish q reply').store.finish r reply).store.rules := by
  cases hc : reply.bind r.confirm with
  | error lapse =>
    cases hc' : reply'.bind q.confirm with
    | error lapse' => simp only [finish_rules_of_error hc, finish_rules_of_error hc']
    | ok c' => simp only [finish_rules_of_error hc, finish_rules_of_ok hc']
  | ok c =>
    cases hc' : reply'.bind q.confirm with
    | error lapse' => simp only [finish_rules_of_ok hc, finish_rules_of_error hc']
    | ok c' =>
      obtain ⟨a, ha⟩ := exists_confirm hc
      obtain ⟨b, hb⟩ := exists_confirm hc'
      simp only [finish_rules_of_ok hc, finish_rules_of_ok hc']
      exact Confirmed.settle_comm ((Request.target?_of_confirm ha).trans hr)
        ((Request.target?_of_confirm hb).trans hq)
        (fun hcc => h (Request.rivals_of_confirm ha hb hcc)) s.rules

end Store

/-! ### Two replies at a desk -/

namespace Desk

/-- The place at which an operation waits once the one at the place `gone` has ended:
those behind it move up. -/
def moved (gone place : Nat) : Nat := if gone < place then place - 1 else place

variable {d : Desk} {i j : Nat} {r q : Request} {x y : RuleId}

theorem turn_finish_of_getElem? (h : d.waiting[i]? = some r) (reply : Reply) :
    d.turn (.finish i reply) =
      ⟨⟨(d.store.finish r reply).store, d.waiting.eraseIdx i⟩,
        .ended (d.store.finish r reply).result, (d.store.finish r reply).log⟩ := by
  rw [turn, h]

/-- Who has moved up is still there. -/
theorem getElem?_moved (l : List Request) (h : i ≠ j) : (l.eraseIdx i)[moved i j]? = l[j]? := by
  rw [List.getElem?_eraseIdx, moved]
  by_cases hij : i < j
  · have hge : ¬j - 1 < i := by omega
    have hj : j - 1 + 1 = j := by omega
    rw [if_pos hij, if_neg hge, hj]
  · have hji : j < i := by omega
    rw [if_neg hij, if_pos hji]

/-- Those that are left are the same, whoever of the two has ended first. -/
theorem eraseIdx_moved_comm (l : List Request) (i j : Nat) :
    (l.eraseIdx i).eraseIdx (moved i j) = (l.eraseIdx j).eraseIdx (moved j i) := by
  refine List.ext_getElem? fun n => ?_
  simp only [List.getElem?_eraseIdx, moved]
  split_ifs <;> first | rfl | omega

/-- **Independent replies commute.** In every state of a store, guarded or not, let two
operations wait that change a rule each and do not set the same part of the same rule.
Whatever the two replies are, it does not matter which of them comes in first: each caller
is told the same, and the collection with its order, the snapshot, the entries of the
registry and the operations that still wait are the same in the end. -/
theorem replies_commute_after (guarded : Bool) (history : List Turn) (i j : Nat)
    (r q : Request) (x y : RuleId) (hij : i ≠ j)
    (hi : ((empty guarded).after history).waiting[i]? = some r)
    (hj : ((empty guarded).after history).waiting[j]? = some q)
    (hr : r.target? = some x) (hq : q.target? = some y) (hrivals : ¬r.Rivals q)
    (reply reply' : Reply) :
    let d := (empty guarded).after history
    let first := d.turn (.finish i reply)
    let second := first.desk.turn (.finish (moved i j) reply')
    let first' := d.turn (.finish j reply')
    let second' := first'.desk.turn (.finish (moved j i) reply)
    (∃ result, first.upshot = .ended result ∧ second'.upshot = .ended result) ∧
    (∃ result, second.upshot = .ended result ∧ first'.upshot = .ended result) ∧
    second.desk.store.rules = second'.desk.store.rules ∧
    second.desk.store.snapshot = second'.desk.store.snapshot ∧
    second.desk.store.guard? = second'.desk.store.guard? ∧
    second.desk.waiting = second'.desk.waiting := by
  intro d first second first' second'
  have hfirst : first = _ := turn_finish_of_getElem? hi reply
  have hfirst' : first' = _ := turn_finish_of_getElem? hj reply'
  have hwaits : first.desk.waiting[moved i j]? = some q := by
    rw [hfirst]
    exact (getElem?_moved _ hij).trans hj
  have hwaits' : first'.desk.waiting[moved j i]? = some r := by
    rw [hfirst']
    exact (getElem?_moved _ hij.symm).trans hi
  have hsecond : second = _ := turn_finish_of_getElem? hwaits reply'
  have hsecond' : second' = _ := turn_finish_of_getElem? hwaits' reply
  have hrules : second.desk.store.rules = second'.desk.store.rules := by
    rw [hsecond, hsecond', hfirst, hfirst']
    exact Store.finish_rules_comm hr hq hrivals
  -- both orders are histories of their own, and after each the snapshot is the collection
  have hsnapshot : second.desk.store.snapshot = second.desk.store.rules := by
    have h := snapshot_after guarded (history ++ [.finish i reply, .finish (moved i j) reply'])
    rw [after_append] at h
    exact h
  have hsnapshot' : second'.desk.store.snapshot = second'.desk.store.rules := by
    have h := snapshot_after guarded (history ++ [.finish j reply', .finish (moved j i) reply])
    rw [after_append] at h
    exact h
  refine ⟨?_, ?_, hrules, ?_, ?_, ?_⟩
  · refine ⟨_, congrArg Turned.upshot hfirst, ?_⟩
    rw [hsecond', Store.finish_result _ d.store]
  · refine ⟨_, congrArg Turned.upshot hsecond, ?_⟩
    rw [hfirst', Store.finish_result _ first.desk.store]
  · rw [hsnapshot, hsnapshot', hrules]
  · rw [hsecond, hsecond', hfirst, hfirst']
    exact Store.finish_guard?_comm hr hq
  · rw [hsecond, hsecond', hfirst, hfirst']
    exact eraseIdx_moved_comm _ i j

/-- A rule is loaded, and then deleted and switched at the same time. -/
def crossing : List Turn :=
  [.start .load, .finish 0 (.ok (.rules [⟨⟨"a"⟩, "p", true⟩, ⟨⟨"b"⟩, "q", true⟩])),
    .start (.delete ⟨"a"⟩), .start (.toggle ⟨"a"⟩)]

/-- A deletion and a switch of one rule commute, although one order publishes a snapshot
more than the other. -/
theorem replies_commute_crossing :
    let d := (empty false).after crossing
    let deletedFirst := d.after [.finish 0 (.ok .done), .finish 0 (.ok (.status false))]
    let toggledFirst := d.after [.finish 1 (.ok (.status false)), .finish 0 (.ok .done)]
    (0 ≠ 1 ∧ d.waiting[0]? = some (.delete ⟨"a"⟩) ∧ d.waiting[1]? = some (.toggle ⟨"a"⟩) ∧
      (Request.delete ⟨"a"⟩).target? = some ⟨"a"⟩ ∧ (Request.toggle ⟨"a"⟩).target? = some ⟨"a"⟩ ∧
      ¬(Request.delete ⟨"a"⟩).Rivals (.toggle ⟨"a"⟩)) ∧
    deletedFirst.store.rules = [⟨⟨"b"⟩, "q", true⟩] ∧
    deletedFirst.store.rules = toggledFirst.store.rules ∧
    deletedFirst.store.published = 2 ∧ toggledFirst.store.published = 3 := by
  have hcommute := replies_commute_after false crossing 0 1 (.delete ⟨"a"⟩) (.toggle ⟨"a"⟩) ⟨"a"⟩
    ⟨"a"⟩ Nat.zero_ne_one rfl rfl rfl rfl id (.ok .done) (.ok (.status false))
  exact ⟨⟨Nat.zero_ne_one, rfl, rfl, rfl, rfl, id⟩, rfl, hcommute.2.2.1, rfl, rfl⟩

end Desk

end Rulebook
