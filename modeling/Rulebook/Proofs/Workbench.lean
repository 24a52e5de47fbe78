import Rulebook.Proofs.Store.Publication
import Rulebook.Workbench

/-!
# What a workbench does to its store

A workbench does many things at once, and most of them are no concern of its store. To
the store a workbench is a desk (`Rulebook.Workbench.desk`): whatever a move is, whatever
the service does, the store and the operations that wait are afterwards as some turns
leave them (`Rulebook.Workbench.exists_turns_step`). So what holds of a store after
every list of turns holds of the store of a workbench after every list of moves
(`Rulebook.Workbench.exists_turns_after`).

Errands wait under names at a workbench, and operations at places at a desk. A name leads
to one place as long as it is not given twice (`Rulebook.Workbench.Named`), and it is not,
since an errand that is started under a name takes the place of the one that waited
there. An evaluation has a name and no place: the store does not know of it.
-/

namespace Rulebook

namespace Desk

/-- An operation that is carried out in one go is started, and finished at once. -/
theorem exists_turns_perform {σ : Type} (d : Desk) (svc : Service σ) (r : Request) (w : σ) :
    ∃ turns, d.after turns = ⟨(d.store.perform svc r w).1.store, d.waiting⟩ := by
  rcases d.store.start_cases r with ⟨failure, hs⟩ | ⟨s, hc, he, hs⟩
  · refine ⟨[], ?_⟩
    rw [Store.perform, hs]
    rfl
  · have hend : (⟨s, d.waiting ++ [r]⟩ : Desk).waiting = d.waiting ++ r :: [] := rfl
    refine ⟨[.start r, .finish d.waiting.length (svc.ask r.call w).1], ?_⟩
    rw [after, after, after, turn_start_of_asked hs, turn_finish hend, List.append_nil,
      Store.perform, hs]

end Desk

namespace Workbench

/-- The operations of the store among some errands. -/
def requests (errands : List (String × Errand)) : List Request :=
  errands.filterMap (·.2.request?)

/-- The store of a workbench, and its operations that wait. -/
def desk (b : Workbench) : Desk := ⟨b.store, requests b.waiting⟩

/-- No two errands wait under one name. -/
def Named (b : Workbench) : Prop := (b.waiting.map (·.1)).Nodup

/-- A workbench after a list of moves, with what has become of the service. -/
def after {σ : Type} (svc : Service σ) (b : Workbench) : List Move → σ → Workbench × σ
  | [], w => (b, w)
  | m :: ms, w => after svc (b.step svc m w).1.bench ms (b.step svc m w).2

variable {σ : Type} {b : Workbench} {task : String} {e : Errand} {r : Request} {w : σ}

/-- The subscriber of a workbench is one of those that a store has: what it finds when it
looks is the copy that it then holds. -/
theorem look_eq (b : Workbench) (copy : List Rule) :
    Subscriber.look ⟨b.seen, copy⟩ b.store = ⟨b.look.2.seen, b.look.1.getD copy⟩ := by
  rw [Subscriber.look, look]
  by_cases h : b.store.published = b.seen
  · rw [if_neg (not_not_intro h), if_neg (not_not_intro h), h]
    rfl
  · rw [if_pos h, if_pos h]
    rfl

/-! ### Names and places -/

theorem requests_append (l l' : List (String × Errand)) :
    requests (l ++ l') = requests l ++ requests l' := List.filterMap_append

theorem requests_cons_of_some {l : List (String × Errand)} (h : e.request? = some r) :
    requests ((task, e) :: l) = r :: requests l := List.filterMap_cons_some h

theorem requests_cons_of_none {l : List (String × Errand)} (h : e.request? = none) :
    requests ((task, e) :: l) = requests l := List.filterMap_cons_none h

/-- The errand that waits under a name stands somewhere among those that wait, and to
forget the name is to take it out. -/
theorem exists_place (hb : b.Named) (h : b.task? task = some e) :
    ∃ before after, b.waiting = before ++ (task, e) :: after ∧
      (b.forget task).waiting = before ++ after := by
  obtain ⟨⟨name, e'⟩, hfind, rfl⟩ := Option.map_eq_some_iff.mp h
  obtain ⟨hname, before, after, hw, hbefore⟩ := List.find?_eq_some_iff_append.mp hfind
  obtain rfl : name = task := beq_iff_eq.mp hname
  refine ⟨before, after, hw, ?_⟩
  -- in front of the place the name was looked for in vain, and behind it is not again
  have hafter : ∀ e ∈ after, (e.1 != name) = true := by
    rw [Named, hw, List.map_append, List.map_cons] at hb
    have hn := (List.nodup_cons.mp (List.nodup_middle.mp hb)).1
    intro e he
    refine bne_iff_ne.mpr fun hen => hn ?_
    exact List.mem_append_right _ (List.mem_map.mpr ⟨e, he, hen⟩)
  have hbefore' : ∀ e ∈ before, (e.1 != name) = true := by
    intro e he
    simpa [bne] using hbefore e he
  rw [forget, hw, List.filter_append, List.filter_cons_of_neg (by simp),
    List.filter_eq_self.mpr hbefore', List.filter_eq_self.mpr hafter]

/-- To forget a name under which nothing waits does nothing. -/
theorem forget_of_task?_eq_none (h : b.task? task = none) : b.forget task = b := by
  have hw : b.waiting.filter (·.1 != task) = b.waiting := by
    rw [List.filter_eq_self]
    intro e he
    have hne := List.find?_eq_none.mp (Option.map_eq_none_iff.mp h) e he
    simpa [bne] using hne
  rw [forget, hw]

/-- To forget a name under which no operation of the store waits does nothing to the
desk. -/
theorem requests_forget_of_none (hb : b.Named) (h : (b.task? task).bind Errand.request? = none) :
    requests (b.forget task).waiting = requests b.waiting := by
  cases he : b.task? task with
  | none => rw [forget_of_task?_eq_none he]
  | some e =>
    obtain ⟨before, after, hw, hrest⟩ := exists_place hb he
    have hnone : e.request? = none := by
      rw [he] at h
      exact h
    rw [hw, hrest, requests_append, requests_append, requests_cons_of_none hnone]

theorem Named.forget (hb : b.Named) (task : String) : (b.forget task).Named :=
  hb.sublist (List.filter_sublist.map _)

/-- After a name was forgotten, nothing waits under it. -/
theorem not_mem_names_forget : task ∉ (b.forget task).waiting.map (·.1) := by
  intro hmem
  obtain ⟨e, he, heq⟩ := List.mem_map.mp hmem
  exact bne_iff_ne.mp (List.mem_filter.mp he).2 heq

/-! ### Moves on errands that wait -/

/-- A reply under a name comes in at a place. -/
theorem exists_turns_finish (hb : b.Named) (h : b.task? task = some e) (hr : e.request? = some r)
    (reply : Reply) :
    ∃ turns, b.desk.after turns =
      ⟨(b.store.finish r reply).store, requests (b.forget task).waiting⟩ := by
  obtain ⟨before, after, hw, hrest⟩ := exists_place hb h
  have hdesk : b.desk.waiting = requests before ++ r :: requests after := by
    rw [desk, hw, requests_append, requests_cons_of_some hr]
  refine ⟨[.finish (requests before).length reply], ?_⟩
  rw [Desk.after, Desk.after, Desk.turn_finish hdesk, hrest, requests_append]
  rfl

theorem waiting_abandon (b : Workbench) (task : String) :
    (b.abandon task).waiting = (b.forget task).waiting := by
  rw [abandon]
  split
  · rfl
  · rfl

theorem Named.abandon (hb : b.Named) (task : String) : (b.abandon task).Named := by
  rw [Named, waiting_abandon]
  exact hb.forget task

/-- What is abandoned under a name is abandoned at a place, in front of whatever else
waits. -/
theorem exists_turns_abandon (hb : b.Named) (task : String) (more : List Request) :
    ∃ turns, (⟨b.store, requests b.waiting ++ more⟩ : Desk).after turns =
      ⟨(b.abandon task).store, requests (b.abandon task).waiting ++ more⟩ := by
  rw [waiting_abandon, abandon]
  cases h : (b.task? task).bind Errand.request? with
  | none =>
    refine ⟨[], ?_⟩
    rw [requests_forget_of_none hb h]
    rfl
  | some r =>
    obtain ⟨e, he, hr⟩ := Option.bind_eq_some_iff.mp h
    obtain ⟨before, after, hw, hrest⟩ := exists_place hb he
    have hdesk : (⟨b.store, requests b.waiting ++ more⟩ : Desk).waiting =
        requests before ++ r :: (requests after ++ more) := by
      rw [hw, requests_append, requests_cons_of_some hr, List.append_assoc, List.cons_append]
    refine ⟨[.abandon (requests before).length], ?_⟩
    rw [Desk.after, Desk.after, Desk.turn_abandon hdesk, hrest, requests_append,
      List.append_assoc]

/-- An errand that is launched under a name waits behind the others, and what waited under
the name is abandoned. -/
theorem exists_turns_launch (svc : Service σ) (hb : b.Named) (task : String) (e : Errand) (w : σ) :
    (∃ turns, (⟨b.store, requests b.waiting ++ e.request?.toList⟩ : Desk).after turns =
      (launch svc b task e w).1.bench.desk) ∧ (launch svc b task e w).1.bench.Named := by
  constructor
  · obtain ⟨turns, hturns⟩ := exists_turns_abandon hb task e.request?.toList
    refine ⟨turns, hturns.trans ?_⟩
    have hlast : requests [(task, e)] = e.request?.toList := by
      cases hr : e.request? with
      | none => exact requests_cons_of_none hr
      | some r => exact requests_cons_of_some hr
    rw [launch, desk, requests_append, hlast]
  · rw [launch, Named, List.map_append, List.nodup_append]
    refine ⟨hb.abandon task, List.nodup_singleton _, ?_⟩
    rintro name hname name' hname' rfl
    rw [waiting_abandon] at hname
    obtain rfl := List.mem_singleton.mp hname'
    exact not_mem_names_forget hname

/-- An operation that asks the service is started at the desk, whatever errand it is part
of. -/
theorem exists_turns_start {s : Store} {call : Call} (svc : Service σ) (hb : b.Named)
    (hs : b.store.start r = ⟨s, .ok call, []⟩) (he : e.request? = some r) (editor : Editor)
    (task : String) (w : σ) :
    (∃ turns, b.desk.after turns =
      (launch svc { b with store := s, editor } task e w).1.bench.desk) ∧
      (launch svc { b with store := s, editor } task e w).1.bench.Named := by
  have hb' : Named { b with store := s, editor } := hb
  obtain ⟨⟨turns, hturns⟩, hnamed⟩ := exists_turns_launch svc hb' task e w
  -- the start comes before what waited under the name is abandoned
  refine ⟨⟨.start r :: turns, ?_⟩, hnamed⟩
  rw [he] at hturns
  rw [Desk.after, Desk.turn_start_of_asked hs]
  exact hturns

/-! ### Moves -/

/-- **A move is a list of turns**, and gives no name twice. -/
theorem exists_turns_step (svc : Service σ) (hb : b.Named) (m : Move) (w : σ) :
    (∃ turns, b.desk.after turns = (b.step svc m w).1.bench.desk) ∧
      (b.step svc m w).1.bench.Named := by
  have hevaluate : ∀ task id? text,
      (∃ turns, b.desk.after turns = (startEvaluate svc b task id? text w).1.bench.desk) ∧
        (startEvaluate svc b task id? text w).1.bench.Named := by
    intro task id? text
    rw [startEvaluate]
    cases Trial.prepare b.store id? text with
    | error failure => exact ⟨⟨[], rfl⟩, hb⟩
    | ok e =>
      obtain ⟨⟨turns, hturns⟩, hnamed⟩ := exists_turns_launch svc hb task (.evaluation e) w
      refine ⟨⟨turns, ?_⟩, hnamed⟩
      rw [← hturns]
      exact congrArg (fun l => Desk.after ⟨b.store, l⟩ turns) (List.append_nil _).symm
  cases m with
  | perform r => exact ⟨b.desk.exists_turns_perform svc r w, hb⟩
  | save =>
    -- either the editor has nothing to save, or it performs an update
    simp only [step, Editor.save]
    rcases b.editor.submission with ⟨e, failure | draft⟩
    · exact ⟨⟨[], rfl⟩, hb⟩
    · obtain ⟨turns, hturns⟩ := b.desk.exists_turns_perform svc (.update draft.rule draft.text) w
      refine ⟨⟨turns, ?_⟩, hb⟩
      simp only [Editor.conclude_store]
      exact hturns
  | start task r =>
    simp only [step, start]
    rcases b.store.start_cases r with ⟨failure, hs⟩ | ⟨s, hc, he, hs⟩
    · rw [hs]
      exact ⟨⟨[], rfl⟩, hb⟩
    · rw [hs]
      exact exists_turns_start svc hb hs rfl b.editor task w
  | startSave task =>
    simp only [step, startSave]
    rcases b.editor.submission with ⟨e, failure | draft⟩
    · exact ⟨⟨[], rfl⟩, hb⟩
    · rcases b.store.start_cases (.update draft.rule draft.text) with
        ⟨failure, hs⟩ | ⟨s, hc, he, hs⟩
      · simp only [hs]
        exact ⟨⟨[], rfl⟩, hb⟩
      · simp only [hs]
        exact exists_turns_start svc hb hs rfl e task w
  | startSubmit task => exact hevaluate task b.trial.selected? b.trial.data
  | startEvaluate task id? text => exact hevaluate task id? text
  | finish task reply =>
    cases h : b.task? task with
    | none =>
      simp only [step, h]
      exact ⟨⟨[], rfl⟩, hb⟩
    | some e =>
      simp only [step, h]
      cases e with
      | request r => exact ⟨exists_turns_finish hb h rfl reply, hb.forget task⟩
      | saving d =>
        obtain ⟨turns, hturns⟩ := exists_turns_finish hb h rfl reply
        refine ⟨⟨turns, ?_⟩, hb.forget task⟩
        simp only [finish, Editor.conclude_store]
        exact hturns
      | evaluation e =>
        refine ⟨⟨[], ?_⟩, hb.forget task⟩
        have hnone : (b.task? task).bind Errand.request? = none := by
          rw [h]
          rfl
        exact congrArg (Desk.mk b.store) (requests_forget_of_none hb hnone).symm
  | abandon task =>
    obtain ⟨turns, hturns⟩ := exists_turns_abandon hb task []
    rw [List.append_nil, List.append_nil] at hturns
    exact ⟨⟨turns, hturns⟩, hb.abandon task⟩
  -- all the other moves leave the store alone
  | edit id text => exact ⟨⟨[], rfl⟩, hb⟩
  | write text => exact ⟨⟨[], rfl⟩, hb⟩
  | cancel => exact ⟨⟨[], rfl⟩, hb⟩
  | select id => exact ⟨⟨[], rfl⟩, hb⟩
  | unselect => exact ⟨⟨[], rfl⟩, hb⟩
  | setData text => exact ⟨⟨[], rfl⟩, hb⟩
  | submit => exact ⟨⟨[], rfl⟩, hb⟩
  | evaluate id? text => exact ⟨⟨[], rfl⟩, hb⟩

/-- A list of moves is a list of turns. -/
theorem Named.exists_turns_after (svc : Service σ) (hb : b.Named) (moves : List Move) (w : σ) :
    ∃ turns, b.desk.after turns = (b.after svc moves w).1.desk := by
  induction moves generalizing b w with
  | nil => exact ⟨[], rfl⟩
  | cons m moves ih =>
    obtain ⟨⟨turns, hturns⟩, hnamed⟩ := exists_turns_step svc hb m w
    obtain ⟨turns', hturns'⟩ := ih hnamed (b.step svc m w).2
    refine ⟨turns ++ turns', ?_⟩
    rw [Desk.after_append, hturns, hturns', after]

/-- **A workbench is a desk to its store**: whatever was done at a new workbench, and
whatever the service did, its store and the operations that wait are as a history of a
new store leaves them. -/
theorem exists_turns_after (guarded : Bool) (svc : Service σ) (moves : List Move) (w : σ) :
    ∃ turns, (Desk.empty guarded).after turns = ((empty guarded).after svc moves w).1.desk :=
  Named.exists_turns_after svc (b := empty guarded) List.nodup_nil moves w

end Workbench

end Rulebook
