import Rulebook.Proofs.Store.Atomicity
import Rulebook.Proofs.Store.Commute
import Rulebook.Proofs.Store.Order
import Rulebook.Proofs.Store.Publication
import Rulebook.Proofs.Workbench.Calls

/-!
# A draft is saved or kept

To save a draft, an editor and a store look at it one after the other, and then the service
is asked. So there are many ways in which nothing is saved, and none of them may lose the
draft or leave a rule half saved.

What can stand in the way before the service is asked is listed in `Rulebook.Desk.Hinders`,
in the order in which it is found out: there is no draft, it is blank, its rule is not in
the collection, or the rule is busy. A draft that nothing of this stands in the way of is
*ready* (`Rulebook.Desk.Ready`). One of the two is the case in every state
(`Rulebook.Desk.hinders_or_ready`), and in either case what saving comes to is an equation:
a draft that is hindered is refused without a call, and one that is ready makes one call,
whose reply decides the rest.

Operations that wait at the same time matter in one place only: in a guarded store, if one
of them is on the rule of the draft. While the reply to the draft's own call has not come
in, others may be started and given up (`Rulebook.Turn.Silent`); this changes nothing that
saving depends on.
-/

namespace Rulebook

/-! ### The editor's part -/

namespace Editor

variable {e : Editor} {draft : Draft}

theorem submission_of_idle (h : e.draft? = none) : e.submission = (e, .error .noActiveEdit) := by
  rw [submission, h]

theorem submission_of_blank (h : e.draft? = some draft) (ht : Text.trim draft.text = "") :
    e.submission = ({ e with refusal? := some .emptyRuleText }, .error .emptyRuleText) := by
  simp only [submission, h, checkRuleText, if_pos (Text.blank_iff.mpr ht)]

theorem submission_of_text (h : e.draft? = some draft) (ht : Text.trim draft.text ≠ "") :
    e.submission = (e, .ok draft) := by
  simp only [submission, h, checkRuleText_eq_ok_iff.mpr ht]

/-- Whether there is a draft that holds nothing but blanks. -/
def Blank (e : Editor) : Prop := ∃ draft, e.draft? = some draft ∧ Text.trim draft.text = ""

/-- What an editor remembers of a failure to save its draft: that the draft was blank. -/
def told (e : Editor) (failure : Failure) : Editor :=
  if failure = .emptyRuleText then { e with refusal? := some failure } else e

theorem told_of_ne {failure : Failure} (h : failure ≠ .emptyRuleText) : e.told failure = e :=
  if_neg h

@[simp] theorem told_draft? (e : Editor) (failure : Failure) :
    (e.told failure).draft? = e.draft? := by
  rw [told]
  split
  · rfl
  · rfl

end Editor

/-! ### The store's part -/

/-- **A store in which the text of a rule is now that of a draft**, blanks at its ends
included: every rule has kept its place and its status, and all the others their text. This
was published, once. -/
structure Store.Rewritten (s : Store) (draft : Draft) (s' : Store) : Prop where
  rules : s'.rules =
    s.rules.map fun q => if q.id = draft.rule then { q with text := draft.text } else q
  snapshot : s'.snapshot = s'.rules
  published : s'.published = s.published + 1

/-- What was confirmed for a store that shows the same is a change of the text, and no other. -/
theorem Store.Alike.rewritten {s s' : Store} {draft : Draft} (h : s.Alike s')
    (hn : (Rule.ids s.rules).Nodup) (hx : draft.rule ∈ Rule.ids s.rules) :
    s.Rewritten draft (s'.apply (.updated draft.rule draft.text)) := by
  have heffect : (Confirmed.updated draft.rule draft.text).effect s'.rules =
      some (Rule.amend draft.rule ({ · with text := draft.text }) s.rules) := by
    rw [Confirmed.effect, h.rules, if_pos (Rule.listed_iff.mpr hx)]
  rw [apply_of_effect heffect]
  exact ⟨Rule.amend_eq_map hn, rfl, congrArg (· + 1) h.published⟩

/-- An update is confirmed by a single answer; whatever else is replied, the call went
wrong. -/
theorem Request.update_confirm_cases (x : RuleId) (text : String) (reply : Reply) :
    reply = .ok .done ∨ ∃ lapse, reply.bind (update x text).confirm = .error lapse := by
  cases reply with
  | error lapse => exact .inr ⟨lapse, rfl⟩
  | ok answer =>
    cases answer with
    | done => exact .inl rfl
    | _ => exact .inr ⟨.wrongReply .updateRule, rfl⟩

/-- A turn that brings in no reply: something is started or given up. -/
def Turn.Silent : Turn → Prop
  | start _ => True
  | finish _ _ => False
  | abandon _ => True

namespace Desk

variable {d : Desk} {e : Editor} {draft : Draft} {r : Request} {id : RuleId} {failure : Failure}

/-- **As long as no reply comes in, a store shows the same.** -/
theorem alike_after_of_silent {turns : List Turn} (h : ∀ t ∈ turns, t.Silent) :
    d.store.Alike (d.after turns).store := by
  induction turns generalizing d with
  | nil => exact .refl _
  | cons t turns ih =>
    obtain ⟨ht, hturns⟩ := List.forall_mem_cons.mp h
    have hnone : d.heard? t = none := by
      cases t with
      | start r => rfl
      | finish place reply => exact ht.elim
      | abandon place => rfl
    rcases d.turn_publishes_or_alike t with ⟨⟨answer, hanswer, -⟩, -⟩ | ⟨-, hstep⟩
    · rw [hnone] at hanswer
      cases hanswer
    · exact hstep.trans (ih hturns)

/-- An operation is noted if none that waits on its rule is in the way. -/
theorem Tallied.exists_enrol (hd : d.Tallied) (ht : r.target? = some id)
    (hfree : d.store.guarded = true → ∀ q ∈ d.waiting, q.target? ≠ some id) :
    ∃ s, d.store.enrol r = .ok s := by
  rcases hd with hd | ⟨g, hg⟩
  · exact ⟨d.store, Store.enrol_of_unguarded hd⟩
  · have hno : g.operationOn? id = none := by
      rw [InFlight.Registry.operationOn?_eq_none_iff, hg.busyIds]
      intro hid
      obtain ⟨q, hq, hqt⟩ := List.mem_filterMap.mp hid
      have hguarded : d.store.guarded = true := by rw [Store.guarded, hg.guard]; rfl
      exact hfree hguarded q hq hqt
    rw [Store.enrol_of_guarded hg.guard ht, InFlight.Registry.acquire_of_free hno]
    exact ⟨_, rfl⟩

/-- **The one that is in the way is named.** -/
theorem Tallied.enrol_of_waiting {q : Request} (hd : d.Tallied) (ht : r.target? = some id)
    (hguarded : d.store.guarded = true) (hq : q ∈ d.waiting) (hqt : q.target? = some id) :
    d.store.enrol r = .error (.busy id q.operation) := by
  rcases hd with hd | ⟨g, hg⟩
  · rw [Store.guarded, hd] at hguarded
    cases hguarded
  · have hop : g.operationOn? id = some q.operation :=
      (InFlight.Registry.operationOn?_eq_some_iff hg.nodup_busyIds).mpr
        (hg.mem_entries_iff.mpr ⟨q, hq, hqt, rfl⟩)
    rw [Store.enrol_of_guarded hg.guard ht, InFlight.Registry.acquire_of_busy hop]
    rfl

/-! ### Hindered or ready -/

/-- **What stands in the way of saving**, if it has come to a draft at all. Each reason counts
only where those before it do not apply. -/
inductive Hinders (d : Desk) : Option Draft → Failure → Prop
  | idle : Hinders d none .noActiveEdit
  | blank {draft : Draft} (ht : Text.trim draft.text = "") : Hinders d (some draft) .emptyRuleText
  | unlisted {draft : Draft} (ht : Text.trim draft.text ≠ "") (hx : draft.rule ∉ d.ids) :
      Hinders d (some draft) (.ruleNotFound draft.rule)
  | busy {draft : Draft} {q : Request} (ht : Text.trim draft.text ≠ "") (hx : draft.rule ∈ d.ids)
      (hg : d.store.guarded = true) (hq : q ∈ d.waiting) (hqt : q.target? = some draft.rule) :
      Hinders d (some draft) (.busy draft.rule q.operation)

/-- **A draft that nothing stands in the way of.** -/
structure Ready (d : Desk) (draft : Draft) : Prop where
  text : Text.trim draft.text ≠ ""
  listed : draft.rule ∈ d.ids
  free : d.store.guarded = true → ∀ q ∈ d.waiting, q.target? ≠ some draft.rule

theorem hinders_or_ready (d : Desk) (draft? : Option Draft) :
    (∃ failure, d.Hinders draft? failure) ∨ ∃ draft, draft? = some draft ∧ d.Ready draft := by
  cases draft? with
  | none => exact .inl ⟨_, .idle⟩
  | some draft =>
    by_cases ht : Text.trim draft.text = ""
    · exact .inl ⟨_, .blank ht⟩
    · by_cases hx : draft.rule ∈ d.ids
      · by_cases hbusy : d.store.guarded = true ∧ ∃ q ∈ d.waiting, q.target? = some draft.rule
        · obtain ⟨hg, q, hq, hqt⟩ := hbusy
          exact .inl ⟨_, .busy ht hx hg hq hqt⟩
        · exact .inr ⟨draft, rfl, ht, hx, fun hg q hq hqt => hbusy ⟨hg, q, hq, hqt⟩⟩
      · exact .inl ⟨_, .unlisted ht hx⟩

theorem Hinders.not_ready (h : d.Hinders (some draft) failure) : ¬d.Ready draft := by
  intro hr
  cases h with
  | blank ht => exact hr.text ht
  | unlisted ht hx => exact hx hr.listed
  | busy ht hx hg hq hqt => exact hr.free hg _ hq hqt

/-- A draft is found to be blank exactly if it is. -/
theorem Hinders.blank_iff (h : d.Hinders e.draft? failure) :
    failure = .emptyRuleText ↔ e.Blank := by
  rw [Editor.Blank]
  generalize e.draft? = draft? at h
  cases h with
  | idle => simp
  | blank ht => simp [ht]
  | unlisted ht hx => simp [ht]
  | busy ht hx hg hq hqt => simp [ht]

/-- **One thing stands in the way at a time.** -/
theorem Tallied.hinders_unique {draft? : Option Draft} {failure' : Failure} (hd : d.Tallied)
    (h : d.Hinders draft? failure) (h' : d.Hinders draft? failure') : failure = failure' := by
  cases h with
  | idle =>
    cases h'
    rfl
  | blank ht =>
    cases h' with
    | blank => rfl
    | unlisted ht' => exact absurd ht ht'
    | busy ht' => exact absurd ht ht'
  | unlisted ht hx =>
    cases h' with
    | blank ht' => exact absurd ht' ht
    | unlisted => rfl
    | busy _ hx' => exact absurd hx' hx
  | busy ht hx hg hq hqt =>
    cases h' with
    | blank ht' => exact absurd ht' ht
    | unlisted _ hx' => exact absurd hx hx'
    | busy _ _ _ hq' hqt' =>
      -- the store names the one that waits, so both are that one
      have hbusy := hd.enrol_of_waiting (r := .delete _) rfl hg hq hqt
      rw [hd.enrol_of_waiting rfl hg hq' hqt'] at hbusy
      exact (Except.error.inj hbusy).symm

theorem Ready.check (h : d.Ready draft) :
    d.store.check (.update draft.rule draft.text) = .ok () :=
  Store.check_eq_ok_iff.mpr (.update h.text h.listed)

/-! ### Saving in one go -/

section

variable {σ : Type}

/-- **A draft that is hindered is refused**, and no call is made. -/
theorem save_of_hinders (hd : d.Tallied) (h : d.Hinders e.draft? failure) (svc : Service σ)
    (w : σ) :
    ∃ log, e.save svc d.store w = (⟨e.told failure, ⟨d.store, .error failure, log⟩⟩, w) := by
  -- the store refuses what the editor has let through
  have hrefused : ∀ {draft : Draft}, e.draft? = some draft → Text.trim draft.text ≠ "" →
      failure ≠ .emptyRuleText →
      d.store.start (.update draft.rule draft.text) =
        ⟨d.store, .error failure, Store.refusalLog failure⟩ →
      ∃ log, e.save svc d.store w = (⟨e.told failure, ⟨d.store, .error failure, log⟩⟩, w) := by
    intro draft hdraft ht hne hs
    refine ⟨Store.refusalLog failure ++ [.finished .store], ?_⟩
    simp only [Editor.save, Editor.submission_of_text hdraft ht, Store.perform, hs,
      Editor.conclude, Editor.told_of_ne hne]
  generalize hdraft : e.draft? = draft? at h
  cases h with
  | idle => exact ⟨[], by simp only [Editor.save, Editor.submission_of_idle hdraft]; rfl⟩
  | blank ht => exact ⟨[], by simp only [Editor.save, Editor.submission_of_blank hdraft ht]; rfl⟩
  | @unlisted draft ht hx =>
    refine hrefused hdraft ht (by rintro ⟨⟩) (Store.start_of_check_error ?_)
    have hno : d.store.contains draft.rule = false :=
      Bool.eq_false_iff.mpr fun hc => hx (Rule.listed_iff.mp hc)
    rw [Store.check, checkRuleText_eq_ok_iff.mpr ht]
    exact Store.require_of_not_contains hno
  | @busy draft q ht hx hg hq hqt =>
    refine hrefused hdraft ht (by rintro ⟨⟩) (Store.start_of_enrol_error ?_ ?_)
    · exact Store.check_eq_ok_iff.mpr (.update ht hx)
    · exact hd.enrol_of_waiting rfl hg hq hqt

/-- **A draft that is ready makes one call**, and is kept if the call goes wrong. -/
theorem save_of_lapse {lapse : CallFailure} (hd : d.Tallied) (h : e.draft? = some draft)
    (hr : d.Ready draft) (svc : Service σ) (w : σ)
    (hreply : (svc.ask (.updateRule draft.rule draft.text) w).1.bind
      (Request.update draft.rule draft.text).confirm = .error lapse) :
    ∃ log, e.save svc d.store w =
      (⟨e, ⟨d.store, .error (.call lapse), log⟩⟩,
        (svc.ask (.updateRule draft.rule draft.text) w).2) := by
  obtain ⟨s, he⟩ := hd.exists_enrol (r := .update draft.rule draft.text) rfl hr.free
  refine ⟨[.callFailed lapse, .finished .store], ?_⟩
  simp only [Editor.save, Editor.submission_of_text h hr.text,
    Store.perform_of_lapse hr.check he hreply, Editor.conclude]
  rfl

/-- **A draft that is ready is saved if the service says so**, and then the editor is free. -/
theorem save_of_done (hd : d.Tallied) (h : e.draft? = some draft) (hr : d.Ready draft)
    (svc : Service σ) (w : σ)
    (hreply : (svc.ask (.updateRule draft.rule draft.text) w).1 = .ok .done) :
    ∃ log, e.save svc d.store w =
      (⟨.idle, ⟨d.store.apply (.updated draft.rule draft.text), .ok draft.rule, log⟩⟩,
        (svc.ask (.updateRule draft.rule draft.text) w).2) := by
  obtain ⟨s, he⟩ := hd.exists_enrol (r := .update draft.rule draft.text) rfl hr.free
  have hconfirmed : (svc.ask (Request.update draft.rule draft.text).call w).1.bind
      (Request.update draft.rule draft.text).confirm =
        .ok (.updated draft.rule draft.text) := by
    rw [Request.call, hreply]
    rfl
  refine ⟨Confirmed.log d.store.rules (.updated draft.rule draft.text) ++ [.finished .store], ?_⟩
  simp only [Editor.save, Editor.submission_of_text h hr.text,
    Store.perform_of_confirmed hr.check he hconfirmed, Editor.conclude]
  rfl

end

/-! ### Saving while others come and go -/

/-- **The reply to a draft that is being saved**: what others do meanwhile, short of bringing
in a reply of their own, makes no difference to what becomes of the draft, and their entries
stay. -/
theorem Ready.conclude (hd : d.Tallied) (hn : d.ids.Nodup) (hr : d.Ready draft) {others : List Turn}
    (hothers : ∀ t ∈ others, t.Silent) {place : Nat}
    (hplace :
      ((d.turn (.start (.update draft.rule draft.text))).desk.after others).waiting[place]? =
        some (.update draft.rule draft.text)) (e : Editor) (reply : Reply) :
    let r := Request.update draft.rule draft.text
    let d' := (d.turn (.start r)).desk.after others
    let saved := e.conclude draft (d'.store.finish r reply)
    (reply = .ok .done → saved.editor = .idle ∧ saved.step.result = .ok draft.rule ∧
      d.store.Rewritten draft saved.step.store) ∧
    (∀ lapse, reply.bind r.confirm = .error lapse → saved.editor = e ∧
      saved.step.result = .error (.call lapse) ∧
      d.store.Alike saved.step.store) ∧
    ∀ entry, entry ∈ entries ⟨saved.step.store, d'.waiting.eraseIdx place⟩ ↔
      entry ∈ d'.entries ∧ r.claim? ≠ some entry := by
  intro r d' saved
  obtain ⟨s, he⟩ := hd.exists_enrol (r := r) rfl hr.free
  have hstart : d.turn (.start r) = ⟨⟨s, d.waiting ++ [r]⟩, .asked r.call, []⟩ :=
    turn_start_of_asked (Store.start_of_enrol hr.check he)
  -- neither the start nor the others change what the store shows
  have halike : d.store.Alike d'.store := by
    have hstep : d.store.Alike (d.turn (.start r)).desk.store := by
      rw [hstart]
      exact Store.alike_of_enrol he
    exact hstep.trans (alike_after_of_silent hothers)
  have hback : d.store.Alike (d'.store.abandon r) := halike.trans (Store.alike_abandon _ _)
  have htallied : d'.Tallied := by
    have hstep : (d.turn (.start r)).desk.Tallied := (d.goes_turn _).tallied hd
    exact after_induction hstep (fun h hd => h.tallied hd) others
  obtain ⟨before, after, hw, rfl⟩ := exists_split_of_getElem? hplace
  refine ⟨?_, ?_, ?_⟩
  · rintro rfl
    have hfinish : d'.store.finish r (.ok .done) =
        ⟨(d'.store.abandon r).apply (.updated draft.rule draft.text),
          .ok (.updated draft.rule draft.text),
          Confirmed.log d'.store.rules (.updated draft.rule draft.text)⟩ :=
      Store.finish_of_ok rfl
    simp only [saved, hfinish, Editor.conclude]
    exact ⟨trivial, trivial, hback.rewritten hn hr.listed⟩
  · intro lapse hreply
    simp only [saved, Store.finish_of_error hreply, Editor.conclude]
    exact ⟨trivial, trivial, hback⟩
  · intro entry
    have hguard : saved.step.store.guard? = (d'.store.abandon r).guard? :=
      (congrArg Store.guard? (Editor.conclude_store e draft _)).trans (Store.finish_guard? _ _ _)
    rw [eraseIdx_of_split hw, ← htallied.mem_entries_abandoned hw, entries, entries, hguard]

/-! ### The main result -/

/-- **A draft is saved or kept**, as the reply to its call says: what an attempt to save comes
to, with the calls that it makes. -/
structure SavedOrKept (d : Desk) (e : Editor) (reply : Draft → Reply) (saved : Editor.Saved)
    (made : List Call) : Prop where
  /-- Whose draft is saved: it is ready, and the service answers that it is done. -/
  saved_iff : ∀ x, saved.step.result = .ok x ↔
    ∃ draft, e.draft? = some draft ∧ x = draft.rule ∧ d.Ready draft ∧ reply draft = .ok .done
  /-- Why a draft is not saved: the first thing that hinders it, or else the call. -/
  failed_iff : ∀ failure, saved.step.result = .error failure ↔
    d.Hinders e.draft? failure ∨
      ∃ draft lapse, e.draft? = some draft ∧ d.Ready draft ∧
        (reply draft).bind (Request.update draft.rule draft.text).confirm = .error lapse ∧
        failure = .call lapse
  /-- After that the editor is free, and nothing but the text of the rule has changed. -/
  of_saved : ∀ x, saved.step.result = .ok x → saved.editor = .idle ∧
    saved.step.store.guard? = d.store.guard? ∧
    ∃ draft, e.draft? = some draft ∧ d.store.Rewritten draft saved.step.store
  /-- After a failure both sides are as before, and a blank draft is remembered as such. -/
  of_failed : ∀ failure, saved.step.result = .error failure →
    saved.step.store = d.store ∧ saved.editor.draft? = e.draft? ∧
    (e.Blank → saved.editor.refusal? = some .emptyRuleText) ∧
    (¬e.Blank → saved.editor.refusal? = e.refusal?)
  /-- A draft that is ready makes its call, and no other call is made. -/
  made_of_ready : ∀ draft, e.draft? = some draft → d.Ready draft →
    made = [.updateRule draft.rule draft.text]
  made_of_not_ready : (∀ draft, e.draft? = some draft → ¬d.Ready draft) → made = []

theorem savedOrKept_of_hinders {reply : Draft → Reply} {log : List Event} (hd : d.Tallied)
    (h : d.Hinders e.draft? failure) :
    d.SavedOrKept e reply ⟨e.told failure, ⟨d.store, .error failure, log⟩⟩ [] := by
  have hno : ∀ draft, e.draft? = some draft → ¬d.Ready draft :=
    fun draft hdraft hr => (hdraft ▸ h).not_ready hr
  refine ⟨fun x => ?_, fun failure' => ?_, fun x hx => ?_, fun failure' hf => ?_,
    fun draft hdraft hr => absurd hr (hno draft hdraft), fun _ => rfl⟩
  · refine iff_of_false (by rintro ⟨⟩) ?_
    rintro ⟨draft, hdraft, -, hr, -⟩
    exact hno draft hdraft hr
  · constructor
    · intro hf
      obtain rfl : failure = failure' := Except.error.inj hf
      exact .inl h
    · rintro (h' | ⟨draft, -, hdraft, hr, -⟩)
      · exact congrArg Except.error (hd.hinders_unique h h')
      · exact absurd hr (hno draft hdraft)
  · cases hx
  · refine ⟨rfl, Editor.told_draft? e failure, fun hb => ?_, fun hb => ?_⟩
    · rw [h.blank_iff.mpr hb]
      rfl
    · rw [Editor.told_of_ne fun hf => hb (h.blank_iff.mp hf)]

theorem savedOrKept_of_lapse {reply : Draft → Reply} {log : List Event} {lapse : CallFailure}
    (h : e.draft? = some draft) (hr : d.Ready draft)
    (hreply : (reply draft).bind (Request.update draft.rule draft.text).confirm = .error lapse) :
    d.SavedOrKept e reply ⟨e, ⟨d.store, .error (.call lapse), log⟩⟩
      [.updateRule draft.rule draft.text] := by
  have hsame : ∀ draft', e.draft? = some draft' → draft' = draft :=
    fun draft' h' => Option.some.inj (h'.symm.trans h)
  refine ⟨fun x => ?_, fun failure' => ?_, fun x hx => ?_, fun failure' hf => ?_, ?_, ?_⟩
  · refine iff_of_false (by rintro ⟨⟩) ?_
    rintro ⟨draft', h', -, -, hdone⟩
    rw [hsame draft' h'] at hdone
    rw [hdone] at hreply
    cases hreply
  · constructor
    · intro hf
      exact .inr ⟨draft, lapse, h, hr, hreply, (Except.error.inj hf).symm⟩
    · rintro (h' | ⟨draft', lapse', h', -, hreply', rfl⟩)
      · exact absurd hr (h ▸ h').not_ready
      · rw [hsame draft' h', hreply] at hreply'
        rw [Except.error.inj hreply']
  · cases hx
  · exact ⟨rfl, rfl, fun ⟨draft', h', ht⟩ => absurd (hsame draft' h' ▸ ht) hr.text, fun _ => rfl⟩
  · intro draft' h' _
    rw [hsame draft' h']
  · intro hno
    exact absurd hr (hno draft h)

theorem savedOrKept_of_done {reply : Draft → Reply} {log : List Event} (hn : d.ids.Nodup)
    (h : e.draft? = some draft) (hr : d.Ready draft) (hreply : reply draft = .ok .done) :
    d.SavedOrKept e reply
      ⟨.idle, ⟨d.store.apply (.updated draft.rule draft.text), .ok draft.rule, log⟩⟩
      [.updateRule draft.rule draft.text] := by
  have hsame : ∀ draft', e.draft? = some draft' → draft' = draft :=
    fun draft' h' => Option.some.inj (h'.symm.trans h)
  refine ⟨fun x => ?_, fun failure' => ?_, fun x hx => ?_, fun failure' hf => ?_, ?_, ?_⟩
  · constructor
    · intro hx
      exact ⟨draft, h, (Except.ok.inj hx).symm, hr, hreply⟩
    · rintro ⟨draft', h', rfl, -, -⟩
      rw [hsame draft' h']
  · refine iff_of_false (by rintro ⟨⟩) ?_
    rintro (h' | ⟨draft', lapse, h', -, hlapse, -⟩)
    · exact (h ▸ h').not_ready hr
    · rw [hsame draft' h', hreply] at hlapse
      cases hlapse
  · exact ⟨rfl, Store.apply_guard? _ _, draft, h, (Store.Alike.refl _).rewritten hn hr.listed⟩
  · cases hf
  · intro draft' h' _
    rw [hsame draft' h']
  · intro hno
    exact absurd hr (hno draft h)

/-- **A draft is saved or kept.** In every state of a store, guarded or not and whatever else
waits there, and for every editor:

* whatever the service is, an attempt to save leaves the draft saved or kept
  (`Rulebook.Desk.SavedOrKept`), by the reply to the one call that it makes;
* and it is no different if others are started and given up while the draft waits for its
  reply. Then their entries in the registry stay, and that of the draft goes. -/
theorem saved_or_kept_after (guarded : Bool) (history : List Turn) (e : Editor) :
    let d := (empty guarded).after history
    (∀ {σ : Type} (svc : Service σ) (w : σ) (calls : List Call),
      let (saved, v) := e.save svc.recorded d.store (w, calls)
      ∃ made, v.2 = calls ++ made ∧
        d.SavedOrKept e (fun draft => (svc.ask (.updateRule draft.rule draft.text) w).1) saved
          made) ∧
    ∀ draft, e.draft? = some draft → d.Ready draft →
      let r := Request.update draft.rule draft.text
      (d.turn (.start r)).upshot = .asked (.updateRule draft.rule draft.text) ∧
      ∀ others, (∀ t ∈ others, t.Silent) →
        let d' := (d.turn (.start r)).desk.after others
        ∀ place, d'.waiting[place]? = some r → ∀ reply,
          let saved := e.conclude draft (d'.store.finish r reply)
          (reply = .ok .done → saved.editor = .idle ∧ saved.step.result = .ok draft.rule ∧
            d.store.Rewritten draft saved.step.store) ∧
          (∀ lapse, reply.bind r.confirm = .error lapse → saved.editor = e ∧
            saved.step.result = .error (.call lapse) ∧
            d.store.Alike saved.step.store) ∧
          ∀ entry, entry ∈ entries ⟨saved.step.store, d'.waiting.eraseIdx place⟩ ↔
            entry ∈ d'.entries ∧ r.claim? ≠ some entry := by
  intro d
  have hd : d.Tallied := tallied_after guarded history
  have hn : d.ids.Nodup := nodup_ids_after guarded history
  refine ⟨fun svc w calls => ?_, fun draft hdraft hr => ⟨?_, ?_⟩⟩
  · rcases d.hinders_or_ready e.draft? with ⟨failure, hh⟩ | ⟨draft, hdraft, hr⟩
    · obtain ⟨log, hsave⟩ := save_of_hinders hd hh svc.recorded (w, calls)
      rw [hsave]
      exact ⟨[], (List.append_nil calls).symm, savedOrKept_of_hinders hd hh⟩
    · rcases Request.update_confirm_cases draft.rule draft.text
          (svc.ask (.updateRule draft.rule draft.text) w).1 with hdone | ⟨lapse, hlapse⟩
      · obtain ⟨log, hsave⟩ := save_of_done hd hdraft hr svc.recorded (w, calls) hdone
        rw [hsave]
        exact ⟨_, rfl, savedOrKept_of_done hn hdraft hr hdone⟩
      · obtain ⟨log, hsave⟩ := save_of_lapse hd hdraft hr svc.recorded (w, calls) hlapse
        rw [hsave]
        exact ⟨_, rfl, savedOrKept_of_lapse hdraft hr hlapse⟩
  · obtain ⟨s, he⟩ := hd.exists_enrol (r := .update draft.rule draft.text) rfl hr.free
    rw [turn_start_of_asked (Store.start_of_enrol hr.check he)]
    rfl
  · intro others hothers d' place hplace reply
    exact hr.conclude hd hn hothers hplace e reply

end Desk

end Rulebook
