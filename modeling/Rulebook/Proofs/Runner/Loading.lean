import Rulebook.Runner
import Rulebook.Proofs.Inquiry
import Rulebook.Proofs.Retry
import Rulebook.Proofs.Rule.Firsts
import Rulebook.Proofs.Store.Atomicity

/-!
# Loading the rules, again and again

Before a task is begun the rules are loaded, and the loading is tried again as long as the
failure may pass and the policy allows it. Two things that were made apart come together here: the
loop that tries something again, which knows nothing of rules, and the loading of a store, which
knows nothing of another attempt.

That they fit is a matter of what an attempt leaves behind
(`Rulebook.Runner.concludes_of_attempt`). One that fails leaves the store as it found it, so the
next one begins where the first began; and one that succeeds is the last. So the store that comes
out is the one that went in, changed once by the last reply or not at all, however many attempts
there were (`Rulebook.Runner.loads_load`).
-/

namespace Rulebook

theorem errors_append (log log' : List Event) : errors (log ++ log') = errors log ++ errors log' :=
  List.filter_append log log'

/-- Retries and their end are no errors for the journal. -/
theorem errors_successLog (name : String) (retries : Nat) :
    errors (Retry.successLog name retries) = [] := by
  rw [Retry.successLog]
  split <;> rfl

namespace Runner

variable {σ : Type} {s s' : Store} {q : Inquiry} {reply : Reply} {lapse : CallFailure}
  {rules : List Rule}

/-! ### Replies -/

/-- What a reply says when the rules were asked for. An answer of another kind is a failure. -/
def listing : Reply → Except CallFailure (List Rule)
  | .ok (.rules rules) => .ok rules
  | .ok _ => .error (.wrongReply .loadRules)
  | .error lapse => .error lapse

/-- **A reply after which the rules are not asked for again**: they are listed, or the failure is
one that does not pass. -/
def Settles (reply : Reply) : Prop :=
  ∀ lapse, listing reply = .error lapse → (Failure.call lapse).retryable = false

/-- What is reported as an error of an inquiry for the rules: its failure, if it has failed. -/
def reported? (q : Inquiry) : Option Event :=
  match listing q.reply with
  | .ok _ => none
  | .error lapse => some (.callFailed lapse)

theorem listing_eq_ok_iff : listing reply = .ok rules ↔ reply = .ok (.rules rules) := by
  rcases reply with lapse | a
  · exact iff_of_false (by rintro ⟨⟩) (by rintro ⟨⟩)
  · cases a <;> simp [listing]

theorem bind_confirm_load (reply : Reply) :
    reply.bind Request.load.confirm = (listing reply).map .loaded := by
  rcases reply with lapse | a
  · rfl
  · cases a <;> rfl

/-! ### One attempt -/

/-- **What an inquiry for the rules makes of a store**, and what it comes to: the rules that are
listed are published, each identifier with its first rule; and a failure changes nothing. -/
structure Concludes (s : Store) (q : Inquiry) (result : Except Failure Confirmed) (s' : Store) :
    Prop where
  listed : ∀ rules, listing q.reply = .ok rules →
    result = .ok (.loaded rules) ∧ s.Publishes (Rule.foremost rules) s'
  failed : ∀ lapse, listing q.reply = .error lapse → result = .error (.call lapse) ∧ s' = s

theorem concludes_listed (h : listing q.reply = .ok rules) :
    Concludes s q (.ok (.loaded rules)) (s.publish (Rule.firsts rules)) where
  listed rules' h' := by
    obtain rfl := Except.ok.inj (h.symm.trans h')
    rw [Rule.firsts_eq_foremost]
    exact ⟨rfl, Store.publishes_publish _ _⟩
  failed lapse h' := by cases h.symm.trans h'

theorem concludes_failed (h : listing q.reply = .error lapse) :
    Concludes s q (.error (.call lapse)) s where
  listed rules h' := by cases h.symm.trans h'
  failed lapse' h' := by
    obtain rfl := Except.error.inj (h.symm.trans h')
    exact ⟨rfl, rfl⟩

/-- A failure of an attempt is that of its inquiry, and the store is as it was. -/
theorem Concludes.of_error {failure : Failure} (h : Concludes s q (.error failure) s') :
    s' = s ∧ ∃ lapse, listing q.reply = .error lapse ∧ failure = .call lapse := by
  cases hq : listing q.reply with
  | ok rules => cases (h.listed rules hq).1
  | error lapse =>
    obtain ⟨hfailure, hstore⟩ := h.failed lapse hq
    exact ⟨hstore, lapse, rfl, Except.error.inj hfailure⟩

/-- **One attempt to load the rules** makes one inquiry, concludes as the reply says, and reports
its failure if it has failed. -/
theorem concludes_of_attempt {svc : Service σ} {w : σ × List Inquiry}
    {result : Except Failure Confirmed} {log : List Event} {after : Store × σ × List Inquiry}
    (h : (loading svc.noted).attempt (s, w) = (result, log, after)) :
    ∃ q : Inquiry, q.call = .listRules ∧ after.2.2 = w.2 ++ [q] ∧
      Concludes s q result after.1 ∧ errors log = (reported? q).toList := by
  let q : Inquiry := ⟨.listRules, (svc.ask .listRules w.1).1⟩
  have hconfirm : (svc.noted.ask Request.load.call w).1.bind Request.load.confirm =
      (listing q.reply).map .loaded := bind_confirm_load q.reply
  have henrol : s.enrol .load = .ok s := Store.enrol_of_untargeted rfl
  rw [loading] at h
  dsimp only at h
  cases hq : listing q.reply with
  | ok rules =>
    rw [hq] at hconfirm
    rw [Store.perform_of_confirmed rfl henrol hconfirm] at h
    cases h
    refine ⟨q, rfl, rfl, concludes_listed hq, ?_⟩
    -- all that is written is what the list had twice, and how many rules there are
    rw [reported?, hq, errors_append, Confirmed.log, errors_append]
    simp [errors, Event.level]
  | error lapse =>
    rw [hq] at hconfirm
    rw [Store.perform_of_lapse rfl henrol hconfirm] at h
    cases h
    refine ⟨q, rfl, rfl, concludes_failed hq, ?_⟩
    rw [reported?, hq]
    rfl

/-! ### All attempts -/

/-- **The course of a loading** that begins with the store `s`, when `allowed` retries are allowed
and `before` are the inquiries that were made before: those in `failed` were in vain and tried
again, and `last` was the last one. -/
structure Loads (s : Store) (allowed : Nat) (before failed : List Inquiry) (last : Inquiry)
    (o : Retry.Outcome (Store × σ × List Inquiry) Failure Confirmed) : Prop where
  notes : o.state.2.2 = before ++ (failed ++ [last])
  calls : ∀ q ∈ failed ++ [last], q.call = .listRules
  length_le : failed.length ≤ allowed
  /-- The rules are asked for again after every reply but the last … -/
  unsettled : ∀ q ∈ failed, ¬Settles q.reply
  /-- … and not after that one, or because no retry is left. -/
  ends : failed.length = allowed ∨ Settles last.reply
  concludes : Concludes s last o.result o.state.1
  /-- There is one error for each reply that was a failure, in their order, and no other. -/
  reported : errors o.log = (failed ++ [last]).filterMap reported?

/-- The last attempt, on its own. -/
theorem loads_last {allowed : Nat} {before : List Inquiry} {delays : List Nat}
    {result : Except Failure Confirmed} {log : List Event} {after : Store × σ × List Inquiry}
    (hcall : q.call = .listRules) (hnotes : after.2.2 = before ++ [q])
    (hconcludes : Concludes s q result after.1) (hends : 0 = allowed ∨ Settles q.reply)
    (hlog : errors log = (reported? q).toList) :
    Loads s allowed before [] q ⟨result, delays, log, after⟩ where
  notes := hnotes
  calls := List.forall_mem_singleton.mpr hcall
  length_le := Nat.zero_le allowed
  unsettled := List.forall_mem_nil _
  ends := hends
  concludes := hconcludes
  reported := by
    rw [hlog, List.nil_append]
    cases hq : reported? q with
    | none => rw [List.filterMap_cons_none hq]; rfl
    | some event => rw [List.filterMap_cons_some hq]; rfl

/-- An attempt in vain in front of the others. -/
theorem Loads.cons {allowed : Nat} {before failed : List Inquiry} {last : Inquiry}
    {o : Retry.Outcome (Store × σ × List Inquiry) Failure Confirmed} {delays : List Nat}
    {log : List Event} (h : Loads s allowed (before ++ [q]) failed last o)
    (hcall : q.call = .listRules) (hq : ¬Settles q.reply)
    (hlog : errors log = (reported? q).toList ++ errors o.log) :
    Loads s (allowed + 1) before (q :: failed) last ⟨o.result, delays, log, o.state⟩ where
  notes := by rw [h.notes, List.append_assoc, List.singleton_append, List.cons_append]
  calls := List.forall_mem_cons.mpr ⟨hcall, h.calls⟩
  length_le := Nat.succ_le_succ h.length_le
  unsettled := List.forall_mem_cons.mpr ⟨hq, h.unsettled⟩
  ends := h.ends.imp_left (congrArg (· + 1))
  concludes := h.concludes
  reported := by
    rw [hlog, h.reported, List.cons_append]
    cases hr : reported? q with
    | none => rw [List.filterMap_cons_none hr]; rfl
    | some event => rw [List.filterMap_cons_some hr]; rfl

/-- A failure settles nothing exactly if it may pass. -/
theorem settles_iff (h : listing reply = .error lapse) :
    Settles reply ↔ (Failure.call lapse).retryable = false := by
  refine ⟨fun hsettles => hsettles lapse h, fun hfalse lapse' h' => ?_⟩
  obtain rfl := Except.error.inj (h.symm.trans h')
  exact hfalse

/-- **Every loading takes its course**, with any service and from any store. -/
theorem loads_load (svc : Service σ) (p : Backoff) (s : Store) (w : σ × List Inquiry) :
    ∃ failed last, Loads s p.maxRetries w.2 failed last (load svc.noted p s w) := by
  refine Retry.attempts_induction
    (P := fun left _ before o => ∃ failed last, Loads before.1 left before.2.2 failed last o)
    ?_ ?_ ?_ ?_ p.maxRetries 0 (s, w)
  · rintro left retries ⟨s, w⟩ c log after h
    obtain ⟨q, hcall, hnotes, hconcludes, hlog⟩ := concludes_of_attempt h
    refine ⟨[], q, loads_last hcall hnotes hconcludes (.inr fun lapse hq => ?_) ?_⟩
    · cases (hconcludes.failed lapse hq).1
    · rw [errors_append, errors_successLog, List.append_nil]
      exact hlog
  · rintro left retries ⟨s, w⟩ failure log after h he
    obtain ⟨q, hcall, hnotes, hconcludes, hlog⟩ := concludes_of_attempt h
    obtain ⟨-, lapse, hq, rfl⟩ := hconcludes.of_error
    refine ⟨[], q, loads_last hcall hnotes hconcludes (.inr ((settles_iff hq).mpr he)) ?_⟩
    rw [errors_append, hlog]
    exact List.append_nil _
  · rintro retries ⟨s, w⟩ failure log after h -
    obtain ⟨q, hcall, hnotes, hconcludes, hlog⟩ := concludes_of_attempt h
    refine ⟨[], q, loads_last hcall hnotes hconcludes (.inl rfl) ?_⟩
    rw [errors_append, hlog]
    exact List.append_nil _
  · rintro left retries ⟨s, w⟩ failure log ⟨s', w'⟩ h he o ⟨failed, last, ih⟩
    have hpause : (loading svc.noted).pause (p.delay retries) (s', w') = (s', w') := rfl
    rw [hpause] at ih
    obtain ⟨q, hcall, hnotes, hconcludes, hlog⟩ := concludes_of_attempt h
    obtain ⟨hstore, lapse, hq, rfl⟩ := hconcludes.of_error
    -- the next attempt begins with the same store
    dsimp only at hnotes hstore ih
    rw [hnotes, hstore] at ih
    refine ⟨q :: failed, last, ih.cons hcall (fun hsettles => ?_) ?_⟩
    · cases ((settles_iff hq).mp hsettles).symm.trans he
    · rw [errors_append, errors_append, hlog]
      simp [errors, Event.level]

/-- The notes make no difference to the loading. -/
theorem load_noted (svc : Service σ) (p : Backoff) (s : Store) (w : σ × List Inquiry) :
    load svc p s w.1 = (load svc.noted p s w).map fun sw => (sw.1, sw.2.1) := by
  refine Retry.attempts_map (loading svc.noted) (loading svc) (fun sw => (sw.1, sw.2.1))
    rfl rfl rfl (fun _ _ => rfl) (fun sw => ?_) p.maxRetries 0 (s, w)
  rw [loading]
  dsimp only
  rw [Store.perform_noted svc sw.1 .load sw.2]
  rfl

/-! ### The main result -/

/-- **What the caller of a loading is given**: how many rules there are, or a report. -/
def delivered (result : Except Failure Confirmed) : Except Report Result :=
  (result.map Confirmed.result).mapError Report.ofFailure

/-- A task is not begun where the rules could not be loaded. -/
theorem loadAndRun_of_error {svc : Service σ} {p : Backoff} {w : σ} {failure : Failure}
    (h : (load svc p s w).result = .error failure) (task : Task) (input : List Text.Line) :
    (loadAndRun svc p s task input w).1 =
      ⟨(load svc p s w).state.1, "", .error (.ofFailure failure), (load svc p s w).log⟩ := by
  rw [loadAndRun]
  dsimp only
  rw [h]

/-- **The rules are loaded once, or not at all.** Let a store be in any state, take any policy and
any service, and so any replies. Notes of the inquiries make no difference to the loading, and
they say:

* the rules are asked for until a reply settles it, which lists them or is a failure that does not
  pass, but not more often than the policy allows;
* if the last reply lists rules, then the collection and the snapshot are the rules whose
  identifier stands at no place before them, one snapshot more has been published than before, and
  nothing else about the store is changed; and the caller is given their number;
* if it does not, then the store is the one before, and the failure is that of the last reply, as
  it came. The caller is given a report: what the user is told of the failure, and the failure
  behind it; and with this report ends every task that was to follow;
* there is one error in the journal for each reply that was a failure. -/
theorem load_settled (svc : Service σ) (p : Backoff) (s : Store) (w : σ) :
    let o := load svc.noted p s (w, [])
    load svc p s w = o.map (fun sw => (sw.1, sw.2.1)) ∧
    ∃ failed last, Loads s p.maxRetries [] failed last o ∧
      (∀ rules, listing last.reply = .ok rules →
        delivered o.result = .ok (.count o.state.1.rules.length)) ∧
      ∀ lapse, listing last.reply = .error lapse →
        let failure : Failure := .call lapse
        let report : Report := ⟨[failure.notice, failure.message]⟩
        delivered o.result = .error report ∧
          ∀ task input, (loadAndRun svc p s task input w).1 = ⟨s, "", .error report, o.log⟩ := by
  intro o
  have hnoted : load svc p s w = o.map fun sw => (sw.1, sw.2.1) := load_noted svc p s (w, [])
  obtain ⟨failed, last, hloads⟩ := loads_load svc p s (w, [])
  refine ⟨hnoted, failed, last, hloads, fun rules hrules => ?_, fun lapse hlapse => ?_⟩
  · obtain ⟨hresult, hpublishes⟩ := hloads.concludes.listed rules hrules
    rw [hresult, hpublishes.rules, ← Rule.firsts_eq_foremost]
    rfl
  · obtain ⟨hresult, hstore⟩ := hloads.concludes.failed lapse hlapse
    refine ⟨congrArg delivered hresult, fun task input => ?_⟩
    have hload : (load svc p s w).result = .error (.call lapse) := by
      rw [hnoted]
      exact hresult
    rw [loadAndRun_of_error hload, hnoted]
    exact congrArg (fun s => (⟨s, "", .error (.ofFailure (.call lapse)), o.log⟩ : Ran)) hstore

end Runner

end Rulebook
