import Rulebook.Program
import Rulebook.Proofs.Console.Deletion
import Rulebook.Proofs.Http.Address
import Rulebook.Proofs.Runner.Loading

/-!
# What a task asks the service

A task is carried out in two parts. First the rules are loaded, again and again if need be, and
then the task asks for what it is about, once at most. Here it is shown that the parts do not
mix (`Rulebook.Program.inquiries_disciplined`): the inquiries of a run are those for the list of
rules, none of which is fulfilled but the last, and then the inquiry of the task, which is there
exactly if the rules were loaded, the user has consented, and the checks allow it on the rules
that were loaded. Nothing that changes a rule is ever sent before the rules were loaded, or sent
twice.
-/

namespace Rulebook

open Console
open Text (Line)

variable {σ : Type} {s : Store} {input : List Line}

/-! ### What a task may ask -/

namespace Runner

/-- **The call that a task may make**, given the rules that were loaded. -/
def Task.Asks (s : Store) : Task → Call → Prop
  | .create text, call => s.Asks (.create text) call
  | .delete x _, call => s.Asks (.delete x) call
  | .toggle x, call => s.Asks (.toggle x) call
  | .update x text, call => s.Asks (.update x text) call
  | .evaluate x data, call => Trial.Asks s (some x) data call
  | .combine xs, call => s.Asks (.combine xs) call
  | .list, _ => False
  | .shell, _ => False

/-- **The user consents**: where there is a question, the first line of the input affirms. -/
def Task.Consented (input : List Line) : Task → Prop
  | .delete _ false => ∃ answer rest, input = .ok answer :: rest ∧ Affirms answer
  | _ => True

/-- **The user takes the task back**: there is a question, and the first line of the input is
there, or the input has ended, and it does not affirm. -/
def Task.Cancelled (input : List Line) : Task → Prop
  | .delete _ false => input = [] ∨ ∃ answer rest, input = .ok answer :: rest ∧ ¬Affirms answer
  | _ => False

/-! ### Carrying out a task -/

theorem world_request (svc : Service σ) (before : String) (s : Store) (r : Request) (w : σ) :
    (request svc before s r w).2 = (s.perform svc r w).2 := by
  rw [request]
  rcases s.perform svc r w with ⟨⟨store, failure | c, log⟩, w'⟩ <;> rfl

theorem isOk_request (svc : Service σ) (before : String) (s : Store) (r : Request) (w : σ) :
    (request svc before s r w).1.result.isOk = true ↔
      ∃ c, (s.perform svc r w).1.result = .ok c := by
  rw [request]
  rcases s.perform svc r w with ⟨⟨store, failure | c, log⟩, w'⟩
  · exact iff_of_false Bool.false_ne_true nofun
  · exact iff_of_true rfl ⟨c, rfl⟩

theorem world_evaluate (svc : Service σ) (s : Store) (x : RuleId) (data : String) (w : σ) :
    (evaluate svc s x data w).2 = (Trial.empty.evaluate svc s (some x) data w).2 := by
  rw [evaluate]
  rcases Trial.empty.evaluate svc s (some x) data w with ⟨⟨trial, failure | o, log⟩, w'⟩ <;> rfl

theorem isOk_evaluate (svc : Service σ) (s : Store) (x : RuleId) (data : String) (w : σ) :
    (evaluate svc s x data w).1.result.isOk = true ↔
      ∃ o, (Trial.empty.evaluate svc s (some x) data w).1.result = .ok o := by
  rw [evaluate]
  rcases Trial.empty.evaluate svc s (some x) data w with ⟨⟨trial, failure | o, log⟩, w'⟩
  · exact iff_of_false Bool.false_ne_true nofun
  · exact iff_of_true rfl ⟨o, rfl⟩

theorem inquires_request (hs : s.AtRest) (svc : Service σ) (before : String) (r : Request)
    (w : σ × List Inquiry) :
    Inquires (s.Asks r) False w.2 (request svc.noted before s r w).2.2
      ((request svc.noted before s r w).1.result.isOk = true) := by
  rw [world_request, isOk_request]
  exact hs.inquires_perform svc r w

/-- A deletion is only inquired with the user's consent. -/
theorem inquires_askAndDelete (hs : s.AtRest) (svc : Service σ) (x : RuleId) (input : List Line)
    (w : σ × List Inquiry) :
    Inquires (fun call => (Task.delete x false).Consented input ∧ s.Asks (.delete x) call)
      ((Task.delete x false).Cancelled input) w.2 (askAndDelete svc.noted s x input w).2.2
      ((askAndDelete svc.noted s x input w).1.result.isOk = true) := by
  rcases input with _ | ⟨flaw | answer, rest⟩
  · refine inquires_nothing (fun call h => ?_) (iff_of_true rfl (Or.inl rfl))
    obtain ⟨answer, rest, hinput, -⟩ := h.1
    cases hinput
  · refine inquires_nothing (fun call h => ?_) (iff_of_false Bool.false_ne_true fun h => ?_)
    · obtain ⟨answer, rest', hinput, -⟩ := h.1
      cases hinput
    · rcases h with hinput | ⟨answer, rest', hinput, -⟩ <;> cases hinput
  · have hconsented : (Task.delete x false).Consented (.ok answer :: rest) ↔ Affirms answer := by
      constructor
      · rintro ⟨answer', rest', hinput, haffirms⟩
        cases hinput
        exact haffirms
      · exact fun haffirms => ⟨answer, rest, rfl, haffirms⟩
    have hcancelled : (Task.delete x false).Cancelled (.ok answer :: rest) ↔ ¬Affirms answer := by
      constructor
      · rintro (hinput | ⟨answer', rest', hinput, haffirms⟩)
        · cases hinput
        · cases hinput
          exact haffirms
      · exact fun haffirms => Or.inr ⟨answer, rest, rfl, haffirms⟩
    have hanswer : (takeAnswer (.ok answer :: rest)).1 = .ok (isYes answer) := rfl
    rw [askAndDelete, hanswer]
    by_cases haffirms : Affirms answer
    · rw [isYes_iff.mpr haffirms]
      exact (inquires_request hs svc _ (.delete x) w).congr
        (fun call => (and_iff_right (hconsented.mpr haffirms)).symm)
        (iff_of_false id fun h => hcancelled.mp h haffirms)
    · rw [Bool.eq_false_iff.mpr (isYes_iff.not.mpr haffirms)]
      exact inquires_nothing (fun call h => haffirms (hconsented.mp h.1))
        (iff_of_true rfl (hcancelled.mpr haffirms))

/-- **What a task inquires**: nothing, if it only shows the rules or is taken back; otherwise
what it may ask for, if the user consents. -/
theorem inquires_run (hs : s.AtRest) {task : Task} (htask : task ≠ .shell) (svc : Service σ)
    (input : List Line) (w : σ × List Inquiry) :
    Inquires (fun call => task.Consented input ∧ task.Asks s call)
      (task = .list ∨ task.Cancelled input) w.2 (run svc.noted s task input w).2.2
      ((run svc.noted s task input w).1.result.isOk = true) := by
  cases task with
  | list => exact inquires_nothing (fun call h => h.2) (iff_of_true rfl (Or.inl rfl))
  | shell => exact absurd rfl htask
  | delete x confirmed =>
    cases confirmed with
    | true =>
      exact (inquires_request hs svc "" (.delete x) w).congr
        (fun call => (and_iff_right trivial).symm) (by simp [Task.Cancelled])
    | false =>
      exact (inquires_askAndDelete hs svc x input w).congr (fun call => Iff.rfl) (by simp)
  | create text =>
    exact (inquires_request hs svc "" (.create text) w).congr
      (fun call => (and_iff_right trivial).symm) (by simp [Task.Cancelled])
  | toggle x =>
    exact (inquires_request hs svc "" (.toggle x) w).congr
      (fun call => (and_iff_right trivial).symm) (by simp [Task.Cancelled])
  | update x text =>
    exact (inquires_request hs svc "" (.update x text) w).congr
      (fun call => (and_iff_right trivial).symm) (by simp [Task.Cancelled])
  | combine xs =>
    exact (inquires_request hs svc "" (.combine xs) w).congr
      (fun call => (and_iff_right trivial).symm) (by simp [Task.Cancelled])
  | evaluate x data =>
    rw [run, world_evaluate, isOk_evaluate]
    exact (Trial.inquires_evaluate svc .empty s (some x) data w).congr
      (fun call => (and_iff_right trivial).symm) (by simp [Task.Cancelled])

/-! ### Loading -/

theorem loaded_eq (guarded : Bool) (listed : List Rule) :
    (Store.empty guarded).apply (.loaded listed) = .loaded guarded listed := by
  rw [Store.loaded, Store.finish_of_ok (c := .loaded listed) rfl, Store.abandon_of_untargeted rfl]

/-- **What loading came to**, as its last inquiry tells. -/
inductive Loaded (s : Store) (last : Inquiry) : Except Failure Confirmed → Store → Prop
  | failed (failure : Failure) (h : ¬last.Fulfilled) : Loaded s last (.error failure) s
  | listed (rules : List Rule) (h : last.reply = .ok (.rules rules)) :
      Loaded s last (.ok (.loaded rules)) (s.apply (.loaded rules))

/-- **Loading the rules**: they are inquired once more than a retry is allowed, at most, and
nothing else is; and all inquiries but the last are in vain. -/
theorem inquiries_of_load (svc : Service σ) (p : Backoff) (s : Store) (w : σ × List Inquiry) :
    let o := load svc.noted p s w
    ∃ failed last, o.state.2.2 = w.2 ++ (failed ++ [last]) ∧ failed.length ≤ p.maxRetries ∧
      (∀ q ∈ failed ++ [last], q.call = .listRules) ∧ (∀ q ∈ failed, ¬q.Fulfilled) ∧
      Loaded s last o.result o.state.1 := by
  obtain ⟨failed, last, h⟩ := loads_load svc p s w
  have hfulfilled : ∀ q ∈ failed ++ [last],
      q.Fulfilled ↔ ∃ rules, q.reply = .ok (.rules rules) := by
    rintro ⟨call, reply⟩ hq
    obtain rfl : call = .listRules := h.calls _ hq
    exact Inquiry.fulfilled_of_listRules
  refine ⟨failed, last, h.notes, h.length_le, h.calls, fun q hq hdone => ?_, ?_⟩
  · obtain ⟨rules, hrules⟩ := (hfulfilled q (List.mem_append_left _ hq)).mp hdone
    refine h.unsettled q hq fun lapse hlapse => ?_
    cases (listing_eq_ok_iff.mpr hrules).symm.trans hlapse
  · cases hlast : listing last.reply with
    | ok rules =>
      obtain ⟨hresult, hpublishes⟩ := h.concludes.listed rules hlast
      rw [hresult, hpublishes.eq_publish, ← Rule.firsts_eq_foremost]
      exact .listed rules (listing_eq_ok_iff.mp hlast)
    | error lapse =>
      obtain ⟨hresult, hstore⟩ := h.concludes.failed lapse hlast
      rw [hresult, hstore]
      refine .failed _ fun hdone => ?_
      have hmem : last ∈ failed ++ [last] := List.mem_append_right failed List.mem_cons_self
      obtain ⟨rules, hrules⟩ := (hfulfilled last hmem).mp hdone
      cases (listing_eq_ok_iff.mpr hrules).symm.trans hlast

/-! ### Loading, and then the task -/

theorem request_noted (svc : Service σ) (before : String) (s : Store) (r : Request)
    (w : σ × List Inquiry) :
    request svc before s r w.1 =
      ((request svc.noted before s r w).1, (request svc.noted before s r w).2.1) := by
  rw [request, Store.perform_noted, request]
  rcases s.perform svc.noted r w with ⟨⟨store, failure | c, log⟩, w'⟩ <;> rfl

/-- The notes make no difference to a task. -/
theorem run_noted {task : Task} (htask : task ≠ .shell) (svc : Service σ) (s : Store)
    (input : List Line) (w : σ × List Inquiry) :
    run svc s task input w.1 =
      ((run svc.noted s task input w).1, (run svc.noted s task input w).2.1) := by
  cases task with
  | list => rfl
  | shell => exact absurd rfl htask
  | delete x confirmed =>
    cases confirmed with
    | true => exact request_noted svc "" s (.delete x) w
    | false =>
      rw [run, run, askAndDelete, askAndDelete]
      split
      · rfl
      · rfl
      · exact request_noted svc _ s (.delete x) w
  | create text => exact request_noted svc "" s (.create text) w
  | toggle x => exact request_noted svc "" s (.toggle x) w
  | update x text => exact request_noted svc "" s (.update x text) w
  | combine xs => exact request_noted svc "" s (.combine xs) w
  | evaluate x data =>
    rw [run, evaluate, Trial.evaluate_noted, run, evaluate]
    rcases Trial.empty.evaluate svc.noted s (some x) data w with
      ⟨⟨trial, failure | o, log⟩, w'⟩ <;> rfl

theorem loadAndRun_noted {task : Task} (htask : task ≠ .shell) (svc : Service σ) (p : Backoff)
    (s : Store) (input : List Line) (w : σ × List Inquiry) :
    loadAndRun svc p s task input w.1 =
      ((loadAndRun svc.noted p s task input w).1, (loadAndRun svc.noted p s task input w).2.1) := by
  rw [loadAndRun, load_noted, loadAndRun]
  rcases load svc.noted p s w with ⟨failure | c, delays, log, s', w'⟩
  · rfl
  · rw [Retry.Outcome.map]
    dsimp only
    rw [run_noted htask]

/-- **The inquiries of a run**: those for the rules, and then that of the task. -/
theorem inquiries_of_loadAndRun (guarded : Bool) {task : Task} (htask : task ≠ .shell)
    (svc : Service σ) (p : Backoff) (input : List Line) (w : σ) :
    let r := loadAndRun svc.noted p (.empty guarded) task input (w, [])
    ∃ failed last own, r.2.2 = failed ++ last :: own ∧ failed.length ≤ p.maxRetries ∧
      (∀ q ∈ failed ++ [last], q.call = .listRules) ∧ (∀ q ∈ failed, ¬q.Fulfilled) ∧
      own.length ≤ 1 ∧
      (∀ call, (∃ reply, ⟨call, reply⟩ ∈ own) ↔ ∃ listed, last.reply = .ok (.rules listed) ∧
        task.Consented input ∧ task.Asks (.loaded guarded listed) call) ∧
      (r.1.result.isOk = true ↔
        last.Fulfilled ∧ (task = .list ∨ task.Cancelled input ∨ ∃ q ∈ own, q.Fulfilled)) := by
  obtain ⟨failed, last, hnotes, hlength, hcalls, hfailed, hloaded⟩ :=
    inquiries_of_load svc p (.empty guarded) (w, [])
  have hlast : last = ⟨.listRules, last.reply⟩ := by
    rw [← hcalls last (List.mem_append_right failed (List.mem_singleton_self last))]
  rw [loadAndRun]
  rcases hload : load svc.noted p (.empty guarded) (w, []) with ⟨result, delays, log, s, v, notes⟩
  rw [hload] at hnotes hloaded
  dsimp only [List.nil_append] at hnotes hloaded ⊢
  subst hnotes
  cases hloaded with
  | failed failure hno =>
    refine ⟨failed, last, [], rfl, hlength, hcalls, hfailed, Nat.zero_le 1, fun call => ?_, ?_⟩
    · refine iff_of_false ?_ ?_
      · rintro ⟨reply, h⟩
        exact List.not_mem_nil h
      · rintro ⟨listed, hlisted, -⟩
        rw [hlast, Inquiry.fulfilled_of_listRules] at hno
        exact hno ⟨listed, hlisted⟩
    · exact iff_of_false Bool.false_ne_true fun h => hno h.1
  | listed rules hrules =>
    have hfulfilled : last.Fulfilled := by
      rw [hlast, Inquiry.fulfilled_of_listRules]
      exact ⟨rules, hrules⟩
    rw [loaded_eq]
    obtain ⟨own, hown, hsingle, hown_calls, hok⟩ :=
      inquires_run (Store.atRest_loaded guarded rules) htask svc input (v, failed ++ [last])
    refine ⟨failed, last, own, ?_, hlength, hcalls, hfailed, hsingle, fun call => ?_, ?_⟩
    · dsimp only at hown ⊢
      rw [hown, List.append_assoc]
      rfl
    · refine (hown_calls call).trans ⟨fun h => ⟨rules, hrules, h⟩, ?_⟩
      rintro ⟨listed, hlisted, h⟩
      obtain rfl : rules = listed := by
        rw [hrules] at hlisted
        cases hlisted
        rfl
      exact h
    · refine hok.trans ?_
      rw [and_iff_right hfulfilled, or_assoc]

end Runner

/-! ### The main result -/

namespace Program

open Runner

theorem status_ran_eq_zero_iff {settings : Settings} {r : Ran} {shown : List Event} :
    (Ending.ran settings r shown).status = 0 ↔ r.result.isOk = true := by
  change (if r.result.isOk = true then 0 else 1) = 0 ↔ _
  split <;> simp [*]

/-- **The discipline of a run.** Let a task be carried out with any settings that name the address
of a service, on any input, and let the network do what it will. Notes of the inquiries make no
difference to that, and they say:

* first the rules are inquired, once and then at most as often as the settings allow a retry, and
  of these inquiries none is fulfilled but the last;
* after that at most one inquiry is made. It is the one that the task may make, given the rules
  that the last reply listed, and it is made exactly if the user consents;
* the program ends with status zero exactly if the last inquiry for the rules was fulfilled and
  the task only lists them, was taken back, or made its inquiry and it was fulfilled. -/
theorem inquiries_disciplined (net : Http.Network σ) (settings : Settings) {url : Url}
    (hurl : Http.address settings.baseUrl = .ok url) {task : Task} (htask : task ≠ .shell)
    (input : List Line) (w : σ) :
    let noted := loadAndRun (Http.service net url).noted settings.retry (.empty settings.guarded)
      task input (w, [])
    let ran := carryOut net settings task input w
    ran = ({ noted.1 with log := .connecting url.text :: noted.1.log }, noted.2.1) ∧
    ∃ failed last own, noted.2.2 = failed ++ last :: own ∧
      failed.length ≤ settings.retry.maxRetries ∧
      (∀ q ∈ failed ++ [last], q.call = .listRules) ∧ (∀ q ∈ failed, ¬q.Fulfilled) ∧
      own.length ≤ 1 ∧
      (∀ call, (∃ reply, ⟨call, reply⟩ ∈ own) ↔ ∃ listed, last.reply = .ok (.rules listed) ∧
        task.Consented input ∧ task.Asks (.loaded settings.guarded listed) call) ∧
      ∀ shown, (Ending.ran settings ran.1 shown).status = 0 ↔
        last.Fulfilled ∧ (task = .list ∨ task.Cancelled input ∨ ∃ q ∈ own, q.Fulfilled) := by
  intro noted ran
  have hran : ran = ({ noted.1 with log := .connecting url.text :: noted.1.log }, noted.2.1) := by
    change carryOut net settings task input w = _
    rw [carryOut, hurl]
    dsimp only
    rw [loadAndRun_noted htask (Http.service net url) settings.retry _ input (w, [])]
  obtain ⟨failed, last, own, hnotes, hlength, hcalls, hfailed, hsingle, hown, hok⟩ :=
    inquiries_of_loadAndRun settings.guarded htask (Http.service net url) settings.retry input w
  refine ⟨hran, failed, last, own, hnotes, hlength, hcalls, hfailed, hsingle, hown,
    fun shown => ?_⟩
  rw [status_ran_eq_zero_iff, hran]
  exact hok

/-- A network with responses that were laid out in advance. -/
def rehearsed : Http.Network (List (Option Http.Response)) :=
  ⟨fun _ w => (w.headD none, w.tail), fun _ => none⟩

/-- The body of a response with one rule. -/
def oneRule : List UInt8 :=
  Text.Utf8.encode "[\x7b\"_id\": \"a\", \"rule_string\": \"p\"\x7d]"

/-- A rule is deleted with the user's consent, after a first request that was lost. -/
theorem inquiries_disciplined_delete :
    let settings := { Settings.standard with baseUrl := "http://rules.test/api" }
    let task := Task.delete ⟨"a"⟩ false
    let input : List Line := [.ok " Yes"]
    let w := [none, some ⟨200, none, oneRule, true⟩, some ⟨200, none, [], true⟩]
    let noted := loadAndRun (Http.service rehearsed Http.site).noted settings.retry
      (.empty settings.guarded) task input (w, [])
    Http.address settings.baseUrl = .ok Http.site ∧ task ≠ .shell ∧
      noted.2.2.map (·.call.operation) = [.loadRules, .loadRules, .deleteRule] ∧
      (Ending.ran settings (carryOut rehearsed settings task input w).1 []).status = 0 ∧
      ∃ failed last own, noted.2.2 = failed ++ last :: own ∧ (∀ q ∈ failed, ¬q.Fulfilled) ∧
        last.Fulfilled ∧ own.length ≤ 1 ∧ ∃ q ∈ own, q.Fulfilled := by
  intro settings task input w noted
  have htask : task ≠ .shell := by decide
  obtain ⟨hran, failed, last, own, hnotes, -, -, hfailed, hsingle, -, hiff⟩ :=
    inquiries_disciplined rehearsed settings Http.address_site htask input w
  have hok : noted.1.result.isOk = true := by decide +kernel
  have hstatus :
      (Ending.ran settings (carryOut rehearsed settings task input w).1 []).status = 0 := by
    rw [status_ran_eq_zero_iff, hran]
    exact hok
  obtain ⟨hlast, hlist | hcancelled | hown⟩ := (hiff []).mp hstatus
  · exact absurd hlist (by decide)
  · rcases hcancelled with hinput | ⟨answer, rest, hinput, hno⟩
    · exact absurd hinput (List.cons_ne_nil _ _)
    · have hanswer : " Yes" = answer := Except.ok.inj (List.cons.inj hinput).1
      have haffirms : Affirms " Yes" := by decide
      exact absurd (hanswer ▸ haffirms) hno
  · exact ⟨Http.address_site, htask, by decide +kernel, hstatus, failed, last, own, hnotes,
      hfailed, hlast, hsingle, hown⟩

end Program

end Rulebook
