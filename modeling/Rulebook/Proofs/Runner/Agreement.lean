import Rulebook.Proofs.Console.Parsing
import Rulebook.Proofs.Console.Prompts
import Rulebook.Runner

/-!
# A task and the lines that say it

What can be asked for as a whole, as a task, can also be said to a session, line by line
(`Rulebook.Runner.Says`): to change the text of a rule, for instance, one begins to edit the
rule, writes the draft and saves it. The two go different ways through the library. A task
goes to the store at once, a draft through the editor, and a selection through the trial; and a
session reads everything from lines first. They come to the same
(`Rulebook.Runner.task_agrees_with_session`): the same calls in the same order, the same store,
and a complaint in the end exactly if the task fails.

The two are compared at the last command of the lines (`Rulebook.Runner.Agrees`). The lines
before it do nothing but prepare the session. In most cases both come to the same request; only
where the rule to be edited is not there they part, since the task asks the store, which does
not know the rule, and the session has nothing to save.
-/

namespace Rulebook.Runner

open Console Console.Session
open Text (Line OneLine typed)

variable {σ : Type} {svc : Service σ} {w : σ}

/-! ### Complaints -/

/-- **A message that says that something went wrong.** -/
def Complains (text : String) : Prop := "错误: ".toList <+: text.toList

instance (text : String) : Decidable (Complains text) := inferInstanceAs (Decidable (_ <+: _))

theorem complains_notice (f : Failure) : Complains (notice f) := by
  refine ⟨f.notice.toList, ?_⟩
  rw [← String.toList_append]
  rfl

/-- A message that begins otherwise is no complaint. -/
theorem not_complains_of_head {text : String} {c : Char} (h : text.toList.head? = some c)
    (hc : c ≠ '错') : ¬Complains text := by
  rintro ⟨more, hmore⟩
  rw [← hmore] at h
  exact hc (Option.some.inj h).symm

theorem head?_append {s : String} {c : Char} (h : s.toList.head? = some c) (t : String) :
    (s ++ t).toList.head? = some c := by
  rw [String.toList_append, List.head?_append, h]
  rfl

theorem not_complains_append {front : String} {c : Char} (h : front.toList.head? = some c)
    (hc : c ≠ '错') (rest : String) : ¬Complains (front ++ rest) :=
  not_complains_of_head (head?_append h rest) hc

theorem not_complains_confirmation (c : Confirmed) : ¬Complains (confirmation c) := by
  cases c with
  | loaded listed => exact not_complains_append (c := '已') (head?_append rfl _) (by decide) _
  | created r => exact not_complains_append (c := '已') rfl (by decide) _
  | deleted x => exact not_complains_append (c := '已') rfl (by decide) _
  | toggled x enabled =>
    exact not_complains_append (c := '规') (head?_append (head?_append rfl _) _) (by decide) _
  | updated x text => exact not_complains_append (c := '已') rfl (by decide) _
  | combined n tree => exact not_complains_append (c := '合') rfl (by decide) _

theorem not_complains_saved (x : RuleId) : ¬Complains s!"已保存规则: {x.text}" :=
  not_complains_append (c := '已') rfl (by decide) _

theorem not_complains_outcome (o : Outcome) : ¬Complains (outcome o) := by
  have hhead (verdict : String) : (s!"评估结果: {verdict}").toList.head? = some '评' :=
    head?_append rfl _
  rw [outcome]
  split
  · exact not_complains_of_head (hhead _) (by decide)
  · exact not_complains_append (head?_append (hhead _) _) (by decide) _

/-- **What the last line was answered with**: the last message since the last prompt. -/
def lastReport? (shown : List Shown) : Option String :=
  (shown.filterMap fun
    | .prompt => some none
    | .message text => some (some text)
    | _ => none).getLast?.join

/-- It does not depend on what was shown before. -/
theorem lastReport?_append {front back : List Shown} {text : String}
    (h : lastReport? back = some text) : lastReport? (front ++ back) = some text := by
  rw [lastReport?, Option.join_eq_some_iff] at h ⊢
  rw [List.filterMap_append, List.getLast?_append, h]
  rfl

/-- A table is no message. -/
theorem lastReport?_refresh (e : Executed) :
    lastReport? (refresh e).shown = lastReport? e.shown := by
  rw [refresh]
  split
  · rfl
  · rw [lastReport?, List.filterMap_append]
    exact congrArg (Option.join ∘ List.getLast?) (List.append_nil _)

/-! ### Tasks and lines -/

/-- **The lines that say a task to a session.** -/
inductive Says : Task → List String → Prop
  | create {text : String} (htext : Typeable text) : Says (.create text) [said "add" text]
  | toggle {x : RuleId} (hx : Typeable x.text) : Says (.toggle x) [said "toggle" x.text]
  | delete {x : RuleId} (hx : Typeable x.text) : Says (.delete x true) [said "delete" x.text, "y"]
  | update {x : RuleId} {text : String} (hx : Typeable x.text) (htext : Typeable text) :
      Says (.update x text) [said "edit" x.text, said "draft" text, "save"]
  | evaluate {x : RuleId} {data : String} (hx : Typeable x.text) (hdata : Typeable data) :
      Says (.evaluate x data) [said "select" x.text, said "data" data, "eval"]
  | combine {xs : List RuleId} (hne : xs ≠ []) (hxs : ∀ x ∈ xs, Word x.text) :
      Says (.combine xs) [said "combine" (spaced xs)]

/-- A turn with a command that asks no question. -/
def plain (c : Command) : Console.Turn := ⟨.ok c, ""⟩

/-- The turns of a session in which a task is carried out. -/
def Task.turns : Task → List Console.Turn
  | .create text => [plain (.add text)]
  | .toggle x => [plain (.toggle x)]
  | .delete x true => [⟨.ok (.delete x), "y"⟩]
  | .update x text => [plain (.edit x), plain (.draft text), plain .save]
  | .evaluate x data => [plain (.select x), plain (.data data), plain .eval]
  | .combine xs => [plain (.combine xs)]
  | _ => []

variable {task : Task} {script : List String} {arg : String}

theorem Says.oneLine (h : Says task script) : ∀ line ∈ script, OneLine line := by
  cases h with
  | create htext => simpa using htext.oneLine_said (by decide)
  | toggle hx => simpa using hx.oneLine_said (by decide)
  | delete hx => simpa using ⟨hx.oneLine_said (by decide), Word.oneLine (by decide)⟩
  | update hx htext =>
    simpa using ⟨hx.oneLine_said (by decide), htext.oneLine_said (by decide),
      Word.oneLine (by decide)⟩
  | evaluate hx hdata =>
    simpa using ⟨hx.oneLine_said (by decide), hdata.oneLine_said (by decide),
      Word.oneLine (by decide)⟩
  | combine hne hxs => simpa using (typeable_spaced hne hxs).oneLine_said (by decide)

theorem turns_plain {line : String} {c : Command} {lines : List Line} {ts : List Console.Turn}
    {close : Close} (hline : Command.parse line = .ok c) (hquit : c ≠ .quit)
    (hdelete : ∀ x, c ≠ .delete x) (h : turns lines = (ts, close)) :
    turns (.ok line :: lines) = (plain c :: ts, close) := by
  have htakes : Takes (.ok line :: lines) (plain c) lines := by
    rw [plain, ← hline]
    refine .command (fun heq => hquit ?_) (fun x heq => hdelete x ?_)
    · exact Except.ok.inj (hline.symm.trans heq)
    · exact Except.ok.inj (hline.symm.trans heq)
  rw [turns_of_takes htakes, h]
  rfl

theorem parse_said_text (word : String) (c : String → Command) {what : String}
    (hword : Word word) (harg : Argument arg)
    (h : Command.ofWord word arg.toList = (needed word what arg.toList).map c) :
    Command.parse (said word arg) = .ok (c arg) := by
  rw [parse_said hword harg, h, needed_of_argument harg]
  rfl

theorem parse_said_id (word : String) (c : RuleId → Command) {x : RuleId}
    (hword : Word word) (hx : Argument x.text)
    (h : Command.ofWord word x.text.toList = (neededId word x.text.toList).map c) :
    Command.parse (said word x.text) = .ok (c x) := by
  rw [parse_said hword hx, h, neededId_of_argument hx]
  rfl

/-- **The lines of a task** are read as its turns. -/
theorem Says.turns (h : Says task script) :
    Console.turns (script.map .ok) = (task.turns, .endOfInput) := by
  cases h with
  | create htext =>
    have hadd := parse_said_text "add" .add (by decide) htext.argument rfl
    exact turns_plain hadd (by simp) (by simp) rfl
  | toggle hx =>
    have htoggle := parse_said_id "toggle" .toggle (by decide) hx.argument rfl
    exact turns_plain htoggle (by simp) (by simp) rfl
  | delete hx =>
    have hdelete := parse_said_id "delete" .delete (by decide) hx.argument rfl
    exact turns_of_takes (.answered hdelete)
  | @update x text hx htext =>
    have hedit := parse_said_id "edit" .edit (by decide) hx.argument rfl
    have hdraft : Command.parse (said "draft" text) = .ok (.draft text) := by
      rw [parse_said (by decide) htext.argument, Command.ofWord, String.ofList_toList]
    have hsave : Command.parse "save" = .ok .save := parse_word (by decide)
    exact turns_plain hedit (by simp) (by simp) (turns_plain hdraft (by simp) (by simp)
      (turns_plain hsave (by simp) (by simp) rfl))
  | @evaluate x data hx hdata =>
    have hselect := parse_said_id "select" .select (by decide) hx.argument rfl
    have hdata : Command.parse (said "data" data) = .ok (.data data) := by
      rw [parse_said (by decide) hdata.argument, Command.ofWord, String.ofList_toList]
    have heval : Command.parse "eval" = .ok .eval := parse_word (by decide)
    exact turns_plain hselect (by simp) (by simp) (turns_plain hdata (by simp) (by simp)
      (turns_plain heval (by simp) (by simp) rfl))
  | combine hne hxs => exact turns_plain (parse_combine hne hxs) (by simp) (by simp) rfl

/-! ### Agreement -/

/-- **A task agrees with a session**: they have called the service for the same, they leave the
same store, and the last message of the session is a complaint exactly if the task failed. -/
structure Agrees (r : Ran × σ) (e : Executed × σ) : Prop where
  world : e.2 = r.2
  store : e.1.session.store = r.1.store
  result : ∃ text, lastReport? e.1.shown = some text ∧ (r.1.result.isOk = true ↔ ¬Complains text)

variable {r : Ran × σ} {s : Session} {c : Command} {t : Console.Turn} {x : RuleId}

theorem agrees_request (svc : Service σ) (before : String) (s : Session) (req : Request) (w : σ) :
    Agrees (request svc before s.store req w) (s.request svc req w) := by
  rw [request, Session.request]
  rcases s.store.perform svc req w with ⟨⟨store, failure | done, log⟩, w⟩
  · exact ⟨rfl, rfl, _, rfl, iff_of_false Bool.false_ne_true (not_not_intro (complains_notice _))⟩
  · exact ⟨rfl, rfl, _, rfl, iff_of_true rfl (not_complains_confirmation _)⟩

/-- The editor and the trial have no say in what becomes of the rule. -/
theorem agrees_delete (svc : Service σ) (s : Session) (x : RuleId) (w : σ) :
    Agrees (request svc "" s.store (.delete x) w) (s.delete svc x w) := by
  rw [request, Session.delete]
  rcases s.store.perform svc (.delete x) w with ⟨⟨store, failure | done, log⟩, w⟩
  · exact ⟨rfl, rfl, _, rfl, iff_of_false Bool.false_ne_true (not_not_intro (complains_notice _))⟩
  · exact ⟨rfl, rfl, _, rfl, iff_of_true rfl (not_complains_confirmation _)⟩

/-- Saving a draft that is not blank comes to a change of the text. -/
theorem agrees_save (svc : Service σ) {refusal? : Option Failure} (w : σ)
    (hdraft : s.editor = ⟨some ⟨x, arg⟩, refusal?⟩) (harg : Argument arg) :
    Agrees (request svc "" s.store (.update x arg) w) (s.save svc w) := by
  have htext : Text.trim arg ≠ "" := by
    rw [harg.2]
    exact harg.1
  have hsub : s.editor.submission = (s.editor, .ok ⟨x, arg⟩) := by
    rw [hdraft, Editor.submission]
    dsimp only
    rw [checkRuleText_eq_ok_iff.mpr htext]
  rw [request, Session.save, Editor.save, hsub]
  dsimp only
  rw [Editor.conclude]
  rcases s.store.perform svc (.update x arg) w with ⟨⟨store, failure | done, log⟩, w⟩
  · exact ⟨rfl, rfl, _, rfl, iff_of_false Bool.false_ne_true (not_not_intro (complains_notice _))⟩
  · exact ⟨rfl, rfl, _, rfl, iff_of_true rfl (not_complains_saved x)⟩

/-- What an evaluation comes to does not depend on the trial. -/
theorem evaluate_congr (svc : Service σ) (a b : Trial) (s : Store) (x? : Option RuleId)
    (data : String) (w : σ) :
    (a.evaluate svc s x? data w).1.result = (b.evaluate svc s x? data w).1.result ∧
      (a.evaluate svc s x? data w).2 = (b.evaluate svc s x? data w).2 := by
  rw [Trial.evaluate, Trial.evaluate]
  split
  · exact ⟨rfl, rfl⟩
  · rename_i e _
    rcases svc.ask (.evaluateRule e) w with ⟨reply, w⟩
    dsimp only
    rw [Trial.conclude, Trial.conclude]
    split <;> exact ⟨rfl, rfl⟩

theorem agrees_eval (svc : Service σ) {s : Session} (w : σ) (hrule : s.trial.selected? = some x)
    (hdata : s.trial.data = arg) : Agrees (evaluate svc s.store x arg w) (s.eval svc w) := by
  obtain ⟨hresult, hworld⟩ := evaluate_congr svc s.trial .empty s.store (some x) arg w
  rw [evaluate, Session.eval, Trial.submit, hrule, hdata]
  rcases hrun : Trial.empty.evaluate svc s.store (some x) arg w with ⟨⟨trial, failure | o, log⟩, w'⟩
  · rw [hrun] at hresult hworld
    dsimp only at hresult hworld ⊢
    rw [hresult]
    exact ⟨hworld, rfl, _, rfl,
      iff_of_false Bool.false_ne_true (not_not_intro (complains_notice _))⟩
  · rw [hrun] at hresult hworld
    dsimp only at hresult hworld ⊢
    rw [hresult]
    exact ⟨hworld, rfl, _, rfl, iff_of_true rfl (not_complains_outcome _)⟩

/-! ### Sessions of a few turns -/

/-- **The turn of a command** that a task agrees with. -/
theorem Agrees.turn (h : Agrees r (s.execute svc c t.answer w)) (ht : t.command = .ok c) :
    Agrees r (s.turn svc t w) := by
  obtain ⟨hsession, hshown, hworld⟩ := turn_of_ok ht svc s w
  obtain ⟨text, htext, hresult⟩ := h.result
  refine ⟨hworld.trans h.world, ?_, text, ?_, hresult⟩
  · rw [hsession, store_refresh, h.store]
  · rw [hshown, ← List.cons_append]
    exact lastReport?_append ((lastReport?_refresh _).trans htext)

/-- What came before the last command has no part in what a task agrees with. -/
theorem Agrees.runTurns_cons {ts : List Console.Turn}
    (h : Agrees r (runTurns svc ts (s.turn svc t w).1.session (s.turn svc t w).2)) :
    Agrees r (runTurns svc (t :: ts) s w) := by
  obtain ⟨hsession, hshown, hworld⟩ := Session.runTurns_cons svc t ts s w
  obtain ⟨text, htext, hresult⟩ := h.result
  refine ⟨hworld.trans h.world, ?_, text, ?_, hresult⟩
  · rw [hsession, h.store]
  · rw [hshown]
    exact lastReport?_append htext

/-- The last command is the one that counts. -/
theorem Agrees.runTurns_singleton (h : Agrees r (s.execute svc c t.answer w))
    (ht : t.command = .ok c) : Agrees r (runTurns svc [t] s w) := by
  obtain ⟨text, htext, hresult⟩ := (h.turn ht).result
  refine ⟨(h.turn ht).world, (h.turn ht).store, text, ?_, hresult⟩
  rw [(Session.runTurns_cons svc t [] s w).2.1, runTurns, List.append_nil, htext]

theorem refresh_say (hseen : s.store.published = s.seen) (text : String) :
    refresh (s.say text) = s.say text := if_pos hseen

/-- A command that only says something prepares the session for the next one. -/
theorem Agrees.after_say {s' : Session} {text : String} {ts : List Console.Turn}
    (h : Agrees r (runTurns svc ts s' w)) (hsay : s.execute svc c "" w = (s'.say text, w))
    (hseen : s'.store.published = s'.seen) : Agrees r (runTurns svc (plain c :: ts) s w) := by
  obtain ⟨hsession, -, hworld⟩ := turn_of_ok (t := plain c) rfl svc s w
  have hexecute : s.execute svc c (plain c).answer w = (s'.say text, w) := hsay
  rw [hexecute] at hsession hworld
  rw [refresh_say hseen] at hsession
  apply Agrees.runTurns_cons
  rw [hsession, hworld]
  exact h

/-- A session in which only a rule is being edited. -/
def editing (s : Store) (e : Editor) : Session := { Session.of s with editor := e }

theorem agrees_update (svc : Service σ) (s : Store) {x : RuleId} {text : String}
    (htext : Argument text) (w : σ) :
    Agrees (request svc "" s (.update x text) w)
      (runTurns svc [plain (.edit x), plain (.draft text), plain .save] (.of s) w) := by
  cases hget : s.get? x with
  | some rule =>
    have hedit : (Session.of s).execute svc (.edit x) "" w =
        ((editing s ⟨some ⟨x, rule.text⟩, none⟩).say s!"正在编辑规则 {x.text}: {rule.text}", w) := by
      rw [execute, Session.edit, Session.of, hget]
      rfl
    have hdraft : (editing s ⟨some ⟨x, rule.text⟩, none⟩).execute svc (.draft text) "" w =
        ((editing s ⟨some ⟨x, text⟩, if Text.blank text then none else none⟩).say
          "草稿已更新，输入 save 保存", w) := rfl
    have hsave := agrees_save svc w
      (s := editing s ⟨some ⟨x, text⟩, if Text.blank text then none else none⟩) rfl htext
    exact .after_say (.after_say (hsave.runTurns_singleton rfl) hdraft rfl) hedit rfl
  -- the store does not know the rule, and so nothing is edited and nothing is saved
  | none =>
    have hedit : (Session.of s).execute svc (.edit x) "" w =
        ((Session.of s).say (notice (.ruleNotFound x)), w) := by
      rw [execute, Session.edit, Session.of, hget]
    have hdraft : (Session.of s).execute svc (.draft text) "" w =
        ((Session.of s).say (notice .noActiveEdit), w) := rfl
    have hlisted : s.contains x = false := by
      rw [Store.contains, Bool.eq_false_iff, Ne, Rule.listed_iff, ← Rule.content?_eq_none_iff,
        Rule.content?, ← Store.get?, hget]
      rfl
    have hcheck : s.check (.update x text) = .error (.ruleNotFound x) := by
      rw [Store.check_of_target rfl, Store.require_of_not_contains hlisted]
      rintro _ ⟨⟩
      exact htext.blank_eq_false
    have hrefused : Agrees (request svc "" s (.update x text) w) ((Session.of s).save svc w) := by
      rw [request, Store.perform, Store.start_of_check_error hcheck]
      exact ⟨rfl, rfl, _, rfl,
        iff_of_false Bool.false_ne_true (not_not_intro (complains_notice _))⟩
    exact .after_say (.after_say (hrefused.runTurns_singleton rfl) hdraft rfl) hedit rfl

/-- A session in which only a rule and the data for an evaluation are chosen. -/
def trying (s : Store) (t : Trial) : Session := { Session.of s with trial := t }

theorem agrees_evaluate (svc : Service σ) (s : Store) (x : RuleId) (data : String) (w : σ) :
    Agrees (evaluate svc s x data w)
      (runTurns svc [plain (.select x), plain (.data data), plain .eval] (.of s) w) := by
  have hselect : (Session.of s).execute svc (.select x) "" w =
      ((trying s ⟨some x, "", none⟩).say s!"已选择规则: {x.text}", w) := rfl
  have hdata : (trying s ⟨some x, "", none⟩).execute svc (.data data) "" w =
      ((trying s ⟨some x, data, none⟩).say "用户数据已更新", w) := rfl
  have heval := agrees_eval svc w (s := trying s ⟨some x, data, none⟩) rfl rfl
  exact .after_say (.after_say (heval.runTurns_singleton rfl) hdata rfl) hselect rfl

/-- **A task and its turns agree.** -/
theorem Says.agrees_turns (h : Says task script) (svc : Service σ) (s : Store)
    (input : List Line) (w : σ) :
    Agrees (run svc s task input w) (runTurns svc task.turns (.of s) w) := by
  cases h with
  | @create text htext =>
    exact (agrees_request svc "" (.of s) (.create text) w).runTurns_singleton rfl
  | @toggle x hx => exact (agrees_request svc "" (.of s) (.toggle x) w).runTurns_singleton rfl
  | @delete x hx =>
    have hdelete : Agrees (request svc "" s (.delete x) w)
        ((Session.of s).execute svc (.delete x) "y" w) := agrees_delete svc (.of s) x w
    exact hdelete.runTurns_singleton rfl
  | update hx htext => exact agrees_update svc s htext.argument w
  | @evaluate x data hx hdata => exact agrees_evaluate svc s x data w
  | @combine xs hne hxs =>
    exact (agrees_request svc "" (.of s) (.combine xs) w).runTurns_singleton rfl

/-! ### The main result -/

/-- **One command or a session, it makes no difference.** Let the lines `script` say the task
`task`. Whatever is in the store, whether it is guarded or not, and whatever the service
replies, a session on these lines ends with the input, and

* the session and the task make the same calls in the same order, and so get the same replies;
* they leave the same store;
* the task succeeds exactly if what the last line was answered with is no complaint. -/
theorem task_agrees_with_session (h : Says task script) (svc : Service σ) (s : Store)
    (input : List Line) (w : σ) :
    let r := run svc.recorded s task input (w, [])
    let e := (Session.of s).run svc.recorded (Text.lines (typed script)) (w, [])
    e.2.1 = none ∧ e.2.2 = r.2 ∧ e.1.session.store = r.1.store ∧
      ∃ shown text, e.1.shown = shown ++ [.prompt] ∧ lastReport? shown = some text ∧
        (r.1.result.isOk = true ↔ ¬Complains text) := by
  intro r e
  have hagrees : Agrees r (runTurns svc.recorded task.turns (.of s) (w, [])) :=
    h.agrees_turns svc.recorded s input (w, [])
  have hturns : Console.turns (Text.lines (typed script)) = (task.turns, .endOfInput) := by
    rw [Text.lines_typed h.oneLine, h.turns]
  have hsession : e = (⟨(runTurns svc.recorded task.turns (.of s) (w, [])).1.session,
      (Session.of s).opening ++ (runTurns svc.recorded task.turns (.of s) (w, [])).1.shown ++
        [.prompt], (runTurns svc.recorded task.turns (.of s) (w, [])).1.log⟩, none,
      (runTurns svc.recorded task.turns (.of s) (w, [])).2) := by
    change (Session.of s).run svc.recorded _ _ = _
    rw [Session.run, hturns]
    rfl
  obtain ⟨text, htext, hresult⟩ := hagrees.result
  rw [hsession]
  exact ⟨rfl, hagrees.world, hagrees.store, _, text, rfl, lastReport?_append htext, hresult⟩

/-- Blanks within an identifier and within a text stay as they are. -/
theorem update_agrees_with_session :
    let s := Store.loaded true [⟨⟨"r 1"⟩, "age > 18", true⟩]
    let task := Task.update ⟨"r 1"⟩ "age >  21"
    let script := ["edit r 1", "draft age >  21", "save"]
    let w := Rehearsal.of [.ok .done]
    let r := run Rehearsal.service.recorded s task [] (w, [])
    let e := (Session.of s).run Rehearsal.service.recorded (Text.lines (typed script)) (w, [])
    Says task script ∧ r.2.2 = [.updateRule ⟨"r 1"⟩ "age >  21"] ∧ r.1.result.isOk = true ∧
      e.2.2.2 = [.updateRule ⟨"r 1"⟩ "age >  21"] ∧ e.1.session.store = r.1.store ∧
      ∃ shown text, e.1.shown = shown ++ [.prompt] ∧ lastReport? shown = some text ∧
        ¬Complains text := by
  intro s task script w r e
  have hscript : Says task script := .update ⟨by decide, by decide⟩ ⟨by decide, by decide⟩
  have hcalls : r.2.2 = [.updateRule ⟨"r 1"⟩ "age >  21"] := rfl
  have hok : r.1.result.isOk = true := rfl
  obtain ⟨-, hworld, hstore, shown, text, hshown, hreport, hresult⟩ :=
    task_agrees_with_session hscript Rehearsal.service s [] w
  refine ⟨hscript, hcalls, hok, ?_, hstore, shown, text, hshown, hreport, hresult.mp hok⟩
  exact (congrArg Prod.snd hworld).trans hcalls

end Rulebook.Runner
