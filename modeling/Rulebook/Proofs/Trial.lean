import Rulebook.Proofs.Store.LastReply
import Rulebook.Proofs.Workbench.Calls

/-!
# Evaluations

A trial holds what was chosen last, and the outcome of the last evaluation that succeeded. In
between the store can change in any way: rules come and go, and what was chosen may be gone
when it is submitted. This file says what is left of a history in a trial, and what becomes of
an evaluation in the state that the history has led to.

The trial is what the moves make of it one by one (`Rulebook.Workbench.trial_step`), so that
after a history the last move that chose something decides what is chosen, and the last one
that came to an outcome decides which outcome is kept (`Rulebook.Workbench.trial_after`).
Failures are passed over.

What can stand in the way of an evaluation is listed in `Rulebook.Trial.Hinders`, in the order in
which it is found out, and whatever is not hindered is sent (`Rulebook.Trial.hinders_or_sent`). The
store is only ever looked at: an evaluation takes no entry in its registry, and asks for none.
-/

namespace Rulebook

/-! ### Before the service is asked -/

theorem UserData.decode_of_blank {text : String} (h : Text.trim text = "") :
    ∃ message, UserData.decode text = .error (.invalidFormat message) := by
  rw [decode, if_pos (Text.blank_iff.mpr h)]
  exact ⟨_, rfl⟩

/-- A text that says no value is refused for its format, and for nothing else. -/
theorem UserData.exists_message_of_decode {text : String} {failure : Failure}
    (h : UserData.decode text = .error failure) : ∃ message, failure = .invalidFormat message := by
  rw [decode] at h
  split at h
  · exact ⟨_, (Except.error.inj h).symm⟩
  · cases hparse : Json.parse text with
    | ok v =>
      rw [hparse] at h
      cases h
    | error e =>
      rw [hparse] at h
      exact ⟨_, (Except.error.inj h).symm⟩

namespace Trial

variable {s : Store} {id? : Option RuleId} {x : RuleId} {text : String} {value : Json.Value}
  {failure : Failure}

/-- **What stands in the way of an evaluation.** Each reason counts only where those before it do
not apply. -/
inductive Hinders (s : Store) : Option RuleId → String → Failure → Prop
  | missing {id? : Option RuleId} {text : String} (h : id? = none ∨ text = "") :
      Hinders s id? text .missingInput
  | unlisted {x : RuleId} {text : String} (ht : text ≠ "") (hx : x ∉ Rule.ids s.rules) :
      Hinders s (some x) text (.ruleNotFound x)
  | unreadable {x : RuleId} {text message : String} (ht : text ≠ "") (hx : x ∈ Rule.ids s.rules)
      (hv : UserData.decode text = .error (.invalidFormat message)) :
      Hinders s (some x) text (.invalidFormat message)

/-- **An evaluation that can be sent**: of a rule in the collection, on a text that says a
value. -/
structure Sent (s : Store) (id? : Option RuleId) (text : String) (x : RuleId)
    (value : Json.Value) : Prop where
  chosen : id? = some x
  listed : x ∈ Rule.ids s.rules
  read : UserData.decode text = .ok value

/-- An evaluation that can be sent has some text to it: none at all is blank. -/
theorem Sent.text_ne (h : Sent s id? text x value) : text ≠ "" := by
  rintro rfl
  have hblank : Text.trim "" = "" := by decide
  obtain ⟨message, hm⟩ := UserData.decode_of_blank hblank
  have hread := h.read
  rw [hm] at hread
  cases hread

theorem prepare_of_listed (ht : text ≠ "") (hx : x ∈ Rule.ids s.rules) :
    prepare s (some x) text = (UserData.decode text).map fun data => ⟨x, data⟩ := by
  have hc : s.contains x = true := Rule.listed_iff.mpr hx
  rw [prepare, if_neg ht, if_pos hc]

/-- **The checks find what stands in the way**, in this order. -/
theorem prepare_of_hinders (h : Hinders s id? text failure) :
    prepare s id? text = .error failure := by
  cases h with
  | missing h =>
    cases id? with
    | none => rfl
    | some x => rw [prepare, if_pos (h.resolve_left (Option.some_ne_none x))]
  | unlisted ht hx =>
    have hc : ¬s.contains _ = true := mt Rule.listed_iff.mp hx
    rw [prepare, if_neg ht, if_neg hc]
  | unreadable ht hx hv =>
    rw [prepare_of_listed ht hx, hv]
    rfl

theorem prepare_of_sent (h : Sent s id? text x value) : prepare s id? text = .ok ⟨x, value⟩ := by
  rw [h.chosen, prepare_of_listed h.text_ne h.listed, h.read]
  rfl

/-- **An evaluation is hindered or sent.** -/
theorem hinders_or_sent (s : Store) (id? : Option RuleId) (text : String) :
    (∃ failure, Hinders s id? text failure) ∨ ∃ x value, Sent s id? text x value := by
  cases id? with
  | none => exact .inl ⟨_, .missing (.inl rfl)⟩
  | some x =>
    by_cases ht : text = ""
    · exact .inl ⟨_, .missing (.inr ht)⟩
    · by_cases hx : x ∈ Rule.ids s.rules
      · cases hv : UserData.decode text with
        | ok value => exact .inr ⟨x, value, rfl, hx, hv⟩
        | error failure =>
          obtain ⟨message, rfl⟩ := UserData.exists_message_of_decode hv
          exact .inl ⟨_, .unreadable ht hx hv⟩
      · exact .inl ⟨_, .unlisted ht hx⟩

theorem Hinders.ne_busy (h : Hinders s id? text failure) (y : RuleId) (op : Operation) :
    failure ≠ .busy y op := by
  cases h <;> rintro ⟨⟩

/-! ### After the service was asked -/

/-- **What the caller is told about a reply**: the outcome that is in it, or what was wrong with
the call, as it came. -/
inductive Tells : Reply → Except Failure Outcome → Prop
  | outcome (o : Outcome) : Tells (.ok (.outcome o)) (.ok o)
  | failed (lapse : CallFailure) : Tells (.error lapse) (.error (.call lapse))
  /-- An answer of another kind counts as a call that went wrong. -/
  | other {answer : Answer} (h : ∀ o, answer ≠ .outcome o) :
      Tells (.ok answer) (.error (.call (.wrongReply .evaluateRule)))

theorem tells_conclude (t : Trial) (e : Evaluation) (reply : Reply) :
    Tells reply (t.conclude e reply).result := by
  cases reply with
  | error lapse => exact .failed lapse
  | ok answer =>
    cases answer with
    | outcome o => exact .outcome o
    | _ => exact .other (by rintro o ⟨⟩)

theorem conclude_ne_busy (t : Trial) (e : Evaluation) (reply : Reply) (y : RuleId)
    (op : Operation) : (t.conclude e reply).result ≠ .error (.busy y op) := by
  intro h
  cases isCall_of_conclude h

/-- **What a reply does to a trial**: an outcome becomes the last one, and a failure leaves the
one before. -/
theorem conclude_trial (t : Trial) (e : Evaluation) (reply : Reply) :
    (t.conclude e reply).trial =
      ⟨t.selected?, t.data, (t.conclude e reply).result.toOption.or t.outcome?⟩ := by
  rw [conclude]
  split
  · rfl
  · rfl

variable {σ : Type} {svc : Service σ} {t : Trial} {w : σ}

theorem evaluate_of_hinders (h : Hinders s id? text failure) :
    t.evaluate svc s id? text w = (⟨t, .error failure, [.finished .evaluation]⟩, w) := by
  rw [evaluate, prepare_of_hinders h]

theorem evaluate_of_sent (h : Sent s id? text x value) :
    t.evaluate svc s id? text w =
      (let call := .evaluateRule ⟨x, value⟩
       let ended := t.conclude ⟨x, value⟩ (svc.ask call w).1
       ({ ended with log := ended.log ++ [.finished .evaluation] }, (svc.ask call w).2)) := by
  rw [evaluate, prepare_of_sent h]

/-- **No evaluation is refused as busy.** -/
theorem evaluate_ne_busy (y : RuleId) (op : Operation) :
    (t.evaluate svc s id? text w).1.result ≠ .error (.busy y op) := by
  intro hf
  rcases hinders_or_sent s id? text with ⟨failure, h⟩ | ⟨x, value, h⟩
  · rw [evaluate_of_hinders h] at hf
    exact h.ne_busy y op (Except.error.inj hf)
  · rw [evaluate_of_sent h] at hf
    exact t.conclude_ne_busy _ _ y op hf

end Trial

/-! ### What is left of a history -/

/-- The outcome that a move comes to. -/
def Effect.outcome? : Effect → Option Outcome
  | evaluated result => result.toOption
  | _ => none

/-- The rule that a move chooses, or none if it takes the choice back. -/
def Move.choice? : Move → Option (Option RuleId)
  | select id => some (some id)
  | unselect => some none
  | _ => none

/-- The text of user data that a move brings in. -/
def Move.data? : Move → Option String
  | setData text => some text
  | _ => none

/-- The rule that is chosen after some moves. -/
def chosen? (moves : List Move) : Option RuleId := (moves.filterMap Move.choice?).getLast?.getD none

/-- The user data that are chosen after some moves. -/
def typed (moves : List Move) : String := (moves.filterMap Move.data?).getLast?.getD ""

namespace Workbench

variable {σ : Type} {b : Workbench} {svc : Service σ} {w : σ} {m : Move} {task : String}
  {id? : Option RuleId} {text : String} {failure : Failure} {x : RuleId} {value : Json.Value}

/-- What the moves of a history come to, one after the other. -/
def effects (svc : Service σ) (b : Workbench) : List Move → σ → List Effect
  | [], _ => []
  | m :: moves, w =>
    (b.step svc m w).1.effect :: effects svc (b.step svc m w).1.bench moves (b.step svc m w).2

@[simp] theorem abandon_trial (b : Workbench) (task : String) :
    (b.abandon task).trial = b.trial := by
  rw [abandon]
  split
  · rfl
  · rfl

@[simp] theorem launch_trial (svc : Service σ) (b : Workbench) (task : String) (e : Errand)
    (w : σ) : (launch svc b task e w).1.bench.trial = b.trial :=
  abandon_trial b task

/-- **What a move does to the trial.** -/
theorem trial_step (b : Workbench) (svc : Service σ) (m : Move) (w : σ) :
    (b.step svc m w).1.bench.trial =
      ⟨m.choice?.getD b.trial.selected?, m.data?.getD b.trial.data,
        (b.step svc m w).1.effect.outcome?.or b.trial.outcome?⟩ := by
  have hevaluate : ∀ id? text, (b.step svc (.evaluate id? text) w).1.bench.trial =
      ⟨b.trial.selected?, b.trial.data,
        (b.step svc (.evaluate id? text) w).1.effect.outcome?.or b.trial.outcome?⟩ := by
    intro id? text
    rw [step]
    rcases Trial.hinders_or_sent b.store id? text with ⟨failure, h⟩ | ⟨x, value, h⟩
    · rw [Trial.evaluate_of_hinders h]
      rfl
    · rw [Trial.evaluate_of_sent h]
      exact Trial.conclude_trial _ _ _
  have hstart : ∀ task id? text, (startEvaluate svc b task id? text w).1.bench.trial =
      ⟨b.trial.selected?, b.trial.data,
        (startEvaluate svc b task id? text w).1.effect.outcome?.or b.trial.outcome?⟩ := by
    intro task id? text
    rw [startEvaluate]
    split
    · rfl
    · rw [launch_trial]
      rfl
  cases m with
  | submit => exact hevaluate _ _
  | evaluate id? text => exact hevaluate id? text
  | startSubmit task => exact hstart task _ _
  | startEvaluate task id? text => exact hstart task id? text
  | finish task reply =>
    rw [step]
    split
    · rfl
    · rename_i e he
      cases e with
      | request r => rfl
      | saving d => rfl
      | evaluation e => exact Trial.conclude_trial _ _ _
  | abandon task => exact abandon_trial b task
  -- what is started brings in nothing for the trial
  | start task r =>
    simp only [step, start]
    split
    · rfl
    · rw [launch_trial]
      rfl
  | startSave task =>
    simp only [step, startSave]
    split
    · rfl
    · split
      · rfl
      · rw [launch_trial]
        rfl
  | perform r => rfl
  | edit id text => rfl
  | write text => rfl
  | cancel => rfl
  | save => rfl
  | select id => rfl
  | unselect => rfl
  | setData text => rfl

/-- **What is left of a history in the trial**: the last choice, the last text, and the last
outcome. -/
theorem trial_after (b : Workbench) (svc : Service σ) (moves : List Move) (w : σ) :
    (b.after svc moves w).1.trial =
      ⟨(moves.filterMap Move.choice?).getLast?.getD b.trial.selected?,
        (moves.filterMap Move.data?).getLast?.getD b.trial.data,
        ((b.effects svc moves w).filterMap Effect.outcome?).getLast?.or b.trial.outcome?⟩ := by
  induction moves generalizing b w with
  | nil => rfl
  | cons m moves ih =>
    rw [after, effects, ih, trial_step, getLast?_filterMap_cons, getLast?_filterMap_cons,
      getLast?_filterMap_cons, Option.or_assoc, Option.getD_or, Option.getD_or]

/-! ### Evaluations in a state -/

theorem alike_abandon (b : Workbench) (task : String) :
    b.store.Alike (b.abandon task).store := by
  rw [abandon]
  split
  · exact Store.alike_abandon _ _
  · exact .refl _

/-- What was launched under a name waits under it. -/
theorem task?_launch (svc : Service σ) (b : Workbench) (task : String) (e : Errand) (w : σ) :
    (launch svc b task e w).1.bench.task? task = some e := by
  have hfree : (b.abandon task).waiting.find? (·.1 == task) = none := by
    rw [waiting_abandon]
    refine List.find?_eq_none.mpr fun e he hname => ?_
    exact not_mem_names_forget (List.mem_map.mpr ⟨e, he, beq_iff_eq.mp hname⟩)
  rw [launch, task?, List.find?_append, hfree]
  simp

/-- A move that has to do with an evaluation: it is carried out in one go, or it is started, ended
or given up. -/
def Evaluating (b : Workbench) : Move → Prop
  | .submit => True
  | .evaluate _ _ => True
  | .startSubmit _ => True
  | .startEvaluate _ _ _ => True
  | .finish task _ => ∃ e, b.task? task = some (.evaluation e)
  | .abandon task => ∃ e, b.task? task = some (.evaluation e)
  | _ => False

/-- **An evaluation in one go**: why it is refused, and what it comes to otherwise. -/
structure Evaluates (b : Workbench) (id? : Option RuleId) (text : String) : Prop where
  /-- What is hindered is refused, without a call and without a change. -/
  hindered : ∀ failure, Trial.Hinders b.store id? text failure →
    ∀ {σ : Type} (svc : Service σ) (w : σ),
      b.step svc (.evaluate id? text) w =
        (⟨b, .evaluated (.error failure), [.finished .evaluation]⟩, w)
  /-- Everything else makes one call, and the caller is told about the reply. -/
  sent : ∀ x value, Trial.Sent b.store id? text x value →
    ∀ {σ : Type} (svc : Service σ) (w : σ) (calls : List Call),
      let ended := b.step svc.recorded (.evaluate id? text) (w, calls)
      ended.2.2 = calls ++ [.evaluateRule ⟨x, value⟩] ∧
        ∃ result, ended.1.effect = .evaluated result ∧
          Trial.Tells (svc.ask (.evaluateRule ⟨x, value⟩) w).1 result

/-- **An evaluation in two steps**: it is refused or sent when it is started, and the caller is
told about the reply when that comes in. -/
structure EvaluatesLater (b : Workbench) (task : String) (id? : Option RuleId) (text : String) :
    Prop where
  hindered : ∀ failure, Trial.Hinders b.store id? text failure →
    ∀ {σ : Type} (svc : Service σ) (w : σ),
      b.step svc (.startEvaluate task id? text) w = (⟨b, .evaluated (.error failure), []⟩, w)
  sent : ∀ x value, Trial.Sent b.store id? text x value →
    ∀ {σ : Type} (svc : Service σ) (w : σ) (calls : List Call),
      let begun := b.step svc.recorded (.startEvaluate task id? text) (w, calls)
      begun.2.2 = calls ++ [.evaluateRule ⟨x, value⟩] ∧ begun.1.effect = .waiting ∧
        begun.1.bench.task? task = some (.evaluation ⟨x, value⟩)

theorem evaluates (b : Workbench) (id? : Option RuleId) (text : String) :
    b.Evaluates id? text where
  hindered failure h σ svc w := by rw [step, Trial.evaluate_of_hinders h]
  sent x value h σ svc w calls := by
    rw [step, Trial.evaluate_of_sent h]
    exact ⟨rfl, _, rfl, Trial.tells_conclude _ _ _⟩

theorem evaluatesLater (b : Workbench) (task : String) (id? : Option RuleId) (text : String) :
    b.EvaluatesLater task id? text where
  hindered failure h σ svc w := by rw [step, startEvaluate, Trial.prepare_of_hinders h]
  sent x value h σ svc w calls := by
    have hbegun : b.step svc.recorded (.startEvaluate task id? text) (w, calls) =
        launch svc.recorded b task (.evaluation ⟨x, value⟩) (w, calls) := by
      rw [step, startEvaluate, Trial.prepare_of_sent h]
    rw [hbegun]
    exact ⟨rfl, rfl, task?_launch svc.recorded b task (.evaluation ⟨x, value⟩) (w, calls)⟩

/-- **An evaluation leaves alone what a store shows.** -/
theorem Evaluating.alike (h : b.Evaluating m) (svc : Service σ) (w : σ) :
    b.store.Alike (b.step svc m w).1.bench.store := by
  have hstart : ∀ task id? text,
      b.store.Alike (startEvaluate svc b task id? text w).1.bench.store := by
    intro task id? text
    rw [startEvaluate]
    split
    · exact .refl _
    · exact b.alike_abandon task
  cases m with
  | submit => exact .refl _
  | evaluate id? text => exact .refl _
  | startSubmit task => exact hstart task _ _
  | startEvaluate task id? text => exact hstart task id? text
  | finish task reply =>
    obtain ⟨e, he⟩ := h
    simp only [step, he]
    exact .refl _
  | abandon task => exact b.alike_abandon task
  | _ => exact h.elim

/-- **No evaluation is refused as busy**, when it is started or when it ends. -/
theorem Evaluating.ne_busy (h : b.Evaluating m) (svc : Service σ) (w : σ) (y : RuleId)
    (op : Operation) : (b.step svc m w).1.effect.failure? ≠ some (.busy y op) := by
  have hstart : ∀ task id? text,
      (startEvaluate svc b task id? text w).1.effect.failure? ≠ some (.busy y op) := by
    intro task id? text hf
    rcases Trial.hinders_or_sent b.store id? text with ⟨failure, hh⟩ | ⟨x, value, hs⟩
    · rw [startEvaluate, Trial.prepare_of_hinders hh] at hf
      exact hh.ne_busy y op (Option.some.inj hf)
    · rw [startEvaluate, Trial.prepare_of_sent hs] at hf
      cases hf
  cases m with
  | submit => exact fun hf => Trial.evaluate_ne_busy y op (Effect.failure?_evaluated.mp hf)
  | evaluate id? text =>
    exact fun hf => Trial.evaluate_ne_busy y op (Effect.failure?_evaluated.mp hf)
  | startSubmit task => exact hstart task _ _
  | startEvaluate task id? text => exact hstart task id? text
  | finish task reply =>
    obtain ⟨e, he⟩ := h
    simp only [step, he]
    exact fun hf => b.trial.conclude_ne_busy e reply y op (Effect.failure?_evaluated.mp hf)
  | abandon task => rintro ⟨⟩
  | _ => exact h.elim

/-! ### Evaluations at the end of a history -/

/-- **Evaluations, at the end of a history.** A new workbench has been through some moves, in
which the collection changed, errands waited, and the service gave whatever replies it gave.

* The last outcome is that of the last evaluation that came to one, and there is none if none did.
* What is submitted is the last choice and the last text.
* An evaluation, in one go or in two steps, is hindered or sent. One that is hindered is refused
  with the first reason that applies, without a call; blank text says no value. One that is sent
  makes one call, and its caller is told what was replied.
* Nothing that has to do with an evaluation changes what the store shows, and none of it is
  refused as busy. -/
theorem evaluations_after (guarded : Bool) (svc : Service σ) (moves : List Move) (w : σ) :
    let b := ((empty guarded).after svc moves w).1
    b.trial.outcome? =
        (((empty guarded).effects svc moves w).filterMap Effect.outcome?).getLast? ∧
      (∀ {τ : Type} (svc : Service τ) v,
        b.step svc .submit v = b.step svc (.evaluate (chosen? moves) (typed moves)) v ∧
          ∀ task, b.step svc (.startSubmit task) v =
            b.step svc (.startEvaluate task (chosen? moves) (typed moves)) v) ∧
      (∀ id? text,
        ((∃ failure, Trial.Hinders b.store id? text failure) ∨
            ∃ x value, Trial.Sent b.store id? text x value) ∧
          b.Evaluates id? text ∧ ∀ task, b.EvaluatesLater task id? text) ∧
      (∀ text, Text.trim text = "" →
        ∃ message, UserData.decode text = .error (.invalidFormat message)) ∧
      (∀ task e, b.task? task = some (.evaluation e) →
        ∀ {τ : Type} (svc : Service τ) v reply,
          ∃ result, (b.step svc (.finish task reply) v).1.effect = .evaluated result ∧
            Trial.Tells reply result) ∧
      ∀ m, b.Evaluating m → ∀ {τ : Type} (svc : Service τ) v,
        b.store.Alike (b.step svc m v).1.bench.store ∧
          ∀ y op, (b.step svc m v).1.effect.failure? ≠ some (.busy y op) := by
  intro b
  have htrial : b.trial = _ := trial_after (empty guarded) svc moves w
  refine ⟨?_, fun {τ} svc v => ?_, fun id? text => ?_, fun text => UserData.decode_of_blank,
    fun task e he {τ} svc v reply => ?_, fun m hm {τ} svc v => ⟨hm.alike svc v, hm.ne_busy svc v⟩⟩
  · rw [htrial]
    exact Option.or_none
  · have hchosen : b.trial.selected? = chosen? moves := by
      rw [htrial]
      rfl
    have htyped : b.trial.data = typed moves := by
      rw [htrial]
      rfl
    rw [← hchosen, ← htyped]
    exact ⟨rfl, fun task => rfl⟩
  · exact ⟨Trial.hinders_or_sent b.store id? text, b.evaluates id? text,
      fun task => b.evaluatesLater task id? text⟩
  · simp only [step, he]
    exact ⟨_, rfl, Trial.tells_conclude _ _ _⟩

end Workbench

end Rulebook
