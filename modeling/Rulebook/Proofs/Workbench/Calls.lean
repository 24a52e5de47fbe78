import Rulebook.Proofs.Store.Frame
import Rulebook.Proofs.Text.Blank
import Rulebook.Proofs.Workbench

/-!
# What the service is asked

Calls are made from many places: by every operation of a store, in one go or not, by the
editor when a draft is saved, and by the trial. This file says what is known of a call
wherever it comes from (`Rulebook.Workbench.Asks`): a text that is sent is not blank and
is the one that was submitted, blanks at its ends included; a rule that is named is in
the collection when the call is made; and the data of an evaluation are the value that
the submitted text says.

The reason is that all checks are made in the move that makes the call, with nothing in
between that could take a rule out of the collection. So it is a fact about one move in
any state (`Rulebook.Workbench.acts`): it is silent, or it makes one proper call and then
goes on with the reply. Everything that happened before, and every reply that came or did
not come, is in the state.

To speak of the calls of a whole history, the service is given a record of them
(`Rulebook.Service.recorded`), which it keeps and never looks at.
-/

namespace Rulebook

open Rule

/-! ### Proper calls -/

/-- **The call that a store may make** for a request, given its collection. -/
inductive Store.Asks (s : Store) : Request → Call → Prop
  | load : Asks s .load .listRules
  | create {text : String} (ht : Text.trim text ≠ "") : Asks s (.create text) (.createRule text)
  | delete {x : RuleId} (hx : x ∈ ids s.rules) : Asks s (.delete x) (.deleteRule x)
  | toggle {x : RuleId} (hx : x ∈ ids s.rules) : Asks s (.toggle x) (.toggleStatus x)
  | update {x : RuleId} {text : String} (ht : Text.trim text ≠ "") (hx : x ∈ ids s.rules) :
      Asks s (.update x text) (.updateRule x text)
  | combine {xs : List RuleId} (hne : xs ≠ []) (hxs : ∀ x ∈ xs, x ∈ ids s.rules) :
      Asks s (.combine xs) (.combineRules xs)

/-- **The call that a trial may make** for a rule and a text of user data. -/
inductive Trial.Asks (s : Store) : Option RuleId → String → Call → Prop
  | evaluate {x : RuleId} {text : String} {v : Json.Value} (hx : x ∈ ids s.rules)
      (hv : UserData.decode text = .ok v) : Asks s (some x) text (.evaluateRule ⟨x, v⟩)

/-- **The call that a move may make**, given the state of the workbench when it is made. No
other move makes a call. -/
inductive Workbench.Asks (b : Workbench) : Move → Call → Prop
  | perform {r : Request} {call : Call} (h : b.store.Asks r call) : Asks b (.perform r) call
  | start {task : String} {r : Request} {call : Call} (h : b.store.Asks r call) :
      Asks b (.start task r) call
  /-- What is saved is the draft. -/
  | save {d : Draft} {call : Call} (hd : b.editor.draft? = some d)
      (h : b.store.Asks (.update d.rule d.text) call) : Asks b .save call
  | startSave {task : String} {d : Draft} {call : Call} (hd : b.editor.draft? = some d)
      (h : b.store.Asks (.update d.rule d.text) call) : Asks b (.startSave task) call
  /-- What is submitted is the choice that was made. -/
  | submit {call : Call} (h : Trial.Asks b.store b.trial.selected? b.trial.data call) :
      Asks b .submit call
  | startSubmit {task : String} {call : Call}
      (h : Trial.Asks b.store b.trial.selected? b.trial.data call) : Asks b (.startSubmit task) call
  | evaluate {id? : Option RuleId} {text : String} {call : Call}
      (h : Trial.Asks b.store id? text call) : Asks b (.evaluate id? text) call
  | startEvaluate {task : String} {id? : Option RuleId} {text : String} {call : Call}
      (h : Trial.Asks b.store id? text call) : Asks b (.startEvaluate task id? text) call

/-- Why what was asked for was not done, if it was not. -/
def Effect.failure? : Effect → Option Failure
  | performed (.error failure) => some failure
  | written (.error failure) => some failure
  | saved (.error failure) => some failure
  | evaluated (.error failure) => some failure
  | _ => none

namespace Effect

variable {failure : Failure}

theorem failure?_performed {result : Except Failure Confirmed} :
    (performed result).failure? = some failure ↔ result = .error failure := by
  cases result with
  | error failure' => simp [failure?]
  | ok c => simp [failure?]

theorem failure?_saved {result : Except Failure RuleId} :
    (saved result).failure? = some failure ↔ result = .error failure := by
  cases result with
  | error failure' => simp [failure?]
  | ok x => simp [failure?]

theorem failure?_evaluated {result : Except Failure Outcome} :
    (evaluated result).failure? = some failure ↔ result = .error failure := by
  cases result with
  | error failure' => simp [failure?]
  | ok outcome => simp [failure?]

end Effect

/-! ### The checks -/

theorem checkRuleText_eq_ok_iff {text : String} :
    checkRuleText text = .ok () ↔ Text.trim text ≠ "" := by
  rw [ne_eq, ← Text.blank_iff, checkRuleText]
  by_cases h : Text.blank text = true
  · rw [if_pos h]
    exact iff_of_false (by rintro ⟨⟩) (not_not_intro h)
  · rw [if_neg h]
    exact iff_of_true rfl h

/-- A list of checks is passed if every check is. -/
theorem forM_eq_ok_iff {check : RuleId → Except Failure Unit} (xs : List RuleId) :
    xs.forM check = .ok () ↔ ∀ x ∈ xs, check x = .ok () := by
  induction xs with
  | nil => exact iff_of_true rfl nofun
  | cons x xs ih =>
    change (check x >>= fun _ => xs.forM check) = .ok () ↔ _
    rw [List.forall_mem_cons, ← ih]
    cases hx : check x with
    | error failure => exact iff_of_false (by rintro ⟨⟩) (by rintro ⟨⟨⟩, -⟩)
    | ok u => exact (and_iff_right rfl).symm

namespace Store

variable {s : Store} {r : Request}

theorem require_eq_ok_iff_mem {x : RuleId} : s.require x = .ok () ↔ x ∈ ids s.rules :=
  require_eq_ok_iff.trans listed_iff

/-- **The checks of a store let exactly the proper calls through.** -/
theorem check_eq_ok_iff : s.check r = .ok () ↔ s.Asks r r.call := by
  cases r with
  | load => exact iff_of_true rfl .load
  | create text =>
    refine checkRuleText_eq_ok_iff.trans ⟨.create, fun h => ?_⟩
    cases h with
    | create ht => exact ht
  | delete x =>
    refine require_eq_ok_iff_mem.trans ⟨.delete, fun h => ?_⟩
    cases h with
    | delete hx => exact hx
  | toggle x =>
    refine require_eq_ok_iff_mem.trans ⟨.toggle, fun h => ?_⟩
    cases h with
    | toggle hx => exact hx
  | update x text =>
    have hcheck : s.check (.update x text) = .ok () ↔ Text.trim text ≠ "" ∧ x ∈ ids s.rules := by
      rw [← checkRuleText_eq_ok_iff, ← require_eq_ok_iff_mem]
      cases ht : checkRuleText text with
      | error failure =>
        rw [check, ht]
        exact iff_of_false (by rintro ⟨⟩) (by rintro ⟨⟨⟩, -⟩)
      | ok u =>
        rw [check, ht]
        exact (and_iff_right rfl).symm
    refine hcheck.trans ⟨fun h => .update h.1 h.2, fun h => ?_⟩
    cases h with
    | update ht hx => exact ⟨ht, hx⟩
  | combine xs =>
    have hcheck : s.check (.combine xs) = .ok () ↔ xs ≠ [] ∧ ∀ x ∈ xs, x ∈ ids s.rules := by
      rw [check]
      cases xs with
      | nil => exact iff_of_false (by rintro ⟨⟩) fun h => h.1 rfl
      | cons x xs =>
        rw [List.isEmpty_cons, if_neg Bool.false_ne_true, forM_eq_ok_iff]
        simp only [require_eq_ok_iff_mem]
        exact (and_iff_right (List.cons_ne_nil x xs)).symm
    refine hcheck.trans ⟨fun h => .combine h.1 h.2, fun h => ?_⟩
    cases h with
    | combine hne hxs => exact ⟨hne, hxs⟩

end Store

/-- **The checks of a trial let only proper calls through.** -/
theorem Trial.asks_of_prepare {s : Store} {id? : Option RuleId} {text : String} {e : Evaluation}
    (h : prepare s id? text = .ok e) : Asks s id? text (.evaluateRule e) := by
  cases id? with
  | none => cases h
  | some x =>
    rw [prepare] at h
    split at h
    · cases h
    · split at h
      · rename_i hx
        cases hv : UserData.decode text with
        | error failure =>
          rw [hv] at h
          cases h
        | ok v =>
          rw [hv] at h
          obtain rfl : _ = e := Except.ok.inj h
          exact .evaluate (listed_iff.mp hx) hv
      · cases h

/-- There is something to save only if there is a draft. -/
theorem Editor.draft?_of_submission {e e' : Editor} {d : Draft} (h : e.submission = (e', .ok d)) :
    e.draft? = some d ∧ e' = e := by
  rw [submission] at h
  split at h
  · cases h
  · split at h
    · cases h
    · cases h
      exact ⟨‹_›, rfl⟩

/-! ### Failures after a call -/

section

variable {reply : Reply} {failure : Failure}

theorem Store.isCall_of_finish {s : Store} {r : Request}
    (h : (s.finish r reply).result = .error failure) : failure.isCall = true := by
  cases hr : reply.bind r.confirm with
  | error lapse =>
    rw [finish_of_error hr] at h
    rw [← Except.error.inj h]
    rfl
  | ok c =>
    rw [finish_of_ok hr] at h
    cases h

/-- An editor fails to save a draft only if the store fails. -/
theorem Editor.result_of_conclude {e : Editor} {d : Draft} {step : Step Confirmed}
    (h : (e.conclude d step).step.result = .error failure) : step.result = .error failure := by
  rw [conclude] at h
  split at h
  · rename_i hr
    obtain rfl : _ = failure := Except.error.inj h
    exact hr
  · cases h

theorem Trial.isCall_of_conclude {t : Trial} {e : Evaluation}
    (h : (t.conclude e reply).result = .error failure) : failure.isCall = true := by
  rw [conclude] at h
  split at h
  · cases h
  · rw [← Except.error.inj h]
    rfl

end

/-! ### Moves -/

namespace Workbench

variable {σ : Type} {b : Workbench} {m : Move}

/-- **What a move does about the service**, the same for every service: it makes no call;
or it makes one that is proper, and what comes of the move is a matter of the reply. In
that case it does not fail but for the call. -/
inductive Acts (b : Workbench) (m : Move) : Prop
  | silent (moved : Moved) (hstep : ∀ {σ : Type} (svc : Service σ) w, b.step svc m w = (moved, w))
  | asks (call : Call) (next : Reply → Moved) (hcall : b.Asks m call)
      (hstep : ∀ {σ : Type} (svc : Service σ) w,
        b.step svc m w = (next (svc.ask call w).1, (svc.ask call w).2))
      (hfail : ∀ reply failure, (next reply).effect.failure? = some failure →
        failure.isCall = true)

/-- What comes of launching an errand has nothing to do with the reply. -/
theorem Acts.launch (b' : Workbench) (task : String) {e : Errand} (hcall : b.Asks m e.call)
    (hstep : ∀ {σ : Type} (svc : Service σ) w, b.step svc m w = b'.launch svc task e w) :
    b.Acts m := by
  refine .asks e.call
    (fun _ => ⟨{ b'.abandon task with waiting := (b'.abandon task).waiting ++ [(task, e)] },
      .waiting, []⟩) hcall (fun svc w => ?_) fun reply failure h => ?_
  · rw [hstep]
    rfl
  · cases h

theorem Acts.evaluate {id? : Option RuleId} {text : String}
    (hcall : ∀ call, Trial.Asks b.store id? text call → b.Asks m call)
    (hstep : ∀ {σ : Type} (svc : Service σ) w,
      b.step svc m w = b.step svc (.evaluate id? text) w) : b.Acts m := by
  cases hp : Trial.prepare b.store id? text with
  | error failure =>
    refine .silent ⟨b, .evaluated (.error failure), [.finished .evaluation]⟩ fun svc w => ?_
    rw [hstep, step, Trial.evaluate, hp]
  | ok e =>
    refine .asks (.evaluateRule e)
      (fun reply =>
        let ended := b.trial.conclude e reply
        ⟨{ b with trial := ended.trial }, .evaluated ended.result,
          ended.log ++ [.finished .evaluation]⟩)
      (hcall _ (Trial.asks_of_prepare hp)) (fun svc w => ?_) fun reply failure h => ?_
    · rw [hstep, step, Trial.evaluate, hp]
    · exact Trial.isCall_of_conclude (Effect.failure?_evaluated.mp h)

theorem Acts.startEvaluate {task : String} {id? : Option RuleId} {text : String}
    (hcall : ∀ call, Trial.Asks b.store id? text call → b.Asks m call)
    (hstep : ∀ {σ : Type} (svc : Service σ) w,
      b.step svc m w = b.startEvaluate svc task id? text w) : b.Acts m := by
  cases hp : Trial.prepare b.store id? text with
  | error failure =>
    refine .silent ⟨b, .evaluated (.error failure), []⟩ fun svc w => ?_
    rw [hstep, Workbench.startEvaluate, hp]
  | ok e =>
    have hcall' : b.Asks m (Errand.evaluation e).call := hcall _ (Trial.asks_of_prepare hp)
    refine .launch b task hcall' fun svc w => ?_
    rw [hstep, Workbench.startEvaluate, hp]

/-- **A move is silent or makes one proper call**, in every state of a workbench. -/
theorem acts (b : Workbench) (m : Move) : b.Acts m := by
  cases m with
  -- an operation of the store gets as far as its call only if it has passed the checks
  | perform r =>
    rcases b.store.start_cases r with ⟨failure, hs⟩ | ⟨s, hc, he, hs⟩
    · refine .silent ⟨b, .performed (.error failure),
        Store.refusalLog failure ++ [.finished .store]⟩ fun svc w => ?_
      simp only [step, Store.perform, hs]
    · refine .asks r.call
        (fun reply =>
          let ended := s.finish r reply
          ⟨{ b with store := ended.store }, .performed ended.result,
            [] ++ ended.log ++ [.finished .store]⟩)
        (.perform (Store.check_eq_ok_iff.mp hc)) (fun svc w => ?_) fun reply failure h => ?_
      · simp only [step, Store.perform, hs]
      · exact Store.isCall_of_finish (Effect.failure?_performed.mp h)
  | save =>
    -- what the editor lets through is checked by the store once more
    rcases hsub : b.editor.submission with ⟨e, failure | d⟩
    · refine .silent ⟨{ b with editor := e }, .saved (.error failure), []⟩ fun svc w => ?_
      simp only [step, Editor.save, hsub]
    · obtain ⟨hd, rfl⟩ := Editor.draft?_of_submission hsub
      rcases b.store.start_cases (.update d.rule d.text) with ⟨failure, hs⟩ | ⟨s, hc, he, hs⟩
      · refine .silent ⟨b, .saved (.error failure),
          Store.refusalLog failure ++ [.finished .store]⟩ fun svc w => ?_
        simp only [step, Editor.save, hsub, Store.perform, hs, Editor.conclude]
      · refine .asks (.updateRule d.rule d.text)
          (fun reply =>
            let ended := s.finish (.update d.rule d.text) reply
            let saved := b.editor.conclude d
              ⟨ended.store, ended.result, [] ++ ended.log ++ [.finished .store]⟩
            ⟨{ b with store := saved.step.store, editor := saved.editor },
              .saved saved.step.result, saved.step.log⟩)
          (.save hd (Store.check_eq_ok_iff.mp hc)) (fun svc w => ?_) fun reply failure h => ?_
        · simp only [step, Editor.save, hsub, Store.perform, hs, Request.call]
        · have hresult := Editor.result_of_conclude (Effect.failure?_saved.mp h)
          exact Store.isCall_of_finish hresult
  | start task r =>
    rcases b.store.start_cases r with ⟨failure, hs⟩ | ⟨s, hc, he, hs⟩
    · refine .silent ⟨b, .performed (.error failure), Store.refusalLog failure⟩ fun svc w => ?_
      simp only [step, Workbench.start, hs]
    · have hcall : b.Asks (.start task r) (Errand.request r).call :=
        .start (Store.check_eq_ok_iff.mp hc)
      refine .launch { b with store := s } task hcall fun svc w => ?_
      simp only [step, Workbench.start, hs]
  | startSave task =>
    rcases hsub : b.editor.submission with ⟨e, failure | d⟩
    · refine .silent ⟨{ b with editor := e }, .saved (.error failure), []⟩ fun svc w => ?_
      simp only [step, Workbench.startSave, hsub]
    · obtain ⟨hd, rfl⟩ := Editor.draft?_of_submission hsub
      rcases b.store.start_cases (.update d.rule d.text) with ⟨failure, hs⟩ | ⟨s, hc, he, hs⟩
      · refine .silent ⟨b, .saved (.error failure), Store.refusalLog failure⟩ fun svc w => ?_
        simp only [step, Workbench.startSave, hsub, hs]
      · have hcall : b.Asks (.startSave task) (Errand.saving d).call :=
          .startSave hd (Store.check_eq_ok_iff.mp hc)
        refine .launch { b with store := s } task hcall fun svc w => ?_
        simp only [step, Workbench.startSave, hsub, hs]
  | submit => exact .evaluate (fun _ => .submit) fun svc w => rfl
  | evaluate id? text => exact .evaluate (fun _ => .evaluate) fun svc w => rfl
  | startSubmit task => exact .startEvaluate (fun _ => .startSubmit) fun svc w => rfl
  | startEvaluate task id? text => exact .startEvaluate (fun _ => .startEvaluate) fun svc w => rfl
  -- the other moves do without the service
  | finish task reply =>
    cases h : b.task? task with
    | none =>
      refine .silent ⟨b, .notWaiting, []⟩ fun svc w => ?_
      simp only [step, h]
    | some e =>
      refine .silent (b.finish task e reply) fun svc w => ?_
      simp only [step, h]
  | edit id text => exact .silent _ fun svc w => rfl
  | write text => exact .silent _ fun svc w => rfl
  | cancel => exact .silent _ fun svc w => rfl
  | select id => exact .silent _ fun svc w => rfl
  | unselect => exact .silent _ fun svc w => rfl
  | setData text => exact .silent _ fun svc w => rfl
  | abandon task => exact .silent _ fun svc w => rfl

end Workbench

/-! ### Calls on record -/

/-- A service that keeps a record of the calls that were made. -/
def Service.recorded {σ : Type} (svc : Service σ) : Service (σ × List Call) where
  ask call w := ((svc.ask call w.1).1, (svc.ask call w.1).2, w.2 ++ [call])

namespace Workbench

variable {σ : Type} {b : Workbench} {svc : Service σ}

/-- What a move adds to the record, and what is known of it. -/
theorem exists_made (b : Workbench) (svc : Service σ) (m : Move) (w : σ × List Call) :
    ∃ made, (b.step svc.recorded m w).2.2 = w.2 ++ made ∧ made.length ≤ 1 ∧
      (∀ call ∈ made, b.Asks m call) ∧
      ∀ failure, (b.step svc.recorded m w).1.effect.failure? = some failure →
        failure.isCall = false → made = [] := by
  cases b.acts m with
  | silent moved hstep =>
    rw [hstep]
    exact ⟨[], (List.append_nil _).symm, Nat.zero_le 1, nofun, fun _ _ _ => rfl⟩
  | asks call next hcall hstep hfail =>
    rw [hstep]
    refine ⟨[call], rfl, Nat.le_refl 1, ?_, fun failure hf hno => ?_⟩
    · intro call' hmem
      rw [List.mem_singleton] at hmem
      exact hmem ▸ hcall
    · rw [hfail _ failure hf] at hno
      cases hno

/-- The record makes no difference to anything else. -/
theorem step_recorded (b : Workbench) (svc : Service σ) (m : Move) (w : σ × List Call) :
    (b.step svc.recorded m w).1 = (b.step svc m w.1).1 ∧
      (b.step svc.recorded m w).2.1 = (b.step svc m w.1).2 := by
  cases b.acts m with
  | silent moved hstep =>
    rw [hstep, hstep]
    exact ⟨rfl, rfl⟩
  | asks call next hcall hstep hfail =>
    rw [hstep, hstep]
    exact ⟨rfl, rfl⟩

theorem after_recorded (b : Workbench) (svc : Service σ) (moves : List Move)
    (w : σ × List Call) :
    (b.after svc.recorded moves w).1 = (b.after svc moves w.1).1 := by
  induction moves generalizing b w with
  | nil => rfl
  | cons m moves ih =>
    obtain ⟨hbench, hstate⟩ := b.step_recorded svc m w
    rw [after, after, ih, hbench, hstate]

/-- **Every call on record was made by a move, and was proper then.** -/
theorem exists_move_of_call (b : Workbench) (svc : Service σ) (moves : List Move)
    (w : σ × List Call) {call : Call} (h : call ∈ (b.after svc.recorded moves w).2.2) :
    call ∈ w.2 ∨ ∃ before m rest, moves = before ++ m :: rest ∧
      (b.after svc before w.1).1.Asks m call := by
  induction moves generalizing b w with
  | nil => exact Or.inl h
  | cons m moves ih =>
    obtain ⟨made, hmade, -, hproper, -⟩ := b.exists_made svc m w
    obtain ⟨hbench, hstate⟩ := b.step_recorded svc m w
    rcases ih _ _ h with hw | ⟨before, m', rest, rfl, hasks⟩
    · -- the call was there before the rest of the history: it is older, or of this move
      rw [hmade, List.mem_append] at hw
      rcases hw with hw | hw
      · exact Or.inl hw
      · exact Or.inr ⟨[], m, moves, rfl, hproper call hw⟩
    · rw [hbench, hstate] at hasks
      exact Or.inr ⟨m :: before, m', rest, rfl, hasks⟩

/-- What is finished fails, if it does, because of its call. -/
theorem isCall_of_finish {task : String} {reply : Reply} {w : σ} {failure : Failure}
    (h : (b.step svc (.finish task reply) w).1.effect.failure? = some failure) :
    failure.isCall = true := by
  cases ht : b.task? task with
  | none =>
    simp only [step, ht] at h
    cases h
  | some e =>
    simp only [step, ht] at h
    cases e with
    | request r => exact Store.isCall_of_finish (Effect.failure?_performed.mp h)
    | saving d =>
      exact Store.isCall_of_finish (Editor.result_of_conclude (Effect.failure?_saved.mp h))
    | evaluation e => exact Trial.isCall_of_conclude (Effect.failure?_evaluated.mp h)

/-- **Nothing malformed is sent.** Whatever is done at a new workbench, guarded or not, in
one go or with other things in between, and whatever the service replies:

* each call that was made is on record, and was proper in the state in which it was made;
* whatever is done next makes at most one call, which is proper now, and makes none if it
  fails for another reason than a call that went wrong;
* what waits for its reply does not fail for another reason any more. -/
theorem calls_proper_after (guarded : Bool) (svc : Service σ) (moves : List Move) (w : σ) :
    let (b, v) := (empty guarded).after svc.recorded moves (w, [])
    b = ((empty guarded).after svc moves w).1 ∧
    (∀ call ∈ v.2, ∃ before m rest, moves = before ++ m :: rest ∧
      ((empty guarded).after svc before w).1.Asks m call) ∧
    ∀ m,
      (∃ made, (b.step svc.recorded m v).2.2 = v.2 ++ made ∧ made.length ≤ 1 ∧
        (∀ call ∈ made, b.Asks m call) ∧
        ∀ failure, (b.step svc.recorded m v).1.effect.failure? = some failure →
          failure.isCall = false → made = []) ∧
      ∀ task reply, m = .finish task reply →
        ∀ failure, (b.step svc.recorded m v).1.effect.failure? = some failure →
          failure.isCall = true := by
  refine ⟨after_recorded _ svc moves _, fun call hcall => ?_, fun m => ⟨exists_made _ svc m _, ?_⟩⟩
  · rcases exists_move_of_call _ svc moves _ hcall with hw | hmove
    · cases hw
    · exact hmove
  · rintro task reply rfl failure h
    exact isCall_of_finish h

end Workbench

end Rulebook
