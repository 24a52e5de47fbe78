import Rulebook.Proofs.Console.Execution

/-!
# Calls and their replies

What passes between a program and the service is a list of inquiries, each of them a call with
the reply to it (`Rulebook.Inquiry`). An inquiry is fulfilled if the reply is an answer of the
kind that the call asks for. A service that takes notes of the inquiries
(`Rulebook.Service.noted`) gives the same replies as one that does not, and nobody can look into
the notes; so whatever is carried out with it comes to the same, and the notes say what was
inquired on the way.

An operation of a store at rest and an evaluation make at most one inquiry, and succeed exactly
if there was one and it was fulfilled (`Rulebook.Store.AtRest.inquiries_of_perform`,
`Rulebook.Trial.inquiries_of_evaluate`).
-/

namespace Rulebook

/-! ### Inquiries -/

/-- A call, and the reply to it. -/
structure Inquiry where
  call : Call
  reply : Reply

/-- **The answers that a call asks for.** -/
inductive Call.Accepts : Call → Answer → Prop
  | listed (rules : List Rule) : Accepts .listRules (.rules rules)
  | created (text : String) (r : Rule) : Accepts (.createRule text) (.rule r)
  | deleted (x : RuleId) : Accepts (.deleteRule x) .done
  | toggled (x : RuleId) (enabled : Bool) : Accepts (.toggleStatus x) (.status enabled)
  | updated (x : RuleId) (text : String) : Accepts (.updateRule x text) .done
  | evaluated (e : Evaluation) (o : Outcome) : Accepts (.evaluateRule e) (.outcome o)
  | combined (xs : List RuleId) (tree : Json.Value) : Accepts (.combineRules xs) (.value tree)

/-- **An inquiry with the answer that was asked for.** -/
def Inquiry.Fulfilled (q : Inquiry) : Prop := ∃ a, q.reply = .ok a ∧ q.call.Accepts a

theorem Inquiry.fulfilled_of_listRules {reply : Reply} :
    Inquiry.Fulfilled ⟨.listRules, reply⟩ ↔ ∃ listed, reply = .ok (.rules listed) := by
  constructor
  · rintro ⟨_, rfl, ⟨listed⟩⟩
    exact ⟨listed, rfl⟩
  · rintro ⟨listed, rfl⟩
    exact ⟨_, rfl, .listed listed⟩

/-- A request is confirmed if the inquiry is fulfilled. -/
theorem Request.exists_confirm_iff (r : Request) (reply : Reply) :
    (∃ c, reply.bind r.confirm = .ok c) ↔ Inquiry.Fulfilled ⟨r.call, reply⟩ := by
  constructor
  · rintro ⟨c, hc⟩
    rcases reply with lapse | a
    · cases hc
    · change r.confirm a = .ok c at hc
      refine ⟨a, rfl, ?_⟩
      cases r <;> cases a <;> first | constructor | cases hc
  · rintro ⟨a, ha, haccepts⟩
    dsimp only at ha haccepts
    subst ha
    cases r <;> cases haccepts <;> exact ⟨_, rfl⟩

theorem Trial.exists_outcomeOf_iff (e : Evaluation) (reply : Reply) :
    (∃ o, outcomeOf reply = .ok o) ↔ Inquiry.Fulfilled ⟨.evaluateRule e, reply⟩ := by
  constructor
  · rintro ⟨o, ho⟩
    rw [outcomeOf.eq_def] at ho
    split at ho
    · exact ⟨_, rfl, .evaluated e _⟩
    · cases ho
    · cases ho
  · rintro ⟨_, rfl, ⟨⟩⟩
    exact ⟨_, rfl⟩

/-! ### Notes -/

/-- A service that takes notes of the inquiries. -/
def Service.noted {σ : Type} (svc : Service σ) : Service (σ × List Inquiry) where
  ask call w := ((svc.ask call w.1).1, (svc.ask call w.1).2, w.2 ++ [⟨call, (svc.ask call w.1).1⟩])

variable {σ : Type} {s : Store} {r : Request}

/-- The notes make no difference to an operation. -/
theorem Store.perform_noted (svc : Service σ) (s : Store) (r : Request) (w : σ × List Inquiry) :
    s.perform svc r w.1 = ((s.perform svc.noted r w).1, (s.perform svc.noted r w).2.1) := by
  rw [perform, perform]
  split <;> rfl

theorem Trial.evaluate_noted (svc : Service σ) (t : Trial) (s : Store) (x? : Option RuleId)
    (data : String) (w : σ × List Inquiry) :
    t.evaluate svc s x? data w.1 =
      ((t.evaluate svc.noted s x? data w).1, (t.evaluate svc.noted s x? data w).2.1) := by
  rw [evaluate, evaluate]
  split <;> rfl

/-! ### Single inquiries -/

/-- **What it takes to succeed**: at most one inquiry is made, exactly if there is a call that
`Asks` allows, and with this call; and `ok` holds exactly if all is `fine` without one, or one was
made and it was fulfilled. -/
def Inquires (Asks : Call → Prop) (fine : Prop) (before after : List Inquiry) (ok : Prop) : Prop :=
  ∃ own, after = before ++ own ∧ own.length ≤ 1 ∧
    (∀ call, (∃ reply, ⟨call, reply⟩ ∈ own) ↔ Asks call) ∧ (ok ↔ fine ∨ ∃ q ∈ own, q.Fulfilled)

section

variable {Asks Asks' : Call → Prop} {fine fine' ok : Prop} {before after : List Inquiry}

theorem Inquires.congr (h : Inquires Asks fine before after ok)
    (hAsks : ∀ call, Asks call ↔ Asks' call) (hfine : fine ↔ fine') :
    Inquires Asks' fine' before after ok := by
  obtain ⟨own, hafter, hlength, hcalls, hok⟩ := h
  exact ⟨own, hafter, hlength, fun call => (hcalls call).trans (hAsks call), by rw [hok, hfine]⟩

theorem inquires_nothing (hno : ∀ call, ¬Asks call) (hok : ok ↔ fine) :
    Inquires Asks fine before before ok := by
  refine ⟨[], (List.append_nil _).symm, Nat.zero_le 1, fun call => ?_, ?_⟩
  · exact iff_of_false (fun ⟨_, h⟩ => List.not_mem_nil h) (hno call)
  · simpa using hok

theorem inquires_once {q : Inquiry} (hq : ∀ call, Asks call ↔ call = q.call) (hfine : ¬fine)
    (hok : ok ↔ q.Fulfilled) : Inquires Asks fine before (before ++ [q]) ok := by
  refine ⟨[q], rfl, Nat.le_refl 1, fun call => ?_, ?_⟩
  · rw [hq]
    constructor
    · rintro ⟨reply, h⟩
      exact congrArg Inquiry.call (List.mem_singleton.mp h)
    · rintro rfl
      exact ⟨q.reply, List.mem_singleton_self q⟩
  · simpa [hfine] using hok

end

theorem Store.exists_result_finish_iff (s : Store) (r : Request) (reply : Reply) :
    (∃ c, (s.finish r reply).result = .ok c) ↔ Inquiry.Fulfilled ⟨r.call, reply⟩ := by
  rw [← Request.exists_confirm_iff]
  cases hr : reply.bind r.confirm with
  | error lapse =>
    rw [finish_of_error hr]
    exact iff_of_false (by simp) (by simp)
  | ok c =>
    rw [finish_of_ok hr]
    exact iff_of_true ⟨c, rfl⟩ ⟨c, rfl⟩

theorem Store.Asks.call_eq {call : Call} (h : s.Asks r call) : call = r.call := by
  cases h <;> rfl

/-- **An operation of a store at rest** inquires what it may ask for, and succeeds exactly if it
is fulfilled. -/
theorem Store.AtRest.inquires_perform (hs : s.AtRest) (svc : Service σ) (r : Request)
    (w : σ × List Inquiry) :
    Inquires (s.Asks r) False w.2 (s.perform svc.noted r w).2.2
      (∃ c, (s.perform svc.noted r w).1.result = .ok c) := by
  cases hc : s.check r with
  | error failure =>
    rw [perform, start_of_check_error hc]
    refine inquires_nothing (fun call hcall => ?_) (iff_of_false (by simp) id)
    rw [hcall.call_eq, ← check_eq_ok_iff, hc] at hcall
    cases hcall
  | ok u =>
    obtain ⟨s', he⟩ := hs.exists_enrol r
    rw [perform, start_of_enrol hc he]
    refine inquires_once (q := ⟨r.call, (svc.ask r.call w.1).1⟩) (fun call => ?_) id ?_
    · refine ⟨Asks.call_eq, ?_⟩
      rintro rfl
      exact check_eq_ok_iff.mp hc
    · exact s'.exists_result_finish_iff r _

/-- A proper call is one that the checks of a trial let through. -/
theorem Trial.Asks.exists_prepare {x? : Option RuleId} {data : String} {call : Call}
    (h : Trial.Asks s x? data call) : ∃ e, prepare s x? data = .ok e ∧ call = .evaluateRule e := by
  cases h with
  | @evaluate x _ v hx hv =>
    have hdata : data ≠ "" := by
      rintro rfl
      have hempty : ∃ f, UserData.decode "" = .error f := ⟨_, rfl⟩
      obtain ⟨f, hf⟩ := hempty
      rw [hf] at hv
      cases hv
    have hlisted : s.contains x = true := Rule.listed_iff.mpr hx
    refine ⟨⟨x, v⟩, ?_, rfl⟩
    rw [prepare, if_neg hdata, if_pos hlisted, hv]
    rfl

/-- **An evaluation** inquires what it may ask for, and succeeds exactly if it is fulfilled. -/
theorem Trial.inquires_evaluate (svc : Service σ) (t : Trial) (s : Store) (x? : Option RuleId)
    (data : String) (w : σ × List Inquiry) :
    Inquires (Trial.Asks s x? data) False w.2 (t.evaluate svc.noted s x? data w).2.2
      (∃ o, (t.evaluate svc.noted s x? data w).1.result = .ok o) := by
  cases hp : prepare s x? data with
  | error failure =>
    rw [evaluate, hp]
    refine inquires_nothing (fun call hcall => ?_) (iff_of_false (by simp) id)
    obtain ⟨e, he, -⟩ := hcall.exists_prepare
    rw [hp] at he
    cases he
  | ok e =>
    rw [evaluate, hp]
    refine inquires_once (q := ⟨.evaluateRule e, (svc.ask (.evaluateRule e) w.1).1⟩)
      (fun call => ⟨fun hcall => ?_, ?_⟩) id ?_
    · obtain ⟨e', he', rfl⟩ := hcall.exists_prepare
      rw [hp] at he'
      rw [Except.ok.inj he']
    · rintro rfl
      exact Trial.asks_of_prepare hp
    · rw [← exists_outcomeOf_iff]
      change (∃ o, (t.conclude e (svc.ask (.evaluateRule e) w.1).1).result = .ok o) ↔ _
      rw [conclude]
      split
      · rename_i o ho
        rw [ho]
        exact iff_of_true ⟨o, rfl⟩ ⟨o, rfl⟩
      · rename_i lapse hlapse
        rw [hlapse]
        simp

end Rulebook
