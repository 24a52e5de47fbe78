import Rulebook.Proofs.Console.Deletion
import Rulebook.Proofs.Editor.Refusal
import Rulebook.Proofs.Trial

/-!
# A deleted rule is let go of

A session holds on to a rule in two ways: the rule is edited, and it is selected
(`Rulebook.Console.Hold`). Nobody else knows what a session holds, so it has to let go of a rule
itself when the rule is deleted. Otherwise a draft might outlive its rule, and be saved for another
one that comes in later with the same identifier.

Both holds behave alike. A rule is taken hold of by one command only
(`Rulebook.Console.Session.held?_execute`), and after a deletion that succeeded the rule is not held
(`Rulebook.Console.Session.held?_delete_ne`). So a rule that is held at a prompt has been held
since the user took hold of it, and was not deleted in between
(`Rulebook.Console.Prompt.HeldSince`); the induction is along the prompts, from the last one back.
That a session lets go of nothing else is said of one turn: what a deletion makes of the editor
and of the trial is an equation.

## Main result

* `Rulebook.Console.deleted_released`: no rule that is held was deleted since, and a deletion lets
  go of the deleted rule and changes nothing else.
-/

namespace Rulebook

variable {σ : Type}

/-! ### The editor and the trial -/

theorem Editor.rule?_write (e : Editor) (text : String) : (e.write text).1.rule? = e.rule? := by
  rw [write]
  split
  · rfl
  · rename_i hdraft
    rw [rule?, rule?, hdraft]
    rfl

/-- Saving takes hold of nothing: the draft is kept or gone. -/
theorem Editor.rule?_save (e : Editor) (svc : Service σ) (s : Store) (w : σ) :
    (e.save svc s w).1.editor.rule? = e.rule? ∨ (e.save svc s w).1.editor = idle := by
  rcases stroke_cases_of_submits (s := .save svc s w) trivial e with
    ⟨-, he⟩ | ⟨-, he⟩ | ⟨-, he | he⟩
  · exact Or.inl (congrArg rule? he)
  · exact Or.inl ((congrArg rule? he).trans rfl)
  · exact Or.inl (congrArg rule? he)
  · exact Or.inr he

theorem Trial.selected?_submit (t : Trial) (svc : Service σ) (s : Store) (w : σ) :
    (t.submit svc s w).1.trial.selected? = t.selected? := by
  rw [submit, evaluate]
  split
  · rfl
  · dsimp only
    rw [conclude_trial]

namespace Console

variable {svc : Service σ} {s : Session} {c : Command} {answer : String} {w : σ} {x : RuleId}

/-! ### What a session holds -/

/-- **The ways to hold on to a rule.** -/
inductive Hold where
  | edited
  | selected

/-- The command that takes hold of a rule. -/
def Hold.taking : Hold → RuleId → Command
  | edited => .edit
  | selected => .select

namespace Session

/-- The rule that a session holds on to, in one of the ways. -/
def held? (s : Session) : Hold → Option RuleId
  | .edited => s.editor.rule?
  | .selected => s.trial.selected?

theorem held?_congr {s s' : Session} (heditor : s.editor = s'.editor) (htrial : s.trial = s'.trial)
    (k : Hold) : s.held? k = s'.held? k := by
  cases k with
  | edited => rw [held?, held?, heditor]
  | selected => rw [held?, held?, htrial]

/-- **A deletion that succeeds**: the answer means yes, and the store has done it. -/
def Deletes (svc : Service σ) (s : Session) (x : RuleId) (answer : String) (w : σ) : Prop :=
  Affirms answer ∧ (s.store.perform svc (.delete x) w).1.result.isOk = true

/-- The table is shown without a change to what is held. -/
theorem refresh_holds (e : Executed) :
    (refresh e).session.editor = e.session.editor ∧
      (refresh e).session.trial = e.session.trial := by
  rw [refresh]
  split
  · exact ⟨rfl, rfl⟩
  · exact ⟨rfl, rfl⟩

/-- **A deletion that does not succeed** leaves the editor and the trial alone. -/
theorem execute_delete_of_not (h : ¬s.Deletes svc x answer w) :
    (s.execute svc (.delete x) answer w).1.session.editor = s.editor ∧
      (s.execute svc (.delete x) answer w).1.session.trial = s.trial := by
  rw [execute]
  split
  · rename_i hyes
    have hfailed := not_and.mp h (isYes_iff.mp hyes)
    rw [delete]
    rcases hp : s.store.perform svc (.delete x) w with ⟨⟨store, failure | done, log⟩, w'⟩
    · exact ⟨rfl, rfl⟩
    · rw [hp] at hfailed
      exact absurd rfl hfailed
  · exact ⟨rfl, rfl⟩

/-- **A deletion that succeeds** takes the rule out of the editor and out of the trial, where it is
there. -/
theorem execute_delete (h : s.Deletes svc x answer w) :
    (s.execute svc (.delete x) answer w).1.session.editor =
        (if s.editor.rule? = some x then .idle else s.editor) ∧
      (s.execute svc (.delete x) answer w).1.session.trial =
        if s.trial.selected? = some x then { s.trial with selected? := none } else s.trial := by
  obtain ⟨hyes, hdone⟩ := h
  rw [execute, if_pos (isYes_iff.mpr hyes), delete]
  rcases hp : s.store.perform svc (.delete x) w with ⟨⟨store, failure | done, log⟩, w'⟩
  · rw [hp] at hdone
    cases hdone
  · have hediting : s.editor.isEditing x = true ↔ s.editor.rule? = some x := beq_iff_eq
    simp only [hediting]
    exact ⟨rfl, rfl⟩

/-- **After a deletion that succeeded** the rule is not held. -/
theorem held?_delete_ne (h : s.Deletes svc x answer w) (k : Hold) :
    (s.execute svc (.delete x) answer w).1.session.held? k ≠ some x := by
  obtain ⟨heditor, htrial⟩ := execute_delete h
  cases k with
  | edited =>
    rw [held?, heditor]
    split
    · rintro ⟨⟩
    · assumption
  | selected =>
    rw [held?, htrial]
    split
    · rintro ⟨⟩
    · assumption

/-- **What a command makes of the rule that is edited**: it stays, it is let go of, or another one
is taken. -/
theorem rule?_execute (svc : Service σ) (s : Session) (c : Command) (answer : String) (w : σ) :
    let editor := (s.execute svc c answer w).1.session.editor
    editor.rule? = s.editor.rule? ∨ editor = .idle ∨
      ∃ y, c = .edit y ∧ editor.rule? = some y := by
  cases c with
  | edit y =>
    rw [execute, edit]
    split
    · exact Or.inr (Or.inr ⟨y, rfl, rfl⟩)
    · exact Or.inl rfl
  | draft text =>
    have hwrite := s.editor.rule?_write text
    rw [execute, write]
    split <;> rename_i heq
    all_goals
      rw [heq] at hwrite
      exact Or.inl hwrite
  | save => exact (s.editor.rule?_save svc s.store w).imp_right Or.inl
  | cancel => exact Or.inr (Or.inl rfl)
  | delete y =>
    by_cases hdeletes : s.Deletes svc y answer w
    · dsimp only
      rw [(execute_delete hdeletes).1]
      split
      · exact Or.inr (Or.inl rfl)
      · exact Or.inl rfl
    · exact Or.inl (congrArg Editor.rule? (execute_delete_of_not hdeletes).1)
  | _ => exact Or.inl rfl

/-- **What a command makes of the rule that is selected.** -/
theorem selected?_execute (svc : Service σ) (s : Session) (c : Command) (answer : String) (w : σ) :
    let trial := (s.execute svc c answer w).1.session.trial
    trial.selected? = s.trial.selected? ∨ trial.selected? = none ∨
      ∃ y, c = .select y ∧ trial.selected? = some y := by
  cases c with
  | select y => exact Or.inr (Or.inr ⟨y, rfl, rfl⟩)
  | eval => exact Or.inl (s.trial.selected?_submit svc s.store w)
  | edit y =>
    rw [execute, edit]
    split <;> exact Or.inl rfl
  | draft text =>
    rw [execute, write]
    split <;> exact Or.inl rfl
  | delete y =>
    by_cases hdeletes : s.Deletes svc y answer w
    · dsimp only
      rw [(execute_delete hdeletes).2]
      split
      · exact Or.inr (Or.inl rfl)
      · exact Or.inl rfl
    · exact Or.inl (congrArg Trial.selected? (execute_delete_of_not hdeletes).2)
  | _ => exact Or.inl rfl

/-- **A rule that is held after a command** was held before, or the command has taken hold of
it. -/
theorem held?_execute {k : Hold} (h : (s.execute svc c answer w).1.session.held? k = some x) :
    s.held? k = some x ∨ c = k.taking x := by
  cases k with
  | edited =>
    rcases rule?_execute svc s c answer w with hkept | hidle | ⟨y, rfl, hy⟩
    · exact Or.inl (hkept.symm.trans h)
    · rw [held?, hidle] at h
      cases h
    · exact Or.inr (congrArg Command.edit (Option.some.inj (hy.symm.trans h)))
  | selected =>
    rcases selected?_execute svc s c answer w with hkept | hnone | ⟨y, rfl, hy⟩
    · exact Or.inl (hkept.symm.trans h)
    · rw [held?, hnone] at h
      cases h
    · exact Or.inr (congrArg Command.select (Option.some.inj (hy.symm.trans h)))

end Session

/-! ### Since a rule is held -/

namespace Prompt

variable {p q : Prompt σ}

/-- The turn that is carried out at a prompt, if there is one. -/
def turn? (p : Prompt σ) : Option Turn := (nextTurn? p.ahead).map (·.1)

/-- The command that is carried out at a prompt. -/
def command? (p : Prompt σ) : Option Command := p.turn?.bind (·.command.toOption)

/-- **A rule is deleted at a prompt**: the command says so, and the deletion succeeds. -/
def Deletes (svc : Service σ) (p : Prompt σ) (x : RuleId) : Prop :=
  ∃ answer, p.turn? = some ⟨.ok (.delete x), answer⟩ ∧ p.session.Deletes svc x answer p.world

/-- **A rule has been held since the user took hold of it**, and was not deleted since. The prompts
are those that have gone by. -/
def HeldSince (svc : Service σ) (k : Hold) (x : RuleId) (passed : List (Prompt σ)) : Prop :=
  ∃ before p since, passed = before ++ p :: since ∧
    p.command? = some (k.taking x) ∧ p.session.held? k ≠ some x ∧
    (∀ r ∈ since, r.session.held? k = some x) ∧ ∀ r ∈ p :: since, ¬r.Deletes svc x

theorem exists_turn?_of_next (h : p.next? svc = some q) :
    ∃ t, p.turn? = some t ∧ q.session = (p.session.turn svc t p.world).1.session := by
  obtain ⟨⟨t, rest⟩, ht, rfl⟩ := Option.map_eq_some_iff.mp h
  exact ⟨t, by rw [turn?, ht, Option.map_some], rfl⟩

theorem command?_eq_some_iff :
    p.command? = some c ↔ ∃ answer, p.turn? = some ⟨.ok c, answer⟩ := by
  rw [command?]
  constructor
  · intro h
    obtain ⟨⟨command, answer⟩, ht, hc⟩ := Option.bind_eq_some_iff.mp h
    cases command with
    | error e => cases hc
    | ok c' =>
      cases hc
      exact ⟨answer, ht⟩
  · rintro ⟨answer, ht⟩
    rw [ht]
    rfl

/-- Where a command was given, the next prompt has what the command has made of the session, except
for the table. -/
theorem holds_of_turn? (h : p.next? svc = some q) (ht : p.turn? = some ⟨.ok c, answer⟩) :
    let e := (p.session.execute svc c answer p.world).1
    q.session.store = e.session.store ∧ q.session.editor = e.session.editor ∧
      q.session.trial = e.session.trial := by
  obtain ⟨t, ht', hsession⟩ := exists_turn?_of_next h
  cases ht.symm.trans ht'
  rw [hsession, (Session.turn_of_ok rfl svc p.session p.world).1]
  exact ⟨Session.store_refresh _, Session.refresh_holds _⟩

theorem deletes_iff (ht : p.turn? = some ⟨.ok (.delete x), answer⟩) :
    p.Deletes svc x ↔ p.session.Deletes svc x answer p.world := by
  constructor
  · rintro ⟨answer', ht', h⟩
    cases ht.symm.trans ht'
    exact h
  · exact fun h => ⟨answer, ht, h⟩

/-- **A rule that is held at a prompt** was held at the one before, or was taken hold of there. -/
theorem held?_of_next {k : Hold} (h : p.next? svc = some q) (hq : q.session.held? k = some x) :
    p.session.held? k = some x ∨ p.command? = some (k.taking x) := by
  obtain ⟨⟨command, answer⟩, ht, hsession⟩ := exists_turn?_of_next h
  cases command with
  | error e =>
    rw [hsession, Session.turn_of_error rfl] at hq
    exact Or.inl hq
  | ok c =>
    obtain ⟨-, heditor, htrial⟩ := holds_of_turn? h ht
    rw [Session.held?_congr heditor htrial] at hq
    rw [command?_eq_some_iff.mpr ⟨answer, ht⟩]
    exact (Session.held?_execute hq).imp_right (congrArg some)

/-- **A rule that is deleted at a prompt** is not held at the next one. -/
theorem held?_ne_of_deletes (h : p.next? svc = some q) (hd : p.Deletes svc x) (k : Hold) :
    q.session.held? k ≠ some x := by
  obtain ⟨answer, ht, hd⟩ := hd
  obtain ⟨-, heditor, htrial⟩ := holds_of_turn? h ht
  rw [Session.held?_congr heditor htrial]
  exact Session.held?_delete_ne hd k

/-- **The step**: a rule that is held at a prompt has been held since, if this was so at the prompt
before in case it was held there. -/
theorem HeldSince.concat {k : Hold} {passed : List (Prompt σ)} (h : p.next? svc = some q)
    (hq : q.session.held? k = some x)
    (hp : p.session.held? k = some x → HeldSince svc k x passed) :
    HeldSince svc k x (passed ++ [p]) := by
  have hkept : ¬p.Deletes svc x := fun hd => held?_ne_of_deletes h hd k hq
  by_cases hheld : p.session.held? k = some x
  · obtain ⟨before, r, since, rfl, hr, hnot, hsince, hall⟩ := hp hheld
    refine ⟨before, r, since ++ [p], by rw [List.append_assoc, List.cons_append], hr, hnot,
      List.forall_mem_append.mpr ⟨hsince, List.forall_mem_singleton.mpr hheld⟩, ?_⟩
    rw [← List.cons_append, List.forall_mem_append]
    exact ⟨hall, List.forall_mem_singleton.mpr hkept⟩
  · -- the rule is taken hold of here
    exact ⟨passed, p, [], rfl, (held?_of_next h hq).resolve_left hheld, hheld,
      fun r hr => absurd hr List.not_mem_nil, List.forall_mem_singleton.mpr hkept⟩

/-- **At every prompt of a session** that begins without a hold, what is held has been held since
it was taken hold of. The induction is on the prompts that have gone by, from the last one
back. -/
theorem heldSince_of_mem {k : Hold} {first : Prompt σ} (hfirst : first.session.held? k = none)
    {passed rest : List (Prompt σ)} (hps : prompts svc first = passed ++ q :: rest)
    (hq : q.session.held? k = some x) : HeldSince svc k x passed := by
  induction passed using List.reverseRecOn generalizing q rest with
  | nil =>
    obtain ⟨more, hmore⟩ := exists_prompts_eq_cons svc first
    rw [hmore] at hps
    cases hps
    rw [hfirst] at hq
    cases hq
  | append_singleton passed p ih =>
    rw [List.append_assoc, List.singleton_append] at hps
    have hchain := isChain_prompts svc first
    rw [hps] at hchain
    have hnext := (List.isChain_append_cons_cons.mp hchain).2.1
    exact .concat hnext hq (ih hps)

/-- **What a deletion does to the editor and to the trial**, between two prompts. -/
theorem releases_of_next (h : p.next? svc = some q) (hc : p.command? = some (.delete x)) :
    (¬p.Deletes svc x →
      q.session.editor = p.session.editor ∧ q.session.trial = p.session.trial) ∧
    (p.Deletes svc x →
      q.session.store = (p.session.store.perform svc (.delete x) p.world).1.store ∧
      q.session.editor =
        (if p.session.editor.rule? = some x then .idle else p.session.editor) ∧
      q.session.trial =
        if p.session.trial.selected? = some x then { p.session.trial with selected? := none }
        else p.session.trial) := by
  obtain ⟨answer, ht⟩ := command?_eq_some_iff.mp hc
  obtain ⟨hstore, heditor, htrial⟩ := holds_of_turn? h ht
  rw [deletes_iff ht, hstore, heditor, htrial]
  refine ⟨Session.execute_delete_of_not, fun hd => ⟨?_, Session.execute_delete hd⟩⟩
  exact (Session.execute_of_request (Session.request?_eq_delete_iff.mpr ⟨rfl, hd.1⟩) _ _).1

end Prompt

/-! ### The main result -/

/-- **A deleted rule is let go of, and no other.** In a session on any input, with any store to
begin with, and whatever the service replies:

* the prompts in question are those that were shown;
* a rule that is edited, or selected, at a prompt has been so since the command with which the
  user began, and was not deleted since;
* a deletion that is refused, or fails, leaves the editor and the trial as they were; one that
  succeeds was made in the store, ends the editing if the rule was edited, takes back the selection
  if it was selected, and leaves everything else in the editor and the trial as it was. -/
theorem deleted_released (svc : Service σ) (s : Store) (w : σ) (bytes : List UInt8) :
    let ps := Prompt.prompts svc (.first (Session.of s) (Text.lines bytes) w)
    fronts [] ((Session.of s).run svc (Text.lines bytes) w).1.shown = ps.map Prompt.shown ∧
    (∀ (passed rest : List (Prompt σ)) (p : Prompt σ), ps = passed ++ p :: rest →
      ∀ (k : Hold) (x : RuleId), p.session.held? k = some x →
        Prompt.HeldSince svc k x passed) ∧
    ps.IsChain fun p q => ∀ x, p.command? = some (.delete x) →
      (¬p.Deletes svc x →
        q.session.editor = p.session.editor ∧ q.session.trial = p.session.trial) ∧
      (p.Deletes svc x →
        q.session.store = (p.session.store.perform svc (.delete x) p.world).1.store ∧
        q.session.editor =
          (if p.session.editor.rule? = some x then .idle else p.session.editor) ∧
        q.session.trial =
          if p.session.trial.selected? = some x then { p.session.trial with selected? := none }
          else p.session.trial) := by
  intro ps
  refine ⟨Prompt.map_shown_prompts svc _ _ w, fun passed rest p hps k x hp => ?_, ?_⟩
  · have hfirst : (Session.of s).held? k = none := by cases k <;> rfl
    exact Prompt.heldSince_of_mem hfirst hps hp
  · exact (Prompt.isChain_prompts svc _).imp fun p q h x => Prompt.releases_of_next h

end Console

end Rulebook
