import Rulebook.Proofs.Console.Prompts
import Rulebook.Text.LowerCase

/-!
# Rules are deleted with consent

A session asks the service to delete a rule only if the user typed the command
(`Rulebook.Console.parse_eq_delete_iff`), and said yes in the line after it
(`Rulebook.Console.Prompt.confirmed?`). The line after the command is the
answer, and is no command whatever stands in it; where there is none, the answer is no.

This is a fact about one turn: what it adds to the deletions on record is what is confirmed at
the prompt in front of it (`Rulebook.Console.Prompt.deletions_of_next`). All commands but one
come to another request or to none, and the one that is left is looked at with its answer. It
needs a store at rest, for a store with an operation under way might refuse what the user
confirmed.
-/

namespace Rulebook

open Rule Text

/-! ### Deletions on record -/

/-- The rule that a call deletes, if it deletes one. -/
def Call.deleted? : Call → Option RuleId
  | .deleteRule x => some x
  | _ => none

/-- The rules that were asked to be deleted, in order. -/
def deletions (calls : List Call) : List RuleId := calls.filterMap Call.deleted?

theorem deletions_append (calls calls' : List Call) :
    deletions (calls ++ calls') = deletions calls ++ deletions calls' := List.filterMap_append

namespace Store

/-- The rule that a request to a store deletes: it has to be there. -/
def deleted? (s : Store) : Request → Option RuleId
  | .delete x => if x ∈ ids s.rules then some x else none
  | _ => none

variable {σ : Type} {s : Store}

theorem AtRest.deletions_perform (hs : s.AtRest) (svc : Service σ) (r : Request)
    (w : σ × List Call) :
    deletions (s.perform svc.recorded r w).2.2 = deletions w.2 ++ (s.deleted? r).toList := by
  cases hc : s.check r with
  | ok u =>
    rw [hs.calls_of_check hc, deletions_append]
    cases r with
    | delete x =>
      rw [deleted?, if_pos (require_eq_ok_iff_mem.mp hc)]
      rfl
    | _ => rfl
  | error failure =>
    rw [calls_of_check_error hc]
    cases r with
    | delete x =>
      have hx : x ∉ ids s.rules := fun hx => by
        rw [check, require_eq_ok_iff_mem.mpr hx] at hc
        cases hc
      rw [deleted?, if_neg hx]
      exact (List.append_nil _).symm
    | _ => exact (List.append_nil _).symm

end Store

namespace Console

variable {σ : Type} {answer line : String} {x : RuleId}

/-! ### Commands and answers -/

/-- The word `delete` or `rm`, and something after it. -/
theorem ofWord_eq_delete_iff {word : String} {cs : List Char} :
    Command.ofWord word cs = .ok (.delete x) ↔
      (word = "delete" ∨ word = "rm") ∧ cs ≠ [] ∧ x = ⟨String.ofList cs⟩ := by
  have hdelete : (neededId "delete" cs).map Command.delete = .ok (.delete x) ↔
      cs ≠ [] ∧ x = ⟨String.ofList cs⟩ := by
    cases cs with
    | nil => exact iff_of_false (by rintro ⟨⟩) fun h => h.1 rfl
    | cons d cs =>
      refine ⟨fun h => ?_, fun h => ?_⟩
      · cases h
        exact ⟨List.cons_ne_nil d cs, rfl⟩
      · rw [h.2]
        rfl
  by_cases hword : word = "delete" ∨ word = "rm"
  · rw [and_iff_right hword, ← hdelete]
    rcases hword with rfl | rfl <;> rfl
  · refine iff_of_false (fun h => ?_) fun h => hword h.1
    rw [Command.ofWord.eq_def] at h
    split at h
    all_goals first
      | exact hword (by decide)
      | cases cs <;> cases h

/-- **The lines that are commands to delete a rule**: without the blanks at its ends, the line
begins with the word `delete` or `rm`, and the rest, trimmed, is the rule. -/
theorem parse_eq_delete_iff :
    Command.parse line = .ok (.delete x) ↔
      ∃ word cs, cutWord (trimmed line.toList) = (word.toList, cs) ∧
        (word = "delete" ∨ word = "rm") ∧ trimmed cs ≠ [] ∧ x = ⟨String.ofList (trimmed cs)⟩ := by
  rcases hcut : cutWord (trimmed line.toList) with ⟨front, cs⟩
  have hparse : Command.parse line = Command.ofWord (String.ofList front) (trimmed cs) := by
    rw [Command.parse, hcut]
  rw [hparse, ofWord_eq_delete_iff]
  constructor
  · intro h
    exact ⟨String.ofList front, cs, by rw [String.toList_ofList], h⟩
  · rintro ⟨word, cs', heq, h⟩
    obtain ⟨rfl, rfl⟩ := Prod.mk.inj heq
    rw [String.ofList_toList]
    exact h

/-- **An answer that means yes**: trimmed, and in small letters, it is one of two words. -/
def Affirms (answer : String) : Prop := lowerAscii (trim answer) ∈ ["y", "yes"]

instance (answer : String) : Decidable (Affirms answer) := inferInstanceAs (Decidable (_ ∈ _))

theorem isYes_iff : isYes answer = true ↔ Affirms answer := by
  have hword (cs : List Char) : lowerAscii (trim answer) = String.ofList cs ↔
      (trimmed answer.toList).map Char.toLower = cs := by
    rw [lowerAscii, trim, String.toList_ofList, String.ofList_inj]
  have hy : lowerAscii (trim answer) = "y" ↔ _ := hword ['y']
  have hyes : lowerAscii (trim answer) = "yes" ↔ _ := hword ['y', 'e', 's']
  rw [Affirms, List.mem_pair, hy, hyes]
  simp [isYes]

namespace Session

variable {s : Session} {c : Command}

/-- Only one command comes to the request to delete a rule, and only with consent. -/
theorem request?_eq_delete_iff :
    s.request? answer c = some (.delete x) ↔ c = .delete x ∧ Affirms answer := by
  rw [← isYes_iff]
  cases c with
  | save =>
    rw [request?]
    split <;> simp
  | delete y =>
    rw [request?]
    split <;> simp [*]
  | _ => simp [request?]

/-- **What a command adds to the deletions on record.** -/
theorem deletions_execute (hs : s.store.AtRest) (svc : Service σ) (c : Command)
    (answer : String) (w : σ × List Call) :
    deletions (s.execute svc.recorded c answer w).2.2 =
      deletions w.2 ++ ((s.request? answer c).bind s.store.deleted?).toList := by
  cases hr : s.request? answer c with
  | some r =>
    rw [(execute_of_request hr svc.recorded w).2, hs.deletions_perform]
    rfl
  | none =>
    rw [Option.bind_none, Option.toList_none, List.append_nil]
    rcases (execute_of_no_request hr svc.recorded w).2 with hw | ⟨e, hw⟩
    · rw [hw]
    · rw [hw]
      exact (deletions_append _ _).trans (List.append_nil _)

/-- A command other than `delete` deletes nothing. -/
theorem deleted?_of_ne (h : ∀ x, c ≠ .delete x) :
    (s.request? answer c).bind s.store.deleted? = none := by
  rw [Option.bind_eq_none_iff]
  intro r hr
  cases r with
  | delete x => exact absurd (request?_eq_delete_iff.mp hr).1 (h x)
  | _ => rfl

theorem deleted?_delete :
    (s.request? answer (.delete x)).bind s.store.deleted? =
      if Affirms answer ∧ x ∈ ids s.store.rules then some x else none := by
  by_cases hyes : Affirms answer
  · rw [request?_eq_delete_iff.mpr ⟨rfl, hyes⟩, Option.bind_some, Store.deleted?]
    simp [hyes]
  · rw [request?, if_neg (isYes_iff.not.mpr hyes)]
    simp [hyes]

end Session

/-! ### Prompts -/

/-- **What becomes of the lines between two prompts**: one is the command, and the line after
`delete` is used up with it. -/
def Consumed (lines rest : List Line) : Prop :=
  ∃ line more, lines = .ok line :: more ∧
    ((∃ x, Command.parse line = .ok (.delete x)) ∧ rest = more.tail ∨
      (∀ x, Command.parse line ≠ .ok (.delete x)) ∧ rest = more)

theorem Takes.consumed {lines rest : List Line} {t : Turn} (h : Takes lines t rest) :
    Consumed lines rest := by
  cases h with
  | command hquit hdelete => exact ⟨_, _, rfl, Or.inr ⟨hdelete, rfl⟩⟩
  | answered h => exact ⟨_, _, rfl, Or.inl ⟨⟨_, h⟩, rfl⟩⟩
  | unanswered h => exact ⟨_, _, rfl, Or.inl ⟨⟨_, h⟩, rfl⟩⟩

namespace Prompt

/-- **The deletion that is confirmed at a prompt**: the next line is the command to delete a
rule, the line after it says yes, and the rule is there. -/
def confirmed? (p : Prompt σ) : Option RuleId :=
  match p.ahead with
  | .ok line :: .ok answer :: _ =>
    match Command.parse line with
    | .ok (.delete x) =>
      if Affirms answer ∧ x ∈ ids p.session.store.rules then some x else none
    | _ => none
  | _ => none

theorem confirmed?_of_ne {p : Prompt σ} {rest : List Line} (hp : p.ahead = .ok line :: rest)
    (h : ∀ x, Command.parse line ≠ .ok (.delete x)) : p.confirmed? = none := by
  rw [confirmed?, hp]
  split
  · rename_i heq
    cases heq
    split
    · exact absurd ‹_› (h _)
    · rfl
  · rfl

/-- Nothing is confirmed where there is no turn. -/
theorem confirmed?_of_no_turn {p : Prompt σ} (h : nextTurn? p.ahead = none) :
    p.confirmed? = none := by
  rw [confirmed?]
  split
  · rename_i hp
    split
    · rename_i hx
      rw [hp, nextTurn?, hx] at h
      cases h
    · rfl
  · rfl

variable {svc : Service σ} {p q : Prompt (σ × List Call)}

/-- **Between two prompts** the deletion that was confirmed at the first one is made, and no
other. -/
theorem deletions_of_next (hp : p.session.store.AtRest) (h : p.next? svc.recorded = some q) :
    q.session.store.AtRest ∧
      deletions q.world.2 = deletions p.world.2 ++ p.confirmed?.toList ∧
      Consumed p.ahead q.ahead := by
  obtain ⟨t, ht, hsession, hworld, -⟩ := exists_turn h
  refine ⟨?_, ?_, ht.consumed⟩
  · rw [hsession]
    exact Session.atRest_turn hp _ _ _
  · rw [hworld]
    generalize hahead : p.ahead = lines at ht
    generalize q.ahead = rest at ht
    cases ht with
    -- nothing is confirmed by a line that is no command to delete, and nothing is deleted
    | @command line rest hquit hdelete =>
      rw [confirmed?_of_ne hahead hdelete]
      cases hc : Command.parse line with
      | error e =>
        rw [Session.turn_of_error rfl]
        exact (List.append_nil _).symm
      | ok c =>
        have hne : ∀ x, c ≠ .delete x := fun x hx => hdelete x (by rw [hc, hx])
        rw [(Session.turn_of_ok rfl _ _ _).2.2, Session.deletions_execute hp,
          Session.deleted?_of_ne hne]
    | @answered line answer x rest hx =>
      rw [(Session.turn_of_ok rfl _ _ _).2.2, Session.deletions_execute hp,
        Session.deleted?_delete, confirmed?, hahead]
      simp only [hx]
    -- where the input ends the answer is empty, which is no
    | @unanswered line x hx =>
      have hno : ¬Affirms "" := by decide
      rw [(Session.turn_of_ok rfl _ _ _).2.2, Session.deletions_execute hp,
        Session.deleted?_delete, if_neg (fun h => hno h.1), confirmed?, hahead]

/-- The deletions of a session from a prompt on. -/
theorem deletions_from (svc : Service σ) (p : Prompt (σ × List Call))
    (hp : p.session.store.AtRest) :
    ∃ last, (prompts svc.recorded p).getLast? = some last ∧
      deletions last.world.2 =
        deletions p.world.2 ++ (prompts svc.recorded p).filterMap confirmed? := by
  induction p using next_induction svc.recorded with
  | hlast p h =>
    have hnone : p.confirmed? = none := confirmed?_of_no_turn (Option.map_eq_none_iff.mp h)
    rw [prompts_of_no_next h, List.filterMap_cons_none hnone]
    exact ⟨p, rfl, (List.append_nil _).symm⟩
  | hnext p q h ih =>
    obtain ⟨hq, hdeletions, -⟩ := deletions_of_next hp h
    obtain ⟨last, hlast, hrest⟩ := ih hq
    rw [prompts_of_next h]
    refine ⟨last, ?_, ?_⟩
    · rw [List.getLast?_cons, hlast]
      rfl
    · rw [hrest, hdeletions, List.append_assoc]
      cases hc : p.confirmed? with
      | none => rw [List.filterMap_cons_none hc]; rfl
      | some x => rw [List.filterMap_cons_some hc]; rfl

end Prompt

/-! ### The main result -/

/-- **No deletion without consent.** In a session on any input, with any rules to begin with,
guarded or not, and whatever the service replies:

* the rules that the service was asked to delete are those whose deletion was confirmed at a
  prompt, in this order and as often;
* the prompts in question are those that were shown, and all lines are still to come at the
  first one;
* between two prompts no deletion is made but the one that was confirmed, one line is taken as
  a command, and the line after a command to delete is used up with it;
* the lines that are commands to delete a rule are those that begin, behind blanks, with the word
  `delete` or `rm`, and name the rule after it. -/
theorem deletions_confirmed (guarded : Bool) (listed : List Rule) (svc : Service σ) (w : σ)
    (bytes : List UInt8) :
    let s := Session.of (.loaded guarded listed)
    let ps := Prompt.prompts svc.recorded (.first s (Text.lines bytes) (w, []))
    let (e, _, v) := s.run svc.recorded (Text.lines bytes) (w, [])
    deletions v.2 = ps.filterMap Prompt.confirmed? ∧
    fronts [] e.shown = ps.map Prompt.shown ∧
    ps.head?.map Prompt.ahead = some (Text.lines bytes) ∧
    (ps.IsChain fun p q =>
      deletions q.world.2 = deletions p.world.2 ++ p.confirmed?.toList ∧
        Consumed p.ahead q.ahead) ∧
    ∀ line x, Command.parse line = .ok (.delete x) ↔
      ∃ word cs, cutWord (trimmed line.toList) = (word.toList, cs) ∧
        (word = "delete" ∨ word = "rm") ∧ trimmed cs ≠ [] ∧
        x = ⟨String.ofList (trimmed cs)⟩ := by
  intro s ps
  have hs : s.store.AtRest := Store.atRest_loaded guarded listed
  refine ⟨?_, Prompt.map_shown_prompts _ _ _ _, ?_, ?_, fun line x => parse_eq_delete_iff⟩
  · obtain ⟨last, hlast, hdeletions⟩ :=
      Prompt.deletions_from svc (.first s (Text.lines bytes) (w, [])) hs
    -- the run ends at the same prompt, with the record that there is
    obtain ⟨last', hlast', -, hworld⟩ :=
      Prompt.exists_last svc.recorded s (Text.lines bytes) (w, [])
    obtain rfl : last = last' := Option.some.inj (hlast.symm.trans hlast')
    exact (congrArg (deletions ·.2) hworld).symm.trans hdeletions
  · obtain ⟨ps', hps⟩ :=
      Prompt.exists_prompts_eq_cons svc.recorded (.first s (Text.lines bytes) (w, []))
    change (Prompt.prompts _ _).head?.map _ = _
    rw [hps]
    rfl
  · exact Prompt.isChain_of_forall svc.recorded
      (fun p q hp h => Prompt.deletions_of_next hp h) _ hs

end Console

end Rulebook
