import Mathlib.Data.List.Chain
import Rulebook.Proofs.Console.Execution

/-!
# From prompt to prompt

A session shows a prompt, takes a line, does what it says, and comes back to the prompt. So a
session is known from what there is at its prompts (`Rulebook.Console.Prompt`): the state of
the session, that of the service, what has been shown, and the lines that are still to come.
From one prompt the session goes on to the next with the turn at the head of these lines
(`Rulebook.Console.Prompt.next?`); a turn takes one line, or two if it asks a question
(`Rulebook.Console.Takes`).

A session as it is run divides all lines into turns first and then carries the turns out. Here
it is shown that this comes to the same: the prompts that are shown in a run are exactly those
that the session goes through, in this order, and it ends at the last of them
(`Rulebook.Console.Prompt.map_shown_prompts`, `Rulebook.Console.Prompt.exists_last`). What every
turn preserves therefore holds at every prompt (`Rulebook.Console.Prompt.forall_mem_prompts`).
-/

namespace Rulebook.Console

open Text (Line)

variable {σ : Type} {svc : Service σ} {lines rest : List Line} {t : Turn}

/-! ### The turn at the head of the lines -/

/-- The turn at the head of some lines, and the lines after it. -/
def nextTurn? : List Line → Option (Turn × List Line)
  | .ok line :: lines =>
    match Command.parse line with
    | .ok .quit => none
    | .ok (.delete x) =>
      match lines with
      | [] => some (⟨.ok (.delete x), ""⟩, [])
      | .error _ :: _ => none
      | .ok answer :: lines => some (⟨.ok (.delete x), answer⟩, lines)
    | command => some (⟨command, ""⟩, lines)
  | _ => none

/-- **What a turn takes from the lines.** The line after `delete` is the answer, whatever
stands in it. -/
inductive Takes : List Line → Turn → List Line → Prop
  | command {line : String} {rest : List Line} (hquit : Command.parse line ≠ .ok .quit)
      (hdelete : ∀ x, Command.parse line ≠ .ok (.delete x)) :
      Takes (.ok line :: rest) ⟨Command.parse line, ""⟩ rest
  | answered {line answer : String} {x : RuleId} {rest : List Line}
      (h : Command.parse line = .ok (.delete x)) :
      Takes (.ok line :: .ok answer :: rest) ⟨.ok (.delete x), answer⟩ rest
  | unanswered {line : String} {x : RuleId} (h : Command.parse line = .ok (.delete x)) :
      Takes [.ok line] ⟨.ok (.delete x), ""⟩ []

theorem takes_of_nextTurn? (h : nextTurn? lines = some (t, rest)) : Takes lines t rest := by
  rcases lines with _ | ⟨flaw | line, lines⟩
  · cases h
  · cases h
  · rw [nextTurn?] at h
    split at h
    · cases h
    · rename_i x hx
      rcases lines with _ | ⟨flaw | answer, lines⟩
      · obtain ⟨rfl, rfl⟩ := Prod.mk.inj (Option.some.inj h)
        exact .unanswered hx
      · cases h
      · obtain ⟨rfl, rfl⟩ := Prod.mk.inj (Option.some.inj h)
        exact .answered hx
    · rename_i hquit hdelete
      obtain ⟨rfl, rfl⟩ := Prod.mk.inj (Option.some.inj h)
      exact .command hquit hdelete

theorem Takes.length_lt (h : Takes lines t rest) : rest.length < lines.length := by
  cases h with
  | command hquit hdelete => exact Nat.lt_succ_self _
  | answered h => exact Nat.lt_succ_of_lt (Nat.lt_succ_self _)
  | unanswered h => exact Nat.one_pos

/-- A turn begins with the command in the first line, and the user does not leave in it. -/
theorem Takes.exists_line (h : Takes lines t rest) :
    ∃ line more, lines = .ok line :: more ∧ t.command = Command.parse line ∧
      Command.parse line ≠ .ok .quit := by
  have hne {line : String} {x : RuleId} (hx : Command.parse line = .ok (.delete x)) :
      Command.parse line ≠ .ok .quit := by
    rw [hx]
    rintro ⟨⟩
  cases h with
  | @command line rest hquit hdelete => exact ⟨line, rest, rfl, by dsimp only, hquit⟩
  | @answered line answer x rest hx => exact ⟨line, .ok answer :: rest, rfl, hx.symm, hne hx⟩
  | @unanswered line x hx => exact ⟨line, [], rfl, hx.symm, hne hx⟩

/-- The turns in some lines are the one at their head and those after it. -/
theorem turns_of_takes (h : Takes lines t rest) : turns lines = putTurn t (turns rest) := by
  cases h with
  | command hquit hdelete =>
    rw [turns]
    split
    · exact absurd ‹_› hquit
    · exact absurd ‹_› (hdelete _)
    · rfl
  | answered h =>
    rw [turns, h]
  | unanswered h =>
    rw [turns.eq_def]
    dsimp only
    rw [h]
    rfl

/-- The line after the command is the answer, even if it reads like a command. -/
example : turns [.ok "rm a", .ok "delete b", .ok "y"] =
    ([⟨.ok (.delete ⟨"a"⟩), "delete b"⟩, ⟨.error (.unknownCommand "y"), ""⟩], .endOfInput) := by
  rfl

theorem turns_of_nextTurn?_eq_none (h : nextTurn? lines = none) : (turns lines).1 = [] := by
  rcases lines with _ | ⟨flaw | line, lines⟩
  · rfl
  · rfl
  · rw [turns]
    split
    · rfl
    · rename_i x hx
      rw [nextTurn?, hx] at h
      rcases lines with _ | ⟨flaw | answer, lines⟩
      · cases h
      · rfl
      · cases h
    · rename_i hquit hdelete
      rw [nextTurn?] at h
      split at h
      · exact absurd ‹_› hquit
      · exact absurd ‹_› (hdelete _)
      · cases h

/-! ### Prompts -/

/-- What there is when a command is expected: the state of the session and that of the service,
everything that has been shown, and the lines that are still to come. -/
structure Prompt (σ : Type) where
  session : Session
  world : σ
  shown : List Shown
  ahead : List Line

namespace Prompt

variable {p q : Prompt σ}

/-- The first prompt of a session. -/
def first (s : Session) (lines : List Line) (w : σ) : Prompt σ := ⟨s, w, s.opening, lines⟩

/-- The prompt after a turn, with the lines that the turn leaves. -/
def after (svc : Service σ) (p : Prompt σ) (t : Turn) (rest : List Line) : Prompt σ :=
  let turned := p.session.turn svc t p.world
  ⟨turned.1.session, turned.2, p.shown ++ turned.1.shown, rest⟩

/-- The next prompt, if there is a turn to be carried out. -/
def next? (svc : Service σ) (p : Prompt σ) : Option (Prompt σ) :=
  (nextTurn? p.ahead).map fun (t, rest) => p.after svc t rest

/-- **From one prompt to the next** a turn is carried out. -/
theorem exists_turn (h : p.next? svc = some q) :
    ∃ t, Takes p.ahead t q.ahead ∧
      q.session = (p.session.turn svc t p.world).1.session ∧
      q.world = (p.session.turn svc t p.world).2 ∧
      q.shown = p.shown ++ (p.session.turn svc t p.world).1.shown := by
  obtain ⟨⟨t, rest⟩, ht, rfl⟩ := Option.map_eq_some_iff.mp h
  exact ⟨t, takes_of_nextTurn? ht, rfl, rfl, rfl⟩

/-- **All prompts of a session**, from a given one on. -/
def prompts (svc : Service σ) (p : Prompt σ) : List (Prompt σ) :=
  match h : p.next? svc with
  | none => [p]
  | some q =>
    have : q.ahead.length < p.ahead.length := by
      obtain ⟨t, ht, -⟩ := exists_turn h
      exact ht.length_lt
    p :: prompts svc q
termination_by p.ahead.length

theorem prompts_of_next (h : p.next? svc = some q) : prompts svc p = p :: prompts svc q := by
  rw [prompts]
  split
  · rename_i hnone
    rw [h] at hnone
    cases hnone
  · rename_i q' hsome
    rw [h] at hsome
    rw [Option.some.inj hsome]

theorem prompts_of_no_next (h : p.next? svc = none) : prompts svc p = [p] := by
  rw [prompts]
  split
  · rfl
  · rename_i q hsome
    rw [h] at hsome
    cases hsome

theorem exists_prompts_eq_cons (svc : Service σ) (p : Prompt σ) :
    ∃ ps, prompts svc p = p :: ps := by
  cases h : p.next? svc with
  | none => exact ⟨[], prompts_of_no_next h⟩
  | some q => exact ⟨prompts svc q, prompts_of_next h⟩

/-- An induction along the prompts, from the last one back. There is a last one, for each turn
takes a line. -/
theorem next_induction {P : Prompt σ → Prop} (svc : Service σ)
    (hlast : ∀ p : Prompt σ, p.next? svc = none → P p)
    (hnext : ∀ p q : Prompt σ, p.next? svc = some q → P q → P p) (p : Prompt σ) : P p := by
  cases h : p.next? svc with
  | none => exact hlast p h
  | some q =>
    have : q.ahead.length < p.ahead.length := by
      obtain ⟨t, ht, -⟩ := exists_turn h
      exact ht.length_lt
    exact hnext p q h (next_induction svc hlast hnext q)
termination_by p.ahead.length

/-- **Each prompt is the next one after the prompt before.** -/
theorem isChain_prompts (svc : Service σ) (p : Prompt σ) :
    (prompts svc p).IsChain fun p q => p.next? svc = some q := by
  induction p using next_induction svc with
  | hlast p h =>
    rw [prompts_of_no_next h]
    exact .singleton p
  | hnext p q h ih =>
    rw [prompts_of_next h]
    obtain ⟨ps, hps⟩ := exists_prompts_eq_cons svc q
    rw [hps] at ih ⊢
    exact .cons_cons h ih

/-- **What every turn preserves holds at every prompt.** -/
theorem forall_mem_prompts {P : Prompt σ → Prop} (svc : Service σ)
    (hstep : ∀ p q : Prompt σ, P p → p.next? svc = some q → P q) (p : Prompt σ) (hp : P p) :
    ∀ q ∈ prompts svc p, P q := by
  induction p using next_induction svc with
  | hlast p h =>
    rw [prompts_of_no_next h]
    exact List.forall_mem_singleton.mpr hp
  | hnext p q h ih =>
    rw [prompts_of_next h]
    exact List.forall_mem_cons.mpr ⟨hp, ih (hstep p q hp h)⟩

/-- What holds of each prompt and the next one, if it holds of the former, is a chain. -/
theorem isChain_of_forall {P : Prompt σ → Prop} {R : Prompt σ → Prompt σ → Prop} (svc : Service σ)
    (hstep : ∀ p q : Prompt σ, P p → p.next? svc = some q → P q ∧ R p q) (p : Prompt σ) (hp : P p) :
    (prompts svc p).IsChain R := by
  have hall := forall_mem_prompts svc (fun p q hp h => (hstep p q hp h).1) p hp
  exact (isChain_prompts svc p).imp_of_mem_imp fun p q hmem _ h => (hstep p q (hall p hmem) h).2

end Prompt

/-! ### The prompts of a run -/

/-- What stands in front of each prompt among things that were shown, where other things were
shown before. -/
def fronts : List Shown → List Shown → List (List Shown)
  | _, [] => []
  | before, .prompt :: shown => before :: fronts (before ++ [.prompt]) shown
  | before, x :: shown => fronts (before ++ [x]) shown

theorem fronts_cons_of_ne {x : Shown} (h : x ≠ .prompt) (before shown : List Shown) :
    fronts before (x :: shown) = fronts (before ++ [x]) shown := by
  cases x with
  | prompt => exact absurd rfl h
  | _ => rfl

theorem fronts_append (before shown shown' : List Shown) :
    fronts before (shown ++ shown') = fronts before shown ++ fronts (before ++ shown) shown' := by
  induction shown generalizing before with
  | nil => rw [List.append_nil]; rfl
  | cons x shown ih =>
    by_cases hx : x = .prompt
    · subst hx
      rw [List.cons_append, fronts, fronts, ih, List.append_assoc, List.cons_append]
      rfl
    · rw [List.cons_append, fronts_cons_of_ne hx, fronts_cons_of_ne hx, ih, List.append_assoc]
      rfl

theorem fronts_of_not_mem {shown : List Shown} (h : .prompt ∉ shown) (before : List Shown) :
    fronts before shown = [] := by
  induction shown generalizing before with
  | nil => rfl
  | cons x shown ih =>
    rw [List.mem_cons, not_or] at h
    rw [fronts_cons_of_ne (Ne.symm h.1), ih h.2]

/-- What stands in front of a prompt is followed by this prompt. -/
theorem exists_eq_of_mem_fronts {front before shown : List Shown}
    (h : front ∈ fronts before shown) : ∃ rest, before ++ shown = front ++ .prompt :: rest := by
  induction shown generalizing before with
  | nil => cases h
  | cons x shown ih =>
    have hmore (h : front ∈ fronts (before ++ [x]) shown) :
        ∃ rest, before ++ x :: shown = front ++ .prompt :: rest := by
      rw [List.append_cons]
      exact ih h
    by_cases hx : x = .prompt
    · subst hx
      rw [fronts, List.mem_cons] at h
      rcases h with rfl | h
      · exact ⟨shown, rfl⟩
      · exact hmore h
    · rw [fronts_cons_of_ne hx] at h
      exact hmore h

namespace Session

/-- **Where a turn shows a prompt**: in front of everything else that it shows, and nowhere
else. -/
theorem fronts_turn (svc : Service σ) (s : Session) (t : Turn) (w : σ) (before : List Shown) :
    fronts before (s.turn svc t w).1.shown = [before] := by
  cases hc : t.command with
  | error e =>
    rw [turn_of_error hc]
    rfl
  | ok c =>
    have hquestions : Shown.prompt ∉ questions c := by
      cases c <;> simp [questions]
    have hrefresh : Shown.prompt ∉ (refresh (s.execute svc c t.answer w).1).shown := by
      have hexecute := (s.shown_execute svc c t.answer w).prompt_not_mem
      rw [refresh]
      split
      · exact hexecute
      · simp [hexecute, tablePublished]
    -- behind the prompt come the question, what the command shows, and perhaps a table
    have hrest := List.mem_append.not.mpr (not_or.mpr ⟨hquestions, hrefresh⟩)
    rw [(turn_of_ok hc svc s w).2.1, fronts, fronts_of_not_mem hrest]

end Session

namespace Prompt

theorem fronts_closing (before : List Shown) (close : Close) :
    fronts before (Session.closing close) = [before] := by
  cases close <;> rfl

/-- The run of the turns from a prompt on, against the prompts that follow. -/
theorem run_from (svc : Service σ) (p : Prompt σ) :
    let r := Session.runTurns svc (turns p.ahead).1 p.session p.world
    fronts p.shown (r.1.shown ++ Session.closing (turns p.ahead).2) = (prompts svc p).map shown ∧
      ∃ last, (prompts svc p).getLast? = some last ∧ last.session = r.1.session ∧
        last.world = r.2 := by
  induction p using next_induction svc with
  | hlast p h =>
    have hnone : nextTurn? p.ahead = none := Option.map_eq_none_iff.mp h
    rw [prompts_of_no_next h, turns_of_nextTurn?_eq_none hnone]
    exact ⟨fronts_closing _ _, p, rfl, rfl, rfl⟩
  | hnext p q h ih =>
    obtain ⟨t, ht, hqsession, hqworld, hqshown⟩ := exists_turn h
    have hturns : turns p.ahead = putTurn t (turns q.ahead) := turns_of_takes ht
    obtain ⟨hsession, hshown, hworld⟩ :=
      Session.runTurns_cons svc t (turns q.ahead).1 p.session p.world
    -- the rest of the run begins where the next prompt is
    rw [← hqsession, ← hqworld] at hsession hshown hworld
    obtain ⟨hfronts, last, hlast, hlastSession, hlastWorld⟩ := ih
    rw [prompts_of_next h, hturns, putTurn]
    refine ⟨?_, last, ?_, hlastSession.trans hsession.symm, hlastWorld.trans hworld.symm⟩
    · dsimp only
      rw [hshown, List.append_assoc, fronts_append, Session.fronts_turn, ← hqshown, hfronts]
      rfl
    · rw [List.getLast?_cons, hlast]
      rfl

/-- **The prompts that are shown in a run** are those that the session goes through. -/
theorem map_shown_prompts (svc : Service σ) (s : Session) (lines : List Line) (w : σ) :
    fronts [] (s.run svc lines w).1.shown = (prompts svc (first s lines w)).map shown := by
  rw [← (run_from svc (first s lines w)).1]
  change fronts [] (s.opening ++ _ ++ _) = _
  rw [List.append_assoc, fronts_append]
  rfl

/-- **A run ends at its last prompt.** -/
theorem exists_last (svc : Service σ) (s : Session) (lines : List Line) (w : σ) :
    ∃ last, (prompts svc (first s lines w)).getLast? = some last ∧
      last.session = (s.run svc lines w).1.session ∧ last.world = (s.run svc lines w).2.2 :=
  (run_from svc (first s lines w)).2

end Prompt

end Rulebook.Console
