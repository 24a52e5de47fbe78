import Rulebook.Proofs.Console.Prompts

/-!
# Line by line

Before a session is run its lines are divided into turns. Somebody who sits at the console does
not see that: there a line is taken when it is needed, a prompt stands in front of it, and the
line after that is not looked at before the session has done what it was told. This file runs a
session in this way (`Rulebook.Console.Dialogue.talk`). A dialogue keeps a record of the lines
that were taken and what each was taken for, a command or the answer to a question.

In a dialogue the session, the service and the rules all have a hand in every round, so it is a
statement that they have no say in which lines are commands. It is proved by giving the record
as a function of the lines alone (`Rulebook.Console.divide`), and showing that every dialogue
keeps to it (`Rulebook.Console.Dialogue.talk_eq`), whatever it does besides.
-/

namespace Rulebook.Console

open Text (Line)

/-! ### Lines and what they are taken for -/

/-- A line that was taken from the input. -/
inductive Taken where
  | command (line : Line)
  /-- The answer to the question that the command before it asked. -/
  | answer (line : Line)

namespace Taken

/-- The line itself. -/
def line : Taken → Line
  | command line => line
  | answer line => line

/-- The line was taken for an answer. -/
def IsAnswer : Taken → Prop
  | command _ => False
  | answer _ => True

/-- **A command that asks a question**: that is `delete`, and no other. -/
def Asks : Taken → Prop
  | command (.ok line) => ∃ x, Command.parse line = .ok (.delete x)
  | _ => False

/-- **The session goes on behind the line**: it could be read, and it is not the command to
leave. -/
def GoesOn : Taken → Prop
  | command (.ok line) => Command.parse line ≠ .ok .quit
  | answer (.ok _) => True
  | _ => False

end Taken

/-- **The lines that are answers** are those right behind a command that asks a question. -/
structure Alternate (taken : List Taken) : Prop where
  head : ∀ u ∈ taken.head?, ¬u.IsAnswer
  chain : taken.IsChain fun u v => v.IsAnswer ↔ u.Asks

/-- **Where a session ends**: at the end of the input, at the command to leave, or at a line that
cannot be read, whichever comes first. -/
inductive Ends : List Taken → List Line → Option Text.Utf8.Flaw → Prop
  | endOfInput {taken : List Taken} (h : ∀ u ∈ taken, u.GoesOn) : Ends taken [] none
  | quit {before : List Taken} {line : String} {ahead : List Line} (h : ∀ u ∈ before, u.GoesOn)
      (hquit : Command.parse line = .ok .quit) : Ends (before ++ [.command (.ok line)]) ahead none
  | unreadable {before : List Taken} {u : Taken} {ahead : List Line} {flaw : Text.Utf8.Flaw}
      (h : ∀ u ∈ before, u.GoesOn) (hflaw : u.line = .error flaw) :
      Ends (before ++ [u]) ahead (some flaw)

/-! ### The lines of an input -/

/-- The lines that a session takes, those that it leaves, and why it stops, if it is for a line
that cannot be read. -/
structure Division where
  taken : List Taken
  ahead : List Line
  flaw? : Option Text.Utf8.Flaw

/-- More lines taken in front. -/
def Division.behind (used : List Taken) (r : Division) : Division :=
  { r with taken := used ++ r.taken }

/-- **What the lines of an input are taken for.** -/
def divide : List Line → Division
  | [] => ⟨[], [], none⟩
  | .error flaw :: lines => ⟨[.command (.error flaw)], lines, some flaw⟩
  | .ok line :: lines =>
    match Command.parse line with
    | .ok .quit => ⟨[.command (.ok line)], lines, none⟩
    | .ok (.delete _) =>
      match lines with
      | [] => ⟨[.command (.ok line)], [], none⟩
      | .error flaw :: lines => ⟨[.command (.ok line), .answer (.error flaw)], lines, some flaw⟩
      | .ok answer :: lines =>
        (divide lines).behind [.command (.ok line), .answer (.ok answer)]
    | _ => (divide lines).behind [.command (.ok line)]

variable {lines rest : List Line} {t : Turn}

section

variable {line answer : String} {x : RuleId} {flaw : Text.Utf8.Flaw}

/-- A command that asks nothing takes its own line. -/
theorem divide_of_command (hquit : Command.parse line ≠ .ok .quit)
    (hdelete : ∀ x, Command.parse line ≠ .ok (.delete x)) :
    divide (.ok line :: rest) = (divide rest).behind [.command (.ok line)] := by
  rw [divide.eq_def]
  dsimp only
  split
  · exact absurd ‹_› hquit
  · exact absurd ‹_› (hdelete _)
  · rfl

theorem divide_of_quit (h : Command.parse line = .ok .quit) :
    divide (.ok line :: rest) = ⟨[.command (.ok line)], rest, none⟩ := by
  rw [divide.eq_def]
  dsimp only
  rw [h]

/-- A command that asks takes the line behind it, too. -/
theorem divide_of_answered (h : Command.parse line = .ok (.delete x)) :
    divide (.ok line :: .ok answer :: rest) =
      (divide rest).behind [.command (.ok line), .answer (.ok answer)] := by
  rw [divide.eq_def]
  dsimp only
  rw [h]

theorem divide_of_unanswered (h : Command.parse line = .ok (.delete x)) :
    divide [.ok line] = (divide []).behind [.command (.ok line)] := by
  rw [divide.eq_def]
  dsimp only
  rw [h]
  rfl

theorem divide_of_unreadable (h : Command.parse line = .ok (.delete x)) :
    divide (.ok line :: .error flaw :: rest) =
      ⟨[.command (.ok line), .answer (.error flaw)], rest, some flaw⟩ := by
  rw [divide.eq_def]
  dsimp only
  rw [h]

/-- After the last command, no line counts. -/
theorem turns_of_quit (h : Command.parse line = .ok .quit) :
    turns (.ok line :: rest) = ([], .quit) := by
  rw [turns.eq_def]
  dsimp only
  rw [h]

theorem turns_of_unreadable (h : Command.parse line = .ok (.delete x)) :
    turns (.ok line :: .error flaw :: rest) = ([], .unreadableAnswer x flaw) := by
  rw [turns.eq_def]
  dsimp only
  rw [h]

end

/-- The lines are taken in their order, and none is left out. -/
theorem taken_append_ahead (lines : List Line) :
    (divide lines).taken.map Taken.line ++ (divide lines).ahead = lines := by
  fun_induction divide lines <;> simp_all [Division.behind, Taken.line]

theorem goesOn_of_delete {line : String} {x : RuleId} (h : Command.parse line = .ok (.delete x)) :
    (Taken.command (.ok line)).GoesOn := by
  change Command.parse line ≠ .ok .quit
  rw [h]
  rintro ⟨⟩

theorem Ends.behind {used taken : List Taken} {ahead : List Line} {flaw? : Option Text.Utf8.Flaw}
    (hused : ∀ u ∈ used, u.GoesOn) (h : Ends taken ahead flaw?) :
    Ends (used ++ taken) ahead flaw? := by
  have hall {before : List Taken} (h : ∀ u ∈ before, u.GoesOn) : ∀ u ∈ used ++ before, u.GoesOn :=
    List.forall_mem_append.mpr ⟨hused, h⟩
  cases h with
  | endOfInput h => exact .endOfInput (hall h)
  | quit h hquit =>
    rw [← List.append_assoc]
    exact .quit (hall h) hquit
  | unreadable h hflaw =>
    rw [← List.append_assoc]
    exact .unreadable (hall h) hflaw

theorem ends_divide (lines : List Line) :
    Ends (divide lines).taken (divide lines).ahead (divide lines).flaw? := by
  fun_induction divide lines with
  | case1 => exact .endOfInput nofun
  | case2 flaw lines => exact @Ends.unreadable [] (.command (.error flaw)) lines flaw nofun rfl
  | case3 line lines hquit => exact @Ends.quit [] line lines nofun hquit
  | case4 line x hx => exact .endOfInput (List.forall_mem_singleton.mpr (goesOn_of_delete hx))
  | case5 line x hx flaw lines =>
    exact @Ends.unreadable [.command (.ok line)] (.answer (.error flaw)) lines flaw
      (List.forall_mem_singleton.mpr (goesOn_of_delete hx)) rfl
  | case6 line x hx answer lines ih =>
    refine ih.behind (List.forall_mem_cons.mpr ⟨goesOn_of_delete hx, ?_⟩)
    exact List.forall_mem_singleton.mpr trivial
  | case7 line lines hquit hdelete ih =>
    exact ih.behind (List.forall_mem_singleton.mpr hquit)

theorem Alternate.cons {line : Line} {taken : List Taken} (h : Alternate taken)
    (hasks : ¬(Taken.command line).Asks) : Alternate (.command line :: taken) := by
  refine ⟨fun u hu => ?_, List.isChain_cons.mpr ⟨fun u hu => ?_, h.chain⟩⟩
  · obtain rfl := Option.mem_some_iff.mp hu
    exact id
  · exact iff_of_false (h.head u hu) hasks

/-- Behind an answer the next line is a command again. -/
theorem Alternate.cons_cons {line answer : Line} {taken : List Taken} (h : Alternate taken)
    (hasks : (Taken.command line).Asks) : Alternate (.command line :: .answer answer :: taken) := by
  refine ⟨fun u hu => ?_, .cons_cons (iff_of_true trivial hasks) ?_⟩
  · obtain rfl := Option.mem_some_iff.mp hu
    exact id
  · exact List.isChain_cons.mpr ⟨fun u hu => iff_of_false (h.head u hu) id, h.chain⟩

theorem alternate_nil : Alternate [] := ⟨nofun, .nil⟩

theorem alternate_divide (lines : List Line) : Alternate (divide lines).taken := by
  fun_induction divide lines with
  | case1 => exact alternate_nil
  | case2 flaw lines => exact alternate_nil.cons id
  | case3 line lines hquit =>
    refine alternate_nil.cons ?_
    rintro ⟨x, hx⟩
    rw [hquit] at hx
    cases hx
  | case4 line x hx => exact ⟨by rintro u ⟨⟩; exact id, .singleton _⟩
  | case5 line x hx flaw lines => exact alternate_nil.cons_cons ⟨x, hx⟩
  | case6 line x hx answer lines ih => exact ih.cons_cons ⟨x, hx⟩
  | case7 line lines hquit hdelete ih =>
    refine ih.cons ?_
    rintro ⟨x, hx⟩
    exact hdelete x hx

/-- **No line behind the end of a session matters**, where the session did not end with the
input. -/
theorem turns_of_not_goesOn (lines more : List Line)
    (h : ∃ u ∈ (divide lines).taken, ¬u.GoesOn) :
    turns ((divide lines).taken.map Taken.line ++ more) = turns lines := by
  fun_induction divide lines with
  | case1 =>
    obtain ⟨u, hu, -⟩ := h
    cases hu
  | case2 flaw lines => rfl
  | case3 line lines hquit => exact (turns_of_quit hquit).trans (turns_of_quit hquit).symm
  | case4 line x hx =>
    obtain ⟨u, hu, hends⟩ := h
    obtain rfl := List.mem_singleton.mp hu
    exact absurd (goesOn_of_delete hx) hends
  | case5 line x hx flaw lines =>
    exact (turns_of_unreadable hx).trans (turns_of_unreadable hx).symm
  | case6 line x hx answer lines ih =>
    have hrest : ∃ u ∈ (divide lines).taken, ¬u.GoesOn := by
      obtain ⟨u, hu, hends⟩ := h
      rcases List.mem_cons.mp hu with rfl | hu
      · exact absurd (goesOn_of_delete hx) hends
      rcases List.mem_cons.mp hu with rfl | hu
      · exact absurd trivial hends
      · exact ⟨u, hu, hends⟩
    rw [turns_of_takes (.answered hx), ← ih hrest]
    exact turns_of_takes (.answered hx)
  | case7 line lines hquit hdelete ih =>
    have hrest : ∃ u ∈ (divide lines).taken, ¬u.GoesOn := by
      obtain ⟨u, hu, hends⟩ := h
      rcases List.mem_cons.mp hu with rfl | hu
      · exact absurd hquit hends
      · exact ⟨u, hu, hends⟩
    have htakes (rest : List Line) : Takes (.ok line :: rest) ⟨Command.parse line, ""⟩ rest :=
      .command hquit hdelete
    rw [turns_of_takes (htakes lines), ← ih hrest]
    exact turns_of_takes (htakes _)

/-! ### Dialogues -/

variable {σ τ : Type}

/-- What there is when a line is expected: the state of the session and that of the service, all
that was shown and written to the journal, the lines that were taken and those that are still to
come. -/
structure Dialogue (σ : Type) where
  session : Session
  world : σ
  shown : List Shown
  log : List Event
  taken : List Taken
  ahead : List Line

/-- What a round of a dialogue comes to: another round, or the end, perhaps for a line that
cannot be read. -/
inductive Round (σ : Type) where
  | next (d : Dialogue σ)
  | ended (d : Dialogue σ) (flaw? : Option Text.Utf8.Flaw)

namespace Dialogue

/-- A dialogue before its first prompt. -/
def first (s : Session) (lines : List Line) (w : σ) : Dialogue σ := ⟨s, w, s.opening, [], [], lines⟩

/-- Shows something. -/
def tell (d : Dialogue σ) (shown : List Shown) : Dialogue σ := { d with shown := d.shown ++ shown }

/-- Takes a line, which leaves the rest. -/
def take (d : Dialogue σ) (u : Taken) (rest : List Line) : Dialogue σ :=
  { d with taken := d.taken ++ [u], ahead := rest }

/-- Carries out a command, and shows the table if a snapshot was published. -/
def carryOut (svc : Service σ) (d : Dialogue σ) (c : Command) (answer : String) : Dialogue σ :=
  let (e, w) := d.session.execute svc c answer d.world
  let e := Session.refresh e
  { d with session := e.session, world := w, shown := d.shown ++ e.shown, log := d.log ++ e.log }

/-- Does what a command says. The question that it asks is put now, and the next line taken for
the answer. -/
def obey (svc : Service σ) (d : Dialogue σ) (c : Command) : Round σ :=
  match c with
  | .quit => .ended d none
  | .delete x =>
    let d := d.tell [.question x]
    match d.ahead with
    | [] => .next (d.carryOut svc (.delete x) "")
    | .error flaw :: rest => .ended (d.take (.answer (.error flaw)) rest) (some flaw)
    | .ok answer :: rest =>
      .next ((d.take (.answer (.ok answer)) rest).carryOut svc (.delete x) answer)
  | c => .next (d.carryOut svc c "")

/-- **One round**: a prompt is shown, a line is taken, and what it says is done. -/
def round (svc : Service σ) (d : Dialogue σ) : Round σ :=
  let d := d.tell [.prompt]
  match d.ahead with
  | [] => .ended d none
  | .error flaw :: rest => .ended (d.take (.command (.error flaw)) rest) (some flaw)
  | .ok line :: rest =>
    let d := d.take (.command (.ok line)) rest
    match Command.parse line with
    | .error e => .next (d.tell [.message s!"错误: {e.message}"])
    | .ok c => d.obey svc c

/-- The dialogue after a turn for which some lines were used. -/
def after (svc : Service σ) (d : Dialogue σ) (t : Turn) (used : List Taken) (rest : List Line) :
    Dialogue σ :=
  let (e, w) := d.session.turn svc t d.world
  ⟨e.session, w, d.shown ++ e.shown, d.log ++ e.log, d.taken ++ used, rest⟩

/-- The dialogue when there is no turn any more. -/
def close (d : Dialogue σ) (shown : List Shown) : Dialogue σ :=
  { d with
    shown := d.shown ++ shown
    taken := d.taken ++ (divide d.ahead).taken
    ahead := (divide d.ahead).ahead }

/-- **What a round does**: the next turn, with lines that are divided as the whole input is; or
nothing, if there is no turn. -/
inductive Goes (svc : Service σ) (d : Dialogue σ) : Round σ → Prop
  | next {t : Turn} {used : List Taken} {rest : List Line} (ht : Takes d.ahead t rest)
      (hused : divide d.ahead = (divide rest).behind used) :
      Goes svc d (.next (d.after svc t used rest))
  | ended {why : Close} (hturns : turns d.ahead = ([], why))
      (hflaw : (divide d.ahead).flaw? = why.flaw?) :
      Goes svc d (.ended (d.close (Session.closing why)) why.flaw?)

theorem after_command (svc : Service σ) (d : Dialogue σ) (c : Command) (answer : String)
    (used : List Taken) (rest : List Line) :
    d.after svc ⟨.ok c, answer⟩ used rest =
      { d.carryOut svc c answer with
        shown := d.shown ++ .prompt :: Session.questions c ++
          (Session.refresh (d.session.execute svc c answer d.world).1).shown
        taken := d.taken ++ used
        ahead := rest } := by
  simp [after, carryOut, Session.turn]

section

variable {d : Dialogue σ} {line answer : String} {x : RuleId} {flaw : Text.Utf8.Flaw}

theorem round_of_nil (svc : Service σ) (h : d.ahead = []) :
    d.round svc = .ended (d.close (Session.closing .endOfInput)) none := by
  simp [round, tell, close, h, divide, Session.closing]

theorem round_of_error (svc : Service σ) (h : d.ahead = .error flaw :: rest) :
    d.round svc = .ended (d.close (Session.closing (.unreadable flaw))) (some flaw) := by
  simp [round, tell, take, close, h, divide, Session.closing]

theorem round_of_quit (svc : Service σ) (h : d.ahead = .ok line :: rest)
    (hquit : Command.parse line = .ok .quit) :
    d.round svc = .ended (d.close (Session.closing .quit)) none := by
  simp [round, tell, take, close, h, hquit, obey, divide_of_quit, Session.closing]

theorem round_of_unreadable (svc : Service σ) (h : d.ahead = .ok line :: .error flaw :: rest)
    (hx : Command.parse line = .ok (.delete x)) :
    d.round svc = .ended (d.close (Session.closing (.unreadableAnswer x flaw))) (some flaw) := by
  simp [round, tell, take, close, h, hx, obey, divide_of_unreadable hx, Session.closing]

theorem round_of_answered (svc : Service σ) (h : d.ahead = .ok line :: .ok answer :: rest)
    (hx : Command.parse line = .ok (.delete x)) :
    d.round svc = .next (d.after svc ⟨.ok (.delete x), answer⟩
      [.command (.ok line), .answer (.ok answer)] rest) := by
  simp [round, tell, take, h, hx, obey, after_command, carryOut, Session.questions]

theorem round_of_unanswered (svc : Service σ) (h : d.ahead = [.ok line])
    (hx : Command.parse line = .ok (.delete x)) :
    d.round svc = .next (d.after svc ⟨.ok (.delete x), ""⟩ [.command (.ok line)] []) := by
  simp [round, tell, take, h, hx, obey, after_command, carryOut, Session.questions]

/-- Only two commands do more with the input than to be carried out. -/
theorem obey_of_ne (svc : Service σ) (d : Dialogue σ) {c : Command} (hquit : c ≠ .quit)
    (hdelete : ∀ x, c ≠ .delete x) :
    d.obey svc c = .next (d.carryOut svc c "") ∧ Session.questions c = [] := by
  cases c with
  | quit => exact absurd rfl hquit
  | delete x => exact absurd rfl (hdelete x)
  | _ => exact ⟨rfl, rfl⟩

theorem round_of_command (svc : Service σ) (h : d.ahead = .ok line :: rest)
    (hquit : Command.parse line ≠ .ok .quit)
    (hdelete : ∀ x, Command.parse line ≠ .ok (.delete x)) :
    d.round svc =
      .next (d.after svc ⟨Command.parse line, ""⟩ [.command (.ok line)] rest) := by
  cases hc : Command.parse line with
  | error e => simp [round, tell, take, h, hc, after, Session.turn]
  | ok c =>
    rw [hc] at hquit hdelete
    have hne : ∀ x, c ≠ .delete x := fun x hx => hdelete x (congrArg Except.ok hx)
    have hobey (d : Dialogue σ) := obey_of_ne svc d (fun hc => hquit (congrArg Except.ok hc)) hne
    simp [round, tell, take, h, hc, (hobey _).1, (hobey d).2, after_command, carryOut]

end

theorem goes_round (svc : Service σ) (d : Dialogue σ) : d.Goes svc (d.round svc) := by
  rcases hahead : d.ahead with _ | ⟨flaw | line, rest⟩
  · rw [round_of_nil svc hahead]
    exact .ended (by rw [hahead]; rfl) (by rw [hahead]; rfl)
  · rw [round_of_error svc hahead]
    exact .ended (by rw [hahead]; rfl) (by rw [hahead]; rfl)
  by_cases hquit : Command.parse line = .ok .quit
  · rw [round_of_quit svc hahead hquit]
    exact .ended (by rw [hahead, turns_of_quit hquit]) (by rw [hahead, divide_of_quit hquit]; rfl)
  by_cases hdelete : ∃ x, Command.parse line = .ok (.delete x)
  · obtain ⟨x, hx⟩ := hdelete
    rcases rest with _ | ⟨flaw | answer, rest⟩
    · rw [round_of_unanswered svc hahead hx]
      exact .next (by rw [hahead]; exact .unanswered hx)
        (by rw [hahead, divide_of_unanswered hx])
    · rw [round_of_unreadable svc hahead hx]
      exact .ended (by rw [hahead, turns_of_unreadable hx])
        (by rw [hahead, divide_of_unreadable hx]; rfl)
    · rw [round_of_answered svc hahead hx]
      exact .next (by rw [hahead]; exact .answered hx) (by rw [hahead, divide_of_answered hx])
  · rw [not_exists] at hdelete
    rw [round_of_command svc hahead hquit hdelete]
    exact .next (by rw [hahead]; exact .command hquit hdelete)
      (by rw [hahead, divide_of_command hquit hdelete])

theorem ahead_lt_of_round {svc : Service σ} {d e : Dialogue σ} (h : d.round svc = .next e) :
    e.ahead.length < d.ahead.length := by
  have hgoes := d.goes_round svc
  rw [h] at hgoes
  cases hgoes with
  | next ht hused => exact ht.length_lt

/-- **A dialogue from its first line to its last**, and the flaw that ended it, if one did. -/
def talk (svc : Service σ) (d : Dialogue σ) : Dialogue σ × Option Text.Utf8.Flaw :=
  match h : d.round svc with
  | .ended e flaw? => (e, flaw?)
  | .next e =>
    have : e.ahead.length < d.ahead.length := ahead_lt_of_round h
    talk svc e
termination_by d.ahead.length

/-- **A dialogue is the run of its turns**, and it takes the lines that every dialogue takes. -/
theorem talk_eq (svc : Service σ) (d : Dialogue σ) :
    let r := Session.runTurns svc (turns d.ahead).1 d.session d.world
    d.talk svc =
      (⟨r.1.session, r.2, d.shown ++ r.1.shown ++ Session.closing (turns d.ahead).2,
        d.log ++ r.1.log, d.taken ++ (divide d.ahead).taken, (divide d.ahead).ahead⟩,
        (turns d.ahead).2.flaw?) ∧
    (divide d.ahead).flaw? = (turns d.ahead).2.flaw? := by
  fun_induction talk svc d with
  | case1 d e flaw? h =>
    have hgoes := d.goes_round svc
    rw [h] at hgoes
    cases hgoes with
    | ended hturns hflaw =>
      rw [hturns]
      refine ⟨?_, hflaw⟩
      simp [close, Session.runTurns]
  | case2 d e h hlt ih =>
    have hgoes := d.goes_round svc
    rw [h] at hgoes
    cases hgoes with
    | next ht hused =>
      rw [turns_of_takes ht, hused, putTurn]
      refine ⟨?_, ih.2⟩
      rw [ih.1]
      simp [after, Session.runTurns, Division.behind]

/-- **A session that is run is a dialogue**, from the first prompt to the end. -/
theorem run_eq (svc : Service σ) (s : Session) (lines : List Line) (w : σ) :
    let t := talk svc (first s lines w)
    s.run svc lines w = (⟨t.1.session, t.1.shown, t.1.log⟩, t.2, t.1.world) := by
  rw [(talk_eq svc (first s lines w)).1]
  simp [Session.run, first]

/-- **What a dialogue takes** is a matter of its lines. -/
theorem division_talk (svc : Service σ) (s : Session) (lines : List Line) (w : σ) :
    let t := talk svc (first s lines w)
    Division.mk t.1.taken t.1.ahead t.2 = divide lines := by
  rw [(talk_eq svc (first s lines w)).1, ← (talk_eq svc (first s lines w)).2]
  rfl

end Dialogue

/-- A run depends on its lines through their turns. -/
theorem Session.run_congr {lines lines' : List Line} (h : turns lines = turns lines')
    (svc : Service σ) (s : Session) (w : σ) : s.run svc lines w = s.run svc lines' w := by
  rw [run, run, h]

/-! ### The main result -/

/-- **The input alone decides which lines are commands.** Take any input and two sessions on it,
which may begin with different rules, guarded or not, and with different services:

* both are carried out line by line, as a dialogue;
* the same lines are taken for commands and the same for answers, the same lines are left, and
  if one session ends for a line that cannot be read, so does the other, for the same line;
* lines are taken in their order, and the answers are the lines right behind a command that asks;
* the session ends where the input says so (`Rulebook.Console.Ends`), and nothing that a command
  comes to ends it earlier;
* unless it ended with the input, other lines in the place of those that were left would make
  no difference to anything. -/
theorem input_decides_commands (svc : Service σ) (svc' : Service τ) (s s' : Session) (w : σ)
    (w' : τ) (bytes : List UInt8) :
    let lines := Text.lines bytes
    let (d, flaw?) := Dialogue.talk svc (.first s lines w)
    let (d', flaw?') := Dialogue.talk svc' (.first s' lines w')
    (s.run svc lines w = (⟨d.session, d.shown, d.log⟩, flaw?, d.world) ∧
      s'.run svc' lines w' = (⟨d'.session, d'.shown, d'.log⟩, flaw?', d'.world)) ∧
    (d.taken = d'.taken ∧ d.ahead = d'.ahead ∧ flaw? = flaw?') ∧
    d.taken.map Taken.line ++ d.ahead = lines ∧
    Alternate d.taken ∧
    Ends d.taken d.ahead flaw? ∧
    ((∃ u ∈ d.taken, ¬u.GoesOn) → ∀ more,
      s.run svc (d.taken.map Taken.line ++ more) w = s.run svc lines w) := by
  intro lines
  have hdiv := Dialogue.division_talk svc s lines w
  have hdiv' := Dialogue.division_talk svc' s' lines w'
  obtain ⟨htaken, hahead, hflaw⟩ := Division.mk.inj (hdiv.trans hdiv'.symm)
  refine ⟨⟨Dialogue.run_eq svc s lines w, Dialogue.run_eq svc' s' lines w'⟩,
    ⟨htaken, hahead, hflaw⟩, ?_⟩
  -- what is left to show is about the lines alone
  have horder := taken_append_ahead lines
  have halternate := alternate_divide lines
  have hends := ends_divide lines
  have hcongr := turns_of_not_goesOn lines
  rw [← hdiv] at horder halternate hends hcongr
  exact ⟨horder, halternate, hends, fun h more => Session.run_congr (hcongr more h) svc s w⟩

end Rulebook.Console
