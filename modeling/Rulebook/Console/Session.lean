import Rulebook.Console.Command
import Rulebook.Console.Message
import Rulebook.Editor
import Rulebook.Text.Lines
import Rulebook.Trial

/-!
# A session at the console

In a session the user types commands line by line and sees what they do. The
session shows the rules that were last published at the beginning, and again after
every command with which a snapshot was published.

## Turns

Which lines are commands does not depend on what the commands do: the only line
that is not a command is the one after `delete`, which answers the question whether
the rule is really to be deleted. So the lines are first divided into turns
(`Rulebook.Console.turns`), a command and, where it asks a question, the answer; and
then the turns are carried out one after the other (`Rulebook.Console.Session.run`).
The last turn is followed by the reason why there is none after it: the user left,
the input ended, or a line could not be read.
-/

namespace Rulebook.Console

open Text (Line)

/-! ### Turns -/

/-- A command, or why the line is none, and the answer to the question that the
command asks; an answer that was not given is empty. -/
structure Turn where
  command : Except CommandError Command
  answer : String

/-- Why there is no further turn. -/
inductive Close where
  | quit
  | endOfInput
  /-- The line is no text. -/
  | unreadable (flaw : Text.Utf8.Flaw)
  /-- The answer to the question about a rule is no text. -/
  | unreadableAnswer (id : RuleId) (flaw : Text.Utf8.Flaw)

/-- Why the last line could not be read, if that is what ended the turns. -/
def Close.flaw? : Close → Option Text.Utf8.Flaw
  | unreadable flaw => some flaw
  | unreadableAnswer _ flaw => some flaw
  | _ => none

/-- Puts a turn before others. -/
def putTurn (t : Turn) (rest : List Turn × Close) : List Turn × Close := (t :: rest.1, rest.2)

/-- The turns in the lines of an input, and why they end. -/
def turns : List Line → List Turn × Close
  | [] => ([], .endOfInput)
  | .error flaw :: _ => ([], .unreadable flaw)
  | .ok line :: lines =>
    match Command.parse line with
    | .ok .quit => ([], .quit)
    | .ok (.delete id) =>
      match lines with
      | [] => ([⟨.ok (.delete id), ""⟩], .endOfInput)
      | .error flaw :: _ => ([], .unreadableAnswer id flaw)
      | .ok answer :: lines => putTurn ⟨.ok (.delete id), answer⟩ (turns lines)
    | command => putTurn ⟨command, ""⟩ (turns lines)

/-- Takes the next line as the answer to a question, and says whether it means yes;
where the input has ended, the answer is no. -/
def takeAnswer : List Line → Except Text.Utf8.Flaw Bool × List Line
  | [] => (.ok (isYes ""), [])
  | line :: lines => (line.map isYes, lines)

/-! ### What is shown -/

/-- Something that the session writes. -/
inductive Shown where
  /-- The sign that a command is expected. -/
  | prompt
  /-- The question whether a rule is to be deleted. -/
  | question (id : RuleId)
  | table (rules : List Rule) (editing? : Option RuleId)
  | message (text : String)

/-- The text that is written; a table and a message end their line. -/
def Shown.text : Shown → String
  | prompt => "> "
  | question id => deleteQuestion id
  | table rules editing? => Console.table rules editing? ++ "\n"
  | message text => text ++ "\n"

/-- The text of several things that are written. -/
def shownText (shown : List Shown) : String := String.join (shown.map Shown.text)

/-! ### Commands in a session -/

/-- What a session works on, and the number of snapshots of the store that it has
shown or need not show. -/
structure Session where
  store : Store
  editor : Editor
  trial : Trial
  seen : Nat

/-- A session after a command, what the command showed, and what it wrote to the
journal. -/
structure Executed where
  session : Session
  shown : List Shown
  log : List Event

namespace Session

/-- A session that begins with a store. -/
def of (s : Store) : Session := ⟨s, .idle, .empty, s.published⟩

/-- Says something without changing anything. -/
def say (s : Session) (text : String) : Executed := ⟨s, [.message text], []⟩

/-- The table of the rules as they are now. -/
def tableNow (s : Session) : Shown := .table s.store.rules s.editor.rule?

/-- The table of the rules as they were last published. -/
def tablePublished (s : Session) : Shown := .table s.store.snapshot s.editor.rule?

/-- Carries out an operation on the collection. -/
def request {σ : Type} (svc : Service σ) (s : Session) (r : Request) (w : σ) : Executed × σ :=
  let (step, w) := s.store.perform svc r w
  let text := match step.result with
    | .ok c => confirmation c
    | .error failure => notice failure
  (⟨{ s with store := step.store }, [.message text], step.log⟩, w)

/-- Deletes a rule, and lets go of it where it was being edited or selected. -/
def delete {σ : Type} (svc : Service σ) (s : Session) (id : RuleId) (w : σ) : Executed × σ :=
  let (step, w) := s.store.perform svc (.delete id) w
  match step.result with
  | .error failure => (⟨{ s with store := step.store }, [.message (notice failure)], step.log⟩, w)
  | .ok c =>
    let editor := if s.editor.isEditing id then s.editor.cancel else s.editor
    let trial := if s.trial.selected? = some id then s.trial.unselect else s.trial
    (⟨{ s with store := step.store, editor, trial }, [.message (confirmation c)], step.log⟩, w)

/-- Opens a draft for a rule. -/
def edit (s : Session) (id : RuleId) : Executed :=
  match s.store.get? id with
  | some r =>
    ⟨{ s with editor := s.editor.edit id r.text },
      [.message s!"正在编辑规则 {id.text}: {r.text}"], []⟩
  | none => s.say (notice (.ruleNotFound id))

/-- Changes the text of the draft. -/
def write (s : Session) (text : String) : Executed :=
  match s.editor.write text with
  | (editor, .ok ()) => say { s with editor } "草稿已更新，输入 save 保存"
  | (editor, .error failure) => say { s with editor } (notice failure)

/-- Saves the draft. -/
def save {σ : Type} (svc : Service σ) (s : Session) (w : σ) : Executed × σ :=
  let (saved, w) := s.editor.save svc s.store w
  let text := match saved.step.result with
    | .ok id => s!"已保存规则: {id.text}"
    | .error failure => notice failure
  (⟨{ s with store := saved.step.store, editor := saved.editor }, [.message text],
    saved.step.log⟩, w)

/-- Evaluates the selected rule. -/
def eval {σ : Type} (svc : Service σ) (s : Session) (w : σ) : Executed × σ :=
  let (e, w) := s.trial.submit svc s.store w
  let text := match e.result with
    | .ok o => outcome o
    | .error failure => notice failure
  (⟨{ s with trial := e.trial }, [.message text], e.log⟩, w)

/-- Carries out a command; the answer is the one to the question that the command
asks. -/
def execute {σ : Type} (svc : Service σ) (s : Session) (c : Command) (answer : String) (w : σ) :
    Executed × σ :=
  match c with
  | .empty => (⟨s, [], []⟩, w)
  | .quit => (⟨s, [], []⟩, w)
  | .help => (s.say helpText, w)
  | .list => (⟨s, [s.tableNow], []⟩, w)
  | .add text => s.request svc (.create text) w
  | .edit id => (s.edit id, w)
  | .draft text => (s.write text, w)
  | .save => s.save svc w
  | .cancel => (say { s with editor := s.editor.cancel } "已放弃编辑", w)
  | .toggle id => s.request svc (.toggle id) w
  | .delete id => if isYes answer then s.delete svc id w else (s.say deleteCancelled, w)
  | .select id =>
    (say { s with trial := s.trial.select id } s!"已选择规则: {id.text}", w)
  | .data text => (say { s with trial := s.trial.setData text } "用户数据已更新", w)
  | .eval => s.eval svc w
  | .combine ids => s.request svc (.combine ids) w
  | .reload => s.request svc .load w

/-- Shows the table if a snapshot was published that has not been shown. -/
def refresh (e : Executed) : Executed :=
  if e.session.store.published = e.session.seen then e
  else
    ⟨{ e.session with seen := e.session.store.published }, e.shown ++ [e.session.tablePublished],
      e.log⟩

/-- The question that a command asks. -/
def questions : Command → List Shown
  | .delete id => [.question id]
  | _ => []

/-- Carries out a turn. -/
def turn {σ : Type} (svc : Service σ) (s : Session) (t : Turn) (w : σ) : Executed × σ :=
  match t.command with
  | .error e => (⟨s, [.prompt, .message s!"错误: {e.message}"], []⟩, w)
  | .ok c =>
    let (e, w) := s.execute svc c t.answer w
    let e := refresh e
    (⟨e.session, .prompt :: questions c ++ e.shown, e.log⟩, w)

/-- Carries out turns one after the other. -/
def runTurns {σ : Type} (svc : Service σ) : List Turn → Session → σ → Executed × σ
  | [], s, w => (⟨s, [], []⟩, w)
  | t :: ts, s, w =>
    let (e, w) := s.turn svc t w
    let (rest, w) := runTurns svc ts e.session w
    (⟨rest.session, e.shown ++ rest.shown, e.log ++ rest.log⟩, w)

/-- What is shown in front of a command that does not come. -/
def closing : Close → List Shown
  | .unreadableAnswer id _ => [.prompt, .question id]
  | _ => [.prompt]

/-- What a session shows before the first command. -/
def opening (s : Session) : List Shown :=
  [.table s.store.snapshot none, .message "输入 help 查看可用命令"]

/-- A whole session on the lines of an input, and the flaw that ended it, if one
did. -/
def run {σ : Type} (svc : Service σ) (s : Session) (lines : List Line) (w : σ) :
    Executed × Option Text.Utf8.Flaw × σ :=
  let (ts, close) := turns lines
  let (e, w) := runTurns svc ts s w
  (⟨e.session, s.opening ++ e.shown ++ closing close, e.log⟩, close.flaw?, w)

end Session

end Rulebook.Console
