import Rulebook.Console.Session
import Rulebook.Retry

/-!
# Commands given one at a time

A runner first loads the rules, trying again as its policy allows, and then carries
out one command. What a command writes goes to the output; if it fails, the reasons
are reported from the outermost to the innermost.
-/

namespace Rulebook

/-! ### Reports -/

/-- Why a command failed: what the user is told first, and what was behind it. -/
structure Report where
  reasons : List String
  deriving DecidableEq

/-- The report of a failure. -/
def Report.ofFailure (f : Failure) : Report := ⟨[f.notice, f.message]⟩

/-- The report of a line that could not be read, in the context of a task. -/
def Report.ofFlaw (context : String) (flaw : Text.Utf8.Flaw) : Report := ⟨[context, flaw.message]⟩

/-- A text whose lines stand behind margins, the first line behind one of its own. -/
def indented (first others text : String) : String :=
  let lines := (text.toList.splitOn '\n').map String.ofList
  first ++ String.intercalate ("\n" ++ others) lines

/-- A number at the right end of five places. -/
def inFivePlaces (n : Nat) : String :=
  let digits := toString n
  String.ofList (List.replicate (5 - digits.length) ' ') ++ digits

/-- What was behind the first reason, as it is shown. One reason stands alone, several
are numbered. -/
def Report.shownCauses : List String → String
  | [] => ""
  | [cause] => "\n\nCaused by:\n" ++ indented "    " "    " cause
  | causes =>
    "\n\nCaused by:" ++ String.join (causes.zipIdx.map fun (cause, n) =>
      "\n" ++ indented (inFivePlaces n ++ ": ") "       " cause)

/-- A report as it is shown. -/
def Report.text (r : Report) : String :=
  "Error: " ++ r.reasons.headD "" ++ shownCauses (r.reasons.drop 1) ++ "\n"

/-! ### Loading -/

namespace Runner

/-- Loading the rules, as an operation that can be tried again. -/
def loading {σ : Type} (svc : Service σ) : Retry.Operation (Store × σ) Failure Confirmed :=
  { name := Rulebook.Operation.loadRules.name
    attempt := fun (s, w) =>
      let (step, w) := s.perform svc .load w
      (step.result, step.log, (step.store, w))
    retryable := Failure.retryable
    shown := Failure.message }

/-- Loads the rules as a policy allows. -/
def load {σ : Type} (svc : Service σ) (p : Backoff) (s : Store) (w : σ) :
    Retry.Outcome (Store × σ) Failure Confirmed :=
  Retry.run p (loading svc) (s, w)

/-! ### Commands -/

/-- A command that is given as a whole. -/
inductive Task where
  | list
  | create (text : String)
  | delete (id : RuleId) (confirmed : Bool)
  | toggle (id : RuleId)
  | update (id : RuleId) (text : String)
  | evaluate (id : RuleId) (data : String)
  | combine (ids : List RuleId)
  | shell
  deriving DecidableEq

/-- What a command did: the store after it, what it wrote, whether it succeeded, and
its part of the journal. -/
structure Ran where
  store : Store
  output : String
  result : Except Report Unit
  log : List Event

/-- Writes a line and changes nothing. -/
def written (s : Store) (line : String) : Ran := ⟨s, line ++ "\n", .ok (), []⟩

/-- Carries out an operation on the collection and writes what it came to, after
`before`. -/
def request {σ : Type} (svc : Service σ) (before : String) (s : Store) (r : Request) (w : σ) :
    Ran × σ :=
  let (step, w) := s.perform svc r w
  match step.result with
  | .ok c => (⟨step.store, before ++ Console.confirmation c ++ "\n", .ok (), step.log⟩, w)
  | .error failure => (⟨step.store, before, .error (.ofFailure failure), step.log⟩, w)

/-- Deletes a rule, after asking for the user's consent. -/
def askAndDelete {σ : Type} (svc : Service σ) (s : Store) (id : RuleId) (input : List Text.Line)
    (w : σ) : Ran × σ :=
  let question := Console.deleteQuestion id
  match (Console.takeAnswer input).1 with
  | .error flaw => (⟨s, question, .error (.ofFlaw "读取确认输入失败" flaw), []⟩, w)
  | .ok false => (⟨s, question ++ Console.deleteCancelled ++ "\n", .ok (), []⟩, w)
  | .ok true => request svc question s (.delete id) w

/-- Evaluates a rule. -/
def evaluate {σ : Type} (svc : Service σ) (s : Store) (id : RuleId) (data : String) (w : σ) :
    Ran × σ :=
  let (e, w) := Trial.empty.evaluate svc s (some id) data w
  match e.result with
  | .ok o => (⟨s, Console.outcome o ++ "\n", .ok (), e.log⟩, w)
  | .error failure => (⟨s, "", .error (.ofFailure failure), e.log⟩, w)

/-- Opens a session. -/
def session {σ : Type} (svc : Service σ) (s : Store) (input : List Text.Line) (w : σ) : Ran × σ :=
  let (e, flaw?, w) := (Console.Session.of s).run svc input w
  let result := match flaw? with
    | none => .ok ()
    | some flaw => .error (.ofFlaw "交互式会话异常退出" flaw)
  (⟨e.session.store, Console.shownText e.shown, result, e.log⟩, w)

/-- Carries out a command on the rules that were loaded. -/
def run {σ : Type} (svc : Service σ) (s : Store) (task : Task) (input : List Text.Line) (w : σ) :
    Ran × σ :=
  match task with
  | .list => (written s (Console.table s.rules none), w)
  | .create text => request svc "" s (.create text) w
  | .delete id true => request svc "" s (.delete id) w
  | .delete id false => askAndDelete svc s id input w
  | .toggle id => request svc "" s (.toggle id) w
  | .update id text => request svc "" s (.update id text) w
  | .evaluate id data => evaluate svc s id data w
  | .combine ids => request svc "" s (.combine ids) w
  | .shell => session svc s input w

/-- Loads the rules and carries out a command; the command is not begun if the rules
cannot be loaded. -/
def loadAndRun {σ : Type} (svc : Service σ) (p : Backoff) (s : Store) (task : Task)
    (input : List Text.Line) (w : σ) : Ran × σ :=
  let loaded := load svc p s w
  let (s, w) := loaded.state
  match loaded.result with
  | .error failure => (⟨s, "", .error (.ofFailure failure), loaded.log⟩, w)
  | .ok _ =>
    let (ran, w) := run svc s task input w
    ({ ran with log := loaded.log ++ ran.log }, w)

end Runner

end Rulebook
