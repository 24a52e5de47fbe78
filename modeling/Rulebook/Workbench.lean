import Rulebook.Editor
import Rulebook.Trial

/-!
# A store in use

A workbench is a store together with everything that works on it at the same time:
an editor, a trial, errands that wait for the reply to their call, each under a
name, and a subscriber who looks now and then whether a new snapshot was
published.

Everything that can happen is a `Rulebook.Move`, and `Rulebook.Workbench.step` says
what it does, so that a history is a list of moves. What asks the service can be done
in two ways: in one go, with the reply that the service gives, or by starting an
errand (`Rulebook.Errand`), which has made its call and waits until it is finished or
abandoned.

The store, the editor and the trial can be used freely while errands of theirs wait. A
caller who lets nobody at the editor while its draft is being saved, or at the trial
while it evaluates, goes through some of these histories only.
-/

namespace Rulebook

/-- Something that is done at a workbench. -/
inductive Move where
  | perform (request : Request)
  | edit (id : RuleId) (text : String)
  | write (text : String)
  | cancel
  | save
  | select (id : RuleId)
  | unselect
  | setData (text : String)
  | submit
  | evaluate (id? : Option RuleId) (text : String)
  | start (task : String) (request : Request)
  | startSave (task : String)
  | startSubmit (task : String)
  | startEvaluate (task : String) (id? : Option RuleId) (text : String)
  | finish (task : String) (reply : Reply)
  | abandon (task : String)

/-- Something that has asked the service and waits for the reply. -/
inductive Errand where
  | request (request : Request)
  /-- The draft of the editor is being saved. -/
  | saving (draft : Draft)
  | evaluation (evaluation : Evaluation)

namespace Errand

/-- The operation of the store that waits with an errand. An evaluation is none. -/
def request? : Errand → Option Request
  | request r => some r
  | saving d => some (.update d.rule d.text)
  | evaluation _ => none

/-- The call that an errand has made. -/
def call : Errand → Call
  | request r => r.call
  | saving d => .updateRule d.rule d.text
  | evaluation e => .evaluateRule e

end Errand

/-- What a move comes to. -/
inductive Effect where
  | nothing
  | performed (result : Except Failure Confirmed)
  | written (result : Except Failure Unit)
  | saved (result : Except Failure RuleId)
  | evaluated (result : Except Failure Outcome)
  /-- The errand waits for the reply to its call. -/
  | waiting
  /-- No errand of that name is waiting. -/
  | notWaiting
  /-- An errand was abandoned, if one of that name was waiting. -/
  | abandoned (found : Bool)

/-- A store and what works on it. -/
structure Workbench where
  store : Store
  editor : Editor
  trial : Trial
  waiting : List (String × Errand)
  /-- The number of snapshots that were published when the subscriber last
  looked. -/
  seen : Nat

namespace Workbench

/-- A workbench with an empty store. -/
def empty (guarded : Bool) : Workbench := ⟨.empty guarded, .idle, .empty, [], 0⟩

/-- The errand that waits under a name. -/
def task? (b : Workbench) (task : String) : Option Errand :=
  (b.waiting.find? (·.1 == task)).map (·.2)

/-- No errand waits under a name any more. -/
def forget (b : Workbench) (task : String) : Workbench :=
  { b with waiting := b.waiting.filter (·.1 != task) }

/-- Abandons the errand that waits under a name. -/
def abandon (b : Workbench) (task : String) : Workbench :=
  match (b.task? task).bind Errand.request? with
  | some r => { b.forget task with store := b.store.abandon r }
  | none => b.forget task

/-- A workbench after a move, what the move came to, and what it wrote to the
journal. -/
structure Moved where
  bench : Workbench
  effect : Effect
  log : List Event

/-- Makes the call of an errand that will wait under a name. What waited there before is
abandoned. -/
def launch {σ : Type} (svc : Service σ) (b : Workbench) (task : String) (e : Errand) (w : σ) :
    Moved × σ :=
  let b := b.abandon task
  (⟨{ b with waiting := b.waiting ++ [(task, e)] }, .waiting, []⟩, (svc.ask e.call w).2)

/-- Starts an operation of the store. -/
def start {σ : Type} (svc : Service σ) (b : Workbench) (task : String) (r : Request) (w : σ) :
    Moved × σ :=
  let step := b.store.start r
  let b := { b with store := step.store }
  match step.result with
  | .error failure => (⟨b, .performed (.error failure), step.log⟩, w)
  | .ok _ => launch svc b task (.request r) w

/-- Starts saving the draft of the editor. -/
def startSave {σ : Type} (svc : Service σ) (b : Workbench) (task : String) (w : σ) : Moved × σ :=
  match b.editor.submission with
  | (e, .error failure) => (⟨{ b with editor := e }, .saved (.error failure), []⟩, w)
  | (e, .ok d) =>
    let step := b.store.start (.update d.rule d.text)
    let b := { b with editor := e, store := step.store }
    match step.result with
    | .error failure => (⟨b, .saved (.error failure), step.log⟩, w)
    | .ok _ => launch svc b task (.saving d) w

/-- Starts an evaluation. -/
def startEvaluate {σ : Type} (svc : Service σ) (b : Workbench) (task : String)
    (id? : Option RuleId) (text : String) (w : σ) : Moved × σ :=
  match Trial.prepare b.store id? text with
  | .error failure => (⟨b, .evaluated (.error failure), []⟩, w)
  | .ok e => launch svc b task (.evaluation e) w

/-- Ends an errand that waits under a name with the reply to its call. -/
def finish (b : Workbench) (task : String) (e : Errand) (reply : Reply) : Moved :=
  let rest := b.forget task
  match e with
  | .request r =>
    let step := b.store.finish r reply
    ⟨{ rest with store := step.store }, .performed step.result, step.log⟩
  | .saving d =>
    let saved := b.editor.conclude d (b.store.finish (.update d.rule d.text) reply)
    ⟨{ rest with store := saved.step.store, editor := saved.editor }, .saved saved.step.result,
      saved.step.log⟩
  | .evaluation e =>
    let ended := b.trial.conclude e reply
    ⟨{ rest with trial := ended.trial }, .evaluated ended.result, ended.log⟩

/-- What a move does. -/
def step {σ : Type} (svc : Service σ) (b : Workbench) (m : Move) (w : σ) : Moved × σ :=
  match m with
  | .perform r =>
    let (s, w) := b.store.perform svc r w
    (⟨{ b with store := s.store }, .performed s.result, s.log⟩, w)
  | .edit id text => (⟨{ b with editor := b.editor.edit id text }, .nothing, []⟩, w)
  | .write text =>
    let (e, result) := b.editor.write text
    (⟨{ b with editor := e }, .written result, []⟩, w)
  | .cancel => (⟨{ b with editor := b.editor.cancel }, .nothing, []⟩, w)
  | .save =>
    let (saved, w) := b.editor.save svc b.store w
    (⟨{ b with store := saved.step.store, editor := saved.editor }, .saved saved.step.result,
      saved.step.log⟩, w)
  | .select id => (⟨{ b with trial := b.trial.select id }, .nothing, []⟩, w)
  | .unselect => (⟨{ b with trial := b.trial.unselect }, .nothing, []⟩, w)
  | .setData text => (⟨{ b with trial := b.trial.setData text }, .nothing, []⟩, w)
  | .submit =>
    let (e, w) := b.trial.submit svc b.store w
    (⟨{ b with trial := e.trial }, .evaluated e.result, e.log⟩, w)
  | .evaluate id? text =>
    let (e, w) := b.trial.evaluate svc b.store id? text w
    (⟨{ b with trial := e.trial }, .evaluated e.result, e.log⟩, w)
  | .start task r => start svc b task r w
  | .startSave task => startSave svc b task w
  | .startSubmit task => startEvaluate svc b task b.trial.selected? b.trial.data w
  | .startEvaluate task id? text => startEvaluate svc b task id? text w
  | .finish task reply =>
    match b.task? task with
    | none => (⟨b, .notWaiting, []⟩, w)
    | some e => (b.finish task e reply, w)
  | .abandon task => (⟨b.abandon task, .abandoned (b.task? task).isSome, []⟩, w)

/-- What the subscriber finds when it looks: the snapshot, if it was published since
it last looked. -/
def look (b : Workbench) : Option (List Rule) × Workbench :=
  (if b.store.published ≠ b.seen then some b.store.snapshot else none,
    { b with seen := b.store.published })

end Workbench

end Rulebook
