import Rulebook.Store.Basic

/-!
# Editing a rule

An editor holds at most one draft, for one rule. Opening another draft discards
the one before it without a question. A draft may be blank as long as it is not
saved; saving a blank draft is refused, and the refusal is remembered until the
draft is no longer blank, or is given up.

A draft is only given up by saving when the service has taken it: after a failure
the editor is as it was before.
-/

namespace Rulebook

/-- A draft of the text of a rule. -/
structure Draft where
  rule : RuleId
  text : String
  deriving DecidableEq

/-- The draft that is open, if any, and why saving it was refused. -/
structure Editor where
  draft? : Option Draft
  refusal? : Option Failure
  deriving DecidableEq

namespace Editor

/-- An editor without a draft. -/
def idle : Editor := ⟨none, none⟩

/-- Opens a draft for a rule. -/
def edit (_ : Editor) (rule : RuleId) (text : String) : Editor := ⟨some ⟨rule, text⟩, none⟩

/-- Changes the text of the draft. -/
def write (e : Editor) (text : String) : Editor × Except Failure Unit :=
  match e.draft? with
  | none => (e, .error .noActiveEdit)
  | some d =>
    let refusal? := if Text.blank text then e.refusal? else none
    (⟨some { d with text }, refusal?⟩, .ok ())

/-- Gives up the draft. -/
def cancel (_ : Editor) : Editor := idle

/-- The rule whose draft is open. -/
def rule? (e : Editor) : Option RuleId := e.draft?.map (·.rule)

/-- Whether the open draft belongs to a rule. -/
def isEditing (e : Editor) (id : RuleId) : Bool := e.rule? == some id

/-- What the store has to do for the draft to be saved, or why it cannot be. -/
def submission (e : Editor) : Editor × Except Failure Draft :=
  match e.draft? with
  | none => (e, .error .noActiveEdit)
  | some d =>
    match checkRuleText d.text with
    | .error failure => ({ e with refusal? := some failure }, .error failure)
    | .ok () => (e, .ok d)

/-- The editor and the step of the store after an attempt to save. -/
structure Saved where
  editor : Editor
  step : Step RuleId

/-- Ends the saving of a draft with what the store made of the reply. -/
def conclude (e : Editor) (d : Draft) (step : Step Confirmed) : Saved :=
  match step.result with
  | .error failure => ⟨e, ⟨step.store, .error failure, step.log⟩⟩
  | .ok _ => ⟨idle, ⟨step.store, .ok d.rule, step.log⟩⟩

/-- The editor has no say in what becomes of the store. -/
@[simp] theorem conclude_store (e : Editor) (d : Draft) (step : Step Confirmed) :
    (e.conclude d step).step.store = step.store := by
  rw [conclude]
  split
  · rfl
  · rfl

/-- Saves the draft with a service. -/
def save {σ : Type} (svc : Service σ) (e : Editor) (s : Store) (w : σ) : Saved × σ :=
  match e.submission with
  | (e, .error failure) => (⟨e, ⟨s, .error failure, []⟩⟩, w)
  | (e, .ok d) =>
    let (step, w) := s.perform svc (.update d.rule d.text) w
    (e.conclude d step, w)

end Editor

end Rulebook
