import Rulebook.Store.Basic
import Rulebook.UserData

/-!
# Trying out a rule

A trial holds what the user has chosen for an evaluation, a rule and the text of
the user data, and the outcome of the last evaluation that succeeded. Nothing is
sent unless a rule is chosen, there is some text, the rule is in the collection
and the text is JSON; these are checked in that order. An evaluation never changes
the collection.
-/

namespace Rulebook

/-- The rule and the user data that are chosen, and the last outcome. -/
structure Trial where
  selected? : Option RuleId
  data : String
  outcome? : Option Outcome
  deriving Inhabited

namespace Trial

/-- Nothing is chosen, and there has been no evaluation. -/
def empty : Trial := ⟨none, "", none⟩

/-- Chooses a rule. -/
def select (t : Trial) (id : RuleId) : Trial := { t with selected? := some id }

/-- Takes the choice of a rule back. -/
def unselect (t : Trial) : Trial := { t with selected? := none }

/-- Chooses the user data. -/
def setData (t : Trial) (text : String) : Trial := { t with data := text }

/-- What the service is asked for a rule and a text of user data, or why nothing is
asked. -/
def prepare (s : Store) (id? : Option RuleId) (text : String) : Except Failure Evaluation :=
  match id? with
  | none => .error .missingInput
  | some id =>
    if text = "" then .error .missingInput
    else if s.contains id then (UserData.decode text).map fun data => ⟨id, data⟩
    else .error (.ruleNotFound id)

/-- The outcome in a reply. -/
def outcomeOf (reply : Reply) : Except CallFailure Outcome :=
  match reply with
  | .ok (.outcome o) => .ok o
  | .ok _ => .error (.wrongReply .evaluateRule)
  | .error failure => .error failure

/-- A trial after an evaluation, the outcome, and what was written to the
journal. -/
structure Evaluated where
  trial : Trial
  result : Except Failure Outcome
  log : List Event

/-- Ends an evaluation with the reply of the service. -/
def conclude (t : Trial) (e : Evaluation) (reply : Reply) : Evaluated :=
  match outcomeOf reply with
  | .ok o => ⟨{ t with outcome? := some o }, .ok o, [.ruleEvaluated e.rule o.passed]⟩
  | .error failure => ⟨t, .error (.call failure), [.callFailed failure]⟩

/-- Evaluates a rule on a text of user data. -/
def evaluate {σ : Type} (svc : Service σ) (t : Trial) (s : Store) (id? : Option RuleId)
    (text : String) (w : σ) : Evaluated × σ :=
  match prepare s id? text with
  | .error failure => (⟨t, .error failure, [.finished .evaluation]⟩, w)
  | .ok e =>
    let (reply, w) := svc.ask (.evaluateRule e) w
    let ended := t.conclude e reply
    ({ ended with log := ended.log ++ [.finished .evaluation] }, w)

/-- Evaluates the chosen rule on the chosen data. -/
def submit {σ : Type} (svc : Service σ) (t : Trial) (s : Store) (w : σ) : Evaluated × σ :=
  t.evaluate svc s t.selected? t.data w

end Trial

end Rulebook
