import Rulebook.Evaluation
import Rulebook.Failure

/-!
# The rule service

The rules live with a remote service, which is asked in seven ways
(`Rulebook.Call`) and replies with an answer or with what went wrong
(`Rulebook.Reply`). What stands behind it is left open: a `Rulebook.Service` is any
way to get replies that may depend on, and change, a state. The library is written
against this type, so what is proved of it holds of every service, of one that loses
requests and of one that answers nonsense.

`Rulebook.Rehearsal` is a service whose replies are laid out in advance and which
keeps the calls that were made.
-/

namespace Rulebook

/-! ### Calls and replies -/

/-- What the service is asked. -/
inductive Call where
  | listRules
  | createRule (text : String)
  | deleteRule (id : RuleId)
  | toggleStatus (id : RuleId)
  | updateRule (id : RuleId) (text : String)
  | evaluateRule (evaluation : Evaluation)
  | combineRules (ids : List RuleId)

/-- The operation that a call belongs to. -/
def Call.operation : Call → Operation
  | listRules => .loadRules
  | createRule _ => .createRule
  | deleteRule _ => .deleteRule
  | toggleStatus _ => .toggleStatus
  | updateRule _ _ => .updateRule
  | evaluateRule _ => .evaluateRule
  | combineRules _ => .combineRules

/-- A call that went wrong. -/
def Call.failed (c : Call) (fault : Fault) : CallFailure := ⟨c.operation, fault⟩

/-- What the service answers when it did what it was asked. -/
inductive Answer where
  | rules (listed : List Rule)
  | rule (created : Rule)
  | done
  | status (enabled : Bool)
  | outcome (outcome : Outcome)
  | value (tree : Json.Value)

/-- An answer, or the reason why there is none, which names the operation that went
wrong. -/
abbrev Reply := Except CallFailure Answer

/-- The failure of an operation whose answer is of another kind than its call asks
for. -/
def CallFailure.wrongReply (operation : Operation) : CallFailure :=
  ⟨operation, .transport "wrong reply"⟩

/-- A way to get replies. -/
structure Service (σ : Type) where
  ask : Call → σ → Reply × σ

/-! ### Rehearsals -/

/-- What is still to be replied, and the calls made so far. A call that goes wrong is
reported under its own operation. -/
structure Rehearsal where
  replies : List (Except Fault Answer)
  calls : List Call

namespace Rehearsal

/-- A rehearsal before the first call. -/
def of (replies : List (Except Fault Answer)) : Rehearsal := ⟨replies, []⟩

/-- Gives the next reply; when there is none left, the call fails. -/
def next (call : Call) (r : Rehearsal) : Reply × Rehearsal :=
  match r.replies with
  | [] => (.error (call.failed (.transport "no reply")), ⟨[], r.calls ++ [call]⟩)
  | reply :: rest => (reply.mapError call.failed, ⟨rest, r.calls ++ [call]⟩)

/-- The service of a rehearsal. -/
def service : Service Rehearsal := ⟨next⟩

end Rehearsal

end Rulebook
