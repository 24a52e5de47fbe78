import Rulebook.Rule

/-!
# Evaluating a rule

A rule is evaluated by the service: the request names the rule and carries the
user data, any JSON value, and the outcome says whether the data satisfy the
rule. All other members of an outcome are kept as *details* to be shown. They
are settled, so each name occurs once and names come in increasing order, and
none of them is called `result`.
-/

namespace Rulebook

open Json

/-- A rule and the data to evaluate it on. -/
structure Evaluation where
  rule : RuleId
  data : Value

/-- What the service found, and what it said about it. -/
structure Outcome where
  passed : Bool
  details : List Member
  deriving DecidableEq, Inhabited

/-- An evaluation as the service receives it. -/
def Evaluation.toJson (e : Evaluation) : Value :=
  .object [("rule_id", e.rule.toJson), ("user_data", e.data)]

namespace Outcome

/-- An outcome as a value: the result first, then the details. -/
def toJson (o : Outcome) : Value := .object (("result", .bool o.passed) :: o.details)

/-- The detail with a given name. -/
def detail? (o : Outcome) (name : String) : Option Value := member? name o.details

/-- The result, if it was there, and the other members of an object, as they are
written; `result` is what has been read of the result before. -/
def readMembersLoop (depth : Nat) :
    Nat → Bool → Option Bool → List Char → Except Stop (Read (Option Bool × List Member))
  | 0, _, _, cs => .error (.here .eofInObject cs)
  | fuel + 1, first, result, cs => do
    match ← nextKey first cs with
    | (none, rest) => .ok ((result, []), rest)
    | (some k, rest) =>
      if k = "result" then
        if result.isSome then .error (objectProblem (.duplicateField "result") rest)
        else
          let (b, rest) ← readFlagItem (← readColon rest)
          readMembersLoop depth fuel false (some b) rest
      else
        let (v, rest) ← readValue depth (← readColon rest)
        let ((result, ms), rest) ← readMembersLoop depth fuel false result rest
        .ok ((result, (k, v) :: ms), rest)

/-- An outcome at the front of a text, where `depth` more levels of nesting are
allowed. -/
def read (depth : Nat) (cs : List Char) : Except Stop (Read Outcome) :=
  match skipSpace cs with
  | '{' :: rest =>
    if depth = 0 then .error (.past .tooDeep ('{' :: rest))
    else do
      let ((result, ms), rest) ← readMembersLoop (depth - 1) (rest.length + 1) true none rest
      match result with
      | none => .error (objectProblem (.missingField "result") rest)
      | some passed =>
        .ok (⟨passed, settleMembers (Value.settledMembers ms)⟩, ← closeObject rest)
  | rest => .error (wrongKindHere "struct EvaluationOutcome" rest)

/-- The outcome that a text says. -/
def parse (text : String) : Except ReadError Outcome := readAll (read maxDepth) text

end Outcome

end Rulebook
