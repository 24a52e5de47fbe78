import Rulebook.Http.Charset
import Rulebook.Service
import Rulebook.Url.Parser

/-!
# Calls over HTTP

Every call to the service is one HTTP request, and what it comes to is said by the
response. This file holds both directions: `Rulebook.Http.requestFor` from a
call to its request, and `Rulebook.Http.replyTo` from a response to the reply.

## Addresses

A rule is addressed by a segment of the path. The empty segment and the two that
stand for a place and the place above it would address something else, so a call on
such a rule is refused before anything is sent. All other identifiers are written
with escapes.

## Responses

Only a status from 200 to 299 is a success. Where the answer is expected in the body
of a success, it is read as JSON; the body of any other response is kept to be
shown.
-/

namespace Rulebook.Http

open Json

/-! ### Requests -/

/-- The methods that are used. -/
inductive Method where
  | get
  | post
  | patch
  | delete
  deriving DecidableEq

/-- The name of a method. -/
def Method.name : Method → String
  | get => "GET"
  | post => "POST"
  | patch => "PATCH"
  | delete => "DELETE"

/-- A request; a body is always JSON. -/
structure Request where
  method : Method
  url : Url
  body? : Option Value

/-- The content type of a request with a body. -/
def jsonType : String := "application/json"

/-- The text of the body. -/
def Request.text? (r : Request) : Option String := r.body?.map Value.compact

/-- The address below a base that the segments name, unless one of them would name
something else. -/
def endpoint (base : Url) (names : List String) : Except Fault Url :=
  match names.find? fun s => s == "" || s == "." || s == ".." with
  | some name => .error (.unroutable s!"路径段无法作为资源地址: {Text.quoted name}")
  | none => .ok (base.extend names)

/-- Method, segments and body of a call. -/
def route : Call → Method × List String × Option Value
  | .listRules => (.get, ["rules"], none)
  | .createRule text => (.post, ["create_rule"], some (.object [("rule_string", .string text)]))
  | .deleteRule id => (.delete, ["rules", id.text], none)
  | .toggleStatus id => (.patch, ["rules", id.text, "toggle_status"], none)
  | .updateRule id text =>
    (.patch, ["rules", id.text, "update"], some (.object [("rule_string", .string text)]))
  | .evaluateRule e => (.post, ["evaluate_rule"], some e.toJson)
  | .combineRules ids =>
    (.post, ["combine_rules"], some (.object [("rule_ids", .array (ids.map RuleId.toJson))]))

/-- The request of a call. -/
def requestFor (base : Url) (c : Call) : Except Fault Request := do
  let (method, names, body?) := route c
  .ok ⟨method, ← endpoint base names, body?⟩

/-! ### Responses -/

/-- A response. Its body may have been cut off before its end. -/
structure Response where
  status : Nat
  contentType : Option String
  body : List UInt8
  complete : Bool

/-- Whether a status says that the request was carried out. -/
def isSuccess (status : Nat) : Bool := 200 ≤ status && status ≤ 299

/-- The text of the body. -/
def Response.text (others : Decoders) (r : Response) : String :=
  readText others r.contentType r.body

/-- The record that answers a switch. -/
def toggleShape : Shape :=
  { name := "struct ToggleStatusResponse", slots := [⟨"new_status", [], .flag, false⟩] }

/-- The record that answers a combination. -/
def combineShape : Shape :=
  { name := "struct CombineRulesResponse", slots := [⟨"combined_ast", [], .anything, false⟩] }

/-- The record that answers a creation without repeating the rule. -/
def acknowledgement : Shape := { name := "", slots := [⟨"rule_id", [], .text, false⟩] }

/-- The new status in the answer to a switch. -/
def readToggle (cs : List Char) : Except Stop (Read Bool) := do
  match ← toggleShape.read maxDepth cs with
  | ([some (.flag b)], rest) => .ok (b, rest)
  | (_, rest) => .error (.here .expectedValue rest)

/-- The tree in the answer to a combination. -/
def readCombined (cs : List Char) : Except Stop (Read Value) := do
  match ← combineShape.read maxDepth cs with
  | ([some (.value v)], rest) => .ok (v.settled, rest)
  | (_, rest) => .error (.here .expectedValue rest)

/-- The identifier in an acknowledgement, which is never written as an array. -/
def acknowledged? : Value → Option RuleId
  | .object ms =>
    match acknowledgement.ofValue? (.object ms) with
    | some [some (.text id)] => some ⟨id⟩
    | _ => none
  | _ => none

/-- The rule in the answer to a creation. The answer may be the rule itself; or it
gives only the identifier, and the rule has the text that was submitted and is
enabled. -/
def createdRule? (submitted : String) (v : Value) : Option Rule :=
  match (Rule.shape.ofValue? v).bind Rule.ofFilled with
  | some rule => some rule
  | none => (acknowledged? v).map fun id => ⟨id, submitted, true⟩

/-- The rule in the answer to a creation. -/
def readCreated (submitted : String) (cs : List Char) : Except Stop (Read Rule) := do
  let (v, rest) ← readValue maxDepth cs
  match createdRule? submitted v with
  | some rule => .ok (rule, rest)
  | none => .error ⟨.noShape "CreateRuleResponse", none⟩

/-- Reads the answer to a call in the body of a success; a call that is not answered
in the body has nothing to read. -/
def readAnswer (c : Call) (body : String) : Except ReadError Answer :=
  match c with
  | .listRules => (Rule.parseList body).map .rules
  | .createRule text => (readAll (readCreated text) body).map .rule
  | .deleteRule _ => .ok .done
  | .toggleStatus _ => (readAll readToggle body).map .status
  | .updateRule _ _ => .ok .done
  | .evaluateRule _ => (Outcome.parse body).map .outcome
  | .combineRules _ => (readAll readCombined body).map .value

/-- Whether the answer to a call is in the body of the response. -/
def answersInBody : Call → Bool
  | .deleteRule _ => false
  | .updateRule _ _ => false
  | _ => true

/-- The reply that a response makes to a call. -/
def replyTo (others : Decoders) (c : Call) (r : Response) : Reply :=
  let text := r.text others
  if ! isSuccess r.status then
    .error (c.failed (.http r.status (if r.complete then text else "")))
  else if ! answersInBody c then .ok .done
  else if ! r.complete then .error (c.failed (.transport "error decoding response body"))
  else (readAnswer c text).mapError fun e => c.failed (.decode r.status e.message text)

end Rulebook.Http
