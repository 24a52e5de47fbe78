import Rulebook.Json.Record
import Rulebook.Text.Blank

/-!
# Rules

A rule is a condition in text form with an identifier and a switch. Identifiers
are given out by the rule service; here they are opaque texts that are only
compared and passed on.

On the wire a rule is the record `_id` (also `id`), `rule_string`, `status`, and a
rule without `status` is enabled. Other members, such as the syntax tree that a
service may store with a rule, are passed over.
-/

namespace Rulebook

/-- The identifier of a rule. -/
structure RuleId where
  text : String
  deriving DecidableEq, Inhabited

/-- A rule as the service holds it. -/
structure Rule where
  id : RuleId
  text : String
  enabled : Bool
  deriving DecidableEq, Inhabited

namespace Rule

open Json

/-! ### On the wire -/

/-- The members of a rule. -/
def shape : Shape :=
  { name := "struct RuleEntity"
    slots := [⟨"_id", ["id"], .text, false⟩, ⟨"rule_string", [], .text, false⟩,
      ⟨"status", [], .flag, true⟩] }

/-- The rule with the given members. -/
def ofFilled : Filled → Option Rule
  | [some (.text id), some (.text text), some (.flag enabled)] => some ⟨⟨id⟩, text, enabled⟩
  | [some (.text id), some (.text text), none] => some ⟨⟨id⟩, text, true⟩
  | _ => none

/-- A rule at the front of a text, where `depth` more levels of nesting are
allowed. -/
def read (depth : Nat) (cs : List Char) : Except Stop (Read Rule) := do
  let (filled, rest) ← shape.read depth cs
  match ofFilled filled with
  | some rule => .ok (rule, rest)
  | none => .error (.here .expectedValue rest)

/-- The rule that a text says. -/
def parse (text : String) : Except ReadError Rule := readAll (read maxDepth) text

/-- A list of rules at the front of a text. -/
def readList (cs : List Char) : Except Stop (Read (List Rule)) :=
  match skipSpace cs with
  | '[' :: rest => do
    let (rules, rest) ← readElements (read (maxDepth - 1)) rest
    .ok (rules, ← closeArray rest)
  | rest => .error (wrongKindHere "a sequence" rest)

/-- The rules that a text lists. -/
def parseList (text : String) : Except ReadError (List Rule) := readAll readList text

/-- The members of a rule as a value. -/
def toJson (r : Rule) : Value :=
  .object [("_id", .string r.id.text), ("rule_string", .string r.text), ("status", .bool r.enabled)]

end Rule

/-! ### Identifiers -/

/-- The identifier that a text says. -/
def RuleId.parse (text : String) : Except Json.ReadError RuleId :=
  (Json.readAll Json.readTextItem text).map RuleId.mk

/-- An identifier as a value. -/
def RuleId.toJson (id : RuleId) : Json.Value := .string id.text

/-! ### Collections -/

/-- The rule with a given identifier. -/
def Rule.find? (id : RuleId) (rules : List Rule) : Option Rule := rules.find? (·.id == id)

/-- Whether a rule with a given identifier is there. -/
def Rule.listed (id : RuleId) (rules : List Rule) : Bool := rules.any (·.id == id)

/-- The first rule of each identifier, in the order of the list. -/
def Rule.firsts (rules : List Rule) : List Rule :=
  rules.foldl (fun kept r => if Rule.listed r.id kept then kept else kept ++ [r]) []

/-- The rules that come after another one with the same identifier, in the order
of the list. -/
def Rule.repeats (rules : List Rule) : List Rule :=
  go [] rules
where
  /-- The repeated rules among those that follow the rules `seen`. -/
  go : List RuleId → List Rule → List Rule
    | _, [] => []
    | seen, r :: rs => if seen.contains r.id then r :: go seen rs else go (r.id :: seen) rs

/-- The list with the first rule of an identifier changed. -/
def Rule.amend (id : RuleId) (change : Rule → Rule) : List Rule → List Rule
  | [] => []
  | r :: rs => if r.id = id then change r :: rs else r :: Rule.amend id change rs

end Rulebook
