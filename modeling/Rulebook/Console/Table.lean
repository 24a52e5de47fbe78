import Rulebook.Rule

/-!
# The table of rules

Rules are shown as a table with a line for the head and one for each rule. Its
column of identifiers is as wide as the longest identifier has bytes, and at least
two; an identifier has at most as many characters as bytes, so it always fits.
-/

namespace Rulebook.Console

/-- The word for an enabled or a disabled rule. -/
def statusLabel (enabled : Bool) : String := if enabled then "启用" else "停用"

/-- The width of the column of identifiers. -/
def idWidth (rules : List Rule) : Nat :=
  rules.foldl (fun w r => max w r.id.text.utf8ByteSize) 2

/-- A text with spaces behind it, so that it has at least `width` characters. -/
def pad (width : Nat) (s : String) : String :=
  String.ofList (s.toList ++ List.replicate (width - s.length) ' ')

/-- A line of the table. -/
def tableLine (width : Nat) (marker id status text : String) : String :=
  marker ++ " " ++ pad width id ++ "  " ++ status ++ "  " ++ text

/-- The line of a rule; the rule that is being edited is marked. -/
def ruleLine (width : Nat) (editing? : Option RuleId) (r : Rule) : String :=
  let marker := if editing? = some r.id then "*" else " "
  tableLine width marker r.id.text (statusLabel r.enabled) r.text

/-- The lines of the table. -/
def tableLines (rules : List Rule) (editing? : Option RuleId) : List String :=
  let width := idWidth rules
  tableLine width " " "ID" "状态" "规则" :: rules.map (ruleLine width editing?)

/-- The table of rules, or a sentence if there are none. -/
def table (rules : List Rule) (editing? : Option RuleId) : String :=
  if rules.isEmpty then "暂无规则" else "\n".intercalate (tableLines rules editing?)

end Rulebook.Console
