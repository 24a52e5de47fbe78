import Rulebook.Binary64.Basic

/-!
# Values of a settings file

A settings file is written in TOML. What it says is a table: names with values,
which may be tables again. Dates and times are kept as texts in their usual form.

While a file is read, a table is built up entry by entry, and it matters how a part
of it came to be there (`Rulebook.Toml.Node`): a table may be opened by a heading
only once, and a name may be given a value only once.
-/

namespace Rulebook.Toml

/-! ### Values -/

/-- A value in a settings file. -/
inductive Value where
  | text (s : String)
  | integer (n : Int)
  | float (x : Binary64)
  | flag (b : Bool)
  | list (items : List Value)
  | table (entries : List (String × Value))
  deriving Inhabited

/-! ### Tables under construction -/

/-- A part of a table under construction. -/
inductive Node where
  /-- A value that was given as a whole. -/
  | leaf (v : Value)
  /-- A table. It is open as long as no heading of its own was read, and dotted if a
  dotted name made it. -/
  | table (isOpen dotted : Bool) (entries : List (String × Node))
  /-- Tables that were added one by one, the last of which can still grow. -/
  | tables (items : List (List (String × Node)))

/-- The entries of a table under construction. -/
abbrev Nodes := List (String × Node)

/-- The entries with the one named `k` replaced, or with a new last one. -/
def put (k : String) (n : Node) (es : Nodes) : Nodes :=
  if es.any (·.1 == k) then es.map fun e => if e.1 == k then (k, n) else e
  else es ++ [(k, n)]

/-- Changes the table at the end of a path of names. Tables that are missing on the
way are made, and of tables that were added one by one the last is entered. -/
def within (f : Nodes → Option Nodes) : List String → Nodes → Option Nodes
  | [], es => f es
  | k :: ks, es =>
    match es.lookup k with
    | none => do some (put k (.table true false (← within f ks [])) es)
    | some (.table o d inner) => do some (put k (.table o d (← within f ks inner)) es)
    | some (.tables items) => do
      some (put k (.tables (items.dropLast ++ [← within f ks (items.getLastD [])])) es)
    | some (.leaf _) => none

/-- Opens the table with a given path; a heading may do so once. -/
def openTable (path : List String) (es : Nodes) : Option Nodes :=
  within (fun es => do
    let k ← path.getLast?
    match es.lookup k with
    | none => some (put k (.table false false []) es)
    | some (.table true false inner) => some (put k (.table false false inner) es)
    | some _ => none) path.dropLast es

/-- Adds a table to those with a given path. -/
def addTable (path : List String) (es : Nodes) : Option Nodes :=
  within (fun es => do
    let k ← path.getLast?
    match es.lookup k with
    | none => some (put k (.tables [[]]) es)
    | some (.tables items) => some (put k (.tables (items ++ [[]])) es)
    | some _ => none) path.dropLast es

/-- Gives a value to a dotted name, for the first time. -/
def setValue (v : Value) : List String → Nodes → Option Nodes
  | [], _ => none
  | [k], es => if es.any (·.1 == k) then none else some (es ++ [(k, .leaf v)])
  | k :: ks, es =>
    match es.lookup k with
    | none => do some (put k (.table true true (← setValue v ks [])) es)
    | some (.table true d inner) => do some (put k (.table true d (← setValue v ks inner)) es)
    | some _ => none

mutual

/-- A finished part of a table. -/
def Node.value : Node → Value
  | .leaf v => v
  | .table _ _ entries => .table (entriesOf entries)
  | .tables items => .list (itemsOf items)

/-- The finished entries of a table. -/
def entriesOf : List (String × Node) → List (String × Value)
  | [] => []
  | (k, n) :: es => (k, n.value) :: entriesOf es

/-- Finished tables that were added one by one. -/
def itemsOf : List (List (String × Node)) → List Value
  | [] => []
  | es :: items => .table (entriesOf es) :: itemsOf items

end

end Rulebook.Toml
