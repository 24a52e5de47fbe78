import Rulebook.Json.Skip
import Rulebook.Json.Printer
import Rulebook.Text.Quoted

/-!
# Reading records

A *record* is an object with known members. A `Rulebook.Json.Shape` lists them: the
names a member may have, what kind of value it holds, and whether it may be
missing. Members with other names are passed over, and a member that is there
twice is an error, also under two different names.

A record may also be written as an array of its members in order, where only the
last members can be left out.

The values that were read come back as a list with one place for each member of
the shape (`Rulebook.Json.Filled`); a place stays empty if the member was missing.
-/

namespace Rulebook.Json

/-! ### Kinds of values -/

/-- What a member may hold. -/
inductive Kind where
  | text
  | flag
  | anything
  deriving DecidableEq

/-- What a member holds. -/
inductive Item where
  | text (s : String)
  | flag (b : Bool)
  | value (v : Value)

/-- A kind as messages name it. -/
def Kind.name : Kind → String
  | text => "a string"
  | flag => "a boolean"
  | anything => "any value"

/-- A scalar as messages show it. -/
def Value.shown : Value → String
  | .null => "null"
  | .bool b => s!"boolean `{b}`"
  | .integer n => s!"integer `{n}`"
  | .float x => s!"floating point `{floatLayoutText x}`"
  | .string s => s!"string {Text.quoted s}"
  | .array _ => "sequence"
  | .object _ => "map"
where
  /-- A double as JSON writes it. -/
  floatLayoutText (x : Binary64) : String := String.ofList (writeFloat x)

/-- The error that a value of another kind stands at the front, where `expected`
belongs. A scalar is read first, and its own errors come before this one. -/
def wrongKindHere (expected : String) (cs : List Char) : Stop :=
  match cs with
  | '[' :: _ => .here (.wrongKind "sequence" expected) cs
  | '{' :: _ => .here (.wrongKind "map" expected) cs
  | cs =>
    match readScalar cs with
    | .ok (v, rest) => .here (.wrongKind v.shown expected) rest
    | .error stop => stop

/-- A string at the front. -/
def readTextItem (cs : List Char) : Except Stop (Read String) :=
  match skipSpace cs with
  | '"' :: rest => readString rest
  | rest => .error (wrongKindHere Kind.text.name rest)

/-- A truth value at the front. -/
def readFlagItem (cs : List Char) : Except Stop (Read Bool) :=
  match skipSpace cs with
  | 't' :: rest => do .ok (true, ← readWord ['r', 'u', 'e'] rest)
  | 'f' :: rest => do .ok (false, ← readWord ['a', 'l', 's', 'e'] rest)
  | rest => .error (wrongKindHere Kind.flag.name rest)

/-- A value of a kind, at a place where `depth` more levels of nesting are
allowed. -/
def readItem (depth : Nat) : Kind → List Char → Except Stop (Read Item)
  | .text, cs => (readTextItem cs).map fun (s, rest) => (.text s, rest)
  | .flag, cs => (readFlagItem cs).map fun (b, rest) => (.flag b, rest)
  | .anything, cs => (readValue depth cs).map fun (v, rest) => (.value v, rest)

/-- A value as one of a kind. -/
def Kind.item? : Kind → Value → Option Item
  | text, .string s => some (.text s)
  | flag, .bool b => some (.flag b)
  | anything, v => some (.value v)
  | _, _ => none

/-! ### Shapes -/

/-- A member of a record. -/
structure Slot where
  /-- The name that messages use. -/
  name : String
  /-- Other names that the member may have. -/
  aliases : List String
  kind : Kind
  optional : Bool

/-- The members of a record, in order, and the name of the record. -/
structure Shape where
  name : String
  slots : List Slot

/-- Whether a member may have the name `k`. -/
def Slot.accepts (s : Slot) (k : String) : Bool := s.name == k || s.aliases.contains k

/-- The number and the description of the member named `k`. -/
def Shape.find? (shape : Shape) (k : String) : Option (Nat × Slot) :=
  (shape.slots.zipIdx.find? fun (s, _) => s.accepts k).map fun (s, i) => (i, s)

/-- The values of the members of a shape, in its order. -/
abbrev Filled := List (Option Item)

/-- No value for any member. -/
def Shape.unfilled (shape : Shape) : Filled := shape.slots.map fun _ => none

/-- The first member that has to be there and is not. -/
def Shape.missing? (shape : Shape) (filled : Filled) : Option Slot :=
  (shape.slots.zip filled).findSome? fun (s, item) =>
    if item.isNone && ! s.optional then some s else none

/-- The record and the number of its members, as messages name them. -/
def Shape.counted (shape : Shape) : String :=
  let n := shape.slots.length
  let noun := if n = 1 then "element" else "elements"
  s!"{shape.name} with {n} {noun}"

/-! ### Reading from a text -/

/-- A problem with an object as a whole: it is placed behind the closing brace if
that is next. -/
def objectProblem (p : Problem) (cs : List Char) : Stop :=
  match skipSpace cs with
  | '}' :: rest => .here p rest
  | rest => .here p rest

/-- The members of a record up to the closing brace; `fuel` need not exceed the
length of the text. -/
def Shape.readMembersLoop (shape : Shape) (depth : Nat) :
    Nat → Bool → Filled → List Char → Except Stop (Read Filled)
  | 0, _, _, cs => .error (.here .eofInObject cs)
  | fuel + 1, first, filled, cs => do
    match ← nextKey first cs with
    | (none, rest) => .ok (filled, rest)
    | (some k, rest) =>
      match shape.find? k with
      | none =>
        let rest ← skipValue (← readColon rest)
        shape.readMembersLoop depth fuel false filled rest
      | some (i, slot) =>
        if (filled[i]?.join).isSome then .error (objectProblem (.duplicateField slot.name) rest)
        else
          let (item, rest) ← readItem depth slot.kind (← readColon rest)
          shape.readMembersLoop depth fuel false (filled.set i (some item)) rest

/-- The members of a record, from behind the opening brace to behind the closing
one. -/
def Shape.readObject (shape : Shape) (depth : Nat) (cs : List Char) :
    Except Stop (Read Filled) := do
  let (filled, rest) ← shape.readMembersLoop depth (cs.length + 1) true shape.unfilled cs
  match shape.missing? filled with
  | some slot => .error (objectProblem (.missingField slot.name) rest)
  | none => .ok (filled, ← closeObject rest)

/-- The members of a record written as an array, one after the other; `index` is
the number of the first of them. -/
def Shape.readInOrder (shape : Shape) (depth : Nat) :
    Nat → List Slot → List Char → Except Stop (Read Filled)
  | _, [], cs => .ok ([], cs)
  | index, slot :: slots, cs => do
    match ← nextElement (index == 0) cs with
    | (true, rest) =>
      let (item, rest) ← readItem depth slot.kind rest
      let (filled, rest) ← shape.readInOrder depth (index + 1) slots rest
      .ok (some item :: filled, rest)
    | (false, rest) =>
      if slot.optional then
        let (filled, rest) ← shape.readInOrder depth (index + 1) slots rest
        .ok (none :: filled, rest)
      else .error (.here (.wrongLength index shape.counted) (rest.drop 1))

/-- A record, from behind the opening bracket of the array it is written as. -/
def Shape.readArray (shape : Shape) (depth : Nat) (cs : List Char) : Except Stop (Read Filled) := do
  let (filled, rest) ← shape.readInOrder depth 0 shape.slots cs
  .ok (filled, ← closeArray rest)

/-- A record at a place where `depth` more levels of nesting are allowed. -/
def Shape.read (shape : Shape) (depth : Nat) (cs : List Char) : Except Stop (Read Filled) :=
  match skipSpace cs with
  | '{' :: rest =>
    if depth = 0 then .error (.past .tooDeep ('{' :: rest)) else shape.readObject (depth - 1) rest
  | '[' :: rest =>
    if depth = 0 then .error (.past .tooDeep ('[' :: rest)) else shape.readArray (depth - 1) rest
  | rest => .error (wrongKindHere shape.name rest)

/-! ### Reading from a value -/

/-- The members of a record among members that were read before. -/
def Shape.fill (shape : Shape) : Filled → List Member → Option Filled
  | filled, [] => if (shape.missing? filled).isSome then none else some filled
  | filled, (k, v) :: ms =>
    match shape.find? k with
    | none => shape.fill filled ms
    | some (i, slot) =>
      if (filled[i]?.join).isSome then none
      else
        match slot.kind.item? v with
        | some item => shape.fill (filled.set i (some item)) ms
        | none => none

/-- The members of a record among elements that were read before; there must be
no element more. -/
def Shape.fillInOrder : List Slot → List Value → Option Filled
  | [], [] => some []
  | [], _ :: _ => none
  | slot :: slots, [] =>
    if slot.optional then (fillInOrder slots []).map (none :: ·) else none
  | slot :: slots, v :: vs =>
    match slot.kind.item? v with
    | some item => (fillInOrder slots vs).map (some item :: ·)
    | none => none

/-- The members of a record in a value with members as they are written. -/
def Shape.ofValue? (shape : Shape) : Value → Option Filled
  | .object ms => shape.fill shape.unfilled ms
  | .array xs => Shape.fillInOrder shape.slots xs
  | _ => none

end Rulebook.Json
