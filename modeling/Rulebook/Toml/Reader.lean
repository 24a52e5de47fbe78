import Rulebook.Toml.Scalar

/-!
# Reading settings files

A file is read line by line in the sense of its grammar: a heading opens a table, and
every other line gives a value to a name of the table that is open. Only whether a
file can be read matters, not where it fails, so the readers give a result or
nothing.
-/

namespace Rulebook.Toml

/-! ### Space and comments -/

/-- Whether a character is a space within a line. -/
def isGap (c : Char) : Bool := c == ' ' || c == '\t'

/-- What is left after the spaces at the front. -/
def skipGap (cs : List Char) : List Char := cs.dropWhile isGap

/-- Whether a character may not stand in a comment or in a text. -/
def isControl (c : Char) : Bool := (c.toNat < 0x20 && c != '\t') || c.toNat == 0x7F

/-- The end of a line: spaces, a comment and a line break, or the end of the
file. -/
def endLine (cs : List Char) : Option (List Char) :=
  let cs := skipGap cs
  let rest? : Option (List Char) := match cs with
    | '#' :: cs =>
      let (comment, rest) := cutBefore ['\n', '\r'] cs
      if comment.any isControl then none else some rest
    | cs => some cs
  match rest? with
  | some [] => some []
  | some ('\n' :: rest) => some rest
  | some ('\r' :: '\n' :: rest) => some rest
  | _ => none

/-- What is left after spaces, comments and line breaks; `fuel` need not exceed the
length of the text. -/
def skipLines : Nat → List Char → List Char
  | 0, cs => cs
  | fuel + 1, cs =>
    let cs := skipGap cs
    match cs with
    | [] => []
    | c :: _ =>
      if c = '#' ∨ c = '\n' ∨ c = '\r' then
        match endLine cs with
        | some rest => skipLines fuel rest
        | none => cs
      else cs

/-- What is left after spaces, comments and line breaks. -/
def skipAllSpace (cs : List Char) : List Char := skipLines (cs.length + 1) cs

/-! ### Texts -/

/-- The character that hexadecimal digits name. -/
def namedChar (ds : List Char) : Option Char := do
  let n ← ds.foldlM (fun n c => (Json.hexValue? c).map (n * 16 + ·)) 0
  if n < 0xD800 ∨ (0xDFFF < n ∧ n < 0x110000) then some (Char.ofNat n) else none

/-- The character of an escape, from behind the backslash. -/
def readEscape : List Char → Option (Char × List Char)
  | 'b' :: cs => some ('\x08', cs)
  | 't' :: cs => some ('\t', cs)
  | 'n' :: cs => some ('\n', cs)
  | 'f' :: cs => some ('\x0c', cs)
  | 'r' :: cs => some ('\r', cs)
  | 'e' :: cs => some ('\x1b', cs)
  | '"' :: cs => some ('"', cs)
  | '\\' :: cs => some ('\\', cs)
  | 'x' :: cs => if cs.length < 2 then none else (namedChar (cs.take 2)).map (·, cs.drop 2)
  | 'u' :: cs => if cs.length < 4 then none else (namedChar (cs.take 4)).map (·, cs.drop 4)
  | 'U' :: cs => if cs.length < 8 then none else (namedChar (cs.take 8)).map (·, cs.drop 8)
  | _ => none

/-- Puts a character before a text that was read. -/
def prepend (c : Char) (r : Option (List Char × List Char)) : Option (List Char × List Char) :=
  r.map fun (s, rest) => (c :: s, rest)

/-- A text on one line, from behind its opening quotation mark. -/
def readBasic : Nat → List Char → Option (List Char × List Char)
  | 0, _ => none
  | _ + 1, [] => none
  | fuel + 1, c :: cs =>
    if c = '"' then some ([], cs)
    else if c = '\\' then do
      let (x, cs) ← readEscape cs
      prepend x (readBasic fuel cs)
    else if isControl c then none
    else prepend c (readBasic fuel cs)

/-- A text on one line without escapes, from behind its opening mark. -/
def readLiteral : List Char → Option (List Char × List Char)
  | [] => none
  | c :: cs =>
    if c = '\'' then some ([], cs)
    else if isControl c then none
    else prepend c (readLiteral cs)

/-- The number of times a character stands at the front, and the rest. -/
def countFront (q : Char) (cs : List Char) : Nat × List Char :=
  ((cs.takeWhile (· == q)).length, cs.dropWhile (· == q))

/-- A backslash at the end of a line takes all white space up to the next other
character with it. -/
def foldsLine (cs : List Char) : Bool :=
  match skipGap cs with
  | '\n' :: _ => true
  | '\r' :: '\n' :: _ => true
  | _ => false

/-- A text over several lines, from behind its opening marks. Up to two marks may
stand in the text, also right before the three that close it. -/
def readMultiline (q : Char) (escapes : Bool) : Nat → List Char → Option (List Char × List Char)
  | 0, _ => none
  | _ + 1, [] => none
  | fuel + 1, c :: cs =>
    if c = q then
      let (n, rest) := countFront q (c :: cs)
      if n < 3 then
        (readMultiline q escapes fuel rest).map fun (s, r) => (List.replicate n q ++ s, r)
      else if n ≤ 5 then some (List.replicate (n - 3) q, rest)
      else none
    else if c = '\\' ∧ escapes then
      if foldsLine cs then
        readMultiline q escapes fuel (cs.dropWhile fun c => isGap c || c == '\n' || c == '\r')
      else do
        let (x, cs) ← readEscape cs
        prepend x (readMultiline q escapes fuel cs)
    else if c = '\n' then prepend '\n' (readMultiline q escapes fuel cs)
    else if c = '\r' then
      if cs.head? = some '\n' then prepend '\n' (readMultiline q escapes fuel (cs.drop 1)) else none
    else if isControl c then none
    else prepend c (readMultiline q escapes fuel cs)

/-- What is left after a line break at the front. -/
def dropBreak : List Char → List Char
  | '\n' :: cs => cs
  | '\r' :: '\n' :: cs => cs
  | cs => cs

/-- A text in any of its four forms, if one is at the front. -/
def readText : List Char → Option (List Char × List Char)
  | '"' :: '"' :: '"' :: cs => readMultiline '"' true (cs.length + 1) (dropBreak cs)
  | '\'' :: '\'' :: '\'' :: cs => readMultiline '\'' false (cs.length + 1) (dropBreak cs)
  | '"' :: cs => readBasic (cs.length + 1) cs
  | '\'' :: cs => readLiteral cs
  | _ => none

/-! ### Names -/

/-- Whether a character can stand in a name without quotation marks. -/
def isBare (c : Char) : Bool := c.isAlphanum || c == '_' || c == '-'

/-- One part of a name. -/
def readNamePart : List Char → Option (String × List Char)
  | '"' :: cs => (readBasic (cs.length + 1) cs).map fun (s, rest) => (String.ofList s, rest)
  | '\'' :: cs => (readLiteral cs).map fun (s, rest) => (String.ofList s, rest)
  | cs =>
    let name := cs.takeWhile isBare
    if name = [] then none else some (String.ofList name, cs.dropWhile isBare)

/-- A name, whose parts are separated by dots; `fuel` need not exceed the length of
the text. -/
def readNameLoop : Nat → List Char → Option (List String × List Char)
  | 0, _ => none
  | fuel + 1, cs => do
    let (part, rest) ← readNamePart (skipGap cs)
    match skipGap rest with
    | '.' :: rest => do
      let (parts, rest) ← readNameLoop fuel rest
      some (part :: parts, rest)
    | rest => some ([part], rest)

/-- A name, whose parts are separated by dots, and the spaces after it. -/
def readName (cs : List Char) : Option (List String × List Char) :=
  readNameLoop (cs.length + 1) cs

/-! ### Values -/

mutual

/-- A value at the front; every call takes a character or is followed by one that
does, so `fuel` need not exceed twice the length of the text. -/
def readValue : Nat → List Char → Option (Value × List Char)
  | 0, _ => none
  | fuel + 1, cs =>
    match cs with
    | '[' :: rest => do
      let (items, rest) ← readItems fuel rest
      some (.list items, rest)
    | '{' :: rest => do
      let (entries, rest) ← readEntries fuel [] rest
      some (.table (entriesOf entries), rest)
    | cs =>
      match cs.head? with
      | some '"' | some '\'' => (readText cs).map fun (s, rest) => (.text (String.ofList s), rest)
      | _ => readScalar cs

/-- The items of a list, from behind its opening bracket or a comma. -/
def readItems : Nat → List Char → Option (List Value × List Char)
  | 0, _ => none
  | fuel + 1, cs =>
    match skipAllSpace cs with
    | ']' :: rest => some ([], rest)
    | cs => do
      let (v, rest) ← readValue fuel cs
      match skipAllSpace rest with
      | ',' :: rest => do
        let (vs, rest) ← readItems fuel rest
        some (v :: vs, rest)
      | ']' :: rest => some ([v], rest)
      | _ => none

/-- The entries of a table in braces, from behind its opening brace or a comma. -/
def readEntries : Nat → Nodes → List Char → Option (Nodes × List Char)
  | 0, _, _ => none
  | fuel + 1, es, cs =>
    match skipAllSpace cs with
    | '}' :: rest => some (es, rest)
    | cs => do
      let (name, rest) ← readName cs
      match rest with
      | '=' :: rest => do
        let (v, rest) ← readValue fuel (skipGap rest)
        let es ← setValue v name es
        match skipAllSpace rest with
        | ',' :: rest => readEntries fuel es rest
        | '}' :: rest => some (es, rest)
        | _ => none
      | _ => none

end

/-! ### Files -/

/-- Reads the lines of a file: `heading` is the path of the table that is open, `es`
what has been read. -/
def readFrom : Nat → List String → Nodes → List Char → Option Nodes
  | 0, _, _, _ => none
  | fuel + 1, heading, es, cs =>
    match skipAllSpace cs with
    | [] => some es
    | '[' :: '[' :: rest => do
      let (path, rest) ← readName rest
      match rest with
      | ']' :: ']' :: rest => readFrom fuel path (← addTable path es) (← endLine rest)
      | _ => none
    | '[' :: rest => do
      let (path, rest) ← readName rest
      match rest with
      | ']' :: rest => readFrom fuel path (← openTable path es) (← endLine rest)
      | _ => none
    | cs => do
      let (name, rest) ← readName cs
      match rest with
      | '=' :: rest => do
        let (v, rest) ← readValue (2 * rest.length + 2) (skipGap rest)
        readFrom fuel heading (← within (setValue v name) heading es) (← endLine rest)
      | _ => none

/-- The table that a file says, if it can be read. A byte order mark at the
beginning is passed over. -/
def parse (text : String) : Option (List (String × Value)) :=
  let cs := match text.toList with
    | '\uFEFF' :: cs => cs
    | cs => cs
  (readFrom (cs.length + 1) [] [] cs).map entriesOf

end Rulebook.Toml
