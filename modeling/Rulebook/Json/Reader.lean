import Rulebook.Json.Literal

/-!
# Reading JSON

The reader goes over the text once, from left to right, and stops at the first
problem. Arrays and objects may be nested at most `Rulebook.Json.maxDepth` deep;
the number of levels that are still allowed is what the reader recurs on.

`Rulebook.Json.readElements` and `Rulebook.Json.readMembers` read the inside of an
array and of an object with any reader for the parts, so that the readers of
records share them with the reader of values.
-/

namespace Rulebook.Json

/-- How deep arrays and objects may be nested. -/
def maxDepth : Nat := 127

/-! ### Punctuation -/

/-- The characters that may stand between the parts of a text. -/
def isSpace (c : Char) : Bool := c == ' ' || c == '\n' || c == '\t' || c == '\r'

/-- What is left from the first character that is no space. -/
def skipSpace (cs : List Char) : List Char := cs.dropWhile isSpace

/-- Goes to the next element of an array and says whether there is one; `first`
says that none has been read yet. Without an element the closing bracket is
next. -/
def nextElement (first : Bool) (cs : List Char) : Except Stop (Read Bool) :=
  match skipSpace cs with
  | [] => .error (.here .eofInList [])
  | ']' :: rest => .ok (false, ']' :: rest)
  | c :: rest =>
    if first then .ok (true, c :: rest)
    else if c = ',' then
      match skipSpace rest with
      | [] => .error (.here .eofInValue [])
      | ']' :: rest => .error (.past .trailingComma (']' :: rest))
      | rest => .ok (true, rest)
    else .error (.past .expectedListCommaOrEnd (c :: rest))

/-- The name at the front, if a name is there. -/
def readKey : List Char → Except Stop (Read (Option String))
  | [] => .error (.here .eofInValue [])
  | '"' :: rest => (readString rest).map fun (k, rest) => (some k, rest)
  | '}' :: rest => .error (.past .trailingComma ('}' :: rest))
  | c :: rest => .error (.past .keyNotString (c :: rest))

/-- Reads the name of the next member of an object, if there is one; `first` says
that no member has been read yet. Without a member the closing brace is next. -/
def nextKey (first : Bool) (cs : List Char) : Except Stop (Read (Option String)) :=
  match skipSpace cs with
  | [] => .error (.here .eofInObject [])
  | '}' :: rest => .ok (none, '}' :: rest)
  | c :: rest =>
    if first then readKey (c :: rest)
    else if c = ',' then readKey (skipSpace rest)
    else .error (.past .expectedObjectCommaOrEnd (c :: rest))

/-- Reads the colon between name and value. -/
def readColon (cs : List Char) : Except Stop (List Char) :=
  match skipSpace cs with
  | [] => .error (.here .eofInObject [])
  | ':' :: rest => .ok rest
  | c :: rest => .error (.past .expectedColon (c :: rest))

/-- Reads the bracket that closes an array, where no further element is
expected. -/
def closeArray (cs : List Char) : Except Stop (List Char) :=
  match skipSpace cs with
  | [] => .error (.here .eofInList [])
  | ']' :: rest => .ok rest
  | ',' :: rest =>
    match skipSpace rest with
    | ']' :: rest => .error (.past .trailingComma (']' :: rest))
    | rest => .error (.past .trailingCharacters rest)
  | c :: rest => .error (.past .trailingCharacters (c :: rest))

/-- Reads the brace that closes an object, where no further member is
expected. -/
def closeObject (cs : List Char) : Except Stop (List Char) :=
  match skipSpace cs with
  | [] => .error (.here .eofInObject [])
  | '}' :: rest => .ok rest
  | ',' :: rest => .error (.past .trailingComma (',' :: rest))
  | c :: rest => .error (.past .trailingCharacters (c :: rest))

/-! ### The inside of arrays and objects -/

/-- The elements of an array up to the closing bracket; every round of the loop
takes at least one character, so `fuel` need not exceed the length of the
text. -/
def readElementsLoop {α : Type} (item : List Char → Except Stop (Read α)) :
    Nat → Bool → List Char → Except Stop (Read (List α))
  | 0, _, cs => .error (.here .eofInList cs)
  | fuel + 1, first, cs => do
    match ← nextElement first cs with
    | (false, rest) => .ok ([], rest)
    | (true, rest) =>
      let (x, rest) ← item rest
      let (xs, rest) ← readElementsLoop item fuel false rest
      .ok (x :: xs, rest)

/-- The elements of an array, from behind its opening bracket to the closing
one. -/
def readElements {α : Type} (item : List Char → Except Stop (Read α)) (cs : List Char) :
    Except Stop (Read (List α)) :=
  readElementsLoop item (cs.length + 1) true cs

/-- The members of an object up to the closing brace; `fuel` need not exceed the
length of the text. -/
def readMembersLoop {α : Type} (item : List Char → Except Stop (Read α)) :
    Nat → Bool → List Char → Except Stop (Read (List (String × α)))
  | 0, _, cs => .error (.here .eofInObject cs)
  | fuel + 1, first, cs => do
    match ← nextKey first cs with
    | (none, rest) => .ok ([], rest)
    | (some k, rest) =>
      let rest ← readColon rest
      let (x, rest) ← item rest
      let (ms, rest) ← readMembersLoop item fuel false rest
      .ok ((k, x) :: ms, rest)

/-- The members of an object, from behind its opening brace to the closing
one. -/
def readMembers {α : Type} (item : List Char → Except Stop (Read α)) (cs : List Char) :
    Except Stop (Read (List (String × α))) :=
  readMembersLoop item (cs.length + 1) true cs

/-! ### Values -/

/-- A value that is no array and no object, at the front of a text that does not
start with a space. -/
def readScalar : List Char → Except Stop (Read Value)
  | [] => .error (.here .eofInValue [])
  | 'n' :: rest => do .ok (.null, ← readWord ['u', 'l', 'l'] rest)
  | 't' :: rest => do .ok (.bool true, ← readWord ['r', 'u', 'e'] rest)
  | 'f' :: rest => do .ok (.bool false, ← readWord ['a', 'l', 's', 'e'] rest)
  | '"' :: rest => (readString rest).map fun (s, rest) => (.string s, rest)
  | c :: rest =>
    if c = '-' ∨ c.isDigit then readNumber (c :: rest)
    else .error (.past .expectedValue (c :: rest))

/-- A value, with the members of its objects as they are written; `depth` more
levels of nesting are allowed. -/
def readValue : Nat → List Char → Except Stop (Read Value)
  | depth, cs =>
    match skipSpace cs with
    | '[' :: rest =>
      match depth with
      | 0 => .error (.past .tooDeep ('[' :: rest))
      | depth + 1 => do
        let (xs, rest) ← readElements (readValue depth) rest
        .ok (.array xs, ← closeArray rest)
    | '{' :: rest =>
      match depth with
      | 0 => .error (.past .tooDeep ('{' :: rest))
      | depth + 1 => do
        let (ms, rest) ← readMembers (readValue depth) rest
        .ok (.object ms, ← closeObject rest)
    | rest => readScalar rest

/-! ### Whole texts -/

/-- Runs a reader on a whole text, after which only spaces may follow. -/
def readAll {α : Type} (reader : List Char → Except Stop (Read α)) (text : String) :
    Except ReadError α :=
  let cs := text.toList
  let result : Except Stop α := do
    let (x, rest) ← reader cs
    match skipSpace rest with
    | [] => .ok x
    | c :: rest => .error (.past .trailingCharacters (c :: rest))
  result.mapError (·.locate cs)

/-- The value that a text says, with the members of its objects as they are
written. -/
def parseWritten (text : String) : Except ReadError Value := readAll (readValue maxDepth) text

/-- The value that a text means. -/
def parse (text : String) : Except ReadError Value := (parseWritten text).map Value.settled

end Rulebook.Json
