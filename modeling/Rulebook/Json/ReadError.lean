import Rulebook.Text.Utf8

/-!
# Why a text is not the JSON it should be

Reading stops at the first thing that does not fit. A `Rulebook.Json.Problem` says
what it is: the text is no JSON, or it is JSON of another shape than the one asked
for. A `Rulebook.Json.Stop` is a problem together with the place where reading
stopped, counted as the bytes that were left; the caller, who has the whole text,
turns it into a line and a column (`Rulebook.Json.ReadError`). Columns count bytes
after the last line feed.
-/

namespace Rulebook.Json

open Text.Utf8 (byteCount)

/-! ### Problems -/

/-- What does not fit. -/
inductive Problem where
  /-- The text ends where a value should go on. -/
  | eofInValue
  /-- The text ends inside an array. -/
  | eofInList
  /-- The text ends inside an object. -/
  | eofInObject
  /-- The text ends inside a string. -/
  | eofInString
  /-- No value starts here. -/
  | expectedValue
  /-- A word starts like `null`, `true` or `false` and goes on differently. -/
  | expectedWord
  /-- An element is followed by neither a comma nor the end of the array. -/
  | expectedListCommaOrEnd
  /-- A member is followed by neither a comma nor the end of the object. -/
  | expectedObjectCommaOrEnd
  /-- A name is not followed by a colon. -/
  | expectedColon
  /-- A member does not start with a name. -/
  | keyNotString
  /-- A comma stands before the closing bracket. -/
  | trailingComma
  /-- Something follows where the value should end. -/
  | trailingCharacters
  /-- The digits do not form a number. -/
  | invalidNumber
  /-- The number is too large for a double. -/
  | numberOutOfRange
  /-- A backslash is followed by something that is no escape. -/
  | invalidEscape
  /-- A string holds a character below U+0020. -/
  | controlCharacter
  /-- A surrogate stands without its partner. -/
  | loneSurrogate
  /-- The second half of a surrogate pair is missing. -/
  | missingSurrogate
  /-- The value is nested too deep. -/
  | tooDeep
  /-- A member that has to be there is not. -/
  | missingField (name : String)
  /-- A member is there twice. -/
  | duplicateField (name : String)
  /-- A value of one kind stands where another kind belongs. -/
  | wrongKind (found expected : String)
  /-- A record written as an array has too few elements. -/
  | wrongLength (found : Nat) (expected : String)
  /-- A value has none of the shapes that it may have. -/
  | noShape (choice : String)
  deriving DecidableEq

/-- The words in which a problem is reported. -/
def Problem.message : Problem → String
  | eofInValue => "EOF while parsing a value"
  | eofInList => "EOF while parsing a list"
  | eofInObject => "EOF while parsing an object"
  | eofInString => "EOF while parsing a string"
  | expectedValue => "expected value"
  | expectedWord => "expected ident"
  | expectedListCommaOrEnd => "expected `,` or `]`"
  | expectedObjectCommaOrEnd => "expected `,` or `\x7d`"
  | expectedColon => "expected `:`"
  | keyNotString => "key must be a string"
  | trailingComma => "trailing comma"
  | trailingCharacters => "trailing characters"
  | invalidNumber => "invalid number"
  | numberOutOfRange => "number out of range"
  | invalidEscape => "invalid escape"
  | controlCharacter => "control character (\\u0000-\\u001F) found while parsing a string"
  | loneSurrogate => "lone leading surrogate in hex escape"
  | missingSurrogate => "unexpected end of hex escape"
  | tooDeep => "recursion limit exceeded"
  | missingField name => s!"missing field `{name}`"
  | duplicateField name => s!"duplicate field `{name}`"
  | wrongKind found expected => s!"invalid type: {found}, expected {expected}"
  | wrongLength found expected => s!"invalid length {found}, expected {expected}"
  | noShape choice => s!"data did not match any variant of untagged enum {choice}"

/-! ### Where reading stopped -/

/-- A problem, and the number of bytes that were left when it was found; a
problem of a value that had been read to its end has no place. -/
structure Stop where
  problem : Problem
  left : Option Nat
  deriving DecidableEq

/-- A problem found in front of the rest `cs`. -/
def Stop.here (p : Problem) (cs : List Char) : Stop := ⟨p, some (byteCount cs)⟩

/-- A problem with the first byte of the rest `cs`; it is placed behind that
byte, or at the end if there is none. -/
def Stop.past (p : Problem) (cs : List Char) : Stop := ⟨p, some (byteCount cs - 1)⟩

/-- A line and a column, both in the way that messages give them. -/
structure Position where
  line : Nat
  column : Nat
  deriving DecidableEq

/-- The position of the byte with the number `index` in a text, when `p` is the
position of the first byte. -/
def Position.advance (p : Position) : List Char → Nat → Position
  | [], index => ⟨p.line, p.column + index⟩
  | c :: cs, index =>
    if index < c.utf8Size then ⟨p.line, p.column + index⟩
    else if c = '\n' then Position.advance ⟨p.line + 1, 0⟩ cs (index - 1)
    else Position.advance ⟨p.line, p.column + c.utf8Size⟩ cs (index - c.utf8Size)

/-- A problem with its place in the text. -/
structure ReadError where
  problem : Problem
  position : Option Position
  deriving DecidableEq

/-- The place of a stop in the text that was read. -/
def Stop.locate (s : Stop) (text : List Char) : ReadError :=
  ⟨s.problem, s.left.map fun left => Position.advance ⟨1, 0⟩ text (byteCount text - left)⟩

/-- The message that reports an error. -/
def ReadError.message (e : ReadError) : String :=
  match e.position with
  | some p => s!"{e.problem.message} at line {p.line} column {p.column}"
  | none => e.problem.message

end Rulebook.Json
