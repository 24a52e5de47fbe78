import Rulebook.Text.Alphanumeric
import Rulebook.Text.Blank

/-!
# Variables in a file

Environment variables can be kept in a file, one `NAME=value` a line. A value may be
quoted, in whole or in parts, and may refer to variables that are known by then.
Variables of the environment are never changed: a line counts only if its name has no
value yet.

## Two readings of quotation marks

A line is cut out of the file before it is read. Cutting looks at quotation marks
only to find where the line ends (`Rulebook.Settings.DotEnv.Quote`); what a value
says is settled afterwards, character by character
(`Rulebook.Settings.DotEnv.Place`).

## Faults

A file is read up to the first line that cannot be read. The lines before it count,
and nothing is said about the fault.
-/

namespace Rulebook.Settings

/-- Names with their values. -/
abbrev Variables := List (String × String)

namespace DotEnv

/-! ### Cutting a file into lines -/

/-- Where a line is with respect to quotation marks. -/
inductive Quote where
  /-- Outside of quotation marks. -/
  | outside
  /-- Outside of quotation marks, behind a blank. -/
  | blank
  /-- Outside of quotation marks, behind a backslash. -/
  | escape
  | single
  | singleEscape
  | double
  | doubleEscape
  /-- Behind the mark of a comment. -/
  | comment
  deriving DecidableEq

/-- Where a line is behind a character that stands outside of quotation marks. -/
def Quote.enter (c : Char) : Quote :=
  if c = '\\' then escape
  else if c = '"' then double
  else if c = '\'' then single
  else outside

/-- Where a line is behind one more character. -/
def Quote.step (q : Quote) (c : Char) : Quote :=
  match q with
  | outside => if Text.isBlank c && c != '\n' && c != '\r' then blank else enter c
  | blank => if c = '#' then comment else enter c
  | escape => outside
  | single => if c = '\\' then singleEscape else if c = '\'' then outside else single
  | singleEscape => single
  | double => if c = '\\' then doubleEscape else if c = '"' then outside else double
  | doubleEscape => double
  | comment => comment

/-- Where a line is at its end, and the line without its comment. -/
def Quote.read (q : Quote) : List Char → Quote × List Char
  | [] => (q, [])
  | c :: cs =>
    match q.step c with
    | comment => (comment, [])
    | q =>
      let (q, kept) := q.read cs
      (q, c :: kept)

/-- The stretches of a file up to and with each line feed. -/
def stretches : List Char → List (List Char)
  | [] => []
  | c :: cs =>
    if c = '\n' then [c] :: stretches cs
    else match stretches cs with
      | [] => [[c]]
      | line :: rest => (c :: line) :: rest

/-- The lines of a file behind an unfinished one. A line goes on behind a line feed
that stands in quotation marks, and one that never ends is none. -/
def linesBehind (unfinished : List Char) (q : Quote) : List (List Char) → List (List Char)
  | [] => []
  | line :: rest =>
    let (q, kept) := q.read line
    let text := unfinished ++ kept
    if (Text.dropBlanks text).head? = some '#' then linesBehind [] .outside rest
    else if q = .outside ∨ q = .comment then text :: linesBehind [] .outside rest
    else linesBehind text q rest

/-- The lines of a file. -/
def lines (file : List Char) : List (List Char) := linesBehind [] .outside (stretches file)

/-! ### Reading a value -/

/-- What a name stands for; a name without a value stands for nothing. -/
def valueOf (known : Variables) (name : List Char) : List Char :=
  ((known.lookup (String.ofList name)).getD "").toList

/-- A place in a value. Outside of single quotation marks it matters whether it is in
double ones. -/
inductive Place where
  | text (inDouble : Bool)
  | escape (inDouble : Bool)
  | single
  /-- In a name behind a dollar sign. -/
  | name (inDouble : Bool) (sofar : List Char)
  /-- In a name in braces. -/
  | braced (inDouble : Bool) (sofar : List Char)
  /-- Behind the value, where only a comment may follow. -/
  | behind
  | comment

/-- What a character behind a backslash stands for. -/
def escaped? (c : Char) : Option Char :=
  if c = 'n' then some '\n'
  else if c ∈ ['\\', '\'', '"', '$', ' '] then some c
  else none

/-- A step over a character: the place behind it, and what is added to the value. -/
def Place.step (known : Variables) (p : Place) (c : Char) : Option (Place × List Char) :=
  match p with
  | text true =>
    if c = '$' then some (name true [], [])
    else if c = '"' then some (text false, [])
    else if c = '\\' then some (escape true, [])
    else some (text true, [c])
  | text false =>
    if c = '$' then some (name false [], [])
    else if c = '\'' then some (single, [])
    else if c = '"' then some (text true, [])
    else if c = '\\' then some (escape false, [])
    else if c = ' ' ∨ c = '\t' then some (behind, [])
    else some (text false, [c])
  | escape inDouble => (escaped? c).map fun c => (text inDouble, [c])
  | single => if c = '\'' then some (text false, []) else some (single, [c])
  | name inDouble sofar =>
    if Text.isAlphanumeric c then some (name inDouble (sofar ++ [c]), [])
    else if c = '{' ∧ sofar = [] then some (braced inDouble [], [])
    else if c = '$' then some (name inDouble [], valueOf known sofar)
    else some (text inDouble, valueOf known sofar ++ [c])
  | braced inDouble sofar =>
    if c = '}' then some (text inDouble, valueOf known sofar)
    else some (braced inDouble (sofar ++ [c]), [])
  | behind =>
    if c = ' ' ∨ c = '\t' then some (behind, [])
    else if c = '#' then some (comment, [])
    else none
  | comment => some (comment, [])

/-- What is added to a value that ends at a place, if it may end there. -/
def Place.close? (known : Variables) : Place → Option (List Char)
  | text false => some []
  | escape false => some []
  | name false sofar => some (valueOf known sofar)
  | behind => some []
  | comment => some []
  | _ => none

/-- The rest of a value from a place on. -/
def Place.read (known : Variables) (p : Place) : List Char → Option (List Char)
  | [] => p.close? known
  | c :: cs => do
    let (p, added) ← p.step known c
    let rest ← p.read known cs
    some (added ++ rest)

/-! ### Reading a line -/

/-- What a line says. -/
inductive Line where
  | nothing
  | variable (name value : String)

/-- Whether a character can stand in a name. -/
def isNameChar (c : Char) : Bool := c.isAlphanum || c == '_' || c == '.'

/-- A name and what follows it, without the blanks between them. -/
def name? (cs : List Char) : Option (List Char × List Char) :=
  match cs with
  | c :: _ =>
    if c.isAlpha || c == '_' then
      some (cs.takeWhile isNameChar, Text.dropBlanks (cs.dropWhile isNameChar))
    else none
  | [] => none

/-- The variable with a given name, whose value follows an equals sign. -/
def definition? (known : Variables) (name : List Char) (cs : List Char) : Option Line :=
  match cs with
  | '=' :: cs =>
    let cs := Text.dropBlanks cs
    let value? := if cs.head? = some '#' then some [] else (Place.text false).read known cs
    value?.map fun value => .variable (String.ofList name) (String.ofList value)
  | _ => none

/-- What a line says. The word `export` may stand before the name; it can also be the
name. -/
def Line.read? (known : Variables) (line : List Char) : Option Line :=
  let cs := Text.trimmed line
  if cs = [] ∨ cs.head? = some '#' then some .nothing
  else do
    let (name, rest) ← name? cs
    if name = "export".toList ∧ rest.head? ≠ some '=' then
      let (name, rest) ← name? rest
      definition? known name rest
    else definition? known name rest

/-! ### Reading a file -/

/-- Adds a variable, unless it has a value. -/
def define (name value : String) (known : Variables) : Variables :=
  if (known.lookup name).isSome then known else known ++ [(name, value)]

/-- Adds the variables of some lines, up to the first one that cannot be read. -/
def defineAll (known : Variables) : List (List Char) → Variables
  | [] => known
  | line :: rest =>
    match Line.read? known line with
    | none => known
    | some .nothing => defineAll known rest
    | some (.variable name value) => defineAll (define name value known) rest

/-- Adds the variables of a file, which may begin with a byte order mark. -/
def load (known : Variables) (file : String) : Variables :=
  let cs := file.toList
  defineAll known (lines (if cs.head? = some '\ufeff' then cs.drop 1 else cs))

end DotEnv

end Rulebook.Settings
