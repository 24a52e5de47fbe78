import Rulebook.Binary64.Layout
import Rulebook.Json.Value

/-!
# Writing JSON

A value is written in one of two forms: compact, without any space
(`Rulebook.Json.Value.compact`), or spread over lines with two spaces for every
level of nesting (`Rulebook.Json.Value.pretty`). Both write texts and numbers in
the same way.

In a text only what has to be escaped is escaped: the quotation mark, the
backslash and the characters below U+0020, six of them by a letter and the rest
by their number in four hexadecimal digits.
-/

namespace Rulebook.Json

/-! ### Numbers and texts -/

/-- Doubles in JSON: positional from `0.00001` to below `1e16`, always with a
fraction there, and an exponent with its sign. -/
def floatLayout : Binary64.Layout := ⟨some (-5, 16), true, "+", "null", "null"⟩

/-- A double; JSON has no infinities and no NaN, and `null` stands for them. -/
def writeFloat : Binary64 → List Char
  | .finite s m e => (floatLayout.write (.finite s m e)).toList
  | _ => ['n', 'u', 'l', 'l']

/-- An integer in decimal digits. -/
def writeInteger (n : Int) : List Char :=
  (if n < 0 then ['-'] else []) ++ Nat.toDigits 10 n.natAbs

/-- A character inside a text. -/
def escapedChar (c : Char) : List Char :=
  match c with
  | '"' => ['\\', '"']
  | '\\' => ['\\', '\\']
  | '\x08' => ['\\', 'b']
  | '\x09' => ['\\', 't']
  | '\x0a' => ['\\', 'n']
  | '\x0c' => ['\\', 'f']
  | '\x0d' => ['\\', 'r']
  | c =>
    if c.toNat < 0x20 then
      ['\\', 'u', '0', '0', Nat.digitChar (c.toNat / 16), Nat.digitChar (c.toNat % 16)]
    else [c]

/-- A text in quotation marks. -/
def writeText (s : String) : List Char := '"' :: s.toList.flatMap escapedChar ++ ['"']

/-! ### The compact form -/

mutual

/-- A value without spaces. -/
def writeCompact : Value → List Char
  | .null => ['n', 'u', 'l', 'l']
  | .bool true => ['t', 'r', 'u', 'e']
  | .bool false => ['f', 'a', 'l', 's', 'e']
  | .integer n => writeInteger n
  | .float x => writeFloat x
  | .string s => writeText s
  | .array [] => ['[', ']']
  | .array (x :: xs) => '[' :: writeCompact x ++ writeCompactElements xs
  | .object [] => ['{', '}']
  | .object ((k, v) :: ms) =>
    '{' :: writeText k ++ ':' :: writeCompact v ++ writeCompactMembers ms

/-- The elements after the first one, with the commas before them and the bracket
that closes the array. -/
def writeCompactElements : List Value → List Char
  | [] => [']']
  | x :: xs => ',' :: writeCompact x ++ writeCompactElements xs

/-- The members after the first one, with the commas before them and the brace
that closes the object. -/
def writeCompactMembers : List (String × Value) → List Char
  | [] => ['}']
  | (k, v) :: ms => ',' :: writeText k ++ ':' :: writeCompact v ++ writeCompactMembers ms

end

/-- A value without spaces. -/
def Value.compact (v : Value) : String := String.ofList (writeCompact v)

/-! ### The spread form -/

/-- A new line at a level of nesting. -/
def newLine (level : Nat) : List Char := '\n' :: List.replicate (2 * level) ' '

mutual

/-- A value over several lines, inside `level` arrays and objects; an empty array
or object stays on its line. -/
def writePretty (level : Nat) : Value → List Char
  | .null => ['n', 'u', 'l', 'l']
  | .bool true => ['t', 'r', 'u', 'e']
  | .bool false => ['f', 'a', 'l', 's', 'e']
  | .integer n => writeInteger n
  | .float x => writeFloat x
  | .string s => writeText s
  | .array [] => ['[', ']']
  | .array (x :: xs) =>
    '[' :: newLine (level + 1) ++ writePretty (level + 1) x ++ writePrettyElements level xs
  | .object [] => ['{', '}']
  | .object ((k, v) :: ms) =>
    '{' :: newLine (level + 1) ++ writeText k ++ ':' :: ' ' :: writePretty (level + 1) v ++
      writePrettyMembers level ms

/-- The elements after the first one of an array at a level, to its end. -/
def writePrettyElements (level : Nat) : List Value → List Char
  | [] => newLine level ++ [']']
  | x :: xs =>
    ',' :: newLine (level + 1) ++ writePretty (level + 1) x ++ writePrettyElements level xs

/-- The members after the first one of an object at a level, to its end. -/
def writePrettyMembers (level : Nat) : List (String × Value) → List Char
  | [] => newLine level ++ ['}']
  | (k, v) :: ms =>
    ',' :: newLine (level + 1) ++ writeText k ++ ':' :: ' ' :: writePretty (level + 1) v ++
      writePrettyMembers level ms

end

/-- A value over several lines. -/
def Value.pretty (v : Value) : String := String.ofList (writePretty 0 v)

end Rulebook.Json
