import Rulebook.Json.Numeral

/-!
# Reading strings and words

A string is read from behind its opening quotation mark. An escape of four
hexadecimal digits names a UTF-16 unit, so a character above U+FFFF takes two of
them; half a pair is refused.
-/

namespace Rulebook.Json

open Text.Utf8 (byteCount)

/-! ### Escapes -/

/-- The value of a hexadecimal digit. -/
def hexValue? (c : Char) : Option Nat :=
  if c.isDigit then some (c.toNat - 48)
  else if 'a' ≤ c ∧ c ≤ 'f' then some (c.toNat - 87)
  else if 'A' ≤ c ∧ c ≤ 'F' then some (c.toNat - 55)
  else none

/-- The value of four hexadecimal digits. -/
def hexUnit? (a b c d : Char) : Option Nat :=
  match hexValue? a, hexValue? b, hexValue? c, hexValue? d with
  | some a, some b, some c, some d => some (((a * 16 + b) * 16 + c) * 16 + d)
  | _, _, _, _ => none

/-- Why four digits cannot be read from `cs`: there are not four bytes left, or
they are something else. -/
def hexStop (cs : List Char) : Stop :=
  if byteCount cs < 4 then ⟨.eofInString, some 0⟩ else ⟨.invalidEscape, some (byteCount cs - 4)⟩

/-- The character that a letter after a backslash stands for. -/
def simpleEscape? (c : Char) : Option Char :=
  match c with
  | '"' => some '"'
  | '\\' => some '\\'
  | '/' => some '/'
  | 'b' => some '\x08'
  | 'f' => some '\x0c'
  | 'n' => some '\n'
  | 'r' => some '\r'
  | 't' => some '\t'
  | _ => none

/-- A unit that only the first half of a pair can be. -/
def isHighSurrogate (n : Nat) : Bool := 0xD800 ≤ n && n ≤ 0xDBFF

/-- A unit that only the second half of a pair can be. -/
def isLowSurrogate (n : Nat) : Bool := 0xDC00 ≤ n && n ≤ 0xDFFF

/-- The character that a pair of units stands for. -/
def pairedChar (high low : Nat) : Char :=
  Char.ofNat (0x10000 + (high - 0xD800) * 0x400 + (low - 0xDC00))

/-- Why the first half of a pair is not followed by a second one. -/
def pairStop : List Char → Stop
  | '\\' :: 'u' :: cs => hexStop cs
  | '\\' :: cs => if cs.isEmpty then .here .eofInString [] else .past .missingSurrogate cs
  | cs => if cs.isEmpty then .here .eofInString [] else .past .missingSurrogate cs

/-! ### Strings -/

/-- Puts a character before a string that was read. -/
def pushChar (c : Char) (s : Except Stop (Read (List Char))) : Except Stop (Read (List Char)) :=
  s.map fun (cs, rest) => (c :: cs, rest)

/-- A string, from behind its opening quotation mark to behind the closing
one. -/
def readChars : List Char → Except Stop (Read (List Char))
  | [] => .error (.here .eofInString [])
  | '"' :: cs => .ok ([], cs)
  | '\\' :: 'u' :: a :: b :: c :: d :: cs =>
    match hexUnit? a b c d with
    | none => .error (hexStop (a :: b :: c :: d :: cs))
    | some n =>
      if isLowSurrogate n then .error (.here .loneSurrogate cs)
      else if isHighSurrogate n then
        match cs with
        | '\\' :: 'u' :: a' :: b' :: c' :: d' :: cs' =>
          match hexUnit? a' b' c' d' with
          | none => .error (hexStop (a' :: b' :: c' :: d' :: cs'))
          | some n' =>
            if isLowSurrogate n' then pushChar (pairedChar n n') (readChars cs')
            else .error (.here .loneSurrogate cs')
        | cs => .error (pairStop cs)
      else pushChar (Char.ofNat n) (readChars cs)
  | '\\' :: 'u' :: cs => .error (hexStop cs)
  | '\\' :: c :: cs =>
    match simpleEscape? c with
    | some x => pushChar x (readChars cs)
    | none => .error (.past .invalidEscape (c :: cs))
  | ['\\'] => .error (.here .eofInString [])
  | c :: cs =>
    if c.toNat < 0x20 then .error (.past .controlCharacter (c :: cs))
    else pushChar c (readChars cs)

/-- A string, from behind its opening quotation mark to behind the closing
one. -/
def readString (cs : List Char) : Except Stop (Read String) :=
  (readChars cs).map fun (s, rest) => (String.ofList s, rest)

/-! ### Words -/

/-- The rest of the word `null`, `true` or `false`. -/
def readWord : List Char → List Char → Except Stop (List Char)
  | [], cs => .ok cs
  | _ :: _, [] => .error (.here .eofInValue [])
  | w :: ws, c :: cs => if c = w then readWord ws cs else .error (.past .expectedWord (c :: cs))

end Rulebook.Json
