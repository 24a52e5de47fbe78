import Rulebook.Json.Reader

/-!
# Passing over values

The members of a record that nobody asked for are passed over. Passing over is
laxer than reading in what it need not compute: a number may be too large, half a
surrogate pair may stand alone, and there is no limit on nesting. It is the same
in everything that decides where the value ends.
-/

namespace Rulebook.Json

/-! ### Scalars -/

/-- Passes over the exponent of a number, from behind its mark. -/
def skipExponent (cs : List Char) : Except Stop (List Char) :=
  let cs := match cs with
    | '+' :: rest => rest
    | '-' :: rest => rest
    | rest => rest
  match cs with
  | [] => .error (.here .invalidNumber [])
  | c :: rest =>
    if c.isDigit then .ok (rest.dropWhile Char.isDigit)
    else .error (.past .invalidNumber (c :: rest))

/-- Passes over what may follow the digits of a number. -/
def skipTail : List Char → Except Stop (List Char)
  | 'e' :: rest => skipExponent rest
  | 'E' :: rest => skipExponent rest
  | rest => .ok rest

/-- Passes over what may follow the digits left of the point. -/
def skipAfterWhole : List Char → Except Stop (List Char)
  | '.' :: rest =>
    if rest.head?.any Char.isDigit then skipTail (rest.dropWhile Char.isDigit)
    else .error (.past .invalidNumber rest)
  | rest => skipTail rest

/-- Passes over a number without its sign. -/
def skipUnsigned : List Char → Except Stop (List Char)
  | [] => .error (.here .invalidNumber [])
  | '0' :: rest =>
    if rest.head?.any Char.isDigit then .error (.past .invalidNumber rest) else skipAfterWhole rest
  | c :: rest =>
    if c.isDigit then skipAfterWhole (rest.dropWhile Char.isDigit)
    else .error (.past .invalidNumber (c :: rest))

/-- Passes over a string, from behind its opening quotation mark. -/
def skipString : List Char → Except Stop (List Char)
  | [] => .error (.here .eofInString [])
  | '"' :: rest => .ok rest
  | '\\' :: 'u' :: a :: b :: c :: d :: rest =>
    match hexUnit? a b c d with
    | some _ => skipString rest
    | none => .error (hexStop (a :: b :: c :: d :: rest))
  | '\\' :: 'u' :: rest => .error (hexStop rest)
  | '\\' :: c :: rest =>
    match simpleEscape? c with
    | some _ => skipString rest
    | none => .error (.past .invalidEscape (c :: rest))
  | ['\\'] => .error (.here .eofInString [])
  | c :: rest =>
    if c.toNat < 0x20 then .error (.here .controlCharacter (c :: rest)) else skipString rest

/-- Passes over a value that is no array and no object, in a text that does not
start with a space. -/
def skipScalar : List Char → Except Stop (List Char)
  | [] => .error (.here .eofInValue [])
  | 'n' :: rest => readWord ['u', 'l', 'l'] rest
  | 't' :: rest => readWord ['r', 'u', 'e'] rest
  | 'f' :: rest => readWord ['a', 'l', 's', 'e'] rest
  | '"' :: rest => skipString rest
  | '-' :: rest => skipUnsigned rest
  | c :: rest =>
    if c.isDigit then skipUnsigned (c :: rest) else .error (.past .expectedValue (c :: rest))

/-! ### Arrays and objects -/

/-- Passes over a name and the colon after it. -/
def skipKey (cs : List Char) : Except Stop (List Char) :=
  match skipSpace cs with
  | [] => .error (.here .eofInObject [])
  | '"' :: rest => do readColon (← skipString rest)
  | c :: rest => .error (.past .keyNotString (c :: rest))

mutual

/-- Passes over a value. Every call takes a character or is followed by one that
does, so `fuel` need not exceed twice the length of the text. -/
def skipValueLoop : Nat → List Char → Except Stop (List Char)
  | 0, cs => .error (.here .eofInValue cs)
  | fuel + 1, cs =>
    match skipSpace cs with
    | '[' :: rest =>
      match skipSpace rest with
      | [] => .error (.here .eofInList [])
      | ']' :: rest => .ok rest
      | rest => do skipElements fuel (← skipValueLoop fuel rest)
    | '{' :: rest =>
      match skipSpace rest with
      | [] => .error (.here .eofInObject [])
      | '}' :: rest => .ok rest
      | rest => do skipMembers fuel (← skipValueLoop fuel (← skipKey rest))
    | rest => skipScalar rest

/-- Passes over the rest of an array, from behind an element. -/
def skipElements : Nat → List Char → Except Stop (List Char)
  | 0, cs => .error (.here .eofInList cs)
  | fuel + 1, cs =>
    match skipSpace cs with
    | [] => .error (.here .eofInList [])
    | ']' :: rest => .ok rest
    | ',' :: rest => do skipElements fuel (← skipValueLoop fuel rest)
    | c :: rest => .error (.past .expectedListCommaOrEnd (c :: rest))

/-- Passes over the rest of an object, from behind a member. -/
def skipMembers : Nat → List Char → Except Stop (List Char)
  | 0, cs => .error (.here .eofInObject cs)
  | fuel + 1, cs =>
    match skipSpace cs with
    | [] => .error (.here .eofInObject [])
    | '}' :: rest => .ok rest
    | ',' :: rest => do skipMembers fuel (← skipValueLoop fuel (← skipKey rest))
    | c :: rest => .error (.past .expectedObjectCommaOrEnd (c :: rest))

end

/-- Passes over a value. -/
def skipValue (cs : List Char) : Except Stop (List Char) :=
  skipValueLoop (2 * cs.length + 2) cs

end Rulebook.Json
