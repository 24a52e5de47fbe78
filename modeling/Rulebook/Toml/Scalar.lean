import Rulebook.Json.Literal
import Rulebook.Toml.Value

/-!
# Numbers, dates and words of a settings file

A value that is no text, list or table is written without any quotation mark. It is
one of the words `true` and `false`, an integer, a float, or a date with or without a
time, and its form alone decides which. Underscores may stand between digits.
-/

namespace Rulebook.Toml

/-! ### Digits -/

/-- Digits of a base, with single underscores between them taken out; `value?` tells
the digits from other characters. -/
def plainDigits (isDigit : Char → Bool) : List Char → Option (List Char)
  | [] => none
  | [c] => if isDigit c then some [c] else none
  | c :: '_' :: cs => if isDigit c then (plainDigits isDigit cs).map (c :: ·) else none
  | c :: cs => if isDigit c then (plainDigits isDigit cs).map (c :: ·) else none

/-- The number that decimal digits stand for. -/
def decimal (ds : List Char) : Nat := ds.foldl (fun n c => n * 10 + (c.toNat - 48)) 0

/-- A text cut before the first of some characters. -/
def cutBefore (marks : List Char) (cs : List Char) : List Char × List Char :=
  (cs.takeWhile (! marks.contains ·), cs.dropWhile (! marks.contains ·))

/-- The sign in front of a number, and the rest. -/
def cutSign : List Char → Bool × List Char
  | '-' :: cs => (true, cs)
  | '+' :: cs => (false, cs)
  | cs => (false, cs)

/-! ### Integers -/

/-- The range of integers. -/
def inRange (n : Int) : Bool := -0x8000000000000000 ≤ n && n < 0x8000000000000000

/-- Whole digits without a zero in front of others. -/
def wholeDigits (cs : List Char) : Option (List Char) :=
  match plainDigits Char.isDigit cs with
  | some ('0' :: _ :: _) => none
  | ds => ds

/-- An integer in a base other than ten. -/
def basedInteger (base : Nat) (cs : List Char) : Option Int := do
  let isDigit (c : Char) : Bool := (Json.hexValue? c).any (· < base)
  let ds ← plainDigits isDigit cs
  let n := ds.foldl (fun n c => n * base + (Json.hexValue? c).getD 0) 0
  if inRange n then some n else none

/-- An integer. -/
def integer? (cs : List Char) : Option Int :=
  match cs with
  | '0' :: 'x' :: ds => basedInteger 16 ds
  | '0' :: 'o' :: ds => basedInteger 8 ds
  | '0' :: 'b' :: ds => basedInteger 2 ds
  | cs => do
    let (negative, cs) := cutSign cs
    let n := decimal (← wholeDigits cs)
    let n : Int := if negative then -n else n
    if inRange n then some n else none

/-! ### Floats -/

/-- The exponent of a float, from its mark on. -/
def exponent? : List Char → Option Int
  | [] => some 0
  | _ :: cs => do
    let (negative, cs) := cutSign cs
    let n := decimal (← plainDigits Char.isDigit cs)
    some (if negative then -n else n)

/-- A float: whole digits with a fraction, an exponent or both, or one of the words
`inf` and `nan`. A number too large for every double is refused. -/
def float? (cs : List Char) : Option Binary64 :=
  let (negative, cs) := cutSign cs
  if cs = ['i', 'n', 'f'] then some (.infinite negative)
  else if cs = ['n', 'a', 'n'] then some .nan
  else do
    let (mantissa, power) := cutBefore ['e', 'E'] cs
    let (whole, fraction) := cutBefore ['.'] mantissa
    if power = [] ∧ fraction = [] then none
    else
      let ds ← wholeDigits whole
      let fs ← if fraction = [] then some [] else plainDigits Char.isDigit (fraction.drop 1)
      let x := Binary64.ofDecimal negative (decimal (ds ++ fs)) ((← exponent? power) - fs.length)
      if x.isInfinite then none else some x

/-! ### Dates and times -/

/-- A number of exactly `n` digits. -/
def fixed? (n : Nat) (cs : List Char) : Option Nat :=
  if cs.length = n ∧ cs.all Char.isDigit then some (decimal cs) else none

/-- The number of days in a month. -/
def daysIn (year month : Nat) : Nat :=
  if month = 2 then
    if year % 4 = 0 ∧ (year % 100 ≠ 0 ∨ year % 400 = 0) then 29 else 28
  else if [4, 6, 9, 11].contains month then 30
  else 31

/-- A date in its usual form. -/
def date? (cs : List Char) : Option String :=
  match cs with
  | [y₁, y₂, y₃, y₄, '-', m₁, m₂, '-', d₁, d₂] => do
    let y ← fixed? 4 [y₁, y₂, y₃, y₄]
    let m ← fixed? 2 [m₁, m₂]
    let d ← fixed? 2 [d₁, d₂]
    if 1 ≤ m ∧ m ≤ 12 ∧ 1 ≤ d ∧ d ≤ daysIn y m then some (String.ofList cs) else none
  | _ => none

/-- The fraction of a second, to nine digits and without zeros at its end. -/
def secondFraction (cs : List Char) : Option (List Char) :=
  match cs with
  | [] => some []
  | '.' :: ds =>
    if ds ≠ [] ∧ ds.all Char.isDigit then
      let kept := ((ds.take 9).reverse.dropWhile (· == '0')).reverse
      some (if kept = [] then [] else '.' :: kept)
    else none
  | _ => none

/-- The seconds of a time of day, from their colon on. They may be missing. -/
def seconds? (cs : List Char) : Option (List Char) :=
  match cs with
  | [] => some []
  | ':' :: s₁ :: s₂ :: rest => do
    let s ← fixed? 2 [s₁, s₂]
    let f ← secondFraction rest
    if s ≤ 60 then some (':' :: s₁ :: s₂ :: f) else none
  | _ => none

/-- A time of day in its usual form. -/
def time? (cs : List Char) : Option String :=
  match cs with
  | h₁ :: h₂ :: ':' :: m₁ :: m₂ :: rest => do
    let h ← fixed? 2 [h₁, h₂]
    let m ← fixed? 2 [m₁, m₂]
    let s ← seconds? rest
    if h ≤ 23 ∧ m ≤ 59 then some (String.ofList ([h₁, h₂, ':', m₁, m₂] ++ s)) else none
  | _ => none

/-- A time of day with the offset of its zone, if it has one. -/
def zonedTime? (cs : List Char) : Option String :=
  let (time, zone) := cutBefore ['Z', 'z', '+', '-'] cs
  match zone with
  | [] => time? time
  | ['Z'] | ['z'] => do some ((← time? time) ++ "Z")
  | [_, h₁, h₂, ':', m₁, m₂] => do
    let h ← fixed? 2 [h₁, h₂]
    let m ← fixed? 2 [m₁, m₂]
    let t ← time? time
    if h ≤ 23 ∧ m ≤ 59 then some (t ++ String.ofList zone) else none
  | _ => none

/-- A date, a time of day, or a date with a time; the two are joined by the letter
`T` in any case. -/
def moment? (cs : List Char) : Option String :=
  match date? (cs.take 10), cs.drop 10 with
  | some d, [] => some d
  | some d, sep :: rest =>
    if ['T', 't', ' '].contains sep then do some (d ++ "T" ++ (← zonedTime? rest)) else none
  | none, _ => time? cs

/-! ### Any of them -/

/-- The value that is written without quotation marks. -/
def scalar? (cs : List Char) : Option Value :=
  if cs = ['t', 'r', 'u', 'e'] then some (.flag true)
  else if cs = ['f', 'a', 'l', 's', 'e'] then some (.flag false)
  else
    match integer? cs, float? cs, moment? cs with
    | some n, _, _ => some (.integer n)
    | none, some x, _ => some (.float x)
    | none, none, some s => some (.text s)
    | none, none, none => none

/-- The characters that end a value without quotation marks. -/
def scalarEnds : List Char := [' ', '\t', '\n', '\r', ',', ']', '}', '#']

/-- A value without quotation marks at the front. A single space may stand between a
date and a time. -/
def readScalar (cs : List Char) : Option (Value × List Char) :=
  let (token, rest) := cutBefore scalarEnds cs
  match rest with
  | ' ' :: c :: rest' =>
    if (date? token).isSome ∧ c.isDigit then do
      let (time, rest) := cutBefore scalarEnds (c :: rest')
      some (← scalar? (token ++ ' ' :: time), rest)
    else (scalar? token).map (·, rest)
  | rest => (scalar? token).map (·, rest)

end Rulebook.Toml
