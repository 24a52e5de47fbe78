import Rulebook.Json.ReadError
import Rulebook.Json.Value

/-!
# Reading numbers

The digits of a number are collected into one natural number below `2 ^ 64`, the
*significand*, and a power of ten. Once another digit would not fit, the digits
that are left of the point only raise the power, and those right of it are
dropped. A number without point and exponent whose digits all fit is an integer
if it is in the range of integers; every other number is a double, computed from
significand and power with one multiplication or division where the power of ten
is itself a double (`Rulebook.Json.assemble`). The result can therefore differ in
its last place from the double nearest to the written number.

Every reader takes what is left of the text and returns, with its result, what is
left after it.
-/

namespace Rulebook.Json

/-- Something read from the front of a text, with what is left after it. -/
abbrev Read (α : Type) := α × List Char

/-! ### Digits -/

/-- The value of a decimal digit. -/
def digitValue (c : Char) : Nat := c.toNat - 48

/-- Adds digits to a significand as long as it stays below `2 ^ 64`; gives the
significand, how many digits were added, and the rest. -/
def gatherDigits (significand : Nat) : List Char → Nat × Nat × List Char
  | [] => (significand, 0, [])
  | c :: cs =>
    if c.isDigit ∧ significand * 10 + digitValue c < 0x10000000000000000 then
      let (s, n, rest) := gatherDigits (significand * 10 + digitValue c) cs
      (s, n + 1, rest)
    else (significand, 0, c :: cs)

/-- The digits at the front, counted, and the rest. -/
def passDigits (cs : List Char) : Nat × List Char :=
  ((cs.takeWhile Char.isDigit).length, cs.dropWhile Char.isDigit)

/-! ### From digits to a double -/

/-- The double nearest to a power of ten. -/
def powerOfTen (n : Nat) : Binary64 := Binary64.ofNat (Nat.pow 10 n)

/-- A double divided by `10 ^ n`, in steps of at most 308 powers. -/
def shrink (x : Binary64) (n : Nat) : Binary64 :=
  if n ≤ 308 then x.div (powerOfTen n)
  else if x.isZero then x
  else shrink (x.div (powerOfTen 308)) (n - 308)
  termination_by n

/-- The double for `± significand · 10 ^ exponent`, or nothing if it would be
infinite. -/
def assemble (negative : Bool) (significand : Nat) (exponent : Int) : Option Binary64 :=
  let x := Binary64.ofNat significand
  let magnitude :=
    if exponent < 0 then some (shrink x exponent.natAbs)
    else if exponent.toNat ≤ 308 then
      let y := x.mul (powerOfTen exponent.toNat)
      if y.isInfinite then none else some y
    else if significand = 0 then some x
    else none
  magnitude.map fun y => if negative then y.neg else y

/-- The double for a significand and a power of ten that were read up to `cs`. -/
def finishFloat (negative : Bool) (significand : Nat) (exponent : Int) (cs : List Char) :
    Except Stop (Read Value) :=
  match assemble negative significand exponent with
  | some x => .ok (.float x, cs)
  | none => .error (.here .numberOutOfRange cs)

/-! ### The exponent -/

/-- Adds digits to an exponent below `2 ^ 31`; gives the exponent and the rest,
or, in front of the first digit that does not fit, nothing and the rest after
that digit. -/
def gatherExponent (e : Nat) : List Char → Option Nat × List Char
  | [] => (some e, [])
  | c :: cs =>
    if c.isDigit then
      if e * 10 + digitValue c < 0x80000000 then gatherExponent (e * 10 + digitValue c) cs
      else (none, cs)
    else (some e, c :: cs)

/-- The exponent after its mark and its sign, and the end of the number. -/
def readExponentDigits (negative : Bool) (significand : Nat) (power : Int) (raises : Bool) :
    List Char → Except Stop (Read Value)
  | [] => .error (.here .eofInValue [])
  | c :: cs =>
    if ! c.isDigit then .error (.past .invalidNumber (c :: cs))
    else
      match gatherExponent (digitValue c) cs with
      | (some e, rest) =>
        finishFloat negative significand (if raises then power + e else power - e) rest
      | (none, rest) =>
        if significand ≠ 0 ∧ raises then .error (.here .numberOutOfRange rest)
        else .ok (.float (.zero negative), rest.dropWhile Char.isDigit)

/-- The exponent after its mark, and the end of the number. -/
def readExponent (negative : Bool) (significand : Nat) (power : Int) :
    List Char → Except Stop (Read Value)
  | '+' :: cs => readExponentDigits negative significand power true cs
  | '-' :: cs => readExponentDigits negative significand power false cs
  | cs => readExponentDigits negative significand power true cs

/-! ### Fraction and whole part -/

/-- What may follow the digits of a double: an exponent, or the end. -/
def readTail (negative : Bool) (significand : Nat) (power : Int) :
    List Char → Except Stop (Read Value)
  | 'e' :: cs => readExponent negative significand power cs
  | 'E' :: cs => readExponent negative significand power cs
  | cs => finishFloat negative significand power cs

/-- The fraction after the point, and the end of the number. -/
def readFraction (negative : Bool) (significand : Nat) (power : Int) (cs : List Char) :
    Except Stop (Read Value) :=
  let (s, n, rest) := gatherDigits significand cs
  let (dropped, rest') := passDigits rest
  if n + dropped = 0 then
    .error (if rest.isEmpty then .here .eofInValue [] else .past .invalidNumber rest)
  else readTail negative s (power - n) rest'

/-- The number whose digits left of the point gave `significand` and, where they
did not all fit, a positive power of ten. -/
def readAfterWhole (negative : Bool) (significand : Nat) (power : Nat) :
    List Char → Except Stop (Read Value)
  | '.' :: cs => readFraction negative significand power cs
  | cs =>
    if power ≠ 0 ∨ cs.head? = some 'e' ∨ cs.head? = some 'E' then
      readTail negative significand power cs
    else if ! negative then .ok (.integer significand, cs)
    else if significand ≠ 0 ∧ significand ≤ 0x8000000000000000 then
      .ok (.integer (-significand), cs)
    else .ok (.float (Binary64.ofNat significand).neg, cs)

/-- A number without its sign. -/
def readUnsigned (negative : Bool) : List Char → Except Stop (Read Value)
  | [] => .error (.here .eofInValue [])
  | '0' :: cs =>
    if cs.head?.any Char.isDigit then .error (.past .invalidNumber cs)
    else readAfterWhole negative 0 0 cs
  | c :: cs =>
    if c.isDigit then
      let (s, _, rest) := gatherDigits (digitValue c) cs
      let (extra, rest) := passDigits rest
      readAfterWhole negative s extra rest
    else .error (.past .invalidNumber (c :: cs))

/-- A number that starts with a digit or a minus sign. -/
def readNumber : List Char → Except Stop (Read Value)
  | '-' :: cs => readUnsigned true cs
  | cs => readUnsigned false cs

end Rulebook.Json
