/-!
# Integers in decimal

A text that is an integer, and nothing else, is read in decimal. It may have a sign,
and zeros in front do not count. An integer that does not fit is none.
-/

namespace Rulebook.Text

/-- The number that some digits stand for, the first one the most significant. -/
def ofDigits (cs : List Char) : Nat := cs.foldl (fun n c => n * 10 + (c.toNat - 48)) 0

/-- The number that a text of digits stands for; there has to be one at least. -/
def digits? (cs : List Char) : Option Nat :=
  if cs ≠ [] ∧ cs.all Char.isDigit then some (ofDigits cs) else none

/-- The characters behind a plus sign, if there is one. -/
def unsigned : List Char → List Char
  | '+' :: cs => cs
  | cs => cs

/-- A natural number below a limit. -/
def natural? (limit : Nat) (s : String) : Option Nat :=
  (digits? (unsigned s.toList)).filter (· < limit)

/-- An integer of 64 bits. -/
def integer? (s : String) : Option Int :=
  match s.toList with
  | '-' :: cs => ((digits? cs).filter (· ≤ 0x8000000000000000)).map fun n => -(n : Int)
  | cs => ((digits? (unsigned cs)).filter (· < 0x8000000000000000)).map Int.ofNat

/-! ### Examples -/

example : natural? 256 "+007" = some 7 := by decide

example : natural? 256 "256" = none := by decide

example : integer? "-9223372036854775808" = some (-(2 ^ 63)) := by decide

example : integer? "--1" = none := by decide

end Rulebook.Text
