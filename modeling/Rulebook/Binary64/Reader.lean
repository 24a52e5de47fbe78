import Rulebook.Binary64.Basic
import Rulebook.Text.Integer
import Rulebook.Text.LowerCase

/-!
# Doubles in decimal

A text that is a number, and nothing else, is read as the double nearest to it. The
number may have a sign, a point and an exponent, and there has to be a digit before or
behind the point. The infinities and NaN are written as words, in any case.
-/

namespace Rulebook.Binary64

/-- Whether a character stands before an exponent. -/
def isExponentMark (c : Char) : Bool := c == 'e' || c == 'E'

/-- The exponent of a number, from its mark on. -/
def exponent? : List Char → Option Int
  | [] => some 0
  | _ :: '-' :: cs => (Text.digits? cs).map fun n => -(n : Int)
  | _ :: cs => (Text.digits? (Text.unsigned cs)).map Int.ofNat

/-- A number without its sign. -/
def magnitude? (negative : Bool) (cs : List Char) : Option Binary64 := do
  let mantissa := cs.takeWhile (! isExponentMark ·)
  let whole := mantissa.takeWhile (· != '.')
  let fraction := (mantissa.dropWhile (· != '.')).drop 1
  let n ← Text.digits? (whole ++ fraction)
  let e ← exponent? (cs.dropWhile (! isExponentMark ·))
  some (.ofDecimal negative n (e - fraction.length))

/-- The double that a text stands for. -/
def read? (s : String) : Option Binary64 :=
  let (negative, cs) := match s.toList with
    | '-' :: cs => (true, cs)
    | cs => (false, Text.unsigned cs)
  match Text.lowerAscii (String.ofList cs) with
  | "inf" => some (.infinite negative)
  | "infinity" => some (.infinite negative)
  | "nan" => some .nan
  | _ => magnitude? negative cs

end Rulebook.Binary64
