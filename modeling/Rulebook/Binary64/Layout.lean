import Rulebook.Binary64.Shortest

/-!
# How a double is written

Every place that writes doubles takes the digits of
`Rulebook.Binary64.shortest`; the places differ in when they write an exponent
and in how they write it. A `Rulebook.Binary64.Layout` records these decisions,
and `Rulebook.Binary64.Layout.write` follows them.
-/

namespace Rulebook.Binary64

/-- The decisions of a format for doubles. -/
structure Layout where
  /-- The decimal exponents of numbers that are written without an exponent: the
  first is included, the last is not. Without bounds no exponent is ever
  written. -/
  positional : Option (Int × Int)
  /-- Whether a number written without exponent always has a fraction. -/
  pointZero : Bool
  /-- What stands before an exponent that is not negative. -/
  plus : String
  /-- The text of an infinity, without its sign. -/
  infinity : String
  /-- The text of NaN. -/
  notANumber : String

/-- `n` zeros. -/
def zeros (n : Nat) : List Char := List.replicate n '0'

/-- The digits with a point after the first `whole` of them, where `whole` may
lie outside; `pointZero` asks for a fraction in any case. -/
def positionalDigits (pointZero : Bool) (digits : List Char) (whole : Int) : List Char :=
  let tail := if pointZero then ['.', '0'] else []
  if whole ≤ 0 then '0' :: '.' :: zeros (-whole).toNat ++ digits
  else if digits.length ≤ whole.toNat then digits ++ zeros (whole.toNat - digits.length) ++ tail
  else digits.take whole.toNat ++ '.' :: digits.drop whole.toNat

/-- The digits with a point after the first one, if there is a second. -/
def pointedDigits : List Char → List Char
  | [] => []
  | [d] => [d]
  | d :: ds => d :: '.' :: ds

/-- A positive decimal in a layout. -/
def Layout.writeDecimal (layout : Layout) (d : Decimal) : List Char :=
  let digits := Nat.toDigits 10 d.digits
  let lead : Int := digits.length - 1 + d.exponent
  let plain := match layout.positional with
    | none => true
    | some (first, last) => first ≤ lead && lead < last
  if plain then positionalDigits layout.pointZero digits (lead + 1)
  else
    let sign := if lead < 0 then "-" else layout.plus
    pointedDigits digits ++ 'e' :: sign.toList ++ Nat.toDigits 10 lead.natAbs

/-- A double in a layout. -/
def Layout.write (layout : Layout) : Binary64 → String
  | nan => layout.notANumber
  | infinite negative => (if negative then "-" else "") ++ layout.infinity
  | finite negative m e =>
    let sign := if negative then ['-'] else []
    let body :=
      if m = 0 then '0' :: (if layout.pointZero then ['.', '0'] else [])
      else layout.writeDecimal (shortest m e)
    String.ofList (sign ++ body)

/-- Doubles in settings and reports: positional from `0.0001` to below `1e16`,
always with a fraction there, and an exponent without plus sign. -/
def Layout.report : Layout := ⟨some (-4, 16), true, "", "inf", "NaN"⟩

/-- Doubles as plain text: never an exponent, and no fraction for a whole
number. -/
def Layout.plain : Layout := ⟨none, false, "", "inf", "NaN"⟩

end Rulebook.Binary64
