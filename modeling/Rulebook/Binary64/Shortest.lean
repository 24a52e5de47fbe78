import Rulebook.Binary64.Basic

/-!
# The shortest decimal of a double

A double is written with the fewest decimal digits that read back as the same
double; of two decimals with that many digits the nearer one is taken, and of
two that are equally near the one whose digits form an even number.

The real numbers that read back as `m · 2 ^ e` form an interval, whose ends
belong to it exactly if `m` is even. The search goes from one digit to
seventeen: if any decimal with a given number of digits lies in the interval,
then so does one of the two neighbours of the number itself.
-/

namespace Rulebook.Binary64

/-- A positive decimal: `digits · 10 ^ exponent`. -/
structure Decimal where
  digits : Nat
  exponent : Int
  deriving DecidableEq

/-- The decimals that read back as one double: all between `low / den` and
`high / den`, the ends included if `closed`. The double itself is
`value / den`. -/
structure Interval where
  value : Nat
  low : Nat
  high : Nat
  den : Nat
  closed : Bool

/-- The interval of `m · 2 ^ e`. Below a power of two the neighbouring double is
only half as far away as above it. -/
def interval (m : Nat) (e : Int) : Interval :=
  let low := if m = 0x10000000000000 ∧ e ≠ minExponent then 4 * m - 1 else 4 * m - 2
  let (scale, den) := ratio 1 (e - 2)
  { value := 4 * m * scale, low := low * scale, high := (4 * m + 2) * scale, den,
    closed := m % 2 == 0 }

/-- The number of decimal digits of a natural number. -/
def digitCount (n : Nat) : Nat := (Nat.toDigits 10 n).length

/-- The exponent of the greatest power of ten that is not above `num / den`, for
a positive quotient. -/
def floorLog10 (num den : Nat) : Int :=
  if den ≤ num then digitCount (num / den) - 1
  else
    let j := digitCount (den / num)
    if num * Nat.pow 10 (j - 1) = den then -((j : Int) - 1) else -(j : Int)

/-- Whether `n / den` lies in the interval, once its bounds are scaled to
`low / den` and `high / den`. -/
def Interval.covers (i : Interval) (n : Nat) : Bool :=
  if i.closed then i.low ≤ n && n ≤ i.high else i.low < n && n < i.high

/-- The interval with every number divided by `10 ^ grid`. -/
def Interval.scale (i : Interval) (grid : Int) : Interval :=
  if 0 ≤ grid then { i with den := i.den * Nat.pow 10 grid.toNat }
  else
    let f := Nat.pow 10 (-grid).toNat
    { i with value := i.value * f, low := i.low * f, high := i.high * f }

/-- The multiple of `10 ^ grid` in the interval that is nearest to the double,
if one of its two neighbours among these multiples lies there. -/
def Interval.nearest? (i : Interval) (grid : Int) : Option Nat :=
  let s := i.scale grid
  let below := s.value / s.den
  let rest := s.value % s.den
  let above := below + 1
  match s.covers (below * s.den), s.covers (above * s.den) with
  | true, false => some below
  | false, true => some above
  | false, false => none
  | true, true =>
    if 2 * rest < s.den then some below
    else if 2 * rest > s.den then some above
    else if below % 2 = 0 then some below else some above

/-- Takes the zeros at the end of the digits into the exponent. -/
def Decimal.strip (d : Decimal) : Decimal :=
  go d.digits d
where
  /-- Strips at most as many zeros as the first argument says. -/
  go : Nat → Decimal → Decimal
    | 0, d => d
    | fuel + 1, d =>
      if d.digits ≠ 0 ∧ d.digits % 10 = 0 then go fuel ⟨d.digits / 10, d.exponent + 1⟩ else d

/-- The shortest decimal that reads back as `m · 2 ^ e`, for positive `m`. -/
def shortest (m : Nat) (e : Int) : Decimal :=
  let i := interval m e
  let top := floorLog10 i.value i.den
  let candidates := (List.range 18).filterMap fun (n : Nat) =>
    let grid := top - n
    (i.nearest? grid).map fun digits => (⟨digits, grid⟩ : Decimal)
  ((candidates.head?).getD ⟨0, 0⟩).strip

end Rulebook.Binary64
