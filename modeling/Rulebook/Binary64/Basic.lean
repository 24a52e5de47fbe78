/-!
# Binary floating-point numbers of 64 bits

The numbers of rule data and of the retry schedule that are not integers are
doubles. A double is written here as what it is, a sign, a significand and an
exponent of two, and its arithmetic is exact arithmetic on natural numbers
followed by one rounding (`Rulebook.Binary64.ofRatio`). So every law about a
computed number is a law about quotients of natural numbers.

## Canonical form

A finite number is kept in the form that the format stores: the significand has
53 bits, or fewer if the exponent is the least one, `-1074`. Two doubles other
than NaN are then the same number with the same sign of zero exactly if they are
equal as values of the type, and NaN is one value.
-/

namespace Rulebook

/-- A double: NaN, an infinity, or `± significand · 2 ^ exponent`. -/
inductive Binary64 where
  | nan
  | infinite (negative : Bool)
  | finite (negative : Bool) (significand : Nat) (exponent : Int)
  deriving DecidableEq, Inhabited

namespace Binary64

/-! ### Rounding -/

/-- The natural number nearest to `num / den`; of two that are equally near, the
even one. -/
def roundQuotient (num den : Nat) : Nat :=
  let q := num / den
  let r := num % den
  if 2 * r > den ∨ (2 * r = den ∧ q % 2 = 1) then q + 1 else q

/-- The exponent of the greatest power of two that is not above `num / den`, for
a positive quotient. -/
def floorLog2 (num den : Nat) : Int :=
  let e : Int := (Nat.log2 num : Int) - Nat.log2 den
  let above : Bool :=
    if 0 ≤ e then decide (num < den * Nat.pow 2 e.toNat)
    else decide (num * Nat.pow 2 (-e).toNat < den)
  if above then e - 1 else e

/-- The least exponent of a double. -/
def minExponent : Int := -1074

/-- The greatest exponent of a double. -/
def maxExponent : Int := 971

/-- Zero, with a sign. -/
def zero (negative : Bool) : Binary64 := .finite negative 0 minExponent

/-- The double nearest to `± num / den`; a quotient too large for every finite
double gives an infinity. -/
def ofRatio (negative : Bool) (num den : Nat) : Binary64 :=
  if num = 0 then zero negative
  else
    let e := max minExponent (floorLog2 num den - 52)
    let m :=
      if 0 ≤ e then roundQuotient num (den * Nat.pow 2 e.toNat)
      else roundQuotient (num * Nat.pow 2 (-e).toNat) den
    let (m, e) := if m = 0x20000000000000 then (0x10000000000000, e + 1) else (m, e)
    if e > maxExponent then .infinite negative else .finite negative m e

/-- The double nearest to a natural number. -/
def ofNat (n : Nat) : Binary64 := ofRatio false n 1

/-- The double nearest to an integer. -/
def ofInt (n : Int) : Binary64 := ofRatio (n < 0) n.natAbs 1

/-- The double nearest to `± digits · 10 ^ exponent`. -/
def ofDecimal (negative : Bool) (digits : Nat) (exponent : Int) : Binary64 :=
  if digits = 0 then zero negative
  else if exponent > 400 then .infinite negative
  else if exponent + (Nat.toDigits 10 digits).length < -400 then zero negative
  else if 0 ≤ exponent then ofRatio negative (digits * Nat.pow 10 exponent.toNat) 1
  else ofRatio negative digits (Nat.pow 10 (-exponent).toNat)

/-! ### Parts of a number -/

/-- Whether the sign is a minus; NaN has none. -/
def isNegative : Binary64 → Bool
  | nan => false
  | infinite negative => negative
  | finite negative _ _ => negative

/-- The number with the other sign. -/
def neg : Binary64 → Binary64
  | nan => nan
  | infinite negative => infinite (! negative)
  | finite negative m e => finite (! negative) m e

/-- Whether the number is a zero, of either sign. -/
def isZero : Binary64 → Bool
  | finite _ m _ => m == 0
  | _ => false

/-- Whether the number is an infinity. -/
def isInfinite : Binary64 → Bool
  | infinite _ => true
  | _ => false

/-- Numerator and denominator of `m · 2 ^ e`. -/
def ratio (m : Nat) (e : Int) : Nat × Nat :=
  if 0 ≤ e then (m * Nat.pow 2 e.toNat, 1) else (m, Nat.pow 2 (-e).toNat)

/-! ### Arithmetic -/

/-- The product, rounded once. -/
def mul : Binary64 → Binary64 → Binary64
  | nan, _ => nan
  | _, nan => nan
  | infinite s, y => if y.isZero then nan else infinite (s != y.isNegative)
  | x, infinite s => if x.isZero then nan else infinite (s != x.isNegative)
  | finite s₁ m₁ e₁, finite s₂ m₂ e₂ =>
    let (num, den) := ratio (m₁ * m₂) (e₁ + e₂)
    ofRatio (s₁ != s₂) num den

/-- The quotient, rounded once. -/
def div : Binary64 → Binary64 → Binary64
  | nan, _ => nan
  | _, nan => nan
  | infinite _, infinite _ => nan
  | infinite s, y => infinite (s != y.isNegative)
  | x, infinite s => zero (s != x.isNegative)
  | finite s₁ m₁ e₁, finite s₂ m₂ e₂ =>
    if m₂ = 0 then (if m₁ = 0 then nan else infinite (s₁ != s₂))
    else
      let (num₁, den₁) := ratio m₁ e₁
      let (num₂, den₂) := ratio m₂ e₂
      ofRatio (s₁ != s₂) (num₁ * den₂) (den₁ * num₂)

/-- The number `± m · 2 ^ e` as a multiple of the least double, which every
finite double is. -/
def ticks (negative : Bool) (m : Nat) (e : Int) : Int :=
  let n : Nat := m * Nat.pow 2 (e - minExponent).toNat
  if negative then -(n : Int) else n

/-- Whether the first number is less than the second; NaN is less than nothing
and nothing is less than NaN. -/
def lt : Binary64 → Binary64 → Bool
  | nan, _ => false
  | _, nan => false
  | infinite s, infinite t => s && ! t
  | infinite s, finite _ _ _ => s
  | finite _ _ _, infinite t => ! t
  | finite s m e, finite t n f => ticks s m e < ticks t n f

/-- The lesser of two numbers; where one of them is NaN, the other. -/
def min (x y : Binary64) : Binary64 :=
  if x = nan then y else if y = nan then x else if y.lt x then y else x

/-- The power `x ^ n` by repeated squaring, as a product of the factors
`x ^ (2 ^ i)` taken in increasing order; every product is rounded. -/
def powNat (x : Binary64) (n : Nat) : Binary64 :=
  go (n + 1) (ofNat 1) x n
where
  /-- Multiplies `acc` by the power that is left. -/
  go : Nat → Binary64 → Binary64 → Nat → Binary64
    | 0, acc, _, _ => acc
    | fuel + 1, acc, x, n =>
      let acc := if n % 2 = 1 then acc.mul x else acc
      if n / 2 = 0 then acc else go fuel acc (x.mul x) (n / 2)

/-- The power with an integer exponent: a negative one gives the reciprocal of
the power with the opposite exponent. -/
def powInt (x : Binary64) (n : Int) : Binary64 :=
  let r := x.powNat n.natAbs
  if n < 0 then (ofNat 1).div r else r

/-! ### Whole numbers -/

/-- The natural number that is left when the fraction is dropped, no less than
zero and no greater than `limit`; NaN gives zero. -/
def truncate (limit : Nat) : Binary64 → Nat
  | nan => 0
  | infinite negative => if negative then 0 else limit
  | finite negative m e =>
    if negative then 0
    else
      let (num, den) := ratio m e
      Nat.min (num / den) limit

/-- The number rounded to a whole one, a half going away from zero. -/
def roundHalfAway : Binary64 → Binary64
  | finite negative m e =>
    let (num, den) := ratio m e
    ofRatio negative ((2 * num + den) / (2 * den)) 1
  | x => x

end Binary64

end Rulebook
