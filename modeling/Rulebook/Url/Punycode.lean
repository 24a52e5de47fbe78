/-!
# Names in ASCII letters

A label of a host name that has other than ASCII characters is written with ASCII
characters alone: first those of its characters that are ASCII, then
the others in increasing order, each by the number of steps from the one before,
in a number system with digits `a` to `z` and `0` to `9` whose places change with
what has been written.
-/

namespace Rulebook.Url.Punycode

/-- The digit with a given value below 36. -/
def digit (n : Nat) : Char := Char.ofNat (if n < 26 then 0x61 + n else 0x16 + n)

/-- Divides the mean step by 35 until it is small; gives it with the bias that the
divisions add. -/
def settle (delta bias : Nat) : Nat × Nat :=
  if 455 < delta then settle (delta / 35) (bias + 36) else (delta, bias)
  termination_by delta

/-- The bias after a step of `delta`, when `count` characters have been written. -/
def adapt (delta count : Nat) (first : Bool) : Nat :=
  let delta := if first then delta / 700 else delta / 2
  let (delta, bias) := settle (delta + delta / count) 0
  bias + 36 * delta / (delta + 38)

/-- The value at which a place ends a number. -/
def threshold (place bias : Nat) : Nat := min 26 (max 1 (place - bias))

/-- The digits of a number, from the given place on. -/
def digits (bias : Nat) : (fuel place q : Nat) → List Char
  | 0, _, _ => []
  | fuel + 1, place, q =>
    let t := threshold place bias
    if q < t then [digit q]
    else digit (t + (q - t) % (36 - t)) :: digits bias fuel (place + 36) ((q - t) / (36 - t))

/-- The state between two characters: steps not yet written, bias, and the number
of characters written. -/
structure State where
  delta : Nat
  bias : Nat
  written : Nat

/-- Writes every place of the character with number `n` in a label. -/
def writeChar (basic n : Nat) : State → List Nat → List Char × State
  | s, [] => ([], s)
  | s, c :: cs =>
    if c < n then writeChar basic n { s with delta := s.delta + 1 } cs
    else if c = n then
      let ds := digits s.bias (s.delta + 1) 36 s.delta
      let bias := adapt s.delta (s.written + 1) (s.written == basic)
      let (rest, s) := writeChar basic n ⟨0, bias, s.written + 1⟩ cs
      (ds ++ rest, s)
    else writeChar basic n s cs

/-- Writes the characters with numbers from `n` on; there are at most `fuel`
different ones. -/
def writeFrom (basic : Nat) (label : List Nat) : (fuel n : Nat) → State → List Char
  | 0, _, _ => []
  | fuel + 1, n, s =>
    match (label.filter (n ≤ ·)).min? with
    | none => []
    | some m =>
      let s := { s with delta := s.delta + (m - n) * (s.written + 1) }
      let (ds, s) := writeChar basic m s label
      ds ++ writeFrom basic label fuel (m + 1) { s with delta := s.delta + 1 }

/-- A label in ASCII characters, without the mark that it is one. -/
def encode (label : List Char) : List Char :=
  let basic := label.filter (·.toNat < 0x80)
  let b := basic.length
  (if b = 0 then [] else basic ++ ['-']) ++
    writeFrom b (label.map Char.toNat) label.length 0x80 ⟨0, 72, b⟩

/-! ### Reading -/

/-- The value of a digit. -/
def digitValue? (c : Char) : Option Nat :=
  if 'a' ≤ c ∧ c ≤ 'z' then some (c.toNat - 0x61)
  else if c.isDigit then some (c.toNat - 0x16)
  else none

/-- The number at the front, from the given place on, whose digits count `weight`. -/
def number? (bias : Nat) : (place weight : Nat) → List Char → Option (Nat × List Char)
  | _, _, [] => none
  | place, weight, c :: cs => do
    let d ← digitValue? c
    let t := threshold place bias
    if d < t then some (d * weight, cs)
    else do
      let (n, rest) ← number? bias (place + 36) (weight * (36 - t)) cs
      some (d * weight + n, rest)

/-- Puts the characters that some digits stand for into a label; `n` and `i` are the
number and the place that were reached. Every number takes a digit at least, so `fuel`
need not exceed how many there are. -/
def readFrom : (fuel n i bias : Nat) → (label : List Char) → List Char → Option (List Char)
  | _, _, _, _, label, [] => some label
  | 0, _, _, _, _, _ => none
  | fuel + 1, n, i, bias, label, ds => do
    let (delta, rest) ← number? bias 36 1 ds
    let count := label.length + 1
    let m := n + (i + delta) / count
    let place := (i + delta) % count
    if m.isValidChar then
      readFrom fuel m (place + 1) (adapt delta count (i == 0))
        (label.take place ++ Char.ofNat m :: label.drop place) rest
    else none

/-- The label that is written with given ASCII characters. -/
def decode? (cs : List Char) : Option (List Char) :=
  let digits := (cs.reverse.takeWhile (· != '-')).reverse
  let basic := (cs.take (cs.length - digits.length)).dropLast
  readFrom digits.length 0x80 0 72 basic digits

end Rulebook.Url.Punycode
