import Rulebook.Text.Utf8

/-!
# Percent escapes

A byte that must not stand in a part of a URL is written as a percent sign and two
hexadecimal digits. Which characters are written so depends on the part; each
part has its class of characters (`Rulebook.Url.Part`), and every class holds the
control characters and all characters outside ASCII.
-/

namespace Rulebook.Url

/-! ### Classes of characters -/

/-- A class of characters that are written as escapes. -/
abbrev Part := Char → Bool

namespace Part

/-- The characters that are never written as they are. -/
def control : Part := fun c => c.toNat < 0x20 || 0x7E < c.toNat

/-- The characters that are escaped in a fragment. -/
def fragment : Part := fun c => control c || [' ', '"', '<', '>', '\x60'].contains c

/-- The characters that are escaped in a query. -/
def query : Part := fun c => control c || [' ', '"', '#', '<', '>'].contains c

/-- The characters that are escaped in the query of a special URL. -/
def specialQuery : Part := fun c => query c || c == '\''

/-- The characters that are escaped in a path. -/
def path : Part := fun c => fragment c || ['#', '?', '{', '}'].contains c

/-- The characters that are escaped in a name or a password. -/
def userinfo : Part := fun c =>
  path c || ['/', ':', ';', '=', '@', '[', '\\', ']', '^', '|'].contains c

/-- The characters that are escaped in one segment of a path. -/
def segment : Part := fun c => path c || ['/', '%'].contains c

/-- The characters that are escaped in one segment of the path of a special
URL. -/
def specialSegment : Part := fun c => segment c || c == '\\'

end Part

/-! ### Writing and reading escapes -/

/-- A hexadecimal digit in upper case. -/
def hexDigit (n : Nat) : Char := Char.ofNat (if n < 10 then 0x30 + n else 0x37 + n)

/-- The escape of a byte. -/
def escapeByte (b : UInt8) : List Char :=
  ['%', hexDigit (b.toNat / 16), hexDigit (b.toNat % 16)]

/-- A character in a part of a URL. -/
def escapeChar (part : Part) (c : Char) : List Char :=
  if part c then (Text.Utf8.encodeChar c).flatMap escapeByte else [c]

/-- A text in a part of a URL. -/
def escape (part : Part) (cs : List Char) : List Char := cs.flatMap (escapeChar part)

/-- The value of a hexadecimal digit. -/
def hexValue? (b : UInt8) : Option Nat :=
  let n := b.toNat
  if 0x30 ≤ n ∧ n ≤ 0x39 then some (n - 0x30)
  else if 0x41 ≤ n ∧ n ≤ 0x46 then some (n - 0x37)
  else if 0x61 ≤ n ∧ n ≤ 0x66 then some (n - 0x57)
  else none

/-- The bytes that a sequence with escapes stands for. A percent sign that no two
digits follow stands for itself. -/
def unescapeBytes : List UInt8 → List UInt8
  | [] => []
  | [b] => [b]
  | [b, c] => [b, c]
  | b :: h :: l :: bs =>
    if b = 0x25 then
      match hexValue? h, hexValue? l with
      | some h, some l => UInt8.ofNat (h * 16 + l) :: unescapeBytes bs
      | _, _ => b :: unescapeBytes (h :: l :: bs)
    else b :: unescapeBytes (h :: l :: bs)

/-- The bytes that a text with escapes stands for. -/
def unescape (s : String) : List UInt8 := unescapeBytes (Text.Utf8.encode s)

end Rulebook.Url
