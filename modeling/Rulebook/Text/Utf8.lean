/-!
# Reading bytes as UTF-8

A sequence of bytes falls into *pieces* (`Rulebook.Text.Utf8.pieces`): a piece is
one encoded character, or a stretch that cannot be part of one. Where a sequence
breaks off matters: `Rulebook.Text.Utf8.Piece.broken` says that the bytes read so
far cannot be continued by the byte that follows, `Rulebook.Text.Utf8.Piece.cut`
that the input ended in the middle of a character.

The two readers are two ways of looking at the pieces:

* `Rulebook.Text.Utf8.decode?` accepts characters only, and names the first
  piece that is not one (`Rulebook.Text.Utf8.Flaw`);
* `Rulebook.Text.Utf8.decodeLossy` puts U+FFFD in the place of every other
  piece, and so never fails.
-/

namespace Rulebook.Text.Utf8

/-! ### Pieces -/

/-- What a stretch of bytes amounts to. -/
inductive Piece where
  /-- An encoded character, with the number of its bytes. -/
  | scalar (c : Char) (width : Nat)
  /-- Bytes that no character starts with, or whose next byte does not fit. -/
  | broken (width : Nat)
  /-- The beginning of a character, up to the end of the input. -/
  | cut (width : Nat)
  deriving DecidableEq

/-- The number of bytes in a piece. -/
def Piece.width : Piece → Nat
  | scalar _ w => w
  | broken w => w
  | cut w => w

/-- The values that may follow a first byte as the second byte; the bounds keep
out overlong forms, surrogates and numbers above U+10FFFF. -/
def secondRange (first : Nat) : Nat × Nat :=
  if first = 0xE0 then (0xA0, 0xBF)
  else if first = 0xED then (0x80, 0x9F)
  else if first = 0xF0 then (0x90, 0xBF)
  else if first = 0xF4 then (0x80, 0x8F)
  else (0x80, 0xBF)

/-- A byte that continues a character. -/
def isContinuation (b : UInt8) : Bool := 0x80 ≤ b.toNat && b.toNat ≤ 0xBF

/-- A byte that may come second after `first`. -/
def fitsSecond (first : Nat) (b : UInt8) : Bool :=
  (secondRange first).1 ≤ b.toNat && b.toNat ≤ (secondRange first).2

/-- The piece that starts with the byte `b`, when the bytes `bs` follow. -/
def pieceAt (b : UInt8) (bs : List UInt8) : Piece :=
  let first := b.toNat
  if first < 0x80 then .scalar (Char.ofNat first) 1
  else if 0xC2 ≤ first && first ≤ 0xDF then
    match bs with
    | [] => .cut 1
    | b₁ :: _ =>
      if fitsSecond first b₁ then
        .scalar (Char.ofNat ((first - 0xC0) * 0x40 + (b₁.toNat - 0x80))) 2
      else .broken 1
  else if 0xE0 ≤ first && first ≤ 0xEF then
    match bs with
    | [] => .cut 1
    | [b₁] => if fitsSecond first b₁ then .cut 2 else .broken 1
    | b₁ :: b₂ :: _ =>
      if ! fitsSecond first b₁ then .broken 1
      else if ! isContinuation b₂ then .broken 2
      else .scalar (Char.ofNat ((first - 0xE0) * 0x1000 + (b₁.toNat - 0x80) * 0x40 +
        (b₂.toNat - 0x80))) 3
  else if 0xF0 ≤ first && first ≤ 0xF4 then
    match bs with
    | [] => .cut 1
    | [b₁] => if fitsSecond first b₁ then .cut 2 else .broken 1
    | [b₁, b₂] =>
      if ! fitsSecond first b₁ then .broken 1
      else if isContinuation b₂ then .cut 3 else .broken 2
    | b₁ :: b₂ :: b₃ :: _ =>
      if ! fitsSecond first b₁ then .broken 1
      else if ! isContinuation b₂ then .broken 2
      else if ! isContinuation b₃ then .broken 3
      else .scalar (Char.ofNat ((first - 0xF0) * 0x40000 + (b₁.toNat - 0x80) * 0x1000 +
        (b₂.toNat - 0x80) * 0x40 + (b₃.toNat - 0x80))) 4
  else .broken 1

/-- The pieces of a sequence of bytes, from left to right. -/
def pieces : List UInt8 → List Piece
  | [] => []
  | b :: bs => pieceAt b bs :: pieces (bs.drop ((pieceAt b bs).width - 1))
  termination_by bytes => bytes.length
  decreasing_by simp only [List.length_drop, List.length_cons]; omega

/-! ### The strict reader -/

/-- Why a sequence of bytes is not UTF-8. -/
inductive Flaw where
  /-- From `index` on, `width` bytes cannot be part of a character. -/
  | invalid (width index : Nat)
  /-- The input ends within the character that starts at `index`. -/
  | incomplete (index : Nat)
  deriving DecidableEq

/-- The words in which a flaw is reported. -/
def Flaw.message : Flaw → String
  | invalid width index => s!"invalid utf-8 sequence of {width} bytes from index {index}"
  | incomplete index => s!"incomplete utf-8 byte sequence from index {index}"

/-- The characters of a list of pieces, if all of them are characters; `index`
is the number of bytes before the first one. -/
def scalars? (index : Nat) : List Piece → Except Flaw (List Char)
  | [] => .ok []
  | .scalar c w :: ps => (scalars? (index + w) ps).map (c :: ·)
  | .broken w :: _ => .error (.invalid w index)
  | .cut _ :: _ => .error (.incomplete index)

/-- The text that a sequence of bytes encodes. -/
def decode? (bytes : List UInt8) : Except Flaw String :=
  (scalars? 0 (pieces bytes)).map String.ofList

/-! ### The forgiving reader -/

/-- The character that stands for a piece. -/
def Piece.replaced : Piece → Char
  | scalar c _ => c
  | _ => '\uFFFD'

/-- The text of a sequence of bytes, with U+FFFD for every piece that is no
character. -/
def decodeLossy (bytes : List UInt8) : String :=
  String.ofList ((pieces bytes).map Piece.replaced)

/-! ### The other direction -/

/-- The bytes of a character: its number in groups of six bits, the first byte
saying how many follow. -/
def encodeChar (c : Char) : List UInt8 :=
  let n := c.toNat
  let tail (k : Nat) : UInt8 := UInt8.ofNat (0x80 + n / k % 0x40)
  if n < 0x80 then [UInt8.ofNat n]
  else if n < 0x800 then [UInt8.ofNat (0xC0 + n / 0x40), tail 1]
  else if n < 0x10000 then [UInt8.ofNat (0xE0 + n / 0x1000), tail 0x40, tail 1]
  else [UInt8.ofNat (0xF0 + n / 0x40000), tail 0x1000, tail 0x40, tail 1]

/-- The bytes of a text. -/
def encode (s : String) : List UInt8 := s.toList.flatMap encodeChar

/-- The number of bytes that a list of characters takes. -/
def byteCount (cs : List Char) : Nat := cs.foldl (fun n c => n + c.utf8Size) 0

end Rulebook.Text.Utf8
