import Mathlib.Tactic.SplitIfs
import Rulebook.Text.Utf8

/-!
# Reading what was encoded

The bytes of a text are read as that text (`Rulebook.Text.Utf8.decode?_encode`), so no two
texts have the same bytes. The reader splits off one piece at a time, and the whole argument
is that the first piece of an encoded character, in front of anything, is this character
with all of its bytes (`Rulebook.Text.Utf8.pieceAt_encodeChar`). There is one lemma for
each length. The bounds on the second byte hold by the range of numbers that a length is
used for, and with three bytes also because no character is a surrogate.
-/

namespace Rulebook.Text.Utf8

variable {n : Nat} {rest : List UInt8}

/-! ### Bytes -/

theorem toNat_byte (h : n < 0x100) : (UInt8.ofNat n).toNat = n :=
  UInt8.toNat_ofNat_of_lt' h

/-- A byte that continues a character, with the six bits of its number from `k` on. -/
def tailByte (n k : Nat) : UInt8 := UInt8.ofNat (0x80 + n / k % 0x40)

theorem toNat_tailByte (n k : Nat) : (tailByte n k).toNat = 0x80 + n / k % 0x40 := by
  have hbits : n / k % 0x40 < 0x40 := Nat.mod_lt _ (by decide)
  exact toNat_byte (by omega)

theorem isContinuation_tailByte (n k : Nat) : isContinuation (tailByte n k) = true := by
  have hbits : n / k % 0x40 < 0x40 := Nat.mod_lt _ (by decide)
  simp only [isContinuation, toNat_tailByte, Bool.and_eq_true, decide_eq_true_eq]
  omega

/-- What a second byte has to keep to: it continues a character, and four first bytes bound
it further. -/
theorem fitsSecond_iff {first : Nat} {b : UInt8} :
    fitsSecond first b = true ↔
      (0x80 ≤ b.toNat ∧ b.toNat ≤ 0xBF) ∧
      (first = 0xE0 → 0xA0 ≤ b.toNat) ∧ (first = 0xED → b.toNat ≤ 0x9F) ∧
      (first = 0xF0 → 0x90 ≤ b.toNat) ∧ (first = 0xF4 → b.toNat ≤ 0x8F) := by
  simp only [fitsSecond, secondRange, Bool.and_eq_true]
  split_ifs <;> simp only [decide_eq_true_eq] <;> omega

/-! ### Pieces by their length -/

section Pieces

variable {b b₁ b₂ b₃ : UInt8}

theorem pieceAt_one (h : b.toNat < 0x80) : pieceAt b rest = .scalar (Char.ofNat b.toNat) 1 := by
  simp only [pieceAt, if_pos h]

theorem pieceAt_two (h : 0xC2 ≤ b.toNat ∧ b.toNat ≤ 0xDF) (h₁ : fitsSecond b.toNat b₁ = true) :
    pieceAt b (b₁ :: rest) =
      .scalar (Char.ofNat ((b.toNat - 0xC0) * 0x40 + (b₁.toNat - 0x80))) 2 := by
  have hone : ¬b.toNat < 0x80 := by omega
  simp [pieceAt, hone, h, h₁]

theorem pieceAt_three (h : 0xE0 ≤ b.toNat ∧ b.toNat ≤ 0xEF)
    (h₁ : fitsSecond b.toNat b₁ = true) (h₂ : isContinuation b₂ = true) :
    pieceAt b (b₁ :: b₂ :: rest) =
      .scalar (Char.ofNat ((b.toNat - 0xE0) * 0x1000 + (b₁.toNat - 0x80) * 0x40 +
        (b₂.toNat - 0x80))) 3 := by
  have hone : ¬b.toNat < 0x80 := by omega
  have htwo : ¬b.toNat ≤ 0xDF := by omega
  simp [pieceAt, hone, htwo, h, h₁, h₂]

theorem pieceAt_four (h : 0xF0 ≤ b.toNat ∧ b.toNat ≤ 0xF4)
    (h₁ : fitsSecond b.toNat b₁ = true) (h₂ : isContinuation b₂ = true)
    (h₃ : isContinuation b₃ = true) :
    pieceAt b (b₁ :: b₂ :: b₃ :: rest) =
      .scalar (Char.ofNat ((b.toNat - 0xF0) * 0x40000 + (b₁.toNat - 0x80) * 0x1000 +
        (b₂.toNat - 0x80) * 0x40 + (b₃.toNat - 0x80))) 4 := by
  have hone : ¬b.toNat < 0x80 := by omega
  have htwo : ¬b.toNat ≤ 0xDF := by omega
  have hthree : ¬b.toNat ≤ 0xEF := by omega
  simp [pieceAt, hone, htwo, hthree, h, h₁, h₂, h₃]

end Pieces

/-! ### Encoded characters -/

theorem pieceAt_encode_two (h : 0x80 ≤ n) (h' : n < 0x800) :
    pieceAt (UInt8.ofNat (0xC0 + n / 0x40)) (tailByte n 1 :: rest) = .scalar (Char.ofNat n) 2 := by
  have hb : (UInt8.ofNat (0xC0 + n / 0x40)).toNat = 0xC0 + n / 0x40 := toNat_byte (by omega)
  have hfits : fitsSecond (0xC0 + n / 0x40) (tailByte n 1) = true := by
    rw [fitsSecond_iff, toNat_tailByte]
    omega
  have hnumber : (0xC0 + n / 0x40 - 0xC0) * 0x40 + (0x80 + n / 1 % 0x40 - 0x80) = n := by
    omega
  rw [pieceAt_two (by omega) (hb.symm ▸ hfits), hb, toNat_tailByte, hnumber]

/-- The numbers of surrogates are left out: their first byte bounds the second one. -/
theorem pieceAt_encode_three (h : 0x800 ≤ n) (h' : n < 0x10000)
    (hscalar : n < 0xD800 ∨ 0xDFFF < n) :
    pieceAt (UInt8.ofNat (0xE0 + n / 0x1000)) (tailByte n 0x40 :: tailByte n 1 :: rest) =
      .scalar (Char.ofNat n) 3 := by
  have hb : (UInt8.ofNat (0xE0 + n / 0x1000)).toNat = 0xE0 + n / 0x1000 := toNat_byte (by omega)
  have hfits : fitsSecond (0xE0 + n / 0x1000) (tailByte n 0x40) = true := by
    rw [fitsSecond_iff, toNat_tailByte]
    omega
  have hnumber : (0xE0 + n / 0x1000 - 0xE0) * 0x1000 + (0x80 + n / 0x40 % 0x40 - 0x80) * 0x40 +
      (0x80 + n / 1 % 0x40 - 0x80) = n := by
    omega
  rw [pieceAt_three (by omega) (hb.symm ▸ hfits) (isContinuation_tailByte n 1), hb,
    toNat_tailByte, toNat_tailByte, hnumber]

theorem pieceAt_encode_four (h : 0x10000 ≤ n) (h' : n < 0x110000) :
    pieceAt (UInt8.ofNat (0xF0 + n / 0x40000))
        (tailByte n 0x1000 :: tailByte n 0x40 :: tailByte n 1 :: rest) =
      .scalar (Char.ofNat n) 4 := by
  have hb : (UInt8.ofNat (0xF0 + n / 0x40000)).toNat = 0xF0 + n / 0x40000 := toNat_byte (by omega)
  have hfits : fitsSecond (0xF0 + n / 0x40000) (tailByte n 0x1000) = true := by
    rw [fitsSecond_iff, toNat_tailByte]
    omega
  have hnumber : (0xF0 + n / 0x40000 - 0xF0) * 0x40000 +
      (0x80 + n / 0x1000 % 0x40 - 0x80) * 0x1000 + (0x80 + n / 0x40 % 0x40 - 0x80) * 0x40 +
      (0x80 + n / 1 % 0x40 - 0x80) = n := by
    omega
  rw [pieceAt_four (by omega) (hb.symm ▸ hfits) (isContinuation_tailByte n 0x40)
    (isContinuation_tailByte n 1), hb, toNat_tailByte, toNat_tailByte, toNat_tailByte, hnumber]

/-- **An encoded character is read off in one piece**, whatever follows. -/
theorem pieceAt_encodeChar (c : Char) (rest : List UInt8) :
    ∃ b bs, encodeChar c = b :: bs ∧ pieceAt b (bs ++ rest) = .scalar c (bs.length + 1) := by
  obtain ⟨n, hn⟩ : ∃ n, c.toNat = n := ⟨_, rfl⟩
  have hscalar : n < 0xD800 ∨ 0xDFFF < n ∧ n < 0x110000 := hn ▸ c.valid
  obtain rfl : Char.ofNat n = c := hn ▸ Char.ofNat_toNat c
  rw [encodeChar, hn]
  by_cases hone : n < 0x80
  · have hb : (UInt8.ofNat n).toNat = n := toNat_byte (by omega)
    rw [if_pos hone]
    exact ⟨UInt8.ofNat n, [], rfl, by rw [pieceAt_one (hb.symm ▸ hone), hb]; rfl⟩
  rw [if_neg hone]
  by_cases htwo : n < 0x800
  · rw [if_pos htwo]
    exact ⟨_, [tailByte n 1], rfl, pieceAt_encode_two (by omega) htwo⟩
  rw [if_neg htwo]
  by_cases hthree : n < 0x10000
  · rw [if_pos hthree]
    exact ⟨_, [tailByte n 0x40, tailByte n 1], rfl,
      pieceAt_encode_three (by omega) hthree (by omega)⟩
  · rw [if_neg hthree]
    exact ⟨_, [tailByte n 0x1000, tailByte n 0x40, tailByte n 1], rfl,
      pieceAt_encode_four (by omega) (by omega)⟩

/-! ### Texts -/

theorem pieces_encodeChar (c : Char) (rest : List UInt8) :
    pieces (encodeChar c ++ rest) = .scalar c (encodeChar c).length :: pieces rest := by
  obtain ⟨b, bs, hbytes, hpiece⟩ := pieceAt_encodeChar c rest
  rw [hbytes, List.cons_append, pieces, hpiece, Piece.width, Nat.add_sub_cancel,
    List.drop_left, List.length_cons]

theorem scalars?_encode (index : Nat) (cs : List Char) :
    scalars? index (pieces (cs.flatMap encodeChar)) = .ok cs := by
  induction cs generalizing index with
  | nil => rw [List.flatMap_nil, pieces, scalars?]
  | cons c cs ih =>
    rw [List.flatMap_cons, pieces_encodeChar, scalars?, ih]
    rfl

/-- **The bytes of a text are read as that text.** -/
theorem decode?_encode (s : String) : decode? (encode s) = .ok s := by
  rw [decode?, encode, scalars?_encode]
  exact congrArg Except.ok String.ofList_toList

/-- The forgiving reader finds nothing to forgive in the bytes of a text. -/
theorem decodeLossy_encode (s : String) : decodeLossy (encode s) = s := by
  have hpieces : ∀ cs : List Char, (pieces (cs.flatMap encodeChar)).map Piece.replaced = cs := by
    intro cs
    induction cs with
    | nil => rw [List.flatMap_nil, pieces, List.map_nil]
    | cons c cs ih => rw [List.flatMap_cons, pieces_encodeChar, List.map_cons, ih, Piece.replaced]
  rw [decodeLossy, encode, hpieces, String.ofList_toList]

/-- **The bytes of a text start with its first character.** -/
theorem exists_head_of_encode {s : String} {b : UInt8} {bs : List UInt8} (h : encode s = b :: bs) :
    ∃ c width, s.toList.head? = some c ∧ pieceAt b bs = .scalar c width := by
  rw [encode] at h
  cases hs : s.toList with
  | nil =>
    rw [hs, List.flatMap_nil] at h
    cases h
  | cons c cs =>
    have hpieces := pieces_encodeChar c (cs.flatMap encodeChar)
    rw [← List.flatMap_cons, ← hs, h, pieces] at hpieces
    exact ⟨c, _, rfl, (List.cons.inj hpieces).1⟩

/-- No two texts have the same bytes. -/
theorem encode_injective {s t : String} (h : encode s = encode t) : s = t := by
  have hread := decode?_encode s
  rw [h, decode?_encode] at hread
  exact (Except.ok.inj hread).symm

end Rulebook.Text.Utf8
