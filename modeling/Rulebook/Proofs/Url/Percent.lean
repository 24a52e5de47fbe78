import Rulebook.Proofs.Text.Utf8
import Rulebook.Url.Percent

/-!
# What escapes stand for

Escapes lose nothing: where the percent sign itself is written as an escape, and so is every
character outside ASCII (`Rulebook.Url.Part.Faithful`), the bytes that a written text
stands for are the bytes of the text (`Rulebook.Url.unescape_escape`), from which the text
can be read back. The two classes for segments of a path are of this kind; the one for whole
paths is not, since a path keeps the escapes that it was given. In a text that was written in this
way no percent sign stands for itself either: each of them starts an escape
(`Rulebook.Url.escaped_escape`).
-/

namespace Rulebook.Url

open Text.Utf8 (encodeChar)

variable {part : Part} {b : UInt8} {c : Char} {cs : List Char} {rest : List UInt8}

/-! ### Hexadecimal digits -/

theorem toNat_hexDigit_lt : ∀ n < 16, (hexDigit n).toNat < 0x80 := by
  decide

theorem hexValue?_hexDigit : ∀ n < 16, hexValue? (UInt8.ofNat (hexDigit n).toNat) = some n := by
  decide

/-! ### Reading escapes -/

theorem encodeChar_of_ascii (h : c.toNat < 0x80) : encodeChar c = [UInt8.ofNat c.toNat] :=
  if_pos h

/-- A byte that starts no escape stands for itself. -/
theorem unescapeBytes_cons (h : b ≠ 0x25) (bytes : List UInt8) :
    unescapeBytes (b :: bytes) = b :: unescapeBytes bytes := by
  match bytes with
  | [] => rfl
  | [_] => rfl
  | _ :: _ :: _ => rw [unescapeBytes, if_neg h]

/-- **The escape of a byte stands for that byte.** -/
theorem unescapeBytes_escapeByte (b : UInt8) (rest : List UInt8) :
    unescapeBytes ((escapeByte b).flatMap encodeChar ++ rest) = b :: unescapeBytes rest := by
  have hlt : b.toNat < 256 := b.toNat_lt
  have hhigh : b.toNat / 16 < 16 := by omega
  have hlow : b.toNat % 16 < 16 := Nat.mod_lt _ (by decide)
  have hvalue : b.toNat / 16 * 16 + b.toNat % 16 = b.toNat := Nat.div_add_mod' _ _
  have hbytes : (escapeByte b).flatMap encodeChar =
      [0x25, UInt8.ofNat (hexDigit (b.toNat / 16)).toNat,
        UInt8.ofNat (hexDigit (b.toNat % 16)).toNat] := by
    rw [escapeByte, List.flatMap_cons, List.flatMap_cons, List.flatMap_singleton,
      encodeChar_of_ascii (toNat_hexDigit_lt _ hhigh),
      encodeChar_of_ascii (toNat_hexDigit_lt _ hlow)]
    rfl
  rw [hbytes]
  simp only [List.cons_append, List.nil_append]
  rw [unescapeBytes, if_pos rfl, hexValue?_hexDigit _ hhigh, hexValue?_hexDigit _ hlow]
  simp only [hvalue, UInt8.ofNat_toNat]

theorem unescapeBytes_escapeBytes (bytes rest : List UInt8) :
    unescapeBytes ((bytes.flatMap escapeByte).flatMap encodeChar ++ rest) =
      bytes ++ unescapeBytes rest := by
  induction bytes with
  | nil => rfl
  | cons b bytes ih =>
    rw [List.flatMap_cons, List.flatMap_append, List.append_assoc, unescapeBytes_escapeByte, ih,
      List.cons_append]

theorem hexDigit_ne : ∀ n < 16, hexDigit n ≠ '/' ∧ hexDigit n ≠ '?' ∧ hexDigit n ≠ '#' := by
  decide

/-- What stands in a written text: characters as they are, and escapes. -/
theorem mem_escape (hc : c ∈ escape part cs) :
    (c ∈ cs ∧ part c = false) ∨ c = '%' ∨ ∃ n < 16, c = hexDigit n := by
  rw [escape, List.mem_flatMap] at hc
  obtain ⟨d, hd, hc⟩ := hc
  rw [escapeChar] at hc
  split at hc
  · obtain ⟨b, -, hc⟩ := List.mem_flatMap.mp hc
    have hlt : b.toNat < 256 := b.toNat_lt
    simp only [escapeByte, List.mem_cons, List.not_mem_nil, or_false] at hc
    rcases hc with hc | hc | hc
    · exact .inr (.inl hc)
    · exact .inr (.inr ⟨b.toNat / 16, by omega, hc⟩)
    · exact .inr (.inr ⟨b.toNat % 16, Nat.mod_lt _ (by decide), hc⟩)
  · rename_i hplain
    obtain rfl : c = d := List.mem_singleton.mp hc
    exact .inl ⟨hd, Bool.eq_false_iff.mpr hplain⟩

/-! ### Texts -/

/-- **Whether escapes can be told apart from what is written as it is**: the percent sign is
written as an escape, and so is everything outside ASCII. -/
structure Part.Faithful (part : Part) : Prop where
  percent : part '%' = true
  ascii : ∀ c, part c = false → c.toNat < 0x80

theorem Part.faithful_segment : Part.segment.Faithful where
  percent := rfl
  ascii c hc := by
    simp only [segment, path, fragment, control, Bool.or_eq_false_iff,
      decide_eq_false_iff_not] at hc
    omega

theorem Part.faithful_specialSegment : Part.specialSegment.Faithful where
  percent := rfl
  ascii c hc := faithful_segment.ascii c (Bool.or_eq_false_iff.mp hc).1

theorem unescapeBytes_escapeChar (h : part.Faithful) (c : Char) (rest : List UInt8) :
    unescapeBytes ((escapeChar part c).flatMap encodeChar ++ rest) =
      encodeChar c ++ unescapeBytes rest := by
  rw [escapeChar]
  cases hc : part c with
  | true =>
    rw [if_pos rfl]
    exact unescapeBytes_escapeBytes _ _
  | false =>
    have hascii : c.toNat < 0x80 := h.ascii c hc
    have hbyte : UInt8.ofNat c.toNat ≠ 0x25 := by
      intro heq
      have hnat : c.toNat = 0x25 := by
        rw [← Text.Utf8.toNat_byte (show c.toNat < 0x100 by omega), heq]
        rfl
      have hpercent : c = '%' := by
        rw [← Char.ofNat_toNat c, hnat]
      rw [hpercent, h.percent] at hc
      cases hc
    rw [if_neg Bool.false_ne_true, List.flatMap_singleton, encodeChar_of_ascii hascii,
      List.singleton_append, unescapeBytes_cons hbyte, List.singleton_append]

/-- **A written text stands for the bytes of the text.** -/
theorem unescape_escape (h : part.Faithful) (cs : List Char) :
    unescape (String.ofList (escape part cs)) = cs.flatMap encodeChar := by
  have hbytes : unescapeBytes ((cs.flatMap (escapeChar part)).flatMap encodeChar) =
      cs.flatMap encodeChar := by
    induction cs with
    | nil => rfl
    | cons c cs ih =>
      rw [List.flatMap_cons, List.flatMap_append, unescapeBytes_escapeChar h, ih,
        List.flatMap_cons]
  rw [unescape, Text.Utf8.encode, String.toList_ofList, escape, hbytes]

/-! ### Percent signs -/

/-- The digits of escapes. -/
def IsHexDigit (c : Char) : Prop := c ∈ "0123456789ABCDEF".toList

theorem isHexDigit_hexDigit : ∀ n < 16, IsHexDigit (hexDigit n) ∧ hexDigit n ≠ '%' := by
  unfold IsHexDigit
  decide

/-- **Whether every percent sign of a text starts an escape.** -/
def Escaped (cs : List Char) : Prop :=
  ∀ pre post, cs = pre ++ '%' :: post →
    ∃ high low rest, post = high :: low :: rest ∧ IsHexDigit high ∧ IsHexDigit low

theorem escaped_nil : Escaped [] := by
  intro pre post h
  cases List.append_ne_nil_of_right_ne_nil pre (List.cons_ne_nil _ _) h.symm

theorem Escaped.cons (h : Escaped cs) (hc : c ≠ '%') : Escaped (c :: cs) := by
  intro pre post heq
  cases pre with
  | nil => exact absurd (List.cons.inj heq).1 hc
  | cons d pre => exact h pre post (List.cons.inj heq).2

theorem Escaped.escapeByte (h : Escaped cs) (b : UInt8) : Escaped (escapeByte b ++ cs) := by
  have hlt : b.toNat < 256 := b.toNat_lt
  obtain ⟨hhigh, hhigh'⟩ := isHexDigit_hexDigit (b.toNat / 16) (by omega)
  obtain ⟨hlow, hlow'⟩ := isHexDigit_hexDigit (b.toNat % 16) (Nat.mod_lt _ (by decide))
  intro pre post heq
  cases pre with
  | nil => exact ⟨_, _, cs, (List.cons.inj heq).2.symm, hhigh, hlow⟩
  | cons d pre => exact (h.cons hlow').cons hhigh' pre post (List.cons.inj heq).2

/-- **Every percent sign of a written text starts an escape**, if the sign itself is written as
one. -/
theorem escaped_escape (hpercent : part '%' = true) (cs : List Char) :
    Escaped (escape part cs) := by
  have hbytes {rest : List Char} (h : Escaped rest) (bytes : List UInt8) :
      Escaped (bytes.flatMap escapeByte ++ rest) := by
    induction bytes with
    | nil => exact h
    | cons b bytes ih =>
      rw [List.flatMap_cons, List.append_assoc]
      exact ih.escapeByte b
  induction cs with
  | nil => exact escaped_nil
  | cons c cs ih =>
    rw [escape, List.flatMap_cons, escapeChar]
    cases hc : part c with
    | true => exact hbytes ih _
    | false =>
      refine ih.cons ?_
      rintro rfl
      cases hpercent.symm.trans hc

end Rulebook.Url
