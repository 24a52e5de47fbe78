import Rulebook.Proofs.Json.Nesting
import Rulebook.Json.Skip

/-!
# Where a scalar ends

Passing over a scalar is laxer than reading it, and so it goes as far wherever reading succeeds at
all (`Rulebook.Json.skipScalar_of_readScalar`). This is not said of what was written in one way,
like the statements of `Rulebook.Proofs.Json.Skip`, but of every text: with any escapes and with
numbers in any form. Both go over the characters in the same steps, and reading has only more to do
at each of them: it collects digits where they are passed over, and stops where they are too many
for it.

Of the text something is gone afterwards (`Rulebook.Json.length_of_skipScalar`). This is what the
loops live on that pass over arrays and objects.
-/

namespace Rulebook.Json

variable {c : Char} {cs rest : List Char} {v : Value} {negative : Bool} {n : Nat} {i : Int}

/-! ### Numbers -/

/-- Where digits end does not depend on how many of them were gathered. -/
theorem dropWhile_gatherDigits (s : Nat) (cs : List Char) :
    (gatherDigits s cs).2.2.dropWhile Char.isDigit = cs.dropWhile Char.isDigit := by
  induction cs generalizing s with
  | nil => rfl
  | cons c cs ih =>
    rw [gatherDigits]
    split
    · rename_i h
      rw [List.dropWhile_cons_of_pos h.1]
      exact ih _
    · rfl

theorem gatherDigits_of_head? (h : cs.head?.any Char.isDigit = false) (s : Nat) :
    gatherDigits s cs = (s, 0, cs) := by
  cases cs with
  | nil => rfl
  | cons c cs =>
    have hc : ¬c.isDigit = true := Bool.eq_false_iff.mp h
    rw [gatherDigits, if_neg fun h => hc h.1]

theorem dropWhile_gatherExponent (e : Nat) (cs : List Char) :
    (gatherExponent e cs).2.dropWhile Char.isDigit = cs.dropWhile Char.isDigit := by
  induction cs generalizing e with
  | nil => rfl
  | cons c cs ih =>
    rw [gatherExponent]
    split
    · rename_i h
      rw [List.dropWhile_cons_of_pos h]
      split
      · exact ih _
      · rfl
    · rfl

/-- An exponent that fits is read to the end of its digits. -/
theorem rest_gatherExponent {e e' : Nat} (h : gatherExponent e cs = (some e', rest)) :
    rest = cs.dropWhile Char.isDigit := by
  induction cs generalizing e with
  | nil => exact (Prod.mk.inj h).2.symm
  | cons c cs ih =>
    rw [gatherExponent] at h
    split at h
    · rename_i hc
      rw [List.dropWhile_cons_of_pos hc]
      split at h
      · exact ih h
      · cases h
    · rename_i hc
      rw [List.dropWhile_cons_of_neg hc]
      exact (Prod.mk.inj h).2.symm

theorem rest_finishFloat (h : finishFloat negative n i cs = .ok (v, rest)) : rest = cs := by
  rw [finishFloat] at h
  split at h
  · exact (Prod.mk.inj (Except.ok.inj h)).2.symm
  · cases h

theorem skipExponent_digit (hc : c.isDigit = true) (cs : List Char) :
    skipExponent (c :: cs) = .ok (cs.dropWhile Char.isDigit) := by
  have hplus : c ≠ '+' := by
    rintro rfl
    cases hc
  have hminus : c ≠ '-' := by
    rintro rfl
    cases hc
  simp [skipExponent, hplus, hminus, hc]

/-- The digits of an exponent are passed over where they are read. -/
theorem skip_of_readExponentDigits {raises : Bool}
    (h : readExponentDigits negative n i raises cs = .ok (v, rest)) :
    ∃ c cs', cs = c :: cs' ∧ c.isDigit = true ∧ rest = cs'.dropWhile Char.isDigit := by
  cases cs with
  | nil => cases h
  | cons c cs =>
    rw [readExponentDigits] at h
    split at h
    · cases h
    · rename_i hc
      refine ⟨c, cs, rfl, by simpa using hc, ?_⟩
      split at h
      · rename_i heq
        rw [rest_finishFloat h]
        exact rest_gatherExponent heq
      · rename_i heq
        split at h
        · cases h
        · obtain ⟨-, rfl⟩ := Prod.mk.inj (Except.ok.inj h)
          rw [← dropWhile_gatherExponent (digitValue c) cs, heq]

theorem skipExponent_of_readExponent (h : readExponent negative n i cs = .ok (v, rest)) :
    skipExponent cs = .ok rest := by
  rw [readExponent.eq_def] at h
  split at h <;> obtain ⟨d, ds, rfl, hd, rfl⟩ := skip_of_readExponentDigits h
  · simp [skipExponent, hd]
  · simp [skipExponent, hd]
  · exact skipExponent_digit hd ds

theorem skipTail_of_readTail (h : readTail negative n i cs = .ok (v, rest)) :
    skipTail cs = .ok rest := by
  rw [readTail.eq_def] at h
  split at h
  · exact skipExponent_of_readExponent h
  · exact skipExponent_of_readExponent h
  · rename_i hsmall hlarge
    rw [rest_finishFloat h, skipTail.eq_3 cs hsmall hlarge]

/-- A fraction is passed over where it is read. -/
theorem skip_of_readFraction (h : readFraction negative n i cs = .ok (v, rest)) :
    cs.head?.any Char.isDigit = true ∧ skipTail (cs.dropWhile Char.isDigit) = .ok rest := by
  rw [readFraction] at h
  dsimp only [passDigits] at h
  rw [dropWhile_gatherDigits] at h
  split at h
  · cases h
  · rename_i hsome
    refine ⟨?_, skipTail_of_readTail h⟩
    -- without a digit nothing is gathered, and nothing is dropped
    refine Decidable.byContradiction fun hnone => hsome ?_
    rw [Bool.not_eq_true] at hnone
    rw [gatherDigits_of_head? hnone, Nat.zero_add]
    cases cs with
    | nil => rfl
    | cons c cs =>
      have hc : ¬c.isDigit = true := Bool.eq_false_iff.mp hnone
      exact congrArg List.length (List.takeWhile_cons_of_neg hc)

theorem skipAfterWhole_of_readAfterWhole {power : Nat}
    (h : readAfterWhole negative n power cs = .ok (v, rest)) : skipAfterWhole cs = .ok rest := by
  rw [readAfterWhole.eq_def] at h
  split at h
  · obtain ⟨hhead, htail⟩ := skip_of_readFraction h
    rw [skipAfterWhole, if_pos hhead, htail]
  · rename_i hpoint
    rw [skipAfterWhole.eq_2 cs hpoint]
    split at h
    · exact skipTail_of_readTail h
    · rename_i hno
      simp only [not_or] at hno
      -- an integer ends here
      have hrest : rest = cs := by
        split at h
        · exact (Prod.mk.inj (Except.ok.inj h)).2.symm
        · split at h <;> exact (Prod.mk.inj (Except.ok.inj h)).2.symm
      rw [hrest, skipTail.eq_3 cs]
      · rintro more rfl
        exact hno.2.1 rfl
      · rintro more rfl
        exact hno.2.2 rfl

theorem skipUnsigned_of_readUnsigned (h : readUnsigned negative cs = .ok (v, rest)) :
    skipUnsigned cs = .ok rest := by
  rw [readUnsigned.eq_def] at h
  split at h
  · cases h
  · split at h
    · cases h
    · rw [skipUnsigned, if_neg ‹_›]
      exact skipAfterWhole_of_readAfterWhole h
  · rename_i c cs hzero
    dsimp only [passDigits] at h
    rw [dropWhile_gatherDigits] at h
    split at h
    · rw [skipUnsigned.eq_3 c cs hzero, if_pos ‹_›]
      exact skipAfterWhole_of_readAfterWhole h
    · cases h

/-! ### Strings -/

theorem rest_of_pushChar {s : Except Stop (Read (List Char))} {chars : List Char}
    (h : pushChar c s = .ok (chars, rest)) : ∃ more, s = .ok (more, rest) := by
  cases s with
  | error stop => cases h
  | ok read =>
    obtain ⟨more, rest'⟩ := read
    cases h
    exact ⟨more, rfl⟩

/-- **A string is passed over where it is read**, from behind its opening quotation mark. -/
theorem skipString_of_readChars {chars : List Char} (h : readChars cs = .ok (chars, rest)) :
    skipString cs = .ok rest := by
  fun_induction readChars cs generalizing chars with
  | case2 cs =>
    cases h
    rfl
  | case6 a b c d n hn hlow hhigh a' b' c' d' cs n' hn' hlow' ih =>
    -- a pair of halves is read at once, and passed over one after the other
    obtain ⟨more, hmore⟩ := rest_of_pushChar h
    simp only [skipString, hn, hn', ih hmore]
  | case9 a b c d cs n hn hlow hhigh ih =>
    obtain ⟨more, hmore⟩ := rest_of_pushChar h
    simp only [skipString, hn, ih hmore]
  | case11 c cs hfour hu x hx ih =>
    obtain ⟨more, hmore⟩ := rest_of_pushChar h
    rw [skipString.eq_5 c cs hfour hu]
    simp only [hx, ih hmore]
  | case15 c cs hquote hfour hu hback hend hc ih =>
    obtain ⟨more, hmore⟩ := rest_of_pushChar h
    rw [skipString.eq_7 c cs hquote hfour hu hback hend, if_neg hc, ih hmore]
  | _ => cases h

theorem skipString_of_readString {s : String} (h : readString cs = .ok (s, rest)) :
    skipString cs = .ok rest := by
  rw [readString] at h
  cases hchars : readChars cs with
  | error stop =>
    rw [hchars] at h
    cases h
  | ok read =>
    obtain ⟨chars, rest'⟩ := read
    rw [hchars] at h
    cases h
    exact skipString_of_readChars hchars

/-! ### Scalars -/

/-- **A scalar is passed over where it is read.** -/
theorem skipScalar_of_readScalar (h : readScalar cs = .ok (v, rest)) :
    skipScalar cs = .ok rest := by
  rw [readScalar.eq_def] at h
  split at h
  · cases h
  · obtain ⟨rest', hword, heq⟩ := bind_eq_ok_iff.mp h
    cases heq
    exact hword
  · obtain ⟨rest', hword, heq⟩ := bind_eq_ok_iff.mp h
    cases heq
    exact hword
  · obtain ⟨rest', hword, heq⟩ := bind_eq_ok_iff.mp h
    cases heq
    exact hword
  · rename_i cs
    cases hstring : readString cs with
    | error stop =>
      rw [hstring] at h
      cases h
    | ok read =>
      obtain ⟨s, rest'⟩ := read
      rw [hstring] at h
      cases h
      exact skipString_of_readString hstring
  · rename_i c cs hnull htrue hfalse hquote
    split at h
    · rename_i hc
      rw [readNumber.eq_def] at h
      split at h
      · rename_i heq
        obtain ⟨rfl, rfl⟩ := List.cons.inj heq
        exact skipUnsigned_of_readUnsigned h
      · rename_i hminus
        have hminus : c ≠ '-' := fun heq => hminus cs (heq ▸ rfl)
        rw [skipScalar.eq_7 c cs hnull htrue hfalse hquote hminus,
          if_pos (hc.resolve_left hminus)]
        exact skipUnsigned_of_readUnsigned h
    · cases h

/-! ### Lengths -/

/-- Spaces are taken off the front of a text. -/
theorem length_skipSpace (cs : List Char) : (skipSpace cs).length ≤ cs.length :=
  (List.dropWhile_suffix isSpace).length_le

theorem length_of_readWord {w : List Char} (h : readWord w cs = .ok rest) :
    rest.length ≤ cs.length := by
  induction w generalizing cs with
  | nil =>
    cases h
    exact Nat.le_refl _
  | cons d w ih =>
    cases cs with
    | nil => cases h
    | cons c cs =>
      rw [readWord] at h
      split at h
      · exact Nat.le_succ_of_le (ih h)
      · cases h

theorem length_of_skipString (h : skipString cs = .ok rest) : rest.length < cs.length := by
  fun_induction skipString cs with
  | case2 cs =>
    cases h
    exact Nat.lt_succ_self _
  | case3 a b c d cs n hn ih =>
    have hlt := ih h
    simp only [List.length_cons]
    omega
  | case6 c cs hfour hu x hx ih =>
    have hlt := ih h
    simp only [List.length_cons]
    omega
  | case10 c cs hquote hfour hu hback hend hc ih => exact Nat.lt_succ_of_lt (ih h)
  | _ => cases h

theorem length_of_skipExponent (h : skipExponent cs = .ok rest) : rest.length ≤ cs.length := by
  have hsigned (ds : List Char) : (ds.dropWhile Char.isDigit).length ≤ ds.length :=
    (List.dropWhile_suffix _).length_le
  unfold skipExponent at h
  dsimp only at h
  split at h
  · cases h
  · rename_i c ds heq
    split at h
    · cases h
      have hds := hsigned ds
      have hlength : ds.length < cs.length := by
        split at heq
        · subst heq
          simp only [List.length_cons]
          omega
        · subst heq
          simp only [List.length_cons]
          omega
        · subst heq
          exact Nat.lt_succ_self _
      omega
    · cases h

theorem length_of_skipTail (h : skipTail cs = .ok rest) : rest.length ≤ cs.length := by
  rw [skipTail.eq_def] at h
  split at h
  · exact Nat.le_succ_of_le (length_of_skipExponent h)
  · exact Nat.le_succ_of_le (length_of_skipExponent h)
  · cases h
    exact Nat.le_refl _

theorem length_of_skipUnsigned (h : skipUnsigned cs = .ok rest) : rest.length < cs.length := by
  have hwhole {cs : List Char} (h : skipAfterWhole cs = .ok rest) : rest.length ≤ cs.length := by
    rw [skipAfterWhole.eq_def] at h
    split at h
    · split at h
      · refine Nat.le_succ_of_le (Nat.le_trans (length_of_skipTail h) ?_)
        exact (List.dropWhile_suffix _).length_le
      · cases h
    · exact length_of_skipTail h
  rw [skipUnsigned.eq_def] at h
  split at h
  · cases h
  · split at h
    · cases h
    · exact Nat.lt_succ_of_le (hwhole h)
  · split at h
    · exact Nat.lt_succ_of_le (Nat.le_trans (hwhole h) (List.dropWhile_suffix _).length_le)
    · cases h

/-- **A scalar has at least one character.** -/
theorem length_of_skipScalar (h : skipScalar cs = .ok rest) : rest.length < cs.length := by
  rw [skipScalar.eq_def] at h
  split at h
  · cases h
  · exact Nat.lt_succ_of_le (length_of_readWord h)
  · exact Nat.lt_succ_of_le (length_of_readWord h)
  · exact Nat.lt_succ_of_le (length_of_readWord h)
  · exact Nat.lt_succ_of_lt (length_of_skipString h)
  · exact Nat.lt_succ_of_lt (length_of_skipUnsigned h)
  · split at h
    · exact length_of_skipUnsigned h
    · cases h

end Rulebook.Json
