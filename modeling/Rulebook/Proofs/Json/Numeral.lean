import Rulebook.Json.Numeral
import Rulebook.Json.Printer
import Rulebook.Text.Blank

/-!
# Integers in JSON

An integer in the range of integers (`Rulebook.Json.InIntegerRange`) is read back from
its decimal digits as that very integer (`Rulebook.Json.readNumber_writeInteger`). There are
two ways in which it could fail to be: the reader could take it for a double, which it does
with a number whose digits do not fit into a significand, and it could read on into what
follows. The first is ruled out by the range, since no digit is ever too many; the second by
`Rulebook.Json.Ends`, which is what a number asks of the text behind it.
-/

namespace Rulebook.Json

/-- Whether a number ends in front of a text: nothing there continues it. -/
def Ends (rest : List Char) : Prop :=
  ∀ c ∈ rest.head?, c.isDigit = false ∧ c ≠ '.' ∧ c ≠ 'e' ∧ c ≠ 'E'

theorem ends_nil : Ends [] := by
  intro c hc
  cases hc

theorem ends_cons {c : Char} {rest : List Char}
    (h : c.isDigit = false ∧ c ≠ '.' ∧ c ≠ 'e' ∧ c ≠ 'E') : Ends (c :: rest) := by
  intro c' hc'
  obtain rfl : c = c' := Option.some.inj hc'
  exact h

variable {n s : Nat} {ds rest : List Char} {negative : Bool}

/-! ### Gathering digits -/

/-- Digits in front of a number make it no smaller. -/
theorem le_ofDigitChars (ds : List Char) (s : Nat) : s ≤ Nat.ofDigitChars 10 ds s := by
  rw [Nat.ofDigitChars_eq_ofDigitChars_zero]
  have hpow : 1 ≤ 10 ^ ds.length := Nat.one_le_pow _ _ (by decide)
  have hmul : 1 * s ≤ 10 ^ ds.length * s := Nat.mul_le_mul_right s hpow
  omega

theorem ofDigitChars_cons (c : Char) (ds : List Char) (s : Nat) :
    Nat.ofDigitChars 10 (c :: ds) s = Nat.ofDigitChars 10 ds (s * 10 + digitValue c) := by
  simp [Nat.ofDigitChars, digitValue, Nat.mul_comm]

/-- Where no digit follows, none is gathered. -/
theorem gatherDigits_of_ends (h : Ends rest) : gatherDigits s rest = (s, 0, rest) := by
  cases rest with
  | nil => rfl
  | cons c cs =>
    have hc : c.isDigit = false := (h c rfl).1
    rw [gatherDigits, if_neg (by simp [hc])]

/-- **All digits are gathered** as long as the number that they make fits. -/
theorem gatherDigits_append (hd : ∀ c ∈ ds, c.isDigit = true)
    (hfit : Nat.ofDigitChars 10 ds s < 0x10000000000000000) (hrest : Ends rest) :
    gatherDigits s (ds ++ rest) = (Nat.ofDigitChars 10 ds s, ds.length, rest) := by
  induction ds generalizing s with
  | nil => exact gatherDigits_of_ends hrest
  | cons c ds ih =>
    rw [List.forall_mem_cons] at hd
    rw [ofDigitChars_cons] at hfit ⊢
    have hc : s * 10 + digitValue c < 0x10000000000000000 :=
      Nat.lt_of_le_of_lt (le_ofDigitChars ds _) hfit
    rw [List.cons_append, gatherDigits, if_pos ⟨hd.1, hc⟩, ih hd.2 hfit]
    rfl

theorem passDigits_of_ends (h : Ends rest) : passDigits rest = (0, rest) := by
  cases rest with
  | nil => rfl
  | cons c cs =>
    have hc : c.isDigit = false := (h c rfl).1
    rw [passDigits, List.takeWhile_cons_of_neg (by simp [hc]),
      List.dropWhile_cons_of_neg (by simp [hc])]
    rfl

/-! ### Reading an integer -/

/-- An integer starts with a sign or a digit. -/
theorem writeInteger_eq_cons (i : Int) :
    ∃ c cs, writeInteger i = c :: cs ∧ (c = '-' ∨ c.isDigit = true) := by
  rw [writeInteger]
  by_cases hneg : i < 0
  · rw [if_pos hneg]
    exact ⟨'-', Nat.toDigits 10 i.natAbs, rfl, .inl rfl⟩
  · rw [if_neg hneg, List.nil_append]
    cases hds : Nat.toDigits 10 i.natAbs with
    | nil => exact absurd hds Nat.toDigits_ne_nil
    | cons c cs =>
      have hc : c.isDigit = true :=
        Nat.isDigit_of_mem_toDigits (by decide) (by decide) (hds ▸ List.mem_cons_self)
      exact ⟨c, cs, rfl, .inr hc⟩

theorem ne_of_opens_number {c d : Char} (hc : c = '-' ∨ c.isDigit = true)
    (hd : d ≠ '-' ∧ d.isDigit = false) : c ≠ d := by
  rintro rfl
  rcases hc with hminus | hdigit
  · exact hd.1 hminus
  · rw [hd.2] at hdigit
    cases hdigit

theorem isBlank_of_opens_number {c : Char} (hc : c = '-' ∨ c.isDigit = true) :
    Text.isBlank c = false := by
  rcases hc with rfl | hdigit
  · rfl
  · have hrange : 48 ≤ c.toNat ∧ c.toNat ≤ 57 := by
      simpa [Char.isDigit, Char.le_def, UInt32.le_iff_toNat_le] using hdigit
    simp only [Text.isBlank, Bool.or_eq_false_iff, Bool.and_eq_false_iff, beq_eq_false_iff_ne,
      decide_eq_false_iff_not]
    omega

/-- A number that ends behind its whole part is an integer, if there is one for it. -/
theorem readAfterWhole_of_ends (h : Ends rest) (s : Nat) (negative : Bool) :
    readAfterWhole negative s 0 rest =
      if ! negative then .ok (.integer s, rest)
      else if s ≠ 0 ∧ s ≤ 0x8000000000000000 then .ok (.integer (-s), rest)
      else .ok (.float (Binary64.ofNat s).neg, rest) := by
  cases rest with
  | nil => rfl
  | cons c cs =>
    obtain ⟨-, hpoint, he, hE⟩ := h c rfl
    rw [readAfterWhole.eq_def]
    split
    · rename_i heq
      exact absurd (List.cons.inj heq).1 hpoint
    · rw [if_neg]
      simp [he, hE]

/-- The first digit of a number is no zero, but for zero. -/
theorem head_toDigits_ne (h : n ≠ 0) {c : Char} {cs : List Char}
    (hn : Nat.toDigits 10 n = c :: cs) : c ≠ '0' := by
  induction n using Nat.strongRecOn generalizing c cs with
  | _ n ih =>
    by_cases hlt : n < 10
    · rw [Nat.toDigits_of_lt_base hlt, List.cons.injEq] at hn
      rw [← hn.1]
      exact fun hz => h (Nat.digitChar_eq_zero.mp hz)
    · -- the first digit is that of the number without its last one
      rw [Nat.toDigits_of_base_le (by decide) (by omega)] at hn
      cases hq : Nat.toDigits 10 (n / 10) with
      | nil => exact absurd hq Nat.toDigits_ne_nil
      | cons c' cs' =>
        rw [hq, List.cons_append, List.cons.injEq] at hn
        rw [← hn.1]
        exact ih (n / 10) (by omega) (by omega) hq

/-- **The digits of a number are read as that number**, whatever ends it. -/
theorem readUnsigned_toDigits (hn : n < 0x10000000000000000) (hrest : Ends rest) :
    readUnsigned negative (Nat.toDigits 10 n ++ rest) = readAfterWhole negative n 0 rest := by
  cases hds : Nat.toDigits 10 n with
  | nil => exact absurd hds Nat.toDigits_ne_nil
  | cons c cs =>
    have hdigits : ∀ c' ∈ c :: cs, c'.isDigit = true := fun c' hc' =>
      Nat.isDigit_of_mem_toDigits (by decide) (by decide) (hds ▸ hc')
    rw [List.forall_mem_cons] at hdigits
    by_cases hzero : n = 0
    · -- zero is written as a single digit
      subst hzero
      obtain ⟨rfl, rfl⟩ : '0' = c ∧ [] = cs := List.cons.inj hds
      rw [List.cons_append, List.nil_append, readUnsigned]
      cases rest with
      | nil => rfl
      | cons c cs =>
        have hc : c.isDigit = false := (hrest c rfl).1
        simp [hc]
    · have hc : c ≠ '0' := head_toDigits_ne hzero hds
      have hvalue : Nat.ofDigitChars 10 cs (digitValue c) = n := by
        have h := Nat.ofDigitChars_ten_toDigits (n := n)
        rwa [hds, ofDigitChars_cons, Nat.zero_mul, Nat.zero_add] at h
      rw [List.cons_append, readUnsigned.eq_def]
      split
      · rename_i heq
        cases heq
      · rename_i heq
        exact absurd (List.cons.inj heq).1 hc
      · rename_i heq
        obtain ⟨rfl, rfl⟩ := List.cons.inj heq
        rw [if_pos hdigits.1, gatherDigits_append hdigits.2 (by rwa [hvalue]) hrest, hvalue]
        simp only [passDigits_of_ends hrest]

/-- **An integer in the range of integers is read back.** -/
theorem readNumber_writeInteger {i : Int} (hi : InIntegerRange i) (hrest : Ends rest) :
    readNumber (writeInteger i ++ rest) = .ok (.integer i, rest) := by
  obtain ⟨hlow, hhigh⟩ := hi
  rw [writeInteger]
  by_cases hneg : i < 0
  · have hfit : i.natAbs < 0x10000000000000000 := by omega
    have hrange : i.natAbs ≠ 0 ∧ i.natAbs ≤ 0x8000000000000000 := by omega
    have hvalue : -(i.natAbs : Int) = i := by omega
    rw [if_pos hneg, List.singleton_append, List.cons_append, readNumber,
      readUnsigned_toDigits hfit hrest, readAfterWhole_of_ends hrest, if_neg (by decide),
      if_pos hrange, hvalue]
  · have hfit : i.natAbs < 0x10000000000000000 := by omega
    have hvalue : (i.natAbs : Int) = i := by omega
    rw [if_neg hneg, List.nil_append]
    cases hds : Nat.toDigits 10 i.natAbs with
    | nil => exact absurd hds Nat.toDigits_ne_nil
    | cons c cs =>
      have hc : c.isDigit = true :=
        Nat.isDigit_of_mem_toDigits (by decide) (by decide) (hds ▸ List.mem_cons_self)
      have hminus : c ≠ '-' := by
        rintro rfl
        cases hc
      rw [List.cons_append, readNumber.eq_def]
      split
      · rename_i heq
        exact absurd (List.cons.inj heq).1 hminus
      · rw [← List.cons_append, ← hds, readUnsigned_toDigits hfit hrest,
          readAfterWhole_of_ends hrest, if_pos (by decide), hvalue]

end Rulebook.Json
