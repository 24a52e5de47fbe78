import Mathlib.Algebra.Group.Nat.Defs
import Rulebook.Binary64.Shortest

/-!
# The digits of a double

The decimals among which the shortest one is searched are multiples of powers of ten that are not
above the double (`Rulebook.Binary64.Reaches`), so the two neighbours of the double among them are
not zero. Stripping zeros from the end leaves a digit that is none. So a decimal that was found
begins with a digit other than zero (`Rulebook.Binary64.digits_shortest`), which is what a reader
of numbers asks for.
-/

namespace Rulebook.Binary64

variable {n num den : Nat} {g g' : Int}

/-! ### Powers of ten -/

theorem lt_pow_digitCount (n : Nat) : n < 10 ^ digitCount n :=
  (Nat.length_toDigits_le_iff (by decide) Nat.length_toDigits_pos).mp (Nat.le_refl _)

theorem pow_digitCount_le (hn : 0 < n) : 10 ^ (digitCount n - 1) ≤ n := by
  refine Nat.le_of_not_lt fun hlt => ?_
  rcases Nat.eq_zero_or_pos (digitCount n - 1) with hone | hpos
  · rw [hone] at hlt
    exact absurd hlt (Nat.not_lt.mpr hn)
  · have hle : digitCount n ≤ digitCount n - 1 :=
      (Nat.length_toDigits_le_iff (by decide) hpos).mpr hlt
    omega

/-- **Whether a quotient is at least a power of ten.** -/
def Reaches (num den : Nat) (g : Int) : Prop :=
  if 0 ≤ g then den * 10 ^ g.toNat ≤ num else den ≤ num * 10 ^ (-g).toNat

/-- What reaches a power of ten reaches all that are less. -/
theorem Reaches.mono (h : Reaches num den g) (hle : g' ≤ g) : Reaches num den g' := by
  rw [Reaches] at h ⊢
  split
  · rw [if_pos (by omega)] at h
    have hpow : 10 ^ g'.toNat ≤ 10 ^ g.toNat := Nat.pow_le_pow_right (by decide) (by omega)
    exact Nat.le_trans (Nat.mul_le_mul_left den hpow) h
  · split at h
    · have hden : den * 1 ≤ den * 10 ^ g.toNat :=
        Nat.mul_le_mul_left den (Nat.one_le_pow _ _ (by decide))
      have hnum : num * 1 ≤ num * 10 ^ (-g').toNat :=
        Nat.mul_le_mul_left num (Nat.one_le_pow _ _ (by decide))
      omega
    · have hpow : 10 ^ (-g).toNat ≤ 10 ^ (-g').toNat :=
        Nat.pow_le_pow_right (by decide) (by omega)
      exact Nat.le_trans h (Nat.mul_le_mul_left num hpow)

/-- **The logarithm of a quotient is reached.** -/
theorem reaches_floorLog10 (hnum : 0 < num) (hden : 0 < den) :
    Reaches num den (floorLog10 num den) := by
  rw [floorLog10]
  split
  · rename_i hle
    have hquotient : 0 < num / den := Nat.div_pos hle hden
    have hcount : 0 < digitCount (num / den) := Nat.length_toDigits_pos
    have hpow : den * 10 ^ (digitCount (num / den) - 1) ≤ num :=
      Nat.le_trans (Nat.mul_le_mul_left den (pow_digitCount_le hquotient)) (Nat.mul_div_le num den)
    have hexponent : ((digitCount (num / den) : Int) - 1).toNat = digitCount (num / den) - 1 := by
      omega
    rwa [Reaches, if_pos (by omega), hexponent]
  · have hcount : 0 < digitCount (den / num) := Nat.length_toDigits_pos
    dsimp only
    split
    · rename_i heq
      rw [Nat.pow_eq] at heq
      rw [Reaches]
      split
      · have hone : digitCount (den / num) - 1 = 0 := by omega
        rw [hone] at heq
        omega
      · have hexponent : (-(-((digitCount (den / num) : Int) - 1))).toNat =
            digitCount (den / num) - 1 := by omega
        rw [hexponent]
        exact Nat.le_of_eq heq.symm
    · have hlt : den < 10 ^ digitCount (den / num) * num :=
        (Nat.div_lt_iff_lt_mul hnum).mp (lt_pow_digitCount _)
      have hexponent : (-(-(digitCount (den / num) : Int))).toNat = digitCount (den / num) := by
        omega
      rw [Reaches, if_neg (by omega), hexponent, Nat.mul_comm]
      exact Nat.le_of_lt hlt

/-! ### Candidates -/

/-- **A candidate is not zero**, if it is a multiple of a power of ten that is reached. -/
theorem pos_of_nearest? {i : Interval} {digits : Nat} (hden : 0 < i.den)
    (hreach : Reaches i.value i.den g) (h : i.nearest? g = some digits) : 0 < digits := by
  have hscale : 0 < (i.scale g).den ∧ (i.scale g).den ≤ (i.scale g).value := by
    rw [Reaches] at hreach
    rw [Interval.scale]
    split
    · rw [if_pos ‹_›] at hreach
      exact ⟨Nat.mul_pos hden (Nat.pow_pos (by decide)), hreach⟩
    · rw [if_neg ‹_›] at hreach
      exact ⟨hden, hreach⟩
  have hbelow : 0 < (i.scale g).value / (i.scale g).den := Nat.div_pos hscale.2 hscale.1
  rw [Interval.nearest?] at h
  split at h
  · cases h
    exact hbelow
  · cases h
    exact Nat.succ_pos _
  · cases h
  · split at h
    · cases h
      exact hbelow
    · split at h
      · cases h
        exact Nat.succ_pos _
      · split at h
        · cases h
          exact hbelow
        · cases h
          exact Nat.succ_pos _

/-- Stripping zeros from the end of a number that is not zero leaves one that is not. -/
theorem pos_digits_strip {d : Decimal} (h : 0 < d.digits) : 0 < d.strip.digits := by
  have hgo (fuel : Nat) {d : Decimal} (h : 0 < d.digits) :
      0 < (Decimal.strip.go fuel d).digits := by
    induction fuel generalizing d with
    | zero => exact h
    | succ fuel ih =>
      rw [Decimal.strip.go]
      split
      · rename_i hzero
        exact ih (Nat.div_pos (by omega) (by decide))
      · exact h
  exact hgo _ h

theorem pos_ratio {m : Nat} (hm : 0 < m) (e : Int) : 0 < (ratio m e).1 ∧ 0 < (ratio m e).2 := by
  rw [ratio]
  split
  · exact ⟨Nat.mul_pos hm (Nat.pow_pos (by decide)), Nat.one_pos⟩
  · exact ⟨hm, Nat.pow_pos (by decide)⟩

/-- **The digits of a double make no zero**, unless no decimal was found at all. -/
theorem digits_shortest {m : Nat} (hm : 0 < m) (e : Int) :
    shortest m e = ⟨0, 0⟩ ∨ 0 < (shortest m e).digits := by
  have hratio := pos_ratio (m := 1) (by decide) (e - 2)
  have hvalue : 0 < (interval m e).value :=
    Nat.mul_pos (Nat.mul_pos (by decide) hm) hratio.1
  have hden : 0 < (interval m e).den := hratio.2
  rw [shortest]
  dsimp only
  generalize hcandidates : List.filterMap (β := Decimal) _ (List.range 18) = candidates
  cases candidates with
  | nil => exact .inl rfl
  | cons d ds =>
    refine .inr (pos_digits_strip ?_)
    have hmem : d ∈ d :: ds := List.mem_cons_self
    rw [← hcandidates, List.mem_filterMap] at hmem
    obtain ⟨n, -, hd⟩ := hmem
    obtain ⟨digits, hdigits, rfl⟩ := Option.map_eq_some_iff.mp hd
    exact pos_of_nearest? hden ((reaches_floorLog10 hvalue hden).mono (by omega)) hdigits

end Rulebook.Binary64
