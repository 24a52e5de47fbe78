import Mathlib.Data.List.Basic
import Rulebook.Text.LowerCase

/-!
# Lower case in ASCII

The table of lower cases goes through all of Unicode, and to look a character up in it takes long.
For a character of ASCII it is enough to know that only the first line of the table can matter
(`Rulebook.Text.lowerChar_of_ascii`). A text of ASCII can then be put in lower case without the
table (`Rulebook.Text.lower_of_ascii`).
-/

namespace Rulebook.Text

/-- Only the first of the runs has characters of ASCII. -/
theorem exists_lowerRuns_eq :
    ∃ runs, lowerRuns.toList = (0x41, 0x5A, 1, 32) :: runs ∧ ∀ run ∈ runs, 128 ≤ run.1 := by
  have hruns : lowerRuns.toList = (0x41, 0x5A, 1, 32) :: lowerRuns.toList.tail := by
    rw [lowerRuns]
    rfl
  have hlate : lowerRuns.toList.tail.all (fun run => decide (128 ≤ run.1)) = true := by
    decide +kernel
  exact ⟨_, hruns, fun run hrun => of_decide_eq_true (List.all_eq_true.mp hlate run hrun)⟩

/-- **A character of ASCII** has the lower case that it has in ASCII. -/
theorem lowerChar_of_ascii {c : Char} (h : c.toNat < 128) : lowerChar c = c.toLower := by
  obtain ⟨runs, hruns, hlate⟩ := exists_lowerRuns_eq
  unfold lowerChar
  dsimp only
  rw [← Array.find?_toList, hruns, List.find?_cons, List.find?_eq_none.mpr]
  · -- what is left speaks of the first run only, and there are 128 characters to try
    generalize hn : c.toNat = n at h
    obtain rfl : c = Char.ofNat n := by rw [← hn, Char.ofNat_toNat]
    clear hn hlate hruns
    revert n
    decide +kernel
  · intro run hrun hfits
    have hle := hlate run hrun
    simp only [Bool.and_eq_true, decide_eq_true_eq] at hfits
    omega

/-- **A text of ASCII** is put in lower case letter by letter. -/
theorem lower_of_ascii {s : String} (h : ∀ c ∈ s.toList, c.toNat < 128) :
    lower s = lowerAscii s := by
  rw [lower, lowerAscii, List.map_eq_flatMap]
  refine congrArg String.ofList (List.flatMap_congr fun c hc => ?_)
  have hc := h c hc
  have hne : c ≠ '\u0130' := by
    rintro rfl
    exact absurd hc (by decide)
  rw [if_neg hne, lowerChar_of_ascii hc]

end Rulebook.Text
