import Rulebook.Json.Literal
import Rulebook.Json.Printer

/-!
# Texts in JSON

Every text is read back from the way it is written (`Rulebook.Json.readString_writeText`),
whatever characters it holds: each of them is written so that it reads as itself in front of
anything else (`Rulebook.Json.readChars_escapedChar`). Seven characters have an escape of
their own, the other ones below U+0020 are written as a number in four hexadecimal digits,
and all others stand for themselves. A surrogate is never written, since none of them is a
character.
-/

namespace Rulebook.Json

variable {c : Char} {cs rest : List Char}

/-! ### Escapes by number -/

/-- **A number below U+0020 is read from its hexadecimal digits**, and it is no half of a
surrogate pair. -/
theorem hexUnit?_of_lt : ∀ n < 0x20,
    hexUnit? '0' '0' (Nat.digitChar (n / 16)) (Nat.digitChar (n % 16)) = some n ∧
      isLowSurrogate n = false ∧ isHighSurrogate n = false := by
  decide

/-- An escape by number stands for its character. -/
theorem readChars_numbered (h : c.toNat < 0x20) (cs : List Char) :
    readChars ('\\' :: 'u' :: '0' :: '0' :: Nat.digitChar (c.toNat / 16) ::
        Nat.digitChar (c.toNat % 16) :: cs) = pushChar c (readChars cs) := by
  obtain ⟨hunit, hlow, hhigh⟩ := hexUnit?_of_lt c.toNat h
  rw [readChars]
  simp only [hunit, hlow, hhigh, Char.ofNat_toNat, Bool.false_eq_true, if_false]

/-! ### Characters -/

/-- A character that needs no escape stands for itself. -/
theorem readChars_plain (hquote : c ≠ '"') (hback : c ≠ '\\') (h : ¬c.toNat < 0x20)
    (cs : List Char) : readChars (c :: cs) = pushChar c (readChars cs) := by
  rw [readChars.eq_7 c cs hquote (fun _ _ _ _ _ h _ => hback h) (fun _ h _ => hback h)
    (fun _ _ h _ => hback h) (fun h _ => hback h), if_neg h]

/-- **A character reads as itself from the way it is written.** -/
theorem readChars_escapedChar (c : Char) (cs : List Char) :
    readChars (escapedChar c ++ cs) = pushChar c (readChars cs) := by
  rw [escapedChar.eq_def]
  split
  -- the seven characters that have an escape of their own
  iterate 7
    rw [List.cons_append, List.singleton_append, readChars.eq_def]
    rfl
  · rename_i hquote hback _ _ _ _ _
    by_cases h : c.toNat < 0x20
    · rw [if_pos h]
      exact readChars_numbered h cs
    · rw [if_neg h]
      exact readChars_plain hquote hback h cs

/-! ### Texts -/

theorem readChars_flatMap (s : List Char) (rest : List Char) :
    readChars (s.flatMap escapedChar ++ '"' :: rest) = .ok (s, rest) := by
  induction s with
  | nil => rfl
  | cons c s ih =>
    rw [List.flatMap_cons, List.append_assoc, readChars_escapedChar, ih]
    rfl

/-- **Every text is read back** from behind its opening quotation mark. -/
theorem readString_writeText (s : String) (rest : List Char) :
    readString (s.toList.flatMap escapedChar ++ '"' :: rest) = .ok (s, rest) := by
  rw [readString, readChars_flatMap]
  change Except.ok (String.ofList s.toList, rest) = _
  rw [String.ofList_toList]

theorem writeText_append (s : String) (rest : List Char) :
    writeText s ++ rest = '"' :: (s.toList.flatMap escapedChar ++ '"' :: rest) := by
  rw [writeText, List.append_assoc, List.cons_append, List.singleton_append]

end Rulebook.Json
