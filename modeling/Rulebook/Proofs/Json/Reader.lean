import Rulebook.Json.Reader
import Rulebook.Proofs.Json.Literal
import Rulebook.Proofs.Json.Numeral
import Rulebook.Proofs.Result
import Rulebook.Text.Blank

/-!
# Reading what is spelled out

A text *spells* something for a reader (`Rulebook.Json.Spells`) if the reader takes it off
the front of any text, with any spaces before it, and leaves what comes behind. That is the
one property that makes readers fit together: an array whose elements are spelled out is
spelled out itself, and so is an object, with any spaces between the parts. There is one
lemma here for each piece of syntax, and none of them asks what the parts are.

The elements of an array are read by a loop that stops in front of the closing bracket. So
that the loop can be followed by induction on the elements, what is spelled out is the rest of
the array after an element, up to its end (`Rulebook.Json.ElementsFollow`); it starts with
a comma, a space or a bracket, which is what ends a number. Members of objects are treated
in the same way.
-/

namespace Rulebook.Json

/-! ### Spaces -/

/-- Whether nothing but spaces stands in a stretch of text. -/
def Gap (g : List Char) : Prop := ∀ c ∈ g, isSpace c = true

variable {g g' t t' rest : List Char} {c : Char}

theorem gap_nil : Gap [] := by
  intro c hc
  cases hc

theorem skipSpace_gap (hg : Gap g) (cs : List Char) : skipSpace (g ++ cs) = skipSpace cs :=
  List.dropWhile_append_of_pos hg

/-- What separates the parts of a text is blank. -/
theorem isSpace_of_not_isBlank (h : Text.isBlank c = false) : isSpace c = false := by
  rw [Bool.eq_false_iff] at h ⊢
  intro hc
  simp only [isSpace, Bool.or_eq_true, beq_iff_eq] at hc
  rcases hc with ((rfl | rfl) | rfl) | rfl <;> exact h rfl

theorem skipSpace_cons (h : isSpace c = false) (cs : List Char) :
    skipSpace (c :: cs) = c :: cs :=
  List.dropWhile_cons_of_neg (by simp [h])

/-- A space ends a number. -/
theorem ends_of_isSpace (h : isSpace c = true) (cs : List Char) : Ends (c :: cs) := by
  simp only [isSpace, Bool.or_eq_true, beq_iff_eq] at h
  rcases h with ((rfl | rfl) | rfl) | rfl <;> exact ends_cons (by decide)

/-- Spaces before something that ends a number end it as well. -/
theorem ends_gap (hg : Gap g) (h : Ends rest) : Ends (g ++ rest) := by
  cases g with
  | nil => exact h
  | cons c cs => exact ends_of_isSpace (hg c List.mem_cons_self) _

/-! ### Spellings -/

section Spelling

variable {α : Type} {item : List Char → Except Stop (Read α)} {x : α} {xs : List α}
  {ms : List (String × α)}

/-- **The text `t` spells `x`** for a reader: the reader takes it off the front of any text,
with spaces before it. It starts with no blank, and not like the end of an array. -/
structure Spells (item : List Char → Except Stop (Read α)) (x : α) (t : List Char) : Prop where
  starts : ∃ c cs, t = c :: cs ∧ Text.isBlank c = false ∧ c ≠ ']'
  reads : ∀ {g rest}, Gap g → Ends rest → item (g ++ (t ++ rest)) = .ok (x, rest)

theorem skipSpace_of_starts (h : ∃ c cs, t = c :: cs ∧ Text.isBlank c = false ∧ c ≠ ']')
    (hg : Gap g) (rest : List Char) :
    ∃ c cs, c ≠ ']' ∧ t ++ rest = c :: cs ∧ skipSpace (g ++ c :: cs) = c :: cs := by
  obtain ⟨c, cs, rfl, hblank, hc⟩ := h
  refine ⟨c, cs ++ rest, hc, rfl, ?_⟩
  rw [skipSpace_gap hg]
  exact skipSpace_cons (isSpace_of_not_isBlank hblank) _

/-! ### Arrays -/

/-- **The text `t` spells the elements after one**, and the end of their array. -/
structure ElementsFollow (item : List Char → Except Stop (Read α)) (xs : List α)
    (t : List Char) : Prop where
  ends : ∀ rest, Ends (t ++ rest)
  length : xs.length < t.length
  reads : ∀ fuel rest, xs.length < fuel →
    readElementsLoop item fuel false (t ++ rest) = .ok (xs, ']' :: rest)

theorem nextElement_bracket (hg : Gap g) (first : Bool) (rest : List Char) :
    nextElement first (g ++ ']' :: rest) = .ok (false, ']' :: rest) := by
  rw [nextElement, skipSpace_gap hg, skipSpace_cons rfl]
  rfl

theorem nextElement_first (hg : Gap g)
    (ht : ∃ c cs, t = c :: cs ∧ Text.isBlank c = false ∧ c ≠ ']') (rest : List Char) :
    nextElement true (g ++ (t ++ rest)) = .ok (true, t ++ rest) := by
  obtain ⟨c, cs, hc, ht, hskip⟩ := skipSpace_of_starts ht hg rest
  simp [nextElement, hskip, ht]

theorem nextElement_comma (hg : Gap g)
    (ht : ∃ c cs, t = c :: cs ∧ Text.isBlank c = false ∧ c ≠ ']') (rest : List Char) :
    nextElement false (',' :: (g ++ (t ++ rest))) = .ok (true, t ++ rest) := by
  obtain ⟨c, cs, hc, ht, hskip⟩ := skipSpace_of_starts ht hg rest
  have hcomma (cs : List Char) : skipSpace (',' :: cs) = ',' :: cs := skipSpace_cons rfl cs
  simp [nextElement, hcomma, hskip, ht, hc]

theorem elementsFollow_nil (hg : Gap g) : ElementsFollow item [] (g ++ [']']) where
  ends rest := by
    rw [List.append_assoc]
    exact ends_gap hg (ends_cons (by decide))
  length := by simp
  reads fuel rest hfuel := by
    obtain ⟨fuel, rfl⟩ := Nat.exists_eq_add_one_of_ne_zero (Nat.ne_of_gt hfuel)
    rw [List.append_assoc, readElementsLoop, List.singleton_append, nextElement_bracket hg]
    rfl

/-- One more element, between the comma and those that follow. -/
theorem elementsFollow_cons (hg : Gap g) (hx : Spells item x t)
    (hxs : ElementsFollow item xs t') :
    ElementsFollow item (x :: xs) (',' :: (g ++ (t ++ t'))) where
  ends rest := ends_cons (by decide)
  length := by
    have hlength := hxs.length
    simp only [List.length_cons, List.length_append]
    omega
  reads fuel rest hfuel := by
    obtain ⟨fuel, rfl⟩ := Nat.exists_eq_add_one_of_ne_zero (Nat.ne_zero_of_lt hfuel)
    have hloop := hxs.reads fuel rest (Nat.lt_of_succ_lt_succ hfuel)
    have hitem := hx.reads gap_nil (hxs.ends rest)
    rw [List.nil_append] at hitem
    rw [List.cons_append, List.append_assoc, List.append_assoc, readElementsLoop,
      nextElement_comma hg hx.starts]
    simp only [ok_bind, hitem, hloop]

theorem readElements_nil (rest : List Char) :
    readElements item (']' :: rest) = .ok ([], ']' :: rest) := by
  rw [readElements, readElementsLoop, ← List.nil_append (']' :: rest), nextElement_bracket gap_nil]
  rfl

/-- **The elements of an array are read** if each of them is. -/
theorem readElements_cons (hg : Gap g) (hx : Spells item x t) (hxs : ElementsFollow item xs t')
    (rest : List Char) :
    readElements item (g ++ (t ++ (t' ++ rest))) = .ok (x :: xs, ']' :: rest) := by
  have hitem := hx.reads gap_nil (hxs.ends rest)
  rw [List.nil_append] at hitem
  have hloop := hxs.reads (g ++ (t ++ (t' ++ rest))).length rest (by
    have hlength := hxs.length
    simp only [List.length_append]
    omega)
  rw [readElements, readElementsLoop, nextElement_first hg hx.starts]
  simp only [ok_bind, hitem, hloop]

theorem closeArray_bracket (rest : List Char) : closeArray (']' :: rest) = .ok rest := by
  rw [closeArray, skipSpace_cons rfl]
  rfl

/-! ### Objects -/

/-- **The text `t` spells the members after one**, and the end of their object. -/
structure MembersFollow (item : List Char → Except Stop (Read α)) (ms : List (String × α))
    (t : List Char) : Prop where
  ends : ∀ rest, Ends (t ++ rest)
  length : ms.length < t.length
  reads : ∀ fuel rest, ms.length < fuel →
    readMembersLoop item fuel false (t ++ rest) = .ok (ms, '}' :: rest)

theorem nextKey_brace (hg : Gap g) (first : Bool) (rest : List Char) :
    nextKey first (g ++ '}' :: rest) = .ok (none, '}' :: rest) := by
  rw [nextKey, skipSpace_gap hg, skipSpace_cons rfl]
  rfl

theorem readKey_writeText (k : String) (rest : List Char) :
    readKey (writeText k ++ rest) = .ok (some k, rest) := by
  rw [writeText_append, readKey, readString_writeText]
  rfl

theorem skipSpace_writeText (hg : Gap g) (k : String) (rest : List Char) :
    skipSpace (g ++ (writeText k ++ rest)) = writeText k ++ rest := by
  rw [skipSpace_gap hg, writeText_append]
  exact skipSpace_cons rfl _

theorem nextKey_first (hg : Gap g) (k : String) (rest : List Char) :
    nextKey true (g ++ (writeText k ++ rest)) = .ok (some k, rest) := by
  have hkey := readKey_writeText k rest
  rw [nextKey, skipSpace_writeText hg]
  rw [writeText_append] at hkey ⊢
  exact hkey

theorem nextKey_comma (hg : Gap g) (k : String) (rest : List Char) :
    nextKey false (',' :: (g ++ (writeText k ++ rest))) = .ok (some k, rest) := by
  rw [nextKey, skipSpace_cons rfl]
  change readKey (skipSpace (g ++ (writeText k ++ rest))) = _
  rw [skipSpace_writeText hg, readKey_writeText]

theorem readColon_colon (rest : List Char) : readColon (':' :: rest) = .ok rest := by
  rw [readColon, skipSpace_cons rfl]
  rfl

theorem membersFollow_nil (hg : Gap g) : MembersFollow item [] (g ++ ['}']) where
  ends rest := by
    rw [List.append_assoc]
    exact ends_gap hg (ends_cons (by decide))
  length := by simp
  reads fuel rest hfuel := by
    obtain ⟨fuel, rfl⟩ := Nat.exists_eq_add_one_of_ne_zero (Nat.ne_of_gt hfuel)
    rw [List.append_assoc, readMembersLoop, List.singleton_append, nextKey_brace hg]
    rfl

/-- One more member, between the comma and those that follow. -/
theorem membersFollow_cons {k : String} (hg : Gap g) (hg' : Gap g') (hx : Spells item x t)
    (hms : MembersFollow item ms t') :
    MembersFollow item ((k, x) :: ms)
      (',' :: (g ++ (writeText k ++ ':' :: (g' ++ (t ++ t'))))) where
  ends rest := ends_cons (by decide)
  length := by
    have hlength := hms.length
    simp only [List.length_cons, List.length_append]
    omega
  reads fuel rest hfuel := by
    obtain ⟨fuel, rfl⟩ := Nat.exists_eq_add_one_of_ne_zero (Nat.ne_zero_of_lt hfuel)
    have hloop := hms.reads fuel rest (Nat.lt_of_succ_lt_succ hfuel)
    have hitem := hx.reads hg' (hms.ends rest)
    simp only [List.cons_append, List.append_assoc]
    rw [readMembersLoop, nextKey_comma hg]
    simp only [ok_bind, readColon_colon, hitem, hloop]

theorem readMembers_nil (rest : List Char) :
    readMembers item ('}' :: rest) = .ok ([], '}' :: rest) := by
  rw [readMembers, readMembersLoop, ← List.nil_append ('}' :: rest), nextKey_brace gap_nil]
  rfl

/-- **The members of an object are read** if the value of each of them is. -/
theorem readMembers_cons {k : String} (hg : Gap g) (hg' : Gap g') (hx : Spells item x t)
    (hms : MembersFollow item ms t') (rest : List Char) :
    readMembers item (g ++ (writeText k ++ ':' :: (g' ++ (t ++ (t' ++ rest))))) =
      .ok ((k, x) :: ms, '}' :: rest) := by
  have hitem := hx.reads hg' (hms.ends rest)
  have hloop := hms.reads (g ++ (writeText k ++ ':' :: (g' ++ (t ++ (t' ++ rest))))).length rest (by
    have hlength := hms.length
    simp only [List.length_append, List.length_cons]
    omega)
  rw [readMembers, readMembersLoop, nextKey_first hg]
  simp only [ok_bind, readColon_colon, hitem, hloop]

theorem closeObject_brace (rest : List Char) : closeObject ('}' :: rest) = .ok rest := by
  rw [closeObject, skipSpace_cons rfl]
  rfl

end Spelling

/-! ### Scalars -/

variable {depth : Nat} {v : Value} {n : Int}

/-- A value that is no array and no object is spelled by what reads as it. -/
theorem spells_scalar {cs : List Char}
    (hc : Text.isBlank c = false ∧ c ≠ ']' ∧ c ≠ '[' ∧ c ≠ '{')
    (h : ∀ rest, Ends rest → readScalar (c :: cs ++ rest) = .ok (v, rest)) :
    Spells (readValue depth) v (c :: cs) where
  starts := ⟨c, cs, rfl, hc.1, hc.2.1⟩
  reads := by
    intro g rest hg hrest
    rw [readValue, skipSpace_gap hg, List.cons_append,
      skipSpace_cons (isSpace_of_not_isBlank hc.1)]
    split
    · rename_i heq
      exact absurd (List.cons.inj heq).1 hc.2.2.1
    · rename_i heq
      exact absurd (List.cons.inj heq).1 hc.2.2.2
    · exact h rest hrest

theorem spells_null : Spells (readValue depth) .null ['n', 'u', 'l', 'l'] :=
  spells_scalar (by decide) fun _ _ => rfl

theorem spells_true : Spells (readValue depth) (.bool true) ['t', 'r', 'u', 'e'] :=
  spells_scalar (by decide) fun _ _ => rfl

theorem spells_false : Spells (readValue depth) (.bool false) ['f', 'a', 'l', 's', 'e'] :=
  spells_scalar (by decide) fun _ _ => rfl

/-- **Every text is spelled by the way it is written.** -/
theorem spells_text (s : String) : Spells (readValue depth) (.string s) (writeText s) := by
  refine spells_scalar (by decide) fun rest _ => ?_
  change readScalar (writeText s ++ rest) = _
  rw [writeText_append, readScalar, readString_writeText]
  rfl

/-- What starts like a number is read as one. -/
theorem readScalar_number (hc : c = '-' ∨ c.isDigit = true) (cs : List Char) :
    readScalar (c :: cs) = readNumber (c :: cs) := by
  have hn : c ≠ 'n' := ne_of_opens_number hc (by decide)
  have ht : c ≠ 't' := ne_of_opens_number hc (by decide)
  have hf : c ≠ 'f' := ne_of_opens_number hc (by decide)
  have hquote : c ≠ '"' := ne_of_opens_number hc (by decide)
  rw [readScalar.eq_6 c cs hn ht hf hquote, if_pos hc]

/-- **An integer in the range of integers is spelled by its digits.** -/
theorem spells_integer (hn : InIntegerRange n) :
    Spells (readValue depth) (.integer n) (writeInteger n) := by
  obtain ⟨c, cs, hcs, hc⟩ := writeInteger_eq_cons n
  rw [hcs]
  refine spells_scalar ⟨isBlank_of_opens_number hc, ?_, ?_, ?_⟩ fun rest hrest => ?_
  · exact ne_of_opens_number hc (by decide)
  · exact ne_of_opens_number hc (by decide)
  · exact ne_of_opens_number hc (by decide)
  · rw [← readNumber_writeInteger hn hrest, hcs, List.cons_append]
    exact readScalar_number hc _

/-! ### Arrays and objects in arrays and objects -/

/-- An array is spelled by its elements. -/
theorem spells_of_readElements {xs : List Value}
    (h : ∀ rest, readElements (readValue depth) (t ++ rest) = .ok (xs, ']' :: rest)) :
    Spells (readValue (depth + 1)) (.array xs) ('[' :: t) where
  starts := ⟨'[', t, rfl, rfl, by decide⟩
  reads := by
    intro g rest hg hrest
    rw [readValue, skipSpace_gap hg, List.cons_append, skipSpace_cons rfl]
    change (readElements (readValue depth) (t ++ rest) >>= _) = _
    simp only [h, ok_bind, closeArray_bracket]

theorem spells_array_nil : Spells (readValue (depth + 1)) (.array []) ['[', ']'] :=
  spells_of_readElements fun rest => readElements_nil rest

theorem spells_array_cons {x : Value} {xs : List Value} (hg : Gap g)
    (hx : Spells (readValue depth) x t) (hxs : ElementsFollow (readValue depth) xs t') :
    Spells (readValue (depth + 1)) (.array (x :: xs)) ('[' :: (g ++ (t ++ t'))) := by
  refine spells_of_readElements fun rest => ?_
  rw [List.append_assoc, List.append_assoc]
  exact readElements_cons hg hx hxs rest

/-- An object is spelled by its members. -/
theorem spells_of_readMembers {ms : List Member}
    (h : ∀ rest, readMembers (readValue depth) (t ++ rest) = .ok (ms, '}' :: rest)) :
    Spells (readValue (depth + 1)) (.object ms) ('{' :: t) where
  starts := ⟨'{', t, rfl, rfl, by decide⟩
  reads := by
    intro g rest hg hrest
    rw [readValue, skipSpace_gap hg, List.cons_append, skipSpace_cons rfl]
    change (readMembers (readValue depth) (t ++ rest) >>= _) = _
    simp only [h, ok_bind, closeObject_brace]

theorem spells_object_nil : Spells (readValue (depth + 1)) (.object []) ['{', '}'] :=
  spells_of_readMembers fun rest => readMembers_nil rest

theorem spells_object_cons {k : String} {ms : List Member} (hg : Gap g) (hg' : Gap g')
    (hv : Spells (readValue depth) v t) (hms : MembersFollow (readValue depth) ms t') :
    Spells (readValue (depth + 1)) (.object ((k, v) :: ms))
      ('{' :: (g ++ (writeText k ++ ':' :: (g' ++ (t ++ t'))))) := by
  refine spells_of_readMembers fun rest => ?_
  simp only [List.append_assoc, List.cons_append]
  exact readMembers_cons hg hg' hv hms rest

/-! ### Whole texts -/

section WholeTexts

variable {α : Type} {reader : List Char → Except Stop (Read α)} {x : α} {text : String}

/-- **What is read from a whole text** is read at its front, and only spaces come behind it. -/
theorem readAll_eq_ok_iff :
    readAll reader text = .ok x ↔
      ∃ rest, reader text.toList = .ok (x, rest) ∧ skipSpace rest = [] := by
  cases hread : reader text.toList with
  | error stop =>
    rw [readAll, hread]
    exact iff_of_false (by rintro ⟨⟩) (by rintro ⟨rest, ⟨⟩, -⟩)
  | ok read =>
    obtain ⟨y, rest⟩ := read
    rw [readAll, hread]
    dsimp only [ok_bind]
    constructor
    · intro h
      split at h <;> cases h
      exact ⟨rest, rfl, ‹_›⟩
    · rintro ⟨rest', heq, hrest⟩
      cases heq
      rw [hrest]
      rfl

/-- **A text that spells a value is read as that value.** -/
theorem readAll_of_spells (h : Spells reader x text.toList) : readAll reader text = .ok x := by
  have hreads := h.reads gap_nil ends_nil
  rw [List.nil_append, List.append_nil] at hreads
  exact readAll_eq_ok_iff.mpr ⟨[], hreads, rfl⟩

end WholeTexts

/-- A text that spells a value means this value, settled. -/
theorem parse_of_spells {text : String} (h : Spells (readValue maxDepth) v text.toList) :
    parse text = .ok v.settled := by
  rw [parse, parseWritten, readAll_of_spells h]
  rfl

end Rulebook.Json
