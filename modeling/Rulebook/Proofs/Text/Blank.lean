import Mathlib.Data.List.TakeWhile
import Rulebook.Text.Blank

/-!
# Trimming and words

A text is trimmed by dropping blanks in front, twice, once from each end. What is left is
empty exactly for the texts that hold nothing but blanks, so the test for a blank text
(`Rulebook.Text.blank`) needs no trimming (`Rulebook.Text.blank_iff`). A text with something
else at both of its ends is left as it is (`Rulebook.Text.trimmed_eq_self_iff`); we call it
*framed* (`Rulebook.Text.Framed`).

A word that is put in front of a blank is cut off again, whatever stands behind the blank
(`Rulebook.Text.cutWord_append`), and it is the first one when the words are listed
(`Rulebook.Text.words_append`). Conversely every framed text can be taken apart, word by word
(`Rulebook.Text.Framed.cut`).
-/

namespace Rulebook.Text

variable {cs : List Char} {s : String}

theorem dropBlanks_eq_nil_iff : dropBlanks cs = [] ↔ ∀ c ∈ cs, isBlank c = true :=
  List.dropWhile_eq_nil_iff

/-- What is dropped in front is blank, so it does not matter when only blanks are looked
for. -/
theorem forall_mem_dropBlanks_iff :
    (∀ c ∈ dropBlanks cs, isBlank c = true) ↔ ∀ c ∈ cs, isBlank c = true := by
  constructor
  · intro h c hc
    rw [← List.takeWhile_append_dropWhile (p := isBlank) (l := cs), List.mem_append] at hc
    rcases hc with hc | hc
    · exact List.mem_takeWhile_imp hc
    · exact h c hc
  · intro h c hc
    exact h c ((List.dropWhile_suffix isBlank).subset hc)

theorem trimmed_eq_nil_iff : trimmed cs = [] ↔ ∀ c ∈ cs, isBlank c = true := by
  rw [trimmed, List.reverse_eq_nil_iff, dropBlanks_eq_nil_iff]
  simp only [List.mem_reverse]
  exact forall_mem_dropBlanks_iff

/-- **A text is blank if nothing is left of it when it is trimmed.** -/
theorem blank_iff : blank s = true ↔ trim s = "" := by
  rw [blank, List.all_eq_true, ← trimmed_eq_nil_iff, trim]
  exact String.ofList_eq_empty_iff.symm

/-- What is left of a text when it is trimmed is the front of what is left when only the
blanks in front are dropped. -/
theorem trimmed_prefix (cs : List Char) : trimmed cs <+: dropBlanks cs := by
  have h := List.reverse_prefix.mpr (List.dropWhile_suffix isBlank (l := (dropBlanks cs).reverse))
  rwa [List.reverse_reverse] at h

/-- A trimmed text begins with no blank. -/
theorem isBlank_of_trimmed_eq_cons {d : Char} {ds : List Char} (h : trimmed cs = d :: ds) :
    isBlank d = false := by
  obtain ⟨more, hmore⟩ := trimmed_prefix cs
  rw [h] at hmore
  have hhead := List.head?_dropWhile_not isBlank cs
  rw [← dropBlanks, ← hmore] at hhead
  exact hhead

theorem dropBlanks_of_head (h : ∀ c ∈ cs.head?, isBlank c = false) : dropBlanks cs = cs := by
  cases cs with
  | nil => rfl
  | cons c cs =>
    have hc : isBlank c = false := h c rfl
    rw [dropBlanks, List.dropWhile_cons_of_neg (by rw [hc]; exact Bool.false_ne_true)]

/-- A trimmed text ends in no blank. -/
theorem isBlank_of_getLast?_trimmed {c : Char} (h : c ∈ (trimmed cs).getLast?) :
    isBlank c = false := by
  rw [trimmed, List.getLast?_reverse] at h
  have hhead := List.head?_dropWhile_not isBlank (dropBlanks cs).reverse
  rw [← dropBlanks, Option.mem_def.mp h] at hhead
  exact hhead

/-- **The texts that trimming leaves alone** are those with no blank at their ends. -/
theorem trimmed_eq_self_iff :
    trimmed cs = cs ↔
      (∀ c ∈ cs.head?, isBlank c = false) ∧ ∀ c ∈ cs.getLast?, isBlank c = false := by
  constructor
  · intro h
    refine ⟨fun c hc => ?_, fun c hc => isBlank_of_getLast?_trimmed (h.symm ▸ hc)⟩
    obtain ⟨more, rfl⟩ : ∃ more, cs = c :: more := by
      cases cs with
      | nil => cases hc
      | cons d more => exact ⟨more, by rw [Option.some.inj hc]⟩
    exact isBlank_of_trimmed_eq_cons h
  · rintro ⟨hhead, hlast⟩
    have hlast' : ∀ c ∈ cs.reverse.head?, isBlank c = false := by
      rw [List.head?_reverse]
      exact hlast
    rw [trimmed, dropBlanks_of_head hhead, dropBlanks_of_head hlast', List.reverse_reverse]

/-- **A text with something else than blanks at both of its ends.** -/
structure Framed (cs : List Char) : Prop where
  ne_nil : cs ≠ []
  trimmed : trimmed cs = cs

/-- What stands between two framed texts does not matter. -/
theorem Framed.append {front back : List Char} (hfront : Framed front) (hback : Framed back)
    (gap : List Char) : Framed (front ++ (gap ++ back)) := by
  refine ⟨fun hnil => hfront.ne_nil (List.append_eq_nil_iff.mp hnil).1, ?_⟩
  rw [trimmed_eq_self_iff]
  constructor
  · rw [List.head?_append, List.head?_eq_some_head hfront.ne_nil, Option.some_or,
      ← List.head?_eq_some_head hfront.ne_nil]
    exact (trimmed_eq_self_iff.mp hfront.trimmed).1
  · rw [← List.append_assoc, List.getLast?_append, List.getLast?_eq_some_getLast hback.ne_nil,
      Option.some_or, ← List.getLast?_eq_some_getLast hback.ne_nil]
    exact (trimmed_eq_self_iff.mp hback.trimmed).2

theorem framed_of_forall (hne : cs ≠ []) (h : ∀ c ∈ cs, isBlank c = false) : Framed cs :=
  ⟨hne, trimmed_eq_self_iff.mpr ⟨fun c hc => h c (List.mem_of_mem_head? hc),
    fun c hc => h c (List.mem_of_getLast? hc)⟩⟩

theorem framed_intercalate {ws : List (List Char)} (hne : ws ≠ []) (h : ∀ w ∈ ws, Framed w)
    (gap : List Char) : Framed (gap.intercalate ws) := by
  induction ws with
  | nil => exact absurd rfl hne
  | cons w ws ih =>
    obtain ⟨hw, hws⟩ := List.forall_mem_cons.mp h
    cases ws with
    | nil =>
      rw [List.intercalate_singleton]
      exact hw
    | cons v ws =>
      rw [List.intercalate_cons_cons, List.append_assoc]
      exact hw.append (ih (List.cons_ne_nil v ws) hws) gap

/-- Blanks in front of a text do not outlast trimming. -/
theorem trimmed_append_of_blank {gap : List Char} (h : ∀ c ∈ gap, isBlank c = true) :
    trimmed (gap ++ cs) = trimmed cs := by
  have hdrop : dropBlanks (gap ++ cs) = dropBlanks cs := List.dropWhile_append_of_pos h
  rw [trimmed, hdrop]
  rfl

/-- Nor do blanks behind it. -/
theorem trimmed_append_blank {gap : List Char} (h : ∀ c ∈ gap, isBlank c = true) :
    trimmed (cs ++ gap) = trimmed cs := by
  by_cases hcs : dropBlanks cs = []
  · have hblank := dropBlanks_eq_nil_iff.mp hcs
    rw [trimmed_eq_nil_iff.mpr hblank, trimmed_eq_nil_iff, List.forall_mem_append]
    exact ⟨hblank, h⟩
  · have hdrop : dropBlanks (cs ++ gap) = dropBlanks cs ++ gap := by
      rw [dropBlanks, List.dropWhile_append, ← dropBlanks, List.isEmpty_eq_false_iff.mpr hcs]
      rfl
    have hgap : ∀ c ∈ gap.reverse, isBlank c = true := fun c hc => h c (List.mem_reverse.mp hc)
    rw [trimmed, hdrop, List.reverse_append, dropBlanks, List.dropWhile_append_of_pos hgap]
    rfl

/-- **A text is what is left of it** when it is trimmed, with blanks around it. -/
theorem exists_eq_trimmed (cs : List Char) :
    ∃ front back, (∀ c ∈ front, isBlank c = true) ∧ (∀ c ∈ back, isBlank c = true) ∧
      cs = front ++ (trimmed cs ++ back) := by
  refine ⟨cs.takeWhile isBlank, ((dropBlanks cs).reverse.takeWhile isBlank).reverse,
    fun c hc => List.mem_takeWhile_imp hc,
    fun c hc => List.mem_takeWhile_imp (List.mem_reverse.mp hc), ?_⟩
  rw [trimmed, ← List.reverse_append, dropBlanks, dropBlanks, List.takeWhile_append_dropWhile,
    List.reverse_reverse, List.takeWhile_append_dropWhile]

/-- What is trimmed is framed, if anything is left. -/
theorem framed_trimmed (h : trimmed cs ≠ []) : Framed (trimmed cs) := by
  refine ⟨h, trimmed_eq_self_iff.mpr ⟨fun c hc => ?_, fun c hc => isBlank_of_getLast?_trimmed hc⟩⟩
  obtain ⟨d, ds, hds⟩ := List.exists_cons_of_ne_nil h
  rw [hds] at hc
  exact Option.some.inj hc ▸ isBlank_of_trimmed_eq_cons hds

/-! ### Words -/

variable {word rest : List Char} {c : Char}

theorem cutWord_append (hword : ∀ c ∈ word, isBlank c = false) (hc : isBlank c = true) :
    cutWord (word ++ c :: rest) = (word, rest) := by
  have hkeep : ∀ d ∈ word, (! isBlank d) = true := fun d hd => by rw [hword d hd]; rfl
  rw [cutWord, List.takeWhile_append_of_pos hkeep, List.dropWhile_append_of_pos hkeep]
  simp [hc]

theorem cutWord_of_forall (hword : ∀ c ∈ word, isBlank c = false) : cutWord word = (word, []) := by
  have hkeep : ∀ d ∈ word, (! isBlank d) = true := fun d hd => by rw [hword d hd]; rfl
  rw [cutWord, List.takeWhile_eq_self_iff.mpr hkeep, List.dropWhile_eq_nil_iff.mpr hkeep]
  rfl

/-- **The first of the words** is one that stands in front of a blank. -/
theorem words_append (hne : word ≠ []) (hword : ∀ c ∈ word, isBlank c = false)
    (hc : isBlank c = true) (rest : List Char) :
    words (word ++ c :: rest) = word :: words rest := by
  induction word with
  | nil => exact absurd rfl hne
  | cons d word ih =>
    obtain ⟨hd, hword⟩ := List.forall_mem_cons.mp hword
    cases word with
    | nil => cases hrest : words rest <;> simp [words, hd, hc, hrest]
    | cons e word =>
      have he : isBlank e = false := hword e List.mem_cons_self
      rw [List.cons_append, words, ih (List.cons_ne_nil e word) hword]
      simp [hd, he]

theorem words_of_forall (hne : word ≠ []) (hword : ∀ c ∈ word, isBlank c = false) :
    words word = [word] := by
  induction word with
  | nil => exact absurd rfl hne
  | cons d word ih =>
    obtain ⟨hd, hword⟩ := List.forall_mem_cons.mp hword
    cases word with
    | nil => simp [words, hd]
    | cons e word =>
      have he : isBlank e = false := hword e List.mem_cons_self
      rw [words, ih (List.cons_ne_nil e word) hword]
      simp [hd, he]

/-- Blanks in front of a text are no words. -/
theorem words_append_of_blank {gap : List Char} (h : ∀ c ∈ gap, isBlank c = true) :
    words (gap ++ rest) = words rest := by
  induction gap with
  | nil => rfl
  | cons c gap ih =>
    obtain ⟨hc, hgap⟩ := List.forall_mem_cons.mp h
    rw [List.cons_append, words, if_pos hc, ih hgap]

theorem takeWhile_ne_nil {p : Char → Bool} (h : cs.head? = some c) (hc : p c = true) :
    cs.takeWhile p ≠ [] := by
  obtain ⟨more, rfl⟩ := List.head?_eq_some_iff.mp h
  rw [List.takeWhile_cons_of_pos hc]
  exact List.cons_ne_nil c _

/-- A text that ends in no blank is framed without the blanks in front. -/
theorem framed_dropBlanks (hne : cs ≠ []) (hlast : ∀ c ∈ cs.getLast?, isBlank c = false) :
    Framed (dropBlanks cs) := by
  have hrest : dropBlanks cs ≠ [] := fun hnil => by
    have hblank := dropBlanks_eq_nil_iff.mp hnil _ (List.getLast_mem hne)
    rw [hlast _ (List.getLast?_eq_some_getLast hne)] at hblank
    exact Bool.false_ne_true hblank
  refine ⟨hrest, trimmed_eq_self_iff.mpr ⟨fun c hc => ?_, ?_⟩⟩
  · have hhead := List.head?_dropWhile_not isBlank cs
    rw [← dropBlanks, Option.mem_def.mp hc] at hhead
    exact hhead
  · rw [← List.takeWhile_append_dropWhile (p := isBlank) (l := cs), ← dropBlanks,
      List.getLast?_append, List.getLast?_eq_some_getLast hrest] at hlast
    rwa [List.getLast?_eq_some_getLast hrest]

/-- **A framed text is a single word, or begins with one**, and then blanks stand between the word
and a framed text. -/
theorem Framed.cut (h : Framed cs) :
    (∀ c ∈ cs, isBlank c = false) ∨ ∃ word gap rest, word ≠ [] ∧ (∀ c ∈ word, isBlank c = false) ∧
      gap ≠ [] ∧ (∀ c ∈ gap, isBlank c = true) ∧ Framed rest ∧ cs = word ++ (gap ++ rest) := by
  obtain ⟨hhead, hlast⟩ := trimmed_eq_self_iff.mp h.trimmed
  let word := cs.takeWhile (! isBlank ·)
  let tail := cs.dropWhile (! isBlank ·)
  have hcs : cs = word ++ tail := List.takeWhile_append_dropWhile.symm
  have hword : ∀ c ∈ word, isBlank c = false := fun c hc => by
    simpa using List.mem_takeWhile_imp hc
  by_cases htail : tail = []
  · rw [htail, List.append_nil] at hcs
    rw [hcs]
    exact Or.inl hword
  have htailLast : ∀ c ∈ tail.getLast?, isBlank c = false := by
    rw [hcs, List.getLast?_append, List.getLast?_eq_some_getLast htail] at hlast
    rwa [List.getLast?_eq_some_getLast htail]
  refine Or.inr ⟨word, tail.takeWhile isBlank, dropBlanks tail, ?_, hword, ?_,
    fun c hc => List.mem_takeWhile_imp hc, framed_dropBlanks htail htailLast, ?_⟩
  · -- the first character belongs to the word
    have hmem := List.head?_eq_some_head h.ne_nil
    exact takeWhile_ne_nil hmem (by rw [hhead _ hmem]; rfl)
  · -- the character behind the word is a blank
    have hmem := List.head?_eq_some_head htail
    have hstop := List.head?_dropWhile_not (! isBlank ·) cs
    rw [show (cs.dropWhile (! isBlank ·)).head? = _ from hmem] at hstop
    exact takeWhile_ne_nil hmem (by simpa using hstop)
  · rw [dropBlanks, List.takeWhile_append_dropWhile, ← hcs]

/-- **Words that are joined by blanks are listed again.** -/
theorem words_intercalate {ws : List (List Char)} (hne : ws ≠ []) (hc : isBlank c = true)
    (h : ∀ w ∈ ws, w ≠ [] ∧ ∀ c ∈ w, isBlank c = false) :
    words ([c].intercalate ws) = ws := by
  induction ws with
  | nil => exact absurd rfl hne
  | cons w ws ih =>
    obtain ⟨⟨hw, hword⟩, hws⟩ := List.forall_mem_cons.mp h
    cases ws with
    | nil => rw [List.intercalate_singleton, words_of_forall hw hword]
    | cons v ws =>
      rw [List.intercalate_cons_cons, List.append_assoc, List.singleton_append,
        words_append hw hword hc, ih (List.cons_ne_nil v ws) hws]

end Rulebook.Text
