import Rulebook.Console.Command
import Rulebook.Proofs.Text.Blank
import Rulebook.Proofs.Text.Lines

/-!
# Lines that say a command

A command word, blanks and an argument make a line from which the word and the argument are
read again, if neither can be mistaken for something else: the word has no blank in it, and the
argument none at its ends (`Rulebook.Console.parse_append`). Blanks within the argument stay as
they are. Where the argument is a list of identifiers, these must be single words, too
(`Rulebook.Console.parse_combine`).
-/

namespace Rulebook.Console

open Text

variable {word gap arg : String}

/-! ### Words and arguments -/

/-- **A single word**: there is something in it, and no blank. -/
def Word (s : String) : Prop := s ≠ "" ∧ ∀ c ∈ s.toList, isBlank c = false

instance (s : String) : Decidable (Word s) := @instDecidableAnd _ _ _ (List.decidableBAll _ _)

/-- **An argument that is taken as it is**: there is something in it, and no blank at its
ends. -/
def Argument (s : String) : Prop := s ≠ "" ∧ trim s = s

instance (s : String) : Decidable (Argument s) := inferInstanceAs (Decidable (_ ∧ _))

theorem argument_iff : Argument arg ↔ Framed arg.toList := by
  have hne : arg ≠ "" ↔ arg.toList ≠ [] := not_congr String.toList_eq_nil_iff.symm
  have htrim : trim arg = arg ↔ trimmed arg.toList = arg.toList := by
    rw [trim, ← String.toList_inj, String.toList_ofList]
  rw [Argument, hne, htrim]
  exact ⟨fun h => ⟨h.1, h.2⟩, fun h => ⟨h.ne_nil, h.trimmed⟩⟩

theorem Word.framed (h : Word word) : Framed word.toList :=
  framed_of_forall (fun hnil => h.1 (String.toList_eq_nil_iff.mp hnil)) h.2

/-- An argument is not blank, although it may hold blanks. -/
theorem Argument.blank_eq_false (h : Argument arg) : blank arg = false := by
  rw [Bool.eq_false_iff, Ne, blank_iff, h.2]
  exact h.1

theorem Word.feed (h : Word word) : '\n' ∉ word.toList :=
  fun hmem => Bool.false_ne_true ((h.2 _ hmem).symm.trans rfl)

/-! ### Reading a line -/

/-- A word alone has no argument. -/
theorem parse_word (hword : Word word) : Command.parse word = Command.ofWord word [] := by
  rw [Command.parse, hword.framed.trimmed, cutWord_of_forall hword.2]
  dsimp only
  rw [String.ofList_toList]
  rfl

/-- **A word, blanks and an argument** are read as the word and the argument. -/
theorem parse_append (hword : Word word) (hgap : gap ≠ "")
    (hblank : ∀ c ∈ gap.toList, isBlank c = true) (harg : Argument arg) :
    Command.parse (word ++ gap ++ arg) = Command.ofWord word arg.toList := by
  have harg := argument_iff.mp harg
  obtain ⟨c, more, hcons⟩ := List.exists_cons_of_ne_nil
    (fun hnil => hgap (String.toList_eq_nil_iff.mp hnil) : gap.toList ≠ [])
  have hline : (word ++ gap ++ arg).toList = word.toList ++ (gap.toList ++ arg.toList) := by
    rw [String.toList_append, String.toList_append, List.append_assoc]
  rw [hcons, List.forall_mem_cons] at hblank
  rw [Command.parse, hline, (hword.framed.append harg _).trimmed, hcons, List.cons_append,
    cutWord_append hword.2 hblank.1]
  dsimp only
  rw [String.ofList_toList, trimmed_append_of_blank hblank.2, harg.trimmed]

/-- A line with a command word and an argument, in the usual way. -/
def said (word arg : String) : String := word ++ " " ++ arg

theorem parse_said (hword : Word word) (harg : Argument arg) :
    Command.parse (said word arg) = Command.ofWord word arg.toList :=
  parse_append hword (by decide) (List.forall_mem_singleton.mpr rfl) harg

/-! ### Arguments of commands -/

theorem needed_of_argument (h : Argument arg) (what : String) :
    needed word what arg.toList = .ok arg := by
  rw [needed, List.isEmpty_eq_false_iff.mpr (argument_iff.mp h).ne_nil, String.ofList_toList]
  rfl

theorem neededId_of_argument {x : RuleId} (h : Argument x.text) :
    neededId word x.text.toList = .ok x := by
  rw [neededId, needed_of_argument h]
  rfl

/-- Identifiers with spaces between them. -/
def spaced (xs : List RuleId) : String := " ".intercalate (xs.map (·.text))

theorem toList_spaced (xs : List RuleId) :
    (spaced xs).toList = [' '].intercalate (xs.map (·.text.toList)) := by
  rw [spaced, String.toList_intercalate, List.map_map]
  rfl

theorem argument_spaced {xs : List RuleId} (hne : xs ≠ []) (h : ∀ x ∈ xs, Word x.text) :
    Argument (spaced xs) := by
  rw [argument_iff, toList_spaced]
  refine framed_intercalate (by simpa using hne) ?_ _
  rw [List.forall_mem_map]
  exact fun x hx => (h x hx).framed

/-- **Identifiers that are words** are read one by one. -/
theorem parse_combine {xs : List RuleId} (hne : xs ≠ []) (h : ∀ x ∈ xs, Word x.text) :
    Command.parse (said "combine" (spaced xs)) = .ok (.combine xs) := by
  have hwords : words (spaced xs).toList = xs.map (·.text.toList) := by
    rw [toList_spaced]
    refine words_intercalate (by simpa using hne) rfl ?_
    rw [List.forall_mem_map]
    exact fun x hx => ⟨(h x hx).framed.ne_nil, (h x hx).2⟩
  have hids : (words (spaced xs).toList).map (fun w => (⟨String.ofList w⟩ : RuleId)) = xs := by
    rw [hwords, List.map_map]
    exact List.map_id'' (fun x => by rw [Function.comp_apply, String.ofList_toList]) xs
  have harg := argument_spaced hne h
  rw [parse_said (by decide) harg, Command.ofWord, needed_of_argument harg]
  exact congrArg (Except.ok ∘ Command.combine) hids

/-! ### Typing a line -/

/-- **A text that can be typed** as the argument of a command, and is taken as it is. -/
structure Typeable (s : String) : Prop where
  argument : Argument s
  feed : '\n' ∉ s.toList

/-- A carriage return is blank, so a framed text does not end in one. -/
theorem oneLine_of_framed {line : String} (h : Framed line.toList) (hfeed : '\n' ∉ line.toList) :
    OneLine line := by
  refine ⟨hfeed, fun hret => ?_⟩
  have hblank := (trimmed_eq_self_iff.mp h.trimmed).2 _ hret
  exact Bool.false_ne_true (hblank.symm.trans rfl)

theorem Word.oneLine (h : Word word) : OneLine word := oneLine_of_framed h.framed h.feed

theorem Typeable.oneLine_said (h : Typeable arg) (hword : Word word) : OneLine (said word arg) := by
  have hline : (said word arg).toList = word.toList ++ ([' '] ++ arg.toList) := by
    rw [said, String.toList_append, String.toList_append, List.append_assoc]
    rfl
  apply oneLine_of_framed
  · rw [hline]
    exact hword.framed.append (argument_iff.mp h.argument) _
  · rw [hline, List.mem_append, List.mem_append, not_or, not_or]
    exact ⟨hword.feed, by decide, h.feed⟩

theorem typeable_spaced {xs : List RuleId} (hne : xs ≠ []) (h : ∀ x ∈ xs, Word x.text) :
    Typeable (spaced xs) := by
  refine ⟨argument_spaced hne h, ?_⟩
  rw [toList_spaced]
  clear hne
  induction xs with
  | nil => exact List.not_mem_nil
  | cons x xs ih =>
    obtain ⟨hx, hxs⟩ := List.forall_mem_cons.mp h
    rcases xs with _ | ⟨y, xs⟩
    · rw [List.map_singleton, List.intercalate_singleton]
      exact hx.feed
    · rw [List.map_cons, List.map_cons, List.intercalate_cons_cons, List.mem_append,
        List.mem_append, not_or, not_or]
      exact ⟨⟨hx.feed, by decide⟩, ih hxs⟩

end Rulebook.Console
