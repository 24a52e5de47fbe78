import Rulebook.Proofs.Console.Parsing

/-!
# The grammar of command lines

Which lines are commands is said by a reader, which trims a line, cuts it at the first blank and
trims the rest, and for one command cuts the rest again at every blank. Here it is said by a
grammar. A line that is not blank consists of a word and an argument
(`Rulebook.Console.Reads`). Each kind of command has a word, and some have another one
(`Rulebook.Console.Verb.words`), and it wants its argument in one of four forms
(`Rulebook.Console.Form`): it is ignored, it may be empty, it must not be empty, or it is a list of
words.

The reader accepts what the grammar derives and nothing else
(`Rulebook.Console.parse_eq_ok_iff`), and it refuses a line for one of two reasons
(`Rulebook.Console.parse_eq_error_iff`). Both are shown for a line that is taken apart, and every
line can be taken apart (`Rulebook.Console.blank_or_reads`); that this is possible in one way only
is not needed.

## Main result

* `Rulebook.Console.grammar_exact`: which lines are commands, what is in these, and why the other
  lines are none.
-/

namespace Rulebook.Console

open Text

variable {line word arg front gap back : String} {c : Command} {e : CommandError}

/-! ### A word and an argument -/

/-- **What a line consists of**: a word and an argument, which may be empty, with blanks around
them and between them. -/
structure Reads (line word arg : String) : Prop where
  single : Word word
  trimmed : trim arg = arg
  parts : ∃ front gap back, blank front = true ∧ blank gap = true ∧ blank back = true ∧
    (arg ≠ "" → gap ≠ "") ∧ line = front ++ (word ++ gap ++ arg) ++ back

theorem blank_iff_forall {s : String} : blank s = true ↔ ∀ c ∈ s.toList, isBlank c = true :=
  List.all_eq_true

theorem blank_ofList {cs : List Char} (h : ∀ c ∈ cs, isBlank c = true) :
    blank (String.ofList cs) = true := by
  rwa [blank_iff_forall, String.toList_ofList]

theorem ofList_ne_empty {cs : List Char} (h : cs ≠ []) : String.ofList cs ≠ "" :=
  fun hnil => h (String.ofList_eq_empty_iff.mp hnil)

theorem word_ofList {cs : List Char} (hne : cs ≠ []) (h : ∀ c ∈ cs, isBlank c = false) :
    Word (String.ofList cs) := by
  refine ⟨ofList_ne_empty hne, ?_⟩
  rwa [String.toList_ofList]

/-- **Blanks around a line** make no difference. -/
theorem parse_padded (hfront : blank front = true) (hback : blank back = true) :
    Command.parse (front ++ line ++ back) = Command.parse line := by
  rw [Command.parse, Command.parse, String.toList_append, String.toList_append,
    trimmed_append_blank (blank_iff_forall.mp hback),
    trimmed_append_of_blank (blank_iff_forall.mp hfront)]

theorem parse_blank (h : blank line = true) : Command.parse line = .ok .empty := by
  have hpadded : Command.parse (line ++ "" ++ "") = .ok .empty := parse_padded h rfl
  rwa [String.append_empty, String.append_empty] at hpadded

/-- **A line is read as its word and its argument.** -/
theorem Reads.parse_eq (h : Reads line word arg) :
    Command.parse line = Command.ofWord word arg.toList := by
  obtain ⟨front, gap, back, hfront, hgap, hback, hsep, rfl⟩ := h.parts
  rw [parse_padded hfront hback]
  by_cases harg : arg = ""
  · have hword : Command.parse ("" ++ word ++ gap) = Command.parse word := parse_padded rfl hgap
    rw [String.empty_append] at hword
    rw [harg, String.append_empty, hword, parse_word h.single]
    rfl
  · exact parse_append h.single (hsep harg) (blank_iff_forall.mp hgap) ⟨harg, h.trimmed⟩

theorem reads_append (hword : Word word) (harg : trim arg = arg) (hgap : gap ≠ "")
    (hblank : blank gap = true) : Reads (word ++ gap ++ arg) word arg :=
  ⟨hword, harg, "", gap, "", rfl, hblank, rfl, fun _ => hgap, by
    rw [String.empty_append, String.append_empty]⟩

theorem reads_said (hword : Word word) (harg : trim arg = arg) : Reads (said word arg) word arg :=
  reads_append hword harg (by decide) rfl

theorem reads_word (hword : Word word) : Reads word word "" :=
  ⟨hword, rfl, "", "", "", rfl, rfl, rfl, fun h => absurd rfl h, by
    rw [String.empty_append, String.append_empty, String.append_empty, String.append_empty]⟩

/-- **Every line is blank, or consists of a word and an argument.** -/
theorem blank_or_reads (line : String) : blank line = true ∨ ∃ word arg, Reads line word arg := by
  by_cases hline : trimmed line.toList = []
  · exact Or.inl (blank_iff_forall.mpr (trimmed_eq_nil_iff.mp hline))
  obtain ⟨front, back, hfront, hback, hparts⟩ := exists_eq_trimmed line.toList
  have hframed := framed_trimmed hline
  refine Or.inr ?_
  rcases hframed.cut with hall | ⟨word, gap, rest, hne, hchars, hgap, hblank, hrest, hcut⟩
  · refine ⟨_, "", word_ofList hframed.ne_nil hall, rfl, _, "", _, blank_ofList hfront, rfl,
      blank_ofList hback, fun h => absurd rfl h, ?_⟩
    rw [← String.toList_inj]
    simpa using hparts
  · have htrim : trim (String.ofList rest) = String.ofList rest := by
      rw [trim, String.toList_ofList, hrest.trimmed]
    refine ⟨_, String.ofList rest, word_ofList hne hchars, htrim, _, _, _, blank_ofList hfront,
      blank_ofList hblank, blank_ofList hback, fun _ => ofList_ne_empty hgap, ?_⟩
    rw [hcut] at hparts
    rw [← String.toList_inj]
    simpa using hparts

/-! ### Lists of words -/

/-- **Words with blanks between them**, one word at least. -/
inductive Joined : List String → String → Prop
  | one {word : String} (h : Word word) : Joined [word] word
  | cons {word gap rest : String} {ws : List String} (hword : Word word) (hgap : gap ≠ "")
      (hblank : blank gap = true) (h : Joined ws rest) : Joined (word :: ws) (word ++ gap ++ rest)

variable {ws : List String}

theorem Joined.argument (h : Joined ws arg) : Argument arg := by
  rw [argument_iff]
  induction h with
  | one h => exact h.framed
  | cons hword hgap hblank h ih =>
    rw [String.toList_append, String.toList_append, List.append_assoc]
    exact hword.framed.append ih _

theorem Joined.ne_nil (h : Joined ws arg) : ws ≠ [] := by
  cases h <;> exact List.cons_ne_nil _ _

theorem Joined.word_of_mem (h : Joined ws arg) : ∀ w ∈ ws, Word w := by
  induction h with
  | one h => exact List.forall_mem_singleton.mpr h
  | cons hword hgap hblank h ih => exact List.forall_mem_cons.mpr ⟨hword, ih⟩

/-- **The words of a list** are found again. -/
theorem Joined.words_eq (h : Joined ws arg) : (words arg.toList).map String.ofList = ws := by
  induction h with
  | one h => rw [words_of_forall h.framed.ne_nil h.2, List.map_singleton, String.ofList_toList]
  | @cons word gap rest ws hword hgap hblank h ih =>
    obtain ⟨c, more, hcons⟩ := List.exists_cons_of_ne_nil
      (fun hnil => hgap (String.toList_eq_nil_iff.mp hnil) : gap.toList ≠ [])
    have hblank := blank_iff_forall.mp hblank
    rw [hcons, List.forall_mem_cons] at hblank
    rw [String.toList_append, String.toList_append, List.append_assoc, hcons, List.cons_append,
      words_append hword.framed.ne_nil hword.2 hblank.1, words_append_of_blank hblank.2,
      List.map_cons, ih, String.ofList_toList]

/-- **Every text with no blank at its ends is a list of words.** The induction is on its
length, for a word and the blanks behind it are taken off in each step. -/
theorem exists_joined {cs : List Char} (h : Framed cs) : ∃ ws, Joined ws (String.ofList cs) := by
  induction hlength : cs.length using Nat.strongRecOn generalizing cs with
  | ind n ih =>
    rcases h.cut with hall | ⟨word, gap, rest, hne, hchars, hgap, hblank, hrest, rfl⟩
    · exact ⟨_, .one (word_ofList h.ne_nil hall)⟩
    · have hshorter : rest.length < n := by
        have hpos := List.length_pos_iff.mpr hne
        rw [← hlength, List.length_append, List.length_append]
        omega
      obtain ⟨ws, hws⟩ := ih _ hshorter hrest rfl
      refine ⟨String.ofList word :: ws, ?_⟩
      rw [← List.append_assoc, String.ofList_append, String.ofList_append]
      exact .cons (word_ofList hne hchars) (ofList_ne_empty hgap) (blank_ofList hblank) hws

/-! ### Verbs -/

/-- **What a command wants its argument to be**, and the command that it makes of it. -/
inductive Form where
  | alone (c : Command)
  | optional (make : String → Command)
  | required (what : String) (make : String → Command)
  | several (what : String) (make : List String → Command)

namespace Form

/-- **What an argument makes a command**, according to the form. -/
def Says (arg : String) (c : Command) : Form → Prop
  | alone c' => c = c'
  | optional make => c = make arg
  | required _ make => arg ≠ "" ∧ c = make arg
  | several _ make => ∃ ws, Joined ws arg ∧ c = make ws

/-- What is missing where there is no argument, if something is. -/
def missing? : Form → Option String
  | alone _ | optional _ => none
  | required what _ | several what _ => some what

/-- A command, read in a form. -/
def read (word : String) (cs : List Char) : Form → Except CommandError Command
  | alone c => .ok c
  | optional make => .ok (make (String.ofList cs))
  | required what make => (needed word what cs).map make
  | several what make => (needed word what cs).map fun _ => make ((words cs).map String.ofList)

variable {f : Form} {what : String}

theorem says_of_read (harg : trim arg = arg) (h : f.read word arg.toList = .ok c) :
    f.Says arg c := by
  by_cases hempty : arg = ""
  · subst hempty
    cases f with
    | alone c' => exact (Except.ok.inj h).symm
    | optional make => exact (Except.ok.inj h).symm
    | required what make => cases h
    | several what make => cases h
  · have hneeded {what : String} : needed word what arg.toList = .ok arg :=
      needed_of_argument ⟨hempty, harg⟩ what
    cases f with
    | alone c' => exact (Except.ok.inj h).symm
    | optional make =>
      rw [read, String.ofList_toList] at h
      exact (Except.ok.inj h).symm
    | required what make =>
      rw [read, hneeded] at h
      exact ⟨hempty, (Except.ok.inj h).symm⟩
    | several what make =>
      obtain ⟨ws, hws⟩ := exists_joined (argument_iff.mp ⟨hempty, harg⟩)
      rw [String.ofList_toList] at hws
      rw [read, hneeded, hws.words_eq] at h
      exact ⟨ws, hws, (Except.ok.inj h).symm⟩

theorem Says.read_eq (harg : trim arg = arg) (h : f.Says arg c) :
    f.read word arg.toList = .ok c := by
  cases f with
  | alone c' => rw [read, show c = c' from h]
  | optional make => rw [read, String.ofList_toList, show c = make arg from h]
  | required what make =>
    rw [read, needed_of_argument ⟨h.1, harg⟩, h.2]
    rfl
  | several what make =>
    obtain ⟨ws, hws, rfl⟩ := h
    rw [read, needed_of_argument hws.argument, hws.words_eq]
    rfl

/-- **A command is refused in one case**: an argument is needed, and there is none. -/
theorem read_eq_error_iff :
    f.read word arg.toList = .error e ↔
      arg = "" ∧ ∃ what, f.missing? = some what ∧ e = .missingArgument word what := by
  by_cases hempty : arg = ""
  · subst hempty
    cases f with
    | alone c' => simp [read, missing?]
    | optional make => simp [read, missing?]
    | required what make => simp [read, missing?, needed, Except.map, eq_comm]
    | several what make => simp [read, missing?, needed, Except.map, eq_comm]
  · have hne : arg.toList ≠ [] := fun hnil => hempty (String.toList_eq_nil_iff.mp hnil)
    have hneeded {what : String} : needed word what arg.toList = .ok arg := by
      rw [needed, List.isEmpty_eq_false_iff.mpr hne, String.ofList_toList]
      rfl
    refine iff_of_false (fun h => ?_) fun h => hempty h.1
    cases f with
    | alone c' => cases h
    | optional make => cases h
    | required what make =>
      rw [read, hneeded] at h
      cases h
    | several what make =>
      rw [read, hneeded] at h
      cases h

end Form

/-- The kinds of commands that are asked for by a word. -/
inductive Verb where
  | list | add | edit | draft | save | cancel | toggle | delete | select | data | eval | combine
  | reload | help | quit

namespace Verb

/-- The word for a command. -/
def name : Verb → String
  | list => "list"
  | add => "add"
  | edit => "edit"
  | draft => "draft"
  | save => "save"
  | cancel => "cancel"
  | toggle => "toggle"
  | delete => "delete"
  | select => "select"
  | data => "data"
  | eval => "eval"
  | combine => "combine"
  | reload => "reload"
  | help => "help"
  | quit => "quit"

/-- Another word for it, if there is one. -/
def alias? : Verb → Option String
  | list => some "ls"
  | delete => some "rm"
  | help => some "?"
  | quit => some "exit"
  | _ => none

/-- The words for a command. -/
def words (v : Verb) : List String := v.name :: v.alias?.toList

/-- **What becomes of the argument** of each command. -/
def form : Verb → Form
  | list => .alone .list
  | add => .required "规则内容" .add
  | edit => .required "规则 ID" fun x => .edit ⟨x⟩
  | draft => .optional .draft
  | save => .alone .save
  | cancel => .alone .cancel
  | toggle => .required "规则 ID" fun x => .toggle ⟨x⟩
  | delete => .required "规则 ID" fun x => .delete ⟨x⟩
  | select => .required "规则 ID" fun x => .select ⟨x⟩
  | data => .optional .data
  | eval => .alone .eval
  | combine => .several "规则 ID 列表" fun xs => .combine (xs.map RuleId.mk)
  | reload => .alone .reload
  | help => .alone .help
  | quit => .alone .quit

variable {v : Verb}

theorem name_mem_words (v : Verb) : v.name ∈ v.words := List.mem_cons_self

theorem word_of_mem (h : word ∈ v.words) : Console.Word word := by
  have hall : ∀ w ∈ v.words, Console.Word w := by cases v <;> decide
  exact hall word h

/-- **Both words of a command are read as one.** -/
theorem ofWord_of_mem (cs : List Char) (h : word ∈ v.words) :
    Command.ofWord word cs = v.form.read v.name cs := by
  have hid (make : RuleId → Command) :
      (neededId v.name cs).map make = (needed v.name "规则 ID" cs).map fun x => make ⟨x⟩ := by
    cases cs <;> rfl
  rcases List.mem_cons.mp h with rfl | halias
  · cases v with
    | edit | toggle | delete | select => exact hid _
    | combine => cases cs <;> simp [name, form, Form.read, Command.ofWord, List.map_map] <;> rfl
    | _ => rfl
  · cases v with
    | list | help | quit =>
      obtain rfl := List.mem_singleton.mp halias
      rfl
    | delete =>
      obtain rfl := List.mem_singleton.mp halias
      exact hid .delete
    | _ => cases halias

end Verb

/-- **A word of no command** is not known. -/
theorem ofWord_of_unknown (cs : List Char) (hne : word ≠ "") (h : ∀ v : Verb, word ∉ v.words) :
    Command.ofWord word cs = .error (.unknownCommand word) := by
  rw [Command.ofWord.eq_def]
  split
  · exact absurd rfl hne
  · exact absurd (by decide) (h .list)
  · exact absurd (by decide) (h .list)
  · exact absurd (by decide) (h .add)
  · exact absurd (by decide) (h .edit)
  · exact absurd (by decide) (h .draft)
  · exact absurd (by decide) (h .save)
  · exact absurd (by decide) (h .cancel)
  · exact absurd (by decide) (h .toggle)
  · exact absurd (by decide) (h .delete)
  · exact absurd (by decide) (h .delete)
  · exact absurd (by decide) (h .select)
  · exact absurd (by decide) (h .data)
  · exact absurd (by decide) (h .eval)
  · exact absurd (by decide) (h .combine)
  · exact absurd (by decide) (h .reload)
  · exact absurd (by decide) (h .help)
  · exact absurd (by decide) (h .help)
  · exact absurd (by decide) (h .quit)
  · exact absurd (by decide) (h .quit)
  · rfl

/-! ### Commands and refusals -/

variable {v : Verb}

theorem Reads.parse_eq_read (h : Reads line word arg) (hv : word ∈ v.words) :
    Command.parse line = v.form.read v.name arg.toList :=
  h.parse_eq.trans (Verb.ofWord_of_mem _ hv)

theorem Reads.parse_eq_unknown (h : Reads line word arg) (hv : ∀ v : Verb, word ∉ v.words) :
    Command.parse line = .error (.unknownCommand word) :=
  h.parse_eq.trans (ofWord_of_unknown _ h.single.1 hv)

theorem Reads.parse_eq_ok (h : Reads line word arg) (hv : word ∈ v.words)
    (hc : v.form.Says arg c) : Command.parse line = .ok c :=
  (h.parse_eq_read hv).trans (hc.read_eq h.trimmed)

/-- **The lines that are commands.** -/
theorem parse_eq_ok_iff :
    Command.parse line = .ok c ↔
      (blank line = true ∧ c = .empty) ∨
        ∃ (v : Verb) (word arg : String),
          word ∈ v.words ∧ Reads line word arg ∧ v.form.Says arg c := by
  constructor
  · intro h
    rcases blank_or_reads line with hblank | ⟨word, arg, hreads⟩
    · rw [parse_blank hblank] at h
      exact Or.inl ⟨hblank, (Except.ok.inj h).symm⟩
    · by_cases hv : ∃ v : Verb, word ∈ v.words
      · obtain ⟨v, hv⟩ := hv
        rw [hreads.parse_eq_read hv] at h
        exact Or.inr ⟨v, word, arg, hv, hreads, Form.says_of_read hreads.trimmed h⟩
      · rw [hreads.parse_eq_unknown (not_exists.mp hv)] at h
        cases h
  · rintro (⟨hblank, rfl⟩ | ⟨v, word, arg, hv, hreads, hc⟩)
    · exact parse_blank hblank
    · exact hreads.parse_eq_ok hv hc

/-- **The lines that are no commands**, and what is said about them. -/
theorem parse_eq_error_iff :
    Command.parse line = .error e ↔
      (∃ (v : Verb) (word what : String), word ∈ v.words ∧ v.form.missing? = some what ∧
          Reads line word "" ∧ e = .missingArgument v.name what) ∨
        ∃ word arg, (∀ v : Verb, word ∉ v.words) ∧ Reads line word arg ∧
          e = .unknownCommand word := by
  constructor
  · intro h
    rcases blank_or_reads line with hblank | ⟨word, arg, hreads⟩
    · rw [parse_blank hblank] at h
      cases h
    · by_cases hv : ∃ v : Verb, word ∈ v.words
      · obtain ⟨v, hv⟩ := hv
        rw [hreads.parse_eq_read hv, Form.read_eq_error_iff] at h
        obtain ⟨rfl, what, hwhat, he⟩ := h
        exact Or.inl ⟨v, word, what, hv, hwhat, hreads, he⟩
      · rw [hreads.parse_eq_unknown (not_exists.mp hv)] at h
        exact Or.inr ⟨word, arg, not_exists.mp hv, hreads, (Except.error.inj h).symm⟩
  · rintro (⟨v, word, what, hv, hwhat, hreads, he⟩ | ⟨word, arg, hv, hreads, rfl⟩)
    · rw [hreads.parse_eq_read hv, Form.read_eq_error_iff]
      exact ⟨rfl, what, hwhat, he⟩
    · exact hreads.parse_eq_unknown hv

/-! ### Commands that are written down -/

/-- **A command as a line**, in the way in which it is usually written. -/
def Command.written : Command → String
  | empty => ""
  | list => "list"
  | add text => said "add" text
  | edit x => said "edit" x.text
  | draft text => said "draft" text
  | save => "save"
  | cancel => "cancel"
  | toggle x => said "toggle" x.text
  | delete x => said "delete" x.text
  | select x => said "select" x.text
  | data text => said "data" text
  | eval => "eval"
  | combine xs => said "combine" (spaced xs)
  | reload => "reload"
  | help => "help"
  | quit => "quit"

/-- **A command that the grammar derives** is read again when it is written down. -/
theorem parse_written (harg : trim arg = arg) (h : v.form.Says arg c) :
    Command.parse c.written = .ok c := by
  have hword := Verb.word_of_mem v.name_mem_words
  have hsaid := (reads_said hword harg).parse_eq_ok v.name_mem_words h
  have halone := (reads_word hword).parse_eq_read v.name_mem_words
  cases v with
  | list | save | cancel | eval | reload | help | quit =>
    cases h
    exact halone
  | draft | data =>
    cases h
    exact hsaid
  | add | edit | toggle | delete | select =>
    cases h.2
    exact hsaid
  | combine =>
    obtain ⟨ws, hws, rfl⟩ := h
    refine parse_combine ?_ ?_
    · rw [Ne, List.map_eq_nil_iff]
      exact hws.ne_nil
    · rw [List.forall_mem_map]
      exact hws.word_of_mem

/-- What a command holds is trimmed, and empty in two cases at most. -/
theorem argument_of_says (harg : trim arg = arg) (h : v.form.Says arg c) {text : String}
    (htext : text ∈ c.arguments) :
    trim text = text ∧ (text = "" → c = .draft text ∨ c = .data text) := by
  cases v with
  | list | save | cancel | eval | reload | help | quit =>
    cases h
    cases htext
  | draft =>
    cases h
    obtain rfl := List.mem_singleton.mp htext
    exact ⟨harg, fun _ => Or.inl rfl⟩
  | data =>
    cases h
    obtain rfl := List.mem_singleton.mp htext
    exact ⟨harg, fun _ => Or.inr rfl⟩
  | add | edit | toggle | delete | select =>
    cases h.2
    obtain rfl := List.mem_singleton.mp htext
    exact ⟨harg, fun hempty => absurd hempty h.1⟩
  | combine =>
    obtain ⟨ws, hws, rfl⟩ := h
    have hmem : text ∈ ws := by simpa [Command.arguments] using htext
    have hword := argument_iff.mpr (hws.word_of_mem text hmem).framed
    exact ⟨hword.2, fun hempty => absurd hempty hword.1⟩

/-- **The grammar of command lines.** Blanks around a line do not matter. The word of a command,
blanks and an argument say the command with exactly this argument, which for one command is a list
of identifiers with any blanks between them. Nothing but blank lines and lines with a word and an
argument say a command. A command that was read holds trimmed texts, empty ones only as a draft or
as data, and is read again when it is written down. All other lines are refused: where a word wants
an argument and has none, it is missing, and otherwise the word is not known. -/
theorem grammar_exact :
    (∀ front line back : String, blank front = true → blank back = true →
      Command.parse (front ++ line ++ back) = Command.parse line) ∧
    (∀ (v : Verb) (gap arg : String) (c : Command), gap ≠ "" → blank gap = true →
      trim arg = arg → v.form.Says arg c → Command.parse (v.name ++ gap ++ arg) = .ok c) ∧
    (∀ (gap arg : String) (ids : List String), gap ≠ "" → blank gap = true → Joined ids arg →
      Command.parse ("combine" ++ gap ++ arg) = .ok (.combine (ids.map RuleId.mk))) ∧
    (∀ (line : String) (c : Command), Command.parse line = .ok c ↔
      (blank line = true ∧ c = .empty) ∨
        ∃ (v : Verb) (word arg : String),
          word ∈ v.words ∧ Reads line word arg ∧ v.form.Says arg c) ∧
    (∀ (line : String) (c : Command), Command.parse line = .ok c →
      Command.parse c.written = .ok c ∧
        ∀ text ∈ c.arguments,
          trim text = text ∧ (text = "" → c = .draft text ∨ c = .data text)) ∧
    ∀ (line : String) (e : CommandError), Command.parse line = .error e ↔
      (∃ (v : Verb) (word what : String), word ∈ v.words ∧ v.form.missing? = some what ∧
          Reads line word "" ∧ e = .missingArgument v.name what) ∨
        ∃ word arg, (∀ v : Verb, word ∉ v.words) ∧ Reads line word arg ∧
          e = .unknownCommand word := by
  have hread (v : Verb) (gap arg : String) (c : Command) (hgap : gap ≠ "")
      (hblank : blank gap = true) (harg : trim arg = arg) (hc : v.form.Says arg c) :
      Command.parse (v.name ++ gap ++ arg) = .ok c :=
    (reads_append (Verb.word_of_mem v.name_mem_words) harg hgap hblank).parse_eq_ok
      v.name_mem_words hc
  refine ⟨fun _ _ _ => parse_padded, hread, fun gap arg ids hgap hblank hids => ?_,
    fun _ _ => parse_eq_ok_iff, fun line c h => ?_, fun _ _ => parse_eq_error_iff⟩
  · exact hread .combine gap arg _ hgap hblank hids.argument.2 ⟨ids, hids, rfl⟩
  · rcases parse_eq_ok_iff.mp h with ⟨-, rfl⟩ | ⟨v, word, arg, -, hreads, hc⟩
    · exact ⟨rfl, fun text htext => by cases htext⟩
    · exact ⟨parse_written hreads.trimmed hc, fun text => argument_of_says hreads.trimmed hc⟩

example : Command.parse "\u3000rm a\u00a0 b " = .ok (.delete ⟨"a\u00a0 b"⟩) := rfl

end Rulebook.Console
