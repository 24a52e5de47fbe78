import Mathlib.Data.List.Forall2
import Mathlib.Data.String.Basic
import Rulebook.Console.Table
import Rulebook.Proofs.Rule.Collection

/-!
# Reading the table

The column of identifiers is as wide as the longest of them has bytes, but it is filled up by
characters. A character has a byte at least, so no identifier is wider than the column
(`Rulebook.Console.length_le_idWidth`), and in all lines the status stands at the same place
(`Rulebook.Console.Laid`), whatever scripts the identifiers are written in.

From that a table can be read back. Its head says how wide the column is, for nothing else in it
can vary; and in the line of a rule everything but the text then has its place, so the spaces
behind the identifier, the label and the text can be told apart (`Rulebook.Console.Laid.inj`). What
could be mistaken for something else is a line feed, or a space at the end of an identifier.
-/

namespace Rulebook.Console

open Rule

variable {width : Nat} {marker : Char} {id status text line : String} {r : Rule}
  {rules : List Rule} {editing? : Option RuleId}

/-! ### The width of the column -/

/-- A text has no more characters than bytes. -/
theorem length_le_utf8ByteSize (s : String) : s.length ≤ s.utf8ByteSize := by
  rw [← String.length_toList, ← String.utf8Len_toList]
  induction s.toList with
  | nil => exact Nat.zero_le _
  | cons c cs ih =>
    rw [List.length_cons, String.utf8Len_cons]
    exact Nat.add_le_add ih c.utf8Size_pos

theorem le_foldl_max (rules : List Rule) (least : Nat) :
    let widest := rules.foldl (fun w r => max w r.id.text.utf8ByteSize) least
    least ≤ widest ∧ ∀ r ∈ rules, r.id.text.utf8ByteSize ≤ widest := by
  induction rules generalizing least with
  | nil => exact ⟨Nat.le_refl least, List.forall_mem_nil _⟩
  | cons r rules ih =>
    obtain ⟨hleast, hrules⟩ := ih (max least r.id.text.utf8ByteSize)
    refine ⟨Nat.le_trans (Nat.le_max_left _ _) hleast, ?_⟩
    exact List.forall_mem_cons.mpr ⟨Nat.le_trans (Nat.le_max_right _ _) hleast, hrules⟩

theorem two_le_idWidth (rules : List Rule) : 2 ≤ idWidth rules := (le_foldl_max rules 2).1

/-- **No identifier is wider than the column.** -/
theorem length_le_idWidth (h : r ∈ rules) : r.id.text.length ≤ idWidth rules :=
  Nat.le_trans (length_le_utf8ByteSize _) ((le_foldl_max rules 2).2 r h)

/-! ### Lines -/

/-- **A cell of a column**: a text with spaces behind it, of exactly the width of the column. -/
structure Cell (width : Nat) (text cell : List Char) : Prop where
  length : cell.length = width
  spaces : ∃ n, cell = text ++ List.replicate n ' '

/-- **A line of a table** whose column of identifiers has some width: a marker, the identifier in
its cell, the status and the text, with two spaces between. -/
structure Laid (width : Nat) (marker : Char) (id status text line : String) : Prop where
  cells : ∃ cell, Cell width id.toList cell ∧
    line.toList = marker :: ' ' :: (cell ++ ' ' :: ' ' :: (status ++ "  " ++ text).toList)
  /-- The place of the status does not depend on the identifier. -/
  status : line.toList.drop (width + 4) = (status ++ "  " ++ text).toList

theorem cell_pad (h : id.length ≤ width) : Cell width id.toList (pad width id).toList := by
  rw [pad, String.toList_ofList]
  refine ⟨?_, _, rfl⟩
  rw [List.length_append, List.length_replicate, String.length_toList, Nat.add_sub_cancel' h]

theorem laid_tableLine (h : id.length ≤ width) :
    Laid width marker id status text
      (tableLine width (String.singleton marker) id status text) := by
  have hline : (tableLine width (String.singleton marker) id status text).toList =
      marker :: ' ' :: ((pad width id).toList ++
        ' ' :: ' ' :: (status ++ "  " ++ text).toList) := by
    simp [tableLine]
  refine ⟨⟨_, cell_pad h, hline⟩, ?_⟩
  rw [hline]
  -- two characters come before the cell, and two after it
  have hfront : (marker :: ' ' :: ((pad width id).toList ++ [' ', ' '])).length = width + 4 := by
    simp [(cell_pad h).length]
  rw [← hfront]
  simp

/-- A line has nothing in it but its parts and spaces. -/
theorem Laid.mem {c : Char} (h : Laid width marker id status text line) (hc : c ∈ line.toList) :
    c = marker ∨ c = ' ' ∨ c ∈ id.toList ∨ c ∈ status.toList ∨ c ∈ text.toList := by
  obtain ⟨cell, ⟨-, n, rfl⟩, hline⟩ := h.cells
  rw [hline] at hc
  have hspaces : c ∈ List.replicate n ' ' → c = ' ' := List.eq_of_mem_replicate
  simp only [String.toList_append, List.mem_cons, List.mem_append] at hc
  grind

/-! ### Lines that are equal -/

/-- The spaces behind a text tell where it ends, if it does not end in one. -/
theorem eq_of_append_replicate {cs cs' : List Char} {n n' : Nat}
    (h : cs ++ List.replicate n ' ' = cs' ++ List.replicate n' ' ')
    (hlast : cs.getLast? ≠ some ' ') (hlast' : cs'.getLast? ≠ some ' ') : cs = cs' := by
  -- what one text has more than the other consists of spaces
  have hnil {front more : List Char} {k m : Nat} (hlast : (front ++ more).getLast? ≠ some ' ')
      (h : List.replicate k ' ' = more ++ List.replicate m ' ') : more = [] := by
    rcases List.eq_nil_or_concat more with rfl | ⟨init, c, rfl⟩
    · rfl
    · have hc : c ∈ List.replicate k ' ' := by
        rw [h]
        simp
      refine absurd ?_ hlast
      rw [List.concat_eq_append, ← List.append_assoc, List.getLast?_concat,
        List.eq_of_mem_replicate hc]
  rcases List.append_eq_append_iff.mp h with ⟨more, rfl, hmore⟩ | ⟨more, rfl, hmore⟩
  · rw [hnil hlast' hmore, List.append_nil]
  · rw [hnil hlast hmore, List.append_nil]

/-- A line that is equal to another one has the same marker, and the same text from its status
on. Equal cells hold the same identifier, if none ends in a space. -/
theorem Laid.inj {marker' : Char} {id' status' text' : String}
    (h : Laid width marker id status text line) (h' : Laid width marker' id' status' text' line)
    (hlast : id.toList.getLast? ≠ some ' ') (hlast' : id'.toList.getLast? ≠ some ' ') :
    marker = marker' ∧ id = id' ∧ status ++ "  " ++ text = status' ++ "  " ++ text' := by
  obtain ⟨cell, ⟨hlength, n, hn⟩, hline⟩ := h.cells
  obtain ⟨cell', ⟨hlength', n', hn'⟩, hline'⟩ := h'.cells
  obtain ⟨hmarker, hrest⟩ := List.cons.inj (hline.symm.trans hline')
  obtain ⟨hcell, -⟩ := List.append_inj (List.cons.inj hrest).2 (hlength.trans hlength'.symm)
  rw [hn, hn'] at hcell
  refine ⟨hmarker, String.toList_inj.mp (eq_of_append_replicate hcell hlast hlast'), ?_⟩
  exact String.toList_inj.mp (h.status.symm.trans h'.status)

/-- The head of a table tells how wide its column is. -/
theorem Laid.length (h : Laid width marker id status text line) :
    line.length = width + 4 + (status ++ "  " ++ text).length := by
  obtain ⟨cell, ⟨hlength, -⟩, hline⟩ := h.cells
  rw [← String.length_toList, hline]
  simp only [List.length_cons, List.length_append, String.length_toList, hlength]
  omega

theorem length_statusLabel (enabled : Bool) : (statusLabel enabled).toList.length = 2 := by
  cases enabled <;> rfl

theorem statusLabel_inj : ∀ enabled enabled' : Bool,
    statusLabel enabled = statusLabel enabled' → enabled = enabled' := by
  decide

/-- The two labels are equally long, so a label and the text behind it can be told apart. -/
theorem label_inj {enabled enabled' : Bool} {text' : String}
    (h : statusLabel enabled ++ "  " ++ text = statusLabel enabled' ++ "  " ++ text') :
    enabled = enabled' ∧ text = text' := by
  simp only [← String.toList_inj, String.toList_append, List.append_assoc] at h
  obtain ⟨hlabel, htext⟩ := List.append_inj h (by rw [length_statusLabel, length_statusLabel])
  exact ⟨statusLabel_inj _ _ (String.toList_inj.mp hlabel),
    String.toList_inj.mp (List.append_cancel_left htext)⟩

/-! ### Tables -/

/-- The marker of a rule. -/
def markerOf (editing? : Option RuleId) (r : Rule) : Char :=
  if editing? = some r.id then '*' else ' '

theorem laid_ruleLine (h : r ∈ rules) (editing? : Option RuleId) :
    Laid (idWidth rules) (markerOf editing? r) r.id.text (statusLabel r.enabled) r.text
      (ruleLine (idWidth rules) editing? r) := by
  have hmarker : (if editing? = some r.id then "*" else " ") =
      String.singleton (markerOf editing? r) := by
    rw [markerOf]
    split <;> rfl
  rw [ruleLine, hmarker]
  exact laid_tableLine (length_le_idWidth h)

theorem laid_head (rules : List Rule) :
    Laid (idWidth rules) ' ' "ID" "状态" "规则" (tableLine (idWidth rules) " " "ID" "状态" "规则") :=
  laid_tableLine (two_le_idWidth rules)

/-- The row is marked. -/
def Marked (row : String) : Prop := row.toList.head? = some '*'

instance (row : String) : Decidable (Marked row) := inferInstanceAs (Decidable (_ = _))

/-- **A rule that can be read off its line**: it has no line feed in it, and no space at the end of
its identifier. -/
structure Legible (r : Rule) : Prop where
  id_feed : '\n' ∉ r.id.text.toList
  text_feed : '\n' ∉ r.text.toList
  id_last : r.id.text.toList.getLast? ≠ some ' '

theorem marked_iff (h : Laid width (markerOf editing? r) id status text line) :
    Marked line ↔ editing? = some r.id := by
  obtain ⟨cell, -, hline⟩ := h.cells
  rw [Marked, hline, List.head?_cons, markerOf]
  split <;> simp [*]

/-- As many rows are marked as there are rules that are being edited. -/
theorem countP_marked (width : Nat) (hrules : ∀ r ∈ rules, Marked (ruleLine width editing? r) ↔
    editing? = some r.id) :
    (rules.map (ruleLine width editing?)).countP Marked =
      (ids rules).countP (editing? = some ·) := by
  rw [List.countP_map, ids, List.countP_map]
  exact List.countP_congr fun r hr => by simpa using hrules r hr

theorem table_of_ne_nil (h : rules ≠ []) :
    table rules editing? = "\n".intercalate (tableLines rules editing?) := by
  rw [table, List.isEmpty_eq_false_iff.mpr h]
  rfl

/-- A line feed only stands between the lines. -/
theorem feed_of_mem_tableLines (h : ∀ r ∈ rules, Legible r) :
    ∀ line ∈ tableLines rules editing?, '\n' ∉ line.toList := by
  have hmarker (r : Rule) : '\n' ≠ markerOf editing? r := by
    rw [markerOf]
    split <;> decide
  rw [tableLines, List.forall_mem_cons, List.forall_mem_map]
  refine ⟨fun hfeed => ?_, fun r hr hfeed => ?_⟩
  · rcases (laid_head rules).mem hfeed with hc | hc | hc | hc | hc <;> revert hc <;> decide
  · rcases (laid_ruleLine hr editing?).mem hfeed with hc | hc | hc | hc | hc
    · exact hmarker r hc
    · revert hc
      decide
    · exact (h r hr).id_feed hc
    · revert hc
      cases r.enabled <;> decide
    · exact (h r hr).text_feed hc

/-- **The lines of a table** can be read off it. -/
theorem tableLines_of_table_eq {rules' : List Rule} {editing?' : Option RuleId}
    (hne : rules ≠ []) (hne' : rules' ≠ []) (h : ∀ r ∈ rules, Legible r)
    (h' : ∀ r ∈ rules', Legible r) (heq : table rules editing? = table rules' editing?') :
    tableLines rules editing? = tableLines rules' editing?' := by
  have hsplit {rules : List Rule} {editing? : Option RuleId} (hne : rules ≠ [])
      (h : ∀ r ∈ rules, Legible r) :
      (table rules editing?).toList.splitOn '\n' =
        (tableLines rules editing?).map String.toList := by
    rw [table_of_ne_nil hne, String.toList_intercalate]
    refine List.splitOn_intercalate '\n' ?_ (by simp [tableLines])
    exact List.forall_mem_map.mpr (feed_of_mem_tableLines h)
  have hlines : (table rules editing?).toList.splitOn '\n' = _ := hsplit hne h
  rw [heq, hsplit hne' h'] at hlines
  exact (List.map_injective_iff.mpr (fun _ _ => String.toList_inj.mp) hlines).symm

/-- The row of a rule tells the rule. -/
theorem eq_of_ruleLine_eq {rules' : List Rule} {editing?' : Option RuleId} {r' : Rule}
    (hwidth : idWidth rules = idWidth rules') (hr : r ∈ rules) (hr' : r' ∈ rules')
    (h : Legible r) (h' : Legible r')
    (heq : ruleLine (idWidth rules) editing? r = ruleLine (idWidth rules') editing?' r') :
    r = r' := by
  have hlaid := laid_ruleLine hr editing?
  have hlaid' := laid_ruleLine hr' editing?'
  rw [← heq, ← hwidth] at hlaid'
  obtain ⟨-, hid, hrest⟩ := hlaid.inj hlaid' h.id_last h'.id_last
  obtain ⟨henabled, htext⟩ := label_inj hrest
  rcases r with ⟨⟨id⟩, text, enabled⟩
  rcases r' with ⟨⟨id'⟩, text', enabled'⟩
  dsimp only at hid henabled htext
  rw [hid, henabled, htext]

/-- Where equal rows tell equal rules, equal lists of rows tell equal lists of rules. -/
theorem eq_of_map_eq {f g : Rule → String} {rules' : List Rule}
    (h : ∀ r ∈ rules, ∀ r' ∈ rules', f r = g r' → r = r') (heq : rules.map f = rules'.map g) :
    rules = rules' := by
  induction rules generalizing rules' with
  | nil => exact (List.map_eq_nil_iff.mp heq.symm).symm
  | cons r rules ih =>
    rcases rules' with _ | ⟨r', rules'⟩
    · cases heq
    · obtain ⟨hrow, hrows⟩ := List.cons.inj heq
      rw [h r List.mem_cons_self r' List.mem_cons_self hrow]
      refine congrArg _ (ih (fun q hq q' hq' => ?_) hrows)
      exact h q (List.mem_cons_of_mem r hq) q' (List.mem_cons_of_mem r' hq')

/-- A table begins with the space in front of its head, and a sentence does not. -/
theorem table_ne_of_nil (h : rules ≠ []) {editing?' : Option RuleId} :
    table [] editing?' ≠ table rules editing? := by
  obtain ⟨cell, -, hhead⟩ := (laid_head rules).cells
  have hspace : (table rules editing?).toList.head? = some ' ' := by
    rw [table_of_ne_nil h, tableLines, String.toList_intercalate, List.map_cons, hhead]
    cases rules.map (ruleLine (idWidth rules) editing?) <;> rfl
  have hsentence : table [] editing?' = "暂无规则" := rfl
  intro heq
  rw [← heq, hsentence] at hspace
  revert hspace
  decide

theorem table_inj {rules' : List Rule} {editing?' : Option RuleId} (h : ∀ r ∈ rules, Legible r)
    (h' : ∀ r ∈ rules', Legible r) (heq : table rules editing? = table rules' editing?') :
    rules = rules' := by
  by_cases hne : rules = []
  · by_cases hne' : rules' = []
    · rw [hne, hne']
    · rw [hne] at heq
      exact absurd heq (table_ne_of_nil hne')
  · by_cases hne' : rules' = []
    · rw [hne'] at heq
      exact absurd heq.symm (table_ne_of_nil hne)
    · obtain ⟨hhead, hrows⟩ := List.cons.inj (tableLines_of_table_eq hne hne' h h' heq)
      -- the heads are equal, and so are the columns
      have hlength := (laid_head rules).length
      rw [hhead, (laid_head rules').length] at hlength
      have hwidth : idWidth rules = idWidth rules' := by omega
      refine eq_of_map_eq (fun r hr r' hr' hrow => ?_) hrows
      exact eq_of_ruleLine_eq hwidth hr hr' (h r hr) (h' r' hr') hrow

/-! ### The main result -/

/-- **The table is aligned, and nothing is lost in it.**

* The table of some rules has a head and a row for each rule, in their order, and in all of them
  the column of identifiers has the same width, at least two: the identifier is followed by spaces
  up to that width, and the status begins at the same place. A row is marked exactly if its rule
  is the one that is being edited; so if no identifier stands twice, that is one row or none,
  and it is none if no rule is being edited that is there.
* Two tables that are equal show the same rules, whatever is being edited, if these can be read
  off their lines. -/
theorem table_aligned_and_faithful :
    (∀ (rules : List Rule) (editing? : Option RuleId), rules ≠ [] →
      ∃ width head rows, 2 ≤ width ∧
        table rules editing? = "\n".intercalate (head :: rows) ∧
        Laid width ' ' "ID" "状态" "规则" head ∧
        List.Forall₂ (fun r row => (∃ marker ∈ ['*', ' '],
            Laid width marker r.id.text (statusLabel r.enabled) r.text row) ∧
          (Marked row ↔ editing? = some r.id)) rules rows ∧
        (∀ x ∈ ids rules, (ids rules).Nodup → editing? = some x → rows.countP Marked = 1) ∧
        ((∀ x ∈ ids rules, editing? ≠ some x) → rows.countP Marked = 0)) ∧
    ∀ (rules rules' : List Rule) (editing? editing?' : Option RuleId),
      (∀ r ∈ rules, Legible r) → (∀ r ∈ rules', Legible r) →
      table rules editing? = table rules' editing?' → rules = rules' := by
  refine ⟨fun rules editing? hne => ?_, fun rules rules' editing? editing?' => table_inj⟩
  have hmarked : ∀ r ∈ rules, Marked (ruleLine (idWidth rules) editing? r) ↔
      editing? = some r.id := fun r hr => marked_iff (laid_ruleLine hr editing?)
  have hcount := countP_marked (idWidth rules) hmarked
  refine ⟨idWidth rules, _, _, two_le_idWidth rules, table_of_ne_nil hne, laid_head rules, ?_,
    fun x hx hnodup hediting => ?_, fun hother => ?_⟩
  · rw [List.forall₂_map_right_iff, List.forall₂_same]
    refine fun r hr => ⟨⟨_, ?_, laid_ruleLine hr editing?⟩, hmarked r hr⟩
    rw [markerOf]
    split <;> simp
  · rw [hcount, hediting, ← List.count_eq_one_of_mem hnodup hx]
    refine List.countP_congr fun y hy => ?_
    rw [decide_eq_true_iff, Option.some_inj, beq_iff_eq]
    exact eq_comm
  · rw [hcount, List.countP_eq_zero]
    simpa using hother

end Rulebook.Console
