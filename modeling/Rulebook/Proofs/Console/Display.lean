import Rulebook.Proofs.Console.Prompts
import Rulebook.Proofs.Console.Table

/-!
# The table on the screen

A session shows the table of rules at the beginning, when it is asked for, and after a command
with which a snapshot was published. Nobody checks that these are enough. Here it is shown that
they are: whenever a command is expected, the last table that was written has a row for each rule
of the store, with its identifier, its status and its text (`Rulebook.Console.display_current`).

The session compares the number of snapshots with the number that it has seen. Between two
turns the two are the same (`Rulebook.Console.Session.Current`), a command publishes at most one
snapshot, and where it publishes none the store is left as it was. So a table comes exactly with
a change, and what else is shown is at most a message
(`Rulebook.Console.Prompt.Shows`).

What is shown is a list of things, and what the user sees is a text. The text of each thing is
given here once more, as a relation (`Rulebook.Console.Shown.Written`): for a table it is a
sentence, or a head with a row for each rule (`Rulebook.Console.Displays`).
-/

namespace Rulebook.Console

open Text (Line)

variable {σ : Type} {svc : Service σ} {s : Session} {c : Command} {t : Turn} {w : σ}
  {line answer : String}

/-! ### Blank lines -/

theorem ofWord_eq_empty_iff {word : String} {cs : List Char} :
    Command.ofWord word cs = .ok .empty ↔ word = "" := by
  constructor
  · intro h
    rw [Command.ofWord.eq_def] at h
    split at h
    · rfl
    all_goals cases cs <;> cases h
  · rintro rfl
    rfl

/-- **A line is no command at all exactly if it is blank.** -/
theorem parse_eq_empty_iff : Command.parse line = .ok .empty ↔ Text.blank line = true := by
  have hparse : Command.parse line = .ok .empty ↔
      (Text.trimmed line.toList).takeWhile (! Text.isBlank ·) = [] := by
    rw [Command.parse]
    exact ofWord_eq_empty_iff.trans String.ofList_eq_empty_iff
  rw [hparse, Text.blank, List.all_eq_true, ← Text.trimmed_eq_nil_iff]
  cases hcs : Text.trimmed line.toList with
  | nil => exact iff_of_true rfl rfl
  | cons d ds =>
    rw [List.takeWhile_cons_of_pos (by simp [Text.isBlank_of_trimmed_eq_cons hcs])]
    exact iff_of_false (List.cons_ne_nil _ _) (List.cons_ne_nil _ _)

namespace Session

/-! ### One turn -/

/-- **A session that has shown what was published**, and whose store is at rest. -/
structure Current (s : Session) : Prop where
  rest : s.store.AtRest
  seen : s.seen = s.store.published

/-- **What a turn comes to**, where a command was given: either nothing is published, and the
command has shown what it shows by itself; or one snapshot is, and its table is shown, too. -/
inductive Done (s : Session) (c : Command) (T : Executed) : Prop
  | kept (said : List Shown) (hsaid : s.Shows c said) (hstore : T.session.store = s.store)
      (hshown : T.shown = .prompt :: (questions c ++ said))
  | published (rules : List Rule) (text : String) (hc : c ≠ .empty ∧ c ≠ .quit ∧ c ≠ .list)
      (hstore : T.session.store = s.store.publish rules)
      (hshown : T.shown = .prompt ::
        (questions c ++ [.message text, .table rules T.session.editor.rule?]))

/-- A command that comes to a request shows a message. -/
theorem Shows.exists_message {r : Request} {said : List Shown} (h : s.Shows c said)
    (hr : s.request? answer c = some r) :
    (c ≠ .empty ∧ c ≠ .quit ∧ c ≠ .list) ∧ ∃ text, said = [.message text] := by
  cases h with
  | nothing hc => rcases hc with rfl | rfl <;> cases hr
  | table => cases hr
  | message hc text => exact ⟨hc, text, rfl⟩

/-- **A turn with a command** publishes one snapshot and shows it, or none, and then shows no
table but the one that was asked for. -/
theorem Current.turn (hs : s.Current) (ht : t.command = .ok c) (svc : Service σ) (w : σ) :
    (s.turn svc t w).1.session.Current ∧ s.Done c (s.turn svc t w).1 := by
  obtain ⟨hsession, hshown, -⟩ := turn_of_ok ht svc s w
  have hsaid := s.shown_execute svc c t.answer w
  have hseen : (s.execute svc c t.answer w).1.session.seen = s.store.published :=
    (s.seen_execute svc c t.answer w).trans hs.seen
  rcases s.execute_publishes_or_eq svc c t.answer w with ⟨r, rules, hr, hstore⟩ | hstore
  · -- the number of snapshots is another one than was seen
    have hne : (s.execute svc c t.answer w).1.session.store.published ≠
        (s.execute svc c t.answer w).1.session.seen := by
      rw [hstore, hseen]
      exact Nat.succ_ne_self _
    obtain ⟨hc, text, hmessage⟩ := hsaid.exists_message hr
    rw [refresh, if_neg hne] at hsession hshown
    have hstore' : (s.turn svc t w).1.session.store = s.store.publish rules := by
      rw [hsession]
      exact hstore
    refine ⟨⟨atRest_turn hs.rest svc t w, ?_⟩, .published rules text hc hstore' ?_⟩
    · rw [hsession]
    · rw [hshown, hmessage, hsession, tablePublished, hstore]
      rfl
  · -- nothing was published, and everything had been seen before
    have heq : (s.execute svc c t.answer w).1.session.store.published =
        (s.execute svc c t.answer w).1.session.seen := by
      rw [hstore, hseen]
    rw [refresh, if_pos heq] at hsession hshown
    refine ⟨⟨atRest_turn hs.rest svc t w, ?_⟩, .kept _ hsaid ?_ hshown⟩
    · rw [hsession, heq]
    · rw [hsession, hstore]

/-- A command that leaves the whole session alone makes a turn that does. -/
theorem Current.turn_of_session_eq (hs : s.Current) (ht : t.command = .ok c) (svc : Service σ)
    (w : σ) (h : (s.execute svc c t.answer w).1.session = s) :
    (s.turn svc t w).1.session = s := by
  have heq : (s.execute svc c t.answer w).1.session.store.published =
      (s.execute svc c t.answer w).1.session.seen := by
    rw [h, hs.seen]
  rw [(turn_of_ok ht svc s w).1, refresh, if_pos heq, h]

end Session

/-! ### What is written -/

/-- **A text displays some rules**: where there are none it says so, and otherwise it has a head
and a row for each of them, in their order, with the identifiers in a column of one width. The
rule that is being edited is marked. -/
inductive Displays (editing? : Option RuleId) : List Rule → String → Prop
  | none : Displays editing? [] "暂无规则"
  | some {rules : List Rule} {width : Nat} {head : String} {rows : List String}
      (hhead : Laid width ' ' "ID" "状态" "规则" head)
      (hrows : List.Forall₂ (fun r row => Laid width (if editing? = r.id then '*' else ' ')
        r.id.text (if r.enabled then "启用" else "停用") r.text row) rules rows)
      (hne : rules ≠ []) : Displays editing? rules ("\n".intercalate (head :: rows))

theorem displays_table (rules : List Rule) (editing? : Option RuleId) :
    Displays editing? rules (table rules editing?) := by
  rcases eq_or_ne rules [] with rfl | hne
  · exact .none
  · rw [table_of_ne_nil hne]
    refine .some (laid_head rules) ?_ hne
    rw [List.forall₂_map_right_iff, List.forall₂_same]
    exact fun r hr => laid_ruleLine hr editing?

/-- **The text of a thing that is shown.** -/
inductive Shown.Written : Shown → String → Prop
  | prompt : Written .prompt "> "
  | question (id : RuleId) : Written (.question id) s!"确认删除规则 {id.text}? [y/N] "
  | table {rules : List Rule} {editing? : Option RuleId} {text : String}
      (h : Displays editing? rules text) : Written (.table rules editing?) (text ++ "\n")
  | message (text : String) : Written (.message text) (text ++ "\n")

/-- **The text of several things that are shown**: their texts, one behind the other. -/
def Written (shown : List Shown) (text : String) : Prop :=
  ∃ pieces, List.Forall₂ Shown.Written shown pieces ∧ text = String.join pieces

theorem Shown.written_text (x : Shown) : x.Written x.text := by
  cases x with
  | prompt => exact .prompt
  | question id => exact .question id
  | table rules editing? => exact .table (displays_table rules editing?)
  | message text => exact .message text

theorem written_shownText (shown : List Shown) : Written shown (shownText shown) := by
  refine ⟨_, ?_, rfl⟩
  rw [List.forall₂_map_right_iff, List.forall₂_same]
  exact fun x _ => x.written_text

theorem shownText_append (shown shown' : List Shown) :
    shownText (shown ++ shown') = shownText shown ++ shownText shown' := by
  rw [shownText, List.map_append, String.join_append]
  rfl

theorem shownText_cons (x : Shown) (shown : List Shown) :
    shownText (x :: shown) = x.text ++ shownText shown := by
  rw [shownText, List.map_cons, String.join_cons]
  rfl

/-! ### Between two prompts -/

/-- The rules in a table. -/
def Shown.table? : Shown → Option (List Rule)
  | .table rules _ => some rules
  | _ => none

/-- The rules in the last table among things that were shown. -/
def lastTable? (shown : List Shown) : Option (List Rule) := (shown.filterMap Shown.table?).getLast?

theorem lastTable?_append (before shown : List Shown) :
    lastTable? (before ++ shown) = (lastTable? shown).or (lastTable? before) := by
  rw [lastTable?, List.filterMap_append, List.getLast?_append]
  rfl

theorem lastTable?_prompt (shown : List Shown) :
    lastTable? (.prompt :: shown) = lastTable? shown := rfl

/-- **What is asked before a command is carried out**: whether the rule is to be deleted, if that
is the command, and nothing otherwise. -/
inductive Asked : Command → List Shown → Prop
  | delete (x : RuleId) : Asked (.delete x) [.question x]
  | nothing {c : Command} (h : ∀ x, c ≠ .delete x) : Asked c []

theorem asked_questions (c : Command) : Asked c (Session.questions c) := by
  cases c with
  | delete x => exact .delete x
  | _ => exact .nothing (by rintro x ⟨⟩)

theorem Asked.lastTable? {asked : List Shown} (h : Asked c asked) (shown : List Shown) :
    Console.lastTable? (asked ++ shown) = Console.lastTable? shown := by
  cases h <;> rfl

/-- **The last table** has other things in front of it and behind it, but no table behind it. -/
theorem exists_append_of_lastTable? {shown : List Shown} {rules : List Rule}
    (h : lastTable? shown = some rules) :
    ∃ before editing? after, shown = before ++ .table rules editing? :: after ∧
      lastTable? after = none := by
  induction shown with
  | nil => cases h
  | cons x shown ih =>
    rw [← List.singleton_append, lastTable?_append] at h
    cases hlast : lastTable? shown with
    | some rules' =>
      rw [hlast] at h
      obtain rfl : rules' = rules := Option.some.inj h
      obtain ⟨before, editing?, after, rfl, hafter⟩ := ih hlast
      exact ⟨x :: before, editing?, after, rfl, hafter⟩
    | none =>
      rw [hlast, Option.none_or] at h
      cases x with
      | table rules' editing? =>
        obtain rfl : rules' = rules := Option.some.inj h
        exact ⟨[], editing?, shown, rfl, hlast⟩
      | _ => cases h

/-- A text in which the last table displays some rules: whatever is written behind this table,
none of it is a table. -/
def EndsDisplaying (rules : List Rule) (text : String) : Prop :=
  ∃ before displayed editing? after shown, text = before ++ (displayed ++ "\n") ++ after ∧
    Displays editing? rules displayed ∧ Written shown after ∧ lastTable? shown = none

/-- What was shown is read off the text. -/
theorem endsDisplaying_of_lastTable? {shown : List Shown} {rules : List Rule}
    (h : lastTable? shown = some rules) : EndsDisplaying rules (shownText shown) := by
  obtain ⟨before, editing?, after, rfl, hafter⟩ := exists_append_of_lastTable? h
  refine ⟨shownText before, table rules editing?, editing?, shownText after, after, ?_,
    displays_table rules editing?, written_shownText after, hafter⟩
  rw [shownText_append, shownText_cons, String.append_assoc]
  rfl

namespace Prompt

/-- **What a line shows** between the prompt in front of it and the next one, and what it does
to the store. -/
inductive Shows (p q : Prompt σ) : String → List Shown → Prop
  /-- A line that is no command shows why. -/
  | mistaken {line : String} {e : CommandError} (h : Command.parse line = .error e)
      (hsession : q.session = p.session) : Shows p q line [.message s!"错误: {e.message}"]
  | blank {line : String} (h : Text.blank line = true) (hsession : q.session = p.session) :
      Shows p q line []
  /-- What `list` says is the table itself. -/
  | listed {line : String} (h : Command.parse line = .ok .list)
      (hsession : q.session = p.session) :
      Shows p q line [.table p.session.store.rules p.session.editor.rule?]
  /-- Any other command says one thing, after the question if it asks one; and that is all if
  nothing was published. -/
  | kept {line : String} {c : Command} (h : Command.parse line = .ok c)
      (hc : c ≠ .empty ∧ c ≠ .quit ∧ c ≠ .list) {asked : List Shown} (hasked : Asked c asked)
      (text : String) (hstore : q.session.store = p.session.store) :
      Shows p q line (asked ++ [.message text])
  /-- Where a snapshot was published its table is shown, too. -/
  | published {line : String} {c : Command} (h : Command.parse line = .ok c)
      (hc : c ≠ .empty ∧ c ≠ .quit ∧ c ≠ .list) {asked : List Shown} (hasked : Asked c asked)
      (text : String) (rules : List Rule)
      (hstore : p.session.store.Publishes rules q.session.store) :
      Shows p q line (asked ++
        [.message text, .table q.session.store.rules q.session.editor.rule?])

variable {p q : Prompt σ} {shown : List Shown}

/-- The table that is on the screen after a line, by what the line has shown. -/
theorem Shows.lastTable? (h : p.Shows q line shown)
    (hp : Console.lastTable? p.shown = some p.session.store.rules) :
    Console.lastTable? (p.shown ++ .prompt :: shown) = some q.session.store.rules := by
  rw [lastTable?_append, lastTable?_prompt, hp]
  cases h with
  | mistaken h hsession =>
    rw [hsession]
    rfl
  | blank h hsession =>
    rw [hsession]
    rfl
  | listed h hsession =>
    rw [hsession]
    rfl
  | kept h hc hasked text hstore =>
    rw [hstore, hasked.lastTable?]
    rfl
  | published h hc hasked text rules hstore =>
    rw [hasked.lastTable?]
    rfl

/-- **From prompt to prompt** the table on the screen stays right, and what is shown in between
is what the line says. -/
theorem shows_of_next (hp : p.session.Current) (h : p.next? svc = some q) :
    q.session.Current ∧ ∃ line rest shown, p.ahead = .ok line :: rest ∧
      q.shown = p.shown ++ .prompt :: shown ∧ p.Shows q line shown := by
  obtain ⟨t, ht, hsession, -, hshown⟩ := exists_turn h
  obtain ⟨line, rest, hahead, hcommand, hquit⟩ := ht.exists_line
  cases hc : Command.parse line with
  | error e =>
    rw [hc] at hcommand
    rw [Session.turn_of_error hcommand] at hsession hshown
    refine ⟨?_, line, rest, _, hahead, hshown, .mistaken hc hsession⟩
    rw [hsession]
    exact hp
  | ok c =>
    rw [hc] at hcommand hquit
    obtain ⟨hcurrent, hdone⟩ := hp.turn hcommand svc p.world
    rw [← hsession] at hcurrent
    refine ⟨hcurrent, line, rest, ?_⟩
    cases hdone with
    | kept said hsaid hstore htext =>
      rw [← hsession] at hstore
      rw [htext] at hshown
      refine ⟨_, hahead, hshown, ?_⟩
      cases hsaid with
      -- `quit` shows nothing, too, but there is no prompt after it
      | nothing hempty =>
        obtain rfl : c = .empty := hempty.resolve_right fun h => hquit (by rw [h])
        rw [hp.turn_of_session_eq hcommand svc p.world rfl] at hsession
        exact .blank (parse_eq_empty_iff.mp hc) hsession
      | table =>
        rw [hp.turn_of_session_eq hcommand svc p.world rfl] at hsession
        exact .listed hc hsession
      | message hne text => exact .kept hc hne (asked_questions c) text hstore
    | published rules text hne hstore htext =>
      rw [← hsession] at hstore htext
      rw [htext] at hshown
      refine ⟨_, hahead, hshown, ?_⟩
      have hpublishes : p.session.store.Publishes rules q.session.store :=
        hstore ▸ Store.publishes_publish p.session.store rules
      rw [← hpublishes.rules]
      exact .published hc hne (asked_questions c) text rules hpublishes

end Prompt

/-! ### The main result -/

/-- **What is on the screen is what there is.** In a session on any input, with any rules to
begin with, guarded or not, and whatever the service replies:

* Whatever is shown, its text is written (`Rulebook.Console.Written`). Whenever a prompt was
  shown, what was shown in front of it has been written, and then the sign of the prompt.
* The last table in front of a prompt is the one of the rules of the store, and what is written
  for it displays them, all of them and in their order.
* Between two prompts one line is carried out, or two if it asks a question, and it shows what
  `Rulebook.Console.Prompt.Shows` says: nothing if it is blank, the reason if it is no command,
  and otherwise one message, and a table exactly if a snapshot was published. That, and nothing
  else, is written between the two. -/
theorem display_current (guarded : Bool) (listed : List Rule) (svc : Service σ) (w : σ)
    (bytes : List UInt8) :
    let s := Session.of (.loaded guarded listed)
    let ps := Prompt.prompts svc (.first s (Text.lines bytes) w)
    let all := (s.run svc (Text.lines bytes) w).1.shown
    fronts [] all = ps.map Prompt.shown ∧ Written all (shownText all) ∧
    (∀ p ∈ ps, lastTable? p.shown = some p.session.store.rules ∧
      EndsDisplaying p.session.store.rules (shownText p.shown) ∧
      ∃ rest, shownText all = shownText p.shown ++ ("> " ++ rest)) ∧
    ps.IsChain fun p q => ∃ line rest shown text, p.ahead = .ok line :: rest ∧
      q.shown = p.shown ++ .prompt :: shown ∧ p.Shows q line shown ∧ Written shown text ∧
      shownText q.shown = shownText p.shown ++ ("> " ++ text) := by
  intro s ps all
  have hcurrent : s.Current := ⟨Store.atRest_loaded guarded listed, rfl⟩
  have hfirst : lastTable? (Prompt.first s (Text.lines bytes) w).shown = some s.store.rules :=
    congrArg some hcurrent.rest.snapshot
  have hfronts : fronts [] all = ps.map Prompt.shown := Prompt.map_shown_prompts svc s _ w
  have hlast : ∀ p ∈ ps, p.session.Current ∧ lastTable? p.shown = some p.session.store.rules := by
    refine Prompt.forall_mem_prompts svc (fun p q hp h => ?_) _ ⟨hcurrent, hfirst⟩
    obtain ⟨hq, line, rest, shown, -, hshown, hshows⟩ := Prompt.shows_of_next hp.1 h
    rw [hshown]
    exact ⟨hq, hshows.lastTable? hp.2⟩
  refine ⟨hfronts, written_shownText all, fun p hp => ?_, ?_⟩
  · have hfront : p.shown ∈ fronts [] all := hfronts ▸ List.mem_map_of_mem hp
    obtain ⟨rest, hrest⟩ := exists_eq_of_mem_fronts hfront
    rw [List.nil_append] at hrest
    refine ⟨(hlast p hp).2, endsDisplaying_of_lastTable? (hlast p hp).2, shownText rest, ?_⟩
    rw [hrest, shownText_append, shownText_cons]
    rfl
  · refine Prompt.isChain_of_forall (P := fun p => p.session.Current) svc (fun p q hp h => ?_) _
      hcurrent
    obtain ⟨hq, line, rest, shown, hahead, hshown, hshows⟩ := Prompt.shows_of_next hp h
    refine ⟨hq, line, rest, shown, shownText shown, hahead, hshown, hshows,
      written_shownText shown, ?_⟩
    rw [hshown, shownText_append, shownText_cons]
    rfl

end Rulebook.Console
