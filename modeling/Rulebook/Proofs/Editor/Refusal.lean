import Mathlib.Data.List.Induction
import Rulebook.Proofs.Editor.Saving

/-!
# How long a refusal is remembered

When a blank draft is submitted, the editor remembers that it was refused. Only a submission
sets this mark, and many things can take it away: a text that is not blank, another draft,
giving up, and a submission that succeeds. So the mark says something about the past, and
`Rulebook.Editor.Refused` is what: the draft that is open now was submitted when it was blank,
at some time since it was opened, and has been blank ever since.

A history is a list of strokes (`Rulebook.Editor.Stroke`). It grows at its end, and the proofs
are by induction on it from there: `Rulebook.Editor.refused_append_singleton_iff` says when one
more stroke leaves a refusal standing, and `Rulebook.Editor.remembers_after` is the invariant
that ties this to the editor.
-/

namespace Rulebook.Editor

/-! ### Histories -/

/-- Something that is done to an editor. -/
inductive Stroke : Type 1 where
  | edit (rule : RuleId) (text : String)
  | write (text : String)
  | cancel
  /-- The draft is saved to some store, with some service. -/
  | save {σ : Type} (svc : Service σ) (store : Store) (w : σ)
  /-- The draft is submitted, and saving it is given up before there is a reply. -/
  | giveUp

namespace Stroke

/-- Whether a stroke opens a draft. -/
def Opens : Stroke → Prop
  | edit _ _ => True
  | _ => False

/-- Whether a stroke is an attempt to save the draft. -/
def Submits : Stroke → Prop
  | save _ _ _ => True
  | giveUp => True
  | _ => False

/-- The text that a stroke writes, if it writes one. -/
def text? : Stroke → Option String
  | write text => some text
  | _ => none

end Stroke

/-- The text of a draft that was opened with some text, after further strokes: the last one that
was written, if one was. -/
def lastText (text : String) (since : List Stroke) : String :=
  (since.filterMap Stroke.text?).getLast?.getD text

/-- An editor after a stroke. -/
def stroke (e : Editor) : Stroke → Editor
  | .edit rule text => e.edit rule text
  | .write text => (e.write text).1
  | .cancel => e.cancel
  | .save svc store w => (e.save svc store w).1.editor
  | .giveUp => e.submission.1

/-- An editor after a history. -/
def after (e : Editor) (strokes : List Stroke) : Editor := strokes.foldl stroke e

variable {e : Editor} {s : Stroke} {strokes : List Stroke} {text : String}

@[simp] theorem after_append_singleton (e : Editor) (strokes : List Stroke) (s : Stroke) :
    e.after (strokes ++ [s]) = (e.after strokes).stroke s := by
  rw [after, after, List.foldl_append]
  rfl

/-! ### One stroke -/

theorem Blank.draft?_ne_none (h : e.Blank) : e.draft? ≠ none := by
  obtain ⟨draft, hdraft, -⟩ := h
  rw [hdraft]
  exact Option.some_ne_none draft

theorem stroke_write_of_idle (h : e.draft? = none) : e.stroke (.write text) = e := by
  rw [stroke, write, h]

/-- A text that is blank leaves the mark, and any other takes it away. -/
theorem stroke_write_of_draft {draft : Draft} (h : e.draft? = some draft) :
    e.stroke (.write text) =
      ⟨some { draft with text }, if Text.trim text = "" then e.refusal? else none⟩ := by
  rw [stroke, write, h]
  simp only [Text.blank_iff]

theorem conclude_editor_eq (e : Editor) (d : Draft) (step : Step Confirmed) :
    (e.conclude d step).editor = e ∨ (e.conclude d step).editor = idle := by
  rw [conclude]
  split
  · exact .inl rfl
  · exact .inr rfl

/-- **What an attempt to save does to the editor**, whatever comes of it: nothing without a
draft, a mark on a blank one, and any other draft is kept or gone. -/
theorem stroke_cases_of_submits (h : s.Submits) (e : Editor) :
    (e.draft? = none ∧ e.stroke s = e) ∨
      (e.Blank ∧ e.stroke s = { e with refusal? := some .emptyRuleText }) ∨
        ¬e.Blank ∧ (e.stroke s = e ∨ e.stroke s = idle) := by
  cases hdraft : e.draft? with
  | none =>
    refine .inl ⟨rfl, ?_⟩
    cases s with
    | save svc store w => simp only [stroke, save, submission_of_idle hdraft]
    | giveUp => rw [stroke, submission_of_idle hdraft]
    | _ => exact h.elim
  | some draft =>
    refine .inr ?_
    by_cases ht : Text.trim draft.text = ""
    · refine .inl ⟨⟨draft, hdraft, ht⟩, ?_⟩
      cases s with
      | save svc store w => simp only [stroke, save, submission_of_blank hdraft ht, hdraft]
      | giveUp => simp only [stroke, submission_of_blank hdraft ht, hdraft]
      | _ => exact h.elim
    · refine .inr ⟨?_, ?_⟩
      · rintro ⟨draft', hdraft', ht'⟩
        rw [hdraft] at hdraft'
        exact ht (Option.some.inj hdraft' ▸ ht')
      · cases s with
        | save svc store w =>
          simp only [stroke, save, submission_of_text hdraft ht]
          exact conclude_editor_eq e draft _
        | giveUp => exact .inl (by rw [stroke, submission_of_text hdraft ht])
        | _ => exact h.elim

/-- What becomes of the last text with one more stroke. -/
theorem lastText_append_singleton (text : String) (since : List Stroke) (s : Stroke) :
    lastText text (since ++ [s]) = s.text?.getD (lastText text since) := by
  rw [lastText, List.filterMap_append, List.getLast?_append]
  cases s <;> rfl

/-- **Where a draft comes from**, after a stroke that does not open one: there was a draft of the
same rule before. Its text is the one that was written, or else the same. -/
theorem exists_draft_of_stroke {draft : Draft} (hs : ¬s.Opens)
    (h : (e.stroke s).draft? = some draft) :
    s ≠ .cancel ∧ ∃ text, e.draft? = some ⟨draft.rule, text⟩ ∧ draft.text = s.text?.getD text := by
  have hsubmits (hs : s.Submits) : e.draft? = some draft := by
    rcases stroke_cases_of_submits hs e with ⟨-, he⟩ | ⟨-, he⟩ | ⟨-, he | he⟩ <;> rw [he] at h
    · exact h
    · exact h
    · exact h
    · cases h
  cases s with
  | edit rule text => exact absurd trivial hs
  | write text =>
    refine ⟨nofun, ?_⟩
    cases hdraft : e.draft? with
    | none =>
      rw [stroke_write_of_idle hdraft, hdraft] at h
      cases h
    | some draft' =>
      rw [stroke_write_of_draft hdraft] at h
      obtain rfl := Option.some.inj h
      exact ⟨draft'.text, rfl, rfl⟩
  | cancel => cases h
  | save svc store w => exact ⟨nofun, draft.text, hsubmits trivial, rfl⟩
  | giveUp => exact ⟨nofun, draft.text, hsubmits trivial, rfl⟩

/-! ### Refusals in a history -/

/-- **The draft that is open was opened** at some place of the history: nothing behind it opens
another or gives this one up, and its text is the last one that was written. -/
theorem exists_opening {draft : Draft} (h : (idle.after strokes).draft? = some draft) :
    ∃ before text since, strokes = before ++ .edit draft.rule text :: since ∧
      (∀ s ∈ since, ¬s.Opens ∧ s ≠ .cancel) ∧ draft.text = lastText text since := by
  induction strokes using List.reverseRecOn generalizing draft with
  | nil => cases h
  | append_singleton strokes s ih =>
    rw [after_append_singleton] at h
    by_cases hs : s.Opens
    · cases s with
      | edit rule text =>
        obtain rfl := Option.some.inj h
        exact ⟨strokes, text, [], rfl, nofun, rfl⟩
      | _ => exact hs.elim
    · obtain ⟨hcancel, text', hdraft, htext⟩ := exists_draft_of_stroke hs h
      obtain ⟨before, text, since, rfl, hsince, htext'⟩ := ih hdraft
      refine ⟨before, text, since ++ [s], by simp, ?_, ?_⟩
      · rw [List.forall_mem_append]
        exact ⟨hsince, List.forall_mem_singleton.mpr ⟨hs, hcancel⟩⟩
      · rw [lastText_append_singleton, htext]
        exact congrArg _ htext'

/-- **A refusal that still stands**: since the draft that is open was opened, it was submitted
at a time when it was blank, and every text that was written from then on is blank as well. -/
def Refused (strokes : List Stroke) : Prop :=
  ∃ before rule text between submission rest,
    strokes = before ++ .edit rule text :: (between ++ submission :: rest) ∧
    (∀ s ∈ between ++ submission :: rest, ¬s.Opens) ∧
    submission.Submits ∧ (idle.after (before ++ .edit rule text :: between)).Blank ∧
    ∀ t, .write t ∈ rest → Text.trim t = ""

theorem not_refused_nil : ¬Refused [] := by
  rintro ⟨before, rule, text, between, submission, rest, heq, -⟩
  simp at heq

/-- **One more stroke.** A refusal stands after it if it stood before and the stroke does not
end it, or if it is the stroke itself that is refused. -/
theorem refused_append_singleton_iff :
    Refused (strokes ++ [s]) ↔
      ¬s.Opens ∧ ((Refused strokes ∧ ∀ t, s = .write t → Text.trim t = "") ∨
        s.Submits ∧ (idle.after strokes).Blank) := by
  constructor
  · rintro ⟨before, rule, text, between, submission, rest, heq, hopens, hsubmits, hblank, hrest⟩
    -- the last stroke is the submission, or it comes behind it
    rcases List.eq_nil_or_concat rest with rfl | ⟨rest, last, rfl⟩
    · have hsplit : strokes = before ++ .edit rule text :: between ∧ s = submission := by
        rw [← List.cons_append, ← List.append_assoc] at heq
        exact List.append_singleton_inj.mp heq
      obtain ⟨rfl, rfl⟩ := hsplit
      exact ⟨hopens s (by simp), .inr ⟨hsubmits, hblank⟩⟩
    · have hsplit : strokes = before ++ .edit rule text :: (between ++ submission :: rest) ∧
          s = last := by
        refine List.append_singleton_inj.mp (heq.trans ?_)
        simp
      obtain ⟨rfl, rfl⟩ := hsplit
      rw [List.concat_eq_append] at hopens hrest
      refine ⟨hopens s (by simp), .inl ⟨?_, fun t ht => hrest t (by simp [ht])⟩⟩
      refine ⟨before, rule, text, between, submission, rest, rfl, fun s' hs' => ?_, hsubmits,
        hblank, fun t ht => hrest t (List.mem_append_left _ ht)⟩
      refine hopens s' ?_
      rw [← List.cons_append, ← List.append_assoc]
      exact List.mem_append_left _ hs'
  · rintro ⟨hs, ⟨hrefused, hwrite⟩ | ⟨hsubmits, hblank⟩⟩
    · obtain ⟨before, rule, text, between, submission, rest, rfl, hopens, hsubmits, hblank,
        hrest⟩ := hrefused
      refine ⟨before, rule, text, between, submission, rest ++ [s], by simp, ?_, hsubmits, hblank,
        ?_⟩
      · rw [← List.cons_append, ← List.append_assoc, List.forall_mem_append]
        exact ⟨hopens, List.forall_mem_singleton.mpr hs⟩
      · intro t ht
        rcases List.mem_append.mp ht with ht | ht
        · exact hrest t ht
        · exact hwrite t (List.mem_singleton.mp ht).symm
    · obtain ⟨draft, hdraft, -⟩ := id hblank
      obtain ⟨before, text, since, rfl, hsince, -⟩ := exists_opening hdraft
      refine ⟨before, draft.rule, text, since, s, [], by simp, ?_, hsubmits, hblank, nofun⟩
      rw [List.forall_mem_append]
      exact ⟨fun s' hs' => (hsince s' hs').1, List.forall_mem_singleton.mpr hs⟩

/-! ### What the editor remembers -/

/-- **An editor that remembers**: it has the mark if something holds, and its draft is blank
then, and otherwise it has none. Without a draft it need not remember anything. -/
def Remembers (e : Editor) (P : Prop) : Prop :=
  (e.refusal? = some .emptyRuleText ∧ e.Blank ∧ P) ∨
    (e.refusal? = none ∧ (e.draft? ≠ none → ¬P))

section

variable {P Q : Prop}

theorem Remembers.congr (h : e.Remembers P) (hPQ : P ↔ Q) : e.Remembers Q := by
  rw [Remembers, hPQ] at h
  exact h

/-- **A submission is remembered** if the draft is blank, whether it succeeds or not. -/
theorem Remembers.submit (h : e.Remembers P) (hs : s.Submits) :
    (e.stroke s).Remembers (P ∨ e.Blank) := by
  rcases stroke_cases_of_submits hs e with ⟨hdraft, he⟩ | ⟨hblank, he⟩ | ⟨hblank, he | he⟩
  · rw [he]
    rcases h with ⟨-, hblank, -⟩ | ⟨hnone, -⟩
    · exact absurd hdraft hblank.draft?_ne_none
    · exact .inr ⟨hnone, fun hne => absurd hdraft hne⟩
  · rw [he]
    exact .inl ⟨rfl, hblank, .inr hblank⟩
  · rw [he]
    rcases h with ⟨-, hblank', -⟩ | ⟨hnone, hP⟩
    · exact absurd hblank' hblank
    · exact .inr ⟨hnone, fun hne => not_or.mpr ⟨hP hne, hblank⟩⟩
  · rw [he]
    exact .inr ⟨rfl, fun hne => absurd rfl hne⟩

/-- **A text that is written** takes the mark away unless it is blank. -/
theorem Remembers.write (h : e.Remembers P) (text : String) :
    (e.stroke (.write text)).Remembers (P ∧ Text.trim text = "") := by
  cases hdraft : e.draft? with
  | none =>
    rw [stroke_write_of_idle hdraft]
    rcases h with ⟨-, hblank, -⟩ | ⟨hnone, -⟩
    · exact absurd hdraft hblank.draft?_ne_none
    · exact .inr ⟨hnone, fun hne => absurd hdraft hne⟩
  | some draft =>
    rw [stroke_write_of_draft hdraft]
    by_cases ht : Text.trim text = ""
    · rw [if_pos ht]
      rcases h with ⟨hmark, -, hP⟩ | ⟨hnone, hP⟩
      · exact .inl ⟨hmark, ⟨{ draft with text }, rfl, ht⟩, hP, ht⟩
      · have hne : e.draft? ≠ none := by rw [hdraft]; exact Option.some_ne_none draft
        exact .inr ⟨hnone, fun _ hboth => hP hne hboth.1⟩
    · rw [if_neg ht]
      exact .inr ⟨rfl, fun _ hboth => ht hboth.2⟩

/-- **One stroke is remembered** in the way in which a refusal stands after it. -/
theorem Remembers.stroke (h : e.Remembers P) (s : Stroke) :
    (e.stroke s).Remembers
      (¬s.Opens ∧ ((P ∧ ∀ t, s = .write t → Text.trim t = "") ∨ s.Submits ∧ e.Blank)) := by
  cases s with
  | edit rule text => exact .inr ⟨rfl, fun _ hstands => hstands.1 trivial⟩
  | write text => exact (h.write text).congr (by simp [Stroke.Opens, Stroke.Submits])
  | cancel => exact .inr ⟨rfl, fun hne => absurd rfl hne⟩
  | save svc store w =>
    have hs : (Stroke.save svc store w).Submits := trivial
    exact (h.submit hs).congr (by simp [Stroke.Opens, Stroke.Submits])
  | giveUp =>
    have hs : Stroke.giveUp.Submits := trivial
    exact (h.submit hs).congr (by simp [Stroke.Opens, Stroke.Submits])

end

theorem remembers_after (strokes : List Stroke) :
    (idle.after strokes).Remembers (Refused strokes) := by
  induction strokes using List.reverseRecOn with
  | nil => exact .inr ⟨rfl, fun _ => not_refused_nil⟩
  | append_singleton strokes s ih =>
    rw [after_append_singleton, refused_append_singleton_iff]
    exact ih.stroke s

/-- **A refusal is remembered exactly as long as it stands.** After every history of an editor,
with whatever stores and services its drafts were saved:

* the editor has a mark exactly if a draft is open and a refusal stands that came since it was
  opened;
* the mark says that the text is empty, and then the draft is blank;
* so an editor without a draft has none, and neither has one whose draft can be submitted.

A draft that is open is one of the rule for which it was opened, and neither was another opened
since nor this one given up; its text is the last one that was written, or else the one with which
it was opened. -/
theorem refusal_after_iff (strokes : List Stroke) :
    let e := idle.after strokes
    (e.refusal?.isSome ↔ e.draft?.isSome ∧ Refused strokes) ∧
    (∀ failure, e.refusal? = some failure → failure = .emptyRuleText ∧ e.Blank) ∧
    (e.draft? = none → e.refusal? = none) ∧
    (∀ draft, e.draft? = some draft → checkRuleText draft.text = .ok () → e.refusal? = none) ∧
    ∀ draft, e.draft? = some draft →
      ∃ before text since, strokes = before ++ .edit draft.rule text :: since ∧
        (∀ s ∈ since, ¬s.Opens ∧ s ≠ .cancel) ∧ draft.text = lastText text since := by
  intro e
  rcases remembers_after strokes with ⟨hmark, hblank, hrefused⟩ | ⟨hnone, hnot⟩
  · refine ⟨?_, fun failure hf => ?_, fun hdraft => ?_, fun draft hdraft ht => ?_,
      fun draft => exists_opening⟩
    · refine iff_of_true (by rw [hmark]; rfl) ⟨?_, hrefused⟩
      exact Option.isSome_iff_ne_none.mpr hblank.draft?_ne_none
    · rw [hmark] at hf
      exact ⟨(Option.some.inj hf).symm, hblank⟩
    · exact absurd hdraft hblank.draft?_ne_none
    · obtain ⟨draft', hdraft', ht'⟩ := hblank
      rw [hdraft] at hdraft'
      obtain rfl : draft = draft' := Option.some.inj hdraft'
      exact absurd ht' (checkRuleText_eq_ok_iff.mp ht)
  · refine ⟨?_, fun failure hf => ?_, fun _ => hnone, fun _ _ _ => hnone,
      fun draft => exists_opening⟩
    · refine iff_of_false (by rw [hnone]; exact Bool.false_ne_true) ?_
      rintro ⟨hdraft, hrefused⟩
      exact hnot (Option.isSome_iff_ne_none.mp hdraft) hrefused
    · rw [hnone] at hf
      cases hf

end Rulebook.Editor
