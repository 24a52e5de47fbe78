import Rulebook.Proofs.Json.Agreement
import Rulebook.Proofs.Rule.Members

/-!
# Which values are rules

A value is a rule (`Rulebook.Rule.Written`) if it is an object that describes one, or an array of
its members in order, of which the status can be left out. The reader of rules goes by this with
every text that has a value (`Rulebook.Rule.agrees_read`), and so does the reader of lists with each
of their elements (`Rulebook.Rule.agrees_readList`).
-/

namespace Rulebook.Rule

open Json

variable {depth : Nat} {cs rest : List Char} {v : Value} {vs : List Value} {r : Rule}
  {rules : List Rule}

/-- **A value is a rule**, in one of the two ways to write one. -/
inductive Written : Value → Rule → Prop
  | object {ms : List Member} {r : Rule} (h : Describes ms r) : Written (.object ms) r
  | array (id text : String) (enabled : Bool) :
      Written (.array [.string id, .string text, .bool enabled]) ⟨⟨id⟩, text, enabled⟩
  | enabled (id text : String) : Written (.array [.string id, .string text]) ⟨⟨id⟩, text, true⟩

/-- The rule that a value is. -/
def ofValue? (v : Value) : Option Rule := (shape.ofValue? v).bind ofFilled

/-- The rules that a value lists. -/
def ofList? : Value → Option (List Rule)
  | .array vs => vs.mapM ofValue?
  | _ => none

theorem ofArray?_eq_some_iff : ofValue? (.array vs) = some r ↔ Written (.array vs) r := by
  constructor
  · intro h
    obtain ⟨filled, hfill, hr⟩ := Option.bind_eq_some_iff.mp h
    rcases Shape.fillInOrder_eq_some_iff.mp hfill with
      _ | ⟨⟨⟩, -⟩ | ⟨hid, _ | ⟨⟨⟩, -⟩ | ⟨htext, hstatus⟩⟩
    obtain ⟨id, rfl, rfl⟩ := Slot.item?_text_eq_some_iff.mp hid
    obtain ⟨text, rfl, rfl⟩ := Slot.item?_text_eq_some_iff.mp htext
    -- the status may be left out
    rcases hstatus with _ | ⟨-, ⟨⟩⟩ | ⟨hflag, ⟨⟩⟩
    · cases hr
      exact .enabled id text
    · obtain ⟨enabled, rfl, rfl⟩ := Slot.item?_flag_eq_some_iff.mp hflag
      cases hr
      exact .array id text enabled
  · intro h
    cases h <;> rfl

theorem ofValue?_eq_some_iff : ofValue? v = some r ↔ Written v r := by
  cases v with
  | object ms =>
    have hmembers : ofValue? (.object ms) = some r ↔ Describes ms r := ofMembers?_eq_some_iff
    refine hmembers.trans ⟨.object, fun h => ?_⟩
    cases h with
    | object h => exact h
  | array vs => exact ofArray?_eq_some_iff
  | _ => exact iff_of_false (by rintro ⟨⟩) (by rintro ⟨⟩)

theorem ofList?_eq_some_iff :
    ofList? v = some rules ↔ ∃ vs, v = .array vs ∧ List.Forall₂ Written vs rules := by
  cases v with
  | array vs =>
    simp only [ofList?, mapM_eq_some_iff, ofValue?_eq_some_iff, Value.array.injEq,
      exists_eq_left']
  | _ => exact iff_of_false (by rintro ⟨⟩) (by rintro ⟨vs, ⟨⟩, -⟩)

/-! ### The readers -/

/-- **A rule is read where a value is**, if it is one. -/
theorem agrees_read : Agrees (depth + 1) (Rule.read (depth + 1)) ofValue? := by
  refine (Shape.agrees_read shape depth).bind ofFilled (fun filled rest => ?_) fun v => rfl
  dsimp only
  cases ofFilled filled <;> rfl

/-- **A list of rules is read where a value is**, if all its elements are rules. -/
theorem agrees_readList : Agrees maxDepth readList ofList? where
  reads {cs v rest} hv := by
    have horigin := origin_of_readValue hv
    cases v with
    | array vs =>
      obtain ⟨less, cs', mid, hdepth, hcs, hvs, hclose⟩ := horigin.of_array
      obtain rfl : less = 126 := (Nat.succ.inj hdepth).symm
      have hrules : (readElements (Rule.read (maxDepth - 1)) cs').toOption =
          (vs.mapM ofValue?).map (·, mid) :=
        toOption_readElementsLoop_of_agrees agrees_read hvs
      rw [readList, hcs]
      simp only [toOption_bind, hrules, ofList?]
      cases vs.mapM ofValue? with
      | none => rfl
      | some rules =>
        simp only [Option.map_some, Option.bind_some, hclose]
        rfl
    | _ =>
      rw [readList]
      split
      · exact absurd ‹_› (horigin.ne_bracket (by rintro _ ⟨⟩) _)
      · rfl
  spans {cs rules rest} h := by
    rw [readList] at h
    split at h
    · rename_i cs' hcs
      obtain ⟨⟨rules', mid⟩, hrules, h⟩ := bind_eq_ok_iff.mp h
      obtain ⟨rest', hclose, heq⟩ := bind_eq_ok_iff.mp h
      cases heq
      exact spans_of_readElementsLoop agrees_read.spans hrules hclose cs hcs
    · cases h

end Rulebook.Rule
