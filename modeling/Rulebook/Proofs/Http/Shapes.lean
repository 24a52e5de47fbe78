import Rulebook.Http.Message
import Rulebook.Proofs.Outcome
import Rulebook.Proofs.Rule.Reading

/-!
# The shapes of answers

Five of the calls are answered in the body of the response, each in a shape of its own, and here the
shapes are written down in terms of the value in the body (`Rulebook.Http.Fits`): which members it
must have, and what is taken from them. The readers go by this. From a body that has a value they
read exactly the answers that the value fits (`Rulebook.Http.readAnswer_eq_ok_iff`), and from a body
that is no JSON they read nothing (`Rulebook.Http.legible_of_readAnswer`).

In between are bodies that have no value although they look like one: what is passed over may be
nested too deep, or hold a number out of range. Such a body may still be read, but only in the three
shapes that pass over anything (`Rulebook.Http.Legible`).
-/

namespace Rulebook.Http

open Json

variable {c : Call} {a : Answer} {b submitted : String} {ms : List Member} {vs : List Value}
  {v w : Value} {rule : Rule} {shape : Shape} {slot : Slot} {filled : Filled}

/-! ### Shapes -/

/-- **A value holds another one alone**: it is an object with a single member of the given name, or
an array of this value only. -/
inductive Sole (name : String) : Value → Value → Prop
  | object {ms : List Member} {w : Value} (h : valuesOf [name] ms = [w]) : Sole name (.object ms) w
  | array (w : Value) : Sole name (.array [w]) w

/-- **The rule that members answer a creation with**, or nothing. -/
inductive Answers (ms : List Member) (submitted : String) : Option Rule → Prop
  | entity {rule : Rule} (h : Rule.Describes ms rule) : Answers ms submitted (some rule)
  | acknowledged {id : String} (hno : ∀ rule, ¬Rule.Describes ms rule)
      (hid : valuesOf ["rule_id"] ms = [.string id]) :
      Answers ms submitted (some ⟨⟨id⟩, submitted, true⟩)
  | unread (hno : ∀ rule, ¬Rule.Describes ms rule)
      (hid : ∀ id, valuesOf ["rule_id"] ms ≠ [.string id]) : Answers ms submitted none

/-- **A value fits a call as an answer to it**:

* a list of rules is an array of them;
* a creation is answered by an object, with the rule or with an identifier, or by a rule that is
  written as an array;
* a switch is answered by the new status, and a combination by the tree, each of them alone;
* an evaluation is answered by an outcome. -/
inductive Fits : Call → Value → Answer → Prop
  | rules {vs : List Value} {rules : List Rule} (h : List.Forall₂ Rule.Written vs rules) :
      Fits .listRules (.array vs) (.rules rules)
  | created {submitted : String} {ms : List Member} {rule : Rule}
      (h : Answers ms submitted (some rule)) :
      Fits (.createRule submitted) (.object ms) (.rule rule)
  | createdInOrder {submitted : String} {vs : List Value} {rule : Rule}
      (h : Rule.Written (.array vs) rule) : Fits (.createRule submitted) (.array vs) (.rule rule)
  | status {x : RuleId} {v : Value} {enabled : Bool} (h : Sole "new_status" v (.bool enabled)) :
      Fits (.toggleStatus x) v (.status enabled)
  | outcome {e : Evaluation} {v : Value} {o : Outcome} (h : Outcome.Written v o) :
      Fits (.evaluateRule e) v (.outcome o)
  | tree {xs : List RuleId} {v tree : Value} (h : Sole "combined_ast" v tree) :
      Fits (.combineRules xs) v (.value tree.settled)

/-- **Whether a body can be read at all** as the answer to a call. The rule that was created and an
outcome are read from a value, and the others from whatever is JSON. -/
def Legible : Call → String → Prop
  | .createRule _, b => ∃ v, parseWritten b = .ok v
  | .evaluateRule _, b => ∃ v, parseWritten b = .ok v
  | _, b => Outlined b

/-- **A call that is not answered in the body**: the status says all. -/
inductive Bodiless : Call → Prop
  | delete (x : RuleId) : Bodiless (.deleteRule x)
  | update (x : RuleId) (text : String) : Bodiless (.updateRule x text)

theorem answersInBody_eq_false_iff : answersInBody c = false ↔ Bodiless c := by
  cases c with
  | deleteRule x => exact iff_of_true rfl (.delete x)
  | updateRule x text => exact iff_of_true rfl (.update x text)
  | _ => exact iff_of_false (by rintro ⟨⟩) (by rintro ⟨⟩)

/-! ### Records with one member -/

theorem ofValue?_eq_some_iff_sole {name : String} {kind : Kind}
    (hslots : shape.slots = [⟨name, [], kind, false⟩]) :
    shape.ofValue? v = some filled ↔
      ∃ w item, Sole name v w ∧ kind.item? w = some item ∧ filled = [some item] := by
  have hd : shape.Distinct := by
    rw [Shape.Distinct, hslots]
    exact List.pairwise_singleton _ _
  cases v with
  | object ms =>
    rw [Shape.ofValue?, Shape.fill_eq_some_iff hd, hslots]
    constructor
    · rintro (_ | ⟨⟨-, ⟨⟩⟩ | ⟨hvalues, hitem⟩, ⟨⟩⟩)
      exact ⟨_, _, .object hvalues, hitem, rfl⟩
    · rintro ⟨w, item, ⟨hvalues⟩, hitem, rfl⟩
      exact .cons (.item hvalues hitem) .nil
  | array vs =>
    rw [Shape.ofValue?, hslots, Shape.fillInOrder_eq_some_iff]
    constructor
    · rintro (_ | ⟨⟨⟩, -⟩ | ⟨hitem, ⟨⟩⟩)
      exact ⟨_, _, .array _, hitem, rfl⟩
    · rintro ⟨w, item, ⟨⟩, hitem, rfl⟩
      exact .item hitem .nil
  | _ => exact iff_of_false (by rintro ⟨⟩) (by rintro ⟨w, item, ⟨⟩, -⟩)

/-- The truth value that a record with one member holds. -/
def onlyFlag? : Filled → Option Bool
  | [some (.flag b)] => some b
  | _ => none

/-- The value that a record with one member holds. -/
def onlyValue? : Filled → Option Value
  | [some (.value w)] => some w
  | _ => none

/-- The new status that a value says. -/
def toggled? (v : Value) : Option Bool := (toggleShape.ofValue? v).bind onlyFlag?

/-- The tree that a value says. -/
def combined? (v : Value) : Option Value :=
  (combineShape.ofValue? v).bind fun filled => (onlyValue? filled).map Value.settled

theorem toggled?_eq_some_iff {enabled : Bool} :
    toggled? v = some enabled ↔ Sole "new_status" v (.bool enabled) := by
  rw [toggled?, Option.bind_eq_some_iff]
  constructor
  · rintro ⟨filled, hfill, hflag⟩
    obtain ⟨w, item, hsole, hitem, rfl⟩ := (ofValue?_eq_some_iff_sole rfl).mp hfill
    obtain ⟨b, rfl, rfl⟩ := Slot.item?_flag_eq_some_iff.mp hitem
    cases hflag
    exact hsole
  · intro h
    exact ⟨_, (ofValue?_eq_some_iff_sole rfl).mpr ⟨_, _, h, rfl, rfl⟩, rfl⟩

theorem combined?_eq_some_iff :
    combined? v = some w ↔ ∃ tree, Sole "combined_ast" v tree ∧ w = tree.settled := by
  rw [combined?, Option.bind_eq_some_iff]
  constructor
  · rintro ⟨filled, hfill, htree⟩
    obtain ⟨tree, item, hsole, hitem, rfl⟩ := (ofValue?_eq_some_iff_sole rfl).mp hfill
    obtain rfl : Item.value tree = item := by cases tree <;> exact Option.some.inj hitem
    cases htree
    exact ⟨tree, hsole, rfl⟩
  · rintro ⟨tree, hsole, rfl⟩
    have hitem : Kind.anything.item? tree = some (.value tree) := by cases tree <;> rfl
    exact ⟨_, (ofValue?_eq_some_iff_sole rfl).mpr ⟨_, _, hsole, hitem, rfl⟩, rfl⟩

/-! ### Creations -/

theorem acknowledged?_eq_some_iff {x : RuleId} :
    acknowledged? (.object ms) = some x ↔ valuesOf ["rule_id"] ms = [.string x.text] := by
  have hshape {filled : Filled} : acknowledgement.ofValue? (.object ms) = some filled ↔
      ∃ id, valuesOf ["rule_id"] ms = [.string id] ∧ filled = [some (.text id)] := by
    rw [ofValue?_eq_some_iff_sole rfl]
    constructor
    · rintro ⟨w, item, ⟨hvalues⟩, hitem, rfl⟩
      obtain ⟨id, rfl, rfl⟩ := Slot.item?_text_eq_some_iff.mp hitem
      exact ⟨id, hvalues, rfl⟩
    · rintro ⟨id, hvalues, rfl⟩
      exact ⟨_, _, .object hvalues, rfl, rfl⟩
  rw [acknowledged?]
  constructor
  · intro h
    split at h
    · rename_i id hack
      obtain ⟨id', hid, heq⟩ := hshape.mp hack
      cases heq
      cases h
      exact hid
    · cases h
  · intro h
    rw [hshape.mpr ⟨x.text, h, rfl⟩]

/-- **Every object answers** in one of three ways. -/
theorem answers_createdRule? (ms : List Member) (submitted : String) :
    Answers ms submitted (createdRule? submitted (.object ms)) := by
  have hmembers : (Rule.shape.ofValue? (.object ms)).bind Rule.ofFilled = Rule.ofMembers? ms := rfl
  rw [createdRule?, hmembers]
  cases hrule : Rule.ofMembers? ms with
  | some rule => exact .entity (Rule.ofMembers?_eq_some_iff.mp hrule)
  | none =>
    have hno (rule : Rule) (h : Rule.Describes ms rule) : False := by
      cases hrule.symm.trans (Rule.ofMembers?_eq_some_iff.mpr h)
    cases hack : acknowledged? (.object ms) with
    | none =>
      refine .unread hno fun id hid => ?_
      cases hack.symm.trans ((acknowledged?_eq_some_iff (x := ⟨id⟩)).mpr hid)
    | some x => exact .acknowledged hno (acknowledged?_eq_some_iff.mp hack)

theorem Answers.unique {rule? rule?' : Option Rule} (h : Answers ms submitted rule?)
    (h' : Answers ms submitted rule?') : rule? = rule?' := by
  cases h with
  | entity h =>
    cases h' with
    | entity h' =>
      rw [← Rule.ofMembers?_eq_some_iff] at h h'
      exact h.symm.trans h'
    | acknowledged hno _ => exact absurd h (hno _)
    | unread hno _ => exact absurd h (hno _)
  | acknowledged hno hid =>
    cases h' with
    | entity h' => exact absurd h' (hno _)
    | acknowledged _ hid' =>
      cases hid.symm.trans hid'
      rfl
    | unread _ hid' => exact absurd hid (hid' _)
  | unread hno hid =>
    cases h' with
    | entity h' => exact absurd h' (hno _)
    | acknowledged _ hid' => exact absurd hid' (hid _)
    | unread _ _ => rfl

theorem createdRule?_array : createdRule? submitted (.array vs) = some rule ↔
    Rule.Written (.array vs) rule := by
  have hrule : createdRule? submitted (.array vs) = Rule.ofValue? (.array vs) := by
    rw [createdRule?, Rule.ofValue?]
    split
    · exact Eq.symm ‹_›
    · exact Eq.symm ‹_›
  rw [hrule, Rule.ofValue?_eq_some_iff]

theorem fits_createRule_iff :
    Fits (.createRule submitted) v (.rule rule) ↔ createdRule? submitted v = some rule := by
  cases v with
  | object ms =>
    constructor
    · intro h
      cases h with
      | created h => exact (answers_createdRule? ms submitted).unique h
    · intro h
      exact .created (h ▸ answers_createdRule? ms submitted)
  | array vs =>
    rw [createdRule?_array]
    constructor
    · intro h
      cases h with
      | createdInOrder h => exact h
    · exact .createdInOrder
  | _ => exact iff_of_false (by rintro ⟨⟩) (by rintro ⟨⟩)

/-! ### The readers -/

theorem agrees_readCreated : Agrees maxDepth (readCreated submitted) (createdRule? submitted) := by
  refine agrees_value.bind (createdRule? submitted) (fun v rest => ?_) fun v => rfl
  dsimp only
  cases createdRule? submitted v <;> rfl

theorem agrees_readToggle : Agrees maxDepth readToggle toggled? := by
  refine Agrees.bind (Shape.agrees_read _ 126) onlyFlag? (fun filled rest => ?_) fun v => rfl
  split
  · rename_i heq
    cases heq
    rfl
  · rename_i hother heq
    cases heq
    rw [onlyFlag?.eq_2 _ hother]
    rfl

theorem agrees_readCombined : Agrees maxDepth readCombined combined? := by
  refine Agrees.bind (Shape.agrees_read _ 126)
    (fun filled => (onlyValue? filled).map Value.settled) (fun filled rest => ?_) fun v => rfl
  split
  · rename_i heq
    cases heq
    rfl
  · rename_i hother heq
    cases heq
    rw [onlyValue?.eq_2 _ hother]
    rfl

/-! ### The answers -/

/-- **A body that has a value says the answers that the value fits.** -/
theorem readAnswer_eq_ok_iff (hc : ¬Bodiless c) (hv : parseWritten b = .ok v) :
    readAnswer c b = .ok a ↔ Fits c v a := by
  cases c with
  | listRules =>
    rw [readAnswer, map_eq_ok_iff]
    simp only [Rule.parseList, Rule.agrees_readList.readAll_eq_ok_iff hv, Rule.ofList?_eq_some_iff]
    constructor
    · rintro ⟨rules, ⟨vs, rfl, h⟩, rfl⟩
      exact .rules h
    · intro h
      cases h with
      | rules h => exact ⟨_, ⟨_, rfl, h⟩, rfl⟩
  | createRule submitted =>
    rw [readAnswer, map_eq_ok_iff]
    simp only [agrees_readCreated.readAll_eq_ok_iff hv, ← fits_createRule_iff]
    constructor
    · rintro ⟨rule, h, rfl⟩
      exact h
    · intro h
      cases h with
      | created h => exact ⟨_, .created h, rfl⟩
      | createdInOrder h => exact ⟨_, .createdInOrder h, rfl⟩
  | deleteRule x => exact absurd (.delete x) hc
  | toggleStatus x =>
    rw [readAnswer, map_eq_ok_iff]
    simp only [agrees_readToggle.readAll_eq_ok_iff hv, toggled?_eq_some_iff]
    constructor
    · rintro ⟨enabled, h, rfl⟩
      exact .status h
    · intro h
      cases h with
      | status h => exact ⟨_, h, rfl⟩
  | updateRule x text => exact absurd (.update x text) hc
  | evaluateRule e =>
    rw [readAnswer, map_eq_ok_iff]
    have hagrees : Agrees maxDepth (Outcome.read maxDepth) Outcome.ofValue? := Outcome.agrees_read
    simp only [Outcome.parse, hagrees.readAll_eq_ok_iff hv, Outcome.ofValue?_eq_some_iff]
    constructor
    · rintro ⟨o, h, rfl⟩
      exact .outcome h
    · intro h
      cases h with
      | outcome h => exact ⟨_, h, rfl⟩
  | combineRules xs =>
    rw [readAnswer, map_eq_ok_iff]
    simp only [agrees_readCombined.readAll_eq_ok_iff hv, combined?_eq_some_iff]
    constructor
    · rintro ⟨w, ⟨tree, h, rfl⟩, rfl⟩
      exact .tree h
    · intro h
      cases h with
      | tree h => exact ⟨_, ⟨_, h, rfl⟩, rfl⟩

/-- **Nothing is read from a body that cannot be read at all.** -/
theorem legible_of_readAnswer (hc : ¬Bodiless c) (h : readAnswer c b = .ok a) : Legible c b := by
  cases c with
  | listRules =>
    obtain ⟨rules, hread, -⟩ := map_eq_ok_iff.mp h
    exact Rule.agrees_readList.outlined hread
  | createRule submitted =>
    obtain ⟨rule, hread, -⟩ := map_eq_ok_iff.mp h
    obtain ⟨rest, hcreated, hrest⟩ := readAll_eq_ok_iff.mp hread
    obtain ⟨⟨v, rest'⟩, hv, hrule⟩ := bind_eq_ok_iff.mp hcreated
    dsimp only at hrule
    split at hrule
    · cases hrule
      exact ⟨v, readAll_eq_ok_iff.mpr ⟨rest, hv, hrest⟩⟩
    · cases hrule
  | deleteRule x => exact absurd (.delete x) hc
  | toggleStatus x =>
    obtain ⟨enabled, hread, -⟩ := map_eq_ok_iff.mp h
    exact agrees_readToggle.outlined hread
  | updateRule x text => exact absurd (.update x text) hc
  | evaluateRule e =>
    obtain ⟨o, hread, -⟩ := map_eq_ok_iff.mp h
    obtain ⟨rest, ho, hrest⟩ := readAll_eq_ok_iff.mp hread
    obtain ⟨v, hv⟩ := Outcome.exists_value ho
    exact ⟨v, readAll_eq_ok_iff.mpr ⟨rest, hv, hrest⟩⟩
  | combineRules xs =>
    obtain ⟨tree, hread, -⟩ := map_eq_ok_iff.mp h
    exact agrees_readCombined.outlined hread

end Rulebook.Http
