import Rulebook.Proofs.Http.Verdict
import Rulebook.Proofs.Rule.Members

/-!
# What a creation is answered with

The answer to a creation is an object of one of two shapes, and a body may well fit both. It is
first taken for the rule itself, and only if its members do not describe one, for an
acknowledgement, which names nothing but the identifier (`Rulebook.Http.Answers`). So a member
`rule_id` makes no difference to a body that describes a rule, and what is wrong with the members of
a rule makes no difference to an acknowledgement.

What was submitted has a part in this only as the text of an acknowledged rule
(`Rulebook.Http.id_createdRule?`). Whether there is a rule, and under which identifier, is for the
service to say, and it is said in the body (`Rulebook.Http.mem_of_answers`).
-/

namespace Rulebook.Http

open Json

variable {ms : List Member} {submitted : String} {b : String} {v : Value} {rule : Rule}
  {rule? : Option Rule} {s : Nat} {r : Response} {others : Decoders}

/-! ### Identifiers -/

/-- An identifier that is answered is a text in the body. -/
theorem mem_of_answers (h : Answers ms submitted (some rule)) :
    ∃ k ∈ ["_id", "id", "rule_id"], (k, Value.string rule.id.text) ∈ ms := by
  have hmem {ns : List String} {s : String} (hns : ∀ k ∈ ns, k ∈ ["_id", "id", "rule_id"])
      (hv : valuesOf ns ms = [.string s]) :
      ∃ k ∈ ["_id", "id", "rule_id"], (k, Value.string s) ∈ ms := by
    obtain ⟨k, hk, hkv⟩ := mem_of_mem_valuesOf (hv ▸ List.mem_singleton_self (Value.string s))
    exact ⟨k, hns k hk, hkv⟩
  cases h with
  | entity h => exact hmem (by simp) h.id
  | acknowledged _ hid => exact hmem (by simp) hid

/-- **What was submitted has no part in the identifier.** -/
theorem id_createdRule? (submitted submitted' : String) (v : Value) :
    (createdRule? submitted v).map (·.id) = (createdRule? submitted' v).map (·.id) := by
  rw [createdRule?, createdRule?]
  split
  · rfl
  · cases acknowledged? v <;> rfl

/-! ### Replies -/

/-- **A success with a value in its body** brings the rule that the value answers with, and without
one it cannot be read. -/
theorem replyTo_createRule (submitted : String) (hs : 200 ≤ r.status ∧ r.status ≤ 299)
    (hcomplete : r.complete = true) (hbody : parseWritten (r.text others) = .ok v) :
    (∀ rule, createdRule? submitted v = some rule →
      replyTo others (.createRule submitted) r = .ok (.rule rule)) ∧
    (createdRule? submitted v = none → ∃ message,
      replyTo others (.createRule submitted) r =
        .error ⟨.createRule, .decode r.status message (r.text others)⟩) := by
  have hreply : replyTo others (.createRule submitted) r =
      ((readAll (readCreated submitted) (r.text others)).map .rule).mapError fun e =>
        ⟨.createRule, .decode r.status e.message (r.text others)⟩ := by
    simp only [replyTo, isSuccess_iff.mpr hs, hcomplete, answersInBody, readAnswer]
    rfl
  have hread {rule : Rule} : readAll (readCreated submitted) (r.text others) = .ok rule ↔
      createdRule? submitted v = some rule :=
    agrees_readCreated.readAll_eq_ok_iff hbody
  rw [hreply]
  refine ⟨fun rule hrule => ?_, fun hnone => ?_⟩
  · rw [hread.mpr hrule]
    rfl
  · cases hresult : readAll (readCreated submitted) (r.text others) with
    | ok rule => cases hnone.symm.trans (hread.mp hresult)
    | error e => exact ⟨e.message, rfl⟩

/-- **What members in the body of a success make of a creation.** -/
structure Creation (ms : List Member) (submitted : String) (s : Nat) (b : String)
    (id? : Option RuleId) (reply : Reply) : Prop where
  /-- A rule that the members describe is taken as it is. -/
  entity : ∀ rule, Rule.Describes ms rule → reply = .ok (.rule rule)
  /-- Otherwise an identifier alone stands for the rule that was submitted, enabled. -/
  acknowledged : (∀ rule, ¬Rule.Describes ms rule) →
    ∀ id, valuesOf ["rule_id"] ms = [.string id] → reply = .ok (.rule ⟨⟨id⟩, submitted, true⟩)
  /-- Without either the answer cannot be read, and the body is kept as it is. -/
  unread : (∀ rule, ¬Rule.Describes ms rule) →
    (∀ id, valuesOf ["rule_id"] ms ≠ [.string id]) →
      ∃ message, reply = .error ⟨.createRule, .decode s message b⟩
  /-- There is an identifier exactly if there is a rule, and then it is the identifier of it. -/
  identifier : ∀ x, id? = some x ↔ ∃ rule, reply = .ok (.rule rule) ∧ rule.id = x

theorem creation_of_answers {reply : Reply} (h : Answers ms submitted rule?)
    (hsome : ∀ rule, rule? = some rule → reply = .ok (.rule rule))
    (hnone : rule? = none → ∃ message, reply = .error ⟨.createRule, .decode s message b⟩) :
    Creation ms submitted s b (rule?.map (·.id)) reply := by
  have hidentifier (x : RuleId) :
      rule?.map (·.id) = some x ↔ ∃ rule, reply = .ok (.rule rule) ∧ rule.id = x := by
    rw [Option.map_eq_some_iff]
    refine exists_congr fun rule => and_congr_left fun _ => ⟨hsome rule, fun hreply => ?_⟩
    cases rule? with
    | none =>
      obtain ⟨message, herror⟩ := hnone rfl
      cases hreply.symm.trans herror
    | some rule' =>
      cases hreply.symm.trans (hsome rule' rfl)
      rfl
  cases h with
  | entity h =>
    refine ⟨fun rule hrule => ?_, fun hno => absurd h (hno _), fun hno => absurd h (hno _),
      hidentifier⟩
    -- members describe one rule at most
    rw [← Rule.ofMembers?_eq_some_iff] at h hrule
    exact hsome rule (h.symm.trans hrule)
  | acknowledged hno hid =>
    refine ⟨fun rule h => absurd h (hno rule), fun _ id hid' => ?_,
      fun _ hno' => absurd hid (hno' _), hidentifier⟩
    obtain rfl : _ = id := by simpa using hid.symm.trans hid'
    exact hsome _ rfl
  | unread hno hid =>
    exact ⟨fun rule h => absurd h (hno rule), fun _ id hid' => absurd hid' (hid id),
      fun _ _ => hnone rfl, hidentifier⟩

/-! ### The main result -/

/-- **What a creation is answered with.** To a body that is an object belongs an identifier, or
none. It is a text that the body holds as `_id`, `id` or `rule_id`. Whatever was submitted, and
wherever to, a response with this body and the status of a success makes of the creation what its
members say (`Rulebook.Http.Creation`): the rule that they describe, or the submitted one under this
identifier, or a failure that keeps the body. -/
theorem creation_answered (hbody : parseWritten b = .ok (.object ms)) :
    ∃ id? : Option RuleId,
      (∀ x ∈ id?, ∃ k ∈ ["_id", "id", "rule_id"], (k, Value.string x.text) ∈ ms) ∧
      ∀ (submitted : String) {σ : Type} (net : Network σ) (base : Url) (w : σ) (r : Response),
        response? net base (.createRule submitted) w = some r → r.complete = true →
        r.text net.others = b →
        200 ≤ r.status ∧ r.status ≤ 299 →
          Creation ms submitted r.status b id? (ask net base (.createRule submitted) w).1 := by
  refine ⟨(createdRule? "" (.object ms)).map (·.id), fun x hx => ?_,
    fun submitted σ net base w r hresponse hcomplete htext hs => ?_⟩
  · obtain ⟨rule, hrule, rfl⟩ := Option.map_eq_some_iff.mp hx
    exact mem_of_answers (hrule ▸ answers_createdRule? ms "")
  · subst htext
    rw [ask_of_response hresponse, id_createdRule? "" submitted]
    obtain ⟨hsome, hnone⟩ := replyTo_createRule submitted hs hcomplete hbody
    exact creation_of_answers (answers_createdRule? ms submitted) hsome hnone

/-- Members that acknowledge a creation, and among them members of a rule that describe none: the
identifier is there twice, under both of its names, and the status is no truth value. -/
def acknowledgingMembers : List Member :=
  [("id", .string "7"), ("rule_id", .string "9"), ("_id", .string "8"),
    ("rule_string", .string "x > 0"), ("status", .integer 1)]

/-- The body that has these members. -/
def acknowledgingBody : String := (Value.object acknowledgingMembers).compact

/-- The identifier that is acknowledged is taken with any text that was submitted. -/
theorem creation_answered_acknowledging :
    (ask (.bringing 201 acknowledgingBody) site (.createRule "年龄 > 18") ()).1 =
      .ok (.rule ⟨⟨"9"⟩, "年龄 > 18", true⟩) ∧
    (ask (.bringing 200 acknowledgingBody) site (.createRule "") ()).1 =
      .ok (.rule ⟨⟨"9"⟩, "", true⟩) := by
  have hbody : parseWritten acknowledgingBody = .ok (.object acknowledgingMembers) :=
    toOption_eq_some_iff.mp (by decide +kernel)
  obtain ⟨id?, -, hcreation⟩ := creation_answered hbody
  have hroutable (submitted : String) : (Call.createRule submitted).Routable := by
    rintro x suffix ⟨⟩
  have hresponse (s : Nat) (submitted : String) :
      response? (.bringing s acknowledgingBody) site (.createRule submitted) () =
        some ⟨s, none, Text.Utf8.encode acknowledgingBody, true⟩ := by
    -- where a rule is created does not depend on the rule
    have hreachable : reachable (target site (.createRule "")) = true := by decide +kernel
    exact response?_of_sendable rfl (hroutable submitted) ((reachable_target rfl _).mp hreachable)
      _ ()
  have htext (s : Nat) (others : Decoders) :
      (⟨s, none, Text.Utf8.encode acknowledgingBody, true⟩ : Response).text others =
        acknowledgingBody :=
    Response.Carries.text ⟨rfl, by rintro _ ⟨⟩, rfl, by decide⟩
  have hno (rule : Rule) : ¬Rule.Describes acknowledgingMembers rule := by
    intro h
    have hlength : 2 = 1 := congrArg List.length h.id
    cases hlength
  exact ⟨(hcreation _ _ _ _ _ (hresponse _ _) rfl (htext _ _) (by decide)).acknowledged hno "9" rfl,
    (hcreation _ _ _ _ _ (hresponse _ _) rfl (htext _ _) (by decide)).acknowledged hno "9" rfl⟩

end Rulebook.Http
