import Mathlib.Data.List.Forall2
import Rulebook.Evaluation
import Rulebook.Proofs.Json.Nesting
import Rulebook.Proofs.Rule.Members

/-!
# Models on the wire

Rules and outcomes travel as JSON, and nothing of them is lost on the way
(`Rulebook.models_read_back`). For rules this holds without a condition: an identifier and a
text may be anything, and the three members of a rule are all that is written.

An outcome shares one object with its details, so what keeps the two apart is the name
`result`, which no detail may have. It is shown in both directions: an outcome whose details
keep to that is read back, and one that was read from any text keeps to it, since the loop takes
every member of this name for the result (`Rulebook.Outcome.details_of_readMembersLoop`).
The nesting of an outcome that was read is no matter either: it was read inside an object, and
it is written inside one again.
-/

namespace Rulebook

open Json

/-! ### Rules -/

namespace Rule

/-- The members that a rule is written with. -/
def members (r : Rule) : List Member :=
  [("_id", .string r.id.text), ("rule_string", .string r.text), ("status", .bool r.enabled)]

theorem ofMembers?_members (r : Rule) : ofMembers? r.members = some r := rfl

/-- **The text of a list of rules spells the list.** -/
theorem spells_readList (rules : List Rule) :
    Spells readList rules (writeCompact (.array (rules.map toJson))) := by
  have hread := decides_readList (rules.map members)
  have hrules : (rules.map members).mapM ofMembers? = some rules := by
    rw [mapM_eq_some_iff, List.forall₂_map_left_iff, List.forall₂_same]
    exact fun r _ => ofMembers?_members r
  rw [hrules, List.map_map] at hread
  exact decides_some_iff.mp hread

end Rule

/-! ### Outcomes -/

namespace Outcome

variable {depth fuel : Nat} {first : Bool} {result result' : Option Bool} {cs rest : List Char}
  {ms : List Member} {o : Outcome} {t : String}

/-- Members of other names than `result` are the details, as they would be read anywhere. -/
theorem readMembersLoop_of_members
    (h : Json.readMembersLoop (readValue depth) fuel first cs = .ok (ms, rest))
    (hms : ∀ m ∈ ms, m.1 ≠ "result") :
    readMembersLoop depth fuel first result cs = .ok ((result, ms), rest) := by
  induction fuel generalizing first cs ms with
  | zero => cases h
  | succ fuel ih =>
    rw [Json.readMembersLoop, bind_eq_ok_iff] at h
    obtain ⟨⟨key?, cs'⟩, hkey, h⟩ := h
    rw [readMembersLoop, hkey]
    cases key? with
    | none =>
      cases h
      rfl
    | some k =>
      obtain ⟨cs₁, hcolon, h⟩ := bind_eq_ok_iff.mp h
      obtain ⟨⟨v, cs₂⟩, hv, h⟩ := bind_eq_ok_iff.mp h
      obtain ⟨⟨ms', cs₃⟩, hms', h⟩ := bind_eq_ok_iff.mp h
      cases h
      rw [List.forall_mem_cons] at hms
      simp only [ok_bind, if_neg hms.1, hcolon, hv, ih hms' hms.2]

/-- **No detail that was read is called `result`**, or is nested deeper than the reader may
go. -/
theorem details_of_readMembersLoop
    (h : readMembersLoop depth fuel first result cs = .ok ((result', ms), rest)) :
    ∀ m ∈ ms, m.1 ≠ "result" ∧ m.2.Nested depth := by
  induction fuel generalizing first result cs ms with
  | zero => cases h
  | succ fuel ih =>
    rw [readMembersLoop, bind_eq_ok_iff] at h
    obtain ⟨⟨key?, cs'⟩, -, h⟩ := h
    cases key? with
    | none =>
      cases h
      exact fun m hm => absurd hm List.not_mem_nil
    | some k =>
      by_cases hk : k = "result"
      · -- the member is the result, and the details are those of the members behind it
        simp only [if_pos hk] at h
        split at h
        · cases h
        · obtain ⟨cs₁, -, h⟩ := bind_eq_ok_iff.mp h
          obtain ⟨⟨b, cs₂⟩, -, h⟩ := bind_eq_ok_iff.mp h
          exact ih h
      · simp only [if_neg hk] at h
        obtain ⟨cs₁, -, h⟩ := bind_eq_ok_iff.mp h
        obtain ⟨⟨v, cs₂⟩, hv, h⟩ := bind_eq_ok_iff.mp h
        obtain ⟨⟨⟨result₁, ms'⟩, cs₃⟩, hms', h⟩ := bind_eq_ok_iff.mp h
        cases h
        exact List.forall_mem_cons.mpr ⟨⟨hk, nested_of_readValue hv⟩, ih hms'⟩

/-- The member that is called `result` is the result, if there was none before. -/
theorem readMembersLoop_result {b : Bool} {value : List Char}
    (hkey : nextKey first cs = .ok (some "result", ':' :: value))
    (hflag : readFlagItem value = .ok (b, rest)) :
    readMembersLoop depth (fuel + 1) first none cs =
      readMembersLoop depth fuel false (some b) rest := by
  rw [readMembersLoop, hkey]
  simp [ok_bind, readColon_colon, hflag]

/-- **The text of an outcome spells the outcome**, with its details settled. -/
theorem spells_read (ho : ∀ m ∈ o.details, m.1 ≠ "result" ∧ m.2.Exact depth) :
    Spells (Outcome.read (depth + 1))
      ⟨o.passed, settleMembers (Value.settledMembers o.details)⟩ (writeCompact o.toJson) := by
  have hfollow : MembersFollow (readValue depth) o.details (writeCompactMembers o.details) :=
    membersFollow_compact fun m hm => spells_compact (ho m hm).2
  refine ⟨⟨'{', _, rfl, rfl, by decide⟩, ?_⟩
  intro g rest hg _
  -- the result is written first, and the loop goes on with the details as it would anywhere
  have hkey := nextKey_first gap_nil "result"
    (':' :: (writeCompact (.bool o.passed) ++ (writeCompactMembers o.details ++ rest)))
  have hflag := (spells_flagItem o.passed).reads gap_nil (hfollow.ends rest)
  have hdetails (fuel : Nat) (hfuel : o.details.length < fuel) :
      readMembersLoop depth fuel false (some o.passed) (writeCompactMembers o.details ++ rest) =
        .ok ((some o.passed, o.details), '}' :: rest) :=
    readMembersLoop_of_members (hfollow.reads fuel rest hfuel) fun m hm => (ho m hm).1
  rw [List.nil_append] at hkey hflag
  rw [Outcome.read, skipSpace_gap hg, toJson, writeCompact]
  simp only [List.cons_append, List.append_assoc]
  rw [skipSpace_cons rfl]
  simp only [Nat.add_one_ne_zero, if_false, Nat.add_sub_cancel]
  rw [readMembersLoop_result hkey hflag, hdetails]
  · simp only [ok_bind, closeObject_brace]
  · have hlength := hfollow.length
    simp only [List.length_append, List.length_cons]
    omega

/-- **What was read of an outcome is in order**, and fit to be written: no detail is called
`result`, and none is nested too deep. -/
theorem details_of_read (h : Outcome.read (depth + 1) cs = .ok (o, rest)) :
    (Value.object o.details).Ordered ∧ ∀ m ∈ o.details, m.1 ≠ "result" ∧ m.2.Nested depth := by
  rw [Outcome.read] at h
  split at h
  · simp only [Nat.add_one_ne_zero, if_false, Nat.add_sub_cancel] at h
    obtain ⟨⟨⟨result, ms⟩, cs₁⟩, hms, h⟩ := bind_eq_ok_iff.mp h
    cases result with
    | none => cases h
    | some passed =>
      obtain ⟨cs₂, -, h⟩ := bind_eq_ok_iff.mp h
      cases h
      refine ⟨(Value.object ms).ordered_settled, fun m hm => ?_⟩
      rw [Value.settledMembers_eq_map] at hm
      obtain ⟨n, hn, rfl⟩ := List.mem_map.mp (mem_of_mem_settleMembers hm)
      have hread := details_of_readMembersLoop hms n hn
      exact ⟨hread.1, hread.2.settled⟩
  · cases h

end Outcome

/-! ### Both ways -/

namespace Outcome

/-- The text of an outcome says the outcome. -/
theorem parse_compact {o : Outcome} (hord : (Value.object o.details).Ordered)
    (ho : ∀ m ∈ o.details, m.1 ≠ "result" ∧ m.2.Exact 126) :
    Outcome.parse o.toJson.compact = .ok o := by
  have hsettled : settleMembers (Value.settledMembers o.details) = o.details :=
    Value.object.inj hord.settled_eq
  have hread := spells_read ho
  rw [hsettled] at hread
  refine readAll_of_spells ?_
  rw [Value.compact, String.toList_ofList]
  exact hread

end Outcome

/-- **Models are read back from the way they are written.**

* A list of rules is, whatever their identifiers and texts are.
* An outcome is if its details are in order, none of them is called `result`, all their numbers
  are integers in range, and they are nested at most 126 deep.
* What is read as an outcome from any text has details that are in order and not called
  `result`, and is read again from the way it is written if their numbers are integers in
  range. -/
theorem models_read_back :
    (∀ rules : List Rule,
      Rule.parseList (Value.array (rules.map Rule.toJson)).compact = .ok rules) ∧
    (∀ o : Outcome, (Value.object o.details).Ordered →
      (∀ m ∈ o.details, m.1 ≠ "result" ∧ m.2.Exact 126) →
      Outcome.parse o.toJson.compact = .ok o) ∧
    (∀ (t : String) (o : Outcome), Outcome.parse t = .ok o →
      (Value.object o.details).Ordered ∧ (∀ m ∈ o.details, m.1 ≠ "result") ∧
      ((∀ m ∈ o.details, m.2.Integral) → Outcome.parse o.toJson.compact = .ok o)) := by
  refine ⟨fun rules => ?_, fun o => Outcome.parse_compact, fun t o h => ?_⟩
  · have hlist : Spells Rule.readList rules
        (Value.array (rules.map Rule.toJson)).compact.toList := by
      rw [Value.compact, String.toList_ofList]
      exact Rule.spells_readList rules
    exact readAll_of_spells hlist
  · obtain ⟨rest, hread⟩ := exists_of_readAll h
    obtain ⟨hord, hdetails⟩ := Outcome.details_of_read hread
    refine ⟨hord, fun m hm => (hdetails m hm).1, fun hintegral => ?_⟩
    refine Outcome.parse_compact hord fun m hm => ⟨(hdetails m hm).1, ?_⟩
    exact exact_of_nested (hdetails m hm).2 (hintegral m hm)

/-- Rules with texts that need escapes, and with empty ones. -/
def sampleRules : List Rule :=
  [⟨⟨"\"\\\x00"⟩, "规则 > 1\n", false⟩, ⟨⟨""⟩, "", true⟩]

/-- An outcome in order. -/
def sampleOutcome : Outcome :=
  ⟨true, [("ab", .array [.integer (-7), .null]), ("z", .object [("\x7b", .string "\x01")])]⟩

/-- The same outcome as someone else may write it: with spaces, the result in the middle, the
details in another order, one of them twice and one with an escape in its name. -/
def foreignText : String :=
  "\x7b\"z\": 0, \"result\" :true,\n\"a\\u0062\":[-7, null],\"z\":\x7b\"\x7b\":\"\\u0001\"\x7d\x7d "

theorem models_read_back_foreign :
    Rule.parseList (Value.array (sampleRules.map Rule.toJson)).compact = .ok sampleRules ∧
    (Value.object sampleOutcome.details).Ordered ∧
    (∀ m ∈ sampleOutcome.details, m.1 ≠ "result" ∧ m.2.Exact 126) ∧
    Outcome.parse foreignText = .ok sampleOutcome ∧
    Outcome.parse sampleOutcome.toJson.compact = .ok sampleOutcome := by
  have hord : (Value.object sampleOutcome.details).Ordered := by
    have hinner : Increasing [("\x7b", Value.string "\x01")] := by decide
    rw [Value.ordered_object_iff]
    exact ⟨by decide, by simp [sampleOutcome, hinner]⟩
  have hexact : ∀ m ∈ sampleOutcome.details, m.1 ≠ "result" ∧ m.2.Exact 126 := by
    simp [sampleOutcome, InIntegerRange]
  have hforeign : Outcome.parse foreignText = .ok sampleOutcome :=
    toOption_eq_some_iff.mp (by decide +kernel)
  have hagain : Outcome.parse sampleOutcome.toJson.compact = .ok sampleOutcome :=
    (models_read_back.2.2 _ _ hforeign).2.2 fun m hm => (exact_iff.mp (hexact m hm).2).2
  exact ⟨models_read_back.1 _, hord, hexact, hforeign, hagain⟩

end Rulebook
