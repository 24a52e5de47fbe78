import Rulebook.Rule
import Rulebook.Proofs.Json.Record

/-!
# Which objects are rules

A rule is read from an object if the object describes it (`Rulebook.Rule.Describes`): one member
is called `_id` or `id` and one `rule_string`, both hold texts, and one at most is called `status`
and holds a truth value. Nothing else about the members matters, neither their order nor what
there is beside them. This is the whole format (`Rulebook.Rule.parse_object`), on both sides: what
does not describe a rule is refused, and one such object among others is enough to refuse a list.
-/

namespace Rulebook.Rule

open Json

variable {depth : Nat} {ms ms' : List Member} {mss : List (List Member)} {rules : List Rule}
  {r : Rule}

/-! ### Descriptions -/

/-- **Members describe a rule**: there is one identifier, one text and at most one status among
them, and each of these values is of its kind. -/
structure Describes (ms : List Member) (r : Rule) : Prop where
  id : valuesOf ["_id", "id"] ms = [.string r.id.text]
  text : valuesOf ["rule_string"] ms = [.string r.text]
  status : valuesOf ["status"] ms = [.bool r.enabled] ∨
    valuesOf ["status"] ms = [] ∧ r.enabled = true

/-- The rule that members are read as. -/
def ofMembers? (ms : List Member) : Option Rule := (shape.ofValue? (.object ms)).bind ofFilled

theorem distinct_shape : shape.Distinct := by decide

/-- **Members are read as a rule exactly if they describe it.** -/
theorem ofMembers?_eq_some_iff : ofMembers? ms = some r ↔ Describes ms r := by
  rw [ofMembers?, Option.bind_eq_some_iff]
  constructor
  · rintro ⟨filled, hfill, hr⟩
    rcases (Shape.fill_eq_some_iff distinct_shape).mp hfill with
      _ | ⟨hfirst, _ | ⟨hsecond, _ | ⟨hthird, ⟨⟩⟩⟩⟩
    obtain ⟨id, hid, rfl⟩ := Slot.holds_text_iff.mp hfirst
    obtain ⟨text, htext, rfl⟩ := Slot.holds_text_iff.mp hsecond
    rcases Slot.holds_flag_iff.mp hthird with ⟨enabled, hstatus, rfl⟩ | ⟨hstatus, rfl⟩
    · cases hr
      exact ⟨hid, htext, .inl hstatus⟩
    · cases hr
      exact ⟨hid, htext, .inr ⟨hstatus, rfl⟩⟩
  · rintro ⟨hid, htext, hstatus⟩
    obtain ⟨⟨id⟩, text, enabled⟩ := r
    have hfill {o : Option Item} (ho : Slot.Holds ⟨"status", [], .flag, true⟩ ms o) :
        shape.ofValue? (.object ms) = some [some (.text id), some (.text text), o] :=
      (Shape.fill_eq_some_iff distinct_shape).mpr <|
        .cons (Slot.holds_text_iff.mpr ⟨id, hid, rfl⟩) <|
        .cons (Slot.holds_text_iff.mpr ⟨text, htext, rfl⟩) <| .cons ho .nil
    rcases hstatus with hstatus | ⟨hstatus, rfl⟩
    · exact ⟨_, hfill (Slot.holds_flag_iff.mpr (.inl ⟨enabled, hstatus, rfl⟩)), rfl⟩
    · exact ⟨_, hfill (Slot.holds_flag_iff.mpr (.inr ⟨hstatus, rfl⟩)), rfl⟩

/-! ### Objects and lists of them -/

/-- A rule keeps no value as it is. -/
theorem keeps (m : Member) : shape.Keeps depth m := by
  intro i slot hfind hkind
  have hkinds : ∀ slot ∈ shape.slots, slot.kind ≠ .anything := by decide
  exact absurd hkind (hkinds slot (List.mem_of_getElem? (Shape.of_find?_eq_some hfind).1))

/-- **An object comes out as the rule that its members are read as.** -/
theorem decides_read (ms : List Member) :
    Decides (Rule.read (depth + 1)) (ofMembers? ms) (writeCompact (.object ms)) := by
  have hread : Decides (shape.read (depth + 1)) (shape.ofValue? (.object ms))
      (writeCompact (.object ms)) := Shape.decides_read fun m _ => keeps m
  refine ⟨hread.starts, fun hg hrest => ?_⟩
  rw [Rule.read, toOption_bind, hread.reads hg hrest, ofMembers?]
  cases shape.ofValue? (.object ms) with
  | none => rfl
  | some filled =>
    simp only [Option.map_some, Option.bind_some]
    cases ofFilled filled <;> rfl

/-- **An array of objects comes out as the rules that they are read as**, if each of them is. -/
theorem decides_readList (mss : List (List Member)) :
    Decides readList (mss.mapM ofMembers?) (writeCompact (.array (mss.map .object))) := by
  refine ⟨starts_compact _, fun {g rest} hg hrest => ?_⟩
  have helements : ∀ ms ∈ mss, Decides (Rule.read (maxDepth - 1)) (ofMembers? ms)
      (writeCompact (.object ms)) := fun ms _ => decides_read ms
  obtain ⟨cs, hcs, hread⟩ := toOption_readElements helements rest
  rw [readList, skipSpace_gap hg, hcs, skipSpace_cons rfl]
  change (readElements (Rule.read (maxDepth - 1)) cs >>= _).toOption = _
  rw [toOption_bind, hread]
  cases mss.mapM ofMembers? with
  | none => rfl
  | some rules =>
    simp only [Option.map_some, Option.bind_some, closeArray_bracket]
    rfl

/-! ### The format -/

/-- The members that belong to a rule. -/
def known (ms : List Member) : List Member :=
  ms.filter fun m => ["_id", "id", "rule_string", "status"].contains m.1

/-- **Order and other members make no difference** to what is described. -/
theorem Describes.of_perm (h : Describes ms r) (hperm : (known ms).Perm (known ms')) :
    Describes ms' r := by
  have hvalues (ns : List String) (hns : ∀ k ∈ ns, k ∈ ["_id", "id", "rule_string", "status"]) :
      (valuesOf ns ms').Perm (valuesOf ns ms) := by
    rw [← valuesOf_filter hns ms, ← valuesOf_filter hns ms']
    exact valuesOf_perm ns hperm.symm
  have hid := hvalues ["_id", "id"] (by simp)
  have htext := hvalues ["rule_string"] (by simp)
  have hstatus := hvalues ["status"] (by simp)
  rw [h.id, List.perm_singleton] at hid
  rw [h.text, List.perm_singleton] at htext
  refine ⟨hid, htext, h.status.imp (fun hv => ?_) fun ⟨hv, henabled⟩ => ⟨?_, henabled⟩⟩
  · rwa [hv, List.perm_singleton] at hstatus
  · rwa [hv, List.perm_nil] at hstatus

theorem parse_object_iff : Rule.parse (Value.object ms).compact = .ok r ↔ Describes ms r := by
  have hread : Decides (Rule.read maxDepth) (ofMembers? ms) (Value.object ms).compact.toList := by
    rw [Value.compact, String.toList_ofList]
    exact decides_read ms
  rw [Rule.parse, hread.readAll_eq_ok_iff, ofMembers?_eq_some_iff]

theorem parseList_objects_iff : Rule.parseList (Value.array (mss.map .object)).compact = .ok rules ↔
    List.Forall₂ Describes mss rules := by
  have hread : Decides readList (mss.mapM ofMembers?)
      (Value.array (mss.map .object)).compact.toList := by
    rw [Value.compact, String.toList_ofList]
    exact decides_readList mss
  rw [Rule.parseList, hread.readAll_eq_ok_iff, mapM_eq_some_iff]
  simp only [ofMembers?_eq_some_iff]

/-- **The format of rules.**

* The text of an object is read as a rule exactly if its members describe it. The members may have
  any names and hold any values.
* The members that belong to a rule may come in any order, and those that do not make no difference,
  neither does their number.
* The text of an array of objects is read as a list of rules exactly if each object is, and it gives
  their rules in order. -/
theorem format_of_rules :
    (∀ (ms : List Member) (r : Rule),
      Rule.parse (Value.object ms).compact = .ok r ↔ Describes ms r) ∧
    (∀ ms ms' : List Member, (known ms).Perm (known ms') → ∀ r : Rule,
      Rule.parse (Value.object ms).compact = .ok r ↔
        Rule.parse (Value.object ms').compact = .ok r) ∧
    (∀ (mss : List (List Member)) (rules : List Rule),
      Rule.parseList (Value.array (mss.map .object)).compact = .ok rules ↔
        List.Forall₂ (fun ms r => Rule.parse (Value.object ms).compact = .ok r) mss rules) := by
  refine ⟨fun ms r => parse_object_iff, fun ms ms' hperm r => ?_, fun mss rules => ?_⟩
  · rw [parse_object_iff, parse_object_iff]
    exact ⟨fun h => h.of_perm hperm, fun h => h.of_perm hperm.symm⟩
  · rw [parseList_objects_iff]
    simp only [parse_object_iff]

/-- Members that describe a rule, with others around them: one of these comes twice, and one holds
what no text can. -/
def sampleMembers : List Member :=
  [("ast", .float .nan), ("rule_string", .string "年龄 > 18"), ("ast", .array [.object []]),
    ("id", .string "r\n1")]

theorem format_of_rules_sample :
    (known sampleMembers).Perm
      (known [("_Id", .null), ("id", .string "r\n1"), ("rule_string", .string "年龄 > 18")]) ∧
    Rule.parse (Value.object sampleMembers).compact = .ok ⟨⟨"r\n1"⟩, "年龄 > 18", true⟩ ∧
    Rule.parse (Value.object
        [("_Id", .null), ("id", .string "r\n1"), ("rule_string", .string "年龄 > 18")]).compact =
      .ok ⟨⟨"r\n1"⟩, "年龄 > 18", true⟩ ∧
    Rule.parseList (Value.array ([sampleMembers, sampleMembers].map .object)).compact =
      .ok [⟨⟨"r\n1"⟩, "年龄 > 18", true⟩, ⟨⟨"r\n1"⟩, "年龄 > 18", true⟩] := by
  have hperm : (known sampleMembers).Perm
      (known [("_Id", .null), ("id", .string "r\n1"), ("rule_string", .string "年龄 > 18")]) :=
    List.Perm.swap _ _ _
  have hparse : Rule.parse (Value.object sampleMembers).compact =
      .ok ⟨⟨"r\n1"⟩, "年龄 > 18", true⟩ :=
    (format_of_rules.1 _ _).mpr ⟨rfl, rfl, .inr ⟨rfl, rfl⟩⟩
  exact ⟨hperm, hparse, (format_of_rules.2.1 _ _ hperm _).mp hparse,
    (format_of_rules.2.2 _ _).mpr (.cons hparse (.cons hparse .nil))⟩

end Rulebook.Rule
