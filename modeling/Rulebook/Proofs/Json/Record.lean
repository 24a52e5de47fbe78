import Rulebook.Proofs.Json.Decides
import Rulebook.Proofs.Json.Fill
import Rulebook.Proofs.Json.Printer

/-!
# Records in JSON

A record is read in two ways: off the front of a text (`Rulebook.Json.Shape.read`), and from the
members of a value that was read before (`Rulebook.Json.Shape.ofValue?`). The two agree on what
was written (`Rulebook.Json.Shape.decides_read`): from the text of an object comes the record that
its members fill, and if they fill none, the text is refused.

The members come one after the other. One that belongs to the record fills its place, if that is
empty and the value is of its kind (`Rulebook.Json.Shape.put`); the others are passed over. So the
loop over the text is a fold over the members. Only the values that a record keeps as they are must
be such that they can be read back (`Rulebook.Json.Shape.Keeps`).
-/

namespace Rulebook.Json

variable {α β : Type} {read : List Char → Except Stop (Read α)} {x : α} {g t rest : List Char}
  {depth : Nat} {v : Value} {kind : Kind} {item : Item}

/-! ### Items -/

/-- What is read can be handed on in another form. -/
theorem Spells.map (h : Spells read x t) (f : α → β) :
    Spells (fun cs => (read cs).map fun (x, rest) => (f x, rest)) (f x) t where
  starts := h.starts
  reads := by
    intro g rest hg hrest
    rw [h.reads hg hrest]
    rfl

theorem spells_textItem (s : String) : Spells readTextItem s (writeText s) where
  starts := ⟨'"', _, rfl, rfl, by decide⟩
  reads := by
    intro g rest hg _
    rw [readTextItem, skipSpace_writeText hg, writeText_append]
    exact readString_writeText s rest

theorem spells_flagItem (b : Bool) : Spells readFlagItem b (writeCompact (.bool b)) where
  starts := by
    cases b with
    | true => exact ⟨'t', _, rfl, rfl, by decide⟩
    | false => exact ⟨'f', _, rfl, rfl, by decide⟩
  reads := by
    intro g rest hg _
    rw [readFlagItem, skipSpace_gap hg]
    cases b <;> rfl

/-- **The text of a value of a kind spells the item** that it is of this kind. -/
theorem spells_item (h : kind.item? v = some item) (hv : kind = .anything → v.Exact depth) :
    Spells (readItem depth kind) item (writeCompact v) := by
  cases kind with
  | text =>
    cases v <;> cases h
    exact (spells_textItem _).map Item.text
  | flag =>
    cases v <;> cases h
    exact (spells_flagItem _).map Item.flag
  | anything =>
    have hvalue := (spells_compact (hv rfl)).map Item.value
    cases v <;> cases h <;> exact hvalue

/-- Only a text is read as one. -/
theorem exists_readTextItem_eq_error (hv : ∀ s, v ≠ .string s) (hg : Gap g) (rest : List Char) :
    ∃ stop, readTextItem (g ++ (writeCompact v ++ rest)) = .error stop := by
  rw [readTextItem, skipSpace_gap hg, skipSpace_compact]
  obtain ⟨c, cs, hcs, hc⟩ := exists_opens v
  rw [hcs, List.cons_append]
  split
  · rename_i heq
    obtain ⟨rfl, -⟩ := List.cons.inj heq
    obtain ⟨s, rfl⟩ := hc.exists_string
    exact absurd rfl (hv s)
  · exact ⟨_, rfl⟩

/-- Only a truth value is read as one. -/
theorem exists_readFlagItem_eq_error (hv : ∀ b, v ≠ .bool b) (hg : Gap g) (rest : List Char) :
    ∃ stop, readFlagItem (g ++ (writeCompact v ++ rest)) = .error stop := by
  rw [readFlagItem, skipSpace_gap hg, skipSpace_compact]
  obtain ⟨c, cs, hcs, hc⟩ := exists_opens v
  rw [hcs, List.cons_append]
  split
  · rename_i heq
    obtain ⟨rfl, -⟩ := List.cons.inj heq
    obtain ⟨b, rfl⟩ := hc.exists_bool (.inl rfl)
    exact absurd rfl (hv b)
  · rename_i heq
    obtain ⟨rfl, -⟩ := List.cons.inj heq
    obtain ⟨b, rfl⟩ := hc.exists_bool (.inr rfl)
    exact absurd rfl (hv b)
  · exact ⟨_, rfl⟩

/-- A value of another kind is refused. -/
theorem exists_readItem_eq_error (h : kind.item? v = none) (hg : Gap g) (rest : List Char) :
    ∃ stop, readItem depth kind (g ++ (writeCompact v ++ rest)) = .error stop := by
  cases kind with
  | text =>
    have hv : ∀ s, v ≠ .string s := by
      rintro s rfl
      cases h
    obtain ⟨stop, hstop⟩ := exists_readTextItem_eq_error hv hg rest
    exact ⟨stop, by rw [readItem, hstop]; rfl⟩
  | flag =>
    have hv : ∀ b, v ≠ .bool b := by
      rintro b rfl
      cases h
    obtain ⟨stop, hstop⟩ := exists_readFlagItem_eq_error hv hg rest
    exact ⟨stop, by rw [readItem, hstop]; rfl⟩
  | anything => cases v <;> cases h

/-- **A value is read as the item of a kind that it is**, and refused if it is of another kind. -/
theorem decides_item (hv : kind = .anything → v.Exact depth) :
    Decides (readItem depth kind) (kind.item? v) (writeCompact v) := by
  cases hitem : kind.item? v with
  | some item => exact decides_some_iff.mpr (spells_item hitem hv)
  | none =>
    refine ⟨starts_compact v, fun hg _ => ?_⟩
    obtain ⟨stop, hstop⟩ := exists_readItem_eq_error hitem hg _
    rw [hstop]
    rfl

/-! ### Members -/

namespace Shape

variable {shape : Shape} {filled : Filled} {ms : List Member} {fuel : Nat}

/-- **Whether a record can keep the values of its members**: those that it keeps as they are must
be such that a text keeps them. -/
def Keeps (shape : Shape) (depth : Nat) (m : Member) : Prop :=
  ∀ i slot, shape.find? m.1 = some (i, slot) → slot.kind = .anything → m.2.Exact depth

/-- **A member is read as it is put**, and those behind it are read into the places that it
leaves. -/
theorem toOption_readMembersLoop_cons {first : Bool} {m : Member} {cs : List Char}
    (hkey : nextKey first cs = .ok (some m.1, ':' :: (writeCompact m.2 ++ rest)))
    (hkeeps : shape.Keeps depth m) (hrest : Ends rest) :
    (shape.readMembersLoop depth (fuel + 1) first filled cs).toOption =
      (shape.put filled m).bind fun filled =>
        (shape.readMembersLoop depth fuel false filled rest).toOption := by
  rw [readMembersLoop, hkey]
  cases hfind : shape.find? m.1 with
  | none =>
    -- a member that nobody asked for is passed over, whatever its value is
    rw [put_of_eq_none hfind]
    simp only [ok_bind, hfind, readColon_colon, skipValue_compact m.2 hrest]
    rfl
  | some found =>
    obtain ⟨i, slot⟩ := found
    have hread := (decides_item (hkeeps i slot hfind)).reads gap_nil hrest
    rw [List.nil_append] at hread
    rw [put_of_eq_some hfind]
    simp only [ok_bind, hfind]
    -- a place that is taken refuses the member before its value is looked at
    split
    · rfl
    · simp only [readColon_colon, ok_bind, toOption_bind, hread]
      cases slot.kind.item? m.2 <;> rfl

theorem readMembersLoop_brace {first : Bool} :
    shape.readMembersLoop depth (fuel + 1) first filled ('}' :: rest) =
      .ok (filled, '}' :: rest) := by
  rw [readMembersLoop, ← List.nil_append ('}' :: rest), nextKey_brace gap_nil]
  rfl

/-- **The members behind one are read into the places that are left.** -/
theorem toOption_readMembersLoop (hkeeps : ∀ m ∈ ms, shape.Keeps depth m)
    (hfuel : (writeCompactMembers ms).length ≤ fuel) (rest : List Char) :
    (shape.readMembersLoop depth fuel false filled (writeCompactMembers ms ++ rest)).toOption =
      (ms.foldlM shape.put filled).map (·, '}' :: rest) := by
  induction ms generalizing filled fuel with
  | nil =>
    obtain ⟨fuel, rfl⟩ := Nat.exists_eq_add_one_of_ne_zero (Nat.ne_zero_of_lt hfuel)
    exact congrArg Except.toOption readMembersLoop_brace
  | cons m ms ih =>
    obtain ⟨fuel, rfl⟩ := Nat.exists_eq_add_one_of_ne_zero (Nat.ne_zero_of_lt hfuel)
    rw [List.forall_mem_cons] at hkeeps
    have hkey : nextKey false (writeCompactMembers (m :: ms) ++ rest) =
        .ok (some m.1, ':' :: (writeCompact m.2 ++ (writeCompactMembers ms ++ rest))) := by
      simp only [writeCompactMembers, List.cons_append, List.append_assoc]
      exact nextKey_comma gap_nil m.1 _
    have hlength : (writeCompactMembers ms).length ≤ fuel := by
      simp only [writeCompactMembers, List.length_cons, List.length_append] at hfuel
      omega
    rw [toOption_readMembersLoop_cons hkey hkeeps.1 (ends_compactMembers ms rest),
      List.foldlM_cons]
    simp only [ih hkeeps.2 hlength]
    cases shape.put filled m <;> rfl

/-! ### Records -/

/-- The members from the first one on are read into places that are all empty. -/
theorem toOption_readMembersLoop_first (filled : Filled) (hkeeps : ∀ m ∈ ms, shape.Keeps depth m)
    (rest : List Char) :
    ∃ cs, writeCompact (.object ms) ++ rest = '{' :: cs ∧
      (shape.readMembersLoop depth (cs.length + 1) true filled cs).toOption =
        (ms.foldlM shape.put filled).map (·, '}' :: rest) := by
  cases ms with
  | nil => exact ⟨_, rfl, congrArg Except.toOption readMembersLoop_brace⟩
  | cons m ms =>
    rw [List.forall_mem_cons] at hkeeps
    refine ⟨writeText m.1 ++ ':' :: (writeCompact m.2 ++ (writeCompactMembers ms ++ rest)), ?_, ?_⟩
    · simp only [writeCompact, List.cons_append, List.append_assoc]
    · have hkey := nextKey_first gap_nil m.1
        (':' :: (writeCompact m.2 ++ (writeCompactMembers ms ++ rest)))
      rw [List.nil_append] at hkey
      have hlength : (writeCompactMembers ms).length ≤ (writeText m.1 ++
          ':' :: (writeCompact m.2 ++ (writeCompactMembers ms ++ rest))).length := by
        simp only [List.length_append, List.length_cons]
        omega
      rw [toOption_readMembersLoop_cons hkey hkeeps.1 (ends_compactMembers ms rest),
        List.foldlM_cons]
      simp only [toOption_readMembersLoop hkeeps.2 hlength]
      cases shape.put filled m <;> rfl

/-- **From the text of an object comes the record that its members fill**, if they fill one. -/
theorem decides_read (hkeeps : ∀ m ∈ ms, shape.Keeps depth m) :
    Decides (shape.read (depth + 1)) (shape.ofValue? (.object ms)) (writeCompact (.object ms)) := by
  refine ⟨starts_compact _, fun {g rest} hg hrest => ?_⟩
  obtain ⟨cs, hcs, hloop⟩ := toOption_readMembersLoop_first shape.unfilled hkeeps rest
  rw [Shape.read, skipSpace_gap hg, hcs, skipSpace_cons rfl]
  change (shape.readObject depth cs).toOption = _
  rw [readObject, toOption_bind, hloop, ofValue?, fill_eq]
  cases ms.foldlM shape.put shape.unfilled with
  | none => rfl
  | some filled =>
    simp only [Option.map_some, Option.bind_some, Option.filter_some]
    cases shape.missing? filled with
    | none =>
      simp only [closeObject_brace]
      rfl
    | some slot => rfl

end Shape

end Rulebook.Json
