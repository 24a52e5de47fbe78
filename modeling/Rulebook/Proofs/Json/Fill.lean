import Mathlib.Data.List.Forall2
import Rulebook.Json.Record

/-!
# Which members fill a record

Members fill a record one after the other, and each of them may find its place taken. Looked at
from the places, there is no order in it (`Rulebook.Json.Shape.fill_eq_some_iff`): a place is
filled if exactly one member has one of its names and a value of its kind, and it stays empty if
no member has and none has to. What other members there are, and where, makes no difference.

For this every name must belong to one place only (`Rulebook.Json.Shape.Distinct`). The members
that are still to come then meet each place on its own, and what they do to it depends on what it
holds already (`Rulebook.Json.Slot.Takes`).
-/

namespace Rulebook.Json

/-- **The values of the members that have one of some names**, in order. -/
def valuesOf (names : List String) (ms : List Member) : List Value :=
  (ms.filter fun m => names.contains m.1).map (·.2)

variable {ns : List String} {m : Member} {ms ms' : List Member} {item : Item}
  {o o' : Option Item} {filled filled' : Filled} {shape : Shape} {slot slot' : Slot} {i j : Nat}

theorem valuesOf_cons_of_mem (h : m.1 ∈ ns) :
    valuesOf ns (m :: ms) = m.2 :: valuesOf ns ms := by
  rw [valuesOf, List.filter_cons_of_pos (by simpa using h), List.map_cons]
  rfl

theorem valuesOf_cons_of_not_mem (h : m.1 ∉ ns) :
    valuesOf ns (m :: ms) = valuesOf ns ms := by
  rw [valuesOf, List.filter_cons_of_neg (by simpa using h)]
  rfl

/-- Members with other names make no difference. -/
theorem valuesOf_filter {ns' : List String} (h : ∀ k ∈ ns, k ∈ ns') (ms : List Member) :
    valuesOf ns (ms.filter fun m => ns'.contains m.1) = valuesOf ns ms := by
  rw [valuesOf, List.filter_filter, valuesOf]
  congr 1
  refine List.filter_congr fun m _ => ?_
  by_cases hm : m.1 ∈ ns
  · simp [hm, h m.1 hm]
  · simp [hm]

theorem valuesOf_perm (ns : List String) (h : ms.Perm ms') :
    (valuesOf ns ms).Perm (valuesOf ns ms') :=
  (h.filter _).map _

/-- Every one of these values is there, under one of the names. -/
theorem mem_of_mem_valuesOf {v : Value} (h : v ∈ valuesOf ns ms) : ∃ k ∈ ns, (k, v) ∈ ms := by
  obtain ⟨m, hm, rfl⟩ := List.mem_map.mp h
  obtain ⟨hm, hk⟩ := List.mem_filter.mp hm
  exact ⟨m.1, List.contains_iff_mem.mp hk, hm⟩

/-! ### Places -/

namespace Slot

/-- The names that a member may have. -/
def names (slot : Slot) : List String := slot.name :: slot.aliases

theorem accepts_iff {k : String} : slot.accepts k = true ↔ k ∈ slot.names := by
  rw [accepts, names, Bool.or_eq_true, beq_iff_eq, List.contains_iff_mem, List.mem_cons,
    eq_comm (a := k)]

/-- **What a place holds** after some members, of which each had the chance to fill it. -/
inductive Holds (slot : Slot) (ms : List Member) : Option Item → Prop
  | empty (hvalues : valuesOf slot.names ms = []) (hoptional : slot.optional = true) :
      Holds slot ms none
  | item {v : Value} {item : Item} (hvalues : valuesOf slot.names ms = [v])
      (hitem : slot.kind.item? v = some item) : Holds slot ms (some item)

theorem item?_text_eq_some_iff {v : Value} :
    Kind.text.item? v = some item ↔ ∃ s, v = .string s ∧ item = .text s := by
  cases v <;> simp [Kind.item?, eq_comm]

theorem item?_flag_eq_some_iff {v : Value} :
    Kind.flag.item? v = some item ↔ ∃ b, v = .bool b ∧ item = .flag b := by
  cases v <;> simp [Kind.item?, eq_comm]

/-- A text that has to be there is the only value under its names. -/
theorem holds_text_iff {name : String} {aliases : List String} :
    Holds ⟨name, aliases, .text, false⟩ ms o ↔
      ∃ s, valuesOf (name :: aliases) ms = [.string s] ∧ o = some (.text s) := by
  constructor
  · rintro (⟨-, hoptional⟩ | ⟨hvalues, hitem⟩)
    · cases hoptional
    · obtain ⟨s, rfl, rfl⟩ := item?_text_eq_some_iff.mp hitem
      exact ⟨s, hvalues, rfl⟩
  · rintro ⟨s, hvalues, rfl⟩
    exact .item hvalues rfl

/-- A truth value that may be missing is the only value under its names, if there is one. -/
theorem holds_flag_iff {name : String} {aliases : List String} :
    Holds ⟨name, aliases, .flag, true⟩ ms o ↔
      (∃ b, valuesOf (name :: aliases) ms = [.bool b] ∧ o = some (.flag b)) ∨
        valuesOf (name :: aliases) ms = [] ∧ o = none := by
  constructor
  · rintro (⟨hvalues, -⟩ | ⟨hvalues, hitem⟩)
    · exact .inr ⟨hvalues, rfl⟩
    · obtain ⟨b, rfl, rfl⟩ := item?_flag_eq_some_iff.mp hitem
      exact .inl ⟨b, hvalues, rfl⟩
  · rintro (⟨b, hvalues, rfl⟩ | ⟨hvalues, rfl⟩)
    · exact .item hvalues rfl
    · exact .empty hvalues rfl

/-- **What members do to a place**: it stays as it is, or a single one of them fills it. -/
inductive Takes (slot : Slot) : Option Item → List Member → Option Item → Prop
  | kept {o : Option Item} {ms : List Member} (hvalues : valuesOf slot.names ms = []) :
      Takes slot o ms o
  | filled {v : Value} {item : Item} {ms : List Member} (hvalues : valuesOf slot.names ms = [v])
      (hitem : slot.kind.item? v = some item) : Takes slot none ms (some item)

theorem takes_nil_iff : slot.Takes o [] o' ↔ o' = o := by
  constructor
  · rintro (_ | hvalues)
    · rfl
    · cases hvalues
  · rintro rfl
    exact .kept rfl

/-- A member with another name leaves a place to those behind it. -/
theorem takes_cons_of_not_mem (h : m.1 ∉ slot.names) :
    slot.Takes o (m :: ms) o' ↔ slot.Takes o ms o' := by
  have hvalues : valuesOf slot.names (m :: ms) = valuesOf slot.names ms :=
    valuesOf_cons_of_not_mem h
  constructor
  · rintro (h | ⟨h, hitem⟩)
    · exact .kept (hvalues ▸ h)
    · exact .filled (hvalues ▸ h) hitem
  · rintro (h | ⟨h, hitem⟩)
    · exact .kept (hvalues.trans h)
    · exact .filled (hvalues.trans h) hitem

/-- A member fills an empty place, and those behind it find it filled. -/
theorem takes_cons_of_mem (h : m.1 ∈ slot.names) (hitem : slot.kind.item? m.2 = some item) :
    slot.Takes none (m :: ms) o' ↔ slot.Takes (some item) ms o' := by
  have hvalues : valuesOf slot.names (m :: ms) = m.2 :: valuesOf slot.names ms :=
    valuesOf_cons_of_mem h
  constructor
  · rintro (h | ⟨h, hitem'⟩)
    · rw [hvalues] at h
      cases h
    · rw [hvalues] at h
      obtain ⟨rfl, hnil⟩ := List.cons.inj h
      obtain rfl := Option.some.inj (hitem.symm.trans hitem')
      exact .kept hnil
  · rintro ⟨h⟩
    exact .filled (by rw [hvalues, h]) hitem

/-- No member finds room in a place that is filled. -/
theorem not_takes_of_some (h : m.1 ∈ slot.names) : ¬slot.Takes (some item) (m :: ms) o' := by
  rintro ⟨hvalues⟩
  rw [valuesOf_cons_of_mem h] at hvalues
  cases hvalues

/-- A value of another kind fills no place. -/
theorem not_takes_of_none (h : m.1 ∈ slot.names) (hitem : slot.kind.item? m.2 = none) :
    ¬slot.Takes o (m :: ms) o' := by
  rintro (hvalues | ⟨hvalues, hitem'⟩) <;> rw [valuesOf_cons_of_mem h] at hvalues
  · cases hvalues
  · obtain ⟨rfl, -⟩ := List.cons.inj hvalues
    rw [hitem] at hitem'
    cases hitem'

end Slot

/-! ### One member -/

namespace Shape

/-- **Every name belongs to one place at most.** -/
def Distinct (shape : Shape) : Prop :=
  shape.slots.Pairwise fun slot slot' => ∀ k ∈ slot.names, k ∉ slot'.names

instance (shape : Shape) : Decidable shape.Distinct :=
  inferInstanceAs (Decidable (List.Pairwise _ _))

theorem Distinct.eq_of_mem (hd : shape.Distinct) (hi : shape.slots[i]? = some slot)
    (hj : shape.slots[j]? = some slot') {k : String} (hk : k ∈ slot.names) (hk' : k ∈ slot'.names) :
    i = j := by
  obtain ⟨hlti, rfl⟩ := List.getElem?_eq_some_iff.mp hi
  obtain ⟨hltj, rfl⟩ := List.getElem?_eq_some_iff.mp hj
  rcases Nat.lt_trichotomy i j with hlt | heq | hgt
  · exact absurd hk' (List.pairwise_iff_getElem.mp hd i j hlti hltj hlt k hk)
  · exact heq
  · exact absurd hk (List.pairwise_iff_getElem.mp hd j i hltj hlti hgt k hk')

theorem not_mem_of_find?_eq_none {k : String} (h : shape.find? k = none)
    (hi : shape.slots[i]? = some slot) : k ∉ slot.names := by
  rw [find?, Option.map_eq_none_iff, List.find?_eq_none] at h
  rw [← Slot.accepts_iff]
  exact h (slot, i) (List.mem_zipIdx_iff_getElem?.mpr hi)

theorem of_find?_eq_some {k : String} (h : shape.find? k = some (i, slot)) :
    shape.slots[i]? = some slot ∧ k ∈ slot.names := by
  rw [find?, Option.map_eq_some_iff] at h
  obtain ⟨⟨slot', i'⟩, hfind, heq⟩ := h
  obtain ⟨rfl, rfl⟩ := Prod.mk.inj heq
  have haccepts : slot'.accepts k = true := by simpa using List.find?_some hfind
  exact ⟨List.mem_zipIdx_iff_getElem?.mp (List.mem_of_find?_eq_some hfind),
    Slot.accepts_iff.mp haccepts⟩

/-- The places after one more member, unless it is none that they can take. -/
def put (shape : Shape) (filled : Filled) (m : Member) : Option Filled :=
  match shape.find? m.1 with
  | none => some filled
  | some (i, slot) =>
    if (filled[i]?.join).isSome then none
    else (slot.kind.item? m.2).map fun item => filled.set i (some item)

theorem put_of_eq_none (h : shape.find? m.1 = none) : shape.put filled m = some filled := by
  rw [put, h]

theorem put_of_eq_some (h : shape.find? m.1 = some (i, slot)) :
    shape.put filled m = if (filled[i]?.join).isSome then none
      else (slot.kind.item? m.2).map fun item => filled.set i (some item) := by
  rw [put, h]

/-- A record is filled by one member after the other, and then nothing must be missing. -/
theorem fill_eq (shape : Shape) (filled : Filled) (ms : List Member) :
    shape.fill filled ms =
      (ms.foldlM shape.put filled).filter fun filled => (shape.missing? filled).isNone := by
  induction ms generalizing filled with
  | nil =>
    rw [fill, List.foldlM_nil]
    change _ = if (shape.missing? filled).isNone then some filled else none
    cases shape.missing? filled <;> rfl
  | cons m ms ih =>
    obtain ⟨k, v⟩ := m
    rw [fill, List.foldlM_cons]
    split
    · rw [put_of_eq_none ‹_›]
      exact ih filled
    · rw [put_of_eq_some ‹_›]
      split
      · rfl
      · split <;> rename_i h <;> rw [h]
        · exact ih _
        · rfl

/-! ### All members -/

/-- A place of the filled ones, after one of them was set. -/
theorem join_getElem?_set (hi : i < filled.length) :
    ((filled.set i (some item))[j]?.join : Option Item) =
      if i = j then some item else filled[j]?.join := by
  rw [List.getElem?_set, if_pos hi]
  split <;> rfl

/-- **What members do to the places of a record**, they do to each place on its own. -/
theorem foldlM_put_eq_some_iff (hd : shape.Distinct)
    (hlength : filled.length = shape.slots.length) :
    ms.foldlM shape.put filled = some filled' ↔
      filled'.length = filled.length ∧ ∀ (i : Nat) (slot : Slot), shape.slots[i]? = some slot →
        slot.Takes filled[i]?.join ms filled'[i]?.join := by
  induction ms generalizing filled with
  | nil =>
    simp only [List.foldlM_nil, Slot.takes_nil_iff]
    constructor
    · intro h
      obtain rfl := Option.some.inj h
      exact ⟨rfl, fun _ _ _ => rfl⟩
    · rintro ⟨hlength', hplace⟩
      refine congrArg some (List.ext_getElem hlength'.symm fun i hi hi' => ?_)
      have hi'' : i < shape.slots.length := hlength ▸ hi
      have heq := hplace i _ (List.getElem?_eq_getElem hi'')
      rw [List.getElem?_eq_getElem hi, List.getElem?_eq_getElem hi'] at heq
      exact heq.symm
  | cons m ms ih =>
    rw [List.foldlM_cons]
    cases hfind : shape.find? m.1 with
    | none =>
      -- no place has this name, so each of them meets the members behind it
      rw [put_of_eq_none hfind]
      refine (ih hlength).trans (and_congr_right fun _ => ?_)
      refine forall₃_congr fun i slot hi => ?_
      exact (Slot.takes_cons_of_not_mem (not_mem_of_find?_eq_none hfind hi)).symm
    | some found =>
      obtain ⟨i, slot⟩ := found
      obtain ⟨hi, hname⟩ := of_find?_eq_some hfind
      have hlt : i < filled.length := hlength ▸ (List.getElem?_eq_some_iff.mp hi).1
      rw [put_of_eq_some hfind]
      split
      · -- the place is taken
        obtain ⟨item, hitem⟩ := Option.isSome_iff_exists.mp ‹_›
        refine iff_of_false (by rintro ⟨⟩) fun ⟨_, hplace⟩ => ?_
        have htakes := hplace i slot hi
        rw [hitem] at htakes
        exact Slot.not_takes_of_some hname htakes
      · rename_i hfree
        rw [Bool.not_eq_true, Option.isSome_eq_false_iff, Option.isNone_iff_eq_none] at hfree
        cases hitem : slot.kind.item? m.2 with
        | none =>
          refine iff_of_false (by rintro ⟨⟩) fun ⟨_, hplace⟩ => ?_
          exact Slot.not_takes_of_none hname hitem (hplace i slot hi)
        | some item =>
          -- the place of the member is filled for those behind it, and the others are as before
          refine (ih (by rw [List.length_set, hlength])).trans ?_
          rw [List.length_set]
          refine and_congr_right fun _ => forall₃_congr fun j slot' hj => ?_
          rw [join_getElem?_set hlt]
          split
          · rename_i heq
            subst heq
            obtain rfl := Option.some.inj (hi.symm.trans hj)
            rw [hfree]
            exact (Slot.takes_cons_of_mem hname hitem).symm
          · rename_i hne
            refine (Slot.takes_cons_of_not_mem fun hname' => hne ?_).symm
            exact hd.eq_of_mem hi hj hname hname'

/-- Nothing is missing where every place is filled that has to be. -/
theorem missing?_eq_none_iff : shape.missing? filled = none ↔
    ∀ slot o, (slot, o) ∈ shape.slots.zip filled → o = none → slot.optional = true := by
  rw [missing?, List.findSome?_eq_none_iff, Prod.forall]
  refine forall₃_congr fun slot o _ => ?_
  cases o <;> simp

theorem join_getElem?_unfilled (shape : Shape) (i : Nat) :
    (shape.unfilled[i]?.join : Option Item) = none := by
  rw [unfilled, List.getElem?_map]
  cases shape.slots[i]? <;> rfl

/-- A place holds what an empty one takes, if it may be left empty where nothing is taken. -/
theorem takes_none_iff : slot.Takes none ms o ∧ (o = none → slot.optional = true) ↔
    slot.Holds ms o := by
  constructor
  · rintro ⟨hvalues | ⟨hvalues, hitem⟩, hoptional⟩
    · exact .empty hvalues (hoptional rfl)
    · exact .item hvalues hitem
  · rintro (⟨hvalues, hoptional⟩ | ⟨hvalues, hitem⟩)
    · exact ⟨.kept hvalues, fun _ => hoptional⟩
    · exact ⟨.filled hvalues hitem, nofun⟩

/-- **Members fill a record if and only if every place holds what they have for it.** -/
theorem fill_eq_some_iff (hd : shape.Distinct) :
    shape.fill shape.unfilled ms = some filled ↔
      List.Forall₂ (fun slot o => slot.Holds ms o) shape.slots filled := by
  have hlength : shape.unfilled.length = shape.slots.length := List.length_map _
  rw [fill_eq, Option.filter_eq_some_iff, foldlM_put_eq_some_iff hd hlength,
    Option.isNone_iff_eq_none, missing?_eq_none_iff, List.forall₂_iff_zip]
  simp only [join_getElem?_unfilled]
  constructor
  · rintro ⟨⟨hlength', htakes⟩, hmissing⟩
    refine ⟨(hlength'.trans hlength).symm, fun {slot o} hmem => ?_⟩
    obtain ⟨i, hi⟩ := List.mem_iff_getElem?.mp hmem
    obtain ⟨hslot, ho⟩ := List.getElem?_zip_eq_some.mp hi
    have htake := htakes i slot hslot
    rw [ho] at htake
    exact takes_none_iff.mp ⟨htake, hmissing slot o hmem⟩
  · rintro ⟨hlength', hholds⟩
    refine ⟨⟨hlength'.symm.trans hlength.symm, fun i slot hslot => ?_⟩, fun slot o hmem => ?_⟩
    · obtain ⟨o, ho⟩ : ∃ o, filled[i]? = some o :=
        ⟨_, List.getElem?_eq_getElem (hlength' ▸ (List.getElem?_eq_some_iff.mp hslot).1)⟩
      have hmem : (slot, o) ∈ shape.slots.zip filled :=
        List.mem_iff_getElem?.mpr ⟨i, List.getElem?_zip_eq_some.mpr ⟨hslot, ho⟩⟩
      rw [ho]
      exact (takes_none_iff.mpr (hholds hmem)).1
    · exact (takes_none_iff.mpr (hholds hmem)).2

/-! ### Members in order -/

/-- **Values fill places in order**: one each, until there are none left, and then no place may be
left that has to be filled. -/
inductive InOrder : List Slot → List Value → Filled → Prop
  | nil : InOrder [] [] []
  | missing {slot : Slot} {slots : List Slot} {filled : Filled} (hoptional : slot.optional = true)
      (h : InOrder slots [] filled) : InOrder (slot :: slots) [] (none :: filled)
  | item {slot : Slot} {slots : List Slot} {v : Value} {vs : List Value} {item : Item}
      {filled : Filled} (hitem : slot.kind.item? v = some item) (h : InOrder slots vs filled) :
      InOrder (slot :: slots) (v :: vs) (some item :: filled)

theorem fillInOrder_eq_some_iff {slots : List Slot} {vs : List Value} :
    fillInOrder slots vs = some filled ↔ InOrder slots vs filled := by
  constructor
  · intro h
    induction slots generalizing vs filled with
    | nil =>
      cases vs with
      | nil =>
        cases h
        exact .nil
      | cons v vs => cases h
    | cons slot slots ih =>
      cases vs with
      | nil =>
        rw [fillInOrder] at h
        split at h
        · obtain ⟨filled', hfill, rfl⟩ := Option.map_eq_some_iff.mp h
          exact .missing ‹_› (ih hfill)
        · cases h
      | cons v vs =>
        rw [fillInOrder] at h
        split at h
        · obtain ⟨filled', hfill, rfl⟩ := Option.map_eq_some_iff.mp h
          exact .item ‹_› (ih hfill)
        · cases h
  · intro h
    induction h with
    | nil => rfl
    | missing hoptional _ ih => rw [fillInOrder, if_pos hoptional, ih, Option.map_some]
    | item hitem _ ih => simp only [fillInOrder, hitem, ih, Option.map_some]

end Shape

end Rulebook.Json
