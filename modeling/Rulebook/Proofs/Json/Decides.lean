import Mathlib.Data.List.Forall2
import Rulebook.Proofs.Json.Skip

/-!
# Reading what may be refused

A text that spells something is read in any case. Where a reader may as well refuse a text, what
has to be known is which of the two it does (`Rulebook.Json.Decides`), and that it says nothing else
about it: what comes behind is left as it is, or nothing is read at all.

An array is refused with the first of its elements that is
(`Rulebook.Json.toOption_readElements`), and a whole text is read exactly if what is on it is
(`Rulebook.Json.Decides.readAll_eq_ok_iff`).
-/

namespace Rulebook.Json

variable {α β : Type} {item : List Char → Except Stop (Read α)} {x : α} {o : Option α}
  {t rest : List Char}

/-- **The text `t` comes out as `o`** for a reader: in front of any text, and with spaces before
it, the reader takes `x` off if `o` is `x`, and fails if `o` is nothing. -/
structure Decides (item : List Char → Except Stop (Read α)) (o : Option α) (t : List Char) :
    Prop where
  starts : ∃ c cs, t = c :: cs ∧ Text.isBlank c = false ∧ c ≠ ']'
  reads : ∀ {g rest}, Gap g → Ends rest → (item (g ++ (t ++ rest))).toOption = o.map (·, rest)

/-- What comes out as something is spelled. -/
theorem decides_some_iff : Decides item (some x) t ↔ Spells item x t :=
  ⟨fun h => ⟨h.starts, fun hg hrest => toOption_eq_some_iff.mp (h.reads hg hrest)⟩,
    fun h => ⟨h.starts, fun hg hrest => toOption_eq_some_iff.mpr (h.reads hg hrest)⟩⟩

/-- Every value starts as the parts of a text do. -/
theorem starts_compact (v : Value) :
    ∃ c cs, writeCompact v = c :: cs ∧ Text.isBlank c = false ∧ c ≠ ']' := by
  obtain ⟨c, cs, hcs, hc⟩ := exists_opens v
  exact ⟨c, cs, hcs, hc.starts⟩

/-! ### Arrays -/

section Arrays

variable {p : β → Option α} {w : β → Value} {xs : List β}

theorem mapM_cons (p : β → Option α) (x : β) (xs : List β) :
    (x :: xs).mapM p = (p x).bind fun y => (xs.mapM p).map (y :: ·) := by
  rw [List.mapM_cons]
  cases p x with
  | none => rfl
  | some y => cases xs.mapM p <;> rfl

theorem mapM_eq_some_iff {ys : List α} :
    xs.mapM p = some ys ↔ List.Forall₂ (fun x y => p x = some y) xs ys := by
  induction xs generalizing ys with
  | nil =>
    rw [List.mapM_nil, List.forall₂_nil_left_iff]
    exact ⟨fun h => (Option.some.inj h).symm, fun h => congrArg some h.symm⟩
  | cons x xs ih =>
    simp only [mapM_cons, Option.bind_eq_some_iff, Option.map_eq_some_iff, ih,
      List.forall₂_cons_left_iff]
    constructor
    · rintro ⟨y, hy, ys, hys, rfl⟩
      exact ⟨y, ys, hy, hys, rfl⟩
    · rintro ⟨y, ys, hy, hys, rfl⟩
      exact ⟨y, hy, ys, hys, rfl⟩

/-- An element is read before those behind it. -/
theorem toOption_readElementsLoop_cons {first : Bool} {fuel : Nat} {cs rest' : List Char}
    {os : Option (List α)} (hnext : nextElement first cs = .ok (true, t ++ rest))
    (ht : Decides item o t) (hrest : Ends rest)
    (hloop : (readElementsLoop item fuel false rest).toOption = os.map (·, rest')) :
    (readElementsLoop item (fuel + 1) first cs).toOption =
      (o.bind fun x => os.map (x :: ·)).map (·, rest') := by
  have hread := ht.reads gap_nil hrest
  rw [List.nil_append] at hread
  rw [readElementsLoop, hnext]
  simp only [ok_bind, toOption_bind, hread]
  cases o with
  | none => rfl
  | some x =>
    simp only [Option.map_some, Option.bind_some, hloop]
    cases os <;> rfl

/-- **The elements behind one are read if each of them is**, and otherwise none is. -/
theorem toOption_readElementsLoop (h : ∀ x ∈ xs, Decides item (p x) (writeCompact (w x)))
    {fuel : Nat} (hfuel : xs.length < fuel) (rest : List Char) :
    (readElementsLoop item fuel false (writeCompactElements (xs.map w) ++ rest)).toOption =
      (xs.mapM p).map (·, ']' :: rest) := by
  induction xs generalizing fuel with
  | nil =>
    obtain ⟨fuel, rfl⟩ := Nat.exists_eq_add_one_of_ne_zero (Nat.ne_zero_of_lt hfuel)
    rfl
  | cons x xs ih =>
    obtain ⟨fuel, rfl⟩ := Nat.exists_eq_add_one_of_ne_zero (Nat.ne_zero_of_lt hfuel)
    rw [List.forall_mem_cons] at h
    have hnext : nextElement false (writeCompactElements ((x :: xs).map w) ++ rest) =
        .ok (true, writeCompact (w x) ++ (writeCompactElements (xs.map w) ++ rest)) := by
      rw [List.map_cons, writeCompactElements, List.append_assoc]
      exact nextElement_comma gap_nil h.1.starts _
    rw [mapM_cons]
    exact toOption_readElementsLoop_cons hnext h.1 (ends_compactElements _ rest)
      (ih h.2 (Nat.lt_of_succ_lt_succ hfuel))

/-- Fewer elements are written than characters. -/
theorem length_lt_compactElements (xs : List Value) :
    xs.length < (writeCompactElements xs).length := by
  induction xs with
  | nil => exact Nat.zero_lt_one
  | cons x xs ih =>
    rw [writeCompactElements, List.length_append]
    simp only [List.length_cons]
    omega

/-- **An array is read if each of its elements is**, and otherwise it is refused. -/
theorem toOption_readElements (h : ∀ x ∈ xs, Decides item (p x) (writeCompact (w x)))
    (rest : List Char) : ∃ cs, writeCompact (.array (xs.map w)) ++ rest = '[' :: cs ∧
      (readElements item cs).toOption = (xs.mapM p).map (·, ']' :: rest) := by
  cases xs with
  | nil => exact ⟨_, rfl, congrArg Except.toOption (readElements_nil rest)⟩
  | cons x xs =>
    rw [List.forall_mem_cons] at h
    refine ⟨writeCompact (w x) ++ (writeCompactElements (xs.map w) ++ rest), ?_, ?_⟩
    · rw [List.map_cons, writeCompact, List.append_assoc]
      rfl
    · have hnext := nextElement_first gap_nil h.1.starts
        (writeCompactElements (xs.map w) ++ rest)
      rw [List.nil_append] at hnext
      rw [readElements, mapM_cons]
      refine toOption_readElementsLoop_cons hnext h.1 (ends_compactElements _ rest)
        (toOption_readElementsLoop h.2 ?_ rest)
      have hlength := length_lt_compactElements (xs.map w)
      rw [List.length_map] at hlength
      simp only [List.length_append]
      omega

end Arrays

/-! ### Whole texts -/

/-- **A whole text is read as what it comes out as.** -/
theorem Decides.readAll_eq_ok_iff {text : String} (h : Decides item o text.toList) :
    readAll item text = .ok x ↔ o = some x := by
  have hread := h.reads gap_nil ends_nil
  rw [List.nil_append, List.append_nil] at hread
  rw [Json.readAll_eq_ok_iff]
  simp only [← toOption_eq_some_iff, hread, Option.map_eq_some_iff]
  constructor
  · rintro ⟨rest, ⟨y, hy, heq⟩, -⟩
    exact hy.trans (congrArg some (Prod.mk.inj heq).1)
  · intro hx
    exact ⟨[], ⟨x, hx, rfl⟩, rfl⟩

end Rulebook.Json
