import Rulebook.Proofs.Json.Reader
import Rulebook.Proofs.Json.Scalar

/-!
# Passing over any text

Inside arrays and objects, what is passed over is punctuation, and this is written down here without
any fuel (`Rulebook.Json.Spans`). The loops that pass over a value do so exactly where this relation
holds (`Rulebook.Json.skipValue_eq_ok_iff`): whatever their fuel was, nothing else can have come of
them, and as much of it as there are characters is enough.
-/

namespace Rulebook.Json

variable {cs rest : List Char}

/-! ### Arrays and objects -/

/-- **What can be passed over**: a value, or what is left of an array or an object behind one of its
parts, up to the bracket or brace that closes it. -/
inductive Stretch where
  | value
  | elements
  | members

/-- **A text is passed over up to `rest`**. -/
inductive Spans : Stretch → List Char → List Char → Prop
  | scalar {cs rest : List Char} {c : Char} {cs' : List Char} (hcs : skipSpace cs = c :: cs')
      (hbracket : c ≠ '[') (hbrace : c ≠ '{') (h : skipScalar (c :: cs') = .ok rest) :
      Spans .value cs rest
  | emptyArray {cs cs' rest : List Char} (hcs : skipSpace cs = '[' :: cs')
      (hclose : skipSpace cs' = ']' :: rest) : Spans .value cs rest
  | array {cs cs' cs'' rest : List Char} (hcs : skipSpace cs = '[' :: cs')
      (hx : Spans .value cs' cs'') (hxs : Spans .elements cs'' rest) : Spans .value cs rest
  | emptyObject {cs cs' rest : List Char} (hcs : skipSpace cs = '{' :: cs')
      (hclose : skipSpace cs' = '}' :: rest) : Spans .value cs rest
  | object {cs cs' value cs'' rest : List Char} (hcs : skipSpace cs = '{' :: cs')
      (hkey : skipKey cs' = .ok value) (hv : Spans .value value cs'')
      (hms : Spans .members cs'' rest) : Spans .value cs rest
  | closeArray {cs rest : List Char} (hcs : skipSpace cs = ']' :: rest) : Spans .elements cs rest
  | element {cs cs' cs'' rest : List Char} (hcs : skipSpace cs = ',' :: cs')
      (hx : Spans .value cs' cs'') (hxs : Spans .elements cs'' rest) : Spans .elements cs rest
  | closeObject {cs rest : List Char} (hcs : skipSpace cs = '}' :: rest) : Spans .members cs rest
  | member {cs cs' value cs'' rest : List Char} (hcs : skipSpace cs = ',' :: cs')
      (hkey : skipKey cs' = .ok value) (hv : Spans .value value cs'')
      (hms : Spans .members cs'' rest) : Spans .members cs rest

/-- The loop that passes over it. -/
def Stretch.skip : Stretch → Nat → List Char → Except Stop (List Char)
  | value => skipValueLoop
  | elements => skipElements
  | members => skipMembers

variable {stretch : Stretch}

theorem length_of_skipSpace {c : Char} {cs' : List Char} (h : skipSpace cs = c :: cs') :
    cs'.length < cs.length := by
  have hle := length_skipSpace cs
  rw [h, List.length_cons] at hle
  omega

theorem length_of_readColon (h : readColon cs = .ok rest) : rest.length < cs.length := by
  rw [readColon] at h
  split at h
  · cases h
  · cases h
    exact length_of_skipSpace ‹_›
  · cases h

theorem length_of_skipKey (h : skipKey cs = .ok rest) : rest.length < cs.length := by
  rw [skipKey] at h
  split at h
  · cases h
  · rename_i cs' hcs
    obtain ⟨cs'', hstring, hcolon⟩ := bind_eq_ok_iff.mp h
    have hlt := length_of_skipSpace hcs
    have hlt' := length_of_skipString hstring
    have hlt'' := length_of_readColon hcolon
    omega
  · cases h

/-- **What is passed over has at least one character.** -/
theorem Spans.length_lt (h : Spans stretch cs rest) : rest.length < cs.length := by
  induction h with
  | scalar hcs _ _ h =>
    have hlt := length_of_skipScalar h
    have hle := length_of_skipSpace hcs
    rw [List.length_cons] at hlt
    omega
  | emptyArray hcs hclose =>
    exact Nat.lt_trans (length_of_skipSpace hclose) (length_of_skipSpace hcs)
  | array hcs _ _ hx hxs =>
    have hlt := length_of_skipSpace hcs
    omega
  | emptyObject hcs hclose =>
    exact Nat.lt_trans (length_of_skipSpace hclose) (length_of_skipSpace hcs)
  | object hcs hkey _ _ hv hms =>
    have hlt := length_of_skipSpace hcs
    have hlt' := length_of_skipKey hkey
    omega
  | closeArray hcs => exact length_of_skipSpace hcs
  | element hcs _ _ hx hxs =>
    have hlt := length_of_skipSpace hcs
    omega
  | closeObject hcs => exact length_of_skipSpace hcs
  | member hcs hkey _ _ hv hms =>
    have hlt := length_of_skipSpace hcs
    have hlt' := length_of_skipKey hkey
    omega

/-! ### The loops that pass over them -/

theorem skipSpace_skipSpace (cs : List Char) : skipSpace (skipSpace cs) = skipSpace cs := by
  induction cs with
  | nil => rfl
  | cons c cs ih =>
    by_cases hc : isSpace c = true
    · rw [skipSpace, skipSpace, List.dropWhile_cons_of_pos hc]
      exact ih
    · rw [skipSpace_cons (Bool.eq_false_iff.mpr hc), skipSpace_cons (Bool.eq_false_iff.mpr hc)]

/-- Spaces in front of a value make no difference to a loop that goes on. -/
theorem skipValueLoop_skipSpace (fuel : Nat) (cs : List Char) :
    skipValueLoop (fuel + 1) (skipSpace cs) = skipValueLoop (fuel + 1) cs := by
  rw [skipValueLoop, skipValueLoop, skipSpace_skipSpace]

theorem skipKey_skipSpace (cs : List Char) : skipKey (skipSpace cs) = skipKey cs := by
  rw [skipKey, skipKey, skipSpace_skipSpace]

theorem Spans.of_skipSpace (h : Spans .value (skipSpace cs) rest) : Spans .value cs rest := by
  cases h with
  | scalar hcs hbracket hbrace h => exact .scalar (skipSpace_skipSpace cs ▸ hcs) hbracket hbrace h
  | emptyArray hcs hclose => exact .emptyArray (skipSpace_skipSpace cs ▸ hcs) hclose
  | array hcs hx hxs => exact .array (skipSpace_skipSpace cs ▸ hcs) hx hxs
  | emptyObject hcs hclose => exact .emptyObject (skipSpace_skipSpace cs ▸ hcs) hclose
  | object hcs hkey hv hms => exact .object (skipSpace_skipSpace cs ▸ hcs) hkey hv hms

/-- A value does not start with what closes an array. -/
theorem Spans.exists_cons (h : Spans .value cs rest) :
    ∃ c cs', skipSpace cs = c :: cs' ∧ c ≠ ']' := by
  cases h with
  | scalar hcs _ _ h =>
    refine ⟨_, _, hcs, ?_⟩
    rintro rfl
    cases h
  | emptyArray hcs _ => exact ⟨_, _, hcs, by decide⟩
  | array hcs _ _ => exact ⟨_, _, hcs, by decide⟩
  | emptyObject hcs _ => exact ⟨_, _, hcs, by decide⟩
  | object hcs _ _ _ => exact ⟨_, _, hcs, by decide⟩

/-- What starts neither an array nor an object. -/
theorem head_ne_of_skipSpace {c : Char} {cs' : List Char}
    (hbracket : ∀ cs', skipSpace cs ≠ '[' :: cs') (hbrace : ∀ cs', skipSpace cs ≠ '{' :: cs')
    (hcs : skipSpace cs = c :: cs') : c ≠ '[' ∧ c ≠ '{' := by
  constructor
  · rintro rfl
    exact hbracket cs' hcs
  · rintro rfl
    exact hbrace cs' hcs

/-- A scalar is passed over behind the spaces in front of it. -/
theorem spans_of_skipScalar (hbracket : ∀ cs', skipSpace cs ≠ '[' :: cs')
    (hbrace : ∀ cs', skipSpace cs ≠ '{' :: cs') (h : skipScalar (skipSpace cs) = .ok rest) :
    Spans .value cs rest := by
  cases hcs : skipSpace cs with
  | nil =>
    rw [hcs] at h
    cases h
  | cons c cs' =>
    obtain ⟨hbracket, hbrace⟩ := head_ne_of_skipSpace hbracket hbrace hcs
    exact .scalar hcs hbracket hbrace (hcs ▸ h)

theorem exists_of_skipKey (h : skipKey cs = .ok rest) : ∃ cs', skipSpace cs = '"' :: cs' := by
  rw [skipKey] at h
  split at h
  · cases h
  · exact ⟨_, ‹_›⟩
  · cases h

theorem Spans.exists_fuel (h : Spans stretch cs rest) {fuel : Nat}
    (hfuel : cs.length ≤ fuel + rest.length) : ∃ less, fuel = less + 1 := by
  have hlt := h.length_lt
  exact Nat.exists_eq_add_one_of_ne_zero (by omega)

/-- Behind the bracket of an array that is not empty comes its first element. -/
theorem skipValueLoop_of_bracket {fuel : Nat} {cs' : List Char} (hcs : skipSpace cs = '[' :: cs')
    (hx : Spans .value cs' rest) :
    skipValueLoop (fuel + 2) cs =
      (skipValueLoop (fuel + 1) cs' >>= skipElements (fuel + 1)) := by
  obtain ⟨c, cs'', hcs', hc⟩ := hx.exists_cons
  rw [skipValueLoop, hcs]
  simp only [hcs']
  split
  · cases ‹c :: cs'' = []›
  · rename_i heq
    exact absurd (List.cons.inj heq).1 hc
  · rw [← skipValueLoop_skipSpace fuel cs', hcs']

/-- Behind the brace of an object that is not empty comes its first member. -/
theorem skipValueLoop_of_brace {fuel : Nat} {cs' value : List Char}
    (hcs : skipSpace cs = '{' :: cs') (hkey : skipKey cs' = .ok value) :
    skipValueLoop (fuel + 1) cs = (skipValueLoop fuel value >>= skipMembers fuel) := by
  obtain ⟨cs'', hcs'⟩ := exists_of_skipKey hkey
  rw [← skipKey_skipSpace, hcs'] at hkey
  rw [skipValueLoop, hcs]
  simp only [hcs']
  change (skipKey ('"' :: cs'') >>= fun value => skipValueLoop fuel value >>= skipMembers fuel) = _
  rw [hkey, ok_bind]

/-- **Every loop passes over its stretch** if it has a unit of fuel for each character. -/
theorem Spans.skip_eq (h : Spans stretch cs rest) {fuel : Nat}
    (hfuel : cs.length ≤ fuel + rest.length) : stretch.skip fuel cs = .ok rest := by
  induction h generalizing fuel with
  | scalar hcs hbracket hbrace h =>
    obtain ⟨fuel, rfl⟩ := (Spans.scalar hcs hbracket hbrace h).exists_fuel hfuel
    rw [Stretch.skip, skipValueLoop, hcs]
    split
    · rename_i heq
      exact absurd (List.cons.inj heq).1 hbracket
    · rename_i heq
      exact absurd (List.cons.inj heq).1 hbrace
    · exact h
  | emptyArray hcs hclose =>
    obtain ⟨fuel, rfl⟩ := (Spans.emptyArray hcs hclose).exists_fuel hfuel
    rw [Stretch.skip, skipValueLoop, hcs]
    simp only [hclose]
  | array hcs hx hxs ihx ihxs =>
    have hlt := length_of_skipSpace hcs
    have hltx := hx.length_lt
    have hltxs := hxs.length_lt
    obtain ⟨fuel, rfl⟩ : ∃ less, fuel = less + 2 := Nat.exists_eq_add_of_le' (by omega)
    have hvalue : Stretch.value.skip (fuel + 1) _ = _ := ihx (by omega)
    have helements : Stretch.elements.skip (fuel + 1) _ = _ := ihxs (by omega)
    rw [Stretch.skip, skipValueLoop_of_bracket hcs hx]
    exact bind_eq_ok_iff.mpr ⟨_, hvalue, helements⟩
  | emptyObject hcs hclose =>
    obtain ⟨fuel, rfl⟩ := (Spans.emptyObject hcs hclose).exists_fuel hfuel
    rw [Stretch.skip, skipValueLoop, hcs]
    simp only [hclose]
  | object hcs hkey hv hms ihv ihms =>
    have hlt := length_of_skipSpace hcs
    have hltkey := length_of_skipKey hkey
    have hltv := hv.length_lt
    have hltms := hms.length_lt
    obtain ⟨fuel, rfl⟩ := (Spans.object hcs hkey hv hms).exists_fuel hfuel
    rw [Stretch.skip, skipValueLoop_of_brace hcs hkey]
    exact bind_eq_ok_iff.mpr ⟨_, ihv (by omega), ihms (by omega)⟩
  | closeArray hcs =>
    obtain ⟨fuel, rfl⟩ := (Spans.closeArray hcs).exists_fuel hfuel
    rw [Stretch.skip, skipElements, hcs]
    rfl
  | element hcs hx hxs ihx ihxs =>
    have hlt := length_of_skipSpace hcs
    have hltx := hx.length_lt
    have hltxs := hxs.length_lt
    obtain ⟨fuel, rfl⟩ := (Spans.element hcs hx hxs).exists_fuel hfuel
    rw [Stretch.skip, skipElements, hcs]
    exact bind_eq_ok_iff.mpr ⟨_, ihx (by omega), ihxs (by omega)⟩
  | closeObject hcs =>
    obtain ⟨fuel, rfl⟩ := (Spans.closeObject hcs).exists_fuel hfuel
    rw [Stretch.skip, skipMembers, hcs]
    rfl
  | member hcs hkey hv hms ihv ihms =>
    have hlt := length_of_skipSpace hcs
    have hltkey := length_of_skipKey hkey
    have hltv := hv.length_lt
    have hltms := hms.length_lt
    obtain ⟨fuel, rfl⟩ := (Spans.member hcs hkey hv hms).exists_fuel hfuel
    rw [Stretch.skip, skipMembers, hcs]
    simp only [hkey, ok_bind]
    exact bind_eq_ok_iff.mpr ⟨_, ihv (by omega), ihms (by omega)⟩

/-- **What a loop passes over is passed over**, whatever its fuel. -/
theorem spans_of_skip {fuel : Nat} (h : stretch.skip fuel cs = .ok rest) :
    Spans stretch cs rest := by
  induction fuel generalizing stretch cs rest with
  | zero => cases stretch <;> cases h
  | succ fuel ih =>
    have hvalue {cs rest : List Char} (h : skipValueLoop fuel cs = .ok rest) :
        Spans .value cs rest := ih h
    cases stretch with
    | value =>
      rw [Stretch.skip, skipValueLoop] at h
      split at h
      · rename_i cs' hcs
        split at h
        · cases h
        · cases h
          exact .emptyArray hcs ‹_›
        · obtain ⟨cs'', hx, hxs⟩ := bind_eq_ok_iff.mp h
          exact .array hcs (hvalue hx).of_skipSpace (ih hxs)
      · rename_i cs' hcs
        split at h
        · cases h
        · cases h
          exact .emptyObject hcs ‹_›
        · obtain ⟨value, hkey, h⟩ := bind_eq_ok_iff.mp h
          obtain ⟨cs'', hv, hms⟩ := bind_eq_ok_iff.mp h
          rw [skipKey_skipSpace] at hkey
          exact .object hcs hkey (hvalue hv) (ih hms)
      · exact spans_of_skipScalar ‹_› ‹_› h
    | elements =>
      rw [Stretch.skip, skipElements] at h
      split at h
      · cases h
      · cases h
        exact .closeArray ‹_›
      · obtain ⟨cs'', hx, hxs⟩ := bind_eq_ok_iff.mp h
        exact .element ‹_› (hvalue hx) (ih hxs)
      · cases h
    | members =>
      rw [Stretch.skip, skipMembers] at h
      split at h
      · cases h
      · cases h
        exact .closeObject ‹_›
      · obtain ⟨value, hkey, h⟩ := bind_eq_ok_iff.mp h
        obtain ⟨cs'', hv, hms⟩ := bind_eq_ok_iff.mp h
        exact .member ‹_› hkey (hvalue hv) (ih hms)
      · cases h

/-- **Passing over a value**, without any fuel. -/
theorem skipValue_eq_ok_iff : skipValue cs = .ok rest ↔ Spans .value cs rest := by
  constructor
  · intro h
    exact spans_of_skip (show Stretch.value.skip _ cs = .ok rest from h)
  · intro h
    exact h.skip_eq (by omega)

end Rulebook.Json
