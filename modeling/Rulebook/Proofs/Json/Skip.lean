import Rulebook.Proofs.Json.Number
import Rulebook.Proofs.Json.Reader

/-!
# Passing over what was written

Every value is passed over as it is written (`Rulebook.Json.skipValue_compact`), and here nothing
is asked of it: doubles, integers of any size and any depth of nesting are all the same to someone
who only looks for the end. So a member that nobody asked for never keeps a record from being read.

The fuel of the loops counts characters. Every value, and every comma before one, takes at least
one of them, so a text never takes more fuel than it is long.
-/

namespace Rulebook.Json

variable {c : Char} {cs t rest : List Char} {fuel : Nat} {v : Value}

/-! ### Induction on values -/

/-- **Induction on a value**, where a property of the values inside an array or an object is known
for all of them at once. -/
theorem Value.induct {P : Value → Prop} (null : P .null) (bool : ∀ b, P (.bool b))
    (integer : ∀ n, P (.integer n)) (float : ∀ x, P (.float x)) (string : ∀ s, P (.string s))
    (array : ∀ xs : List Value, (∀ x ∈ xs, P x) → P (.array xs))
    (object : ∀ ms : List Member, (∀ m ∈ ms, P m.2) → P (.object ms)) (v : Value) : P v :=
  @Value.rec P (fun xs => ∀ x ∈ xs, P x) (fun ms => ∀ m ∈ ms, P m.2) (fun m => P m.2)
    null bool integer float string array object
    (fun _ hx => absurd hx List.not_mem_nil)
    (fun _ _ hx hxs => List.forall_mem_cons.mpr ⟨hx, hxs⟩)
    (fun _ hm => absurd hm List.not_mem_nil)
    (fun _ _ hm hms => List.forall_mem_cons.mpr ⟨hm, hms⟩)
    (fun _ _ hv => hv) v

/-! ### How values start -/

/-- **The characters that a value can start with**, as it is written. -/
def Value.Opens : Value → Char → Prop
  | .null, c => c = 'n'
  | .bool b, c => c = if b then 't' else 'f'
  | .integer _, c => c = '-' ∨ c.isDigit = true
  | .float _, c => c = 'n' ∨ c = '-' ∨ c.isDigit = true
  | .string _, c => c = '"'
  | .array _, c => c = '['
  | .object _, c => c = '{'

theorem Unsigned.exists_cons (h : Unsigned t) : ∃ c cs, t = c :: cs ∧ c.isDigit = true := by
  cases h with
  | whole hw =>
    obtain ⟨c, cs, rfl, hc, -⟩ := hw.exists_cons
    exact ⟨c, _, rfl, hc⟩
  | fraction hw =>
    obtain ⟨c, cs, rfl, hc, -⟩ := hw.exists_cons
    exact ⟨c, _, rfl, hc⟩

/-- **A value starts with one of its characters.** -/
theorem exists_opens (v : Value) : ∃ c cs, writeCompact v = c :: cs ∧ v.Opens c := by
  cases v with
  | null => exact ⟨_, _, rfl, rfl⟩
  | bool b => cases b <;> exact ⟨_, _, rfl, rfl⟩
  | integer n =>
    obtain ⟨c, cs, hcs, hc⟩ := writeInteger_eq_cons n
    exact ⟨c, cs, hcs, hc⟩
  | float x =>
    rcases writeFloat_cases x with hx | ⟨t, ht, hx | hx⟩
    · exact ⟨_, _, hx, .inl rfl⟩
    · obtain ⟨c, cs, rfl, hc⟩ := ht.exists_cons
      exact ⟨c, cs, hx, .inr (.inr hc)⟩
    · exact ⟨_, _, hx, .inr (.inl rfl)⟩
  | string s => exact ⟨_, _, rfl, rfl⟩
  | array xs => cases xs <;> exact ⟨_, _, rfl, rfl⟩
  | object ms =>
    cases ms with
    | nil => exact ⟨_, _, rfl, rfl⟩
    | cons m ms => exact ⟨_, _, rfl, rfl⟩

/-- What starts a value is no blank, and closes no array. -/
theorem Value.Opens.starts (h : v.Opens c) : Text.isBlank c = false ∧ c ≠ ']' := by
  have hnumber (hc : c = '-' ∨ c.isDigit = true) :
      Text.isBlank c = false ∧ c ≠ ']' :=
    ⟨isBlank_of_opens_number hc, ne_of_opens_number hc (by decide)⟩
  cases v with
  | bool b => cases b <;> obtain rfl := h <;> decide
  | integer n => exact hnumber h
  | float x =>
    rcases h with rfl | h
    · decide
    · exact hnumber h
  | _ =>
    obtain rfl := h
    decide

/-- Only an array starts with a bracket. -/
theorem Value.Opens.exists_array (h : v.Opens '[') : ∃ xs, v = .array xs := by
  cases v with
  | bool b => cases b <;> simp [Value.Opens] at h
  | _ => simp_all [Value.Opens]

/-- Only a text starts with a quotation mark. -/
theorem Value.Opens.exists_string (h : v.Opens '"') : ∃ s, v = .string s := by
  cases v with
  | bool b => cases b <;> simp [Value.Opens] at h
  | _ => simp_all [Value.Opens]

/-- Only a truth value starts with its word. -/
theorem Value.Opens.exists_bool (h : v.Opens c) (hc : c = 't' ∨ c = 'f') : ∃ b, v = .bool b := by
  cases v with
  | bool b => exact ⟨b, rfl⟩
  | _ => rcases hc with rfl | rfl <;> simp [Value.Opens] at h

/-- Only an object starts with a brace. -/
theorem Value.Opens.exists_object (h : v.Opens '{') : ∃ ms, v = .object ms := by
  cases v with
  | bool b => cases b <;> simp [Value.Opens] at h
  | _ => simp_all [Value.Opens]

/-! ### Texts -/

/-- An escape by number is passed over. -/
theorem skipString_numbered (h : c.toNat < 0x20) (cs : List Char) :
    skipString ('\\' :: 'u' :: '0' :: '0' :: Nat.digitChar (c.toNat / 16) ::
        Nat.digitChar (c.toNat % 16) :: cs) = skipString cs := by
  rw [skipString]
  simp only [(hexUnit?_of_lt c.toNat h).1]

/-- **A character is passed over in the way it is written.** -/
theorem skipString_escapedChar (c : Char) (cs : List Char) :
    skipString (escapedChar c ++ cs) = skipString cs := by
  rw [escapedChar.eq_def]
  split
  -- the seven characters that have an escape of their own
  iterate 7
    rw [List.cons_append, List.singleton_append, skipString.eq_def]
    rfl
  · rename_i hquote hback _ _ _ _ _
    by_cases h : c.toNat < 0x20
    · rw [if_pos h]
      exact skipString_numbered h cs
    · rw [if_neg h, List.singleton_append, skipString.eq_7 c cs hquote
        (fun _ _ _ _ _ h _ => hback h) (fun _ h _ => hback h) (fun _ _ h _ => hback h)
        (fun h _ => hback h), if_neg h]

/-- **A text is passed over**, from behind its opening quotation mark. -/
theorem skipString_flatMap (s rest : List Char) :
    skipString (s.flatMap escapedChar ++ '"' :: rest) = .ok rest := by
  induction s with
  | nil => rfl
  | cons c s ih => rw [List.flatMap_cons, List.append_assoc, skipString_escapedChar, ih]

/-- **A name is passed over**, with the colon behind it. -/
theorem skipKey_writeText (k : String) (rest : List Char) :
    skipKey (writeText k ++ ':' :: rest) = .ok rest := by
  rw [writeText_append, skipKey, skipSpace_cons rfl]
  change (skipString (k.toList.flatMap escapedChar ++ '"' :: ':' :: rest) >>= readColon) = _
  rw [skipString_flatMap, ok_bind, readColon_colon]

/-! ### Scalars -/

/-- A number is passed over, with a minus sign or without. -/
theorem skipScalar_number (ht : Unsigned t) (hcs : cs = t ∨ cs = '-' :: t) (hrest : Ends rest) :
    skipScalar (cs ++ rest) = .ok rest := by
  rcases hcs with rfl | rfl
  · have hskip := skipUnsigned_append ht hrest
    obtain ⟨c, cs, rfl, hc⟩ := ht.exists_cons
    have hne (d : Char) (hd : d.isDigit = false) : c ≠ d :=
      fun heq => Bool.false_ne_true (hd.symm.trans (heq ▸ hc))
    rw [List.cons_append, skipScalar.eq_7 c _ (hne 'n' rfl) (hne 't' rfl) (hne 'f' rfl)
      (hne '"' rfl) (hne '-' rfl), if_pos hc]
    exact hskip
  · exact skipUnsigned_append ht hrest

/-- **A value that is no array and no object is passed over.** -/
theorem skipScalar_compact (hv : (∀ xs, v ≠ .array xs) ∧ ∀ ms, v ≠ .object ms)
    (hrest : Ends rest) : skipScalar (writeCompact v ++ rest) = .ok rest := by
  cases v with
  | null => rfl
  | bool b => cases b <;> rfl
  | integer n =>
    obtain ⟨t, ht, hn⟩ := writeInteger_cases n
    exact skipScalar_number ht hn hrest
  | float x =>
    rcases writeFloat_cases x with hx | ⟨t, ht, hx⟩
    · rw [writeCompact, hx]
      rfl
    · exact skipScalar_number ht hx hrest
  | string s =>
    rw [writeCompact, writeText_append]
    exact skipString_flatMap s.toList rest
  | array xs => exact absurd rfl (hv.1 xs)
  | object ms => exact absurd rfl (hv.2 ms)

/-! ### Arrays and objects -/

/-- **A loop passes over the text `t`** if it has a unit of fuel for each of its characters. -/
def Passes (skip : Nat → List Char → Except Stop (List Char)) (t : List Char) : Prop :=
  ∀ {fuel rest}, t.length ≤ fuel → Ends rest → skip fuel (t ++ rest) = .ok rest

variable {x : Value} {xs : List Value} {ms : List Member}

theorem ends_compactElements (xs : List Value) (rest : List Char) :
    Ends (writeCompactElements xs ++ rest) := by
  cases xs <;> exact ends_cons (by decide)

theorem ends_compactMembers (ms : List Member) (rest : List Char) :
    Ends (writeCompactMembers ms ++ rest) := by
  cases ms <;> exact ends_cons (by decide)

/-- What a value starts with is no space. -/
theorem skipSpace_compact (v : Value) (rest : List Char) :
    skipSpace (writeCompact v ++ rest) = writeCompact v ++ rest := by
  obtain ⟨c, cs, hcs, hc⟩ := exists_opens v
  rw [hcs, List.cons_append]
  exact skipSpace_cons (isSpace_of_not_isBlank hc.starts.1) _

/-- The elements behind one are passed over, with the end of their array. -/
theorem skipElements_compact (h : ∀ x ∈ xs, Passes skipValueLoop (writeCompact x)) :
    Passes skipElements (writeCompactElements xs) := by
  intro fuel rest hfuel hrest
  induction xs generalizing fuel with
  | nil =>
    obtain ⟨fuel, rfl⟩ := Nat.exists_eq_add_one_of_ne_zero (Nat.ne_zero_of_lt hfuel)
    rfl
  | cons x xs ih =>
    rw [List.forall_mem_cons] at h
    obtain ⟨fuel, rfl⟩ := Nat.exists_eq_add_one_of_ne_zero (Nat.ne_zero_of_lt hfuel)
    simp only [writeCompactElements, List.length_append, List.length_cons] at hfuel
    have hx : skipValueLoop fuel (writeCompact x ++ (writeCompactElements xs ++ rest)) =
        .ok (writeCompactElements xs ++ rest) := h.1 (by omega) (ends_compactElements xs rest)
    simp only [writeCompactElements, List.cons_append, List.append_assoc]
    rw [skipElements, skipSpace_cons rfl]
    simp only [hx, ok_bind]
    exact ih h.2 (by omega)

/-- The members behind one are passed over, with the end of their object. -/
theorem skipMembers_compact (h : ∀ m ∈ ms, Passes skipValueLoop (writeCompact m.2)) :
    Passes skipMembers (writeCompactMembers ms) := by
  intro fuel rest hfuel hrest
  induction ms generalizing fuel with
  | nil =>
    obtain ⟨fuel, rfl⟩ := Nat.exists_eq_add_one_of_ne_zero (Nat.ne_zero_of_lt hfuel)
    rfl
  | cons m ms ih =>
    obtain ⟨k, v⟩ := m
    rw [List.forall_mem_cons] at h
    obtain ⟨fuel, rfl⟩ := Nat.exists_eq_add_one_of_ne_zero (Nat.ne_zero_of_lt hfuel)
    simp only [writeCompactMembers, List.length_append, List.length_cons] at hfuel
    have hv : skipValueLoop fuel (writeCompact v ++ (writeCompactMembers ms ++ rest)) =
        .ok (writeCompactMembers ms ++ rest) :=
      h.1 (show (writeCompact v).length ≤ fuel by omega) (ends_compactMembers ms rest)
    simp only [writeCompactMembers, List.cons_append, List.append_assoc]
    rw [skipMembers, skipSpace_cons rfl]
    simp only [skipKey_writeText, hv, ok_bind]
    exact ih h.2 (by omega)

/-- A value that is no array and no object is passed over by the loop. -/
theorem passes_scalar (hv : (∀ xs, v ≠ .array xs) ∧ ∀ ms, v ≠ .object ms) :
    Passes skipValueLoop (writeCompact v) := by
  intro fuel rest hfuel hrest
  have hskip := skipScalar_compact hv hrest
  obtain ⟨c, cs, hcs, hc⟩ := exists_opens v
  rw [hcs] at hfuel
  obtain ⟨fuel, rfl⟩ := Nat.exists_eq_add_one_of_ne_zero (Nat.ne_zero_of_lt hfuel)
  rw [skipValueLoop, skipSpace_compact]
  rw [hcs, List.cons_append] at hskip ⊢
  -- only an array starts with a bracket, and only an object with a brace
  split
  · rename_i heq
    obtain ⟨rfl, -⟩ := List.cons.inj heq
    obtain ⟨xs, rfl⟩ := hc.exists_array
    exact absurd rfl (hv.1 xs)
  · rename_i heq
    obtain ⟨rfl, -⟩ := List.cons.inj heq
    obtain ⟨ms, rfl⟩ := hc.exists_object
    exact absurd rfl (hv.2 ms)
  · exact hskip

/-- Behind the bracket of an array that is not empty comes its first element. -/
theorem skipValueLoop_bracket (hc : isSpace c = false) (hne : c ≠ ']') :
    skipValueLoop (fuel + 1) ('[' :: c :: cs) =
      (skipValueLoop fuel (c :: cs) >>= skipElements fuel) := by
  rw [skipValueLoop, skipSpace_cons rfl]
  split
  · rename_i heq
    obtain ⟨-, rfl⟩ := List.cons.inj heq
    rw [skipSpace_cons hc]
    split
    · rename_i heq
      cases heq
    · rename_i heq
      exact absurd (List.cons.inj heq).1 hne
    · rfl
  · rename_i heq
    exact absurd (List.cons.inj heq).1 (by decide)
  · rename_i hbracket _
    exact absurd rfl (hbracket _)

/-- An array is passed over if its elements are. -/
theorem passes_array (h : ∀ x ∈ xs, Passes skipValueLoop (writeCompact x)) :
    Passes skipValueLoop (writeCompact (.array xs)) := by
  intro fuel rest hfuel hrest
  cases xs with
  | nil =>
    obtain ⟨fuel, rfl⟩ := Nat.exists_eq_add_one_of_ne_zero (Nat.ne_zero_of_lt hfuel)
    rfl
  | cons x xs =>
    rw [List.forall_mem_cons] at h
    obtain ⟨fuel, rfl⟩ := Nat.exists_eq_add_one_of_ne_zero (Nat.ne_zero_of_lt hfuel)
    simp only [writeCompact, List.length_append, List.length_cons] at hfuel
    have hx : skipValueLoop fuel (writeCompact x ++ (writeCompactElements xs ++ rest)) =
        .ok (writeCompactElements xs ++ rest) := h.1 (by omega) (ends_compactElements xs rest)
    have hxs : skipElements fuel (writeCompactElements xs ++ rest) = .ok rest :=
      skipElements_compact h.2 (by omega) hrest
    simp only [writeCompact, List.cons_append, List.append_assoc]
    obtain ⟨c, cs, hcs, hc⟩ := exists_opens x
    rw [hcs, List.cons_append] at hx ⊢
    rw [skipValueLoop_bracket (isSpace_of_not_isBlank hc.starts.1) hc.starts.2, hx, ok_bind, hxs]

/-- Behind the brace of an object that is not empty comes its first member. -/
theorem skipValueLoop_brace (k : String) (rest : List Char) :
    skipValueLoop (fuel + 1) ('{' :: (writeText k ++ ':' :: rest)) =
      (skipValueLoop fuel rest >>= skipMembers fuel) := by
  have hkey := skipKey_writeText k rest
  rw [writeText_append] at hkey ⊢
  rw [skipValueLoop, skipSpace_cons rfl]
  change (skipKey _ >>= fun rest => skipValueLoop fuel rest >>= skipMembers fuel) = _
  rw [hkey, ok_bind]

/-- An object is passed over if the values of its members are. -/
theorem passes_object (h : ∀ m ∈ ms, Passes skipValueLoop (writeCompact m.2)) :
    Passes skipValueLoop (writeCompact (.object ms)) := by
  intro fuel rest hfuel hrest
  cases ms with
  | nil =>
    obtain ⟨fuel, rfl⟩ := Nat.exists_eq_add_one_of_ne_zero (Nat.ne_zero_of_lt hfuel)
    rfl
  | cons m ms =>
    obtain ⟨k, v⟩ := m
    rw [List.forall_mem_cons] at h
    obtain ⟨fuel, rfl⟩ := Nat.exists_eq_add_one_of_ne_zero (Nat.ne_zero_of_lt hfuel)
    simp only [writeCompact, List.length_append, List.length_cons] at hfuel
    have hv : skipValueLoop fuel (writeCompact v ++ (writeCompactMembers ms ++ rest)) =
        .ok (writeCompactMembers ms ++ rest) :=
      h.1 (show (writeCompact v).length ≤ fuel by omega) (ends_compactMembers ms rest)
    have hms : skipMembers fuel (writeCompactMembers ms ++ rest) = .ok rest :=
      skipMembers_compact h.2 (by omega) hrest
    simp only [writeCompact, List.cons_append, List.append_assoc]
    rw [skipValueLoop_brace, hv, ok_bind, hms]

/-- **The loop passes over every value.** -/
theorem passes_compact (v : Value) : Passes skipValueLoop (writeCompact v) := by
  induction v using Value.induct with
  | array xs ih => exact passes_array ih
  | object ms ih => exact passes_object ih
  | _ => exact passes_scalar ⟨by simp, by simp⟩

/-- **Every value is passed over as it is written**, in front of anything that ends a number. -/
theorem skipValue_compact (v : Value) (hrest : Ends rest) :
    skipValue (writeCompact v ++ rest) = .ok rest := by
  refine passes_compact v ?_ hrest
  rw [List.length_append]
  omega

end Rulebook.Json
