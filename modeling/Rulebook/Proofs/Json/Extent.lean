import Rulebook.Proofs.Json.Spans

/-!
# Where a value ends

What can be read as a value can be passed over, and both end at the same place
(`Rulebook.Json.skipValue_of_readValue`). For arrays and for objects this is shown with any reader
for their parts that has the property itself (`Rulebook.Json.spans_of_readElementsLoop`,
`Rulebook.Json.spans_of_readMembersLoop`).

The readers look at a bracket that closes, and leave it to be taken afterwards. So the end of an
array is seen twice, and there may be no spaces left in front of it the second time.
-/

namespace Rulebook.Json

variable {cs cs' cs'' mid value rest : List Char} {k : String} {first : Bool} {v : Value}

/-! ### Punctuation that was read -/

theorem of_closeArray (h : closeArray cs = .ok rest) : skipSpace cs = ']' :: rest := by
  rw [closeArray] at h
  split at h
  · cases h
  · cases h
    assumption
  · split at h <;> cases h
  · cases h

theorem of_closeObject (h : closeObject cs = .ok rest) : skipSpace cs = '}' :: rest := by
  rw [closeObject] at h
  split at h
  · cases h
  · cases h
    assumption
  · cases h
  · cases h

/-- Without a further element the closing bracket is next. -/
theorem of_nextElement_false (h : nextElement first cs = .ok (false, mid)) :
    ∃ behind, skipSpace cs = ']' :: behind ∧ mid = ']' :: behind := by
  rw [nextElement] at h
  split at h
  · cases h
  · cases h
    exact ⟨_, ‹_›, rfl⟩
  · split at h
    · cases h
    · split at h
      · split at h <;> cases h
      · cases h

theorem of_nextElement_first (h : nextElement true cs = .ok (true, mid)) :
    mid = skipSpace cs := by
  rw [nextElement] at h
  split at h
  · cases h
  · cases h
  · cases h
    exact Eq.symm ‹_›

/-- A further element comes behind a comma. -/
theorem of_nextElement (h : nextElement false cs = .ok (true, mid)) :
    ∃ cs', skipSpace cs = ',' :: cs' ∧ mid = skipSpace cs' := by
  rw [nextElement] at h
  split at h
  · cases h
  · cases h
  · rename_i c cs' _ hcs
    rw [if_neg Bool.false_ne_true] at h
    split at h
    · rename_i hc
      subst hc
      split at h
      · cases h
      · cases h
      · cases h
        exact ⟨cs', hcs, rfl⟩
    · cases h

theorem of_readKey {key? : Option String} (h : readKey cs = .ok (key?, mid)) :
    ∃ k cs', key? = some k ∧ cs = '"' :: cs' ∧ readString cs' = .ok (k, mid) := by
  rw [readKey.eq_def] at h
  split at h
  · cases h
  · rename_i cs'
    cases hstring : readString cs' with
    | error stop =>
      rw [hstring] at h
      cases h
    | ok read =>
      obtain ⟨k, rest⟩ := read
      rw [hstring] at h
      cases h
      exact ⟨k, cs', rfl, rfl, hstring⟩
  · cases h
  · cases h

/-- A name is passed over where it is read, with the colon behind it. -/
theorem skipKey_of_readKey (h : readKey (skipSpace cs) = .ok (some k, mid))
    (hcolon : readColon mid = .ok value) : skipKey cs = .ok value := by
  obtain ⟨k', cs', -, hcs, hstring⟩ := of_readKey h
  rw [skipKey, hcs]
  exact bind_eq_ok_iff.mpr ⟨mid, skipString_of_readString hstring, hcolon⟩

/-- Without a further name the closing brace is next. -/
theorem of_nextKey_none (h : nextKey first cs = .ok (none, mid)) : mid = skipSpace cs := by
  rw [nextKey] at h
  split at h
  · cases h
  · cases h
    exact Eq.symm ‹_›
  · split at h
    · obtain ⟨k, cs', hsome, -⟩ := of_readKey h
      cases hsome
    · split at h
      · obtain ⟨k, cs', hsome, -⟩ := of_readKey h
        cases hsome
      · cases h

theorem of_nextKey_first (h : nextKey true cs = .ok (some k, mid)) :
    readKey (skipSpace cs) = .ok (some k, mid) := by
  rw [nextKey] at h
  split at h
  · cases h
  · cases h
  · rename_i hcs
    rw [hcs]
    exact h

/-- A further name comes behind a comma. -/
theorem of_nextKey (h : nextKey false cs = .ok (some k, mid)) :
    ∃ cs', skipSpace cs = ',' :: cs' ∧ readKey (skipSpace cs') = .ok (some k, mid) := by
  rw [nextKey] at h
  split at h
  · cases h
  · cases h
  · rename_i c cs' _ hcs
    rw [if_neg Bool.false_ne_true] at h
    split at h
    · rename_i hc
      subst hc
      exact ⟨cs', hcs, h⟩
    · cases h

/-! ### Inside arrays and objects -/

/-- **What is left of an array can be passed over**: all of it from behind its bracket if `first`
says that none of its elements has been read, and otherwise what is behind an element. -/
def SpansElements (first : Bool) (cs rest : List Char) : Prop :=
  match first with
  | true => ∀ whole, skipSpace whole = '[' :: cs → Spans .value whole rest
  | false => Spans .elements cs rest

/-- **What is left of an object can be passed over**, in the same way. -/
def SpansMembers (first : Bool) (cs rest : List Char) : Prop :=
  match first with
  | true => ∀ whole, skipSpace whole = '{' :: cs → Spans .value whole rest
  | false => Spans .members cs rest

theorem spansElements_end (hcs : skipSpace cs = ']' :: rest) : SpansElements first cs rest := by
  cases first with
  | true => exact fun whole hwhole => .emptyArray hwhole hcs
  | false => exact .closeArray hcs

theorem spansElements_close (hnext : nextElement first cs = .ok (false, mid))
    (hclose : closeArray mid = .ok rest) : SpansElements first cs rest := by
  obtain ⟨behind, hcs, rfl⟩ := of_nextElement_false hnext
  cases of_closeArray hclose
  exact spansElements_end hcs

theorem spansElements_next (hnext : nextElement first cs = .ok (true, mid))
    (hx : Spans .value mid cs'') (hxs : SpansElements false cs'' rest) :
    SpansElements first cs rest := by
  cases first with
  | true =>
    obtain rfl := of_nextElement_first hnext
    exact fun whole hwhole => .array hwhole hx.of_skipSpace hxs
  | false =>
    obtain ⟨cs', hcs, rfl⟩ := of_nextElement hnext
    exact .element hcs hx.of_skipSpace hxs

theorem spansMembers_close (hnext : nextKey first cs = .ok (none, mid))
    (hclose : closeObject mid = .ok rest) : SpansMembers first cs rest := by
  have hcs : skipSpace cs = '}' :: rest := by
    have hmid := of_closeObject hclose
    rwa [of_nextKey_none hnext, skipSpace_skipSpace] at hmid
  cases first with
  | true => exact fun whole hwhole => .emptyObject hwhole hcs
  | false => exact .closeObject hcs

theorem spansMembers_next (hnext : nextKey first cs = .ok (some k, mid))
    (hcolon : readColon mid = .ok value) (hv : Spans .value value cs'')
    (hms : SpansMembers false cs'' rest) : SpansMembers first cs rest := by
  cases first with
  | true =>
    have hkey := skipKey_of_readKey (of_nextKey_first hnext) hcolon
    exact fun whole hwhole => .object hwhole hkey hv hms
  | false =>
    obtain ⟨cs', hcs, hkey⟩ := of_nextKey hnext
    exact .member hcs (skipKey_of_readKey hkey hcolon) hv hms

/-! ### What was read is passed over -/

variable {α : Type} {item : List Char → Except Stop (Read α)} {xs : List α}
  {ms : List (String × α)} {fuel depth : Nat}

/-- **Elements are passed over where they are read.** -/
theorem spans_of_readElementsLoop
    (hitem : ∀ {cs x rest}, item cs = .ok (x, rest) → Spans .value cs rest)
    (h : readElementsLoop item fuel first cs = .ok (xs, mid)) (hclose : closeArray mid = .ok rest) :
    SpansElements first cs rest := by
  induction fuel generalizing first cs xs with
  | zero => cases h
  | succ fuel ih =>
    rw [readElementsLoop, bind_eq_ok_iff] at h
    obtain ⟨⟨more, cs₁⟩, hnext, h⟩ := h
    cases more with
    | false =>
      cases h
      exact spansElements_close hnext hclose
    | true =>
      obtain ⟨⟨x, cs₂⟩, hx, h⟩ := bind_eq_ok_iff.mp h
      obtain ⟨⟨xs', cs₃⟩, hxs, h⟩ := bind_eq_ok_iff.mp h
      cases h
      exact spansElements_next hnext (hitem hx) (ih hxs)

/-- **Members are passed over where they are read.** -/
theorem spans_of_readMembersLoop
    (hitem : ∀ {cs x rest}, item cs = .ok (x, rest) → Spans .value cs rest)
    (h : readMembersLoop item fuel first cs = .ok (ms, mid)) (hclose : closeObject mid = .ok rest) :
    SpansMembers first cs rest := by
  induction fuel generalizing first cs ms with
  | zero => cases h
  | succ fuel ih =>
    rw [readMembersLoop, bind_eq_ok_iff] at h
    obtain ⟨⟨key?, cs₁⟩, hnext, h⟩ := h
    cases key? with
    | none =>
      cases h
      exact spansMembers_close hnext hclose
    | some k =>
      obtain ⟨cs₂, hcolon, h⟩ := bind_eq_ok_iff.mp h
      obtain ⟨⟨x, cs₃⟩, hx, h⟩ := bind_eq_ok_iff.mp h
      obtain ⟨⟨ms', cs₄⟩, hms, h⟩ := bind_eq_ok_iff.mp h
      cases h
      exact spansMembers_next hnext hcolon (hitem hx) (ih hms)

/-- **A value is passed over where it is read.** -/
theorem spans_of_readValue (h : readValue depth cs = .ok (v, rest)) : Spans .value cs rest := by
  induction depth generalizing cs v rest with
  | zero =>
    rw [readValue] at h
    split at h
    · cases h
    · cases h
    · exact spans_of_skipScalar ‹_› ‹_› (skipScalar_of_readScalar h)
  | succ depth ih =>
    rw [readValue] at h
    split at h
    · obtain ⟨⟨xs, cs₁⟩, hxs, h⟩ := bind_eq_ok_iff.mp h
      obtain ⟨cs₂, hclose, h⟩ := bind_eq_ok_iff.mp h
      cases h
      exact spans_of_readElementsLoop ih hxs hclose cs ‹_›
    · obtain ⟨⟨ms, cs₁⟩, hms, h⟩ := bind_eq_ok_iff.mp h
      obtain ⟨cs₂, hclose, h⟩ := bind_eq_ok_iff.mp h
      cases h
      exact spans_of_readMembersLoop ih hms hclose cs ‹_›
    · exact spans_of_skipScalar ‹_› ‹_› (skipScalar_of_readScalar h)

theorem skipValue_of_readValue (h : readValue depth cs = .ok (v, rest)) :
    skipValue cs = .ok rest :=
  skipValue_eq_ok_iff.mpr (spans_of_readValue h)

end Rulebook.Json
