import Rulebook.Proofs.Json.Printer
import Rulebook.Proofs.Json.Settled

/-!
# How deep values are nested

Two things keep a value from being read back from the way it is written: it may be nested deeper
than the reader goes (`Rulebook.Json.Value.Nested` says that it is not), and it may hold numbers
that are no integers in range (`Rulebook.Json.Value.Integral` says that it holds none). Together
they are what `Rulebook.Json.Value.Exact` asks for (`Rulebook.Json.exact_iff`).

Only the second one is a question for a value that comes from a text. The reader goes down one
level for every bracket that it opens and refuses to go on at the last one, so whatever it has
read is nested no deeper than it may go (`Rulebook.Json.nested_of_readValue`).
-/

namespace Rulebook.Json

/-! ### Both halves of exactness -/

namespace Value

/-- **Whether a value is nested at most `depth` deep.** -/
inductive Nested : Nat → Value → Prop
  | null {depth : Nat} : Nested depth .null
  | bool {depth : Nat} (b : Bool) : Nested depth (.bool b)
  | integer {depth : Nat} (n : Int) : Nested depth (.integer n)
  | float {depth : Nat} (x : Binary64) : Nested depth (.float x)
  | string {depth : Nat} (s : String) : Nested depth (.string s)
  | array {depth : Nat} {xs : List Value} (hxs : ∀ x ∈ xs, Nested depth x) :
      Nested (depth + 1) (.array xs)
  | object {depth : Nat} {ms : List Member} (hms : ∀ m ∈ ms, Nested depth m.2) :
      Nested (depth + 1) (.object ms)

/-- **Whether all numbers of a value are integers in range.** -/
inductive Integral : Value → Prop
  | null : Integral .null
  | bool (b : Bool) : Integral (.bool b)
  | integer {n : Int} (hn : InIntegerRange n) : Integral (.integer n)
  | string (s : String) : Integral (.string s)
  | array {xs : List Value} (hxs : ∀ x ∈ xs, Integral x) : Integral (.array xs)
  | object {ms : List Member} (hms : ∀ m ∈ ms, Integral m.2) : Integral (.object ms)

end Value

open Value (Nested Integral)

variable {depth : Nat} {v : Value} {cs rest : List Char}

theorem exact_of_nested (h : Nested depth v) (hv : Integral v) : v.Exact depth := by
  induction h with
  | null => exact .null
  | bool b => exact .bool b
  | integer n =>
    cases hv with
    | integer hn => exact .integer hn
  | float x => cases hv
  | string s => exact .string s
  | array _ ih =>
    cases hv with
    | array hxs => exact .array fun x hx => ih x hx (hxs x hx)
  | object _ ih =>
    cases hv with
    | object hms => exact .object fun m hm => ih m hm (hms m hm)

/-- **A value is kept exactly by a text if it is not nested too deep and its numbers are integers
in range.** -/
theorem exact_iff : v.Exact depth ↔ Nested depth v ∧ Integral v := by
  refine ⟨fun h => ?_, fun h => exact_of_nested h.1 h.2⟩
  induction h with
  | null => exact ⟨.null, .null⟩
  | bool b => exact ⟨.bool b, .bool b⟩
  | integer hn => exact ⟨.integer _, .integer hn⟩
  | string s => exact ⟨.string s, .string s⟩
  | array _ ih => exact ⟨.array fun x hx => (ih x hx).1, .array fun x hx => (ih x hx).2⟩
  | object _ ih => exact ⟨.object fun m hm => (ih m hm).1, .object fun m hm => (ih m hm).2⟩

/-- Settling makes no value deeper. -/
theorem Value.Nested.settled (h : Nested depth v) : Nested depth v.settled := by
  induction h with
  | null => exact .null
  | bool b => exact .bool b
  | integer n => exact .integer n
  | float x => exact .float x
  | string s => exact .string s
  | array _ ih =>
    rw [Value.settled, Value.settledElements_eq_map]
    exact .array (List.forall_mem_map.mpr ih)
  | @object _ ms _ ih =>
    rw [Value.settled, Value.settledMembers_eq_map]
    refine .object fun m hm => ?_
    obtain ⟨n, hn, rfl⟩ := List.mem_map.mp (mem_of_mem_settleMembers hm)
    exact ih n hn

/-! ### What a reader has read -/

/-- What was read from a whole text was read at its front. -/
theorem exists_of_readAll {α : Type} {reader : List Char → Except Stop (Read α)} {x : α}
    {t : String} (h : readAll reader t = .ok x) : ∃ rest, reader t.toList = .ok (x, rest) :=
  (readAll_eq_ok_iff.mp h).imp fun _ => And.left

section Inside

variable {α : Type} {item : List Char → Except Stop (Read α)} {P : α → Prop} {xs : List α}
  {ms : List (String × α)}

/-- What holds of everything that is read as an element holds of all elements of an array. -/
theorem forall_mem_of_readElementsLoop (hitem : ∀ {cs x rest}, item cs = .ok (x, rest) → P x)
    {fuel : Nat} {first : Bool} (h : readElementsLoop item fuel first cs = .ok (xs, rest)) :
    ∀ x ∈ xs, P x := by
  induction fuel generalizing first cs xs with
  | zero => cases h
  | succ fuel ih =>
    rw [readElementsLoop, bind_eq_ok_iff] at h
    obtain ⟨⟨more, cs'⟩, -, h⟩ := h
    cases more with
    | false =>
      cases h
      exact fun x hx => absurd hx List.not_mem_nil
    | true =>
      obtain ⟨⟨x, cs₁⟩, hx, h⟩ := bind_eq_ok_iff.mp h
      obtain ⟨⟨xs', cs₂⟩, hxs, h⟩ := bind_eq_ok_iff.mp h
      cases h
      exact List.forall_mem_cons.mpr ⟨hitem hx, ih hxs⟩

/-- What holds of everything that is read as a value holds of all members of an object. -/
theorem forall_mem_of_readMembersLoop (hitem : ∀ {cs x rest}, item cs = .ok (x, rest) → P x)
    {fuel : Nat} {first : Bool} (h : readMembersLoop item fuel first cs = .ok (ms, rest)) :
    ∀ m ∈ ms, P m.2 := by
  induction fuel generalizing first cs ms with
  | zero => cases h
  | succ fuel ih =>
    rw [readMembersLoop, bind_eq_ok_iff] at h
    obtain ⟨⟨key?, cs'⟩, -, h⟩ := h
    cases key? with
    | none =>
      cases h
      exact fun m hm => absurd hm List.not_mem_nil
    | some k =>
      obtain ⟨cs₁, -, h⟩ := bind_eq_ok_iff.mp h
      obtain ⟨⟨x, cs₂⟩, hx, h⟩ := bind_eq_ok_iff.mp h
      obtain ⟨⟨ms', cs₃⟩, hms, h⟩ := bind_eq_ok_iff.mp h
      cases h
      exact List.forall_mem_cons.mpr ⟨hitem hx, ih hms⟩

end Inside

/-! ### Scalars -/

section Scalars

/-- **A value that is a number.** -/
inductive Value.IsNumber : Value → Prop
  | integer (n : Int) : IsNumber (.integer n)
  | float (x : Binary64) : IsNumber (.float x)

variable {negative : Bool} {significand : Nat}

theorem isNumber_of_finishFloat {exponent : Int}
    (h : finishFloat negative significand exponent cs = .ok (v, rest)) : v.IsNumber := by
  rw [finishFloat] at h
  split at h
  · cases h
    exact .float _
  · cases h

theorem isNumber_of_readExponentDigits {power : Int} {raises : Bool}
    (h : readExponentDigits negative significand power raises cs = .ok (v, rest)) :
    v.IsNumber := by
  rw [readExponentDigits.eq_def] at h
  split at h
  · cases h
  · split at h
    · cases h
    · split at h
      · exact isNumber_of_finishFloat h
      · split at h
        · cases h
        · cases h
          exact .float _

theorem isNumber_of_readTail {power : Int}
    (h : readTail negative significand power cs = .ok (v, rest)) : v.IsNumber := by
  have hexponent {cs : List Char} (h : readExponent negative significand power cs = .ok (v, rest)) :
      v.IsNumber := by
    rw [readExponent.eq_def] at h
    split at h <;> exact isNumber_of_readExponentDigits h
  rw [readTail.eq_def] at h
  split at h
  · exact hexponent h
  · exact hexponent h
  · exact isNumber_of_finishFloat h

theorem isNumber_of_readAfterWhole {power : Nat}
    (h : readAfterWhole negative significand power cs = .ok (v, rest)) : v.IsNumber := by
  rw [readAfterWhole.eq_def] at h
  split at h
  · simp only [readFraction] at h
    split at h
    · cases h
    · exact isNumber_of_readTail h
  · split at h
    · exact isNumber_of_readTail h
    · split at h
      · cases h
        exact .integer _
      · split at h
        · cases h
          exact .integer _
        · cases h
          exact .float _

theorem isNumber_of_readNumber (h : readNumber cs = .ok (v, rest)) : v.IsNumber := by
  have hunsigned {negative : Bool} {cs : List Char}
      (h : readUnsigned negative cs = .ok (v, rest)) : v.IsNumber := by
    rw [readUnsigned.eq_def] at h
    split at h
    · cases h
    · split at h
      · cases h
      · exact isNumber_of_readAfterWhole h
    · split at h
      · exact isNumber_of_readAfterWhole h
      · cases h
  rw [readNumber.eq_def] at h
  split at h <;> exact hunsigned h

theorem Value.IsNumber.nested (h : v.IsNumber) : Nested depth v := by
  cases h with
  | integer n => exact .integer n
  | float x => exact .float x

/-- What is no array and no object is not nested at all. -/
theorem nested_of_readScalar (h : readScalar cs = .ok (v, rest)) : Nested depth v := by
  rw [readScalar.eq_def] at h
  split at h
  · cases h
  · obtain ⟨_, -, h⟩ := bind_eq_ok_iff.mp h
    cases h
    exact .null
  · obtain ⟨_, -, h⟩ := bind_eq_ok_iff.mp h
    cases h
    exact .bool true
  · obtain ⟨_, -, h⟩ := bind_eq_ok_iff.mp h
    cases h
    exact .bool false
  · rename_i cs'
    cases hs : readString cs' with
    | error stop =>
      rw [hs] at h
      cases h
    | ok read =>
      rw [hs] at h
      cases h
      exact .string _
  · split at h
    · exact (isNumber_of_readNumber h).nested
    · cases h

end Scalars

/-! ### Values -/

/-- **What has been read is nested no deeper than the reader may go.** -/
theorem nested_of_readValue (h : readValue depth cs = .ok (v, rest)) : Nested depth v := by
  induction depth generalizing cs v rest with
  | zero =>
    rw [readValue] at h
    split at h
    · cases h
    · cases h
    · exact nested_of_readScalar h
  | succ depth ih =>
    rw [readValue] at h
    split at h
    · obtain ⟨⟨xs, cs₁⟩, hxs, h⟩ := bind_eq_ok_iff.mp h
      obtain ⟨cs₂, -, h⟩ := bind_eq_ok_iff.mp h
      cases h
      exact .array (forall_mem_of_readElementsLoop ih hxs)
    · obtain ⟨⟨ms, cs₁⟩, hms, h⟩ := bind_eq_ok_iff.mp h
      obtain ⟨cs₂, -, h⟩ := bind_eq_ok_iff.mp h
      cases h
      exact .object (forall_mem_of_readMembersLoop ih hms)
    · exact nested_of_readScalar h

end Rulebook.Json
