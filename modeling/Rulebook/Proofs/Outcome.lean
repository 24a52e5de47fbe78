import Rulebook.Evaluation
import Rulebook.Proofs.Json.Agreement

/-!
# Which values are outcomes

A value is an outcome (`Rulebook.Outcome.Written`) if it is an object with a single member called
`result`, which holds a truth value; all its other members are the details, settled. An outcome is
never written as an array. The reader goes by this with every text that has a value
(`Rulebook.Outcome.agrees_read`).

Since every member is kept, nothing is passed over, and so there is a value on every text that an
outcome is read from (`Rulebook.Outcome.exists_value`).
-/

namespace Rulebook.Outcome

open Json

variable {depth fuel : Nat} {first : Bool} {result result' : Option Bool}
  {cs mid rest : List Char} {ms details : List Member} {v : Value} {o : Outcome}

/-- **A value is an outcome.** -/
inductive Written : Value → Outcome → Prop
  | object {ms : List Member} {passed : Bool} {details : List Member}
      (hresult : valuesOf ["result"] ms = [.bool passed])
      (hdetails : (Value.object (ms.filter fun m => m.1 ≠ "result")).settled = .object details) :
      Written (.object ms) ⟨passed, details⟩

/-! ### The members -/

/-- The result and the other members of an object; `result` is what came of the result before. -/
def gather? : Option Bool → List Member → Option (Option Bool × List Member)
  | result, [] => some (result, [])
  | result, (k, v) :: ms =>
    if k = "result" then
      if result.isSome then none else v.flag?.bind fun b => gather? (some b) ms
    else (gather? result ms).map fun (result, ms) => (result, (k, v) :: ms)

theorem flag?_eq_some_iff {b : Bool} : v.flag? = some b ↔ v = .bool b := by
  cases v <;> simp [Value.flag?]

/-- **The result is the only member of its name**, if it was not there before. -/
theorem gather?_eq_some_iff : gather? result ms = some (result', details) ↔
    details = ms.filter (fun m => m.1 ≠ "result") ∧
      (valuesOf ["result"] ms = [] ∧ result' = result ∨
        ∃ b, valuesOf ["result"] ms = [.bool b] ∧ result = none ∧ result' = some b) := by
  induction ms generalizing result details with
  | nil =>
    rw [gather?, List.filter_nil, Option.some_inj, Prod.mk.injEq]
    constructor
    · rintro ⟨rfl, rfl⟩
      exact ⟨rfl, .inl ⟨rfl, rfl⟩⟩
    · rintro ⟨rfl, ⟨-, rfl⟩ | ⟨b, ⟨⟩, -⟩⟩
      exact ⟨rfl, rfl⟩
  | cons m ms ih =>
    obtain ⟨k, v⟩ := m
    rw [gather?]
    by_cases hk : k = "result"
    · have hvalues : valuesOf ["result"] ((k, v) :: ms) = v :: valuesOf ["result"] ms :=
        valuesOf_cons_of_mem (by simp [hk])
      rw [if_pos hk, List.filter_cons_of_neg (by simpa using hk), hvalues]
      cases result with
      | some b =>
        refine iff_of_false (by rintro ⟨⟩) ?_
        rintro ⟨-, ⟨⟨⟩, -⟩ | ⟨b', -, ⟨⟩, -⟩⟩
      | none =>
        cases hflag : v.flag? with
        | none =>
          refine iff_of_false (by rintro ⟨⟩) ?_
          rintro ⟨-, ⟨⟨⟩, -⟩ | ⟨b, hb, -, -⟩⟩
          cases hflag.symm.trans (flag?_eq_some_iff.mpr (List.cons.inj hb).1)
        | some b =>
          obtain rfl := flag?_eq_some_iff.mp hflag
          refine ih.trans (and_congr_right fun _ => ?_)
          constructor
          · rintro (⟨hnone, rfl⟩ | ⟨b', -, ⟨⟩, -⟩)
            exact .inr ⟨b, by rw [hnone], rfl, rfl⟩
          · rintro (⟨⟨⟩, -⟩ | ⟨b', hb, -, rfl⟩)
            obtain ⟨heq, hnone⟩ := List.cons.inj hb
            obtain rfl := Value.bool.inj heq
            exact .inl ⟨hnone, rfl⟩
    · have hvalues : valuesOf ["result"] ((k, v) :: ms) = valuesOf ["result"] ms :=
        valuesOf_cons_of_not_mem (by simpa using hk)
      rw [if_neg hk, List.filter_cons_of_pos (by simpa using hk), hvalues,
        Option.map_eq_some_iff]
      constructor
      · rintro ⟨⟨result₁, details₁⟩, hgather, heq⟩
        obtain ⟨rfl, rfl⟩ := Prod.mk.inj heq
        obtain ⟨rfl, hresult⟩ := ih.mp hgather
        exact ⟨rfl, hresult⟩
      · rintro ⟨rfl, hresult⟩
        exact ⟨⟨result', _⟩, ih.mpr ⟨rfl, hresult⟩, rfl⟩

/-- The outcome that a value is. -/
def ofValue? : Value → Option Outcome
  | .object ms => (gather? none ms).bind fun (result, ms) =>
    result.map fun passed => ⟨passed, settleMembers (Value.settledMembers ms)⟩
  | _ => none

theorem ofValue?_eq_some_iff : ofValue? v = some o ↔ Written v o := by
  cases v with
  | object ms =>
    rw [ofValue?, Option.bind_eq_some_iff]
    constructor
    · rintro ⟨⟨result, details⟩, hgather, hmap⟩
      obtain ⟨passed, rfl, rfl⟩ := Option.map_eq_some_iff.mp hmap
      obtain ⟨rfl, ⟨-, ⟨⟩⟩ | ⟨b, hb, -, hpassed⟩⟩ := gather?_eq_some_iff.mp hgather
      obtain rfl := Option.some.inj hpassed
      exact .object hb rfl
    · intro h
      cases h with
      | @object _ passed details hresult hdetails =>
        obtain rfl := Value.object.inj hdetails
        exact ⟨_, gather?_eq_some_iff.mpr ⟨rfl, .inr ⟨passed, hresult, rfl, rfl⟩⟩, rfl⟩
  | _ => exact iff_of_false (by rintro ⟨⟩) (by rintro ⟨⟩)

/-! ### The reader -/

/-- **The result and the details are gathered where the values of an object are read.** -/
theorem toOption_readMembersLoop
    (hms : Json.readMembersLoop (readValue depth) fuel first cs = .ok (ms, mid)) :
    (readMembersLoop depth fuel first result cs).toOption = (gather? result ms).map (·, mid) := by
  induction fuel generalizing first result cs ms with
  | zero => cases hms
  | succ fuel ih =>
    rw [Json.readMembersLoop, bind_eq_ok_iff] at hms
    obtain ⟨⟨key?, cs₁⟩, hnext, hms⟩ := hms
    rw [readMembersLoop, hnext]
    cases key? with
    | none =>
      cases hms
      rfl
    | some k =>
      obtain ⟨cs₂, hcolon, hms⟩ := bind_eq_ok_iff.mp hms
      obtain ⟨⟨v, cs₃⟩, hv, hms⟩ := bind_eq_ok_iff.mp hms
      obtain ⟨⟨ms', cs₄⟩, hms', heq⟩ := bind_eq_ok_iff.mp hms
      cases heq
      simp only [ok_bind, gather?]
      split
      · split
        · rfl
        · simp only [hcolon, ok_bind, toOption_bind, agrees_flagItem.reads hv]
          cases v.flag? with
          | none => rfl
          | some b => exact ih hms'
      · simp only [hcolon, ok_bind, hv, toOption_bind, ih hms']
        cases gather? result ms' <;> rfl

/-- A truth value is a value. -/
theorem readValue_of_readFlagItem {b : Bool} (h : readFlagItem cs = .ok (b, rest)) :
    readValue depth cs = .ok (.bool b, rest) := by
  rw [readFlagItem] at h
  split at h
  · rename_i hcs
    obtain ⟨rest', hword, heq⟩ := bind_eq_ok_iff.mp h
    cases heq
    rw [readValue.eq_def]
    simp only [hcs]
    exact bind_eq_ok_iff.mpr ⟨rest, hword, rfl⟩
  · rename_i hcs
    obtain ⟨rest', hword, heq⟩ := bind_eq_ok_iff.mp h
    cases heq
    rw [readValue.eq_def]
    simp only [hcs]
    exact bind_eq_ok_iff.mpr ⟨rest, hword, rfl⟩
  · cases h

/-- **Where the members of an outcome are read, values can be.** -/
theorem exists_members
    (h : readMembersLoop depth fuel first result cs = .ok ((result', details), mid)) :
    ∃ ms, Json.readMembersLoop (readValue depth) fuel first cs = .ok (ms, mid) := by
  induction fuel generalizing first result cs details with
  | zero => cases h
  | succ fuel ih =>
    rw [readMembersLoop, bind_eq_ok_iff] at h
    obtain ⟨⟨key?, cs₁⟩, hnext, h⟩ := h
    rw [Json.readMembersLoop, hnext]
    cases key? with
    | none =>
      cases h
      exact ⟨[], rfl⟩
    | some k =>
      dsimp only at h
      split at h
      · split at h
        · cases h
        · obtain ⟨cs₂, hcolon, h⟩ := bind_eq_ok_iff.mp h
          obtain ⟨⟨b, cs₃⟩, hb, h⟩ := bind_eq_ok_iff.mp h
          obtain ⟨ms, hms⟩ := ih h
          simp only [ok_bind, hcolon, readValue_of_readFlagItem hb, hms]
          exact ⟨_, rfl⟩
      · obtain ⟨cs₂, hcolon, h⟩ := bind_eq_ok_iff.mp h
        obtain ⟨⟨v, cs₃⟩, hv, h⟩ := bind_eq_ok_iff.mp h
        obtain ⟨⟨⟨result₁, details₁⟩, cs₄⟩, hdetails, heq⟩ := bind_eq_ok_iff.mp h
        cases heq
        obtain ⟨ms, hms⟩ := ih hdetails
        simp only [ok_bind, hcolon, hv, hms]
        exact ⟨_, rfl⟩

/-- **There is a value on every text that an outcome is read from.** -/
theorem exists_value (h : Outcome.read (depth + 1) cs = .ok (o, rest)) :
    ∃ v, readValue (depth + 1) cs = .ok (v, rest) := by
  rw [Outcome.read] at h
  split at h
  · rename_i cs' hcs
    rw [if_neg (Nat.add_one_ne_zero depth), bind_eq_ok_iff] at h
    obtain ⟨⟨⟨result, details⟩, mid⟩, hdetails, h⟩ := h
    obtain ⟨ms, hms⟩ := exists_members hdetails
    dsimp only at h
    split at h
    · cases h
    · obtain ⟨rest', hclose, heq⟩ := bind_eq_ok_iff.mp h
      cases heq
      have hmembers : readMembers (readValue depth) cs' = .ok (ms, mid) := hms
      rw [readValue, hcs]
      simp only [hmembers, ok_bind, hclose]
      exact ⟨_, rfl⟩
  · cases h

/-- **An outcome is read where a value is**, if it is one. -/
theorem agrees_read : Agrees (depth + 1) (Outcome.read (depth + 1)) ofValue? where
  reads {cs v rest} hv := by
    have horigin := origin_of_readValue hv
    cases v with
    | object ms =>
      obtain ⟨less, cs', mid, hdepth, hcs, hms, hclose⟩ := horigin.of_object
      cases hdepth
      rw [Outcome.read, hcs]
      simp only [Nat.add_one_ne_zero, if_false, Nat.add_sub_cancel, toOption_bind,
        toOption_readMembersLoop hms, ofValue?]
      cases gather? none ms with
      | none => rfl
      | some gathered =>
        obtain ⟨result, details⟩ := gathered
        cases result with
        | none => rfl
        | some passed =>
          simp only [Option.map_some, Option.bind_some, hclose, ok_bind]
          rfl
    | _ =>
      rw [Outcome.read]
      split
      · exact absurd ‹_› (horigin.ne_brace nofun _)
      · rfl
  spans h := by
    obtain ⟨v, hv⟩ := exists_value h
    exact spans_of_readValue hv

end Rulebook.Outcome
