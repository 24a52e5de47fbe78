/-!
# Results that may be errors

What is done with results that may be errors is much the same everywhere: they are handed on, put
in another form, or taken as nothing where they are errors. So there is one lemma for each of
these, and it says what must have come before a result that is none
(`Rulebook.bind_eq_ok_iff`, `Rulebook.map_eq_ok_iff`, `Rulebook.mapError_eq_ok_iff`). Where errors
do not matter, two results can be compared as options (`Rulebook.toOption_eq_some_iff`).
-/

namespace Rulebook

variable {ε ε' α β : Type} {r : Except ε α} {x : α}

/-- A step that has succeeded hands over to the one behind it. -/
theorem ok_bind (x : α) (f : α → Except ε β) : (Except.ok x >>= f) = f x := rfl

/-- What one step hands over to the next is what it came to. -/
theorem bind_eq_ok_iff {f : α → Except ε β} {y : β} :
    (r >>= f) = .ok y ↔ ∃ x, r = .ok x ∧ f x = .ok y := by
  cases r with
  | error e => exact iff_of_false (by rintro ⟨⟩) (by rintro ⟨x, ⟨⟩, -⟩)
  | ok x => exact ⟨fun h => ⟨x, rfl, h⟩, fun ⟨x', hx, h⟩ => Except.ok.inj hx ▸ h⟩

/-- What was put in another form was there before. -/
theorem map_eq_ok_iff {f : α → β} {y : β} : r.map f = .ok y ↔ ∃ x, r = .ok x ∧ f x = y := by
  cases r with
  | error e => exact iff_of_false (by rintro ⟨⟩) (by rintro ⟨x, ⟨⟩, -⟩)
  | ok x =>
    constructor
    · intro h
      exact ⟨x, rfl, Except.ok.inj h⟩
    · rintro ⟨x', hx, rfl⟩
      cases hx
      rfl

/-- An error that is put in another form is no success, and no success is one. -/
theorem mapError_eq_ok_iff {f : ε → ε'} : r.mapError f = .ok x ↔ r = .ok x := by
  cases r with
  | error e => exact iff_of_false (by rintro ⟨⟩) (by rintro ⟨⟩)
  | ok x' => exact ⟨fun h => congrArg _ (Except.ok.inj h), fun h => congrArg _ (Except.ok.inj h)⟩

/-! ### Results without their errors -/

theorem toOption_eq_some_iff : r.toOption = some x ↔ r = .ok x := by
  cases r with
  | error e => exact iff_of_false (by rintro ⟨⟩) (by rintro ⟨⟩)
  | ok x' =>
    exact ⟨fun h => congrArg Except.ok (Option.some.inj h),
      fun h => congrArg some (Except.ok.inj h)⟩

theorem toOption_map (r : Except ε α) (f : α → β) : (r.map f).toOption = r.toOption.map f := by
  cases r <;> rfl

theorem toOption_bind (r : Except ε α) (f : α → Except ε β) :
    (r >>= f).toOption = r.toOption.bind fun x => (f x).toOption := by
  cases r <;> rfl

end Rulebook
