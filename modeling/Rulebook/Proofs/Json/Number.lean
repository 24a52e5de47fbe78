import Rulebook.Json.Skip
import Rulebook.Proofs.Binary64.Shortest
import Rulebook.Proofs.Json.Numeral

/-!
# Numbers as they are written

Whatever number is written, an integer of any size or a double, it has the form that JSON asks for
(`Rulebook.Json.Unsigned`, behind a minus sign perhaps): digits that begin with no zero or are a
single zero, then possibly a fraction, then possibly an exponent. This is all that matters to
someone who passes over the number without computing it (`Rulebook.Json.skipUnsigned_append`).

For a double, the form rests on the digits of its shortest decimal, which make no zero: the layout
puts a point between them, or zeros around them, and their first one stays in front unless the
number is below one, where a zero and the point come before it.
-/

namespace Rulebook.Json

variable {c : Char} {cs ds ds' t w rest : List Char}

/-! ### The form of a number -/

/-- Digits, at least one. -/
structure Digits (ds : List Char) : Prop where
  ne_nil : ds ≠ []
  digit : ∀ c ∈ ds, c.isDigit = true

/-- **A whole part**: digits that begin with no zero, or a single zero. -/
structure Whole (ds : List Char) : Prop extends Digits ds where
  lead : ds.head? ≠ some '0' ∨ ds = ['0']

/-- **An exponent**, or nothing. -/
inductive Tail : List Char → Prop
  | none : Tail []
  | exponent {sign ds : List Char} (hsign : sign = ['+'] ∨ sign = ['-']) (hds : Digits ds) :
      Tail ('e' :: sign ++ ds)

/-- **A number without its sign.** -/
inductive Unsigned : List Char → Prop
  | whole {w t : List Char} (hw : Whole w) (ht : Tail t) : Unsigned (w ++ t)
  | fraction {w ds t : List Char} (hw : Whole w) (hds : Digits ds) (ht : Tail t) :
      Unsigned (w ++ '.' :: (ds ++ t))

/-! ### Passing over numbers -/

/-- Digits are left out up to the first other character. -/
theorem dropWhile_digits (hds : ∀ c ∈ ds, c.isDigit = true)
    (hrest : ∀ c ∈ rest.head?, c.isDigit = false) : (ds ++ rest).dropWhile Char.isDigit = rest := by
  rw [List.dropWhile_append_of_pos hds]
  cases rest with
  | nil => rfl
  | cons c cs => exact List.dropWhile_cons_of_neg (by simp [hrest c rfl])

theorem Digits.exists_cons (h : Digits ds) :
    ∃ c cs, ds = c :: cs ∧ c.isDigit = true ∧ ∀ d ∈ cs, d.isDigit = true := by
  cases ds with
  | nil => exact absurd rfl h.ne_nil
  | cons c cs => exact ⟨c, cs, rfl, List.forall_mem_cons.mp h.digit⟩

theorem Ends.head (h : Ends rest) : ∀ c ∈ rest.head?, c.isDigit = false :=
  fun c hc => (h c hc).1

theorem Tail.head (h : Tail t) (hrest : Ends rest) :
    ∀ c ∈ (t ++ rest).head?, c.isDigit = false := by
  cases h with
  | none => exact hrest.head
  | exponent =>
    intro c hc
    obtain rfl : 'e' = c := Option.some.inj hc
    rfl

/-- What ends a number leaves nothing to pass over. -/
theorem skipTail_of_ends (h : Ends rest) : skipTail rest = .ok rest := by
  rw [skipTail.eq_def]
  split
  · exact absurd rfl (h 'e' rfl).2.2.1
  · exact absurd rfl (h 'E' rfl).2.2.2
  · rfl

/-- **An exponent is passed over.** -/
theorem skipTail_append (h : Tail t) (hrest : Ends rest) : skipTail (t ++ rest) = .ok rest := by
  cases h with
  | none => exact skipTail_of_ends hrest
  | exponent hsign hds =>
    obtain ⟨c, cs, rfl, hc, hcs⟩ := hds.exists_cons
    have hdrop : (cs ++ rest).dropWhile Char.isDigit = rest := dropWhile_digits hcs hrest.head
    rcases hsign with rfl | rfl <;>
    · simp only [List.cons_append, List.nil_append, skipTail, skipExponent, hc, if_true, hdrop]

theorem skipAfterWhole_append (h : Tail t) (hrest : Ends rest) :
    skipAfterWhole (t ++ rest) = .ok rest := by
  have hskip := skipTail_append h hrest
  cases h with
  | none =>
    rw [List.nil_append] at hskip ⊢
    rw [skipAfterWhole.eq_def]
    split
    · exact absurd rfl (hrest '.' rfl).2.1
    · exact hskip
  | exponent => exact hskip

/-- **A fraction is passed over**, with the exponent behind it. -/
theorem skipAfterWhole_point (hds : Digits ds) (h : Tail t) (hrest : Ends rest) :
    skipAfterWhole ('.' :: (ds ++ t) ++ rest) = .ok rest := by
  have hskip := skipTail_append h hrest
  obtain ⟨c, cs, rfl, hc, hcs⟩ := hds.exists_cons
  have hdrop : (c :: (cs ++ (t ++ rest))).dropWhile Char.isDigit = t ++ rest :=
    dropWhile_digits hds.digit (h.head hrest)
  simp only [List.cons_append, List.append_assoc, skipAfterWhole, List.head?_cons, Option.any_some,
    hc, if_true, hdrop, hskip]

/-- The digits of a whole part are passed over. -/
theorem skipUnsigned_whole (h : Whole w) (hrest : ∀ c ∈ rest.head?, c.isDigit = false) :
    skipUnsigned (w ++ rest) = skipAfterWhole rest := by
  obtain ⟨c, cs, rfl, hc, hcs⟩ := h.exists_cons
  have hdrop : (cs ++ rest).dropWhile Char.isDigit = rest := dropWhile_digits hcs hrest
  rcases h.lead with hne | hzero
  · rw [List.cons_append, skipUnsigned.eq_def]
    split
    · rename_i heq
      cases heq
    · rename_i heq
      obtain ⟨rfl, -⟩ := List.cons.inj heq
      exact absurd rfl hne
    · rename_i heq
      obtain ⟨rfl, rfl⟩ := List.cons.inj heq
      rw [if_pos hc, hdrop]
  · rw [hzero, List.singleton_append, skipUnsigned, if_neg]
    cases rest with
    | nil => exact Bool.false_ne_true
    | cons d ds => simp [hrest d rfl]

/-- **A number is passed over**, whatever ends it. -/
theorem skipUnsigned_append (h : Unsigned t) (hrest : Ends rest) :
    skipUnsigned (t ++ rest) = .ok rest := by
  cases h with
  | whole hw ht =>
    rw [List.append_assoc, skipUnsigned_whole hw (ht.head hrest), skipAfterWhole_append ht hrest]
  | fraction hw hds ht =>
    rw [List.append_assoc, skipUnsigned_whole hw, skipAfterWhole_point hds ht hrest]
    intro c hc
    obtain rfl : '.' = c := Option.some.inj hc
    rfl

/-! ### Digits -/

theorem digits_toDigits (n : Nat) : Digits (Nat.toDigits 10 n) where
  ne_nil := Nat.toDigits_ne_nil
  digit _ hc := Nat.isDigit_of_mem_toDigits (by decide) (by decide) hc

theorem Digits.append_right (h : Digits ds) (h' : ∀ c ∈ ds', c.isDigit = true) :
    Digits (ds ++ ds') where
  ne_nil := List.append_ne_nil_of_left_ne_nil h.ne_nil _
  digit c hc := (List.mem_append.mp hc).elim (h.digit c) (h' c)

theorem Digits.append_left (h : Digits ds) (h' : ∀ c ∈ ds', c.isDigit = true) :
    Digits (ds' ++ ds) where
  ne_nil := List.append_ne_nil_of_right_ne_nil _ h.ne_nil
  digit c hc := (List.mem_append.mp hc).elim (h' c) (h.digit c)

theorem isDigit_of_mem_zeros {n : Nat} : ∀ c ∈ Binary64.zeros n, c.isDigit = true := by
  intro c hc
  rw [List.eq_of_mem_replicate hc]
  rfl

theorem digits_zero : Digits ['0'] := ⟨List.cons_ne_nil _ _, List.forall_mem_singleton.mpr rfl⟩

theorem whole_zero : Whole ['0'] := ⟨digits_zero, .inr rfl⟩

theorem head?_toDigits_ne {n : Nat} (hn : 0 < n) : (Nat.toDigits 10 n).head? ≠ some '0' := by
  intro hhead
  obtain ⟨cs, hcs⟩ := List.head?_eq_some_iff.mp hhead
  exact head_toDigits_ne (Nat.ne_of_gt hn) hcs rfl

theorem whole_toDigits (n : Nat) : Whole (Nat.toDigits 10 n) := by
  rcases Nat.eq_zero_or_pos n with rfl | hn
  · exact whole_zero
  · exact ⟨digits_toDigits n, .inl (head?_toDigits_ne hn)⟩

/-! ### Decimals -/

theorem Unsigned.point (hw : Whole w) (hds : Digits ds) : Unsigned (w ++ '.' :: ds) := by
  have h := Unsigned.fraction hw hds .none
  rwa [List.append_nil] at h

/-- **Digits with a point** have the form of a number, if the first one is no zero. -/
theorem unsigned_positionalDigits (hds : Digits ds) (hlead : ds.head? ≠ some '0') (whole : Int) :
    Unsigned (Binary64.positionalDigits true ds whole) := by
  rw [Binary64.positionalDigits]
  split
  · exact .point whole_zero (hds.append_left isDigit_of_mem_zeros)
  · split
    · -- all digits are left of the point, and zeros fill what is missing
      rw [if_pos rfl]
      refine .point ⟨hds.append_right isDigit_of_mem_zeros, .inl ?_⟩ digits_zero
      obtain ⟨c, cs, rfl, -, -⟩ := hds.exists_cons
      exact hlead
    · rename_i hwhole hlength
      have htake : ds.take whole.toNat ≠ [] := by
        rw [ne_eq, List.take_eq_nil_iff]
        exact not_or.mpr ⟨by omega, hds.ne_nil⟩
      refine .point ⟨⟨htake, fun c hc => hds.digit c (List.mem_of_mem_take hc)⟩, .inl ?_⟩
        ⟨?_, fun c hc => hds.digit c (List.mem_of_mem_drop hc)⟩
      · rwa [List.head?_take, if_neg (by omega)]
      · rw [ne_eq, List.drop_eq_nil_iff]
        exact hlength

/-- **Digits with an exponent** have the form of a number. -/
theorem unsigned_pointedDigits (hds : Digits ds) (ht : Tail t) :
    Unsigned (Binary64.pointedDigits ds ++ t) := by
  obtain ⟨c, cs, rfl, hc, hcs⟩ := hds.exists_cons
  have hwhole : Whole [c] := by
    refine ⟨⟨List.cons_ne_nil _ _, fun d hd => List.mem_singleton.mp hd ▸ hc⟩, ?_⟩
    by_cases hzero : c = '0'
    · exact .inr (congrArg ([·]) hzero)
    · exact .inl fun h => hzero (Option.some.inj h)
  cases cs with
  | nil => exact .whole hwhole ht
  | cons d ds => exact .fraction hwhole ⟨List.cons_ne_nil _ _, hcs⟩ ht

/-- **A decimal is written in the form of a number.** -/
theorem unsigned_writeDecimal {d : Binary64.Decimal} (hd : d = ⟨0, 0⟩ ∨ 0 < d.digits) :
    Unsigned (floatLayout.writeDecimal d) := by
  rcases hd with rfl | hd
  · exact Unsigned.point whole_zero digits_zero
  · rw [Binary64.Layout.writeDecimal]
    refine iteInduction (motive := Unsigned) (fun _ => ?_) (fun _ => ?_)
    · exact unsigned_positionalDigits (digits_toDigits _) (head?_toDigits_ne hd) _
    · dsimp only
      rw [List.append_assoc]
      refine unsigned_pointedDigits (digits_toDigits _) (.exponent ?_ (digits_toDigits _))
      split
      · exact .inr rfl
      · exact .inl rfl

/-! ### Doubles and integers -/

/-- **A double is written as a number**, behind a minus sign perhaps, or as `null`. -/
theorem writeFloat_cases (x : Binary64) :
    writeFloat x = ['n', 'u', 'l', 'l'] ∨
      ∃ t, Unsigned t ∧ (writeFloat x = t ∨ writeFloat x = '-' :: t) := by
  cases x with
  | nan => exact .inl rfl
  | infinite negative => exact .inl rfl
  | finite negative m e =>
    have hbody : Unsigned (if m = 0 then ['0', '.', '0']
        else floatLayout.writeDecimal (Binary64.shortest m e)) := by
      split
      · exact .point whole_zero digits_zero
      · exact unsigned_writeDecimal (Binary64.digits_shortest (Nat.pos_of_ne_zero ‹_›) e)
    refine .inr ⟨_, hbody, ?_⟩
    rw [writeFloat, Binary64.Layout.write, String.toList_ofList]
    cases negative with
    | false => exact .inl rfl
    | true => exact .inr rfl

theorem writeInteger_cases (n : Int) :
    ∃ t, Unsigned t ∧ (writeInteger n = t ∨ writeInteger n = '-' :: t) := by
  have hdigits : Unsigned (Nat.toDigits 10 n.natAbs) := by
    have h := Unsigned.whole (whole_toDigits n.natAbs) .none
    rwa [List.append_nil] at h
  refine ⟨_, hdigits, ?_⟩
  rw [writeInteger]
  split
  · exact .inr rfl
  · exact .inl rfl

end Rulebook.Json
