import Rulebook.Proofs.Json.Extent
import Rulebook.Proofs.Json.Record

/-!
# Reading a text and reading its value

A record is read off the front of a text, without a value in between. Where the text has a value,
that makes no difference (`Rulebook.Json.Agrees`): the record is the one that the members of this
value fill, and it ends where the value does. Nothing is asked of the text but that it can be read;
it need not be written in any particular way, as it has to be in `Rulebook.Json.Decides`.

A record may also be read from a text that has no value, for what it passes over may be too deep, or
a number out of range. But it can be passed over itself (`Rulebook.Json.Outlined`), so there is no
record in what is no JSON at all.
-/

namespace Rulebook.Json

variable {α β : Type} {depth fuel : Nat} {cs cs' mid rest : List Char} {first : Bool} {v : Value}
  {vs : List Value} {ms : List Member} {kind : Kind}

/-! ### What a value was read from -/

/-- **The texts in front of `rest` that a value is read from**, by how they start. -/
inductive Origin (depth : Nat) (cs rest : List Char) : Value → Prop
  | array {less : Nat} {cs' mid : List Char} {vs : List Value} (hdepth : depth = less + 1)
      (hcs : skipSpace cs = '[' :: cs') (hvs : readElements (readValue less) cs' = .ok (vs, mid))
      (hclose : closeArray mid = .ok rest) : Origin depth cs rest (.array vs)
  | object {less : Nat} {cs' mid : List Char} {ms : List Member} (hdepth : depth = less + 1)
      (hcs : skipSpace cs = '{' :: cs') (hms : readMembers (readValue less) cs' = .ok (ms, mid))
      (hclose : closeObject mid = .ok rest) : Origin depth cs rest (.object ms)
  | string {cs' : List Char} {s : String} (hcs : skipSpace cs = '"' :: cs')
      (hs : readString cs' = .ok (s, rest)) : Origin depth cs rest (.string s)
  | yes {cs' : List Char} (hcs : skipSpace cs = 't' :: cs')
      (hword : readWord ['r', 'u', 'e'] cs' = .ok rest) : Origin depth cs rest (.bool true)
  | no {cs' : List Char} (hcs : skipSpace cs = 'f' :: cs')
      (hword : readWord ['a', 'l', 's', 'e'] cs' = .ok rest) : Origin depth cs rest (.bool false)
  | other {c : Char} {cs' : List Char} {v : Value} (hcs : skipSpace cs = c :: cs')
      (hc : c ∉ ['[', '{', '"', 't', 'f']) (hv : v = .null ∨ v.IsNumber) : Origin depth cs rest v

theorem origin_of_readScalar (hbracket : ∀ cs', skipSpace cs ≠ '[' :: cs')
    (hbrace : ∀ cs', skipSpace cs ≠ '{' :: cs') (h : readScalar (skipSpace cs) = .ok (v, rest)) :
    Origin depth cs rest v := by
  cases hcs : skipSpace cs with
  | nil =>
    rw [hcs] at h
    cases h
  | cons c cs' =>
    have hne : c ≠ '[' ∧ c ≠ '{' := head_ne_of_skipSpace hbracket hbrace hcs
    rw [hcs, readScalar.eq_def] at h
    split at h
    · cases h
    · rename_i heq
      obtain ⟨rfl, rfl⟩ := List.cons.inj heq
      obtain ⟨rest', hword, heq⟩ := bind_eq_ok_iff.mp h
      cases heq
      exact .other hcs (by decide) (.inl rfl)
    · rename_i heq
      obtain ⟨rfl, rfl⟩ := List.cons.inj heq
      obtain ⟨rest', hword, heq⟩ := bind_eq_ok_iff.mp h
      cases heq
      exact .yes hcs hword
    · rename_i heq
      obtain ⟨rfl, rfl⟩ := List.cons.inj heq
      obtain ⟨rest', hword, heq⟩ := bind_eq_ok_iff.mp h
      cases heq
      exact .no hcs hword
    · rename_i heq
      obtain ⟨rfl, rfl⟩ := List.cons.inj heq
      cases hstring : readString cs' with
      | error stop =>
        rw [hstring] at h
        cases h
      | ok read =>
        rw [hstring] at h
        cases h
        exact .string hcs hstring
    · rename_i hnull htrue hfalse hquote heq
      obtain ⟨rfl, rfl⟩ := List.cons.inj heq
      split at h
      · have hc : c ∉ ['[', '{', '"', 't', 'f'] := by
          simp only [List.mem_cons, List.not_mem_nil, or_false, not_or]
          exact ⟨hne.1, hne.2, hquote, htrue, hfalse⟩
        exact .other hcs hc (.inr (isNumber_of_readNumber h))
      · cases h

/-- **Every value that is read has such an origin.** -/
theorem origin_of_readValue (h : readValue depth cs = .ok (v, rest)) : Origin depth cs rest v := by
  cases depth with
  | zero =>
    rw [readValue] at h
    split at h
    · cases h
    · cases h
    · exact origin_of_readScalar ‹_› ‹_› h
  | succ less =>
    rw [readValue] at h
    split at h
    · obtain ⟨⟨vs, mid⟩, hvs, h⟩ := bind_eq_ok_iff.mp h
      obtain ⟨rest', hclose, h⟩ := bind_eq_ok_iff.mp h
      cases h
      exact .array rfl ‹_› hvs hclose
    · obtain ⟨⟨ms, mid⟩, hms, h⟩ := bind_eq_ok_iff.mp h
      obtain ⟨rest', hclose, h⟩ := bind_eq_ok_iff.mp h
      cases h
      exact .object rfl ‹_› hms hclose
    · exact origin_of_readScalar ‹_› ‹_› h

theorem Origin.of_array (h : Origin depth cs rest (.array vs)) :
    ∃ less cs' mid, depth = less + 1 ∧ skipSpace cs = '[' :: cs' ∧
      readElements (readValue less) cs' = .ok (vs, mid) ∧ closeArray mid = .ok rest := by
  cases h with
  | array hdepth hcs hvs hclose => exact ⟨_, _, _, hdepth, hcs, hvs, hclose⟩
  | other _ _ hv => rcases hv with ⟨⟨⟩⟩ | ⟨⟨⟩⟩

theorem Origin.of_object (h : Origin depth cs rest (.object ms)) :
    ∃ less cs' mid, depth = less + 1 ∧ skipSpace cs = '{' :: cs' ∧
      readMembers (readValue less) cs' = .ok (ms, mid) ∧ closeObject mid = .ok rest := by
  cases h with
  | object hdepth hcs hms hclose => exact ⟨_, _, _, hdepth, hcs, hms, hclose⟩
  | other _ _ hv => rcases hv with ⟨⟨⟩⟩ | ⟨⟨⟩⟩

/-- Nothing but an array is read from a bracket. -/
theorem Origin.ne_bracket (h : Origin depth cs rest v) (hv : ∀ vs, v ≠ .array vs) :
    ∀ cs', skipSpace cs ≠ '[' :: cs' := by
  intro cs' hcs'
  cases h with
  | array _ _ _ _ => exact hv _ rfl
  | object _ hcs _ _ => cases hcs.symm.trans hcs'
  | other hcs hc _ => exact hc (by simp [(List.cons.inj (hcs.symm.trans hcs')).1])
  | _ hcs _ => cases hcs.symm.trans hcs'

/-- Nothing but an object is read from a brace. -/
theorem Origin.ne_brace (h : Origin depth cs rest v) (hv : ∀ ms, v ≠ .object ms) :
    ∀ cs', skipSpace cs ≠ '{' :: cs' := by
  intro cs' hcs'
  cases h with
  | array _ hcs _ _ => cases hcs.symm.trans hcs'
  | object _ _ _ _ => exact hv _ rfl
  | other hcs hc _ => exact hc (by simp [(List.cons.inj (hcs.symm.trans hcs')).1])
  | _ hcs _ => cases hcs.symm.trans hcs'

/-! ### Agreement -/

/-- **A reader agrees with a function of values**: from what can be read as a value, with at most
`depth` levels of nesting, it reads what the function makes of this value, if anything; and it reads
nothing but what can be passed over. -/
structure Agrees (depth : Nat) (item : List Char → Except Stop (Read α)) (p : Value → Option α) :
    Prop where
  reads : ∀ {cs v rest}, readValue depth cs = .ok (v, rest) →
    (item cs).toOption = (p v).map (·, rest)
  spans : ∀ {cs x rest}, item cs = .ok (x, rest) → Spans .value cs rest

variable {item : List Char → Except Stop (Read α)} {p : Value → Option α}

/-- What is read can be handed on in another form, or refused because of what it is. -/
theorem Agrees.bind (h : Agrees depth item p) {next : Read α → Except Stop (Read β)}
    {q : Value → Option β} (f : α → Option β)
    (hnext : ∀ x rest, (next (x, rest)).toOption = (f x).map (·, rest))
    (hq : ∀ v, q v = (p v).bind f) : Agrees depth (fun cs => item cs >>= next) q where
  reads {cs v rest} hv := by
    rw [toOption_bind, h.reads hv, hq]
    cases p v with
    | none => rfl
    | some x => exact hnext x rest
  spans {cs y rest} hy := by
    obtain ⟨⟨x, rest'⟩, hx, hy⟩ := bind_eq_ok_iff.mp hy
    rw [← toOption_eq_some_iff, hnext, Option.map_eq_some_iff] at hy
    obtain ⟨y', -, heq⟩ := hy
    cases heq
    exact h.spans hx

theorem Agrees.map (h : Agrees depth item p) {q : Value → Option β} (f : α → β)
    (hq : ∀ v, q v = (p v).map f) :
    Agrees depth (fun cs => (item cs).map fun (x, rest) => (f x, rest)) q where
  reads {cs v rest} hv := by
    rw [toOption_map, h.reads hv, hq]
    cases p v <;> rfl
  spans {cs y rest} hy := by
    obtain ⟨⟨x, rest'⟩, hx, heq⟩ := map_eq_ok_iff.mp hy
    cases heq
    exact h.spans hx

/-! ### Items -/

/-- The text that a value is. -/
def Value.text? : Value → Option String
  | .string s => some s
  | _ => none

/-- The truth value that a value is. -/
def Value.flag? : Value → Option Bool
  | .bool b => some b
  | _ => none

theorem toOption_readTextItem {c : Char} (hcs : skipSpace cs = c :: cs') (hc : c ≠ '"') :
    (readTextItem cs).toOption = none := by
  rw [readTextItem, hcs]
  split
  · rename_i heq
    exact absurd (List.cons.inj heq).1 hc
  · rfl

theorem toOption_readFlagItem {c : Char} (hcs : skipSpace cs = c :: cs') (htrue : c ≠ 't')
    (hfalse : c ≠ 'f') : (readFlagItem cs).toOption = none := by
  rw [readFlagItem, hcs]
  split
  · rename_i heq
    exact absurd (List.cons.inj heq).1 htrue
  · rename_i heq
    exact absurd (List.cons.inj heq).1 hfalse
  · rfl

theorem agrees_textItem : Agrees depth readTextItem Value.text? where
  reads {cs v rest} hv := by
    cases origin_of_readValue hv with
    | array _ hcs _ _ => exact toOption_readTextItem hcs (by decide)
    | object _ hcs _ _ => exact toOption_readTextItem hcs (by decide)
    | string hcs hs =>
      rw [readTextItem, hcs]
      exact congrArg Except.toOption hs
    | yes hcs _ => exact toOption_readTextItem hcs (by decide)
    | no hcs _ => exact toOption_readTextItem hcs (by decide)
    | other hcs hc hv =>
      have htext : v.text? = none := by
        rcases hv with rfl | ⟨n⟩ | ⟨x⟩ <;> rfl
      rw [htext, toOption_readTextItem hcs fun h => hc (by simp [h])]
      rfl
  spans {cs s rest} hs := by
    rw [readTextItem] at hs
    split at hs
    · rename_i hcs
      exact .scalar hcs (by decide) (by decide) (skipString_of_readString hs)
    · cases hs

theorem agrees_flagItem : Agrees depth readFlagItem Value.flag? where
  reads {cs v rest} hv := by
    cases origin_of_readValue hv with
    | array _ hcs _ _ => exact toOption_readFlagItem hcs (by decide) (by decide)
    | object _ hcs _ _ => exact toOption_readFlagItem hcs (by decide) (by decide)
    | string hcs _ => exact toOption_readFlagItem hcs (by decide) (by decide)
    | yes hcs hword =>
      rw [readFlagItem, hcs]
      simp only [hword]
      rfl
    | no hcs hword =>
      rw [readFlagItem, hcs]
      simp only [hword]
      rfl
    | other hcs hc hv =>
      have hflag : v.flag? = none := by
        rcases hv with rfl | ⟨n⟩ | ⟨x⟩ <;> rfl
      rw [hflag, toOption_readFlagItem hcs (fun h => hc (by simp [h])) fun h => hc (by simp [h])]
      rfl
  spans {cs b rest} hb := by
    rw [readFlagItem] at hb
    split at hb
    · rename_i hcs
      obtain ⟨rest', hword, heq⟩ := bind_eq_ok_iff.mp hb
      cases heq
      exact .scalar hcs (by decide) (by decide) hword
    · rename_i hcs
      obtain ⟨rest', hword, heq⟩ := bind_eq_ok_iff.mp hb
      cases heq
      exact .scalar hcs (by decide) (by decide) hword
    · cases hb

theorem agrees_value : Agrees depth (readValue depth) some where
  reads hv := by
    rw [hv]
    rfl
  spans := spans_of_readValue

/-- **A value of a kind is read where a value is**, if it is of this kind. -/
theorem agrees_item (kind : Kind) : Agrees depth (readItem depth kind) kind.item? := by
  cases kind with
  | text => exact agrees_textItem.map Item.text fun v => by cases v <;> rfl
  | flag => exact agrees_flagItem.map Item.flag fun v => by cases v <;> rfl
  | anything => exact agrees_value.map Item.value fun v => by cases v <;> rfl

/-! ### Arrays -/

/-- **The elements of an array are read where its values are**, as many as there are. -/
theorem toOption_readElementsLoop_of_agrees (h : Agrees depth item p)
    (hvs : readElementsLoop (readValue depth) fuel first cs = .ok (vs, mid)) :
    (readElementsLoop item fuel first cs).toOption = (vs.mapM p).map (·, mid) := by
  induction fuel generalizing first cs vs with
  | zero => cases hvs
  | succ fuel ih =>
    rw [readElementsLoop, bind_eq_ok_iff] at hvs
    obtain ⟨⟨more, cs₁⟩, hnext, hvs⟩ := hvs
    rw [readElementsLoop, hnext]
    cases more with
    | false =>
      cases hvs
      rfl
    | true =>
      obtain ⟨⟨v, cs₂⟩, hv, hvs⟩ := bind_eq_ok_iff.mp hvs
      obtain ⟨⟨vs', cs₃⟩, hvs', heq⟩ := bind_eq_ok_iff.mp hvs
      cases heq
      simp only [ok_bind, toOption_bind, h.reads hv, mapM_cons]
      cases p v with
      | none => rfl
      | some x =>
        simp only [Option.map_some, Option.bind_some, ih hvs']
        cases vs'.mapM p <;> rfl

/-! ### Members -/

namespace Shape

variable {shape : Shape} {filled : Filled} {slots : List Slot} {index : Nat}

/-- **The members of an object are put in their places where its values are read.** -/
theorem toOption_readMembersLoop_of_value (shape : Shape) (filled : Filled)
    (hms : Json.readMembersLoop (readValue depth) fuel first cs = .ok (ms, mid)) :
    (shape.readMembersLoop depth fuel first filled cs).toOption =
      (ms.foldlM shape.put filled).map (·, mid) := by
  induction fuel generalizing first filled cs ms with
  | zero => cases hms
  | succ fuel ih =>
    rw [Json.readMembersLoop, bind_eq_ok_iff] at hms
    obtain ⟨⟨key?, cs₁⟩, hnext, hms⟩ := hms
    rw [Shape.readMembersLoop, hnext]
    cases key? with
    | none =>
      cases hms
      rfl
    | some k =>
      obtain ⟨cs₂, hcolon, hms⟩ := bind_eq_ok_iff.mp hms
      obtain ⟨⟨v, cs₃⟩, hv, hms⟩ := bind_eq_ok_iff.mp hms
      obtain ⟨⟨ms', cs₄⟩, hms', heq⟩ := bind_eq_ok_iff.mp hms
      cases heq
      simp only [ok_bind, List.foldlM_cons]
      cases hfind : shape.find? k with
      | none =>
        -- the member is passed over up to where its value ends
        have hskip : skipValue cs₂ = .ok cs₃ := skipValue_of_readValue hv
        simp only [put_of_eq_none (m := (k, v)) hfind, hcolon, ok_bind, hskip]
        exact ih _ hms'
      | some found =>
        obtain ⟨i, slot⟩ := found
        rw [put_of_eq_some (m := (k, v)) hfind]
        dsimp only
        split
        · rfl
        · simp only [hcolon, ok_bind, toOption_bind, (agrees_item _).reads hv]
          cases slot.kind.item? v with
          | none => rfl
          | some item => exact ih _ hms'

/-- **Members are passed over where a record is read from them.** -/
theorem spans_of_readMembersLoop {filled' : Filled}
    (h : shape.readMembersLoop depth fuel first filled cs = .ok (filled', mid))
    (hclose : closeObject mid = .ok rest) : SpansMembers first cs rest := by
  induction fuel generalizing first filled cs with
  | zero => cases h
  | succ fuel ih =>
    rw [Shape.readMembersLoop, bind_eq_ok_iff] at h
    obtain ⟨⟨key?, cs₁⟩, hnext, h⟩ := h
    cases key? with
    | none =>
      cases h
      exact spansMembers_close hnext hclose
    | some k =>
      dsimp only at h
      split at h
      · obtain ⟨cs₂, hcolon, h⟩ := bind_eq_ok_iff.mp h
        obtain ⟨cs₃, hskip, h⟩ := bind_eq_ok_iff.mp h
        exact spansMembers_next hnext hcolon (skipValue_eq_ok_iff.mp hskip) (ih h)
      · split at h
        · cases h
        · obtain ⟨cs₂, hcolon, h⟩ := bind_eq_ok_iff.mp h
          obtain ⟨⟨item, cs₃⟩, hitem, h⟩ := bind_eq_ok_iff.mp h
          exact spansMembers_next hnext hcolon ((agrees_item _).spans hitem) (ih h)

/-! ### Members in order -/

/-- Without a further element the end of an array can be seen again. -/
theorem nextElement_again (hnext : nextElement first cs = .ok (false, mid)) :
    nextElement false mid = .ok (false, mid) := by
  obtain ⟨behind, -, rfl⟩ := of_nextElement_false hnext
  rfl

/-- An array does not end where there is a further element. -/
theorem toOption_closeArray_of_more (hnext : nextElement first cs = .ok (true, mid)) :
    (closeArray cs).toOption = none := by
  cases hclose : closeArray cs with
  | error stop => rfl
  | ok rest =>
    rw [nextElement, of_closeArray hclose] at hnext
    cases hnext

theorem closeArray_of_skipSpace (h : skipSpace cs = ']' :: rest) : closeArray cs = .ok rest := by
  rw [closeArray, h]
  rfl

/-- What was read of a record in order, if its array ends there. -/
def closed? (read : Except Stop (Read Filled)) : Option (Read Filled) :=
  read.toOption.bind fun (filled, cs) => (closeArray cs).toOption.map (filled, ·)

/-- One place more, in front of those that are left. -/
theorem closed?_cons (o : Option Item) (read : Except Stop (Read Filled)) :
    closed? (read >>= fun (filled, cs) => .ok (o :: filled, cs)) =
      (closed? read).map fun (filled, cs) => (o :: filled, cs) := by
  cases read with
  | error stop => rfl
  | ok read =>
    obtain ⟨filled, cs⟩ := read
    change (closeArray cs).toOption.map (o :: filled, ·) =
      ((closeArray cs).toOption.map (filled, ·)).map fun (filled, cs) => (o :: filled, cs)
    cases (closeArray cs).toOption <;> rfl

/-- **A record is read in order where the values of an array are read**, and if it fills the
record, the array ends there. -/
theorem closed?_readInOrder (shape : Shape) (slots : List Slot) (index : Nat)
    (hvs : readElementsLoop (readValue depth) fuel (index == 0) cs = .ok (vs, mid))
    (hclose : closeArray mid = .ok rest) :
    closed? (shape.readInOrder depth index slots cs) = (fillInOrder slots vs).map (·, rest) := by
  induction slots generalizing index cs vs fuel with
  | nil =>
    cases fuel with
    | zero => cases hvs
    | succ fuel =>
      rw [readElementsLoop, bind_eq_ok_iff] at hvs
      obtain ⟨⟨more, cs₁⟩, hnext, hvs⟩ := hvs
      change (closeArray cs).toOption.map (([] : Filled), ·) = _
      cases more with
      | false =>
        cases hvs
        obtain ⟨behind, hcs, rfl⟩ := of_nextElement_false hnext
        cases of_closeArray hclose
        rw [closeArray_of_skipSpace hcs]
        rfl
      | true =>
        obtain ⟨⟨v, cs₂⟩, -, hvs⟩ := bind_eq_ok_iff.mp hvs
        obtain ⟨⟨vs', cs₃⟩, -, heq⟩ := bind_eq_ok_iff.mp hvs
        cases heq
        rw [toOption_closeArray_of_more hnext]
        rfl
  | cons slot slots ih =>
    cases fuel with
    | zero => cases hvs
    | succ fuel =>
      rw [readElementsLoop, bind_eq_ok_iff] at hvs
      obtain ⟨⟨more, cs₁⟩, hnext, hvs⟩ := hvs
      rw [Shape.readInOrder, hnext]
      cases more with
      | false =>
        cases hvs
        -- the places that are left see the end of the array as well
        have hloop : readElementsLoop (readValue depth) 1 (index + 1 == 0) mid = .ok ([], mid) := by
          rw [readElementsLoop]
          exact bind_eq_ok_iff.mpr ⟨_, nextElement_again hnext, rfl⟩
        simp only [ok_bind, fillInOrder]
        split
        · rw [closed?_cons none, ih _ hloop]
          cases fillInOrder slots [] <;> rfl
        · rfl
      | true =>
        obtain ⟨⟨v, cs₂⟩, hv, hvs⟩ := bind_eq_ok_iff.mp hvs
        obtain ⟨⟨vs', cs₃⟩, hvs', heq⟩ := bind_eq_ok_iff.mp hvs
        cases heq
        have hitem := (agrees_item slot.kind).reads hv
        simp only [ok_bind, fillInOrder]
        cases hkind : slot.kind.item? v with
        | none =>
          rw [hkind] at hitem
          rw [closed?, toOption_bind, hitem]
          rfl
        | some item =>
          rw [hkind] at hitem
          rw [toOption_eq_some_iff.mp hitem, ok_bind]
          dsimp only
          rw [closed?_cons (some item), ih _ hvs']
          cases fillInOrder slots vs' <;> rfl

/-- What is left of an array without a further element is its end. -/
theorem of_spans_of_no_more (hnext : nextElement first cs = .ok (false, mid))
    (h : Spans .elements mid rest) : skipSpace cs = ']' :: rest := by
  obtain ⟨behind, hcs, rfl⟩ := of_nextElement_false hnext
  cases h with
  | closeArray hmid =>
    cases hmid
    exact hcs
  | element hmid _ _ => cases hmid

/-- **Elements are passed over where a record is read from them in order.** -/
theorem spans_of_readInOrder {filled : Filled}
    (h : shape.readInOrder depth index slots cs = .ok (filled, mid))
    (hclose : closeArray mid = .ok rest) : SpansElements (index == 0) cs rest := by
  induction slots generalizing index cs filled with
  | nil =>
    cases h
    exact spansElements_end (of_closeArray hclose)
  | cons slot slots ih =>
    rw [Shape.readInOrder, bind_eq_ok_iff] at h
    obtain ⟨⟨more, cs₁⟩, hnext, h⟩ := h
    cases more with
    | false =>
      dsimp only at h
      split at h
      · obtain ⟨⟨filled', cs₂⟩, hslots, heq⟩ := bind_eq_ok_iff.mp h
        cases heq
        exact spansElements_end (of_spans_of_no_more hnext (ih hslots))
      · cases h
    | true =>
      obtain ⟨⟨item, cs₂⟩, hitem, h⟩ := bind_eq_ok_iff.mp h
      obtain ⟨⟨filled', cs₃⟩, hslots, heq⟩ := bind_eq_ok_iff.mp h
      cases heq
      exact spansElements_next hnext ((agrees_item _).spans hitem) (ih hslots)

/-! ### Records -/

/-- **A record is read where a value is**, if its members fill it. -/
theorem agrees_read (shape : Shape) (depth : Nat) :
    Agrees (depth + 1) (shape.read (depth + 1)) shape.ofValue? where
  reads {cs v rest} hv := by
    have horigin := origin_of_readValue hv
    cases v with
    | object ms =>
      obtain ⟨less, cs', mid, hdepth, hcs, hms, hclose⟩ := horigin.of_object
      cases hdepth
      have hloop := toOption_readMembersLoop_of_value shape shape.unfilled hms
      rw [Shape.read, hcs, ofValue?, fill_eq]
      change (shape.readObject depth cs').toOption = _
      rw [readObject, toOption_bind, hloop]
      cases ms.foldlM shape.put shape.unfilled with
      | none => rfl
      | some filled =>
        simp only [Option.map_some, Option.bind_some, Option.filter_some]
        cases shape.missing? filled with
        | some slot => rfl
        | none =>
          simp only [hclose, ok_bind]
          rfl
    | array vs =>
      obtain ⟨less, cs', mid, hdepth, hcs, hvs, hclose⟩ := horigin.of_array
      cases hdepth
      have hloop := closed?_readInOrder shape shape.slots 0 hvs hclose
      rw [Shape.read, hcs, ofValue?, ← hloop]
      change (shape.readArray depth cs').toOption = _
      rw [readArray, toOption_bind, closed?]
      cases (shape.readInOrder depth 0 shape.slots cs').toOption with
      | none => rfl
      | some read =>
        obtain ⟨filled, cs⟩ := read
        simp only [Option.bind_some, toOption_bind]
        cases (closeArray cs).toOption <;> rfl
    | _ =>
      rw [Shape.read]
      split
      · exact absurd ‹_› (horigin.ne_brace (by rintro _ ⟨⟩) _)
      · exact absurd ‹_› (horigin.ne_bracket (by rintro _ ⟨⟩) _)
      · rfl
  spans {cs filled rest} h := by
    rw [Shape.read] at h
    split at h
    · rename_i cs' hcs
      rw [if_neg (Nat.add_one_ne_zero depth), readObject, bind_eq_ok_iff] at h
      obtain ⟨⟨filled', mid⟩, hloop, h⟩ := h
      dsimp only at h
      split at h
      · cases h
      · obtain ⟨rest', hclose, heq⟩ := bind_eq_ok_iff.mp h
        cases heq
        exact spans_of_readMembersLoop hloop hclose cs hcs
    · rename_i cs' hcs
      rw [if_neg (Nat.add_one_ne_zero depth), readArray, bind_eq_ok_iff] at h
      obtain ⟨⟨filled', mid⟩, hloop, h⟩ := h
      obtain ⟨rest', hclose, heq⟩ := bind_eq_ok_iff.mp h
      cases heq
      exact spans_of_readInOrder hloop hclose cs hcs
    · cases h

end Shape

/-! ### Whole texts -/

/-- **Whether a text is JSON** to someone who only looks for the end of the value on it. -/
def Outlined (text : String) : Prop :=
  ∃ rest, skipValue text.toList = .ok rest ∧ skipSpace rest = []

variable {text : String} {x : α}

/-- **What a whole text is read as** is what its value comes to. -/
theorem Agrees.readAll_eq_ok_iff (h : Agrees maxDepth item p) (hv : parseWritten text = .ok v) :
    readAll item text = .ok x ↔ p v = some x := by
  obtain ⟨rest, hread, hrest⟩ := Json.readAll_eq_ok_iff.mp hv
  rw [Json.readAll_eq_ok_iff]
  simp only [← toOption_eq_some_iff, h.reads hread, Option.map_eq_some_iff]
  constructor
  · rintro ⟨rest', ⟨y, hy, heq⟩, -⟩
    cases heq
    exact hy
  · intro hx
    exact ⟨rest, ⟨x, hx, rfl⟩, hrest⟩

/-- **Nothing is read from what is no JSON at all.** -/
theorem Agrees.outlined (h : Agrees maxDepth item p) (hx : readAll item text = .ok x) :
    Outlined text := by
  obtain ⟨rest, hread, hrest⟩ := Json.readAll_eq_ok_iff.mp hx
  exact ⟨rest, skipValue_eq_ok_iff.mpr (h.spans hread), hrest⟩

end Rulebook.Json
