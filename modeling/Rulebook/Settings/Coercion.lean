import Rulebook.Binary64.Reader
import Rulebook.Settings.Error
import Rulebook.Text.Integer

/-!
# Giving settings their types

An entry is read as the type that its setting needs. Numbers, truth values and texts
stand for each other wherever that makes sense: a truth value is the number one or
zero, a number other than zero is true, and a text is read as what it says. Lists and
tables stand for nothing but themselves.
-/

namespace Rulebook.Settings

/-! ### What texts say -/

/-- A truth value in words. -/
def wordFlag? (word : String) : Option Bool :=
  match word with
  | "true" | "on" | "yes" => some true
  | "false" | "off" | "no" => some false
  | _ => none

/-! ### Types -/

/-- The mismatch of an entry that cannot be read. -/
def Entry.mismatch (e : Entry) (found expected : String) : Mismatch :=
  ⟨found, expected, e.origin?⟩

/-- The mismatch of a list, a table or nothing where a value belongs. -/
def Entry.unfit (e : Entry) (expected : String) : Mismatch := e.mismatch e.shown expected

/-- A text where something else belongs. -/
def Entry.unread (e : Entry) (s expected : String) : Mismatch :=
  e.mismatch s!"string {Text.quoted s}" expected

/-- An entry as a truth value. -/
def Entry.flag? (e : Entry) : Except Mismatch Bool :=
  match e with
  | .flag _ b => .ok b
  | .integer _ n => .ok (n != 0)
  | .float _ x => .ok (! x.isZero)
  | .text _ s =>
    let word := Text.lower s
    match word with
    | "1" => .ok true
    | "0" => .ok false
    | _ =>
      match wordFlag? word with
      | some b => .ok b
      | none => .error (e.unread word "a boolean")
  | e => .error (e.unfit "a boolean")

/-- An entry as a natural number of 64 bits. -/
def Entry.natural? (e : Entry) : Except Mismatch Nat :=
  match e with
  | .flag _ b => .ok b.toNat
  | .integer _ n =>
    if n < 0 then
      .error (e.mismatch s!"64-bit integer `{n}`" "an unsigned 64 bit or less integer")
    else .ok n.toNat
  | .float _ x => .ok (x.roundHalfAway.truncate 0xFFFFFFFFFFFFFFFF)
  | .text _ s =>
    match wordFlag? (Text.lower s), Text.natural? 0x10000000000000000 s with
    | some b, _ => .ok b.toNat
    | none, some n => .ok n
    | none, none => .error (e.unread s "an integer")
  | e => .error (e.unfit "an integer")

/-- An entry as a natural number of 32 bits. -/
def Entry.natural32? (e : Entry) : Except Mismatch Nat := do
  let n ← e.natural?
  if n < 0x100000000 then .ok n
  else .error ⟨s!"64-bit unsigned integer `{n}`", "an unsigned 32 bit integer", none⟩

/-- An entry as a double. -/
def Entry.double? (e : Entry) : Except Mismatch Binary64 :=
  match e with
  | .flag _ b => .ok (.ofNat b.toNat)
  | .integer _ n => .ok (.ofInt n)
  | .float _ x => .ok x
  | .text _ s =>
    match wordFlag? (Text.lower s), Binary64.read? s with
    | some b, _ => .ok (.ofNat b.toNat)
    | none, some x => .ok x
    | none, none => .error (e.unread s "a floating point")
  | e => .error (e.unfit "a floating point")

/-- An entry as a text. -/
def Entry.text? (e : Entry) : Except Mismatch String :=
  match e with
  | .flag _ b => .ok (toString b)
  | .integer _ n => .ok (toString n)
  | .float _ x => .ok (Binary64.Layout.plain.write x)
  | .text _ s => .ok s
  | e => .error (e.unfit "a string")

end Rulebook.Settings
