import Rulebook.Settings.Entry

/-!
# Why settings cannot be used

A settings file may not be readable, or a setting may hold something that it cannot
be made of. The error then names the setting by its path and, where it is known, the
layer that gave it.
-/

namespace Rulebook.Settings

/-- What a setting holds and what it should hold. -/
structure Mismatch where
  found : String
  expected : String
  origin? : Option String
  deriving DecidableEq

/-- Why settings cannot be used. -/
inductive Error where
  /-- A settings file cannot be read. -/
  | fileParse
  /-- A setting holds something of another type. -/
  | wrongType (key : String) (mismatch : Mismatch)
  /-- Something other than settings stands in the place of a section. -/
  | wrongSection (key : String) (mismatch : Mismatch)
  deriving DecidableEq

namespace Error

/-- The name of an error. -/
def name : Error → String
  | fileParse => "FileParse"
  | wrongType _ _ => "Type"
  | wrongSection _ _ => "At"

/-- What a mismatch says about a setting. -/
def describe (key : String) (m : Mismatch) : String :=
  let place := (m.origin?.map fun o => s!" in {o}").getD ""
  s!"invalid type: {m.found}, expected {m.expected} for key `{key}`{place}"

/-- The words in which an error is reported; the words for a file that cannot be read
are not part of this library. -/
def message? : Error → Option String
  | fileParse => none
  | wrongType key m => some (describe key m)
  | wrongSection key m => some (describe key m)

end Error

/-! ### Entries in messages -/

/-- A double as plain text with a point. -/
def pointed (x : Binary64) : String :=
  let s := Binary64.Layout.plain.write x
  match x with
  | .finite _ _ _ => if s.toList.contains '.' then s else s ++ ".0"
  | _ => s

/-- An entry that stands in the place of a section, as messages show it. -/
def Entry.shown : Entry → String
  | flag _ b => s!"boolean `{b}`"
  | integer _ n => s!"integer `{n}`"
  | float _ x => s!"floating point `{pointed x}`"
  | text _ s => s!"string {Text.quoted s}"
  | list _ _ => "sequence"
  | table _ _ => "map"
  | absent => "unit value"

end Rulebook.Settings
