import Rulebook.Binary64.Layout
import Rulebook.Text.LowerCase
import Rulebook.Text.Quoted
import Rulebook.Toml.Value

/-!
# Settings before they have their types

Settings come from several layers, and a later layer overrides an earlier one name
by name. Until all layers have been put together, a setting is an
`Rulebook.Settings.Entry`: a value as its layer gave it, with the layer as its
*origin*, which errors name. A table that layers have put together has no origin of
its own.

## Names

A layer names its settings by a path, `section.field`, which may also pick out an
item of a list. A name that is no path is taken as it is. Putting a table in a place
puts each of its entries there, and leaves the entries that were there before.

## Types

A setting is given its type at the end, when it is known which one it needs, and what
the layer gave is then read generously (`Rulebook.Settings.Entry.flag?` and its
siblings): `"yes"` is a truth value and `2.4` the integer `2`.
-/

namespace Rulebook.Settings

/-! ### Entries -/

/-- A setting as a layer gave it. -/
inductive Entry where
  | flag (origin? : Option String) (b : Bool)
  | integer (origin? : Option String) (n : Int)
  | float (origin? : Option String) (x : Binary64)
  | text (origin? : Option String) (s : String)
  | list (origin? : Option String) (items : List Entry)
  | table (origin? : Option String) (entries : List (String × Entry))
  /-- An item that fills a list up to another one. -/
  | absent
  deriving Inhabited

/-- The layer that gave an entry. -/
def Entry.origin? : Entry → Option String
  | flag o _ => o
  | integer o _ => o
  | float o _ => o
  | text o _ => o
  | list o _ => o
  | table o _ => o
  | absent => none

/-- The entries of a table; any other entry has none. -/
def Entry.entries : Entry → List (String × Entry)
  | table _ es => es
  | _ => []

/-- The items of a list; any other entry has none. -/
def Entry.items : Entry → List Entry
  | list _ xs => xs
  | _ => []

mutual

/-- A value of a settings file as an entry. -/
def Entry.ofToml (origin : String) : Toml.Value → Entry
  | .text s => .text (some origin) s
  | .integer n => .integer (some origin) n
  | .float x => .float (some origin) x
  | .flag b => .flag (some origin) b
  | .list items => .list (some origin) (Entry.ofTomlItems origin items)
  | .table entries => .table (some origin) (Entry.ofTomlEntries origin entries)

/-- The items of a list of a settings file. -/
def Entry.ofTomlItems (origin : String) : List Toml.Value → List Entry
  | [] => []
  | v :: vs => Entry.ofToml origin v :: Entry.ofTomlItems origin vs

/-- The entries of a table of a settings file. -/
def Entry.ofTomlEntries (origin : String) :
    List (String × Toml.Value) → List (String × Entry)
  | [] => []
  | (k, v) :: es => (k, Entry.ofToml origin v) :: Entry.ofTomlEntries origin es

end

/-! ### Paths -/

/-- A step from an entry to one inside it. -/
inductive Access where
  | key (name : String)
  | item (index : Int)
  deriving DecidableEq

/-- Whether a character can stand in a name of a path. -/
def isNameChar (c : Char) : Bool := c.isAlphanum || c == '_' || c == '-'

/-- The steps behind the first name of a path; `fuel` need not exceed the length of
the text. -/
def readAccesses : Nat → List Char → Option (List Access)
  | _, [] => some []
  | 0, _ => none
  | fuel + 1, '.' :: cs =>
    let name := cs.takeWhile isNameChar
    if name = [] then none
    else (readAccesses fuel (cs.dropWhile isNameChar)).map (.key (String.ofList name) :: ·)
  | fuel + 1, '[' :: cs =>
    let (negative, cs) := match cs with
      | '-' :: cs => (true, cs)
      | cs => (false, cs)
    let digits := cs.takeWhile Char.isDigit
    match cs.dropWhile Char.isDigit with
    | ']' :: rest =>
      if digits = [] then none
      else
        let n : Int := digits.foldl (fun n c => n * 10 + ((c.toNat - 48 : Nat) : Int)) 0
        (readAccesses fuel rest).map (.item (if negative then -n else n) :: ·)
    | _ => none
  | _, _ => none

/-- The steps that a name stands for; a name that is no path is one step. -/
def accesses (name : String) : List Access :=
  let cs := name.toList
  let first := cs.takeWhile isNameChar
  let path? : Option (List Access) :=
    if first = [] then none
    else (readAccesses cs.length (cs.dropWhile isNameChar)).map (.key (String.ofList first) :: ·)
  path?.getD [.key name]

/-! ### Putting entries in their place -/

/-- The entries with the one named `k` changed, or with a new last one. -/
def change (k : String) (f : Option Entry → Entry) : List (String × Entry) → List (String × Entry)
  | [] => [(k, f none)]
  | (k', e) :: es => if k' = k then (k, f (some e)) :: es else (k', e) :: change k f es

/-- A list that is long enough to have an item at an index, and the place of the item;
an index below zero counts from the end. -/
def reach (index : Int) (items : List Entry) : List Entry × Nat :=
  let n := items.length
  if 0 ≤ index then (items ++ List.replicate (index.toNat + 1 - n) .absent, index.toNat)
  else if index.natAbs ≤ n then (items, n - index.natAbs)
  else (List.replicate (index.natAbs - n) .absent ++ items, 0)

/-- Changes the entry at the end of a path; what is in the way is replaced by a table
or a list. -/
def Entry.changeAt (f : Option Entry → Entry) : List Access → Option Entry → Entry
  | [], e => f e
  | .key k :: path, e =>
    .table none (change k (changeAt f path) ((e.getD .absent).entries))
  | .item i :: path, e =>
    let (items, place) := reach i ((e.getD .absent).items)
    .list ((e.getD .absent).origin?) (items.modify place fun e => changeAt f path (some e))

mutual

/-- Puts an entry in the place of another: a table is merged into it, anything else
replaces it. -/
def Entry.put : Entry → Option Entry → Entry
  | .table _ es, e => .table none (Entry.putAll es ((e.getD .absent).entries))
  | new, _ => new

/-- Puts the entries of a table among others. -/
def Entry.putAll : List (String × Entry) → List (String × Entry) → List (String × Entry)
  | [], into => into
  | (k, e) :: es, into => Entry.putAll es (change k (Entry.put e) into)

end

/-- Adds the setting with a given name. -/
def Entry.set (whole : Entry) (name : String) (e : Entry) : Entry :=
  Entry.changeAt (Entry.put e) (accesses name) (some whole)

/-- Adds the settings of a layer. -/
def Entry.addLayer (whole : Entry) (layer : List (String × Entry)) : Entry :=
  layer.foldl (fun acc (k, e) => acc.set k e) whole

end Rulebook.Settings
