import Rulebook.Url.Basic

/-!
# Reading URLs

A text is read as a URL in the way of the URL Standard, without another URL that it
could be relative to. It is taken apart from the left: the scheme up to the first
colon, what follows the first question mark and the first number sign, the
authority between two slashes and the next one, and the segments of the path. Tabs
and line breaks are left out, and so are spaces at both ends.
-/

namespace Rulebook.Url

/-! ### Cutting -/

/-- What stands before the first character with a property, and the rest from
there. -/
def cutAt (p : Char → Bool) (cs : List Char) : List Char × List Char :=
  (cs.takeWhile (! p ·), cs.dropWhile (! p ·))

/-- The text without what is left out of a URL. -/
def cleaned (s : String) : List Char :=
  let edge (c : Char) : Bool := c.toNat ≤ 0x20
  let inner := ((s.toList.dropWhile edge).reverse.dropWhile edge).reverse
  inner.filter (! isIgnored ·)

/-- Whether a character separates the segments of a path. -/
def isSlash (special : Bool) (c : Char) : Bool := c == '/' || (special && c == '\\')

/-- Whether a character ends the path. -/
def endsPath (c : Char) : Bool := c == '?' || c == '#'

/-! ### Query and fragment -/

/-- Query and fragment in what follows the path. -/
def queryAndFragment (special : Bool) (cs : List Char) : Option String × Option String :=
  let part := if special then Part.specialQuery else Part.query
  let fragment (cs : List Char) : Option String :=
    match cs with
    | '#' :: rest => some (String.ofList (escape Part.fragment rest))
    | _ => none
  match cs with
  | '?' :: rest =>
    let (query, rest) := cutAt (· == '#') rest
    (some (String.ofList (escape part query)), fragment rest)
  | rest => (none, fragment rest)

/-! ### Paths -/

/-- The segments of a path, after those before them. -/
def joinSegments (names : List String) : List (List Char) → List String
  | [] => names
  | [last] => endPath names (String.ofList (escape Part.path last))
  | first :: rest =>
    let name := String.ofList (escape Part.path first)
    let names :=
      if isDoubleDotSegment name then names.dropLast
      else if isDotSegment name then names
      else names ++ [name]
    joinSegments names rest

/-- The segments of a path that is written without its first slash. -/
def pathSegments (special : Bool) (cs : List Char) : List String :=
  joinSegments [] (splitAt (isSlash special) cs)

/-- The segments of what follows an authority. -/
def pathAfterAuthority (special : Bool) (cs : List Char) : List String :=
  match cs with
  | [] => if special then [""] else []
  | c :: rest => if isSlash special c then pathSegments special rest else pathSegments special cs

/-! ### Authorities -/

/-- What stands before and after the last `@`. -/
def cutLastAt (cs : List Char) : Option (List Char × List Char) :=
  match cs.reverse.dropWhile (· != '@') with
  | [] => none
  | _ :: front => some (front.reverse, (cs.reverse.takeWhile (· != '@')).reverse)

/-- Name and password in what stands before the `@`. -/
def credentials (cs : List Char) : String × Option String :=
  let (name, rest) := cutAt (· == ':') cs
  let password := rest.drop 1
  (String.ofList (escape Part.userinfo name),
    if password = [] then none else some (String.ofList (escape Part.userinfo password)))

/-- The characters before the colon of a port; a colon in brackets belongs to the
host. -/
def cutHost : Bool → List Char → List Char × List Char
  | _, [] => ([], [])
  | inside, c :: cs =>
    if c = ':' ∧ ! inside then ([], c :: cs)
    else
      let inside := if c = '[' then true else if c = ']' then false else inside
      let (host, rest) := cutHost inside cs
      (c :: host, rest)

/-- A port, where the one that goes without saying counts as none. -/
def port (scheme : String) (cs : List Char) : Except ParseError (Option Nat) :=
  match cs with
  | [] => .ok none
  | cs =>
    match ofDigits 10 digitValue? cs with
    | some n =>
      if 65535 < n then .error .invalidPort
      else .ok (if defaultPort? scheme = some n then none else some n)
    | none => .error .invalidPort

/-- The authority in what stands between two slashes and the path. -/
def authority (scheme : String) (cs : List Char) : Except ParseError Authority := do
  let special := isSpecial scheme
  let (name, cs) := (cutLastAt cs).getD ([], cs)
  let (username, password?) := credentials name
  let (hostText, rest) := cutHost false cs
  let host ←
    if special then (if hostText = [] then .error .emptyHost else specialHost hostText)
    else otherHost hostText
  if host = "" ∧ (rest ≠ [] ∨ username ≠ "" ∨ password?.isSome) then .error .emptyHost
  else .ok ⟨username, password?, host, ← port scheme (rest.drop 1)⟩

/-- Everything after the two slashes before an authority. -/
def afterSlashes (scheme : String) (cs : List Char) : Except ParseError Url := do
  let special := isSpecial scheme
  let (place, rest) := cutAt endsPath cs
  let (who, path) := cutAt (isSlash special) place
  if who = ['@'] ∧ (path ≠ [] ∨ rest ≠ []) then .error .emptyHost
  else
    let a ← authority scheme who
    let (query?, fragment?) := queryAndFragment special rest
    .ok ⟨scheme, some a, .segments (pathAfterAuthority special path), query?, fragment?⟩

/-! ### Files -/

/-- Whether a segment is the letter of a drive, with a colon or a bar. -/
def isDrive : List Char → Bool
  | [c, d] => c.isAlpha && (d == ':' || d == '|')
  | _ => false

/-- The segments of the path of a file: empty ones in front are dropped, and the
letter of a drive is always followed by a colon and cannot be left. -/
def fileSegments (cs : List Char) : List String :=
  let parts := splitAt (isSlash true) cs
  let parts := parts.dropWhile (· == [])
  match parts with
  | drive :: rest =>
    if isDrive drive then
      let name := String.ofList (drive.take 1 ++ [':'])
      match rest with
      | [] => [name]
      | rest => name :: joinSegments [] rest
    else
      let names := (joinSegments [] parts).dropWhile (· == "")
      if names = [] then [""] else names
  | [] => [""]

/-- Everything after the colon of the scheme `file`. -/
def file (cs : List Char) : Except ParseError Url := do
  let (place, rest) := cutAt endsPath cs
  let (query?, fragment?) := queryAndFragment true rest
  let make (host : String) (path : List Char) : Url :=
    ⟨"file", some ⟨"", none, host, none⟩, .segments (fileSegments path), query?, fragment?⟩
  match place with
  | c :: d :: inner =>
    if isSlash true c ∧ isSlash true d then
      let (hostText, path) := cutAt (isSlash true) inner
      if hostText = [] ∨ isDrive hostText then .ok (make "" inner)
      else
        let host ← specialHost hostText
        .ok (make (if host = "localhost" then "" else host) path)
    else .ok (make "" place)
  | place => .ok (make "" place)

/-! ### Whole texts -/

/-- Everything after the colon of the scheme. -/
def afterScheme (scheme : String) (cs : List Char) : Except ParseError Url :=
  if scheme = "file" then file cs
  else if isSpecial scheme then afterSlashes scheme (cs.dropWhile (isSlash true))
  else
    match cs with
    | '/' :: '/' :: rest => afterSlashes scheme rest
    | cs =>
      let (place, rest) := cutAt endsPath cs
      let (query?, fragment?) := queryAndFragment false rest
      match place with
      | '/' :: inner =>
        .ok ⟨scheme, none, .segments (pathSegments false inner), query?, fragment?⟩
      | place =>
        .ok ⟨scheme, none, .plain (String.ofList (escape Part.control place)), query?, fragment?⟩

/-- Whether a character can stand in a scheme behind the first. -/
def isSchemeChar (c : Char) : Bool := c.isAlphanum || c == '+' || c == '-' || c == '.'

/-- The URL in a text. -/
def parse (s : String) : Except ParseError Url :=
  let cs := cleaned s
  let (scheme, rest) := cutAt (! isSchemeChar ·) cs
  match rest with
  | ':' :: rest =>
    if scheme.head?.any Char.isAlpha then afterScheme (String.ofList (scheme.map Char.toLower)) rest
    else .error .relative
  | _ => .error .relative

end Rulebook.Url
