import Rulebook.Url.Host

/-!
# URLs

The address of a rule service, and of everything that is asked of it, is a URL. A
URL that names a place in a hierarchy has its path as a list of segments; the text
of the path has a slash before each of them, so the list `[]` is the empty path and
`[""]` a single slash. A URL of another kind has a path that is just a text.
-/

namespace Rulebook

namespace Url

/-- Who is addressed: a name with a password, a host and a port. The name and the
password are written with escapes. -/
structure Authority where
  username : String
  password? : Option String
  host : String
  port? : Option Nat
  deriving DecidableEq

/-- The path of a URL, with escapes. -/
inductive Path where
  | plain (text : String)
  | segments (names : List String)
  deriving DecidableEq

end Url

/-- A URL in its parts. -/
structure Url where
  scheme : String
  authority? : Option Url.Authority
  path : Url.Path
  query? : Option String
  fragment? : Option String
  deriving DecidableEq

namespace Url

/-! ### Schemes -/

/-- The schemes that are special, with the port that goes without saying. -/
def specialPorts : List (String × Option Nat) :=
  [("http", some 80), ("https", some 443), ("ws", some 80), ("wss", some 443), ("ftp", some 21),
    ("file", none)]

/-- Whether a scheme is special: its URLs have a host, and a backslash in them is as
good as a slash. -/
def isSpecial (scheme : String) : Bool := (specialPorts.lookup scheme).isSome

/-- The port of a scheme that goes without saying. -/
def defaultPort? (scheme : String) : Option Nat := (specialPorts.lookup scheme).join

/-! ### Text -/

/-- Segments with a slash before each. -/
def pathText (names : List String) : String := String.join (names.map ("/" ++ ·))

/-- A name with its password, if either is there. -/
def Authority.credentials (a : Authority) : String :=
  match a.password? with
  | some password => a.username ++ ":" ++ password ++ "@"
  | none => if a.username = "" then "" else a.username ++ "@"

/-- An authority with the slashes before it. -/
def Authority.text (a : Authority) : String :=
  "//" ++ a.credentials ++ a.host ++ (a.port?.map fun p => s!":{p}").getD ""

/-- What stands between scheme and query. A path that begins with two slashes is kept
apart from an authority. -/
def placeText (u : Url) : String :=
  match u.path, u.authority? with
  | .plain text, _ => text
  | .segments names, some a => a.text ++ pathText names
  | .segments names, none =>
    (if names.head? = some "" && names.length ≠ 1 then "/." else "") ++ pathText names

/-- The text of a URL. -/
def text (u : Url) : String :=
  u.scheme ++ ":" ++ u.placeText ++ (u.query?.map ("?" ++ ·)).getD "" ++
    (u.fragment?.map ("#" ++ ·)).getD ""

/-! ### Extending a path -/

/-- Whether a URL names a place in a hierarchy, so that its path can be extended. -/
def extensible (u : Url) : Bool := u.path matches .segments _

/-- The segments without the empty one at the end that a final slash makes. -/
def dropFinalSlash (names : List String) : List String :=
  if names.length ≤ 1 then names
  else if names.getLast? = some "" then names.dropLast
  else names

/-- The spellings of the segment that stands for the place itself. -/
def isDotSegment (name : String) : Bool := ["." , "%2e", "%2E"].contains name

/-- The spellings of the segment that stands for the place above. -/
def isDoubleDotSegment (name : String) : Bool :=
  ["..", "%2e%2e", "%2e%2E", "%2E%2e", "%2E%2E", "%2e.", "%2E.", ".%2e", ".%2E"].contains name

/-- The characters that a URL cannot hold and that are left out of it. -/
def isIgnored (c : Char) : Bool := c == '\t' || c == '\n' || c == '\r'

/-- A path with a last segment put behind it, where the segment may stand for the
place itself or the place above. -/
def endPath (names : List String) (last : String) : List String :=
  if isDoubleDotSegment last then names.dropLast ++ [""]
  else if isDotSegment last then names ++ [""]
  else names ++ [last]

/-- A path with one more segment, given by its plain text. -/
def pushSegment (special : Bool) (names : List String) (name : String) : List String :=
  let part := if special then Part.specialSegment else Part.segment
  let written := String.ofList (escape part (name.toList.filter (! isIgnored ·)))
  endPath (if names = [""] then [] else names) written

/-- A URL whose path is extended by segments, given by their plain texts. -/
def extend (u : Url) (names : List String) : Url :=
  match u.path with
  | .plain _ => u
  | .segments base =>
    { u with
      path := .segments (names.foldl (pushSegment (isSpecial u.scheme)) (dropFinalSlash base)) }

/-- Whether a text with escapes stands for a text. -/
def readable (s : String) : Bool := (Text.Utf8.decode? (unescape s)).isOk

/-- A URL without name and password, if these can be read. -/
def withoutCredentials (u : Url) : Url :=
  match u.authority? with
  | none => u
  | some a =>
    if readable a.username && (a.username != "" || a.password?.any readable) then
      { u with authority? := some { a with username := "", password? := none } }
    else u

end Url

end Rulebook
