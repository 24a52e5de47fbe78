import Rulebook.Text.LowerCase
import Rulebook.Url.Percent
import Rulebook.Url.Punycode

/-!
# Hosts

The host of a URL is a domain name, an IPv4 address or an IPv6 address in brackets;
a URL whose scheme is not special may have any other text in its place. A host is
kept as the text in which it is written, which is the same for two spellings of one
host: names in lower case and ASCII letters, addresses as numbers.

The tables by which characters of other scripts are brought together (compatibility
mappings, composed characters, rules for joiners and for the direction of writing) are
not part of this. A name outside ASCII is put in lower case, with wide characters made
narrow and the characters left out that are not seen; any other name keeps its
characters, also where those tables would change or refuse it. For names in ASCII there
is no difference.
-/

namespace Rulebook.Url

/-! ### Errors -/

/-- Why a text is no URL. -/
inductive ParseError where
  | emptyHost
  | invalidName
  | invalidPort
  | invalidIpv4
  | invalidIpv6
  | invalidHostCharacter
  | relative
  deriving DecidableEq

/-- The words in which an error is reported. -/
def ParseError.message : ParseError → String
  | emptyHost => "empty host"
  | invalidName => "invalid international domain name"
  | invalidPort => "invalid port number"
  | invalidIpv4 => "invalid IPv4 address"
  | invalidIpv6 => "invalid IPv6 address"
  | invalidHostCharacter => "invalid domain character"
  | relative => "relative URL without a base"

/-- The parts of a text between the places where `p` holds. -/
def splitAt (p : Char → Bool) : List Char → List (List Char)
  | [] => [[]]
  | c :: cs =>
    if p c then [] :: splitAt p cs
    else match splitAt p cs with
      | [] => [[c]]
      | w :: ws => (c :: w) :: ws

/-- The parts of a text between dots. -/
def dotted (cs : List Char) : List (List Char) := splitAt (· == '.') cs

/-- The number that digits of a base stand for. -/
def ofDigits (base : Nat) (value : Char → Option Nat) (cs : List Char) : Option Nat :=
  cs.foldl (fun acc c => match acc, value c with
    | some n, some d => if d < base then some (n * base + d) else none
    | _, _ => none) (some 0)

/-- The value of a hexadecimal digit. -/
def digitValue? (c : Char) : Option Nat :=
  if c.isDigit then some (c.toNat - 0x30)
  else if 'a' ≤ c ∧ c ≤ 'f' then some (c.toNat - 0x57)
  else if 'A' ≤ c ∧ c ≤ 'F' then some (c.toNat - 0x37)
  else none

/-! ### IPv4 addresses -/

/-- A part of an address: decimal, octal after a zero, or hexadecimal after
`0x`. -/
def ipv4Part (cs : List Char) : Option Nat :=
  match cs with
  | [] => none
  | '0' :: 'x' :: ds => ofDigits 16 digitValue? ds
  | '0' :: 'X' :: ds => ofDigits 16 digitValue? ds
  | '0' :: d :: ds => ofDigits 8 digitValue? (d :: ds)
  | ds => ofDigits 10 digitValue? ds

/-- The parts of a name without the empty one after a final dot. -/
def ipv4Parts (name : List Char) : List (List Char) :=
  let parts := dotted name
  if parts.getLast? = some [] then parts.dropLast else parts

/-- Whether a name has to be an IPv4 address, because its last part is a number. -/
def endsInNumber (name : List Char) : Bool :=
  match (ipv4Parts name).getLast? with
  | none => false
  | some last => (last ≠ [] && last.all Char.isDigit) || (ipv4Part last).isSome

/-- The address whose first parts are bytes and whose last part fills the rest. -/
def ipv4OfParts : List Nat → Option Nat
  | [] => none
  | parts =>
    let front := parts.dropLast
    let last := parts.getLastD 0
    if 4 < parts.length ∨ front.any (255 < ·) ∨ Nat.pow 256 (4 - front.length) ≤ last then none
    else some (front.foldl (fun acc p => acc * 256 + p) 0 * Nat.pow 256 (4 - front.length) + last)

/-- An address as four bytes in decimal, with dots between them. -/
def ipv4Text (address : Nat) : String :=
  ".".intercalate ([24, 16, 8, 0].map fun shift => toString (address / Nat.pow 2 shift % 256))

/-- The address that a name stands for. -/
def ipv4 (name : List Char) : Except ParseError String :=
  match (ipv4Parts name).mapM ipv4Part with
  | some parts =>
    match ipv4OfParts parts with
    | some address => .ok (ipv4Text address)
    | none => .error .invalidIpv4
  | none => .error .invalidIpv4

/-! ### IPv6 addresses -/

/-- A group of up to four hexadecimal digits. -/
def ipv6Group (cs : List Char) : Option Nat :=
  if cs = [] ∨ 4 < cs.length then none else ofDigits 16 digitValue? cs

/-- A byte in decimal without a leading zero. -/
def ipv4Byte (cs : List Char) : Option Nat :=
  match cs with
  | ['0'] => some 0
  | '0' :: _ => none
  | [] => none
  | ds => (ofDigits 10 digitValue? ds).filter (· ≤ 255)

/-- The groups of a text without a gap; the last one may be an IPv4 address, which
counts as two. -/
def ipv6Groups (cs : List Char) (ipv4Last : Bool) : Option (List Nat) :=
  if cs = [] then some []
  else
    let parts := splitAt (· == ':') cs
    let last := parts.getLastD []
    if ipv4Last ∧ last.contains '.' then do
      match ← (dotted last).mapM ipv4Byte with
      | [a, b, c, d] => some ((← parts.dropLast.mapM ipv6Group) ++ [a * 256 + b, c * 256 + d])
      | _ => none
    else parts.mapM ipv6Group

/-- The text before and after the first gap, which is written as two colons. -/
def cutGap : List Char → Option (List Char × List Char)
  | ':' :: ':' :: cs => some ([], cs)
  | c :: cs => (cutGap cs).map fun (front, back) => (c :: front, back)
  | [] => none

/-- The eight groups of an address. A gap stands for as many groups of zero as are
missing, at least one. -/
def ipv6 (cs : List Char) : Option (List Nat) :=
  match cutGap cs with
  | none => (ipv6Groups cs true).filter (·.length = 8)
  | some (front, back) => do
    let front ← ipv6Groups front false
    let back ← ipv6Groups back true
    let missing := 8 - (front.length + back.length)
    if missing = 0 then none else some (front ++ List.replicate missing 0 ++ back)

/-- A group in hexadecimal. -/
def groupText (n : Nat) : String := String.ofList (Nat.toDigits 16 n)

/-- The number of zeros at the front of a list. -/
def zeroRun (groups : List Nat) : Nat := (groups.takeWhile (· == 0)).length

/-- Start and length of the first of the longest runs of at least two zeros. -/
def longestRun (groups : List Nat) : Option (Nat × Nat) :=
  let runs := (List.range groups.length).map fun i => (i, zeroRun (groups.drop i))
  runs.foldl (fun best r =>
    if 2 ≤ r.2 ∧ (best.map (·.2)).getD 1 < r.2 then some r else best) none

/-- An address with its longest run of zeros as a gap. -/
def ipv6Text (groups : List Nat) : String :=
  let join (gs : List Nat) : String := ":".intercalate (gs.map groupText)
  match longestRun groups with
  | none => join groups
  | some (start, n) => join (groups.take start) ++ "::" ++ join (groups.drop (start + n))

/-! ### Hosts -/

/-- An address in brackets, without the first of them. -/
def bracketed (cs : List Char) : Except ParseError String :=
  match cs.reverse with
  | ']' :: inner =>
    match ipv6 inner.reverse with
    | some groups => .ok ("[" ++ ipv6Text groups ++ "]")
    | none => .error .invalidIpv6
  | _ => .error .invalidIpv6

/-- The characters that separate the parts of a name, in any script. -/
def isDot (c : Char) : Bool := c == '.' || c == '\u3002' || c == '\uFF0E' || c == '\uFF61'

/-- A character of a name before it is put in lower case: the wide forms of ASCII
characters stand for these, and the soft hyphen for nothing. -/
def foldChar (c : Char) : List Char :=
  let n := c.toNat
  if 0xFF01 ≤ n ∧ n ≤ 0xFF5E then [Char.ofNat (n - 0xFEE0)]
  else if n = 0xAD ∨ n = 0x200B ∨ n = 0x2060 ∨ n = 0xFEFF then []
  else [c]

/-- The characters that no domain name can have: control characters, the space, and
those that end a host in a URL. -/
def isForbidden (c : Char) : Bool :=
  c.toNat ≤ 0x20 || (0x7F ≤ c.toNat && c.toNat ≤ 0x9F) ||
    ['#', '%', '/', ':', '<', '>', '?', '@', '[', '\\', ']', '^', '|'].contains c

/-- How labels begin that are written with ASCII characters in place of others. -/
def asciiMark : List Char := ['x', 'n', '-', '-']

/-- The lower case of a name, with its wide characters and soft hyphens taken care
of. -/
def folded (name : List Char) : List Char :=
  (Text.lower (String.ofList (name.flatMap foldChar))).toList

/-- Whether a label that has the mark is the one way to write some label with other
than ASCII characters. -/
def isAsciiForm (label : List Char) : Bool :=
  match Punycode.decode? (label.drop asciiMark.length) with
  | none => false
  | some cs =>
    cs.any (0x80 ≤ ·.toNat) && folded cs == cs && ! cs.any isDot &&
      ! cs.any isForbidden && asciiMark ++ Punycode.encode cs == label

/-- A label in ASCII characters, if it can be written with them. -/
def asciiLabel? (label : List Char) : Option (List Char) :=
  let marked := asciiMark.isPrefixOf label
  if label.all (·.toNat < 0x80) then
    if marked && ! isAsciiForm label then none else some label
  else if marked then none
  else some (asciiMark ++ Punycode.encode label)

/-- A domain name in lower case and ASCII characters. Of a name in another script no
more is changed than its case and its width. -/
def domainName (bytes : List UInt8) : Except ParseError (List Char) :=
  match Text.Utf8.decode? bytes with
  | .error _ => .error .invalidName
  | .ok name =>
    let name := folded name.toList
    match (splitAt isDot name).mapM asciiLabel? with
    | none => .error .invalidName
    | some labels =>
      if name.any isForbidden then .error .invalidName
      else .ok (['.'].intercalate labels)

/-- The host of a special URL. -/
def specialHost (cs : List Char) : Except ParseError String :=
  match cs with
  | '[' :: inner => bracketed inner
  | cs => do
    let name ← domainName (unescape (String.ofList cs))
    if name = [] then .error .emptyHost
    else if endsInNumber name then ipv4 name
    else .ok (String.ofList name)

/-- The characters that no host at all can have. -/
def isForbiddenInHost (c : Char) : Bool :=
  ['\x00', '\t', '\n', '\r', ' ', '#', '/', ':', '<', '>', '?', '@', '[', '\\', ']', '^',
    '|'].contains c

/-- The host of a URL that is not special. -/
def otherHost (cs : List Char) : Except ParseError String :=
  match cs with
  | '[' :: inner => bracketed inner
  | cs =>
    if cs.any isForbiddenInHost then .error .invalidHostCharacter
    else .ok (String.ofList (escape Part.control cs))

end Rulebook.Url
