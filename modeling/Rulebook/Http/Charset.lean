import Rulebook.Text.LowerCase
import Rulebook.Text.Utf8

/-!
# The text of a response

A response comes as bytes, and its content type may say in which charset they are
to be read. Without a charset, or with one that nobody knows, the bytes are UTF-8. A
byte order mark at the beginning overrules the content type and is no part of the
text. Bytes that mean nothing in a charset are read as U+FFFD, so reading never fails.

Four charsets are written out here. There are many more, each with a table of its own,
and they are left open: `Rulebook.Http.Decoders` says how bytes are read under any other
label. A content type is taken apart at its semicolons; one that is malformed before its
first parameter is not told from one that is not.
-/

namespace Rulebook.Http

/-! ### Charsets -/

/-- The ways in which bytes can be read. -/
inductive Charset where
  | utf8
  | windows1252
  | utf16 (bigEndian : Bool)
  deriving DecidableEq

/-- The labels of the charsets. -/
def Charset.labels : List (String × Charset) :=
  let of (charset : Charset) (names : List String) := names.map (·, charset)
  of .utf8 ["utf-8", "utf8", "unicode-1-1-utf-8", "unicode11utf8", "unicode20utf8",
      "x-unicode20utf8"] ++
    of .windows1252 ["windows-1252", "cp1252", "x-cp1252", "iso-8859-1", "iso8859-1", "iso88591",
      "iso_8859-1", "iso_8859-1:1987", "iso-ir-100", "csisolatin1", "latin1", "l1", "cp819",
      "ibm819", "ascii", "us-ascii", "ansi_x3.4-1968"] ++
    of (.utf16 false) ["utf-16", "utf-16le", "unicode", "unicodefeff", "csunicode", "ucs-2",
      "iso-10646-ucs-2"] ++
    of (.utf16 true) ["utf-16be", "unicodefffe"]

/-- The charset with a given label. -/
def Charset.ofLabel? (label : String) : Option Charset := labels.lookup label

/-- How bytes are read under the labels of other charsets, as far as these are known. -/
abbrev Decoders := String → Option (List UInt8 → String)

/-- The characters of windows-1252 for the bytes from 80 to 9F. -/
def windows1252High : List Nat :=
  [0x20AC, 0x81, 0x201A, 0x0192, 0x201E, 0x2026, 0x2020, 0x2021, 0x02C6, 0x2030, 0x0160, 0x2039,
    0x0152, 0x8D, 0x017D, 0x8F, 0x90, 0x2018, 0x2019, 0x201C, 0x201D, 0x2022, 0x2013, 0x2014,
    0x02DC, 0x2122, 0x0161, 0x203A, 0x0153, 0x9D, 0x017E, 0x0178]

/-- The character of windows-1252 for a byte. -/
def windows1252Char (b : UInt8) : Char :=
  let n := b.toNat
  Char.ofNat (if 0x80 ≤ n ∧ n < 0xA0 then windows1252High.getD (n - 0x80) n else n)

/-- The 16-bit units of a sequence of bytes, and whether a byte was left over. -/
def units (bigEndian : Bool) : List UInt8 → List Nat × Bool
  | [] => ([], false)
  | [_] => ([], true)
  | a :: b :: bs =>
    let u := if bigEndian then a.toNat * 256 + b.toNat else b.toNat * 256 + a.toNat
    let (us, odd) := units bigEndian bs
    (u :: us, odd)

/-- The characters of 16-bit units; half a pair is read as U+FFFD. -/
def unitChars : List Nat → List Char
  | [] => []
  | u :: us =>
    if 0xD800 ≤ u ∧ u ≤ 0xDBFF then
      match us with
      | v :: vs =>
        if 0xDC00 ≤ v ∧ v ≤ 0xDFFF then
          Char.ofNat (0x10000 + (u - 0xD800) * 0x400 + (v - 0xDC00)) :: unitChars vs
        else '\uFFFD' :: unitChars (v :: vs)
      | [] => ['\uFFFD']
    else if 0xDC00 ≤ u ∧ u ≤ 0xDFFF then '\uFFFD' :: unitChars us
    else Char.ofNat u :: unitChars us

/-- The text of bytes in a charset. -/
def Charset.read (bytes : List UInt8) : Charset → String
  | utf8 => Text.Utf8.decodeLossy bytes
  | windows1252 => String.ofList (bytes.map windows1252Char)
  | utf16 bigEndian =>
    let (us, odd) := units bigEndian bytes
    String.ofList (unitChars us ++ if odd then ['\uFFFD'] else [])

/-! ### Content types -/

/-- The parameters of a content type, as name and value. -/
def parameters (contentType : String) : List (String × String) :=
  ((contentType.splitOn ";").drop 1).filterMap fun p =>
    match p.splitOn "=" with
    | [] | [_] => none
    | name :: value =>
      let value := ("=".intercalate value).trimAscii.toString
      let inner := value.toList
      let bare := match inner, inner.reverse with
        | '"' :: cs, '"' :: _ => String.ofList cs.dropLast
        | _, _ => value
      some (Text.lowerAscii name.trimAscii.toString, bare)

/-- The label of the charset that a content type asks for. -/
def charsetLabel? (contentType : Option String) : Option String :=
  (contentType.bind fun t => (parameters t).lookup "charset").map fun label =>
    Text.lowerAscii label.trimAscii.toString

/-- The text of bytes under a label. -/
def readLabelled (others : Decoders) (label : String) (bytes : List UInt8) : String :=
  match Charset.ofLabel? label with
  | some charset => charset.read bytes
  | none =>
    match others label with
    | some decode => decode bytes
    | none => Charset.utf8.read bytes

/-- The text of a response. -/
def readText (others : Decoders) (contentType : Option String) (bytes : List UInt8) : String :=
  match bytes with
  | 0xEF :: 0xBB :: 0xBF :: rest => Charset.utf8.read rest
  | 0xFF :: 0xFE :: rest => (Charset.utf16 false).read rest
  | 0xFE :: 0xFF :: rest => (Charset.utf16 true).read rest
  | bytes =>
    match charsetLabel? contentType with
    | some label => readLabelled others label bytes
    | none => Charset.utf8.read bytes

end Rulebook.Http
