import Rulebook.Text.Utf8

/-!
# Lines of input

Input arrives as bytes and is taken line by line. A line ends with a line feed
that belongs to it; a carriage return right before the line feed is dropped
together with it, and a last line without line feed counts as a line. Each line
is read as UTF-8 on its own, with its line feed, so that a flaw in one line
leaves the others readable.
-/

namespace Rulebook.Text

/-- A line as it was typed, or the reason why it is no text. -/
abbrev Line := Except Utf8.Flaw String

/-- The bytes of each line, line feeds included. -/
def byteLines : List UInt8 → List (List UInt8)
  | [] => []
  | b :: bs =>
    if b = 10 then [b] :: byteLines bs
    else match byteLines bs with
      | [] => [[b]]
      | line :: rest => (b :: line) :: rest

/-- A line without its line feed, and without the carriage return before it. -/
def chopLineEnd (s : String) : String :=
  match s.toList.reverse with
  | '\n' :: '\r' :: cs => String.ofList cs.reverse
  | '\n' :: cs => String.ofList cs.reverse
  | _ => s

/-- The lines of an input. -/
def lines (bytes : List UInt8) : List Line :=
  (byteLines bytes).map fun line => (Utf8.decode? line).map chopLineEnd

end Rulebook.Text
