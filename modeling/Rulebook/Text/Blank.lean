/-!
# Blank characters, trimming and words

Everything a user types – a rule, a command line, an answer to a question – is
cut at *blanks*, and blank always means one thing here: the characters that have
the property White_Space in the Unicode character database
(`Rulebook.Text.isBlank`). Three cuts are made with it:

* `Rulebook.Text.trim` takes the blanks off both ends;
* `Rulebook.Text.cutWord` takes the first word and leaves what follows it;
* `Rulebook.Text.words` lists the words, that is the longest stretches without
  a blank.

All three work on lists of characters, so that a proof can follow them by
induction; the versions on `String` are wrappers.
-/

namespace Rulebook.Text

/-! ### The property -/

/-- The characters that separate words: exactly those with the Unicode property
White_Space. -/
def isBlank (c : Char) : Bool :=
  let n := c.toNat
  (9 ≤ n && n ≤ 13) || n == 0x20 || n == 0x85 || n == 0xA0 || n == 0x1680 ||
    (0x2000 ≤ n && n ≤ 0x200A) || n == 0x2028 || n == 0x2029 || n == 0x202F ||
    n == 0x205F || n == 0x3000

/-! ### Trimming -/

/-- The characters from the first one that is not blank. -/
def dropBlanks (cs : List Char) : List Char := cs.dropWhile isBlank

/-- The characters between the first and the last one that is not blank. -/
def trimmed (cs : List Char) : List Char := (dropBlanks (dropBlanks cs).reverse).reverse

/-- A text without the blanks at its two ends. -/
def trim (s : String) : String := String.ofList (trimmed s.toList)

/-- A text that holds nothing but blanks, so that nothing is left of it once it
is trimmed. -/
def blank (s : String) : Bool := s.toList.all isBlank

/-! ### Words -/

/-- The first word of a text that starts with one, and what follows the blank
after it. -/
def cutWord (cs : List Char) : List Char × List Char :=
  (cs.takeWhile (! isBlank ·), (cs.dropWhile (! isBlank ·)).drop 1)

/-- The longest stretches without a blank, from left to right. -/
def words : List Char → List (List Char)
  | [] => []
  | c :: cs =>
    if isBlank c then words cs
    else match cs.head?, words cs with
      | some d, w :: ws => if isBlank d then [c] :: w :: ws else (c :: w) :: ws
      | _, ws => [c] :: ws

end Rulebook.Text
