import Rulebook.Binary64.Layout
import Rulebook.Binary64.Reader
import Rulebook.Journal
import Rulebook.Text.Alphanumeric
import Rulebook.Text.Blank

/-!
# What is shown of the journal

A filter says which events are shown. It is a list of directives
(`Rulebook.Filter.Directive`), each with the least urgent level that it lets pass and
with what it is about: a part of the library, a span of operations, or events that
carry certain fields. For an event the most specific directive that is about it
decides, and without one the event is not shown.

## Two kinds of directives

Directives about spans are kept apart from those about events. A directive that names
fields but no span belongs to both, unless it asks for the values of its fields.

## Writing a filter

A filter is written as directives with commas between them, such as
`rule_client=debug,info`. A text that breaks the rules is no filter. Where more than
one text may hold the filter, the first one that is a filter counts
(`Rulebook.Filter.choose`).
-/

namespace Rulebook

namespace Filter

/-! ### Levels -/

/-- The least urgent level that passes; `none` lets nothing pass. -/
abbrev Limit := Option Level

/-- A limit as it is written. -/
def shownLimit (l : Limit) : String :=
  match l with
  | none => "off"
  | some l => Text.lowerAscii l.name

/-- The limit with a given number. -/
def numberedLimit? (n : Nat) : Option Limit :=
  [none, some .error, some .warn, some .info, some .debug, some .trace][n]?

/-- The limits that have a name. -/
def namedLimits : List Limit :=
  [none, some .error, some .warn, some .info, some .debug, some .trace]

/-- The limit that a word stands for: its number, or its name in either case. -/
def limit? (word : String) : Option Limit :=
  match Text.natural? 0x10000000000000000 word with
  | some n => numberedLimit? n
  | none => namedLimits.find? fun l => shownLimit l == Text.lowerAscii word

/-- Whether a limit lets a level pass. -/
def passes (l : Limit) (level : Level) : Bool :=
  match l with
  | none => false
  | some l => level.rank ≤ l.rank

/-! ### Directives -/

/-- A field that a directive asks for, and the value that it should have, if that
matters. -/
structure Field where
  name : String
  value? : Option String
  deriving DecidableEq

/-- What may pass of what. -/
structure Directive where
  /-- How the names of the parts begin that the directive is about. -/
  target? : Option String
  span? : Option String
  fields : List Field
  limit : Limit
  deriving DecidableEq

namespace Directive

/-- Whether a directive is about spans. -/
def forSpans (d : Directive) : Bool := d.span?.isSome || ! d.fields.isEmpty

/-- Whether a directive is about events. -/
def forEvents (d : Directive) : Bool := d.span?.isNone && d.fields.all (·.value?.isNone)

/-- A field as it is written. -/
def shownField (f : Field) : String :=
  match f.value? with
  | none => f.name
  | some v => f.name ++ "=" ++ v

/-- What a directive is about, as it is written. -/
def shownSubject (d : Directive) : String :=
  let fields :=
    if d.fields.isEmpty then ""
    else "\x7b" ++ String.intercalate "," (d.fields.map shownField) ++ "\x7d"
  let span := if d.forSpans then "[" ++ d.span?.getD "" ++ fields ++ "]" else ""
  d.target?.getD "" ++ span

/-- A directive as it is written. -/
def text (d : Directive) : String :=
  if d.target?.isSome || d.forSpans then d.shownSubject ++ "=" ++ shownLimit d.limit
  else shownLimit d.limit

/-! ### The order of directives -/

/-- The order of things that may be missing; one that is missing comes first. -/
def compareOption {α : Type} (f : α → α → Ordering) : Option α → Option α → Ordering
  | none, none => .eq
  | none, some _ => .lt
  | some _, none => .gt
  | some a, some b => f a b

/-- The order of lists by the first place where they differ. -/
def compareList {α : Type} (f : α → α → Ordering) : List α → List α → Ordering
  | [], [] => .eq
  | [], _ :: _ => .lt
  | _ :: _, [] => .gt
  | a :: as, b :: bs => (f a b).then (compareList f as bs)

/-- The order of texts. -/
def compareText (s t : String) : Ordering :=
  compareList (fun c d => compare c.toNat d.toNat) s.toList t.toList

/-- The order of fields: those that ask for a value come last. -/
def compareField (f g : Field) : Ordering :=
  ((compare f.value?.isSome.toNat g.value?.isSome.toNat).then (compareText f.name g.name)).then
    (compareOption compareText f.value? g.value?)

/-- The order of directives by how specific they are: by the length of the target,
then by whether they name a span, then by the number of fields. Directives that are
equally specific are in the order of their texts, and only those about the same are
equal. -/
def order (d e : Directive) : Ordering :=
  (compareOption (fun s t => compare s.utf8ByteSize t.utf8ByteSize) d.target? e.target?)
    |>.then (compare d.span?.isSome.toNat e.span?.isSome.toNat)
    |>.then (compare d.fields.length e.fields.length)
    |>.then (compareOption compareText d.target? e.target?)
    |>.then (compareOption compareText d.span? e.span?)
    |>.then (compareList compareField d.fields e.fields)

/-- Puts a directive in its place among others, the most specific first. It replaces
the one that is about the same. -/
def insert (d : Directive) : List Directive → List Directive
  | [] => [d]
  | e :: es =>
    match d.order e with
    | .gt => d :: e :: es
    | .eq => d :: es
    | .lt => e :: insert d es

/-! ### Reading a directive -/

/-- The value that a field should have: a number is written in its plainest form, and
anything else is kept. -/
def plainest (s : String) : String :=
  match Text.natural? 0x10000000000000000 s, Text.integer? s, Binary64.read? s with
  | some n, _, _ => toString n
  | none, some n, _ => toString n
  | none, none, some x => Binary64.Layout.plain.write x
  | none, none, none => s

/-- The field that a text stands for. -/
def readField? (cs : List Char) : Option Field :=
  match (cs.splitOn '=').map String.ofList with
  | [] => none
  | [name] => if name = "" then none else some ⟨name, none⟩
  | name :: value :: _ => some ⟨name, some (plainest value)⟩

/-- A place in the text of a directive. Where a part of the directive has begun, the
place says after how many characters. -/
inductive Place where
  | start
  | subject (begun : Nat)
  | span (begun : Nat)
  | field (begun : Nat)
  /-- Behind the fields. -/
  | fields
  /-- Behind what the directive is about. -/
  | behind
  | limit (begun : Nat)

/-- The characters of a text from one place to another. -/
def cut (text : List Char) (first last : Nat) : List Char := (text.drop first).take (last - first)

/-- A step over the character `c`, which is number `i`. Parts of the directive are cut
out of `text`. -/
def step (text : List Char) (i : Nat) (p : Place) (c : Char) (d : Directive) :
    Option (Place × Directive) :=
  match p with
  | .start =>
    if c = '[' then some (.span (i + 1), d)
    else if c ∈ ['-', ':', '_'] || Text.isAlphanumeric c then some (.subject i, d)
    else none
  | .subject begun =>
    let target := String.ofList (cut text begun i)
    if c = '=' then some (.limit (i + 1), { d with target? := some target })
    else if c = '[' then some (.span (i + 1), { d with target? := some target })
    else some (.subject begun, d)
  | .span begun =>
    let name := String.ofList (cut text begun i)
    if c = ']' then some (.behind, { d with span? := some name })
    else if c = '{' then
      some (.field (i + 1), { d with span? := if name = "" then none else some name })
    else some (.span begun, d)
  | .field begun =>
    if c = '}' then
      (readField? (cut text begun i)).map fun f =>
        (.fields, { d with fields := d.fields ++ [f] })
    else some (.field begun, d)
  | .fields => if c = ']' then some (.behind, d) else none
  | .behind => if c = '=' then some (.limit (i + 1), d) else none
  | .limit begun => some (.limit begun, d)

/-- A directive whose text ends at a place. A word alone is a limit if it can be, and
otherwise a target; where no limit is written, everything passes. -/
def close? (text : List Char) (p : Place) (d : Directive) : Option Directive :=
  match p with
  | .subject begun =>
    let word := String.ofList (text.drop begun)
    match limit? word with
    | some l => some { d with limit := l }
    | none => some { d with target? := some word }
  | .limit begun =>
    match text.drop begun with
    | [] => some d
    | cs => (limit? (String.ofList cs)).map fun l => { d with limit := l }
  | .behind => some d
  | _ => none

/-- Reads a directive from a place on. -/
def readFrom (text : List Char) (i : Nat) (p : Place) (d : Directive) :
    List Char → Option Directive
  | [] => close? text p d
  | c :: cs => do
    let (p, d) ← step text i p c d
    readFrom text (i + 1) p d cs

/-- The directive that a text stands for. Its characters are counted from the first
one that is not blank, but its parts are cut out of the text with the blanks. -/
def read? (s : String) : Option Directive :=
  readFrom s.toList 0 .start ⟨none, none, [], some .trace⟩ (Text.trimmed s.toList)

end Directive

end Filter

/-! ### Filters -/

/-- Which events are shown: the directives about events and those about spans, each
with the most specific first. -/
structure Filter where
  events : List Filter.Directive
  spans : List Filter.Directive
  deriving DecidableEq

namespace Filter

/-- The filter with some directives. Of two that are about the same the later one
counts. -/
def ofDirectives (ds : List Directive) : Filter :=
  let spans := ds.filter (·.forSpans)
  let events := (ds.filter (! ·.forSpans) ++ spans).filter (·.forEvents)
  { events := events.foldl (fun acc d => d.insert acc) []
    spans := spans.foldl (fun acc d => d.insert acc) [] }

/-- The filter that a text stands for. -/
def parse (s : String) : Option Filter :=
  let texts := ((s.toList.splitOn ',').map String.ofList).filter (· != "")
  (texts.mapM Directive.read?).map ofDirectives

/-- The filter where nothing else is said. -/
def standard : Filter := ofDirectives [⟨none, none, [], some .info⟩]

/-- The filter that counts: the one for this run if there is any, else the one of the
settings. A text that is no filter is passed over. -/
def choose (forRun? : Option String) (ofSettings : String) : Filter :=
  ((forRun?.filter (! Text.blank ·)).bind parse).getD ((parse ofSettings).getD standard)

/-- A filter as it is written. -/
def text (f : Filter) : String :=
  String.intercalate "," ((f.events ++ f.spans).map Directive.text)

/-! ### Filtering -/

/-- Whether a directive is about an event. The end of an operation is no event of its
own and is not asked for fields. -/
def Directive.concerns (d : Directive) (e : Event) : Bool :=
  let hasTarget := match d.target? with
    | none => true
    | some t => t.toList.isPrefixOf e.part.target.toList
  let hasFields := match e with
    | .finished _ => true
    | e => d.fields.all fun f => e.fields.any fun (name, _) => name == f.name
  hasTarget && hasFields

/-- Whether an event is shown. -/
def shows (f : Filter) (e : Event) : Bool :=
  match f.events.find? (·.concerns e) with
  | none => false
  | some d => passes d.limit e.level

/-- The events of a journal that are shown. -/
def apply (f : Filter) (log : List Event) : List Event := log.filter f.shows

end Filter

end Rulebook
