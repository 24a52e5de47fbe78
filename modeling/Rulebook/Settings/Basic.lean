import Rulebook.Backoff
import Rulebook.Settings.Coercion

/-!
# Settings

The settings of the console, each with its value where nothing else is said. A
setting belongs to the whole or to a section (`Rulebook.Settings.Section`); the tables
below say under which name each is found and how it is read, and everything that
depends on the list of settings goes through them.
-/

namespace Rulebook

/-- The settings of the console. Times are in seconds, those of the retry policy in
milliseconds. -/
structure Settings where
  serviceName : String
  environment : String
  baseUrl : String
  timeout : Nat
  connectTimeout : Nat
  guarded : Bool
  retry : Backoff
  logLevel : String
  logFormat : String
  deriving DecidableEq

namespace Settings

/-- The settings where nothing is said. -/
def standard : Settings :=
  { serviceName := "", environment := "", baseUrl := "http://localhost:5001", timeout := 30
    connectTimeout := 10, guarded := false, retry := .standard, logLevel := "info"
    logFormat := "pretty" }

/-- Whether the journal is written as JSON. -/
def jsonLogs (s : Settings) : Bool := Text.sameIgnoringCase s.logFormat "json"

/-! ### The list of settings -/

/-- A setting: its name, and how it is taken from an entry. -/
structure Field where
  name : String
  take : Entry → Settings → Except Mismatch Settings

/-- A group of settings, and what it is called in messages. -/
structure Section where
  name : String
  title : String
  fields : List Field

/-- A setting that is read as a type and then put into the settings. -/
def field {α : Type} (name : String) (read : Entry → Except Mismatch α)
    (put : Settings → α → Settings) : Field :=
  ⟨name, fun e s => (read e).map (put s)⟩

/-- The settings that belong to the whole. -/
def rootFields : List Field :=
  [field "service_name" Entry.text? fun s x => { s with serviceName := x },
    field "environment" Entry.text? fun s x => { s with environment := x }]

/-- The sections with their settings. -/
def sections : List Section :=
  [⟨"api", "struct ApiConfig",
      [field "base_url" Entry.text? fun s x => { s with baseUrl := x },
        field "timeout_seconds" Entry.natural? fun s x => { s with timeout := x },
        field "connect_timeout_seconds" Entry.natural? fun s x => { s with connectTimeout := x }]⟩,
    ⟨"sync", "struct SyncConfig",
      [field "guard_concurrent_mutations" Entry.flag? fun s x => { s with guarded := x }]⟩,
    ⟨"retry", "struct RetryConfig",
      [field "max_retries" Entry.natural32? fun s x => { s with retry.maxRetries := x },
        field "initial_delay_ms" Entry.natural? fun s x => { s with retry.initialDelay := x },
        field "max_delay_ms" Entry.natural? fun s x => { s with retry.maxDelay := x },
        field "multiplier" Entry.double? fun s x => { s with retry.multiplier := x }]⟩,
    ⟨"observability", "struct ObservabilityConfig",
      [field "log_level" Entry.text? fun s x => { s with logLevel := x },
        field "log_format" Entry.text? fun s x => { s with logFormat := x }]⟩]

/-! ### Taking settings from entries -/

/-- Takes a setting from an entry that stands under a key. -/
def Field.takeAt (f : Field) (key : String) (e : Entry) (s : Settings) : Except Error Settings :=
  (f.take e s).mapError (.wrongType key)

/-- Takes the settings that are among some entries; `above` stands before their
names. -/
def takeFields (above : String) (fields : List Field) (es : List (String × Entry))
    (s : Settings) : Except Error Settings :=
  fields.foldlM (fun s f =>
    match es.lookup f.name with
    | some e => f.takeAt (above ++ f.name) e s
    | none => .ok s) s

/-- Takes settings from the items of a list, in the order of the fields. -/
def takeItems (key : String) (fields : List Field) (items : List Entry) (s : Settings) :
    Except Error Settings :=
  ((fields.zip items).zipIdx).foldlM (fun s ((f, e), i) => f.takeAt s!"{key}[{i}]" e s) s

/-- Takes the settings of a section from the entry that stands in its place. -/
def Section.take (sec : Section) (e : Entry) (s : Settings) : Except Error Settings :=
  match e with
  | .table _ es => takeFields (sec.name ++ ".") sec.fields es s
  | .list _ items => takeItems sec.name sec.fields items s
  | e => .error (.wrongSection sec.name ⟨e.shown, sec.title, none⟩)

/-- The settings in an entry that layers have put together. -/
def ofEntry (e : Entry) : Except Error Settings := do
  let s ← takeFields "" rootFields e.entries standard
  sections.foldlM (fun s sec =>
    match e.entries.lookup sec.name with
    | some e => sec.take e s
    | none => .ok s) s

end Settings

end Rulebook
