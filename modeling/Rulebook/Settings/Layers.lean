import Rulebook.Settings.Basic
import Rulebook.Settings.DotEnv
import Rulebook.Toml.Reader

/-!
# Where settings come from

Settings are put together from layers, and each layer overrides the ones before it,
name by name:

1. the name of the service and of its environment;
2. three files of the settings directory: one for everybody, one for the environment
   and one for the service;
3. the environment variables whose names begin with `RULE_CONSOLE__`. The rest of such
   a name is the path of a setting, in either case and with `__` for a dot.

A file that is not there is an empty layer, and one that cannot be read is an error
(`Rulebook.Settings.gather`). Where the directory and the environment are is itself
up to variables (`Rulebook.Settings.Site.of`).
-/

namespace Rulebook.Settings

/-- The files that can be read, by their paths. -/
abbrev Files := String → Option String

/-! ### Sites -/

/-- What decides where settings are looked for. -/
structure Site where
  directory : String
  service : String
  environment : String
  deriving DecidableEq

/-- The site that variables name, for a service; the directory can also be given. -/
def Site.of (service : String) (directory? : Option String) (vars : Variables) : Site :=
  { directory := directory?.getD ((vars.lookup "CONFIG_DIR").getD "config")
    service := service
    environment := (vars.lookup "RULE_CONSOLE_ENV").getD "development" }

/-- The path of a file in a directory; the empty path is the current directory. -/
def inDirectory (directory file : String) : String :=
  if file.toList.head? = some '/' ∨ directory = "" then file
  else if directory.toList.getLast? = some '/' then directory ++ file
  else directory ++ "/" ++ file

/-- The paths of the files of a site, the most general first. -/
def Site.paths (s : Site) : List String :=
  ["default", s.environment, s.service].map fun name => inDirectory s.directory (name ++ ".toml")

/-! ### Files -/

/-- The parts of a path; a part that stands for the directory it is in is dropped. -/
def pathParts (path : String) : List String :=
  ((path.toList.splitOn '/').map String.ofList).filter fun part => part != "" && part != "."

/-- A path in messages. -/
def shownPath (path : String) : String := String.intercalate "/" (pathParts path)

/-- Whether the file at a path has a name before its extension. -/
def isNamed (path : String) : Bool := (path.toList.splitOn '/').getLast? != some ".toml".toList

/-- The layer that a file is. -/
def fileLayer (files : Files) (path : String) : Except Error (List (String × Entry)) :=
  match if isNamed path then files path else none with
  | none => .ok []
  | some text =>
    match Toml.parse text with
    | none => .error .fileParse
    | some entries => .ok (Entry.ofTomlEntries (shownPath path) entries)

/-! ### Variables -/

/-- How the names of variables that are settings begin, in lower case. -/
def variableMark : List Char := "rule_console__".toList

/-- A name with dots for the double underscores. -/
def dotted : List Char → List Char
  | '_' :: '_' :: cs => '.' :: dotted cs
  | c :: cs => c :: dotted cs
  | [] => []

/-- The path of the setting that a variable stands for, if it stands for one. -/
def settingOf? (name : String) : Option String :=
  let cs := (Text.lower name).toList
  if variableMark.isPrefixOf cs then
    some (String.ofList (dotted (cs.drop variableMark.length)))
  else none

/-- The origin of settings that are variables. -/
def variableOrigin : Option String := some "the environment"

/-- The value of a variable, which is a truth value, a number or else a text. -/
def Entry.ofVariable (value : String) : Entry :=
  match Text.lower value with
  | "true" => .flag variableOrigin true
  | "false" => .flag variableOrigin false
  | _ =>
    match Text.integer? value, Binary64.read? value with
    | some n, _ => .integer variableOrigin n
    | none, some x => .float variableOrigin x
    | none, none => .text variableOrigin value

/-- The layer that the variables are. -/
def variableLayer (vars : Variables) : List (String × Entry) :=
  vars.filterMap fun (name, value) =>
    (settingOf? name).map fun path => (path, Entry.ofVariable value)

/-- The name of the variable that stands for the setting at a path. -/
def variableFor (path : List String) : String :=
  "__".intercalate ("RULE_CONSOLE" :: path.map fun name =>
    String.ofList (name.toList.map Char.toUpper))

/-- The names of the variables that stand for settings, in their usual form. -/
def settingVariables : List String :=
  rootFields.map (fun f => variableFor [f.name]) ++
    sections.flatMap fun sec => sec.fields.map fun f => variableFor [sec.name, f.name]

/-! ### Putting the layers together -/

/-- The layer of a site itself. -/
def Site.layer (s : Site) : List (String × Entry) :=
  [("service_name", .text none s.service), ("environment", .text none s.environment)]

/-- All layers of a site, the first one first. -/
def layers (s : Site) (files : Files) (vars : Variables) :
    Except Error (List (List (String × Entry))) := do
  let inFiles ← s.paths.mapM (fileLayer files)
  .ok (s.layer :: inFiles ++ [variableLayer vars])

/-- The settings of a site. -/
def gather (s : Site) (files : Files) (vars : Variables) : Except Error Settings := do
  let layers ← layers s files vars
  ofEntry (layers.foldl Entry.addLayer (.table none []))

/-! ### Variables in a file -/

/-- The path of the file with variables. -/
def variablesPath : String := ".env"

/-- The variables with those that the file adds, if it is there. -/
def allVariables (files : Files) (vars : Variables) : Variables :=
  match files variablesPath with
  | none => vars
  | some file => DotEnv.load vars file

/-- The settings of a service. -/
def load (service : String) (directory? : Option String) (files : Files) (vars : Variables) :
    Except Error Settings :=
  let vars := allVariables files vars
  gather (.of service directory? vars) files vars

end Rulebook.Settings
