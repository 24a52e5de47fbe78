import Rulebook.Program

/-!
# The executable

Hands the command line, the variables and the files of this process to the program,
and writes what it comes to. There is no transport for requests here: every request is
lost, so a command ends where it first needs the service, and no input is ever read.
-/

namespace Rulebook.Executable

/-- The variables that the program looks at, with their values. -/
def environment : IO Settings.Variables := do
  let names := ["RULE_CONSOLE_ENV", "CONFIG_DIR", "RUST_LOG"] ++ Settings.settingVariables
  let values ← names.mapM fun name => IO.getEnv name
  return (names.zip values).filterMap fun (name, value?) => value?.map (name, ·)

/-- The text of a file, if it can be read. -/
def fileText? (path : String) : IO (Option String) := do
  try
    return some (← IO.FS.readFile path)
  catch _ => return none

/-- Adds files to those that were read. -/
def readFiles (paths : List String) (files : Settings.Files) : IO Settings.Files := do
  let texts ← paths.mapM fileText?
  return fun path =>
    match (paths.zip texts).lookup path with
    | some text? => text?
    | none => files path

/-- The files that the program may read for a command line. -/
def files (words : List String) (vars : Settings.Variables) : IO Settings.Files := do
  let own ← readFiles [Settings.variablesPath] fun _ => none
  match CommandLine.parse words with
  | .error _ => return own
  | .ok invocation =>
    let vars := Settings.allVariables own vars
    let site := Settings.Site.of Program.name invocation.overrides.directory? vars
    readFiles site.paths own

/-- An event in structured form. -/
def eventLine (e : Event) : String :=
  (Json.Value.object [("level", .string e.level.name), ("target", .string e.part.target),
    ("fields", .object (("message", .string e.message) ::
      e.fields.map fun (name, value) => (name, .string value)))]).compact

end Rulebook.Executable

open Rulebook in
/-- Runs the program in this process. -/
def main (words : List String) : IO UInt32 := do
  let vars ← Executable.environment
  let files ← Executable.files words vars
  let (ending, _) := Program.run (.dead Unit) words vars files [] ()
  let stdout ← IO.getStdout
  let stderr ← IO.getStderr
  for e in ending.structured do
    stderr.putStrLn (Executable.eventLine e)
  stdout.putStr ending.output
  stdout.flush
  if let some report := ending.report? then
    stderr.putStr report.text
  return UInt32.ofNat ending.status
