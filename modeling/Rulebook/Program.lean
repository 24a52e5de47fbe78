import Rulebook.CommandLine
import Rulebook.Http.Client
import Rulebook.Journal.Filter
import Rulebook.Settings.Layers

/-!
# The program

The program reads its command line, puts its settings together, connects to the
service that they name, loads the rules and carries out one command
(`Rulebook.Program.run`). Whatever it needs from outside is handed to it: the words of
the command line, the variables of its environment, the files that it may read, the
lines of its input, and the network. What it comes to is a value, too
(`Rulebook.Program.Ending`), and each stage can be the last.
-/

namespace Rulebook.Program

/-- The name of the program, under which it also looks for its settings. -/
def name : String := "rule-console"

/-- The version of the program. -/
def version : String := "0.1.0"

/-! ### Endings -/

/-- What a run of the program comes to. -/
inductive Ending where
  /-- The command line comes to no command. -/
  | stopped (stop : CommandLine.Stop)
  /-- The settings cannot be used. -/
  | unsettled (error : Settings.Error)
  /-- The command was carried out, or at least begun, with some settings; a part of the
  journal is shown. -/
  | ran (settings : Settings) (ran : Runner.Ran) (shown : List Event)

/-- The version, as the program or a command shows it. -/
def shownVersion (v? : Option CommandLine.Verb) : String :=
  let who := match v? with
    | none => name
    | some v => name ++ "-" ++ v.name
  who ++ " " ++ version ++ "\n"

/-- What is reported about settings that cannot be used. -/
def reportOf (e : Settings.Error) : Report :=
  ⟨"加载配置失败" :: e.message?.toList⟩

namespace Ending

/-- Whether the program succeeded. -/
def succeeded : Ending → Bool
  | stopped stop => stop.asked
  | unsettled _ => false
  | ran _ r _ => r.result.isOk

/-- The status with which the program ends: a fault of the command line has one of its
own. -/
def status (e : Ending) : Nat :=
  match e with
  | stopped stop => if stop.asked then 0 else 2
  | e => if e.succeeded then 0 else 1

/-- What the program writes; the text of help is not part of it. -/
def output : Ending → String
  | stopped (.version v?) => shownVersion v?
  | stopped _ => ""
  | unsettled _ => ""
  | ran _ r _ => r.output

/-- What the program reports if it fails; a fault of the command line has no report. -/
def report? : Ending → Option Report
  | stopped _ => none
  | unsettled e => some (reportOf e)
  | ran _ r _ =>
    match r.result with
    | .ok _ => none
    | .error report => some report

/-- The events that are written in structured form. -/
def structured : Ending → List Event
  | ran settings _ shown => if settings.jsonLogs then shown else []
  | _ => []

end Ending

/-! ### Running -/

/-- Carries out a task with some settings: connects to the service, loads the rules and
does what was asked. -/
def carryOut {σ : Type} (net : Http.Network σ) (settings : Settings) (task : Runner.Task)
    (input : List Text.Line) (w : σ) : Runner.Ran × σ :=
  let store := Store.empty settings.guarded
  match Http.address settings.baseUrl with
  | .error failure => (⟨store, "", .error (.ofFailure failure), []⟩, w)
  | .ok url =>
    let (ran, w) := Runner.loadAndRun (Http.service net url) settings.retry store task input w
    ({ ran with log := .connecting url.text :: ran.log }, w)

/-- Runs the program. -/
def run {σ : Type} (net : Http.Network σ) (words : List String) (vars : Settings.Variables)
    (files : Settings.Files) (input : List Text.Line) (w : σ) : Ending × σ :=
  match CommandLine.parse words with
  | .error stop => (.stopped stop, w)
  | .ok invocation =>
    match Settings.load name invocation.overrides.directory? files vars with
    | .error e => (.unsettled e, w)
    | .ok settings =>
      let settings := invocation.overrides.apply settings
      let vars := Settings.allVariables files vars
      let filter := Filter.choose (vars.lookup "RUST_LOG") settings.logLevel
      let (ran, w) := carryOut net settings invocation.task input w
      (.ran settings ran (filter.apply ran.log), w)

end Rulebook.Program
