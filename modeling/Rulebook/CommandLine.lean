import Rulebook.Runner
import Rulebook.Settings.Basic

/-!
# Command lines

A command line names a command and what the command needs. Three options override
settings, and they may stand before or behind the name of the command. The words of a
command line are read from left to right in two *stretches* – up to the name of the
command, and behind it – which follow the same rules
(`Rulebook.CommandLine.Stretch`).

## Words

A word that begins with a hyphen is an option: `--name`, `--name=value`, or letters
after a single hyphen, the last of which may be followed by its value. A hyphen alone
is no option, and behind the word `--` nothing is. An option whose value is not
attached takes the next word, unless that is an option.

## When a fault is found

An option is put into effect only when the next thing is read, at the end of its
stretch at the latest. A fault in a word is therefore found before a fault in the
option that stands before it, and a fault behind the name of the command before one in
the last option in front of it.
-/

namespace Rulebook.CommandLine

/-! ### Commands and options -/

/-- What a command line can ask for. -/
inductive Verb where
  | list
  | create
  | delete
  | toggle
  | update
  | evaluate
  | combine
  | shell
  deriving DecidableEq

namespace Verb

/-- All commands. -/
def all : List Verb := [list, create, delete, toggle, update, evaluate, combine, shell]

/-- The name of a command. -/
def name : Verb → String
  | list => "list"
  | create => "create"
  | delete => "delete"
  | toggle => "toggle"
  | update => "update"
  | evaluate => "evaluate"
  | combine => "combine"
  | shell => "shell"

/-- The command with a given name. -/
def ofName? (word : String) : Option Verb := all.find? (·.name == word)

/-- How many words a command needs. -/
def needs : Verb → Nat
  | list => 0
  | create => 1
  | delete => 1
  | toggle => 1
  | update => 2
  | evaluate => 2
  | combine => 1
  | shell => 0

/-- Whether a command takes another word when it has some. Only rules to be combined
can be any number. -/
def hasRoom (v : Verb) (count : Nat) : Bool := count < v.needs || v == combine

end Verb

/-- A setting that the command line can override. -/
inductive Override where
  | baseUrl
  | logLevel
  | directory
  deriving DecidableEq

/-- The settings that a command line overrides, with their values. -/
structure Overrides where
  baseUrl? : Option String
  logLevel? : Option String
  directory? : Option String
  deriving DecidableEq

namespace Overrides

/-- Nothing is overridden. -/
def none : Overrides := ⟨.none, .none, .none⟩

/-- The value of an option. -/
def get? (o : Overrides) : Override → Option String
  | .baseUrl => o.baseUrl?
  | .logLevel => o.logLevel?
  | .directory => o.directory?

/-- Gives an option its value. -/
def set (o : Overrides) (name : Override) (value : String) : Overrides :=
  match name with
  | .baseUrl => { o with baseUrl? := some value }
  | .logLevel => { o with logLevel? := some value }
  | .directory => { o with directory? := some value }

/-- Some options, and others where they say nothing. -/
def or (o p : Overrides) : Overrides :=
  ⟨o.baseUrl?.or p.baseUrl?, o.logLevel?.or p.logLevel?, o.directory?.or p.directory?⟩

/-- The settings with the values that override them. -/
def apply (o : Overrides) (s : Settings) : Settings :=
  { s with baseUrl := o.baseUrl?.getD s.baseUrl, logLevel := o.logLevel?.getD s.logLevel }

end Overrides

/-- An option. -/
inductive Flag where
  | override (name : Override)
  /-- No question is asked before a rule is deleted. -/
  | yes
  | help
  | version
  deriving DecidableEq

/-- The option with a given name; some options belong to one command. -/
def Flag.named? (v? : Option Verb) (name : String) : Option Flag :=
  match name with
  | "base-url" => some (override .baseUrl)
  | "log-level" => some (override .logLevel)
  | "config-dir" => some (override .directory)
  | "yes" => if v? = some .delete then some yes else none
  | "help" => some help
  | "version" => some version
  | _ => none

/-- The option with a given letter. -/
def Flag.lettered? (v? : Option Verb) (letter : Char) : Option Flag :=
  match letter with
  | 'l' => some (override .logLevel)
  | 'y' => if v? = some .delete then some yes else none
  | 'h' => some help
  | 'V' => some version
  | _ => none

/-! ### Why a command line is not carried out -/

/-- Why a command line comes to no command. -/
inductive Stop where
  /-- Help was asked for. -/
  | help
  /-- The version was asked for, of the program or as that of a command. -/
  | version (v? : Option Verb)
  | nothingGiven
  | missingCommand
  | unknownCommand
  | unknownArgument
  | missingArgument
  /-- An option has no value, or an empty one that has to be a path. -/
  | missingValue
  /-- A value is attached to an option that has none. -/
  | unwantedValue
  /-- An option is given twice. -/
  | repeated
  deriving DecidableEq

/-- Whether the command line got what it asked for. -/
def Stop.asked : Stop → Bool
  | help => true
  | version _ => true
  | _ => false

/-! ### Stretches of words -/

/-- A word, as it looks outside of any context. -/
inductive Word where
  /-- Behind this word there are no options. -/
  | noMoreFlags
  | name (name : String) (value? : Option String)
  | letters (letters : List Char)
  | plain
  deriving DecidableEq

/-- What a word looks like. -/
def Word.of (word : String) : Word :=
  match word.toList with
  | ['-', '-'] => noMoreFlags
  | '-' :: '-' :: cs =>
    let value? := match cs.dropWhile (· != '=') with
      | [] => none
      | _ :: value => some (String.ofList value)
    name (String.ofList (cs.takeWhile (· != '='))) value?
  | ['-'] => plain
  | '-' :: cs => letters cs
  | _ => plain

/-- What is known behind some words of a stretch. -/
structure Stretch where
  /-- The options that have been put into effect. -/
  given : Overrides
  /-- An option that has not been put into effect yet, with its value if it has come. -/
  pending? : Option (Override × Option String)
  /-- The words that are no options. -/
  words : List String
  /-- Whether no question is to be asked. -/
  yes : Bool
  /-- Whether there are no more options. -/
  literal : Bool
  deriving DecidableEq

namespace Stretch

/-- The beginning of a stretch. -/
def empty : Stretch := ⟨.none, none, [], false, false⟩

/-- Whether an option waits for its value. -/
def waiting (s : Stretch) : Bool :=
  match s.pending? with
  | some (_, none) => true
  | _ => false

/-- Puts an option into effect. -/
def give (s : Stretch) (name : Override) (value : String) : Except Stop Stretch :=
  if (s.given.get? name).isSome then .error .repeated
  else if name = .directory ∧ value = "" then .error .missingValue
  else .ok { s with given := s.given.set name value }

/-- Puts the pending option into effect. -/
def settle (s : Stretch) : Except Stop Stretch :=
  match s.pending? with
  | none => .ok s
  | some (_, none) => .error .missingValue
  | some (name, some value) => { s with pending? := none }.give name value

/-- Takes an option, to which a value may be attached. -/
def flag (v? : Option Verb) (s : Stretch) (f : Flag) (value? : Option String) :
    Except Stop Stretch :=
  match f, value? with
  | .override name, some value => do (← s.settle).give name value
  | .override name, none => do
    let s ← s.settle
    .ok { s with pending? := some (name, none) }
  | _, some _ => .error .unwantedValue
  | .yes, none => do
    let s ← s.settle
    if s.yes then .error .repeated else .ok { s with yes := true }
  | .help, none => do
    let _ ← s.settle
    .error .help
  | .version, none => do
    let _ ← s.settle
    .error (.version v?)

/-- Takes options that are written as letters. What stands behind the letter of an
option with a value is the value. -/
def letters (v? : Option Verb) (s : Stretch) : List Char → Except Stop Stretch
  | [] => .ok s
  | c :: cs =>
    match Flag.lettered? v? c with
    | none => .error .unknownArgument
    | some (.override name) =>
      let value? := match cs with
        | [] => none
        | '=' :: value => some (String.ofList value)
        | value => some (String.ofList value)
      s.flag v? (.override name) value?
    | some f => do (← s.flag v? f none).letters v? cs

/-- Whether a word names a command, the one for help included. -/
def isCommand (word : String) : Bool := word == "help" || (Verb.ofName? word).isSome

/-- Takes a word that is no option. -/
def place (v? : Option Verb) (s : Stretch) (word : String) : Except Stop Stretch :=
  match v? with
  | none =>
    .error (if s.literal && isCommand word then .unknownArgument else .unknownCommand)
  | some v =>
    if v.hasRoom s.words.length then do
      let s ← s.settle
      .ok { s with words := s.words ++ [word] }
    else .error .unknownArgument

/-- Takes a word. -/
def step (v? : Option Verb) (s : Stretch) (word : String) : Except Stop Stretch :=
  if s.literal then s.place v? word
  else match Word.of word with
    | .noMoreFlags => .ok { s with literal := true }
    | .name name value? =>
      match Flag.named? v? name with
      | none => .error .unknownArgument
      | some f => s.flag v? f value?
    | .letters cs => s.letters v? cs
    | .plain =>
      match s.pending? with
      | some (name, none) => .ok { s with pending? := some (name, some word) }
      | _ => s.place v? word

/-- Takes all words of the stretch behind a command. -/
def behind (v : Verb) (s : Stretch) : List String → Except Stop Stretch
  | [] => s.settle
  | word :: rest => do (← s.step (some v) word).behind v rest

/-- What asking for help with some words comes to. -/
def helpWith : List String → Stop
  | [] => .help
  | [word] => if isCommand word then .help else .unknownCommand
  | _ => .unknownCommand

/-- Takes the words up to the name of a command, and finds the command and the words
behind it. -/
def before (s : Stretch) : List String → Except Stop (Stretch × Verb × List String)
  | [] => do
    let s ← s.settle
    .error (if s.given = .none then .nothingGiven else .missingCommand)
  | word :: rest =>
    if s.literal || s.waiting then do (← s.step none word).before rest
    else if word = "help" then .error (helpWith rest)
    else match Verb.ofName? word with
      | some v => .ok (s, v, rest)
      | none => do (← s.step none word).before rest

/-- The task of a command, once it has all its words. -/
def task (v : Verb) (s : Stretch) : Except Stop Runner.Task :=
  match v, s.words with
  | .list, _ => .ok .list
  | .create, [text] => .ok (.create text)
  | .delete, [id] => .ok (.delete ⟨id⟩ s.yes)
  | .toggle, [id] => .ok (.toggle ⟨id⟩)
  | .update, [id, text] => .ok (.update ⟨id⟩ text)
  | .evaluate, [id, data] => .ok (.evaluate ⟨id⟩ data)
  | .combine, id :: ids => .ok (.combine ((id :: ids).map RuleId.mk))
  | .shell, _ => .ok .shell
  | _, _ => .error .missingArgument

end Stretch

/-! ### Whole command lines -/

/-- What a command line asks for. -/
structure Invocation where
  overrides : Overrides
  task : Runner.Task
  deriving DecidableEq

/-- Reads a command line. An option behind the name of the command counts more than
the same one in front of it. -/
def parse (words : List String) : Except Stop Invocation := do
  let (front, v, rest) ← Stretch.empty.before words
  let back ← Stretch.empty.behind v rest
  let task ← back.task v
  let front ← front.settle
  .ok ⟨back.given.or front.given, task⟩

/-! ### Examples -/

example : parse ["list"] = .ok ⟨.none, .list⟩ := by rfl

example : parse ["-ldebug", "toggle", "r1", "--log-level=warn"] =
    .ok ⟨⟨none, some "warn", none⟩, .toggle ⟨"r1"⟩⟩ := by rfl

example : parse ["create", "--", "-x"] = .ok ⟨.none, .create "-x"⟩ := by rfl

example : parse ["--base-url", "x", "--base-url", "y", "list"] = .error .repeated := by rfl

end Rulebook.CommandLine
