import Rulebook.Rule

/-!
# Commands of the console

A line that the user types is a command word, and what follows it is the argument.
The words are separated from each other and from the argument by blanks, and the
argument has none at its ends. A few commands can be given by either of two words.

What a command does with its argument depends on the word: some ignore it, some
need it, some take it even if it is empty, and one takes it as a list of
identifiers.
-/

namespace Rulebook.Console

/-! ### Commands -/

/-- What the user can ask for. -/
inductive Command where
  | empty
  | list
  | add (text : String)
  | edit (id : RuleId)
  | draft (text : String)
  | save
  | cancel
  | toggle (id : RuleId)
  | delete (id : RuleId)
  | select (id : RuleId)
  | data (text : String)
  | eval
  | combine (ids : List RuleId)
  | reload
  | help
  | quit
  deriving DecidableEq

/-- The name of a command. -/
def Command.name : Command → String
  | empty => "Empty"
  | list => "List"
  | add _ => "Add"
  | edit _ => "Edit"
  | draft _ => "Draft"
  | save => "Save"
  | cancel => "Cancel"
  | toggle _ => "Toggle"
  | delete _ => "Delete"
  | select _ => "Select"
  | data _ => "Data"
  | eval => "Eval"
  | combine _ => "Combine"
  | reload => "Reload"
  | help => "Help"
  | quit => "Quit"

/-- The texts and identifiers in a command. -/
def Command.arguments : Command → List String
  | add text => [text]
  | edit id => [id.text]
  | draft text => [text]
  | toggle id => [id.text]
  | delete id => [id.text]
  | select id => [id.text]
  | data text => [text]
  | combine ids => ids.map (·.text)
  | _ => []

/-- Why a line is no command. -/
inductive CommandError where
  | unknownCommand (word : String)
  | missingArgument (word argument : String)
  deriving DecidableEq

namespace CommandError

/-- The name of an error. -/
def name : CommandError → String
  | unknownCommand _ => "UnknownCommand"
  | missingArgument _ _ => "MissingArgument"

/-- What the user is told. -/
def message : CommandError → String
  | unknownCommand word => s!"未知命令: {word}，输入 help 查看可用命令"
  | missingArgument word argument => s!"命令 {word} 缺少参数: {argument}"

end CommandError

/-! ### Reading a line -/

/-- An argument that must not be empty. -/
def needed (word argument : String) (rest : List Char) : Except CommandError String :=
  if rest.isEmpty then .error (.missingArgument word argument) else .ok (String.ofList rest)

/-- An identifier as the argument of a command. -/
def neededId (word : String) (rest : List Char) : Except CommandError RuleId :=
  (needed word "规则 ID" rest).map RuleId.mk

/-- The command with the given word and argument. -/
def Command.ofWord (word : String) (rest : List Char) : Except CommandError Command :=
  match word with
  | "" => .ok .empty
  | "list" | "ls" => .ok .list
  | "add" => (needed "add" "规则内容" rest).map .add
  | "edit" => (neededId "edit" rest).map .edit
  | "draft" => .ok (.draft (String.ofList rest))
  | "save" => .ok .save
  | "cancel" => .ok .cancel
  | "toggle" => (neededId "toggle" rest).map .toggle
  | "delete" | "rm" => (neededId "delete" rest).map .delete
  | "select" => (neededId "select" rest).map .select
  | "data" => .ok (.data (String.ofList rest))
  | "eval" => .ok .eval
  | "combine" =>
    (needed "combine" "规则 ID 列表" rest).map fun _ =>
      .combine ((Text.words rest).map fun w => ⟨String.ofList w⟩)
  | "reload" => .ok .reload
  | "help" | "?" => .ok .help
  | "quit" | "exit" => .ok .quit
  | other => .error (.unknownCommand other)

/-- The command in a line. -/
def Command.parse (line : String) : Except CommandError Command :=
  let (word, rest) := Text.cutWord (Text.trimmed line.toList)
  Command.ofWord (String.ofList word) (Text.trimmed rest)

end Rulebook.Console
