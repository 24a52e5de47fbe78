import Rulebook.Console.Table
import Rulebook.Store.Basic
import Rulebook.UserData

/-!
# What the console says

The sentences that the user sees: what an operation came to, the outcome of an
evaluation, the notice of a failure, and the question that is asked before a rule
is deleted. The console in a terminal and the commands that are given one at a time
say the same things.
-/

namespace Rulebook.Console

/-! ### What an operation came to -/

/-- The outcome of an evaluation, with the details if there are any. -/
def outcome (o : Outcome) : String :=
  let verdict := if o.passed then "True" else "False"
  let head := s!"评估结果: {verdict}"
  if o.details.isEmpty then head else head ++ "\n" ++ UserData.render (.object o.details)

/-- A combined rule. -/
def combined (tree : Json.Value) : String := "合并后的 AST:\n" ++ UserData.render tree

/-- What was done to the collection. -/
def confirmation : Confirmed → String
  | .loaded listed => s!"已重新加载 {(Rule.firsts listed).length} 条规则"
  | .created r => s!"已添加规则: {r.id.text}"
  | .deleted id => s!"已删除规则: {id.text}"
  | .toggled id enabled => s!"规则 {id.text} 当前状态: {statusLabel enabled}"
  | .updated id _ => s!"已更新规则: {id.text}"
  | .combined _ tree => combined tree

/-- The notice of a failure. -/
def notice (f : Failure) : String := s!"错误: {f.notice}"

/-! ### Asking before a rule is deleted -/

/-- The question whether a rule is to be deleted. -/
def deleteQuestion (id : RuleId) : String := s!"确认删除规则 {id.text}? [y/N] "

/-- What is said when the answer was no. -/
def deleteCancelled : String := "已取消删除"

/-- Whether an answer means yes: the word `y` or `yes`, in either case. -/
def isYes (answer : String) : Bool :=
  let word := (Text.trimmed answer.toList).map Char.toLower
  word == ['y'] || word == ['y', 'e', 's']

/-! ### Help -/

/-- The list of commands. -/
def helpText : String := "\n".intercalate
  ["可用命令:",
    "  list                 列出全部规则",
    "  add <规则>           创建规则",
    "  edit <ID>            开始编辑规则",
    "  draft <规则>         修改编辑中的草稿",
    "  save                 保存草稿",
    "  cancel               放弃编辑",
    "  toggle <ID>          切换启用状态",
    "  delete <ID>          删除规则（需确认）",
    "  select <ID>          选择要评估的规则",
    "  data <JSON>          设置评估用户数据",
    "  eval                 评估所选规则",
    "  combine <ID>...      合并多条规则",
    "  reload               重新加载规则列表",
    "  help                 显示帮助",
    "  quit                 退出"]

end Rulebook.Console
