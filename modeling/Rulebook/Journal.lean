import Rulebook.Failure

/-!
# The journal

What the library does is written to a journal, one `Rulebook.Event` for each thing
worth knowing. An event is a value with its data in it; how urgent it is, which
part of the library it comes from and in what words it is written are functions of
it, so that a statement about events never has to look at words.
-/

namespace Rulebook

/-! ### Levels and parts -/

/-- How urgent an event is, from the most urgent to the least. -/
inductive Level where
  | error
  | warn
  | info
  | debug
  | trace
  deriving DecidableEq, Inhabited

namespace Level

/-- The place of a level, the most urgent first. -/
def rank : Level → Nat
  | error => 1
  | warn => 2
  | info => 3
  | debug => 4
  | trace => 5

/-- The name of a level in the journal. -/
def name : Level → String
  | error => "ERROR"
  | warn => "WARN"
  | info => "INFO"
  | debug => "DEBUG"
  | trace => "TRACE"

end Level

/-- A part of the library that writes to the journal. -/
inductive Part where
  | failure
  | store
  | evaluation
  | retry
  | runner
  deriving DecidableEq

/-- The name under which a part appears in the journal, which filters refer
to. -/
def Part.target : Part → String
  | failure => "rule_client::error"
  | store => "rule_client::store"
  | evaluation => "rule_client::evaluation"
  | retry => "console_shared::retry"
  | runner => "rule_console::cli::runner"

/-! ### Events -/

/-- What is written to the journal. -/
inductive Event where
  /-- The service listed a rule twice, and the second one was dropped. -/
  | duplicateListed (id : RuleId)
  /-- The collection was replaced by the rules that the service lists. -/
  | listLoaded (count : Nat)
  /-- The service gave a new rule the identifier of a known one. -/
  | createdAgain (id : RuleId)
  | ruleCreated (id : RuleId)
  | ruleDeleted (id : RuleId)
  /-- A rule was deleted that is no longer in the collection. -/
  | deletedUnlisted (id : RuleId)
  | statusChanged (id : RuleId) (enabled : Bool)
  /-- A rule was switched that is no longer in the collection. -/
  | statusUnlisted (id : RuleId) (enabled : Bool)
  | textChanged (id : RuleId)
  /-- The text of a rule was changed that is no longer in the collection. -/
  | textUnlisted (id : RuleId)
  | rulesCombined (count : Nat)
  /-- An operation named a rule that is not in the collection. -/
  | unknownRule (id : RuleId)
  /-- A call to the service went wrong. -/
  | callFailed (failure : CallFailure)
  | ruleEvaluated (id : RuleId) (passed : Bool)
  /-- An operation succeeded after it had been tried again. -/
  | recovered (operation : String) (retries : Nat)
  /-- An operation failed in a way that is not worth another try. -/
  | givenUp (operation error : String)
  /-- An operation failed for the last time that was allowed. -/
  | exhausted (operation : String) (retries : Nat) (error : String)
  /-- An operation failed and is tried again after a pause. -/
  | retrying (operation : String) (retries delay : Nat) (error : String)
  /-- The address of the service that is going to be used. -/
  | connecting (address : String)
  /-- An operation of a part has come to its end. -/
  | finished (part : Part)
  deriving DecidableEq

namespace Event

/-- How urgent an event is. -/
def level : Event → Level
  | duplicateListed _ => .warn
  | listLoaded _ => .info
  | createdAgain _ => .warn
  | ruleCreated _ => .info
  | ruleDeleted _ => .info
  | deletedUnlisted _ => .warn
  | statusChanged _ _ => .info
  | statusUnlisted _ _ => .warn
  | textChanged _ => .info
  | textUnlisted _ => .warn
  | rulesCombined _ => .info
  | unknownRule _ => .warn
  | callFailed _ => .error
  | ruleEvaluated _ _ => .info
  | recovered _ _ => .info
  | givenUp _ _ => .warn
  | exhausted _ _ _ => .warn
  | retrying _ _ _ _ => .warn
  | connecting _ => .info
  | finished _ => .info

/-- The part that an event comes from. -/
def part : Event → Part
  | callFailed _ => .failure
  | ruleEvaluated _ _ => .evaluation
  | recovered _ _ => .retry
  | givenUp _ _ => .retry
  | exhausted _ _ _ => .retry
  | retrying _ _ _ _ => .retry
  | connecting _ => .runner
  | finished p => p
  | _ => .store

/-- The words of an event. -/
def message : Event → String
  | duplicateListed _ => "服务端返回重复规则，已忽略"
  | listLoaded _ => "规则列表已加载"
  | createdAgain _ => "创建返回已存在的规则 id，覆盖本地记录"
  | ruleCreated _ => "规则已创建"
  | ruleDeleted _ => "规则已删除"
  | deletedUnlisted _ => "删除成功但本地已无该规则"
  | statusChanged _ _ => "规则状态已更新"
  | statusUnlisted _ _ => "状态切换成功但本地已无该规则，忽略"
  | textChanged _ => "规则已更新"
  | textUnlisted _ => "更新成功但本地已无该规则，忽略"
  | rulesCombined _ => "规则已合并"
  | unknownRule _ => "操作引用的规则不在本地集合中"
  | callFailed _ => "远程调用失败"
  | ruleEvaluated _ _ => "规则评估完成"
  | recovered _ _ => "重试后成功"
  | givenUp _ _ => "不可重试的错误"
  | exhausted _ _ _ => "重试次数已用尽"
  | retrying _ _ _ _ => "调用失败，退避后重试"
  | connecting _ => "连接规则服务"
  | finished _ => "close"

/-- A status as the journal shows it. -/
def shownStatus : Option Nat → String
  | none => "None"
  | some s => s!"Some({s})"

/-- The data of an event, by name. -/
def fields : Event → List (String × String)
  | duplicateListed id => [("rule_id", id.text)]
  | listLoaded count => [("count", toString count)]
  | createdAgain id => [("rule_id", id.text)]
  | ruleCreated id => [("rule_id", id.text)]
  | ruleDeleted id => [("rule_id", id.text)]
  | deletedUnlisted id => [("rule_id", id.text)]
  | statusChanged id enabled => [("rule_id", id.text), ("new_status", toString enabled)]
  | statusUnlisted id enabled => [("rule_id", id.text), ("new_status", toString enabled)]
  | textChanged id => [("rule_id", id.text)]
  | textUnlisted id => [("rule_id", id.text)]
  | rulesCombined count => [("rule_count", toString count)]
  | unknownRule id => [("rule_id", id.text)]
  | callFailed f =>
    [("operation", f.operation.name), ("status", shownStatus f.fault.status),
      ("body", f.fault.body.getD ""), ("error", f.fault.message)]
  | ruleEvaluated id passed => [("rule_id", id.text), ("result", toString passed)]
  | recovered operation retries => [("operation", operation), ("retries", toString retries)]
  | givenUp operation error => [("operation", operation), ("error", error)]
  | exhausted operation retries error =>
    [("operation", operation), ("retries", toString retries), ("error", error)]
  | retrying operation retries delay error =>
    [("operation", operation), ("retries", toString retries), ("delay_ms", toString delay),
      ("error", error)]
  | connecting address => [("base_url", address)]
  | finished _ => []

end Event

end Rulebook
