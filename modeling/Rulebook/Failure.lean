import Rulebook.Rule

/-!
# What can go wrong

An operation on rules fails for one of three kinds of reason: what the user gave
cannot be used, the rule is not there or is busy, or the service could not do
what it was asked. Each reason is a constructor of `Rulebook.Failure`; what the
reason is called, what it says in a log and what it says to the user are
functions of it.

A call to the service fails with a `Rulebook.Fault`. Whether it is worth calling
again depends on the fault alone (`Rulebook.Fault.retryable`): it is if no answer
came, or if the status of the answer says that the service was not able to do its
work just then.
-/

namespace Rulebook

/-! ### Operations of the service -/

/-- What the service can be asked for. -/
inductive Operation where
  | loadRules
  | createRule
  | deleteRule
  | toggleStatus
  | updateRule
  | evaluateRule
  | combineRules
  deriving DecidableEq, Inhabited

/-- The name of an operation in logs. -/
def Operation.name : Operation → String
  | loadRules => "load_rules"
  | createRule => "create_rule"
  | deleteRule => "delete_rule"
  | toggleStatus => "toggle_status"
  | updateRule => "update_rule"
  | evaluateRule => "evaluate_rule"
  | combineRules => "combine_rules"

/-- What the user is told when an operation fails. -/
def Operation.failureNotice : Operation → String
  | loadRules => "加载规则失败，请稍后重试"
  | createRule => "添加规则失败，请重试"
  | deleteRule => "删除规则失败，请重试"
  | toggleStatus => "更新状态失败，请重试"
  | updateRule => "更新规则失败，请重试"
  | evaluateRule => "评估规则失败，请稍后重试"
  | combineRules => "合并规则失败，请重试"

/-! ### Faults of a call -/

/-- How a call to the service went wrong. -/
inductive Fault where
  /-- No complete answer came. -/
  | transport (message : String)
  /-- There is no address for what the call is about, so nothing was sent. -/
  | unroutable (message : String)
  /-- The service answered with a status that is no success. -/
  | http (status : Nat) (body : String)
  /-- The service reported success, but its answer could not be read. -/
  | decode (status : Nat) (message body : String)
  deriving DecidableEq

namespace Fault

/-- The status of the answer, if there was one. -/
def status : Fault → Option Nat
  | transport _ => none
  | unroutable _ => none
  | http s _ => some s
  | decode s _ _ => some s

/-- What a log says about a fault. -/
def message : Fault → String
  | transport m => m
  | unroutable m => m
  | http s _ => s!"HTTP {s}"
  | decode _ m _ => s!"响应解析失败: {m}"

/-- The answer as it came. An answer with an error status and without content
counts as none. -/
def body : Fault → Option String
  | transport _ => none
  | unroutable _ => none
  | http _ b => if b = "" then none else some b
  | decode _ _ b => some b

/-- Whether the fault says that a request left for the service. It says so of any request that was
made, also of one that was kept back. -/
def sent : Fault → Bool
  | unroutable _ => false
  | _ => true

/-- A status that says the service was not able to do its work just then. -/
def retryableStatus (s : Nat) : Bool := 500 ≤ s || s == 408 || s == 429

/-- Whether the same call may succeed when it is made again. -/
def retryable (f : Fault) : Bool :=
  f.sent && match f.status with
    | none => true
    | some s => retryableStatus s

end Fault

/-- A call that went wrong. -/
structure CallFailure where
  operation : Operation
  fault : Fault
  deriving DecidableEq

/-- What a log says about a failed call. -/
def CallFailure.message (f : CallFailure) : String :=
  s!"{f.operation.name} 调用失败: {f.fault.message}"

/-! ### Failures of an operation -/

/-- Why an operation on rules failed. -/
inductive Failure where
  /-- The text of a rule is blank. -/
  | emptyRuleText
  /-- No rule is selected, or there are no user data. -/
  | missingInput
  /-- The user data are no JSON text. -/
  | invalidFormat (message : String)
  /-- No rule is being edited. -/
  | noActiveEdit
  /-- No rule was named to be combined. -/
  | emptySelection
  /-- The service could not be asked, or did not do what it was asked. -/
  | call (failure : CallFailure)
  /-- The rule is not in the collection. -/
  | ruleNotFound (id : RuleId)
  /-- Another operation on the rule has not come to its end. -/
  | busy (id : RuleId) (operation : Operation)
  /-- The settings do not allow to reach a service. -/
  | invalidConfig (message : String)
  deriving DecidableEq

namespace Failure

/-- The code of a failure. -/
def code : Failure → String
  | emptyRuleText => "EMPTY_RULE_TEXT"
  | missingInput => "MISSING_INPUT"
  | invalidFormat _ => "INVALID_FORMAT"
  | noActiveEdit => "NO_ACTIVE_EDIT"
  | emptySelection => "EMPTY_SELECTION"
  | call _ => "NETWORK_ERROR"
  | ruleNotFound _ => "RULE_NOT_FOUND"
  | busy _ _ => "BUSY"
  | invalidConfig _ => "INVALID_CONFIG"

/-- What a log says about a failure. -/
def message : Failure → String
  | emptyRuleText => "规则内容不能为空"
  | missingInput => "请选择规则并提供用户数据"
  | invalidFormat m => s!"用户数据格式无效，请提供合法的 JSON: {m}"
  | noActiveEdit => "当前没有正在编辑的规则"
  | emptySelection => "请至少选择一条规则"
  | call f => f.message
  | ruleNotFound id => s!"规则不存在: rule_id={id.text}"
  | busy id operation => s!"规则正在处理中: rule_id={id.text}, 在途操作={operation.name}"
  | invalidConfig m => s!"客户端配置无效: {m}"

/-- What the user is told about a failure. -/
def notice : Failure → String
  | call f => f.operation.failureNotice
  | ruleNotFound _ => "所选规则已不存在，请刷新后重试"
  | busy _ _ => "该规则有操作正在处理中，请稍候"
  | f => f.message

/-- Whether what the user gave is at fault. -/
def isValidation : Failure → Bool
  | emptyRuleText => true
  | missingInput => true
  | invalidFormat _ => true
  | noActiveEdit => true
  | emptySelection => true
  | _ => false

/-- Whether a call to the service went wrong. -/
def isCall : Failure → Bool
  | call _ => true
  | _ => false

/-- Whether the same operation may succeed when it is tried again. -/
def retryable : Failure → Bool
  | call f => f.fault.retryable
  | _ => false

end Failure

/-! ### Checking the text of a rule -/

/-- The text of a rule must not be blank. It is used as it is, blanks at its ends
included. -/
def checkRuleText (text : String) : Except Failure Unit :=
  if Text.blank text then .error .emptyRuleText else .ok ()

end Rulebook
