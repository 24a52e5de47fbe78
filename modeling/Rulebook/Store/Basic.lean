import Rulebook.InFlight
import Rulebook.Journal
import Rulebook.Service

/-!
# The collection of rules

A store holds the rules as far as the service has confirmed them. An operation
first asks the service and then does to the collection what the answer says; if no
answer comes, the collection stays as it is. Every change is published: the
collection as it is then becomes the snapshot that others see, and the number of
snapshots goes up by one.

## Two steps

An operation is split where it waits for the service. `Rulebook.Store.start` does
what comes before the call – it may refuse, and then there is no call – and
`Rulebook.Store.finish` what comes after the reply; an operation that is abandoned
in between ends with `Rulebook.Store.abandon`. Any number of operations can wait at
the same time, and replies may arrive in any order.

What a successful reply means for the collection is said once, in
`Rulebook.Confirmed.effect`: a change, or nothing, if the rule it is about is no
longer there.

## Guarded stores

A guarded store lets no two operations that change the same rule wait at the same
time. It notes each of them in a registry between its start and its end.
-/

namespace Rulebook

/-! ### What a store is asked to do -/

/-- An operation on the collection. -/
inductive Request where
  | load
  | create (text : String)
  | delete (id : RuleId)
  | toggle (id : RuleId)
  | update (id : RuleId) (text : String)
  | combine (ids : List RuleId)
  deriving DecidableEq

namespace Request

/-- The operation of the service behind a request. -/
def operation : Request → Operation
  | load => .loadRules
  | create _ => .createRule
  | delete _ => .deleteRule
  | toggle _ => .toggleStatus
  | update _ _ => .updateRule
  | combine _ => .combineRules

/-- The rule that a request changes: no second request on it may wait in a guarded
store. -/
def target? : Request → Option RuleId
  | delete id => some id
  | toggle id => some id
  | update id _ => some id
  | _ => none

/-- The call that a request makes. -/
def call : Request → Call
  | load => .listRules
  | create text => .createRule text
  | delete id => .deleteRule id
  | toggle id => .toggleStatus id
  | update id text => .updateRule id text
  | combine ids => .combineRules ids

end Request

/-! ### What the service has confirmed -/

/-- Something the service has done, as its answer and the request tell. -/
inductive Confirmed where
  | loaded (listed : List Rule)
  | created (rule : Rule)
  | deleted (id : RuleId)
  | toggled (id : RuleId) (enabled : Bool)
  | updated (id : RuleId) (text : String)
  | combined (count : Nat) (tree : Json.Value)

/-- What an answer confirms of a request; an answer of the wrong kind confirms
nothing. -/
def Request.confirm (r : Request) (a : Answer) : Except CallFailure Confirmed :=
  match r, a with
  | .load, .rules listed => .ok (.loaded listed)
  | .create _, .rule rule => .ok (.created rule)
  | .delete id, .done => .ok (.deleted id)
  | .toggle id, .status enabled => .ok (.toggled id enabled)
  | .update id text, .done => .ok (.updated id text)
  | .combine ids, .value tree => .ok (.combined ids.length tree)
  | _, _ => .error (.wrongReply r.operation)

/-- What the caller of an operation is given in the end. -/
inductive Result where
  | count (n : Nat)
  | rule (created : Rule)
  | done
  | status (enabled : Bool)
  | value (tree : Json.Value)

namespace Confirmed

/-- The collection after something was confirmed, or nothing if it does not
concern the collection. A rule that was created again stays in its place. -/
def effect (rules : List Rule) : Confirmed → Option (List Rule)
  | loaded listed => some (Rule.firsts listed)
  | created r =>
    some (if Rule.listed r.id rules then Rule.amend r.id (fun _ => r) rules else rules ++ [r])
  | deleted id =>
    if Rule.listed id rules then some (rules.filter (·.id != id)) else none
  | toggled id enabled =>
    if Rule.listed id rules then some (Rule.amend id ({ · with enabled }) rules) else none
  | updated id text =>
    if Rule.listed id rules then some (Rule.amend id ({ · with text }) rules) else none
  | combined _ _ => none

/-- What the caller is given. -/
def result : Confirmed → Result
  | loaded listed => .count (Rule.firsts listed).length
  | created r => .rule r
  | deleted _ => .done
  | toggled _ enabled => .status enabled
  | updated _ _ => .done
  | combined _ tree => .value tree

/-- What is written to the journal when something is confirmed for a
collection. -/
def log (rules : List Rule) : Confirmed → List Event
  | loaded listed =>
    (Rule.repeats listed).map (fun r => .duplicateListed r.id) ++
      [.listLoaded (Rule.firsts listed).length]
  | created r =>
    (if Rule.listed r.id rules then [.createdAgain r.id] else []) ++ [.ruleCreated r.id]
  | deleted id => [if Rule.listed id rules then .ruleDeleted id else .deletedUnlisted id]
  | toggled id enabled =>
    [if Rule.listed id rules then .statusChanged id enabled else .statusUnlisted id enabled]
  | updated id _ => [if Rule.listed id rules then .textChanged id else .textUnlisted id]
  | combined count _ => [.rulesCombined count]

end Confirmed

/-! ### The store -/

/-- The collection, what was last published of it, how often something was
published, and, for a guarded store, the operations under way. -/
structure Store where
  rules : List Rule
  snapshot : List Rule
  published : Nat
  guard? : Option InFlight.Registry
  deriving DecidableEq

/-- A store, what a step of an operation ends with, and what it wrote to the
journal. -/
structure Step (α : Type) where
  store : Store
  result : Except Failure α
  log : List Event

namespace Store

/-- A store without rules. -/
def empty (guarded : Bool) : Store :=
  ⟨[], [], 0, if guarded then some .empty else none⟩

/-- The rule with a given identifier. -/
def get? (s : Store) (id : RuleId) : Option Rule := Rule.find? id s.rules

/-- Whether a rule is in the collection. -/
def contains (s : Store) (id : RuleId) : Bool := Rule.listed id s.rules

/-- Whether the store is guarded. -/
def guarded (s : Store) : Bool := s.guard?.isSome

/-- Replaces the collection and publishes it. -/
def publish (s : Store) (rules : List Rule) : Store :=
  { s with rules, snapshot := rules, published := s.published + 1 }

/-! ### Starting an operation -/

/-- A rule that an operation names has to be in the collection. -/
def require (s : Store) (id : RuleId) : Except Failure Unit :=
  if s.contains id then .ok () else .error (.ruleNotFound id)

/-- What has to hold before anything is asked of the service: a text is not blank,
and the rules that are named are there. -/
def check (s : Store) : Request → Except Failure Unit
  | .load => .ok ()
  | .create text => checkRuleText text
  | .delete id => s.require id
  | .toggle id => s.require id
  | .update id text => do checkRuleText text; s.require id
  | .combine ids =>
    if ids.isEmpty then .error .emptySelection else ids.forM s.require

/-- Notes an operation in the registry of a guarded store. -/
def enrol (s : Store) (r : Request) : Except Failure Store :=
  match s.guard?, r.target? with
  | some registry, some id => do
    .ok { s with guard? := some (← registry.acquire id r.operation) }
  | _, _ => .ok s

/-- What a refusal writes to the journal. -/
def refusalLog : Failure → List Event
  | .ruleNotFound id => [.unknownRule id]
  | _ => []

/-- Begins an operation: either it is refused and nothing changes, or its call has
to be made. -/
def start (s : Store) (r : Request) : Step Call :=
  match (do s.check r; s.enrol r : Except Failure Store) with
  | .error failure => ⟨s, .error failure, refusalLog failure⟩
  | .ok s => ⟨s, .ok r.call, []⟩

/-! ### Ending an operation -/

/-- Takes an operation out of the registry of a guarded store. -/
def abandon (s : Store) (r : Request) : Store :=
  match s.guard?, r.target? with
  | some registry, some id => { s with guard? := some (registry.release id) }
  | _, _ => s

/-- The collection after something was confirmed. -/
def apply (s : Store) (c : Confirmed) : Store :=
  match c.effect s.rules with
  | some rules => s.publish rules
  | none => s

/-- Ends an operation with the reply to its call. -/
def finish (s : Store) (r : Request) (reply : Reply) : Step Confirmed :=
  let s := s.abandon r
  match reply.bind r.confirm with
  | .error failure => ⟨s, .error (.call failure), [.callFailed failure]⟩
  | .ok c => ⟨s.apply c, .ok c, c.log s.rules⟩

/-! ### A whole operation -/

/-- Carries out an operation from start to end with a service. -/
def perform {σ : Type} (svc : Service σ) (s : Store) (r : Request) (w : σ) : Step Confirmed × σ :=
  let started := s.start r
  match started.result with
  | .error failure => (⟨started.store, .error failure, started.log ++ [.finished .store]⟩, w)
  | .ok call =>
    let (reply, w) := svc.ask call w
    let ended := started.store.finish r reply
    (⟨ended.store, ended.result, started.log ++ ended.log ++ [.finished .store]⟩, w)

end Store

end Rulebook
