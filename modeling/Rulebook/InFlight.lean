import Rulebook.Failure

/-!
# Operations under way

A registry notes for a rule which operation is under way on it, and lets no second
one begin. An operation that is let in holds a *permit*; giving the permit back
takes the entry out again, whatever became of the operation.

The registry itself (`Rulebook.InFlight.Registry`) knows nothing of permits: it is
enough that an entry is taken out by whoever put it in. A `Rulebook.InFlight.Book`
keeps a registry together with its permits, each under a name.
-/

namespace Rulebook.InFlight

/-! ### The registry -/

/-- The rules with an operation under way, each with that operation. -/
structure Registry where
  entries : List (RuleId × Operation)
  deriving DecidableEq

namespace Registry

/-- Nothing is under way. -/
def empty : Registry := ⟨[]⟩

/-- The operation that is under way on a rule. -/
def operationOn? (r : Registry) (id : RuleId) : Option Operation :=
  (r.entries.find? (·.1 == id)).map (·.2)

/-- Whether an operation is under way on a rule. -/
def busy (r : Registry) (id : RuleId) : Bool := (r.operationOn? id).isSome

/-- The number of operations under way. -/
def size (r : Registry) : Nat := r.entries.length

/-- Whether nothing is under way. -/
def isEmpty (r : Registry) : Bool := r.entries.isEmpty

/-- Notes an operation on a rule, or says which one is in the way. -/
def acquire (r : Registry) (id : RuleId) (operation : Operation) : Except Failure Registry :=
  match r.operationOn? id with
  | some other => .error (.busy id other)
  | none => .ok ⟨r.entries ++ [(id, operation)]⟩

/-- Takes out the entry of a rule. -/
def release (r : Registry) (id : RuleId) : Registry := ⟨r.entries.filter (·.1 != id)⟩

end Registry

/-! ### Permits -/

/-- A registry, and the names of the permits that are held, each with its
rule. -/
structure Book where
  registry : Registry
  permits : List (String × RuleId)
  deriving DecidableEq

namespace Book

/-- No permit is held. -/
def empty : Book := ⟨.empty, []⟩

/-- The rule of the permit with a given name. -/
def permit? (b : Book) (name : String) : Option RuleId :=
  (b.permits.find? (·.1 == name)).map (·.2)

/-- Gives back the permit with a given name, if it is held. -/
def release (b : Book) (name : String) : Book :=
  match b.permit? name with
  | none => b
  | some id => ⟨b.registry.release id, b.permits.filter (·.1 != name)⟩

/-- Takes a permit for an operation on a rule and keeps it under a name. A permit
that was kept under that name before is given back, once the new one is there. -/
def acquire (b : Book) (name : String) (id : RuleId) (operation : Operation) :
    Except Failure Book := do
  let registry ← b.registry.acquire id operation
  let b := Book.release ⟨registry, b.permits⟩ name
  .ok ⟨b.registry, b.permits ++ [(name, id)]⟩

end Book

end Rulebook.InFlight
