import Rulebook.Binary64.Basic

/-!
# JSON values

User data, evaluation details and combined rules are JSON values that this
library passes on without looking into them. A value keeps the members of an
object as a list (`Rulebook.Json.Value.object`), so that it can stand both for
what a text says, where names may repeat and come in any order, and for what the
text means: `Rulebook.Json.Value.settled` gives the value whose objects list
every name once, in increasing order of names, with the last of the repeated
members. Names are compared as strings of code points, which is also the order
of their UTF-8 bytes.
-/

namespace Rulebook.Json

/-- A JSON value. Numbers are integers or doubles, as their text is written. -/
inductive Value where
  | null
  | bool (b : Bool)
  | integer (n : Int)
  | float (x : Binary64)
  | string (s : String)
  | array (elements : List Value)
  | object (members : List (String × Value))
  deriving Inhabited

/-- A member of an object. -/
abbrev Member := String × Value

/-! ### Values that are the same -/

mutual

/-- Whether two values are the same, as they are written. -/
def Value.same : Value → Value → Bool
  | .null, .null => true
  | .bool b, .bool b' => b == b'
  | .integer n, .integer n' => n == n'
  | .float x, .float x' => x == x'
  | .string s, .string s' => s == s'
  | .array xs, .array xs' => Value.sameElements xs xs'
  | .object ms, .object ms' => Value.sameMembers ms ms'
  | _, _ => false

/-- Whether the elements of two arrays are the same. -/
def Value.sameElements : List Value → List Value → Bool
  | [], [] => true
  | x :: xs, x' :: xs' => x.same x' && Value.sameElements xs xs'
  | _, _ => false

/-- Whether the members of two objects are the same, in the same order. -/
def Value.sameMembers : List (String × Value) → List (String × Value) → Bool
  | [], [] => true
  | (k, v) :: ms, (k', v') :: ms' => k == k' && v.same v' && Value.sameMembers ms ms'
  | _, _ => false

end

mutual

theorem Value.same_iff (v w : Value) : v.same w = true ↔ v = w := by
  cases v <;> cases w <;>
    simp [Value.same, Value.sameElements_iff, Value.sameMembers_iff]

theorem Value.sameElements_iff (xs xs' : List Value) :
    Value.sameElements xs xs' = true ↔ xs = xs' := by
  cases xs <;> cases xs' <;>
    simp [Value.sameElements, Value.same_iff, Value.sameElements_iff]

theorem Value.sameMembers_iff (ms ms' : List (String × Value)) :
    Value.sameMembers ms ms' = true ↔ ms = ms' := by
  rcases ms with _ | ⟨⟨k, v⟩, ms⟩ <;> rcases ms' with _ | ⟨⟨k', v'⟩, ms'⟩ <;>
    simp [Value.sameMembers, Value.same_iff, Value.sameMembers_iff]

end

instance : DecidableEq Value := fun v w => decidable_of_iff _ (v.same_iff w)

/-! ### Members -/

/-- The members with the value `v` under the name `k`: in the place of the member
of that name, or before the first member with a greater name. -/
def putMember (k : String) (v : Value) : List Member → List Member
  | [] => [(k, v)]
  | (k', v') :: ms =>
    if k = k' then (k, v) :: ms
    else if k < k' then (k, v) :: (k', v') :: ms
    else (k', v') :: putMember k v ms

/-- The members in increasing order of names, each name once and with the last
of the values given to it. -/
def settleMembers (ms : List Member) : List Member :=
  ms.foldl (fun acc m => putMember m.1 m.2 acc) []

/-- The value of the member with a given name. -/
def member? (k : String) (ms : List Member) : Option Value :=
  (ms.find? (·.1 == k)).map (·.2)

/-! ### Settled values -/

mutual

/-- The value with all its objects settled, the inner ones first. -/
def Value.settled : Value → Value
  | .null => .null
  | .bool b => .bool b
  | .integer n => .integer n
  | .float x => .float x
  | .string s => .string s
  | .array xs => .array (Value.settledElements xs)
  | .object ms => .object (settleMembers (Value.settledMembers ms))

/-- The elements of an array, settled. -/
def Value.settledElements : List Value → List Value
  | [] => []
  | x :: xs => x.settled :: Value.settledElements xs

/-- The members of an object, with settled values. -/
def Value.settledMembers : List (String × Value) → List (String × Value)
  | [] => []
  | (k, v) :: ms => (k, v.settled) :: Value.settledMembers ms

end

/-! ### Kinds -/

/-- The range of integers that a number keeps as an integer. -/
def InIntegerRange (n : Int) : Prop := -0x8000000000000000 ≤ n ∧ n < 0x10000000000000000

instance (n : Int) : Decidable (InIntegerRange n) :=
  inferInstanceAs (Decidable (_ ∧ _))

end Rulebook.Json
