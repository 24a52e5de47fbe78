import Rulebook.Failure
import Rulebook.Json.Reader

/-!
# User data

The user types the data to evaluate a rule on as JSON text. Any value is accepted
and passed on as it is; a text that says no value is refused before anything is
sent.
-/

namespace Rulebook.UserData

/-- The value of a text that the user typed. -/
def decode (text : String) : Except Failure Json.Value :=
  if Text.blank text then .error (.invalidFormat "输入为空")
  else (Json.parse text).mapError fun e => .invalidFormat e.message

/-- A value as it is shown to the user. -/
def render (v : Json.Value) : String := v.pretty

end Rulebook.UserData
