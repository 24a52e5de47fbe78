import Rulebook.Main
import Rulebook.Workbench
import Rulebook.Proofs.Result
import Rulebook.Proofs.Rule.Collection
import Rulebook.Proofs.Store.Effect
import Rulebook.Proofs.InFlight
import Rulebook.Proofs.Store.Desk
import Rulebook.Proofs.Store.Exclusion
import Rulebook.Proofs.Store.Exchange
import Rulebook.Proofs.Store.LastReply
import Rulebook.Proofs.Store.Order
import Rulebook.Proofs.Store.Convergence
import Rulebook.Proofs.Workbench
import Rulebook.Proofs.Store.Frame
import Rulebook.Proofs.Store.Atomicity
import Rulebook.Proofs.Store.Mirror
import Rulebook.Proofs.Store.Publication
import Rulebook.Proofs.Text.Blank
import Rulebook.Proofs.Workbench.Calls
import Rulebook.Proofs.Store.Commute
import Rulebook.Proofs.Store.Transparency
import Rulebook.Proofs.Json.Literal
import Rulebook.Proofs.Json.Numeral
import Rulebook.Proofs.Json.Reader
import Rulebook.Proofs.Json.Printer
import Rulebook.Proofs.Json.Settled
import Rulebook.Proofs.UserData
import Rulebook.Proofs.Text.Utf8
import Rulebook.Proofs.Url.Extend
import Rulebook.Proofs.Http.Address
import Rulebook.Proofs.Json.Nesting
import Rulebook.Proofs.Json.Record
import Rulebook.Proofs.Wire
import Rulebook.Proofs.Http.Carriage
import Rulebook.Proofs.Console.Execution
import Rulebook.Proofs.Console.Prompts
import Rulebook.Proofs.Console.Deletion
import Rulebook.Proofs.Console.Display
import Rulebook.Proofs.Console.Dialogue
import Rulebook.Proofs.Console.Table
import Rulebook.Proofs.Console.Parsing
import Rulebook.Proofs.Console.Grammar
import Rulebook.Proofs.Console.Holding
import Rulebook.Proofs.Text.Lines
import Rulebook.Proofs.Runner.Agreement
import Rulebook.Proofs.Retry
import Rulebook.Proofs.Inquiry
import Rulebook.Proofs.Rule.Firsts
import Rulebook.Proofs.Runner.Loading
import Rulebook.Proofs.Runner.Discipline
import Rulebook.Proofs.Settings.Merge
import Rulebook.Proofs.Settings.Leaf
import Rulebook.Proofs.Text.LowerCase
import Rulebook.Proofs.Settings.Sectioned
import Rulebook.Proofs.Settings.Variables
import Rulebook.Proofs.Settings.Precedence
import Rulebook.Proofs.Editor.Saving
import Rulebook.Proofs.Editor.Refusal
import Rulebook.Proofs.Trial
import Rulebook.Proofs.Http.Verdict
import Rulebook.Proofs.Retry.Course
import Rulebook.Proofs.Url.Parser
import Rulebook.Proofs.Http.Endpoint
import Rulebook.Proofs.Binary64.Shortest
import Rulebook.Proofs.Json.Number
import Rulebook.Proofs.Json.Skip
import Rulebook.Proofs.Json.Scalar
import Rulebook.Proofs.Json.Spans
import Rulebook.Proofs.Json.Extent
import Rulebook.Proofs.Json.Decides
import Rulebook.Proofs.Json.Fill
import Rulebook.Proofs.Json.Agreement
import Rulebook.Proofs.Rule.Members
import Rulebook.Proofs.Rule.Reading
import Rulebook.Proofs.Outcome
import Rulebook.Proofs.Http.Shapes
import Rulebook.Proofs.Http.Creation
import Rulebook.Proofs.Store.Load
import Rulebook.Proofs.InFlight.Permits
