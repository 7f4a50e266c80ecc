import BuildGraph.Document.Basic
import BuildGraph.Document.Decode
import BuildGraph.Document.Edit
import BuildGraph.Document.Encode
import BuildGraph.Document.History
import BuildGraph.Document.Json
import BuildGraph.Document.Options
import BuildGraph.Document.Run
import BuildGraph.Document.Session
import BuildGraph.Graph.Basic
import BuildGraph.Graph.Builder
import BuildGraph.Graph.Change
import BuildGraph.Graph.Error
import BuildGraph.Guard.Evaluate
import BuildGraph.History.Entry
import BuildGraph.History.Store
import BuildGraph.Ids
import BuildGraph.Model.Guard
import BuildGraph.Model.Kind
import BuildGraph.Model.Node
import BuildGraph.Model.Step
import BuildGraph.Model.Trigger
import BuildGraph.Model.Variable
import BuildGraph.Named
import BuildGraph.Number.Binary64
import BuildGraph.Number.Integer
import BuildGraph.Order.Basic
import BuildGraph.Order.Cycle
import BuildGraph.Order.Sequence
import BuildGraph.Order.Walk
import BuildGraph.Pattern.Basic
import BuildGraph.Pattern.Escape
import BuildGraph.Pattern.Fault
import BuildGraph.Pattern.Flags
import BuildGraph.Pattern.Letters
import BuildGraph.Pattern.Match
import BuildGraph.Pattern.Read
import BuildGraph.Pattern.Reader
import BuildGraph.Pattern.Search
import BuildGraph.Proofs.Document.BuiltIn
import BuildGraph.Proofs.Document.EdgeOrder
import BuildGraph.Proofs.Document.Parts
import BuildGraph.Proofs.Document.RoundTrip
import BuildGraph.Proofs.Graph.Accepted
import BuildGraph.Proofs.Graph.BuilderIds
import BuildGraph.Proofs.Graph.BuilderSteps
import BuildGraph.Proofs.Graph.Connection
import BuildGraph.Proofs.Graph.Lookup
import BuildGraph.Proofs.Graph.WellFormed
import BuildGraph.Proofs.History.Refinement
import BuildGraph.Proofs.History.Summary
import BuildGraph.Proofs.History.Tables
import BuildGraph.Proofs.Ids
import BuildGraph.Proofs.Number.Decimal
import BuildGraph.Proofs.Number.Digits
import BuildGraph.Proofs.Number.Rounding
import BuildGraph.Proofs.Order.CycleSearch
import BuildGraph.Proofs.Order.Dependencies
import BuildGraph.Proofs.Order.Discovery
import BuildGraph.Proofs.Order.ExecutionOrder
import BuildGraph.Proofs.Order.HardEdges
import BuildGraph.Proofs.Order.Rearranged
import BuildGraph.Proofs.Order.Resequence
import BuildGraph.Proofs.Order.Sequence
import BuildGraph.Proofs.Order.SimplePaths
import BuildGraph.Proofs.Run.Abort
import BuildGraph.Proofs.Run.Causes
import BuildGraph.Proofs.Run.Dependencies
import BuildGraph.Proofs.Run.Elapsed
import BuildGraph.Proofs.Run.FailFast
import BuildGraph.Proofs.Run.Lifetime
import BuildGraph.Proofs.Run.Listeners
import BuildGraph.Proofs.Run.Marks
import BuildGraph.Proofs.Run.Output
import BuildGraph.Proofs.Run.Pause
import BuildGraph.Proofs.Run.Reached
import BuildGraph.Proofs.Run.Reuse
import BuildGraph.Proofs.Run.RunLog
import BuildGraph.Proofs.Run.Sessions
import BuildGraph.Proofs.Script.Accounted
import BuildGraph.Proofs.Script.Assemble
import BuildGraph.Proofs.Script.BlockText
import BuildGraph.Proofs.Script.Blocks
import BuildGraph.Proofs.Script.Bodies
import BuildGraph.Proofs.Script.Body
import BuildGraph.Proofs.Script.Closed
import BuildGraph.Proofs.Script.Comments
import BuildGraph.Proofs.Script.Conditions
import BuildGraph.Proofs.Script.Delimiters
import BuildGraph.Proofs.Script.Effects
import BuildGraph.Proofs.Script.Ensured
import BuildGraph.Proofs.Script.Found
import BuildGraph.Proofs.Script.Front
import BuildGraph.Proofs.Script.GuardReturn
import BuildGraph.Proofs.Script.GuardText
import BuildGraph.Proofs.Script.Guards
import BuildGraph.Proofs.Script.Headers
import BuildGraph.Proofs.Script.Ignored
import BuildGraph.Proofs.Script.Inert
import BuildGraph.Proofs.Script.IssuedIds
import BuildGraph.Proofs.Script.Joined
import BuildGraph.Proofs.Script.Kept
import BuildGraph.Proofs.Script.Lexeme
import BuildGraph.Proofs.Script.Locality
import BuildGraph.Proofs.Script.Nesting
import BuildGraph.Proofs.Script.Nodes
import BuildGraph.Proofs.Script.Outcomes
import BuildGraph.Proofs.Script.Positions
import BuildGraph.Proofs.Script.Readings
import BuildGraph.Proofs.Script.Rebuilt
import BuildGraph.Proofs.Script.Recognize
import BuildGraph.Proofs.Script.Recognized
import BuildGraph.Proofs.Script.Recovered
import BuildGraph.Proofs.Script.Reordered
import BuildGraph.Proofs.Script.Requests
import BuildGraph.Proofs.Script.Restart
import BuildGraph.Proofs.Script.Returned
import BuildGraph.Proofs.Script.Rewritten
import BuildGraph.Proofs.Script.Scan
import BuildGraph.Proofs.Script.Sections
import BuildGraph.Proofs.Script.Sorts
import BuildGraph.Proofs.Script.Spans
import BuildGraph.Proofs.Script.Spelling
import BuildGraph.Proofs.Script.Splitting
import BuildGraph.Proofs.Script.Steps
import BuildGraph.Proofs.Script.Stops
import BuildGraph.Proofs.Script.Stubs
import BuildGraph.Proofs.Script.Whole
import BuildGraph.Proofs.Table
import BuildGraph.Proofs.Text.Fields
import BuildGraph.Proofs.Text.Identifier
import BuildGraph.Proofs.Text.LowerCase
import BuildGraph.Proofs.Text.Runs
import BuildGraph.Proofs.Text.Trim
import BuildGraph.Proofs.Time.Durations
import BuildGraph.Proofs.Trigger.Descriptions
import BuildGraph.Proofs.Trigger.Grammar
import BuildGraph.Proofs.Trigger.Matching
import BuildGraph.Proofs.Variables.Declarations
import BuildGraph.Proofs.Variables.Numbers
import BuildGraph.Proofs.Variables.References
import BuildGraph.Proofs.Variables.Undeclared
import BuildGraph.Proofs.Work.Forwarding
import BuildGraph.Proofs.Work.Processes
import BuildGraph.Run.Course
import BuildGraph.Run.Event
import BuildGraph.Run.Listeners
import BuildGraph.Run.Orchestrator
import BuildGraph.Run.Session
import BuildGraph.Run.Work
import BuildGraph.Script.Block
import BuildGraph.Script.Check
import BuildGraph.Script.Curl
import BuildGraph.Script.Cursor
import BuildGraph.Script.Guard.Read
import BuildGraph.Script.Guard.Write
import BuildGraph.Script.Layout
import BuildGraph.Script.Literal
import BuildGraph.Script.Read
import BuildGraph.Script.Registration
import BuildGraph.Script.Statement
import BuildGraph.Script.Token
import BuildGraph.Service.Basic
import BuildGraph.Service.Form
import BuildGraph.Service.Route
import BuildGraph.Settings
import BuildGraph.Table
import BuildGraph.Text.CharClass
import BuildGraph.Text.CharName.Aliases
import BuildGraph.Text.CharName.Alphabets
import BuildGraph.Text.CharName.Basic
import BuildGraph.Text.CharName.EastAsian
import BuildGraph.Text.CharName.Find
import BuildGraph.Text.CharName.Historic
import BuildGraph.Text.CharName.Pictographs
import BuildGraph.Text.CharName.Symbols
import BuildGraph.Text.Identifier
import BuildGraph.Text.LowerCase
import BuildGraph.Text.Quoted
import BuildGraph.Text.Split
import BuildGraph.Text.UpperCase
import BuildGraph.Text.Utf8
import BuildGraph.Time.Timestamp
import BuildGraph.Trigger.Cron
import BuildGraph.Trigger.Describe
import BuildGraph.Variables.Reference
import BuildGraph.Variables.Value
import BuildGraph.Work.Bridge
import BuildGraph.Work.Failure
import BuildGraph.Work.Process
import BuildGraph.Work.Simulated
