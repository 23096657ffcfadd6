import StrategyDesk.Analysis.Finding
import StrategyDesk.Analysis.Hover
import StrategyDesk.Analysis.Module
import StrategyDesk.Analysis.Resolution
import StrategyDesk.Analysis.Service
import StrategyDesk.Analysis.Structural
import StrategyDesk.Backtest
import StrategyDesk.Check
import StrategyDesk.Configuration.Basic
import StrategyDesk.Configuration.File
import StrategyDesk.Configuration.KeyPath
import StrategyDesk.Configuration.Load
import StrategyDesk.Configuration.Reading
import StrategyDesk.Configuration.Setting
import StrategyDesk.Diagnostic
import StrategyDesk.Document
import StrategyDesk.Document.Buffer
import StrategyDesk.Document.Decoration
import StrategyDesk.Document.Header
import StrategyDesk.Document.Rejection
import StrategyDesk.Failure
import StrategyDesk.Json.Printer
import StrategyDesk.Json.Reader
import StrategyDesk.Json.Value
import StrategyDesk.Json.Wire
import StrategyDesk.Library.HelperMethods
import StrategyDesk.Library.Strategy
import StrategyDesk.Main
import StrategyDesk.Number.Double
import StrategyDesk.Number.Power
import StrategyDesk.Proofs.Document.FaultLine
import StrategyDesk.Proofs.Pipeline.Gate
import StrategyDesk.Proofs.Pipeline.Operation
import StrategyDesk.Proofs.Pipeline.Passing
import StrategyDesk.Proofs.Pipeline.Requests
import StrategyDesk.Proofs.Pipeline.Waiting
import StrategyDesk.Proofs.Pipeline.Window
import StrategyDesk.Proofs.Session.Acceptance
import StrategyDesk.Proofs.Session.Mirror
import StrategyDesk.Proofs.Session.Positions
import StrategyDesk.Proofs.Session.Rejection
import StrategyDesk.Proofs.Session.Run
import StrategyDesk.Proofs.Session.Sandbox
import StrategyDesk.Proofs.Worker.Answers
import StrategyDesk.Proofs.Worker.Displayed
import StrategyDesk.Proofs.Worker.Failures
import StrategyDesk.Proofs.Worker.Marks
import StrategyDesk.Proofs.Worker.Numbering
import StrategyDesk.Proofs.Worker.Responses
import StrategyDesk.Proofs.Worker.Staleness
import StrategyDesk.Proofs.Worker.Trace
import StrategyDesk.Proofs.Worker.Transition
import StrategyDesk.Proofs.Worker.Waiters
import StrategyDesk.Proofs.Worker.Work
import StrategyDesk.Rehearsal
import StrategyDesk.Sandbox.Acquisition
import StrategyDesk.Sandbox.Declarations
import StrategyDesk.Sandbox.Environment
import StrategyDesk.Sandbox.FileSystem
import StrategyDesk.Sandbox.Manager
import StrategyDesk.Sandbox.PathMap
import StrategyDesk.Sandbox.Target
import StrategyDesk.Sandbox.Universe
import StrategyDesk.Script.Block
import StrategyDesk.Script.Bracket
import StrategyDesk.Script.Cursor
import StrategyDesk.Script.Documentation
import StrategyDesk.Script.Masking
import StrategyDesk.Script.Statement
import StrategyDesk.Session
import StrategyDesk.Text.Alphabetic
import StrategyDesk.Text.Basic
import StrategyDesk.Text.Classes
import StrategyDesk.Text.Invisible
import StrategyDesk.Text.Lower
import StrategyDesk.Text.Numeric
import StrategyDesk.Text.Quoting
import StrategyDesk.Toml.Document
import StrategyDesk.Toml.Lexical
import StrategyDesk.Toml.Moment
import StrategyDesk.Toml.Number
import StrategyDesk.Toml.Table
import StrategyDesk.Validation.Pipeline
import StrategyDesk.Validation.Signals
import StrategyDesk.Validation.Worker
import StrategyDesk.View
import StrategyDesk.Web.Address
import StrategyDesk.Web.Domain
import StrategyDesk.Web.Exchange
import StrategyDesk.Web.Percent
import StrategyDesk.Web.Url
import StrategyDesk.Proofs.Document.Lines
import StrategyDesk.Proofs.Document.Protection
import StrategyDesk.Proofs.Script.Balance
import StrategyDesk.Proofs.Session.Header
import StrategyDesk.Proofs.Script.ImportForm
import StrategyDesk.Proofs.Script.Literal
import StrategyDesk.Proofs.Analysis.Literal
import StrategyDesk.Proofs.Script.HeaderForm
import StrategyDesk.Proofs.Analysis.ModuleSearch
import StrategyDesk.Proofs.Analysis.History
import StrategyDesk.Proofs.Sandbox.Loading
import StrategyDesk.Proofs.Json.RoundTrip
import StrategyDesk.Proofs.Library.Instruments
import StrategyDesk.Proofs.Document.Coverage
import StrategyDesk.Proofs.Document.Walk
import StrategyDesk.Proofs.View.Change
import StrategyDesk.Proofs.Session.Edit
import StrategyDesk.Proofs.Script.Piece
import StrategyDesk.Proofs.Script.Chain
import StrategyDesk.Proofs.Analysis.Quotation
import StrategyDesk.Proofs.Analysis.Access
import StrategyDesk.Proofs.Analysis.QuickInfo
import StrategyDesk.Proofs.Analysis.Completion
import StrategyDesk.Proofs.Analysis.ModuleBody
import StrategyDesk.Proofs.Analysis.Exports
import StrategyDesk.Proofs.Analysis.Hover
import StrategyDesk.Proofs.Script.WrittenTags
import StrategyDesk.Proofs.Analysis.Documentation
import StrategyDesk.Proofs.Library.Tickers
import StrategyDesk.Proofs.Signals.Publication
import StrategyDesk.Proofs.Document.Decoration
import StrategyDesk.Proofs.Sandbox.Writing
import StrategyDesk.Proofs.Web.Endpoint
import StrategyDesk.Proofs.Script.Masked
import StrategyDesk.Proofs.Session.Extent
import StrategyDesk.Proofs.Check.Success
import StrategyDesk.Proofs.Rehearsal.Settling
