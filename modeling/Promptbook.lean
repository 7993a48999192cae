import Promptbook.Main
import Promptbook.Proofs.Directive.Readers
import Promptbook.Proofs.Directive.Pass
import Promptbook.Proofs.Directive.Replay
import Promptbook.Proofs.Directive.CallLog
import Promptbook.Proofs.Directive.InPlace
import Promptbook.Proofs.Run.Executes
import Promptbook.Proofs.Run.Walks
import Promptbook.Proofs.Run.Events
import Promptbook.Proofs.Run.Course
import Promptbook.Proofs.Run.State
import Promptbook.Proofs.Run.Limit
import Promptbook.Proofs.Run.Order
import Promptbook.Proofs.Run.Delivery
import Promptbook.Proofs.Directive.Isolation
import Promptbook.Proofs.Workflow.Composition
import Promptbook.Proofs.Directive.Markup
import Promptbook.Proofs.Directive.Extraction
import Promptbook.Proofs.Directive.Written
import Promptbook.Proofs.Directive.Rounds
import Promptbook.Proofs.Directive.RoundLog
import Promptbook.Proofs.Directive.AwaitLimit
import Promptbook.Proofs.Directive.Listing
import Promptbook.Proofs.Directive.Soundness
import Promptbook.Proofs.Directive.CallOrder
import Promptbook.Proofs.Directive.Received
import Promptbook.Proofs.Directive.Publication
import Promptbook.Proofs.Template.Words
import Promptbook.Proofs.Template.Operands
import Promptbook.Proofs.Template.Reads
import Promptbook.Proofs.Template.Spelling
import Promptbook.Proofs.Directive.Scan
import Promptbook.Proofs.Directive.Seeding
import Promptbook.Proofs.Directive.Failure
import Promptbook.Proofs.Template.Places
import Promptbook.Proofs.Directive.Legible
import Promptbook.Proofs.Run.Steering
import Promptbook.Proofs.Run.Calls
import Promptbook.Proofs.Workflow.Segmentation
import Promptbook.Proofs.Retrieval.Coherence
import Promptbook.Proofs.Run.Latest
import Promptbook.Proofs.Workflow.Hooks
import Promptbook.Proofs.Text.Trimming
import Promptbook.Proofs.Workflow.MarkerLine
import Promptbook.Proofs.Workflow.Writing
import Promptbook.Proofs.Directive.References
import Promptbook.Proofs.Directive.Bindings
import Promptbook.Proofs.Directive.Lookups
import Promptbook.Proofs.Run.Stream
import Promptbook.Proofs.Directive.Declaration
import Promptbook.Proofs.Retrieval.Ranking
import Promptbook.Proofs.Directive.Exchange
import Promptbook.Proofs.Directive.Hyphen
import Promptbook.Proofs.Specification.Newlines
import Promptbook.Proofs.Specification.Lexing
import Promptbook.Proofs.Specification.LineEnds
import Promptbook.Proofs.Run.Temperature
import Promptbook.Proofs.Workflow.PlainText
import Promptbook.Proofs.Text.Runs
import Promptbook.Proofs.Directive.Display
import Promptbook.Proofs.Configuration.Layering
import Promptbook.Proofs.Json.Grammar
import Promptbook.Proofs.Json.RoundTrip
import Promptbook.Proofs.Command.Assignment
import Promptbook.Proofs.Directive.Collection
