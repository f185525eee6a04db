import IncidentTriage.Act
import IncidentTriage.Backend.Client
import IncidentTriage.Breaker.Basic
import IncidentTriage.Breaker.Call
import IncidentTriage.Calendar
import IncidentTriage.Chunk.Encoding
import IncidentTriage.Chunk.Splitter
import IncidentTriage.CommandLine.Arguments
import IncidentTriage.CommandLine.Run
import IncidentTriage.Components
import IncidentTriage.Decimal.Binary
import IncidentTriage.Decimal.Fixed
import IncidentTriage.Decimal.Power
import IncidentTriage.Decimal.Reading
import IncidentTriage.Decimal.Rounding
import IncidentTriage.Decimal.Shortest
import IncidentTriage.Document
import IncidentTriage.Fault
import IncidentTriage.Filter.Basic
import IncidentTriage.Filter.Parser
import IncidentTriage.Filter.Sql
import IncidentTriage.Http.Api
import IncidentTriage.Http.Body
import IncidentTriage.Http.Description
import IncidentTriage.Http.Host
import IncidentTriage.Http.Label
import IncidentTriage.Http.Percent
import IncidentTriage.Http.Problem
import IncidentTriage.Http.Route
import IncidentTriage.Http.Sending
import IncidentTriage.Http.Target
import IncidentTriage.Http.WholeText
import IncidentTriage.Index.Basic
import IncidentTriage.Index.Hit
import IncidentTriage.Index.Statement
import IncidentTriage.Ingestion.Knowledge
import IncidentTriage.Ingestion.Known
import IncidentTriage.Ingestion.Library
import IncidentTriage.Ingestion.Telemetry
import IncidentTriage.Main
import IncidentTriage.Question.Answer
import IncidentTriage.Question.Intent
import IncidentTriage.Question.Prompt
import IncidentTriage.Question.Provider
import IncidentTriage.Question.Retrieval
import IncidentTriage.Retry
import IncidentTriage.Scheduler
import IncidentTriage.Settings
import IncidentTriage.Text.Blank
import IncidentTriage.Text.Cased
import IncidentTriage.Text.Composition
import IncidentTriage.Text.Cut
import IncidentTriage.Text.Digit
import IncidentTriage.Text.Direction
import IncidentTriage.Text.Joining
import IncidentTriage.Text.Lowercase
import IncidentTriage.Text.Mark
import IncidentTriage.Text.NameChar
import IncidentTriage.Text.Printable
import IncidentTriage.Text.Punycode
import IncidentTriage.Text.Quoted
import IncidentTriage.Text.Ranges
import IncidentTriage.Text.Utf16
import IncidentTriage.Text.Utf8
import IncidentTriage.Text.Wide
import IncidentTriage.Trace.Narrative
import IncidentTriage.Trace.Report
import IncidentTriage.Trace.Span
import IncidentTriage.Value.Basic
import IncidentTriage.Value.Json
import IncidentTriage.Value.JsonText
import IncidentTriage.Value.Number
import IncidentTriage.Value.Text
import IncidentTriage.Proofs.Act
import IncidentTriage.Proofs.Raises
import IncidentTriage.Proofs.Retry
import IncidentTriage.Proofs.Filter.Grammar
import IncidentTriage.Proofs.Filter.Reading
import IncidentTriage.Proofs.Filter.Written
import IncidentTriage.Proofs.Filter.Condition
import IncidentTriage.Proofs.Filter.Bound
import IncidentTriage.Proofs.Index.Store
import IncidentTriage.Proofs.Chunk.First
import IncidentTriage.Proofs.Ingestion.Chunks
import IncidentTriage.Proofs.Ingestion.Batch
import IncidentTriage.Proofs.Ingestion.Fresh
import IncidentTriage.Proofs.Ingestion.Poll
import IncidentTriage.Proofs.Ingestion.ExactlyOnce
import IncidentTriage.Proofs.Ingestion.Steps
import IncidentTriage.Proofs.Ingestion.Interleaving
import IncidentTriage.Proofs.Ingestion.Concurrent
import IncidentTriage.Proofs.Breaker.Periods
import IncidentTriage.Proofs.Breaker.Trials
import IncidentTriage.Proofs.Breaker.Window
import IncidentTriage.Proofs.Breaker.Call
import IncidentTriage.Proofs.Breaker.Aborts
import IncidentTriage.Proofs.Breaker.Carried
import IncidentTriage.Proofs.Question.Narrowing
import IncidentTriage.Proofs.Question.Naming
import IncidentTriage.Proofs.Question.Prompt
import IncidentTriage.Proofs.Question.Degradation
import IncidentTriage.Proofs.Question.Traffic
import IncidentTriage.Proofs.Backend.Unmet
import IncidentTriage.Proofs.Backend.Script
import IncidentTriage.Proofs.Ingestion.Successive
import IncidentTriage.Proofs.Trace.SpanOrder
import IncidentTriage.Proofs.Backend.Batches
import IncidentTriage.Proofs.Trace.Refused
import IncidentTriage.Proofs.Trace.Retained
import IncidentTriage.Proofs.Text.Lowercase
import IncidentTriage.Proofs.Trace.AttributeOrder
import IncidentTriage.Proofs.Question.Mentions
import IncidentTriage.Proofs.Question.Pattern
import IncidentTriage.Proofs.Question.Urgency
import IncidentTriage.Proofs.Question.Blankness
import IncidentTriage.Proofs.Ingestion.Replacement
import IncidentTriage.Proofs.Decimal.Order
import IncidentTriage.Proofs.Breaker.CoolDown
import IncidentTriage.Proofs.Breaker.Looks
import IncidentTriage.Proofs.Breaker.Transparent
import IncidentTriage.Proofs.Chunk.Words
import IncidentTriage.Proofs.Ingestion.Lossless
import IncidentTriage.Proofs.SingleFlight
import IncidentTriage.Proofs.Chunk.Places
import IncidentTriage.Proofs.Trace.Figures
import IncidentTriage.Proofs.Trace.Lines
import IncidentTriage.Proofs.Index.Exchange
import IncidentTriage.Proofs.Index.Discipline
import IncidentTriage.Proofs.Text.Utf8
import IncidentTriage.Proofs.Chunk.Fragments
import IncidentTriage.Proofs.Chunk.Budget
import IncidentTriage.Proofs.Attempts
import IncidentTriage.Proofs.Backend.Replies
import IncidentTriage.Proofs.Decimal.Nearest
import IncidentTriage.Proofs.Decimal.Columns
import IncidentTriage.Proofs.Calendar.Gregorian
import IncidentTriage.Proofs.Calendar.Moment
import IncidentTriage.Proofs.Calendar.Exactness
