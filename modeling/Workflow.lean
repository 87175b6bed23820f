import Workflow.Abi.Arguments
import Workflow.Abi.Codec
import Workflow.Abi.Declaration
import Workflow.Abi.Decoding
import Workflow.Abi.Encoding
import Workflow.Abi.Entry
import Workflow.Abi.Function
import Workflow.Abi.Type
import Workflow.Address
import Workflow.Call.Basic
import Workflow.Call.Batch
import Workflow.Call.Operation
import Workflow.Call.Single
import Workflow.Call.Step
import Workflow.Charset.Chinese
import Workflow.Charset.Designated
import Workflow.Charset.Encoding
import Workflow.Charset.Error
import Workflow.Charset.Escaped
import Workflow.Charset.Front
import Workflow.Charset.Japanese
import Workflow.Charset.Korean
import Workflow.Charset.Name
import Workflow.Charset.Page
import Workflow.Charset.Punycode
import Workflow.Charset.Seven
import Workflow.Charset.Sheet
import Workflow.Charset.Sheet.Big5
import Workflow.Charset.Sheet.Gb
import Workflow.Charset.Sheet.Jis
import Workflow.Charset.Sheet.Ks
import Workflow.Charset.Wide
import Workflow.Client
import Workflow.Compression.Checksum
import Workflow.Compression.Container
import Workflow.Compression.Deflate
import Workflow.Compression.Flaw
import Workflow.Compression.PrefixCode
import Workflow.Context
import Workflow.Decimal.Binary
import Workflow.Decimal.Layout
import Workflow.Decimal.Numeral
import Workflow.Decimal.Places
import Workflow.Decimal.Shortest
import Workflow.Definition.Basic
import Workflow.Definition.Loading
import Workflow.Definition.Shape
import Workflow.Definition.Validation
import Workflow.Engine
import Workflow.Expression.Path
import Workflow.Expression.Resolution
import Workflow.Failure.Basic
import Workflow.Failure.Fault
import Workflow.Failure.Report
import Workflow.Failure.Stated
import Workflow.Fields
import Workflow.Hash.Keccak
import Workflow.Http.Content
import Workflow.Http.Header
import Workflow.Http.MediaType
import Workflow.Http.Message
import Workflow.Http.Step
import Workflow.Input.Binding
import Workflow.Input.Variable
import Workflow.Json.Error
import Workflow.Json.Reader
import Workflow.Json.Writer
import Workflow.Number
import Workflow.Options
import Workflow.Place
import Workflow.Proofs.Abi.Arguments
import Workflow.Proofs.Abi.ByName
import Workflow.Proofs.Abi.Declarations
import Workflow.Proofs.Abi.Descriptions
import Workflow.Proofs.Abi.Encodings
import Workflow.Proofs.Abi.EntryReadings
import Workflow.Proofs.Abi.Forms
import Workflow.Proofs.Abi.Groups
import Workflow.Proofs.Abi.Injectivity
import Workflow.Proofs.Abi.InterfaceEntries
import Workflow.Proofs.Abi.Layout
import Workflow.Proofs.Abi.Nesting
import Workflow.Proofs.Abi.Readings
import Workflow.Proofs.Abi.Received
import Workflow.Proofs.Abi.Rendering
import Workflow.Proofs.Abi.Reordering
import Workflow.Proofs.Abi.Shapes
import Workflow.Proofs.Abi.Signatures
import Workflow.Proofs.Abi.TypeTexts
import Workflow.Proofs.Abi.TypeWords
import Workflow.Proofs.Call.Acceptance
import Workflow.Proofs.Call.AllowList
import Workflow.Proofs.Call.Batch
import Workflow.Proofs.Call.Bytes
import Workflow.Proofs.Call.Denials
import Workflow.Proofs.Call.Payloads
import Workflow.Proofs.Call.Preparation
import Workflow.Proofs.Call.Prepared
import Workflow.Proofs.Call.Readiness
import Workflow.Proofs.Call.Single
import Workflow.Proofs.Call.Submissions
import Workflow.Proofs.Call.Targets
import Workflow.Proofs.Client
import Workflow.Proofs.Context.Recording
import Workflow.Proofs.Decimal.Doubles
import Workflow.Proofs.Decimal.Integers
import Workflow.Proofs.Decimal.Numerals
import Workflow.Proofs.Definition.OutputKeys
import Workflow.Proofs.Definition.RoundTrip
import Workflow.Proofs.Definition.Soundness
import Workflow.Proofs.Engine.Attempts
import Workflow.Proofs.Engine.BreakOff
import Workflow.Proofs.Engine.Continuation
import Workflow.Proofs.Engine.Entries
import Workflow.Proofs.Engine.Outcome
import Workflow.Proofs.Engine.Progression
import Workflow.Proofs.Engine.Registration
import Workflow.Proofs.Engine.Retries
import Workflow.Proofs.Engine.Trace
import Workflow.Proofs.Engine.View
import Workflow.Proofs.Engine.Visibility
import Workflow.Proofs.Engine.Visits
import Workflow.Proofs.Expression.Idempotence
import Workflow.Proofs.Expression.Paths
import Workflow.Proofs.Expression.References
import Workflow.Proofs.Expression.Stability
import Workflow.Proofs.Expression.Substitution
import Workflow.Proofs.Expression.Walks
import Workflow.Proofs.Failures
import Workflow.Proofs.Http.Answers
import Workflow.Proofs.Http.Faults
import Workflow.Proofs.Http.Precedence
import Workflow.Proofs.Http.Requests
import Workflow.Proofs.Input.Amounts
import Workflow.Proofs.Input.Binding
import Workflow.Proofs.Input.Bound
import Workflow.Proofs.Input.Defaults
import Workflow.Proofs.Input.Reports
import Workflow.Proofs.Input.Types
import Workflow.Proofs.Json.Reading
import Workflow.Proofs.Service.Effects
import Workflow.Proofs.Service.InMemory
import Workflow.Proofs.Service.Noting
import Workflow.Proofs.Service.Submission
import Workflow.Proofs.Service.Traffic
import Workflow.Proofs.Session
import Workflow.Proofs.Step.Setup
import Workflow.Proofs.Text.Hex
import Workflow.Proofs.Text.Runs
import Workflow.Proofs.Value.Mapping
import Workflow.Proofs.Word
import Workflow.Proofs.Word.HexText
import Workflow.Proofs.Word.Unsigned
import Workflow.Result.Basic
import Workflow.Service.Basic
import Workflow.Service.InMemory
import Workflow.Service.Proxy
import Workflow.Service.Submission
import Workflow.Settings
import Workflow.Shape
import Workflow.Step.Handler
import Workflow.Text.Base64
import Workflow.Text.Blank
import Workflow.Text.Case
import Workflow.Text.Cased
import Workflow.Text.Digit
import Workflow.Text.Hex
import Workflow.Text.Printable
import Workflow.Text.Quoted
import Workflow.Text.Ranges
import Workflow.Text.Search
import Workflow.Text.Utf8
import Workflow.Trace.Logging
import Workflow.Trace.Span
import Workflow.Value.Basic
import Workflow.Value.Display
import Workflow.Value.Mapping
import Workflow.Value.Portable
import Workflow.Word
import Workflow.Yaml.Plain
import Workflow.Yaml.Style
import Workflow.Yaml.Writer
