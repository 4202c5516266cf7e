import RemoteDriver.Bson.Basic
import RemoteDriver.Bson.Equality
import RemoteDriver.Bson.Reader
import RemoteDriver.Bson.Writer
import RemoteDriver.ChangeStream
import RemoteDriver.Client
import RemoteDriver.Codec
import RemoteDriver.Collection
import RemoteDriver.Connection
import RemoteDriver.Cursor
import RemoteDriver.Database
import RemoteDriver.Ending
import RemoteDriver.Endpoint
import RemoteDriver.Error
import RemoteDriver.Expected
import RemoteDriver.Gateway
import RemoteDriver.Http
import RemoteDriver.Json.Basic
import RemoteDriver.Json.Fault
import RemoteDriver.Json.Printer
import RemoteDriver.Json.Reading
import RemoteDriver.Json.Written
import RemoteDriver.Number.Decimal128
import RemoteDriver.Number.Double
import RemoteDriver.Number.Range
import RemoteDriver.Number.Reading
import RemoteDriver.Number.Shortest
import RemoteDriver.Options
import RemoteDriver.Outcome
import RemoteDriver.Progress
import RemoteDriver.Proofs.Bson.RoundTrip
import RemoteDriver.Proofs.Bson.Settled
import RemoteDriver.Proofs.ChangeStream.Calls
import RemoteDriver.Proofs.ChangeStream.Conduct
import RemoteDriver.Proofs.ChangeStream.Delivery
import RemoteDriver.Proofs.ChangeStream.Lifecycle
import RemoteDriver.Proofs.ChangeStream.Release
import RemoteDriver.Proofs.ChangeStream.Resuming
import RemoteDriver.Proofs.ChangeStream.Signal
import RemoteDriver.Proofs.ChangeStream.Step
import RemoteDriver.Proofs.Closing.Calls
import RemoteDriver.Proofs.Closing.Comparison
import RemoteDriver.Proofs.Closing.Cursors
import RemoteDriver.Proofs.Closing.Handles
import RemoteDriver.Proofs.Closing.Loops
import RemoteDriver.Proofs.Closing.Runs
import RemoteDriver.Proofs.Closing.Services
import RemoteDriver.Proofs.Closing.Serving
import RemoteDriver.Proofs.Closing.Streams
import RemoteDriver.Proofs.Cursor.Delivery
import RemoteDriver.Proofs.Cursor.Lifecycle
import RemoteDriver.Proofs.Cursor.Release
import RemoteDriver.Proofs.Cursor.Step
import RemoteDriver.Proofs.Draining.Calls
import RemoteDriver.Proofs.Draining.Cursors
import RemoteDriver.Proofs.Draining.Streams
import RemoteDriver.Proofs.Endpoint.Credentials
import RemoteDriver.Proofs.Endpoint.Options
import RemoteDriver.Proofs.Failure.Calls
import RemoteDriver.Proofs.Failure.Course
import RemoteDriver.Proofs.Failure.Cursors
import RemoteDriver.Proofs.Failure.Handles
import RemoteDriver.Proofs.Failure.Services
import RemoteDriver.Proofs.Failure.Streams
import RemoteDriver.Proofs.Identity.Bringing
import RemoteDriver.Proofs.Identity.Databases
import RemoteDriver.Proofs.Identity.Services
import RemoteDriver.Proofs.Isolation.Beside
import RemoteDriver.Proofs.Isolation.Others
import RemoteDriver.Proofs.Isolation.Runs
import RemoteDriver.Proofs.Isolation.Services
import RemoteDriver.Proofs.Isolation.Serving
import RemoteDriver.Proofs.Json.RoundTrip
import RemoteDriver.Proofs.Life
import RemoteDriver.Proofs.Lookup
import RemoteDriver.Proofs.Number.Decimal128
import RemoteDriver.Proofs.Number.Digits
import RemoteDriver.Proofs.Number.Double
import RemoteDriver.Proofs.Quiet
import RemoteDriver.Proofs.Refusal.Exhaustive
import RemoteDriver.Proofs.Refusal.Handles
import RemoteDriver.Proofs.Refusal.Reasons
import RemoteDriver.Proofs.Refusal.Sessions
import RemoteDriver.Proofs.Refusal.Stateful
import RemoteDriver.Proofs.Routing.Requests
import RemoteDriver.Proofs.Routing.Tokens
import RemoteDriver.Proofs.Secrecy.Handles
import RemoteDriver.Proofs.Secrecy.Redaction
import RemoteDriver.Proofs.Secrecy.Runs
import RemoteDriver.Proofs.Secrecy.Stateful
import RemoteDriver.Proofs.Signature.Binding
import RemoteDriver.Proofs.Signature.Grammar
import RemoteDriver.Proofs.Signature.RoundTrip
import RemoteDriver.Proofs.Surface.Building
import RemoteDriver.Proofs.Surface.Counts
import RemoteDriver.Proofs.Surface.Forwarding
import RemoteDriver.Proofs.Surface.GivenOptions
import RemoteDriver.Proofs.Surface.Helpers
import RemoteDriver.Proofs.Surface.Invoking
import RemoteDriver.Proofs.Surface.Kinds
import RemoteDriver.Proofs.Surface.Mirrored
import RemoteDriver.Proofs.Surface.Overridden
import RemoteDriver.Proofs.Text.RoundTrip
import RemoteDriver.Proofs.Text.Trimming
import RemoteDriver.Proofs.Text.Utf8
import RemoteDriver.Proofs.Time.Calendar
import RemoteDriver.Proofs.Time.Rfc3339
import RemoteDriver.Proofs.Transcript
import RemoteDriver.Proofs.Wire.Doubles
import RemoteDriver.Proofs.Wire.Envelope
import RemoteDriver.Proofs.Wire.Reply
import RemoteDriver.Reply
import RemoteDriver.Request
import RemoteDriver.Session.Basic
import RemoteDriver.Session.Service
import RemoteDriver.Session.Step
import RemoteDriver.Signature.Basic
import RemoteDriver.Signature.Binding
import RemoteDriver.Signature.Parser
import RemoteDriver.Signature.Printer
import RemoteDriver.Surface.Basic
import RemoteDriver.Surface.Shapes
import RemoteDriver.Text.Base64
import RemoteDriver.Text.Blank
import RemoteDriver.Text.Canonical
import RemoteDriver.Text.Combining
import RemoteDriver.Text.Composed
import RemoteDriver.Text.Hex
import RemoteDriver.Text.Mark
import RemoteDriver.Text.Quoted
import RemoteDriver.Text.Ranges
import RemoteDriver.Text.SpelledOut
import RemoteDriver.Text.Unassigned
import RemoteDriver.Text.Utf8
import RemoteDriver.Time.Calendar
import RemoteDriver.Time.Rfc3339
import RemoteDriver.Time.Span
import RemoteDriver.Url.Basic
import RemoteDriver.Url.Domain.Direction
import RemoteDriver.Url.Domain.Joiner
import RemoteDriver.Url.Domain.Name
import RemoteDriver.Url.Domain.Reading
import RemoteDriver.Url.Domain.Spelling
import RemoteDriver.Url.Host
import RemoteDriver.Url.Parser
import RemoteDriver.Url.Percent
import RemoteDriver.Url.Punycode
import RemoteDriver.Url.Query
import RemoteDriver.World
