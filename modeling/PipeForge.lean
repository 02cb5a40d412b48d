import PipeForge.Library.OrderedMap
import PipeForge.Library.KeyRenaming
import PipeForge.Library.SizeT
import PipeForge.Library.Bisection
import PipeForge.Library.Matching
import PipeForge.Library.Utf8
import PipeForge.Contracts.Types
import PipeForge.Contracts.Validation
import PipeForge.Protocol.Framing
import PipeForge.Protocol.FramingRefinement
import PipeForge.Domain.Registry
import PipeForge.Domain.Store
import PipeForge.Domain.Matching
import PipeForge.Library.Transition
import PipeForge.Domain.World
import PipeForge.Domain.Outcomes
import PipeForge.Domain.Builtins
import PipeForge.Domain.Accounting
import PipeForge.Domain.History
import PipeForge.Domain.Identity
import PipeForge.Domain.Similar
import PipeForge.Domain.Interference
import PipeForge.Domain.Pagination
import PipeForge.Domain.Enumeration
import PipeForge.Domain.Refusals
import PipeForge.Domain.Instances
import PipeForge.Domain.BuiltinContracts
import PipeForge.Domain.Counter
import PipeForge.Domain.TextBuffer
import PipeForge.Library.Varint
import PipeForge.Library.Proto3Scalar
import PipeForge.Library.Proto3
import PipeForge.Library.Proto3RoundTrip
import PipeForge.Library.Proto3Size
import PipeForge.Library.Proto3Tree
import PipeForge.Protocol.Schema
import PipeForge.Protocol.Codec
import PipeForge.Protocol.Readable
import PipeForge.Protocol.Limits
import PipeForge.Protocol.RoundTrip
import PipeForge.Protocol.Aggregate
import PipeForge.Protocol.Encodable
import PipeForge.Protocol.Reference
import PipeForge.Protocol.Canonical
import PipeForge.Server.Encoding
import PipeForge.Server.Descriptions
import PipeForge.Server.Dispatcher
import PipeForge.Transport.Types
import PipeForge.Transport.Stream
import PipeForge.Transport.Delivery
import PipeForge.Server.Host
import PipeForge.Server.Counters
import PipeForge.Client.Connection
import PipeForge.Client.Ledger
import PipeForge.Client.Sections
import PipeForge.Client.Completion
import PipeForge.Client.Sending
import PipeForge.Client.Withdrawal
import PipeForge.Client.Responses
import PipeForge.Diagnostics.History
import PipeForge.Diagnostics.State
import PipeForge.Diagnostics.Trace
import PipeForge.Diagnostics.Shutdown
import PipeForge.Cli.Arguments
import PipeForge.Cli.Grammar
import PipeForge.Cli.Parsing
import PipeForge.EndToEnd.System
import PipeForge.EndToEnd.Flow
import PipeForge.EndToEnd.Agreement
import PipeForge.EndToEnd.FieldChecks
import PipeForge.Cli.Acceptance
import PipeForge.Cli.Application
import PipeForge.Cli.Serving
import PipeForge.Client.Deadlines
import PipeForge.Client.Lifecycle
import PipeForge.EndToEnd.Carriage
import PipeForge.EndToEnd.Refinement
import PipeForge.Library.Threads
import PipeForge.Server.Gate
import PipeForge.Server.Shutdown
import PipeForge.Transport.Connect
import PipeForge.Transport.Interruption
import PipeForge.Transport.Outcome
