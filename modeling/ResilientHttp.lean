import ResilientHttp.Activity
import ResilientHttp.Backoff
import ResilientHttp.Breaker
import ResilientHttp.ByteStream
import ResilientHttp.Client
import ResilientHttp.Codecs
import ResilientHttp.Compression.Bits
import ResilientHttp.Compression.Brotli.Block
import ResilientHttp.Compression.Brotli.Code
import ResilientHttp.Compression.Brotli.Context
import ResilientHttp.Compression.Brotli.Dictionary
import ResilientHttp.Compression.Brotli.Stream
import ResilientHttp.Compression.Brotli.Variant
import ResilientHttp.Compression.Checksum
import ResilientHttp.Compression.Decoder
import ResilientHttp.Compression.Fault
import ResilientHttp.Compression.Flate
import ResilientHttp.Compression.Machine
import ResilientHttp.Compression.PrefixCode
import ResilientHttp.Compression.Registry
import ResilientHttp.Compression.Window
import ResilientHttp.Config
import ResilientHttp.Decimal.Binary64
import ResilientHttp.Decimal.Shortest
import ResilientHttp.Error.Basic
import ResilientHttp.Error.Transport
import ResilientHttp.Header.Basic
import ResilientHttp.Header.Fields
import ResilientHttp.Hook
import ResilientHttp.Json.Basic
import ResilientHttp.Json.Form
import ResilientHttp.Json.Number
import ResilientHttp.Json.Reader
import ResilientHttp.Json.Writer
import ResilientHttp.MailDate
import ResilientHttp.MediaType
import ResilientHttp.Method
import ResilientHttp.Network
import ResilientHttp.Noise
import ResilientHttp.Proofs.BreakerHistory
import ResilientHttp.Proofs.BreakerInvariant
import ResilientHttp.Record
import ResilientHttp.Request
import ResilientHttp.RequestBuilder
import ResilientHttp.Response
import ResilientHttp.Retry
import ResilientHttp.RetryAfter
import ResilientHttp.Send
import ResilientHttp.Span
import ResilientHttp.Status
import ResilientHttp.Text.Base64
import ResilientHttp.Text.Blank
import ResilientHttp.Text.Integer
import ResilientHttp.Text.Printable
import ResilientHttp.Text.Quoted
import ResilientHttp.Text.Search
import ResilientHttp.Text.Utf8
import ResilientHttp.Trace
import ResilientHttp.Url.Address
import ResilientHttp.Url.Basic
import ResilientHttp.Url.Folding
import ResilientHttp.Url.Form
import ResilientHttp.Url.Host
import ResilientHttp.Url.Parser
import ResilientHttp.Url.Percent
import ResilientHttp.Url.Punycode
import ResilientHttp.Xml.Attribute
import ResilientHttp.Xml.Token
import ResilientHttp.Xml.Value
import ResilientHttp.Proofs.Runs
import ResilientHttp.Proofs.Building
import ResilientHttp.Proofs.Turns
import ResilientHttp.Proofs.Resending
import ResilientHttp.Proofs.RetryReference
import ResilientHttp.Proofs.Passage
import ResilientHttp.Proofs.SharedBreaker
import ResilientHttp.Proofs.OpenWindow
import ResilientHttp.Proofs.BreakerAccounts
import ResilientHttp.Proofs.CutShort
import ResilientHttp.Proofs.TraceFidelity
import ResilientHttp.Proofs.Chunking
import ResilientHttp.Proofs.Truncation
import ResilientHttp.Proofs.LateReports
import ResilientHttp.Proofs.Rebuilding
import ResilientHttp.Proofs.Growth
import ResilientHttp.Proofs.WaitBounds
import ResilientHttp.Proofs.CheckedWaits
import ResilientHttp.Proofs.Classification
import ResilientHttp.Proofs.Tracing
import ResilientHttp.Proofs.Transparency
import ResilientHttp.Proofs.HeaderMerge
import ResilientHttp.Proofs.Decompression
import ResilientHttp.Proofs.CodingLines
import ResilientHttp.Proofs.DecodedStream
import ResilientHttp.Proofs.Registrations
import ResilientHttp.Proofs.RetryVerdict
import ResilientHttp.Proofs.CodecSelection
import ResilientHttp.Proofs.BodyReading
import ResilientHttp.Proofs.HookRelay
import ResilientHttp.Proofs.Draining
import ResilientHttp.Proofs.DeferredErrors
import ResilientHttp.Proofs.TimeAccounts
import ResilientHttp.Proofs.TotalWait
import ResilientHttp.Proofs.Calendar
import ResilientHttp.Proofs.Letters
import ResilientHttp.Proofs.Trimming
import ResilientHttp.Proofs.DateParts
import ResilientHttp.Proofs.MailDates
import ResilientHttp.Proofs.AskedWaits
import ResilientHttp.Proofs.MediaTypes
import ResilientHttp.Proofs.Offers
