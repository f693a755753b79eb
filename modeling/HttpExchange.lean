import HttpExchange.Action.Announcement
import HttpExchange.Action.Clone
import HttpExchange.Action.Context
import HttpExchange.Action.Update
import HttpExchange.Adapter.Basic
import HttpExchange.Assoc
import HttpExchange.Body.Basic
import HttpExchange.Body.Decoder
import HttpExchange.Calendar.Date
import HttpExchange.Calendar.Layout
import HttpExchange.Calendar.Timestamp
import HttpExchange.CommandLine.Arguments
import HttpExchange.CommandLine.Outcome
import HttpExchange.ErrorClass
import HttpExchange.Failure
import HttpExchange.Form.Nesting
import HttpExchange.Form.Pairs
import HttpExchange.Headers.Basic
import HttpExchange.Headers.Cookie
import HttpExchange.Headers.MediaType
import HttpExchange.Host
import HttpExchange.Host.Direction
import HttpExchange.Host.Domain
import HttpExchange.Host.Ipv4
import HttpExchange.Host.Ipv6
import HttpExchange.Host.Joiner
import HttpExchange.Host.Mapping
import HttpExchange.Host.Punycode
import HttpExchange.Json.Basic
import HttpExchange.Json.Number
import HttpExchange.Json.Reader
import HttpExchange.Json.Token
import HttpExchange.Json.Writer
import HttpExchange.Main
import HttpExchange.Message.Basic
import HttpExchange.Message.Edit
import HttpExchange.Method
import HttpExchange.Metrics.Counter
import HttpExchange.Metrics.Tally
import HttpExchange.Multipart
import HttpExchange.Numeral.Binary
import HttpExchange.Numeral.Decimal
import HttpExchange.Numeral.Integer
import HttpExchange.Numeral.Shortest
import HttpExchange.Proofs.Action.Announcement
import HttpExchange.Proofs.Action.Answer
import HttpExchange.Proofs.Action.Atomicity
import HttpExchange.Proofs.Action.Concurrency
import HttpExchange.Proofs.Action.Journal
import HttpExchange.Proofs.Action.Plan
import HttpExchange.Proofs.Adapter
import HttpExchange.Proofs.Calendar.Date
import HttpExchange.Proofs.Calendar.Timestamp
import HttpExchange.Proofs.Except
import HttpExchange.Proofs.Form.Growth
import HttpExchange.Proofs.Form.Key
import HttpExchange.Proofs.Form.Leaves
import HttpExchange.Proofs.Form.Pairs
import HttpExchange.Proofs.Form.Regrowth
import HttpExchange.Proofs.Form.RoundTrip
import HttpExchange.Proofs.Numeral.Binary
import HttpExchange.Proofs.Numeral.Integer
import HttpExchange.Proofs.Store.Call
import HttpExchange.Proofs.Store.Copy
import HttpExchange.Proofs.Store.Invariant
import HttpExchange.Proofs.Store.Read
import HttpExchange.Proofs.Store.Stamp
import HttpExchange.Proofs.Store.Table
import HttpExchange.Proofs.Text.Blank
import HttpExchange.Proofs.Text.Split
import HttpExchange.Proofs.Text.Utf8
import HttpExchange.Request
import HttpExchange.Response
import HttpExchange.Settings.Basic
import HttpExchange.Settings.LogFilter
import HttpExchange.Settings.Validation
import HttpExchange.Status
import HttpExchange.Store.Basic
import HttpExchange.Store.Interface
import HttpExchange.Store.Schema
import HttpExchange.Text.Alphanumeric
import HttpExchange.Text.Basic
import HttpExchange.Text.Blank
import HttpExchange.Text.CharTable
import HttpExchange.Text.Composition
import HttpExchange.Text.Decomposition
import HttpExchange.Text.Mark
import HttpExchange.Text.Percent
import HttpExchange.Text.Quoted
import HttpExchange.Text.Unprintable
import HttpExchange.Text.Utf8
import HttpExchange.Toml.Basic
import HttpExchange.Toml.Reader
import HttpExchange.Toml.Scalar
import HttpExchange.Uri
import HttpExchange.Xml.Event
import HttpExchange.Xml.Name
import HttpExchange.Xml.Node
import HttpExchange.Xml.Prolog
import HttpExchange.Xml.Record
import HttpExchange.Xml.Reference
import HttpExchange.Xml.Tree
import HttpExchange.Proofs.Headers.Values
import HttpExchange.Proofs.Message.History
import HttpExchange.Proofs.Uri.Authority
import HttpExchange.Proofs.Message.Host
import HttpExchange.Proofs.Uri.Resolve
import HttpExchange.Proofs.Message.Merge
import HttpExchange.Proofs.Request.Frame
import HttpExchange.Proofs.Request.Target
import HttpExchange.Proofs.Request.Query
import HttpExchange.Proofs.Headers.Pairs
import HttpExchange.Proofs.Request.Head
import HttpExchange.Proofs.Request.Wire
import HttpExchange.Proofs.Json.Token
import HttpExchange.Proofs.Json.Reader
import HttpExchange.Proofs.Json.Portable
import HttpExchange.Proofs.Body.RoundTrip
import HttpExchange.Proofs.Assoc
import HttpExchange.Proofs.Text.Lines
import HttpExchange.Proofs.Multipart.Reading
import HttpExchange.Proofs.Multipart.Part
import HttpExchange.Proofs.Multipart.Framing
import HttpExchange.Proofs.Multipart.Truncation
import HttpExchange.Proofs.Form.Normal
import HttpExchange.Proofs.Uri.Canonical
import HttpExchange.Proofs.Store.Language
import HttpExchange.Proofs.Store.Mandatory
import HttpExchange.Proofs.Request.Separation
import HttpExchange.Proofs.Xml.Name
import HttpExchange.Proofs.Xml.Record
import HttpExchange.Proofs.Xml.Event
import HttpExchange.Proofs.Xml.Tree
import HttpExchange.Proofs.Xml.Sound
import HttpExchange.Proofs.Body.Xml
import HttpExchange.Proofs.Xml.Plain
import HttpExchange.Proofs.Xml.Exact
import HttpExchange.Proofs.Xml.Children
import HttpExchange.Proofs.Headers.Multimap
import HttpExchange.Proofs.Body.Multipart
import HttpExchange.Proofs.Action.Fork
import HttpExchange.Proofs.Text.Case
import HttpExchange.Proofs.Headers.MediaType
import HttpExchange.Proofs.Message.Extension
import HttpExchange.Proofs.Adapter.Integer
import HttpExchange.Proofs.Adapter.DateTime
import HttpExchange.Proofs.Body.Form
import HttpExchange.Proofs.Calendar.Moment
import HttpExchange.Proofs.Form.Placement
import HttpExchange.Proofs.Adapter.Year
import HttpExchange.Proofs.Adapter.Stable
import HttpExchange.Proofs.Headers.Cookie
import HttpExchange.Proofs.Message.HostField
import HttpExchange.Proofs.Body.JsonType
import HttpExchange.Proofs.Xml.Attributes
import HttpExchange.Proofs.Message.Received
import HttpExchange.Proofs.Response.StatusLine
import HttpExchange.Proofs.Status
