import DocumentClient.Client
import DocumentClient.Json.Reader
import DocumentClient.Proofs.Comparison.Written
import DocumentClient.Proofs.Query.Chain
import DocumentClient.Proofs.Response.Construction
import DocumentClient.Proofs.Literal.Unquoted
import DocumentClient.Proofs.Query.Reachable
import DocumentClient.Proofs.Query.Refiltering
import DocumentClient.Proofs.Response.Classification
import DocumentClient.Proofs.Calendar
import DocumentClient.Proofs.Instant.Reading
import DocumentClient.Proofs.Query.Body
import DocumentClient.Proofs.Text.Digits
import DocumentClient.Proofs.Instant.RoundTrip
import DocumentClient.Proofs.Document.RoundTrip
import DocumentClient.Proofs.Text.Percent
import DocumentClient.Proofs.Url.Path
import DocumentClient.Proofs.Url.Plain
import DocumentClient.Proofs.Url.Segments
import DocumentClient.Proofs.Url.Web
import DocumentClient.Proofs.Url.Joining
import DocumentClient.Proofs.Config.Root
import DocumentClient.Proofs.Client.Document
import DocumentClient.Client.Call
import DocumentClient.Proofs.Client.Run
import DocumentClient.Proofs.Document.Times
import DocumentClient.Proofs.Response.Items
import DocumentClient.Proofs.Text.Search
import DocumentClient.Proofs.Comparison.Layout
import DocumentClient.Proofs.Response.Envelope
import DocumentClient.Proofs.Response.Routing
import DocumentClient.Proofs.Response.RecordTimes
import DocumentClient.Proofs.Binary64.Rounding
import DocumentClient.Proofs.Literal.Reading
import DocumentClient.Proofs.Literal.Quoting
import DocumentClient.Proofs.Filter.History
import DocumentClient.Proofs.Query.Splitting
import DocumentClient.Proofs.Filter.Keys
import DocumentClient.Proofs.Order
import DocumentClient.Proofs.Query.Commuting
import DocumentClient.Proofs.Binary64.Signed
import DocumentClient.Proofs.Literal.Equality
import DocumentClient.Proofs.Document.Partition
import DocumentClient.Proofs.Instant.Notations
import DocumentClient.Proofs.Client.DocumentUrl
import DocumentClient.Proofs.Config.Server
import DocumentClient.Proofs.Response.Access
import DocumentClient.Proofs.Config.Variables
import DocumentClient.Proofs.ApiErrors
