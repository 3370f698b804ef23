import RustdocIndex.Main
import RustdocIndex.Schema.Path
import RustdocIndex.Proofs.Crate.Path
import RustdocIndex.Proofs.Crate.Validity
import RustdocIndex.Proofs.Document.Part
import RustdocIndex.Proofs.Fields
import RustdocIndex.Proofs.Json.Depth
import RustdocIndex.Proofs.Json.Reading
import RustdocIndex.Proofs.Json.Stable
import RustdocIndex.Proofs.Json.Token
import RustdocIndex.Proofs.Link.Mapping
import RustdocIndex.Proofs.Link.Resolve
import RustdocIndex.Proofs.Literal.Budget
import RustdocIndex.Proofs.Literal.Locality
import RustdocIndex.Proofs.Literal.Stable
import RustdocIndex.Proofs.Literal.Statement
import RustdocIndex.Proofs.Literal.Token
import RustdocIndex.Proofs.Literal.Value
import RustdocIndex.Proofs.Path.Grammar
import RustdocIndex.Proofs.Path.Key
import RustdocIndex.Proofs.Payload.Containment
import RustdocIndex.Proofs.Payload.Dispatch
import RustdocIndex.Proofs.Payload.Embedded
import RustdocIndex.Proofs.Payload.Footer
import RustdocIndex.Proofs.Payload.Shown
import RustdocIndex.Proofs.Result
import RustdocIndex.Proofs.Text.Reader
import RustdocIndex.Proofs.Text.Scan
import RustdocIndex.Proofs.Text.Split
import RustdocIndex.Proofs.Document.Similar
import RustdocIndex.Proofs.Json.Text
import RustdocIndex.Proofs.Literal.Assignment
import RustdocIndex.Proofs.Payload.Layouts
import RustdocIndex.Proofs.Json.Bare
import RustdocIndex.Proofs.Link.ForeignParents
import RustdocIndex.Proofs.Literal.Declaration
import RustdocIndex.Proofs.Payload.Declared
import RustdocIndex.Proofs.Version.Reading
import RustdocIndex.Proofs.Payload.Recorded
import RustdocIndex.Proofs.Web.Download
import RustdocIndex.Proofs.Link.Identity
import RustdocIndex.Proofs.Web.Fetch
import RustdocIndex.Proofs.Web.Identities
import RustdocIndex.Proofs.CommandLine.Offline
import RustdocIndex.Proofs.Text.WellFormed
import RustdocIndex.Proofs.Json.Printing
import RustdocIndex.Proofs.CommandLine.Report
import RustdocIndex.Proofs.Link.Address
import RustdocIndex.Proofs.Web.Uncaught
import RustdocIndex.Proofs.CommandLine.Containment
import RustdocIndex.Proofs.Literal.Rendering
import RustdocIndex.Proofs.Literal.References
import RustdocIndex.Proofs.Literal.Variables
import RustdocIndex.Proofs.Link.Page
import RustdocIndex.Proofs.Payload.InRange
import RustdocIndex.Proofs.Web.Outcome
import RustdocIndex.Proofs.Web.Requests
import RustdocIndex.Proofs.Web.PageVersion
import RustdocIndex.Proofs.Literal.Place
import RustdocIndex.Proofs.Payload.Attribution
import RustdocIndex.Proofs.Literal.Composition
import RustdocIndex.Proofs.Schema.RoundTrip
import RustdocIndex.Proofs.Literal.Rounds
import RustdocIndex.Proofs.Payload.ModulePaths
import RustdocIndex.Proofs.Schema.Reported
