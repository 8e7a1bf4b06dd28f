import Allowlist.Text.Blank
import Allowlist.Text.Case
import Allowlist.Text.Quoted
import Allowlist.Text.Utf8
import Allowlist.Binary64.Notation
import Allowlist.Binary64.Reader
import Allowlist.Time.Reader
import Allowlist.Uuid
import Allowlist.Json.Decode
import Allowlist.Value.Coercion
import Allowlist.Value.Json
import Allowlist.Predicate.Operator
import Allowlist.Predicate.Like
import Allowlist.Predicate.Eval
import Allowlist.Config.Json
import Allowlist.Params.Input
import Allowlist.Listing.Query
import Allowlist.Listing.Page
import Allowlist.Store.Insertion
import Allowlist.Store.Memory
import Allowlist.Http.Route
import Allowlist.Sql.Statement
import Allowlist.Config.Yaml
import Allowlist.Yaml.Scalar
import Allowlist.Yaml.Token.Lexer
import Allowlist.Yaml.Document
import Allowlist.Proofs.Listing.Walk
import Allowlist.Proofs.Listing.Narrowing
import Allowlist.Proofs.Predicate.Agreement
import Allowlist.Proofs.Predicate.Like
import Allowlist.Proofs.Sql.Meaning
import Allowlist.Proofs.Sql.Shape
import Allowlist.Proofs.Listing.Statement
import Allowlist.Proofs.Binary64.Rounding
import Allowlist.Proofs.Value.Uuid
import Allowlist.Proofs.Value.Order
import Allowlist.Proofs.Store.RecordOrder
import Allowlist.Proofs.Store.Writes
import Allowlist.Proofs.Store.History
import Allowlist.Proofs.Store.Selection
import Allowlist.Proofs.Listing.Inserts
import Allowlist.Proofs.Entries
import Allowlist.Proofs.Config.Clauses
import Allowlist.Proofs.Listing.Bounds
import Allowlist.Proofs.Listing.Independence
import Allowlist.Proofs.Listing.Total
import Allowlist.Proofs.Listing.Closing
import Allowlist.Proofs.Params.Form
import Allowlist.Proofs.Params.Sources
import Allowlist.Proofs.Listing.PageNumbers
import Allowlist.Proofs.Sql.Names
import Allowlist.Proofs.Sql.Numbering
import Allowlist.Proofs.Listing.Boundary
import Allowlist.Proofs.Listing.Membership
import Allowlist.Proofs.Listing.Substring
import Allowlist.Proofs.Listing.Exactness
import Allowlist.Proofs.Listing.Calls
import Allowlist.Proofs.Config.Merge
import Allowlist.Proofs.Config.Validation
import Allowlist.Proofs.Listing.Echo
import Allowlist.Proofs.Value.Json
import Allowlist.Proofs.Json.Decode
import Allowlist.Proofs.Json.Records
import Allowlist.Proofs.Value.Compare
import Allowlist.Proofs.Text.Utf8
import Allowlist.Proofs.Params.Escape
