import Tabular.Value.Compare
import Tabular.Catalog
import Tabular.Query.Structured
import Tabular.Sql.Run
import Tabular.Request
import Tabular.Service
import Tabular.Listing
import Tabular.Interchange.Request
import Tabular.Csv.Dataset
import Tabular.Storage.Folder
import Tabular.Settings.Load
import Tabular.Command.Run
import Tabular.Main
import Tabular.Proofs.Value.Order
import Tabular.Proofs.Sql.Structured
import Tabular.Proofs.Sql.Reading
import Tabular.Proofs.Sql.Resident
import Tabular.Proofs.Query.Key
import Tabular.Proofs.Query.Shape
import Tabular.Proofs.Interchange.RoundTrip
import Tabular.Proofs.Number.Exact
import Tabular.Proofs.Query.Columns
import Tabular.Proofs.Catalog.History
import Tabular.Proofs.Csv.Typed
import Tabular.Proofs.Query.Counts
import Tabular.Proofs.Service.Cap
import Tabular.Proofs.Csv.Reach
import Tabular.Proofs.Storage.Loading
import Tabular.Proofs.Interchange.Routing
import Tabular.Proofs.Query.Comparison
import Tabular.Proofs.Query.Sorted
import Tabular.Proofs.Query.Groups
import Tabular.Proofs.Query.Literal
import Tabular.Proofs.Query.Whole
import Tabular.Proofs.Query.GroupFilter
import Tabular.Proofs.Query.Extremes
import Tabular.Proofs.Dataset.Columns
import Tabular.Proofs.Interchange.Lenient
import Tabular.Proofs.Query.Effective
import Tabular.Proofs.Interchange.Limit
import Tabular.Proofs.Value.Numeral
import Tabular.Proofs.Value.Display
import Tabular.Proofs.Sql.Call
import Tabular.Proofs.Query.Unordered
import Tabular.Proofs.Text.LowerCase
import Tabular.Proofs.Value.Collation
import Tabular.Proofs.Settings.Environment
import Tabular.Proofs.Sql.Selection
import Tabular.Proofs.Row.FiniteMap
import Tabular.Proofs.Command.Shell
