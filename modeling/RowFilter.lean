import RowFilter.Binary64.Reader
import RowFilter.Json.Printer
import RowFilter.Json.Reader
import RowFilter.Value.Agreement
import RowFilter.Value.Typed
import RowFilter.Predicate.Agreement
import RowFilter.Predicate.JsonForm
import RowFilter.Criteria.Schema
import RowFilter.Access.Service
import RowFilter.Page.Request
import RowFilter.Journal.Narration
import RowFilter.Record.FieldTable
import RowFilter.Settings
import RowFilter.Statement
import RowFilter.Proofs.Access.Visibility
import RowFilter.Proofs.Sql.Skeleton
import RowFilter.Proofs.Sql.Traversal
import RowFilter.Proofs.Access.Canonical
import RowFilter.Proofs.Access.Distance
import RowFilter.Proofs.Access.Refusal
import RowFilter.Proofs.Access.Suitability
import RowFilter.Proofs.Access.Unrestricted
import RowFilter.Proofs.Criteria.Refusal
import RowFilter.Proofs.Predicate.Storage
import RowFilter.Proofs.Settings.Usability
import RowFilter.Proofs.Page.Partition
import RowFilter.Proofs.Predicate.Constancy
import RowFilter.Proofs.Sql.Pattern
import RowFilter.Proofs.Record.Repetition
import RowFilter.Proofs.Page.Sorting
import RowFilter.Proofs.Settings.Paging
import RowFilter.Proofs.Text.NormalForm
import RowFilter.Proofs.Settings.Expansion
import RowFilter.Proofs.Settings.Place
import RowFilter.Proofs.Criteria.Search
import RowFilter.Proofs.Binary64.Whole
import RowFilter.Proofs.Value.Reading
import RowFilter.Proofs.Operator.Naming
import RowFilter.Proofs.Criteria.Descriptor
