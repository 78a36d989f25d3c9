import ContextQuery.Main
import ContextQuery.Proofs.Field.Answers
import ContextQuery.Proofs.Field.Contained
import ContextQuery.Proofs.Select.Atoms
import ContextQuery.Proofs.Select.Contained
import ContextQuery.Proofs.Select.Meaning
import ContextQuery.Proofs.Query.Grammar
import ContextQuery.Proofs.Query.Readers
import ContextQuery.Proofs.Query.Soundness
import ContextQuery.Proofs.Query.Completeness
import ContextQuery.Proofs.Query.Combined
import ContextQuery.Proofs.Query.Height
import ContextQuery.Proofs.Query.Parts
import ContextQuery.Proofs.Query.Rendering
import ContextQuery.Proofs.Query.RoundTrip
import ContextQuery.Proofs.Query.Reread
import ContextQuery.Proofs.Select.Conjunction
import ContextQuery.Proofs.Sql.Value
import ContextQuery.Proofs.Text.Wildcards
import ContextQuery.Proofs.Field.Masked
import ContextQuery.Proofs.Select.Exact
import ContextQuery.Proofs.Schema.Identifiers
import ContextQuery.Proofs.Command.Source
import ContextQuery.Proofs.Query.Sorts
import ContextQuery.Proofs.Select.Order
import ContextQuery.Proofs.Query.Case
import ContextQuery.Proofs.Command.Printed
import ContextQuery.Proofs.Select.Case
import ContextQuery.Proofs.Select.Faults
import ContextQuery.Proofs.Field.Whole
import ContextQuery.Proofs.Token.Positions
import ContextQuery.Proofs.Token.Division
import ContextQuery.Proofs.Query.Faults
import ContextQuery.Proofs.Calendar
import ContextQuery.Proofs.Field.Timestamp
import ContextQuery.Proofs.Field.Widened
import ContextQuery.Proofs.Field.Values
import ContextQuery.Proofs.Registry
import ContextQuery.Proofs.Registry.Additions
import ContextQuery.Proofs.Config.Build
import ContextQuery.Proofs.Json.Reads
import ContextQuery.Proofs.Config.RoundTrip
import ContextQuery.Proofs.Select.SortKeys
