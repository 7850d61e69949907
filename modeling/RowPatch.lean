import RowPatch.Binding.Basic
import RowPatch.Call.Session
import RowPatch.Proofs.Schema.Acceptance
import RowPatch.Proofs.Schema.Bare
import RowPatch.Proofs.Schema.ErrorFree
import RowPatch.Proofs.Schema.Preorder
import RowPatch.Proofs.Schema.Coercion
import RowPatch.Proofs.Schema.Marks
import RowPatch.Proofs.Schema.Union
import RowPatch.Proofs.Schema.Supremum
import RowPatch.Proofs.Schema.Absorption
import RowPatch.Proofs.Schema.Names
import RowPatch.Proofs.Schema.Remnant
import RowPatch.Proofs.Schema.Positions
import RowPatch.Proofs.Schema.Conversion
import RowPatch.Proofs.Schema.ConversionTable
import RowPatch.Proofs.Schema.Paths
import RowPatch.Proofs.Schema.MissingFields
import RowPatch.Proofs.Schema.Clashes
import RowPatch.Proofs.Schema.Symmetry
import RowPatch.Proofs.Schema.Grouping
import RowPatch.Proofs.Schema.Dates
import RowPatch.Proofs.Value.Merge
import RowPatch.Proofs.Value.FieldList
import RowPatch.Proofs.Value.MergeOrder
import RowPatch.Proofs.Value.Indexed
import RowPatch.Proofs.Value.Equality
import RowPatch.Proofs.Table.Matching
import RowPatch.Proofs.Table.Rows
import RowPatch.Proofs.Table.Failures
import RowPatch.Proofs.Table.Selection
import RowPatch.Proofs.Table.Composition
import RowPatch.Proofs.Table.Stores
import RowPatch.Proofs.Table.Protected
import RowPatch.Proofs.Table.Reordering
import RowPatch.Proofs.Binding.Inspection
import RowPatch.Proofs.Binding.Verdict
import RowPatch.Proofs.Binding.Validity
import RowPatch.Proofs.Binding.Contributions
import RowPatch.Proofs.Binding.Independence
import RowPatch.Proofs.Binding.Conversions
import RowPatch.Proofs.Binding.Soundness
import RowPatch.Proofs.Binding.Blame
import RowPatch.Proofs.Binding.Switching
import RowPatch.Proofs.Binding.Relaxing
import RowPatch.Proofs.Binding.Stability
import RowPatch.Proofs.Binding.Findings
import RowPatch.Proofs.Binding.UnknownFields
import RowPatch.Proofs.Binding.ReadOnlyColumns
import RowPatch.Proofs.Binding.Writes
import RowPatch.Proofs.Report.Documents
import RowPatch.Proofs.Call.BoundCall
import RowPatch.Proofs.Call.Outcome
import RowPatch.Proofs.Call.OneRow
import RowPatch.Proofs.Call.Successive
import RowPatch.Proofs.Call.Lifetime
import RowPatch.Proofs.Call.Reuse
