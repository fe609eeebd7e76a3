import RecordQuery.Filter.Description
import RecordQuery.Main
import RecordQuery.Proofs.Command.Filtering
import RecordQuery.Proofs.Condition.Comparison
import RecordQuery.Proofs.Condition.Irreflexive
import RecordQuery.Proofs.Condition.Listing
import RecordQuery.Proofs.Condition.Membership
import RecordQuery.Proofs.Engine.Layout
import RecordQuery.Proofs.Engine.Literal
import RecordQuery.Proofs.Engine.Searching
import RecordQuery.Proofs.FieldInfo.Offers
import RecordQuery.Proofs.Filter.Closed
import RecordQuery.Proofs.Filter.Operands
import RecordQuery.Proofs.Query.Cuts
import RecordQuery.Proofs.Query.Parentheses
import RecordQuery.Proofs.Query.Quotation.Reading
import RecordQuery.Proofs.Report.Console
import RecordQuery.Proofs.Report.Export
import RecordQuery.Proofs.Settings
import RecordQuery.Proofs.Source.Cells
import RecordQuery.Proofs.Table.Replacement
import RecordQuery.Proofs.Value.Equality
