import FlatRecord.Record.Eval
import FlatRecord.Record.Typed
import FlatRecord.Row
import FlatRecord.Proofs.Evaluation.Correspondence
import FlatRecord.Proofs.Record.Faithful
import FlatRecord.Proofs.Record.Operation
import FlatRecord.Proofs.Flat.Leaves
import FlatRecord.Proofs.Flat.Rebuild
import FlatRecord.Proofs.Value.Ordered
import FlatRecord.Proofs.Flat.RoundTrip
import FlatRecord.Proofs.Record.Coherent
import FlatRecord.Proofs.Record.Relevance
import FlatRecord.Proofs.Record.Reuse
import FlatRecord.Proofs.Binary64.Rounding
import FlatRecord.Proofs.Decimal.Shortest
import FlatRecord.Proofs.Decimal.Text
import FlatRecord.Proofs.Record.Reload
import FlatRecord.Proofs.Record.StoredArray
import FlatRecord.Proofs.Record.TypedRead
import FlatRecord.Proofs.Evaluation.Duality
import FlatRecord.Proofs.Json.Nesting
import FlatRecord.Proofs.Value.DirectText
import FlatRecord.Proofs.Query.Document
import FlatRecord.Proofs.Record.Unresolved
import FlatRecord.Proofs.Record.DepthLimit
import FlatRecord.Proofs.Record.Regrouping
import FlatRecord.Proofs.Record.Reordering
import FlatRecord.Proofs.Record.Expansion
import FlatRecord.Proofs.Record.Answered
import FlatRecord.Proofs.Flat.Kept
import FlatRecord.Proofs.Record.Integers
import FlatRecord.Proofs.Binary64.Whole
import FlatRecord.Proofs.Value.Whole
import FlatRecord.Proofs.Record.Remainder
import FlatRecord.Proofs.Record.WholeReading
import FlatRecord.Proofs.Value.Comparison
import FlatRecord.Proofs.Value.Spelled
import FlatRecord.Proofs.Record.Spelled
import FlatRecord.Proofs.Record.Untyped
import FlatRecord.Proofs.Like.Covering
import FlatRecord.Proofs.Flat.Writing
import FlatRecord.Proofs.Shape.Located
import FlatRecord.Proofs.Shape.Stopping
import FlatRecord.Proofs.Shape.UnreadText
