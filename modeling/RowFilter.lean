import RowFilter.Journal
import RowFilter.Main
import RowFilter.Proofs.Config.History
import RowFilter.Proofs.Config.Writing
import RowFilter.Proofs.Filter.Narrowing
import RowFilter.Proofs.Filter.Skeleton
import RowFilter.Proofs.Filter.Writing
import RowFilter.Proofs.Config.Conflict
import RowFilter.Proofs.Config.Reading
import RowFilter.Proofs.Config.Piecewise
import RowFilter.Proofs.Config.Reachable
import RowFilter.Proofs.Config.Concatenation
import RowFilter.Proofs.Config.Sentence
import RowFilter.Proofs.Filter.Layout
import RowFilter.Proofs.Config.Layout
import RowFilter.Proofs.Filter.Fault
import RowFilter.Proofs.Filter.InPlace
import RowFilter.Proofs.Filter.Acceptance
import RowFilter.Proofs.Filter.Frame
import RowFilter.Proofs.Filter.Policy
import RowFilter.Proofs.Query.Accumulation
import RowFilter.Proofs.Query.Rendering
import RowFilter.Proofs.Filter.Splitting
import RowFilter.Proofs.Filter.Display
import RowFilter.Proofs.Filter.Sentence
import RowFilter.Proofs.Filter.Viable
import RowFilter.Proofs.Config.Viable
import RowFilter.Proofs.Config.Merge.Remains
import RowFilter.Proofs.Config.Merge.Regrouping
import RowFilter.Proofs.Config.Rearrangement
import RowFilter.Proofs.Config.Lines
import RowFilter.Proofs.Config.Spans
import RowFilter.Proofs.Interruption
import RowFilter.Proofs.Command.Modes
import RowFilter.Proofs.Text.Escaping
