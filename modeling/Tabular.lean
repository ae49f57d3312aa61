import Tabular.Main
import Tabular.Kernel.Binary
import Tabular.Storage.Memory
import Tabular.Storage.Replay
import Tabular.Proofs.Outcome
import Tabular.Proofs.Script
import Tabular.Proofs.Typing
import Tabular.Proofs.Rows
import Tabular.Proofs.Selection
import Tabular.Proofs.Evaluation
import Tabular.Proofs.Meaning
import Tabular.Proofs.Compilation
import Tabular.Proofs.Stages
import Tabular.Proofs.Answers
import Tabular.Proofs.Wildcard
import Tabular.Proofs.Recorded
import Tabular.Proofs.Planning
import Tabular.Proofs.Executors
import Tabular.Proofs.Reading
import Tabular.Proofs.Discovered
import Tabular.Proofs.Chunking
import Tabular.Proofs.Utf8
import Tabular.Proofs.Numerals
import Tabular.Proofs.Lines
import Tabular.Proofs.Written
import Tabular.Proofs.Parts
import Tabular.Proofs.Columnwise
import Tabular.Proofs.Snapshots
import Tabular.Proofs.Scanned
import Tabular.Proofs.Parsed
import Tabular.Proofs.Lossless
import Tabular.Proofs.Nulls
import Tabular.Proofs.Registrations
import Tabular.Proofs.Headers
import Tabular.Proofs.Listing
import Tabular.Proofs.FreshNumbers
import Tabular.Proofs.Cellwise
import Tabular.Proofs.Integers
import Tabular.Proofs.Comparisons
import Tabular.Proofs.Deliveries
import Tabular.Proofs.Propagation
import Tabular.Proofs.Masks
import Tabular.Proofs.Filtering
import Tabular.Proofs.Lowering
import Tabular.Proofs.Appending
import Tabular.Proofs.Spelling
import Tabular.Proofs.Retyping
import Tabular.Proofs.Visits
import Tabular.Proofs.Signs
import Tabular.Proofs.Checking
import Tabular.Proofs.Layout
import Tabular.Proofs.Printing
