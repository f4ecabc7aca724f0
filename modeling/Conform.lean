import Conform.Changeset
import Conform.Regex.Recognition
import Conform.Schema.Build
import Conform.Spec.Builtin
import Conform.Validation
import Conform.Proofs.Schema.Collection
import Conform.Proofs.Schema.Validated
import Conform.Proofs.Validation
import Conform.Proofs.Path.Growth
import Conform.Proofs.Path.Spelling
import Conform.Proofs.Schema.Independence
import Conform.Proofs.Schema.Noninterference
import Conform.Proofs.Schema.Under
import Conform.Proofs.Schema.Items
import Conform.Proofs.Schema.Build
import Conform.Proofs.Spec.Compilation
import Conform.Proofs.Schema.Entries
import Conform.Proofs.Schema.Overlap
import Conform.Proofs.Schema.Reordering
import Conform.Proofs.Schema.Answers
import Conform.Proofs.Schema.Truncation
import Conform.Proofs.Schema.FirstError
import Conform.Proofs.Path.Cuts
import Conform.Proofs.Schema.Reachable
import Conform.Proofs.Report.Reachable
import Conform.Proofs.Rule.Absence
import Conform.Proofs.Spec.Bindings
import Conform.Proofs.Spec.Builtin
import Conform.Proofs.Schema.Traced
import Conform.Proofs.Number.Rounding
import Conform.Proofs.Rule.Size
import Conform.Proofs.Path.DocumentOrder
import Conform.Proofs.Schema.Unknown
import Conform.Proofs.Report.Merge
import Conform.Proofs.Schema.Flat
import Conform.Proofs.Text.Template
import Conform.Proofs.Rule.Rendering
import Conform.Proofs.Text.Interpolation
import Conform.Proofs.Rule.Range
import Conform.Proofs.Regex.Language
import Conform.Proofs.Rule.Email
import Conform.Proofs.Spec.Changes
import Conform.Proofs.Path.Offsets
import Conform.Proofs.Schema.Running
