import JsonShape.Main
import JsonShape.Proofs.Shape.Meaning
import JsonShape.Proofs.Shape.Alike
import JsonShape.Proofs.Survey.Reload
import JsonShape.Proofs.Survey.Soundness
import JsonShape.Proofs.Schema.Fitting
import JsonShape.Proofs.Shape.Join
import JsonShape.Proofs.Shape.Muted
import JsonShape.Proofs.CommandLine.Frame
import JsonShape.Proofs.CommandLine.Job
import JsonShape.Proofs.Shape.Stability
import JsonShape.Proofs.Schema.Exactness
import JsonShape.Proofs.Schema.Depiction
import JsonShape.Proofs.Shape.Nodes
import JsonShape.Proofs.Shape.Realization
import JsonShape.Proofs.RecordPath.Wildcards
import JsonShape.Proofs.Records.Lines
import JsonShape.Proofs.TextFormat.Calendar
import JsonShape.Proofs.Survey.Forms
import JsonShape.Proofs.TextFormat.DigitExpressions
import JsonShape.Proofs.TextFormat.LabelExpressions
import JsonShape.Proofs.TextFormat.Script
import JsonShape.Proofs.Uri.Authority
import JsonShape.Proofs.Shape.Integers
import JsonShape.Proofs.Schema.Nullable
import JsonShape.Proofs.Schema.Codec
import JsonShape.Proofs.Snapshot.Documents
import JsonShape.Proofs.Settings.Rereading
import JsonShape.Proofs.Interval.Union
import JsonShape.Proofs.Survey.Keys
