import ChartParams.CommandLine.Commands
import ChartParams.Main
import ChartParams.Schema.Same
import ChartParams.Proofs.Json.Members
import ChartParams.Proofs.Json.Places
import ChartParams.Proofs.Json.Writing
import ChartParams.Proofs.Json.LastWriter
import ChartParams.Proofs.Json.Reading
import ChartParams.Proofs.Params.Assembly
import ChartParams.Proofs.Params.Writes
import ChartParams.Proofs.Params.Construction
import ChartParams.Proofs.Params.Overlay
import ChartParams.Proofs.Format.Record
import ChartParams.Proofs.Quantity.Units
import ChartParams.Proofs.Knob.ReadBack
import ChartParams.Proofs.Params.Assignment
import ChartParams.Proofs.Params.ReadBack
import ChartParams.Proofs.Params.Normalisation
import ChartParams.Proofs.Schema.Defaults
import ChartParams.Proofs.Lint.Walk
import ChartParams.Proofs.Json.Leaves
import ChartParams.Proofs.Knob.Warnings
import ChartParams.Proofs.Lint.Construction
import ChartParams.Proofs.Lint.Extraction
import ChartParams.Proofs.Json.Editing
import ChartParams.Proofs.Json.Setting
import ChartParams.Proofs.Format.RoundTrip
import ChartParams.Proofs.Lint.Footprint
import ChartParams.Proofs.Params.RoundTrip
import ChartParams.Proofs.Schema.RoundTrip
import ChartParams.Proofs.Json.Splitting
import ChartParams.Proofs.Json.Sameness
import ChartParams.Proofs.Json.WriteLaws
import ChartParams.Proofs.Json.Deleting
import ChartParams.Proofs.Json.MergeOrder
import ChartParams.Proofs.Json.Combining
import ChartParams.Proofs.Overrides
import ChartParams.Proofs.Quantity.Grammar
import ChartParams.Proofs.Quantity.Limits
import ChartParams.Proofs.Quantity.Rounding
import ChartParams.Proofs.Quantity.Conversion
import ChartParams.Proofs.Knob.Amounts
import ChartParams.Proofs.Lint.Accounting
import ChartParams.Proofs.Params.Pruning
import ChartParams.Proofs.Format.Faults
import ChartParams.Proofs.Schema.Strictness
import ChartParams.Proofs.Json.Extension
import ChartParams.Proofs.Json.RoundTrip
import ChartParams.Proofs.Numeric.Integers
import ChartParams.Proofs.Payload.Agreement
import ChartParams.Proofs.Payload.Input
import ChartParams.Proofs.Knob.Degradation
import ChartParams.Proofs.Payload.Rewriting
import ChartParams.Proofs.CommandLine.ExitCodes
