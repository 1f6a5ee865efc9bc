import EntitySchema.Document.Spans
import EntitySchema.Main
import EntitySchema.Proofs.Ambiguity
import EntitySchema.Proofs.Blocks
import EntitySchema.Proofs.Breakdown
import EntitySchema.Proofs.Composition
import EntitySchema.Proofs.ImportedNames
import EntitySchema.Proofs.Loading
import EntitySchema.Proofs.MissingType
import EntitySchema.Proofs.NestedLists
import EntitySchema.Proofs.Order
import EntitySchema.Proofs.RelocatedFindings
import EntitySchema.Proofs.RenamedFindings
import EntitySchema.Proofs.Reports
import EntitySchema.Proofs.Routes
import EntitySchema.Proofs.SecondOccurrence
import EntitySchema.Proofs.Target
import EntitySchema.Proofs.UnknownTarget
import EntitySchema.Proofs.Hints
import EntitySchema.Proofs.ImportReport
import EntitySchema.Proofs.ParsedLayout
import EntitySchema.Proofs.Positions
import EntitySchema.Proofs.PlainLines
import EntitySchema.Proofs.Readings
import EntitySchema.Proofs.IntegerWidths
import EntitySchema.Proofs.SchemaPath
import EntitySchema.Proofs.ManifestFields
import EntitySchema.Proofs.WholeNames
import EntitySchema.Proofs.LineEnds
import EntitySchema.Proofs.PrintedTypes
