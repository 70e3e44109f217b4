import IndexerSettings.Files.Tree
import IndexerSettings.Main
import IndexerSettings.Settings.Inspection
import IndexerSettings.Proofs.CommandLine.DriftBound
import IndexerSettings.Proofs.CommandLine.FirstFault
import IndexerSettings.Proofs.CommandLine.Secrecy
import IndexerSettings.Proofs.Schema.Difference
import IndexerSettings.Proofs.Schema.Reordering
import IndexerSettings.Proofs.Source.RoundTrip
import IndexerSettings.Proofs.Validation.FilterFile
import IndexerSettings.Proofs.Source.FirstMisfit
import IndexerSettings.Proofs.CommandLine.Origins
import IndexerSettings.Proofs.Schema.Composition
import IndexerSettings.Proofs.Schema.Uniqueness
import IndexerSettings.Proofs.Source.ValueTexts
import IndexerSettings.Proofs.Settings.Rows
import IndexerSettings.Proofs.Source.Replaying
import IndexerSettings.Proofs.Decimal.Rounding
import IndexerSettings.Proofs.Decimal.Search
import IndexerSettings.Proofs.Decimal.Notation
