import RecordGen.Main
import RecordGen.Proofs.Command.Reports
import RecordGen.Proofs.Command.Runs
import RecordGen.Proofs.Command.Ways
import RecordGen.Proofs.Files.Calls
import RecordGen.Proofs.Formatter.Sequences
import RecordGen.Proofs.Name.Stability
import RecordGen.Proofs.Name.Stem
import RecordGen.Proofs.Record.Attributes
import RecordGen.Proofs.Record.Canonical
import RecordGen.Proofs.Record.Containment
import RecordGen.Proofs.Record.Dependence
import RecordGen.Proofs.Record.Preamble
import RecordGen.Proofs.Schema.Documents
import RecordGen.Proofs.Schema.Encodings
import RecordGen.Proofs.Schema.Paths
import RecordGen.Proofs.Settings.RoundTrip
import RecordGen.Proofs.Settings.UnknownMembers
