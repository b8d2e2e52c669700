import ClusterSchema.Command.Encoding
import ClusterSchema.Config.Encoding
import ClusterSchema.Config.Yaml
import ClusterSchema.Document.Json
import ClusterSchema.Main
import ClusterSchema.Proofs.Cli.Compiling
import ClusterSchema.Proofs.Cli.Listing
import ClusterSchema.Proofs.Cli.Reports
import ClusterSchema.Proofs.Client.Dialing
import ClusterSchema.Proofs.Client.Entries
import ClusterSchema.Proofs.Client.Settings
import ClusterSchema.Proofs.Client.Tables
import ClusterSchema.Proofs.Command.Encodings
import ClusterSchema.Proofs.Config.Encodings
import ClusterSchema.Proofs.Date.Chronology
import ClusterSchema.Proofs.Date.Failures
import ClusterSchema.Proofs.Date.Formats
import ClusterSchema.Proofs.Date.Sorting
import ClusterSchema.Proofs.Dialect.Features
import ClusterSchema.Proofs.Dialect.Identifiers
import ClusterSchema.Proofs.Dialect.Prefixes
import ClusterSchema.Proofs.Dialect.Shapes
import ClusterSchema.Proofs.Dialect.Statements
import ClusterSchema.Proofs.Document.Repeated
import ClusterSchema.Proofs.Driver.Aliases
import ClusterSchema.Proofs.Race.Handles
import ClusterSchema.Proofs.Race.OneSlot
import ClusterSchema.Proofs.Race.Waiting
import ClusterSchema.Proofs.Race.Winners
import ClusterSchema.Proofs.Resolve.Ends
import ClusterSchema.Proofs.Resolve.InTurn
import ClusterSchema.Proofs.Session.Exchanges
import ClusterSchema.Proofs.TestCase.Filters
import ClusterSchema.Proofs.TestCase.Verdicts
import ClusterSchema.Rehearsal.Node
import ClusterSchema.Rehearsal.Plan
import ClusterSchema.Rehearsal.Session
import ClusterSchema.Sql.Reading
import ClusterSchema.Sql.Regions
import ClusterSchema.TestCase.Loading
