import ImportCensus.Files.Description
import ImportCensus.Main
import ImportCensus.Proofs.Census.Outcome
import ImportCensus.Proofs.Census.Addition
import ImportCensus.Proofs.Census.Narrowing
import ImportCensus.Proofs.Census.Registration
import ImportCensus.Proofs.Files.WellFormed
import ImportCensus.Proofs.Project.Walk
import ImportCensus.Proofs.Glob.Below
import ImportCensus.Proofs.Project.Coverage
import ImportCensus.Proofs.Project.Exclusion
import ImportCensus.Proofs.Project.Pruning
import ImportCensus.Proofs.Skeleton.Blocks
import ImportCensus.Proofs.Skeleton.RoundTrip
import ImportCensus.Proofs.CommandLine.Configuration
import ImportCensus.Proofs.Census.Asking
import ImportCensus.Proofs.Census.Ignoring
import ImportCensus.Proofs.CommandLine.Escaping
import ImportCensus.Proofs.Census.Decoding
import ImportCensus.Proofs.Census.Reduction
import ImportCensus.Proofs.Project.Lookups
import ImportCensus.Proofs.Project.Relisting
import ImportCensus.Proofs.Legacy.Verdict
import ImportCensus.Proofs.Config.Schema
import ImportCensus.Proofs.Census.Sharing
import ImportCensus.Proofs.Report.Serialized
import ImportCensus.Proofs.Syntax.Walk
import ImportCensus.Proofs.Number.Nearest
import ImportCensus.Proofs.Report.Elapsed
