import EnvAudit.Main
import EnvAudit.Config.Encode
import EnvAudit.Proofs.Check.Order
import EnvAudit.Proofs.Program.ExitCode
import EnvAudit.Proofs.Gathering
import EnvAudit.Proofs.Check.Outcome
import EnvAudit.Proofs.Check.Policies
import EnvAudit.Proofs.Files.Reached
import EnvAudit.Proofs.Walk.Alike
import EnvAudit.Proofs.Check.Overlooked
import EnvAudit.Proofs.Config.Layers
import EnvAudit.Proofs.Check.Classification
import EnvAudit.Proofs.Check.SingleText
import EnvAudit.Proofs.Check.Events
import EnvAudit.Proofs.Session
import EnvAudit.Proofs.Program.EnvFile
import EnvAudit.Proofs.Report.Lossless
import EnvAudit.Proofs.Config.RoundTrip
import EnvAudit.Proofs.Tree.Visits
import EnvAudit.Proofs.Reference.Matching
import EnvAudit.Proofs.Reference.SourceOrder
import EnvAudit.Proofs.Ignore.Layers
import EnvAudit.Proofs.Tree.Defects
import EnvAudit.Proofs.Reference.Beginning
import EnvAudit.Proofs.Reference.Comments
import EnvAudit.Proofs.CommandLine.Reading
import EnvAudit.Proofs.Program.NamedEnvFile
import EnvAudit.Proofs.Config.Extensions
import EnvAudit.Proofs.Ignore.Unreadable
import EnvAudit.Proofs.Files.Gap
import EnvAudit.Proofs.Walk.Inert
import EnvAudit.Proofs.Files.SameTree
import EnvAudit.Proofs.Check.Placement
import EnvAudit.Proofs.CommandLine.Writing
import EnvAudit.Proofs.Config.ExtensionLayers
import EnvAudit.Proofs.Walk.Cycles
