import LinkPlanner.Link.Edit
import LinkPlanner.Main
import LinkPlanner.Proofs.AbsoluteDirectories
import LinkPlanner.Proofs.AcyclicPlan
import LinkPlanner.Proofs.ArchiveMembers
import LinkPlanner.Proofs.ArchivesConsumed
import LinkPlanner.Proofs.Atomicity
import LinkPlanner.Proofs.BackendUniqueness
import LinkPlanner.Proofs.ClosedPlans
import LinkPlanner.Proofs.CollectedInputs
import LinkPlanner.Proofs.ConfiguredActions
import LinkPlanner.Proofs.DebugFiles
import LinkPlanner.Proofs.DeclaredArtifacts
import LinkPlanner.Proofs.DynamicLibraries
import LinkPlanner.Proofs.FirstGiven
import LinkPlanner.Proofs.HeldInputs
import LinkPlanner.Proofs.IndexerView
import LinkPlanner.Proofs.LibraryCalls
import LinkPlanner.Proofs.LibraryOrder
import LinkPlanner.Proofs.LinkOrder
import LinkPlanner.Proofs.LinkstampObjects
import LinkPlanner.Proofs.MappedBitcode
import LinkPlanner.Proofs.NamedFiles
import LinkPlanner.Proofs.NamedLibraries
import LinkPlanner.Proofs.NativeInputs
import LinkPlanner.Proofs.PathReplacement
import LinkPlanner.Proofs.PrivateFiles
import LinkPlanner.Proofs.RegisteredCompiles
import LinkPlanner.Proofs.RequestFailures
import LinkPlanner.Proofs.RuntimePaths
import LinkPlanner.Proofs.SharedAcrossLinks
import LinkPlanner.Proofs.SharedLibraryNames
import LinkPlanner.Proofs.Sonames
import LinkPlanner.Proofs.UniqueBackends
import LinkPlanner.Proofs.WholeArchives
import LinkPlanner.Proofs.WithoutBitcode
import LinkPlanner.Proofs.WrittenOptions
import LinkPlanner.Text.Quoted
