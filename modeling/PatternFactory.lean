import PatternFactory.Declaration.Validation
import PatternFactory.Generation.Files
import PatternFactory.Generation.Store
import PatternFactory.Main
import PatternFactory.Pattern
import PatternFactory.Proofs.Calls
import PatternFactory.Proofs.Collecting
import PatternFactory.Proofs.Confinement
import PatternFactory.Proofs.Course
import PatternFactory.Proofs.DerivedNames
import PatternFactory.Proofs.DiagnosticOrder
import PatternFactory.Proofs.Discovered
import PatternFactory.Proofs.Factories
import PatternFactory.Proofs.FailStop
import PatternFactory.Proofs.FirstRound
import PatternFactory.Proofs.Fixpoint
import PatternFactory.Proofs.GrammarKeeping
import PatternFactory.Proofs.Growth
import PatternFactory.Proofs.Identity
import PatternFactory.Proofs.ItemNames
import PatternFactory.Proofs.Keeping
import PatternFactory.Proofs.List
import PatternFactory.Proofs.ModulePaths
import PatternFactory.Proofs.NameParts
import PatternFactory.Proofs.NearestConfig
import PatternFactory.Proofs.OneRound
import PatternFactory.Proofs.Order
import PatternFactory.Proofs.PathParts
import PatternFactory.Proofs.Preview
import PatternFactory.Proofs.Reading
import PatternFactory.Proofs.Regeneration
import PatternFactory.Proofs.Repetition
import PatternFactory.Proofs.RoundLimit
import PatternFactory.Proofs.SourceOrder
import PatternFactory.Proofs.SourceScan
import PatternFactory.Proofs.Storing
import PatternFactory.Proofs.Transfer
import PatternFactory.Proofs.UnitFiles
import PatternFactory.Proofs.UnitItems
import PatternFactory.Proofs.Unrenderable
import PatternFactory.Proofs.ValidConfig
import PatternFactory.Proofs.Visits
import PatternFactory.Proofs.Ways
import PatternFactory.Proofs.Words
import PatternFactory.Proofs.WrittenNames
import PatternFactory.Proofs.Matching
import PatternFactory.Proofs.Locality
import PatternFactory.Proofs.Mentions
import PatternFactory.Proofs.SelfResolution
import PatternFactory.Proofs.Hygiene
import PatternFactory.Proofs.FactoryNames
import PatternFactory.Proofs.Violations
import PatternFactory.Proofs.Diagnostics
import PatternFactory.Proofs.Atomicity
