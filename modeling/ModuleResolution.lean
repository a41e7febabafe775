import ModuleResolution.Command.Run
import ModuleResolution.Dependency.Load
import ModuleResolution.Dependency.Sync
import ModuleResolution.Directive.Lookup
import ModuleResolution.Directive.Scan
import ModuleResolution.Json.Commented
import ModuleResolution.Main
import ModuleResolution.Project.Load
import ModuleResolution.Proofs.Dependency.LoadedMap
import ModuleResolution.Proofs.Dependency.Provenance
import ModuleResolution.Proofs.Package.Search
import ModuleResolution.Proofs.Resolution.Found
import ModuleResolution.Proofs.Resolution.Independence
import ModuleResolution.Settings.Settings
import ModuleResolution.Source.Parse
import ModuleResolution.Terminal
import ModuleResolution.Proofs.Directive.Candidates
import ModuleResolution.Proofs.Lookup.Reads
import ModuleResolution.Proofs.Package.Consulted
import ModuleResolution.Proofs.Resolution.Builtins
import ModuleResolution.Proofs.Resolution.PathReference
import ModuleResolution.Proofs.Resolution.Failures
import ModuleResolution.Proofs.Json.Decoration
import ModuleResolution.Proofs.Package.DeepImport
import ModuleResolution.Proofs.Command.InputFiles
import ModuleResolution.Proofs.Dependency.SyncEffect
import ModuleResolution.Proofs.Directive.Gates
import ModuleResolution.Proofs.Directive.PackageTypes
import ModuleResolution.Proofs.Directive.RootTypes
import ModuleResolution.Proofs.Directive.Lines
import ModuleResolution.Proofs.Directive.Trace
import ModuleResolution.Proofs.Source.Preorder
import ModuleResolution.Proofs.Files.Writes
import ModuleResolution.Proofs.Package.Walk
import ModuleResolution.Proofs.Dependency.OwnRecord
import ModuleResolution.Proofs.Resolution.SameDirectory
import ModuleResolution.Proofs.Terminal.Icons
import ModuleResolution.Proofs.Json.Nesting
