import ModuleResolution.Command.Arguments
import ModuleResolution.Dependency.Load
import ModuleResolution.Dependency.Sync
import ModuleResolution.Directive.Lookup
import ModuleResolution.Directive.Scan
import ModuleResolution.Project.Load
import ModuleResolution.Settings.Settings
import ModuleResolution.Source.Parse
import ModuleResolution.Terminal.Markup

/-!
# Commands

What the commands do, as scripts. A command ends with an exit code: zero, one after a
message about a mistake in its input, or two for a command line that it does not
accept; a fault that no message is foreseen for escapes, and so does the fault of a
terminal that cannot write what it is to show.
-/

set_option autoImplicit false

namespace ModuleResolution.Command

/-- A fault that a command does not report itself. -/
inductive Escape where
  | lookup (failure : Failure)
  | map (fault : Dependency.MapFault)
  | project (fault : Project.Fault)
  | settings (fault : SettingsFault)
  | file (fault : Files.Fault)
  | unwritable
  deriving DecidableEq, Repr

/-- The wording of a fault that escapes. -/
def Escape.message : Escape → String
  | .lookup failure => failure.message
  | .map fault => fault.message.string
  | .project fault => fault.message
  | .settings fault => fault.message
  | .file fault => fault.message
  | .unwritable => "the terminal cannot write a character of the output"

/-- How a command ends before its regular end. -/
inductive Exit where
  | code (n : Nat)
  | escaped (fault : Escape)
  deriving DecidableEq, Repr

/-- A command that may end early. -/
abbrev Action (α : Type) := ExceptT Exit Script α

/-- The version of the program. -/
def programVersion : String := "0.3.0"

open Terminal (Markup.escape Markup.plain)

/-- A text that is not meant to hold markup, as a terminal shows it. -/
def literal (text : String) : String := Markup.plain (Markup.escape text)

/-- A title that names what a table is about. -/
def heading (topic subject : String) : String :=
  Markup.plain (topic ++ ": " ++ Markup.escape subject)

/-- Shows something; a terminal that cannot write it ends the command. -/
def put (display : Display) : Action Unit := do
  unless ← ExceptT.lift (Script.display display) do throw (.escaped .unwritable)

/-- Shows a line of text that holds no markup. -/
def say (text : String) : Action Unit := do
  put (.line (Terminal.display (← ExceptT.lift Script.reportedEncodings) text))

/-- Shows a line of text that holds markup. -/
def sayMarkup (text : String) : Action Unit := do
  put (.line (Markup.plain (Terminal.display (← ExceptT.lift Script.reportedEncodings) text)))

/-- Ends a command with a message about its input. Half characters cannot be written. -/
def refuse {α : Type} (message : LooseText) : Action α := do
  match message.string? with
  | none => throw (.escaped .unwritable)
  | some text =>
    sayMarkup ("[bold red]Error:[/bold red] " ++ Markup.escape text)
    throw (.code 1)

/-! ## Faults in input files -/

/-- Whether a command reports that a file cannot be read: it is missing, or no text. -/
def isReportedFile : Files.Fault → Bool
  | .notInMemory _ | .refused .noEntry _ | .notText _ => true
  | .refused _ _ => false

/-- Whether a command reports a fault of a project file. -/
def isReportedProject : Project.Fault → Bool
  | .missing _ | .malformed .. | .integerTooLong _ => true
  | .unreadable fault => isReportedFile fault
  | .tooDeep _ | .noFields _ | .notIterable _ | .rootNotText _ => false

/-- Whether a command reports a fault of a dependency map. -/
def isReportedMap : Dependency.MapFault → Bool
  | .unreadable fault => isReportedFile fault
  | .tooDeep _ | .compoundTarget _ => false
  | _ => true

/-- The options of a project file. -/
def loadOptions (cwd path : String) : Action Options := do
  match ← ExceptT.lift (Project.loadOptions cwd path) with
  | .ok options => return options
  | .error fault =>
    if isReportedProject fault then refuse fault.message else throw (.escaped (.project fault))

/-- The graph of a dependency map. -/
def loadGraph (path : String) : Action Dependency.Graph := do
  match ← ExceptT.lift (Dependency.Graph.load path) with
  | .ok g => return g
  | .error fault =>
    if isReportedMap fault then refuse fault.message else throw (.escaped (.map fault))

/-- The settings that apply in a working directory. -/
def loadSettings (cwd : String) : Action Settings := do
  match ← ExceptT.lift (Settings.load (Path.tidyJoin cwd ".env")) with
  | .ok settings => return settings
  | .error fault => throw (.escaped (.settings fault))

/-! ## The resolver of a command -/

/-- What lookups of a command work with. -/
structure Service where
  options : Options
  index : Dependency.Index
  trace : Bool

/-- An optional text that is not empty. -/
def given (text : Option String) : Option String := text.filter (· ≠ "")

/-- Builds the resolver from the files that a command line and the settings name. The
settings are consulted only for what the command line leaves open. -/
def loadService (cwd : String) (deps project : Option String) (trace : Bool) :
    Action Service := do
  let options ← match given project with
    | some path => loadOptions cwd path
    | none => pure .none
  let traced ← if trace then pure true else (·.trace) <$> loadSettings cwd
  let map ← match given deps with
    | some path => pure (some path)
    | none => (·.dependencyFile) <$> loadSettings cwd
  match map with
  | some path => return ⟨options, (← loadGraph path).index, traced⟩
  | none => return ⟨options, .empty, traced⟩

/-- Runs a lookup on the disk and shows its trace lines if they are wanted. A broken
package manifest is reported. -/
def runLookup {α : Type} (service : Service) (lookup : Lookup α) : Action α := do
  let trace (line : String) : Action Unit := if service.trace then say line else pure ()
  match ← Script.ofLookup trace lookup with
  | .ok a => return a
  | .error (.manifest path fault) => refuse (Failure.manifest path fault).message
  | .error failure => throw (.escaped (.lookup failure))

/-- Refuses a path that leads to nothing. -/
def demandFile (path : String) : Action Unit := do
  if (← ExceptT.lift (Script.kindOf path)).isNone then
    refuse (.ofString s!"Containing file does not exist: {path}")

/-! ## Resolving modules -/

/-- The modules that a source file names. -/
def scanModules (path : String) : Action (List String) := do
  demandFile path
  match Source.Dialect.ofFile? path with
  | none => refuse s!"Cannot scan imports of {path}: unsupported file type"
  | some dialect =>
    match ← ExceptT.lift (Script.readBytes path) with
    | .error refusal => refuse s!"Cannot read {path}: {refusal.message path}"
    | .ok bytes =>
      match Source.imports dialect bytes with
      | .ok names => return names
      | .error fault => throw (.escaped (.file (.notText fault)))

/-- The row that shows an outcome. The extension counts as markup. -/
def outcomeRow (name : String) : Outcome → List String
  | .resolved path => [literal name, literal path, Markup.plain (extensionOf path)]
  | .unresolved reason => [literal name, "-", reason.reason]

/-- The table of outcomes. -/
def outcomeSheet (path : String) (names : List String) (outcomes : List Outcome) : Sheet :=
  ⟨heading "Module Resolution" path, ["Module", "Resolved File", "Extension / Reason"],
    List.zipWith outcomeRow names outcomes⟩

/-- The command `resolve`. -/
def resolve (cwd file : String) (modules : List String) (deps project : Option String)
    (trace : Bool) : Action Unit := do
  let path := Path.resolve cwd file
  let names ← if modules.isEmpty then scanModules path else pure modules
  let service ← loadService cwd deps project trace
  let outcomes ← runLookup service (Resolution.resolveAll service.index path names)
  put (.sheet (outcomeSheet path names outcomes))
  let resolved := outcomes.countP Outcome.isResolved
  say s!"\n{resolved} of {outcomes.length} module(s) resolved"

/-! ## Resolving type directives -/

/-- The type directives in a source file. -/
def scanDirectives (path : String) : Action (List String) := do
  demandFile path
  match ← ExceptT.lift (Script.readText path) with
  | .ok source => return Directive.scan source
  | .error fault => throw (.escaped (.file fault))

/-- The row that shows the answer to a directive. -/
def answerRow (name : String) (answer : Directive.Answer) : List String :=
  let failed := if answer.failed.isEmpty then "-" else literal ("\n".intercalate answer.failed)
  match answer.hit with
  | some hit => [literal name, literal hit.path, if hit.primary then "yes" else "no", failed]
  | none => [literal name, "unresolved", "-", failed]

/-- The table of answers to directives. -/
def answerSheet (path : String) (names : List String) (answers : List Directive.Answer) : Sheet :=
  ⟨heading "Type References" path, ["Directive", "Resolved File", "Primary", "Failed Lookups"],
    List.zipWith answerRow names answers⟩

/-- The command `types`. -/
def types (cwd file : String) (directives : List String) (project : Option String)
    (trace : Bool) : Action Unit := do
  let path := Path.resolve cwd file
  let names ← if directives.isEmpty then scanDirectives path else pure directives
  let service ← loadService cwd none project trace
  let answers ← runLookup service
    (Directive.resolveAll Directive.resolveOne service.options path names)
  put (.sheet (answerSheet path names answers))

/-! ## The other commands -/

/-- The command `find-project`. -/
def findProject (cwd path : String) (name : Option String) : Action Unit := do
  let fileName ← match given name with
    | some name => pure name
    | none => (·.projectFileName) <$> loadSettings cwd
  match ← ExceptT.lift (Project.find cwd path fileName) with
  | some found => say found
  | none => refuse s!"No {fileName} found at or above {Path.resolve cwd path}"

/-- The table of the sizes of a dependency map. -/
def statsSheet (deps : String) (summary : Dependency.Graph.Summary) : Sheet :=
  ⟨heading "Dependency Map" deps, ["Metric", "Count"],
    [["Indexed Files", toString summary.files], ["Graph Nodes", toString summary.targets],
     ["Dependencies", toString summary.edges]]⟩

/-- The command `index stats`. -/
def indexStats (deps : String) : Action Unit := do
  let g ← loadGraph deps
  put (.sheet (statsSheet deps g.summary))

/-- Carries out what a command line asks for, in a working directory. -/
def Invocation.perform (cwd : String) : Invocation → Action Unit
  | .help => pure ()
  | .version => say s!"tsresolver {programVersion}"
  | .resolve file modules deps project trace => Command.resolve cwd file modules deps project trace
  | .types file names project trace => Command.types cwd file names project trace
  | .findProject path name => Command.findProject cwd path name
  | .indexStats deps => Command.indexStats deps

/-- How a program run ended. -/
inductive Ending where
  | code (n : Nat)
  | escaped (fault : Escape)
  deriving DecidableEq, Repr

/-- Runs a command line in a working directory. -/
def run (cwd : String) (args : List String) : Script Ending :=
  match Invocation.parse args with
  | .error _ => pure (.code 2)
  | .ok invocation => do
    match ← (invocation.perform cwd).run with
    | .ok () => return .code 0
    | .error (.code n) => return .code n
    | .error (.escaped fault) => return .escaped fault

end ModuleResolution.Command
