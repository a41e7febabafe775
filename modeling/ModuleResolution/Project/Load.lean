import ModuleResolution.Project.Options
import ModuleResolution.Json.Commented
import ModuleResolution.Json.Reader
import ModuleResolution.Script

/-!
# Projects on disk

The options of a project are read from its configuration file, JSON with comments.
Type roots are taken relative to the directory of that file. The configuration file
of a path is the nearest one of a given name at or above it.
-/

set_option autoImplicit false

namespace ModuleResolution.Project

/-- Why the options of a project cannot be loaded. -/
inductive Fault where
  | missing (path : String)
  | unreadable (fault : Files.Fault)
  | malformed (path : String) (fault : Json.Fault) (line column position : Nat)
  | integerTooLong (digits : Nat)
  | tooDeep (opening : Json.Opening)
  | noFields (kind : String)
  | notIterable (kind : String)
  | rootNotText (kind : String)
  deriving DecidableEq, Repr

/-- The wording of a fault of a project. -/
def Fault.message : Fault → String
  | .missing path => s!"Project file not found: {path}"
  | .unreadable fault => fault.message
  | .malformed path fault line column position =>
    let detail := (Json.ReadError.malformed fault line column position).message
    s!"Invalid project file {path}: {detail}"
  | .integerTooLong digits => (Json.ReadError.integerTooLong digits).message
  | .tooDeep opening => (Json.ReadError.tooDeep opening).message
  | .noFields kind => s!"'{kind}' object has no attribute 'get'"
  | .notIterable kind => s!"'{kind}' object is not iterable"
  | .rootNotText kind =>
    s!"join() argument must be str, bytes, or os.PathLike object, not '{kind}'"

/-! ## Reading options -/

/-- A field of a value that has to be an object. -/
def fieldOf (v : Json.Value) (name : String) : Except Fault (Option Json.Value) :=
  match v with
  | .object fields => .ok (Table.get? fields (.ofString name))
  | _ => .error (.noFields v.kind)

/-- The values that a value runs through: the items of an array, the characters of a
text, the names of an object. -/
def itemsOf : Json.Value → Except Fault (List Json.Value)
  | .array items => .ok items
  | .text s => .ok (s.chars.map fun c => .text ⟨[c]⟩)
  | .object fields => .ok ((Table.keys fields).map .text)
  | v => .error (.notIterable v.kind)

/-- A type root, taken relative to a directory. -/
def typeRoot (dir : String) : Json.Value → Except Fault String
  | .text root => .ok (Path.normalize (Path.join dir root.string))
  | v => .error (.rootNotText v.kind)

/-- The type roots that the compiler options of a project set. -/
def typeRootsOf (dir : String) (settings : Json.Value) : Except Fault (Option (List String)) := do
  match ← fieldOf settings "typeRoots" with
  | none | some .null => return none
  | some v => return some (← (← itemsOf v).mapM (typeRoot dir))

/-- The options that a configuration file in `dir` sets. Compiler options that are
absent, null, zero or empty count as none. -/
def optionsOf (dir : String) (v : Json.Value) : Except Fault Options := do
  let settings ← fieldOf v "compilerOptions"
  let settings := (settings.filter (·.isPresent)).getD (.object [])
  return ⟨← typeRootsOf dir settings, some dir⟩

/-- The options that the text of a configuration file sets. -/
def optionsOfText (nesting : Nat) (path content : String) : Except Fault Options :=
  match Json.read nesting (Json.Commented.plain content) with
  | .error (.malformed fault line column position) =>
    .error (.malformed path fault line column position)
  | .error (.integerTooLong digits) => .error (.integerTooLong digits)
  | .error (.tooDeep opening) => .error (.tooDeep opening)
  | .ok v => optionsOf (Path.parent path) v

/-! ## On disk -/

/-- Loads the options from a configuration file. -/
def loadOptions (cwd path : String) : Script (Except Fault Options) := do
  let path := Path.resolve cwd path
  if (← Script.kindOf path).isNone then return .error (.missing path)
  match ← Script.readText path with
  | .error fault => return .error (.unreadable fault)
  | .ok content => return optionsOfText (← Script.nestingOf .project) path content

/-- The first path that is a file. -/
def firstFile : List String → Script (Option String)
  | [] => pure none
  | path :: paths => do
    if (← Script.kindOf path) = some .file then return some path
    firstFile paths

/-- Finds the nearest file of a name at or above a path. -/
def find (cwd path name : String) : Script (Option String) := do
  let start := Path.resolve cwd path
  let dir := if (← Script.kindOf start) = some .file then Path.parent start else start
  firstFile ((Path.chain dir).map fun above => Path.tidyJoin above name)

end ModuleResolution.Project
