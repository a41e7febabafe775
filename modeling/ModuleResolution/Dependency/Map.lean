import ModuleResolution.Json.Reader
import ModuleResolution.Dependency.Graph
import ModuleResolution.Files.Fault

/-!
# Dependency maps

A dependency map is a JSON object of objects: for every file the targets of its
references. It becomes a graph with parallel edges in which the files of the map,
and only they, are marked as sources. In the graph the replacement character stands for
a half character.
-/

set_option autoImplicit false

namespace ModuleResolution.Dependency

/-- Why a dependency map cannot be loaded. -/
inductive MapFault where
  | missing (path : String)
  | unreadable (fault : Files.Fault)
  | malformed (path : String) (fault : Json.Fault) (line column position : Nat)
  | integerTooLong (digits : Nat)
  | notAnObject (path : String)
  | tooDeep (opening : Json.Opening)
  | entryNotAnObject (path : String) (file : LooseText)
  | nullTarget
  | compoundTarget (kind : String)
  deriving DecidableEq, Repr

/-- The wording of a fault of a dependency map. The name of an entry is quoted as the map
spells it. -/
def MapFault.message : MapFault → LooseText
  | .missing path => s!"Dependency map not found: {path}"
  | .unreadable fault => fault.message
  | .malformed path fault line column position =>
    let detail := (Json.ReadError.malformed fault line column position).message
    s!"Invalid dependency map {path}: {detail}"
  | .integerTooLong digits => (Json.ReadError.integerTooLong digits).message
  | .tooDeep opening => (Json.ReadError.tooDeep opening).message
  | .notAnObject path => s!"Invalid dependency map {path}: expected a JSON object"
  | .entryNotAnObject path file =>
    .ofString s!"Invalid dependency map {path}: entry for " ++ file ++ .ofString " is not an object"
  | .nullTarget => "None cannot be a node"
  | .compoundTarget kind => s!"unhashable type: '{kind}'"

/-- The target that a value denotes. -/
def Target.ofValue : Json.Value → Except MapFault Target
  | .null => .error .nullTarget
  | .bool b => .ok (.flag b)
  | .integer n => .ok (.integer n)
  | .decimal d => .ok (.ofDecimal d)
  | .notANumber => .ok .notANumber
  | .infinity negative => .ok (.infinity negative)
  | .text s => .ok (.path s.string)
  | .array items => .error (.compoundTarget (Json.Value.array items).kind)
  | .object fields => .error (.compoundTarget (Json.Value.object fields).kind)

namespace Graph

/-- Adds one dependency of a file. A target that is no node yet is not a source. -/
def addDependency (file : String) (g : Graph) (dependency : LooseText × Json.Value) :
    Except MapFault Graph := do
  let target ← Target.ofValue dependency.2
  let g := if g.hasNode target then g else g.addNode target (some false)
  return g.addEdge ⟨file, target, some dependency.1.string⟩

/-- Adds one file of a map with its dependencies; `path` is where the map lies. -/
def addEntry (path : String) (g : Graph) (entry : LooseText × Json.Value) : Except MapFault Graph :=
  match entry.2.fields? with
  | none => .error (.entryNotAnObject path entry.1)
  | some dependencies =>
    dependencies.foldlM (addDependency entry.1.string)
      (g.addNode (.path entry.1.string) (some true))

/-- The graph of a dependency map that has been read. -/
def ofValue (path : String) (v : Json.Value) : Except MapFault Graph := do
  match v.fields? with
  | none => .error (.notAnObject path)
  | some entries =>
    let g ← entries.foldlM (addEntry path) (Graph.empty true)
    return entries.foldl (fun g entry => g.addNode (.path entry.1.string) (some true)) g

/-- The graph of the dependency map that a text holds. -/
def ofText (nesting : Nat) (path content : String) : Except MapFault Graph :=
  match Json.read nesting content with
  | .error (.malformed fault line column position) =>
    .error (.malformed path fault line column position)
  | .error (.integerTooLong digits) => .error (.integerTooLong digits)
  | .error (.tooDeep opening) => .error (.tooDeep opening)
  | .ok v => ofValue path v

end Graph

end ModuleResolution.Dependency
