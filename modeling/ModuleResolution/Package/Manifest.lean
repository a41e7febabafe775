import ModuleResolution.Lookup
import ModuleResolution.Path.Basic

/-!
# Package manifests

A package directory describes itself in a manifest, a JSON object. Its fields
`typings` and `types`, in this order, may name the root declaration file; failing
that the package may hold an `index.d.ts`.
-/

set_option autoImplicit false

namespace ModuleResolution.Package

/-- The file that holds a manifest. -/
def manifestFile : String := "package.json"

/-- The declaration file of a package that names no other one. -/
def indexFile : String := "index.d.ts"

/-- The extension of declaration files. -/
def declarationSuffix : String := ".d.ts"

/-- The directory that holds installed packages. -/
def modulesDirectory : String := "node_modules"

/-- The scope of community types. -/
def typesScope : String := "@types"

/-- The manifest fields that name the root declaration file, the preferred one first. -/
def declarationFields : List String := ["typings", "types"]

/-- A manifest: the fields of a JSON object. -/
abbrev Manifest := Table Json.Value LooseText

/-- Reads the manifest that a text holds; `path` is named in the report on a broken one. -/
def Manifest.parse (nesting : Nat) (path content : String) : Except Failure Manifest :=
  match Json.read nesting content with
  | .error (.malformed fault line column position) =>
    .error (.manifest path (.malformed fault line column position))
  | .error (.integerTooLong digits) => .error (.integerTooLong digits)
  | .error (.tooDeep opening) => .error (.tooDeep opening)
  | .ok v =>
    match v.fields? with
    | some fields => .ok fields
    | none => .error (.manifest path .notAnObject)

/-- Reads the manifest at a path. -/
def readManifest (path : String) : Lookup Manifest := do
  let content ← Lookup.read path
  Lookup.ofExcept (Manifest.parse (← Lookup.room) path content)

/-- The file that a manifest field names, below a package directory: a text that is
not empty. -/
def fieldCandidate (dir : String) (manifest : Manifest) (field : String) : Option String := do
  let value ← (← manifest.get? field).text?
  if value.string = "" then none else some (Path.normalize (Path.join dir value.string))

/-- The files that may be the root declaration of a package, the preferred one first. -/
def declarationCandidates (dir : String) (manifest : Manifest) : List String :=
  declarationFields.filterMap (fieldCandidate dir manifest) ++ [Path.join dir indexFile]

/-- The first path that exists. -/
def firstExisting : List String → Lookup (Option String)
  | [] => pure none
  | path :: paths => do
    if ← Lookup.exists? path then return some path
    firstExisting paths

/-- The root declaration file of a package. -/
def manifestDeclaration (dir : String) (manifest : Manifest) : Lookup (Option String) :=
  firstExisting (declarationCandidates dir manifest)

end ModuleResolution.Package
