import ModuleResolution.Package.Manifest
import ModuleResolution.Package.Walk

/-!
# The declaration file of a named reference

The search starts at the boundary of the importing package, the nearest directory
with a manifest, and climbs. At each directory it looks into the installed
package, or into the community types that go by the mangled name. The first
package found decides: if it lacks the declaration the search ends without one.
-/

set_option autoImplicit false

namespace ModuleResolution.Package

/-- Where a package's declarations may be kept: in the package itself or among the
community types. -/
inductive Variant where
  | own
  | community
  deriving DecidableEq, Repr

/-- The variant that a word names. -/
def Variant.named (word : String) : Except Failure Variant :=
  if word = "self" then .ok .own
  else if word = "at-types" then .ok .community
  else .error (.unknownVariant word)

/-- The segments below a package directory at which a variant of a package lies. -/
def rootSegments (ref : Reference) : Variant → Except Failure (List String)
  | .community =>
    match ref.mangledKey with
    | some key => .ok [modulesDirectory, typesScope, key]
    | none => .error .missingPathPart
  | .own =>
    match ref.name with
    | some name =>
      match ref.scope with
      | some scope =>
        .ok (if scope = "" then [modulesDirectory, name] else [modulesDirectory, scope, name])
      | none => .ok [modulesDirectory, name]
    | none => .error .missingPathPart

/-- The directory of a package as installed in `dir`. -/
def root (ref : Reference) (dir : String) (variant : Variant) : Except Failure String :=
  (rootSegments ref variant).map (Path.joinAll dir)

/-- The manifest of the package that a directory belongs to: the nearest one at or
above it. -/
def boundary (dir : String) : Lookup (Option String) :=
  firstExisting ((Path.ancestors dir).map fun above => Path.join above manifestFile)

/-- The declaration file behind a subpath of a package. -/
def subpathFile (packageDir subpath : String) : String :=
  let segments := (Text.splitOn '/' subpath.toList).filter (· ≠ [])
  Path.joinAll packageDir (segments.map String.ofList) ++ declarationSuffix

/-- Looks for a declaration in a package that is known to have a manifest. -/
def declarationIn (ref : Reference) (packageDir : String) : Lookup (Option String) :=
  match ref.subpath with
  | some subpath => firstExisting [subpathFile packageDir subpath]
  | none => do
    let manifest ← readManifest (Path.join packageDir manifestFile)
    manifestDeclaration packageDir manifest

/-- Probes one directory of the climb. A directory of installed packages is
passed over, and so is one in which the package is not installed. -/
def probeDirectory (ref : Reference) (variant : Variant) (dir : String) : Lookup Walk.Step := do
  if Path.name dir = modulesDirectory then return .climb
  let packageDir ← Lookup.ofExcept (root ref dir variant)
  if !(← Lookup.exists? (Path.join packageDir manifestFile)) then return .climb
  match ← declarationIn ref packageDir with
  | some path => return .found path
  | none => return .stop

/-- Searches the declaration file of a named reference, seen from a directory. -/
def findDeclaration (ref : Reference) (searchRoot : String) (variant : Variant) :
    Lookup (Option String) := do
  if !ref.isNamed then Lookup.fail (.unnamed ref)
  match ← boundary searchRoot with
  | none => return none
  | some manifest => Walk.up (Path.parent manifest) (probeDirectory ref variant)

end ModuleResolution.Package
