import ModuleResolution.Resolution
import ModuleResolution.Project.Options

/-!
# Resolving type directives

A type directive names a package of types. It is searched first in the type roots,
then in the installed packages at and above the directory of the file. Every path
that was tried in vain is reported, in order.
-/

set_option autoImplicit false

namespace ModuleResolution.Directive

open Package (firstExisting)
open Resolution (Request)

/-- The file that a directive leads to; a hit in a type root is primary. -/
structure Hit where
  path : String
  primary : Bool
  deriving DecidableEq, Repr

/-- The answer to a directive: the hit, if there is one, and the paths tried in vain. -/
structure Answer where
  hit : Option Hit
  failed : List String
  deriving DecidableEq, Repr

/-! ## Searching -/

/-- What a search found and the paths that it tried before. -/
abbrev Search := Option String × List String

/-- Tries paths in order. -/
def firstOf : List String → Lookup Search
  | [] => pure (none, [])
  | path :: paths => do
    if ← Lookup.exists? path then return (some path, [])
    let (found, failed) ← firstOf paths
    return (found, path :: failed)

/-- Tries the files that the given fields of a manifest name, one field after the other.
A field that is no text, or an empty one, names none. -/
def tryFields (dir : String) (manifest : Package.Manifest) : List String → Lookup Search
  | [] => pure (none, [])
  | field :: fields => do
    match manifest.get? field with
    | some (.text value) =>
      if value.chars.isEmpty then tryFields dir manifest fields
      else
        let candidate := Path.normalize (Path.join dir value.string)
        if ← Lookup.exists? candidate then return (some candidate, [])
        let (found, failed) ← tryFields dir manifest fields
        return (found, candidate :: failed)
    | _ => tryFields dir manifest fields

/-- Goes on with another search where a search finds nothing. -/
def orElse (first second : Lookup Search) : Lookup Search := do
  let (found, failed) ← first
  match found with
  | some path => return (some path, failed)
  | none =>
    let (found, further) ← second
    return (found, failed ++ further)

/-- Tries what the manifest of a package directory names. A manifest that is missing is
itself a path tried in vain. -/
def tryNamed (dir : String) : Lookup Search := do
  let manifestPath := Path.join dir Package.manifestFile
  if ← Lookup.exists? manifestPath then
    tryFields dir (← Package.readManifest manifestPath) Package.declarationFields
  else return (none, [manifestPath])

/-- Tries what the manifest of a package directory names, and then its index file. -/
def tryPackage (dir : String) : Lookup Search :=
  orElse (tryNamed dir) (firstOf [Path.join dir Package.indexFile])

/-- Runs searches in order until one of them finds something. -/
def firstFound {α : Type} (search : α → Lookup Search) : List α → Lookup Search
  | [] => pure (none, [])
  | a :: rest => orElse (search a) (firstFound search rest)

/-! ## Where to search -/

/-- The paths that exist, in order. -/
def existing : List String → Lookup (List String)
  | [] => pure []
  | path :: paths => do
    let here ← Lookup.exists? path
    let further ← existing paths
    return if here then path :: further else further

/-- The community types installed at and above a directory. -/
def defaultTypeRoots (dir : String) : Lookup (List String) :=
  existing ((Path.ancestors dir).map fun above =>
    Path.joinAll above [Package.modulesDirectory, Package.typesScope])

/-- The type roots that apply to a file in `dir`. -/
def typeRoots (options : Options) (dir : String) : Lookup (List String) :=
  match options.typeRoots with
  | some roots => pure roots
  | none =>
    match options.configDir with
    | some configDir => defaultTypeRoots (if configDir = "" then dir else configDir)
    | none => defaultTypeRoots dir

/-- The name under which community types of a directive are filed. -/
def communityName (name : String) : String :=
  (Reference.parse name).mangledKey.getD name

/-- Searches the packages installed in one directory. -/
def tryInstalled (name dir : String) : Lookup Search := do
  if Path.name dir = Package.modulesDirectory then return (none, [])
  let modules := Path.join dir Package.modulesDirectory
  if !(← Lookup.exists? modules) then return (none, [])
  orElse (firstOf [Path.join modules name ++ Package.declarationSuffix])
    (firstFound tryPackage
      [Path.join modules name, Path.joinAll modules [Package.typesScope, communityName name]])

/-- Resolves one directive of a file. -/
def resolveOne (options : Options) (file name : String) : Lookup Answer := do
  let dir := Path.parent file
  let roots ← typeRoots options dir
  let (found, failed) ← firstFound (fun root => tryPackage (Path.join root name)) roots
  match found with
  | some path => return ⟨some ⟨path, true⟩, failed⟩
  | none =>
    let (found, further) ← firstFound (tryInstalled name) (Path.ancestors dir)
    return ⟨found.map (⟨·, false⟩), failed ++ further⟩

/-! ## Batches -/

/-- A way to resolve one directive of a file. -/
abbrev Resolver := Options → String → String → Lookup Answer

/-- How a trace line words the answer to a directive. -/
def decision (answer : Answer) : String :=
  match answer.hit with
  | some hit => if hit.primary then s!"P {hit.path}" else s!"!P {hit.path}"
  | none =>
    let failed := ", ".intercalate answer.failed
    s!"FAILED: {failed}"

/-- Resolves names one after the other, each with its trace line. -/
def each (resolve : String → Lookup Answer) : List String → Lookup (List Answer)
  | [] => pure []
  | name :: names => do
    let answer ← resolve name
    Lookup.trace (Resolution.decisionLine name (decision answer))
    let answers ← each resolve names
    return answer :: answers

/-- The answers to a list of directives of a file. -/
def resolveAll (resolver : Resolver) (options : Options) (file : String) (names : List String) :
    Lookup (List Answer) := do
  Lookup.trace s!"resolveType: {file}"
  each (resolver options file) names

/-- Answers a request for the type directives of a file: one answer per name. -/
def resolve (resolver : Resolver) (options : Options) (file : String) (request : Request) :
    Lookup (List Answer) := do
  resolveAll resolver options file (← Lookup.ofExcept (request.names .directives))

end ModuleResolution.Directive
