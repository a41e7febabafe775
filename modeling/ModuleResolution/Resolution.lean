import ModuleResolution.Builtin
import ModuleResolution.Outcome
import ModuleResolution.Dependency.Index
import ModuleResolution.Package.Declaration

/-!
# Resolving module references

How the references in a file are resolved depends on the file. In an indexed file
each reference has a recorded target; a plain script among the targets gives way
to a typed file beside it or to community types. The references in a declaration
file, which is never indexed, are looked up on disk. In any other file nothing is
resolved. Every decision is traced by one line.
-/

set_option autoImplicit false

namespace ModuleResolution.Resolution

open Dependency (Index Record Target)
open Package (firstExisting findDeclaration)

/-- The names that a caller asks for; a caller may pass a bare text by mistake. -/
inductive Request where
  | list (names : List String)
  | bare (name : String)
  deriving DecidableEq, Repr

/-- The names of a request that is well-formed. -/
def Request.names (kind : NameList) : Request → Except Failure (List String)
  | .list names => .ok names
  | .bare _ => .error (.singleName kind)

/-! ## Trace lines -/

/-- The line that tells what became of a name. -/
def decisionLine (name decision : String) : String := s!"   {name} → {decision}"

/-- How a trace line words an outcome. -/
def decision : Outcome → String
  | .resolved path => path
  | .unresolved .builtin => s!"IGNORED: {Unresolved.builtin.reason}"
  | .unresolved reason => s!"NO RESOLUTION: {reason.reason}"

/-- An outcome together with its trace line. -/
def decided (name : String) (outcome : Outcome) : Lookup Outcome := do
  Lookup.trace (decisionLine name (decision outcome))
  return outcome

/-! ## Indexed files -/

/-- The extensions of plain scripts. -/
def scriptSuffixes : List String := [".js", ".jsx"]

/-- The extensions of files that may stand in for a plain script, the preferred one first. -/
def siblingSuffixes : List String := [".ts", ".tsx", Package.declarationSuffix]

/-- The typed file behind a plain script: a sibling, or community types for a named
reference, searched from the directory of the script. -/
def typedCounterpart (name script : String) : Lookup (Option String) := do
  let base := Path.stem script
  match ← firstExisting (siblingSuffixes.map (base ++ ·)) with
  | some path => return some path
  | none =>
    let ref := Reference.parse name
    if ref.isNamed then findDeclaration ref (Path.parent script) .community else return none

/-- The file that a recorded path leads to. -/
def upgraded (name path : String) : Lookup String := do
  if scriptSuffixes.contains (lowerCase (Path.suffix path)) then
    return (← typedCounterpart name path).getD path
  else return path

/-- Resolves a reference in an indexed file. -/
def fromRecord (record : Record) (name : String) : Lookup Outcome := do
  if Builtin.contains name then decided name (.unresolved .builtin)
  else match record.get? name with
    | none => decided name (.unresolved .notInIndex)
    | some (.path path) => decided name (.resolved (← upgraded name path))
    | some target => .fail (.targetIsNoPath target.kind)

/-! ## Declaration files -/

/-- The declaration file that a path reference leads to from a directory. -/
def pathDeclaration (dir subpath : String) : String :=
  Path.normalize (Path.join dir subpath) ++ Package.declarationSuffix

/-- The declaration file of a reference, seen from a directory. -/
def diskDeclaration (dir : String) (ref : Reference) : Lookup (Option String) := do
  if ref.isNamed then
    match ← findDeclaration ref dir .own with
    | some path => return some path
    | none => findDeclaration ref dir .community
  else match ref.subpath with
    | some subpath => firstExisting [pathDeclaration dir subpath]
    | none => return none

/-- Resolves a reference in a declaration file. -/
def fromDisk (file name : String) : Lookup Outcome := do
  if Builtin.contains name then decided name (.unresolved .builtin)
  else match ← diskDeclaration (Path.parent file) (Reference.parse name) with
    | some path => decided name (.resolved path)
    | none => decided name (.unresolved .noDeclaration)

/-! ## Batches -/

/-- Resolves names one after the other. -/
def each (resolve : String → Lookup Outcome) : List String → Lookup (List Outcome)
  | [] => pure []
  | name :: names => do
    let outcome ← resolve name
    let outcomes ← each resolve names
    return outcome :: outcomes

/-- The outcomes of a list of names in a file. -/
def resolveAll (index : Index) (file : String) (names : List String) : Lookup (List Outcome) := do
  Lookup.trace file
  match index.get? file with
  | some record => each (fromRecord record) names
  | none =>
    if isDeclarationFile file then each (fromDisk file) names
    else do
      Lookup.trace (decisionLine "*" (decision (.unresolved .unknownContainingFile)))
      return names.map fun _ => .unresolved .unknownContainingFile

/-- Answers a request for the modules that a file imports: one outcome per name. -/
def resolve (index : Index) (file : String) (request : Request) : Lookup (List Outcome) := do
  resolveAll index file (← Lookup.ofExcept (request.names .modules))

end ModuleResolution.Resolution
