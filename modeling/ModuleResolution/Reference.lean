import ModuleResolution.Text.Split

/-!
# Module references

A module reference is the text by which a source file names a module. A text that
starts with a dot is a path. Any other text is cut at its slashes into an optional
scope (a first piece that starts with `@`), a package name and a subpath; a text
without a package name, such as an absolute path, is again only a path.
-/

set_option autoImplicit false

namespace ModuleResolution

open Text (splitOn joinWith)

/-- The parts of a module reference. -/
structure Reference where
  scope : Option String
  name : Option String
  subpath : Option String
  deriving DecidableEq, Repr

/-- The name of a scoped package in one path segment: the scope without its sign,
two underscores and the package name. -/
def mangle (scope : Option String) (name : String) : String :=
  match scope.map String.toList with
  | some (_ :: rest) => String.ofList (rest ++ '_' :: '_' :: name.toList)
  | _ => name

namespace Reference

/-- A reference that names a package. -/
def isNamed (ref : Reference) : Bool :=
  ref.name.any (· ≠ "")

/-- The key under which the community types of the package are filed. -/
def mangledKey (ref : Reference) : Option String :=
  ref.name.map (mangle ref.scope)

/-- Scope and name as they stand below a package directory. -/
def packageName (ref : Reference) : Option String :=
  if ref.isNamed then
    ref.name.map fun name =>
      match ref.scope with
      | some scope => if scope = "" then name else scope ++ "/" ++ name
      | none => name
  else none

/-- A first piece that starts with `@`, taken off the pieces. -/
def takeScope : List (List Char) → Option (List Char) × List (List Char)
  | ('@' :: cs) :: pieces => (some ('@' :: cs), pieces)
  | pieces => (none, pieces)

/-- The package name, a non-empty first piece, taken off the pieces. -/
def takeName : List (List Char) → Option (List Char) × List (List Char)
  | [] => (none, [])
  | piece :: pieces => (if piece = [] then none else some piece, pieces)

/-- The subpath that the remaining pieces spell, each with a slash before it. -/
def subpathOf : List (List Char) → Option (List Char)
  | [] => none
  | pieces => some ('/' :: joinWith '/' pieces)

/-- Reads a reference; every text is one. -/
def parse (text : String) : Reference :=
  if text.toList.head? = some '.' then ⟨none, none, some text⟩
  else
    let (scope, pieces) := takeScope (splitOn '/' text.toList)
    let (name, pieces) := takeName pieces
    ⟨scope.map String.ofList, name.map String.ofList, (subpathOf pieces).map String.ofList⟩

end Reference

end ModuleResolution
