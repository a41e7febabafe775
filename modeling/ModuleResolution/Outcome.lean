import ModuleResolution.Path.Basic
import ModuleResolution.Text.LowerCase

/-!
# Outcomes of module resolution

A module request ends with a resolved file or with the reason why there is none.
-/

set_option autoImplicit false

namespace ModuleResolution

/-- Why a module is not resolved. -/
inductive Unresolved where
  | builtin
  | notInIndex
  | noDeclaration
  | unknownContainingFile
  deriving DecidableEq, Repr

/-- The wording of a reason. -/
def Unresolved.reason : Unresolved → String
  | .builtin => "built-in module"
  | .notInIndex => "module not in list"
  | .noDeclaration => "cannot find .d.ts file"
  | .unknownContainingFile => "containing file not in list"

/-- The answer to a module request. -/
inductive Outcome where
  | resolved (path : String)
  | unresolved (reason : Unresolved)
  deriving DecidableEq, Repr

/-- Whether a request was answered with a file. -/
def Outcome.isResolved : Outcome → Bool
  | .resolved _ => true
  | .unresolved _ => false

/-- A declaration file, by its name. -/
def isDeclarationFile (file : String) : Bool :=
  ".d.ts".toList.isSuffixOf (lowerCase file).toList

/-- The extension of a file; `.d.ts` counts as one extension. -/
def extensionOf (file : String) : String :=
  if isDeclarationFile file then ".d.ts" else Path.suffix file

end ModuleResolution
