import ModuleResolution.Reference
import ModuleResolution.Json.Reader
import ModuleResolution.Files.Fault

/-!
# Failures of a lookup

The causes for which a lookup gives no answer, and their wording.
-/

set_option autoImplicit false

namespace ModuleResolution

/-- What is wrong with a package manifest. -/
inductive ManifestFault where
  | malformed (fault : Json.Fault) (line column position : Nat)
  | notAnObject
  deriving DecidableEq, Repr

/-- The wording of a manifest fault. -/
def ManifestFault.message : ManifestFault → String
  | .malformed fault line column position =>
    (Json.ReadError.malformed fault line column position).message
  | .notAnObject => "expected a JSON object"

/-- Which list of names a caller has to give. -/
inductive NameList where
  | modules
  | directives
  deriving DecidableEq, Repr

/-- Why a lookup gives no answer. -/
inductive Failure where
  | unreadable (fault : Files.Fault)
  | manifest (path : String) (fault : ManifestFault)
  | integerTooLong (digits : Nat)
  | tooDeep (opening : Json.Opening)
  | unnamed (ref : Reference)
  | missingPathPart
  | targetIsNoPath (kind : String)
  | singleName (list : NameList)
  | unknownVariant (word : String)
  deriving DecidableEq, Repr

/-- An optional text in a message. -/
def optionalText : Option String → String
  | some s => Text.quoted s
  | none => "None"

/-- A reference in a message. -/
def Reference.describe (ref : Reference) : String :=
  s!"ModuleReference(scope={optionalText ref.scope}, name={optionalText ref.name}, "
    ++ s!"subpath={optionalText ref.subpath}, mangled_key={optionalText ref.mangledKey})"

/-- The wording of a failure. -/
def Failure.message : Failure → String
  | .unreadable fault => fault.message
  | .manifest path fault => s!"Invalid package manifest {path}: {fault.message}"
  | .integerTooLong digits => (Json.ReadError.integerTooLong digits).message
  | .tooDeep opening => (Json.ReadError.tooDeep opening).message
  | .unnamed ref => s!"Declaration search needs a named module reference, got {ref.describe}"
  | .missingPathPart =>
    "join() argument must be str, bytes, or os.PathLike object, not 'NoneType'"
  | .targetIsNoPath kind => s!"expected str, bytes or os.PathLike object, not {kind}"
  | .singleName .modules => "module_names must be a sequence of names, not a string"
  | .singleName .directives => "type_directive_names must be a sequence of names, not a string"
  | .unknownVariant word => s!"{Text.quoted word} is not a valid PackageVariant"

end ModuleResolution
