import ModuleResolution.Text.Quoted
import ModuleResolution.Text.Utf8

/-!
# Failures to read a file

A file in memory may be missing; a file on a disk may be missing, lie below
something that is no directory, or be a directory itself; and its bytes may not
spell a text.
-/

set_option autoImplicit false

namespace ModuleResolution.Files

/-- Why a disk refuses to open a path. -/
inductive Refusal where
  | noEntry
  | notDirectory
  | isDirectory
  deriving DecidableEq, Repr

/-- The number of a refusal. -/
def Refusal.number : Refusal → Nat
  | .noEntry => 2
  | .notDirectory => 20
  | .isDirectory => 21

/-- The wording of a refusal. -/
def Refusal.reason : Refusal → String
  | .noEntry => "No such file or directory"
  | .notDirectory => "Not a directory"
  | .isDirectory => "Is a directory"

/-- Why the text of a file is not available. -/
inductive Fault where
  | notInMemory (path : String)
  | refused (refusal : Refusal) (path : String)
  | notText (error : Text.Utf8.Error)
  deriving DecidableEq, Repr

/-- The report of a refusal. -/
def Refusal.message (refusal : Refusal) (path : String) : String :=
  s!"[Errno {refusal.number}] {refusal.reason}: {Text.quoted path}"

/-- The report of a failure to read. -/
def Fault.message : Fault → String
  | .notInMemory path => s!"File not found: {path}"
  | .refused refusal path => refusal.message path
  | .notText error => error.message

end ModuleResolution.Files
