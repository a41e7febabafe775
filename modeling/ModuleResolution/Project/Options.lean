/-!
# Compiler options

The options that directive lookups consult: the type roots, if they are given,
and the directory of the project.
-/

set_option autoImplicit false

namespace ModuleResolution

/-- The compiler options that a project sets. -/
structure Options where
  typeRoots : Option (List String)
  configDir : Option String
  deriving DecidableEq, Repr, Inhabited

/-- No options set. -/
def Options.none : Options := ⟨.none, .none⟩

end ModuleResolution
