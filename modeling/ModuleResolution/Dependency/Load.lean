import ModuleResolution.Dependency.Map
import ModuleResolution.Script

/-!
# Dependency maps on disk
-/

set_option autoImplicit false

namespace ModuleResolution.Dependency

/-- Loads the graph of the dependency map at a path. -/
def Graph.load (path : String) : Script (Except MapFault Graph) := do
  let path := Path.tidy path
  if (← Script.kindOf path).isNone then return .error (.missing path)
  match ← Script.readText path with
  | .error fault => return .error (.unreadable fault)
  | .ok content => return Graph.ofText (← Script.nestingOf .map) path content

end ModuleResolution.Dependency
