import ModuleResolution.Path.Basic

/-!
# The directories above a path

`ancestors` lists a directory and every directory above it, nearest first. The
chain ends at the first path that is its own parent: a root of one or two
slashes for an absolute path, the empty text for a relative one.
-/

set_option autoImplicit false

namespace ModuleResolution.Path

/-- A path and the directories above it, at most `steps` of them. -/
def climb : Nat → String → List String
  | 0, dir => [dir]
  | steps + 1, dir =>
    let above := parent dir
    if above = dir then [dir] else dir :: climb steps above

/-- A path and all directories above it. A parent is shorter than its path, so a
chain has at most as many steps as the path has characters. -/
def chain (dir : String) : List String :=
  climb dir.toList.length dir

/-- The normal form of a directory and all directories above it, nearest first. -/
def ancestors (dir : String) : List String :=
  chain (normalize dir)

end ModuleResolution.Path
