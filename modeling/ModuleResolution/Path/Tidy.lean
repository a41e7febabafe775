import ModuleResolution.Path.Basic

/-!
# Tidied paths

A tidied path has no `.` segment, no repeated and no closing slash, but keeps its
`..` segments, which a disk has to resolve. Paths that a user names are shown
tidied in messages.
-/

set_option autoImplicit false

namespace ModuleResolution.Path

open Text (splitOn joinWith)

/-- The segments that a tidied path keeps. -/
def tidySegments (cs : List Char) : List Segment :=
  (splitOn '/' cs).filter fun seg => seg ≠ [] && seg ≠ ['.']

/-- A path without `.` segments and superfluous slashes. -/
def tidy (path : String) : String :=
  let cs := path.toList
  let text := List.replicate (rootSlashes cs) '/' ++ joinWith '/' (tidySegments cs)
  if text = [] then "." else String.ofList text

/-- A path appended to a directory, tidied. -/
def tidyJoin (dir rest : String) : String :=
  tidy (join dir rest)

/-- The last segment of a tidied path; a root has none. -/
def tidyName (path : String) : String :=
  String.ofList ((tidySegments path.toList).getLast?.getD [])

/-- The extension of the last segment: from its last dot on, unless that dot is
its first or its last character. -/
def tidySuffix (path : String) : String :=
  match splitLastDot (tidyName path).toList with
  | some (before, after) => if before = [] || after = ['.'] then "" else String.ofList after
  | none => ""

/-- The absolute form of a path: relative to the directory `cwd`, with `..`
removed and one leading slash. -/
def resolve (cwd path : String) : String :=
  let cs := (join cwd path).toList
  normalize (String.ofList ('/' :: cs.dropWhile (· == '/')))

end ModuleResolution.Path
