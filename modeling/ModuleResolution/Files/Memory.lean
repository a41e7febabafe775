import ModuleResolution.Path.Ancestors
import ModuleResolution.Table
import ModuleResolution.Files.Fault

/-!
# Files in memory

A set of files given by normalized paths and contents. The directories are those
above a written file: writing a file records them, nearest first, up to the first
one that is recorded already.
-/

set_option autoImplicit false

namespace ModuleResolution.Files

/-- Files with their contents, and the directories above them. -/
structure Memory where
  files : Table String
  directories : List String
  deriving Repr

namespace Memory

/-- No files at all. -/
def empty : Memory := ⟨[], []⟩

/-- The directories above a normalized path that are not recorded yet. -/
def newDirectories (m : Memory) (path : String) : List String :=
  (Path.chain (Path.parent path)).takeWhile fun dir => dir ≠ "" && !m.directories.contains dir

/-- Writes a file, replacing what the path held. -/
def write (m : Memory) (path content : String) : Memory :=
  let path := Path.normalize path
  ⟨m.files.insert path content, m.directories ++ m.newDirectories path⟩

/-- The files of a list, written in order. -/
def ofList (entries : List (String × String)) : Memory :=
  entries.foldl (fun m (path, content) => m.write path content) empty

/-- Whether a path is a file or a directory. -/
def exists? (m : Memory) (path : String) : Bool :=
  let path := Path.normalize path
  m.files.has path || m.directories.contains path

/-- The content of a file. -/
def read (m : Memory) (path : String) : Except Fault String :=
  let path := Path.normalize path
  match m.files.get? path with
  | some content => .ok content
  | none => .error (.notInMemory path)

end Memory

end ModuleResolution.Files
