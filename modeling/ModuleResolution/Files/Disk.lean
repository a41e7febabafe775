import ModuleResolution.Path.Tidy
import ModuleResolution.Text.Newline
import ModuleResolution.Lookup

/-!
# Files on a disk

A disk is a tree of directories and files; a file is a sequence of bytes. A path is
followed segment by segment, so that a `..` behind something that does not exist
leads nowhere and a closing slash demands a directory. Text files are UTF-8 with
any line ending.
-/

set_option autoImplicit false

namespace ModuleResolution.Files

open ModuleResolution.Path (Segment)

/-- What a path of a disk holds. -/
inductive Entry where
  | directory
  | file (bytes : List UInt8)
  deriving DecidableEq, Repr

/-- The entries of a disk under their segments from the root on, innermost first, and
the directory that relative paths start from. -/
structure Disk where
  entries : List (List Segment × Entry)
  cwd : String
  deriving Repr

namespace Disk

/-- The entry at given segments; the root is always a directory. -/
def entry? (disk : Disk) : List Segment → Option Entry
  | [] => some .directory
  | segments => disk.entries.lookup segments

/-- Adds an entry unless there is one. -/
def addEntry (entries : List (List Segment × Entry)) (segments : List Segment) (e : Entry) :
    List (List Segment × Entry) :=
  if segments.isEmpty || (entries.lookup segments).isSome then entries
  else entries ++ [(segments, e)]

/-- Adds a directory and the directories above it. -/
def addDirectories (entries : List (List Segment × Entry)) :
    List Segment → List (List Segment × Entry)
  | [] => entries
  | seg :: above => addEntry (addDirectories entries above) (seg :: above) .directory

/-- Puts an entry on the disk, together with the directories above it. -/
def put (disk : Disk) (path : String) (e : Entry) : Disk :=
  let segments := (Path.normalSegments (Path.resolve disk.cwd path).toList).reverse
  { disk with entries := addEntry (addDirectories disk.entries segments.tail) segments e }

/-- Follows segments from a directory on. -/
def follow (disk : Disk) : List Segment → List Segment → Except Refusal Entry
  | here, [] =>
    match disk.entry? here with
    | some e => .ok e
    | none => .error .noEntry
  | here, seg :: rest =>
    match disk.entry? here with
    | some .directory =>
      if seg = [] || seg = ['.'] then disk.follow here rest
      else if seg = Path.parentSegment then disk.follow here.tail rest
      else disk.follow (seg :: here) rest
    | some (.file _) => .error .notDirectory
    | none => .error .noEntry

/-- What a path leads to. -/
def locate (disk : Disk) (path : String) : Except Refusal Entry :=
  if path = "" then .error .noEntry
  else disk.follow [] (Text.splitOn '/' (Path.join disk.cwd path).toList)

/-- Whether a path leads to anything. -/
def exists? (disk : Disk) (path : String) : Bool :=
  match disk.locate path with
  | .ok _ => true
  | .error _ => false

/-- The bytes of a file. -/
def readBytes (disk : Disk) (path : String) : Except Refusal (List UInt8) :=
  match disk.locate path with
  | .ok (.file bytes) => .ok bytes
  | .ok .directory => .error .isDirectory
  | .error refusal => .error refusal

end Disk

/-- The text that the bytes of a text file spell. -/
def textOfBytes (bytes : List UInt8) : Except Text.Utf8.Error String :=
  (fun s => String.ofList (Text.unifyNewlines s.toList)) <$> Text.Utf8.decode bytes

/-- The text of a file whose bytes have been asked for under a path. -/
def textOf (path : String) (bytes : Except Refusal (List UInt8)) : Except Fault String :=
  match bytes with
  | .error refusal => .error (.refused refusal path)
  | .ok bytes => (textOfBytes bytes).mapError .notText

/-- The file system of a disk. A file is read under its tidied path. -/
def Disk.fileSystem (disk : Disk) (nesting : Nat) : FileSystem where
  exists? := disk.exists?
  read path := textOf (Path.tidy path) (disk.readBytes (Path.tidy path))
  nesting := nesting

end ModuleResolution.Files
