import ModuleResolution.Files.Disk
import ModuleResolution.Terminal

/-!
# Scripts

A script is a computation that looks at a disk and at environment variables and
shows things to the user on a terminal, which may be unable to write them. It is kept
as the tree of its actions, so that it can be run against a described world as well as
against the real one.
-/

set_option autoImplicit false

namespace ModuleResolution

/-- A table shown to the user: a title, the heads of the columns, and rows of cells. -/
structure Sheet where
  title : String
  columns : List String
  rows : List (List String)
  deriving DecidableEq, Repr

/-- What a script shows: a line of text or a table. -/
inductive Display where
  | line (text : String)
  | sheet (sheet : Sheet)
  deriving DecidableEq, Repr

/-- The characters that have to be written to show something. -/
def Display.chars : Display → List Char
  | .line text => text.toList
  | .sheet table =>
    table.title.toList ++ (table.columns ++ table.rows.flatten).flatMap String.toList

/-- Whether a terminal can write all that has to be shown. -/
def Terminal.Device.canShow (device : Terminal.Device) (display : Display) : Bool :=
  display.chars.all device.writes

/-- The kinds of files that hold JSON. How deep it may be nested depends on where the
reader is called. -/
inductive Document where
  | project
  | map
  | manifest
  deriving DecidableEq, Repr

/-- What a path can lead to. -/
inductive PathKind where
  | directory
  | file
  deriving DecidableEq, Repr

/-- A computation with actions on the outside world. -/
inductive Script (α : Type) where
  | done (a : α)
  | kind (path : String) (next : Option PathKind → Script α)
  | bytes (path : String) (next : Except Files.Refusal (List UInt8) → Script α)
  | environment (name : String) (next : Option String → Script α)
  | nesting (document : Document) (next : Nat → Script α)
  | encodings (next : Terminal.Encodings → Script α)
  | output (display : Display) (next : Bool → Script α)

namespace Script

variable {α β : Type}

/-- Goes on with the result of a script. -/
def andThen (x : Script α) (f : α → Script β) : Script β :=
  match x with
  | done a => f a
  | kind path next => .kind path fun answer => (next answer).andThen f
  | bytes path next => .bytes path fun answer => (next answer).andThen f
  | environment name next => .environment name fun answer => (next answer).andThen f
  | nesting document next => .nesting document fun room => (next room).andThen f
  | encodings next => .encodings fun reported => (next reported).andThen f
  | output display next => .output display fun written => (next written).andThen f

instance : Monad Script where
  pure := done
  bind := andThen

/-- Asks what a path leads to. -/
def kindOf (path : String) : Script (Option PathKind) := .kind path .done

/-- Asks for the bytes of a file. -/
def readBytes (path : String) : Script (Except Files.Refusal (List UInt8)) := .bytes path .done

/-- Asks for the value of an environment variable. -/
def getVariable (name : String) : Script (Option String) := .environment name .done

/-- Asks how many arrays and objects JSON may hold inside one another in a document. -/
def nestingOf (document : Document) : Script Nat := .nesting document .done

/-- Asks for the encodings that are reported for the terminal. -/
def reportedEncodings : Script Terminal.Encodings := .encodings .done

/-- Shows something, and tells whether the terminal could write it; otherwise nothing of it
is shown. -/
def display (d : Display) : Script Bool := .output d .done

/-- Asks for the text of a file. -/
def readText (path : String) : Script (Except Files.Fault String) := do
  return Files.textOf path (← readBytes path)

/-- Answers the questions of a lookup from the disk and hands over its trace lines, which may
end it. -/
def ofLookup {ε : Type} (trace : String → ExceptT ε Script Unit) :
    Lookup α → ExceptT ε Script (Except Failure α)
  | .done a => return .ok a
  | .fail failure => return .error failure
  | .probe path next => do
    let kind ← ExceptT.lift (kindOf path)
    ofLookup trace (next kind.isSome)
  | .text path next => do
    let content ← ExceptT.lift (readText (Path.tidy path))
    ofLookup trace (next content)
  | .nesting next => do
    let room ← ExceptT.lift (nestingOf .manifest)
    ofLookup trace (next room)
  | .note line next => do
    trace line
    ofLookup trace next

end Script

/-- A world that a script can run in. -/
structure World where
  disk : Files.Disk
  env : Table String
  nesting : Document → Nat
  terminal : Terminal.Device

/-- The file system that lookups meet in a world. -/
def World.fileSystem (world : World) : FileSystem :=
  world.disk.fileSystem (world.nesting .manifest)

/-- What a disk holds at a path. -/
def Files.Disk.kindOf (disk : Files.Disk) (path : String) : Option PathKind :=
  match disk.locate path with
  | .ok .directory => some .directory
  | .ok (.file _) => some .file
  | .error _ => none

/-- Runs a script: what it shows, in order, and its result. -/
def Script.run {α : Type} (world : World) : Script α → List Display × α
  | .done a => ([], a)
  | .kind path next => (next (world.disk.kindOf path)).run world
  | .bytes path next => (next (world.disk.readBytes path)).run world
  | .environment name next => (next (world.env.get? name)).run world
  | .nesting document next => (next (world.nesting document)).run world
  | .encodings next => (next world.terminal.encodings).run world
  | .output display next =>
    let written := world.terminal.canShow display
    let (displays, a) := (next written).run world
    (if written then display :: displays else displays, a)

end ModuleResolution
