import ModuleResolution.Command.Run

/-!
# The program

Runs command lines on the real disk. The actions of a script are carried out one by
one; everything that decides what happens is in the script.
-/

set_option autoImplicit false

namespace ModuleResolution.Program

/-- The lines that show a sheet: its title, the heads of its columns, and its rows. -/
def sheetLines (sheet : Sheet) : List String :=
  sheet.title :: (sheet.columns :: sheet.rows).map (" | ".intercalate ·)

/-- The terminal of the program. -/
def device : Terminal.Device := .universal

/-- How many arrays and objects JSON may hold inside one another. -/
def nestingLimit : Nat := 900

/-- Writes to the terminal. -/
def put (display : Display) : IO Unit :=
  match display with
  | .line text => IO.println text
  | .sheet sheet => (sheetLines sheet).forM IO.println

/-- What a path of the disk leads to. -/
def kindOf (path : String) : IO (Option PathKind) := do
  try
    match (← ((← IO.currentDir) / path).metadata).type with
    | .dir => return some .directory
    | _ => return some .file
  catch _ => return none

/-- The bytes of a file of the disk. -/
def readBytes (path : String) : IO (Except Files.Refusal (List UInt8)) := do
  match ← kindOf path with
  | some .directory => return .error .isDirectory
  | _ =>
    try
      return .ok (← IO.FS.readBinFile ((← IO.currentDir) / path)).toList
    catch
      | .noFileOrDirectory .. => return .error .noEntry
      | .inappropriateType .. => return .error .notDirectory
      | fault => throw fault

/-- Carries out a script. -/
def perform {α : Type} : Script α → IO α
  | .done a => return a
  | .kind path next => do perform (next (← kindOf path))
  | .bytes path next => do perform (next (← readBytes path))
  | .environment name next => do perform (next (← IO.getEnv name))
  | .nesting _ next => perform (next nestingLimit)
  | .encodings next => perform (next device.encodings)
  | .output display next => do
    let written := device.canShow display
    if written then put display
    perform (next written)

/-- How the program is called. -/
def usage : List String :=
  ["Usage: tsresolver [--version] [--help] COMMAND",
   "  resolve FILE [MODULES] [--deps MAP] [--project FILE] [--trace]",
   "  types FILE [NAMES] [--project FILE] [--trace]",
   "  find-project [PATH] [--name NAME]",
   "  index stats --deps MAP"]

/-- Shows how the program is called, where a command line asks for that or has a fault. -/
def advise (args : List String) : IO Unit := do
  match Command.Invocation.parse args with
  | .ok .help => usage.forM IO.println
  | .ok _ => return
  | .error fault =>
    usage.forM IO.eprintln
    IO.eprintln s!"Error: {fault.message}"

/-- Runs a command line; the result is the exit code. -/
def run (args : List String) : IO UInt32 := do
  advise args
  match ← perform (Command.run (← IO.currentDir).toString args) with
  | .code n => return UInt32.ofNat n
  | .escaped fault =>
    IO.eprintln fault.message
    return 1

end ModuleResolution.Program

/-- The entry point of the program. -/
def main (args : List String) : IO UInt32 := ModuleResolution.Program.run args
