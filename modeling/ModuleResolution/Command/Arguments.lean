/-!
# Command line arguments

Arguments are options, recognised by a leading dash, and positional values. A long
option takes its value behind an equals sign or from the next argument; short options
may be written together, the last one with its value attached. Two dashes end the
options. `Invocation.parse` tells which command is meant.
-/

set_option autoImplicit false

namespace ModuleResolution.Command

/-- An option: its key, its names with their dashes, and whether it takes a value. -/
structure OptionSpec where
  key : String
  names : List String
  takesValue : Bool
  deriving DecidableEq, Repr

/-- A command line that no command accepts. -/
inductive UsageFault where
  | unknownOption (name : String)
  | missingValue (name : String)
  | unwantedValue (name : String)
  | missingArgument
  | extraArgument (text : String)
  | missingCommand
  | unknownCommand (name : String)
  deriving DecidableEq, Repr

/-- The wording of a fault of usage. -/
def UsageFault.message : UsageFault → String
  | .unknownOption name => s!"No such option: {name}"
  | .missingValue name => s!"Option '{name}' requires an argument."
  | .unwantedValue name => s!"Option '{name}' does not take a value."
  | .missingArgument => "Missing argument."
  | .extraArgument text => s!"Got unexpected extra argument ({text})"
  | .missingCommand => "Missing command."
  | .unknownCommand name => s!"No such command '{name}'."

/-! ## Options -/

/-- The options given, in order, and the positional values. -/
structure Parsed where
  options : List (String × String)
  positional : List String
  deriving DecidableEq, Repr

/-- The option of a name. -/
def findOption (specs : List OptionSpec) (name : String) : Except UsageFault OptionSpec :=
  match specs.find? (·.names.contains name) with
  | some spec => .ok spec
  | none => .error (.unknownOption name)

/-- What one argument gives: options that are complete, and one that still lacks its
value. -/
abbrev OptionReading := List (String × String) × Option OptionSpec

/-- Reads a long option. -/
def readLong (specs : List OptionSpec) (arg : String) : Except UsageFault OptionReading := do
  let name := String.ofList (arg.toList.takeWhile (· ≠ '='))
  let spec ← findOption specs name
  match arg.toList.dropWhile (· ≠ '=') with
  | [] => return if spec.takesValue then ([], some spec) else ([(spec.key, "")], none)
  | _ :: value =>
    if spec.takesValue then return ([(spec.key, String.ofList value)], none)
    else .error (.unwantedValue name)

/-- Reads short options that are written together. -/
def readShort (specs : List OptionSpec) : List Char → Except UsageFault OptionReading
  | [] => .ok ([], none)
  | c :: cs => do
    let spec ← findOption specs (String.ofList ['-', c])
    if spec.takesValue then
      return if cs.isEmpty then ([], some spec) else ([(spec.key, String.ofList cs)], none)
    else
      let (options, open?) ← readShort specs cs
      return ((spec.key, "") :: options, open?)

/-- Reads an argument that starts with a dash. -/
def readOption (specs : List OptionSpec) (arg : String) : Except UsageFault OptionReading :=
  if ['-', '-'].isPrefixOf arg.toList then readLong specs arg
  else readShort specs (arg.toList.drop 1)

/-- Whether an argument is an option; a single dash is a value. -/
def isOption (arg : String) : Bool :=
  arg.toList.head? = some '-' && 1 < arg.toList.length

/-- Reads arguments. Where options may not be mixed with values, the first value ends
the options. -/
def parseArguments (specs : List OptionSpec) (mixed : Bool) :
    List String → Parsed → Except UsageFault Parsed
  | [], parsed => .ok parsed
  | arg :: rest, parsed =>
    if arg = "--" then .ok { parsed with positional := parsed.positional ++ rest }
    else if isOption arg then
      match readOption specs arg with
      | .error fault => .error fault
      | .ok (options, open?) =>
        let parsed := { parsed with options := parsed.options ++ options }
        match open? with
        | none => parseArguments specs mixed rest parsed
        | some spec =>
          match rest with
          | [] => .error (.missingValue arg)
          | value :: others =>
            parseArguments specs mixed others
              { parsed with options := parsed.options ++ [(spec.key, value)] }
    else if mixed then
      parseArguments specs mixed rest { parsed with positional := parsed.positional ++ [arg] }
    else .ok { parsed with positional := parsed.positional ++ arg :: rest }

/-- The value of an option; the last one given counts. -/
def Parsed.value? (parsed : Parsed) (key : String) : Option String :=
  parsed.options.reverse.lookup key

/-- Whether an option is given. -/
def Parsed.has (parsed : Parsed) (key : String) : Bool :=
  (parsed.value? key).isSome

/-! ## Invocations -/

/-- What a command line asks for. -/
inductive Invocation where
  | help
  | version
  | resolve (file : String) (modules : List String) (deps project : Option String) (trace : Bool)
  | types (file : String) (names : List String) (project : Option String) (trace : Bool)
  | findProject (path : String) (name : Option String)
  | indexStats (deps : String)
  deriving DecidableEq, Repr

/-- The option that asks for help. -/
def helpOption : OptionSpec := ⟨"help", ["--help"], false⟩

/-- The option that asks for the version. -/
def versionOption : OptionSpec := ⟨"version", ["--version"], false⟩

/-- The option that names a dependency map. -/
def depsOption : OptionSpec := ⟨"deps", ["--deps", "-d"], true⟩

/-- The option that names a project file. -/
def projectOption : OptionSpec := ⟨"project", ["--project", "-p"], true⟩

/-- The option that switches trace lines on. -/
def traceOption : OptionSpec := ⟨"trace", ["--trace"], false⟩

/-- The option that gives the name of project files. -/
def nameOption : OptionSpec := ⟨"name", ["--name", "-n"], true⟩

/-- The arguments of a command, unless they ask for help. -/
def withArguments (specs : List OptionSpec) (args : List String)
    (build : Parsed → Except UsageFault Invocation) : Except UsageFault Invocation := do
  let parsed ← parseArguments (helpOption :: specs) true args ⟨[], []⟩
  if parsed.has helpOption.key then return .help
  build parsed

/-- The arguments of `resolve`. -/
def parseResolve (args : List String) : Except UsageFault Invocation :=
  withArguments [depsOption, projectOption, traceOption] args fun parsed =>
    match parsed.positional with
    | [] => .error .missingArgument
    | file :: modules =>
      .ok (.resolve file modules (parsed.value? depsOption.key) (parsed.value? projectOption.key)
        (parsed.has traceOption.key))

/-- The arguments of `types`. -/
def parseTypes (args : List String) : Except UsageFault Invocation :=
  withArguments [projectOption, traceOption] args fun parsed =>
    match parsed.positional with
    | [] => .error .missingArgument
    | file :: names =>
      .ok (.types file names (parsed.value? projectOption.key) (parsed.has traceOption.key))

/-- The arguments of `find-project`. -/
def parseFindProject (args : List String) : Except UsageFault Invocation :=
  withArguments [nameOption] args fun parsed =>
    match parsed.positional with
    | [] => .ok (.findProject "." (parsed.value? nameOption.key))
    | [path] => .ok (.findProject path (parsed.value? nameOption.key))
    | _ :: extra :: _ => .error (.extraArgument extra)

/-- The arguments of `index stats`. -/
def parseIndexStats (args : List String) : Except UsageFault Invocation :=
  withArguments [depsOption] args fun parsed =>
    match parsed.value? depsOption.key, parsed.positional with
    | none, _ => .error (.missingValue "--deps")
    | some _, extra :: _ => .error (.extraArgument extra)
    | some deps, [] => .ok (.indexStats deps)

/-- Commands by name. -/
abbrev Commands := List (String × (List String → Except UsageFault Invocation))

/-- What the options of a group ask for: the first one decides what is shown. -/
def groupRequest (options : List (String × String)) : Option Invocation :=
  options.head?.map fun (key, _) => if key = versionOption.key then .version else .help

/-- Reads options of a group, which come before the command. -/
def parseGroupOptions (specs : List OptionSpec) (args : List String) : Except UsageFault Parsed :=
  parseArguments (helpOption :: specs) false args ⟨[], []⟩

/-- Reads the options of a group of commands and then the command. Any option keeps the
command from running. What stands in the place of a command without being one is read
as options once more. -/
def parseGroup (specs : List OptionSpec) (commands : Commands) (args : List String) :
    Except UsageFault Invocation := do
  let parsed ← parseGroupOptions specs args
  match groupRequest parsed.options, parsed.positional with
  | some request, _ => return request
  | none, [] => .error .missingCommand
  | none, command :: rest =>
    match commands.lookup command with
    | some parse => parse rest
    | none =>
      let again ← parseGroupOptions specs (command :: rest)
      match groupRequest again.options with
      | some request => return request
      | none => .error (.unknownCommand command)

/-- The commands on dependency maps. -/
def indexCommands : Commands := [("stats", parseIndexStats)]

/-- All commands. -/
def commands : Commands :=
  [("resolve", parseResolve), ("types", parseTypes), ("find-project", parseFindProject),
   ("index", parseGroup [] indexCommands)]

/-- What a command line asks for. -/
def Invocation.parse (args : List String) : Except UsageFault Invocation :=
  parseGroup [versionOption] commands args

end ModuleResolution.Command
