import ModuleResolution.Settings.EnvFile
import ModuleResolution.Outcome
import ModuleResolution.Script

/-!
# Settings

Settings come from environment variables. A file of bindings in the working
directory may add variables that the environment lacks.
-/

set_option autoImplicit false

namespace ModuleResolution

/-- What the environment sets. -/
structure Settings where
  trace : Bool
  projectFileName : String
  dependencyFile : Option String
  deriving DecidableEq, Repr

/-- Why settings cannot be loaded. -/
inductive SettingsFault where
  | unreadable (fault : Files.Fault)
  | unfitBinding (cause : EnvFile.Unfit)
  deriving DecidableEq, Repr

/-- The wording of a fault of settings. -/
def SettingsFault.message : SettingsFault → String
  | .unreadable fault => fault.message
  | .unfitBinding .nullCharacter => "embedded null byte"
  | .unfitBinding .equalsInName => "illegal environment variable name"

namespace Settings

/-- Whether trace lines are wanted. -/
def traceVariable : String := "TSRESOLVER_TRACE"

/-- The name of configuration files. -/
def projectVariable : String := "TSRESOLVER_PROJECT_FILE"

/-- The dependency map to use when none is given. -/
def dependencyVariable : String := "TSRESOLVER_DEPENDENCY_FILE"

/-- The words that switch something on. -/
def onWords : List String := ["1", "true", "yes", "on"]

/-- The settings that an environment makes. -/
def ofVariables (env : Table String) : Settings where
  trace := onWords.contains (lowerCase (Text.trim ((env.get? traceVariable).getD "")))
  projectFileName := (env.get? projectVariable).getD "tsconfig.json"
  dependencyFile := (env.get? dependencyVariable).filter (· ≠ "")

/-- The settings of an environment with the bindings of a file. -/
def ofBindings (environment : Table String) (bindings : List EnvFile.Binding) :
    Except SettingsFault Settings :=
  match EnvFile.firstUnfit environment bindings with
  | some cause => .error (.unfitBinding cause)
  | none => .ok (ofVariables (EnvFile.extend environment bindings))

/-- Asks for the values of variables. -/
def environmentOf : List String → Script (Table String)
  | [] => pure []
  | name :: names => do
    let value ← Script.getVariable name
    let rest ← environmentOf names
    return match value with
      | some value => rest.insert name value
      | none => rest

/-- The text of a file of bindings; where there is no such file there are none. -/
def bindingsText (path : String) : Script (Except Files.Fault String) := do
  if (← Script.kindOf path) = some .file then Script.readText path else return .ok ""

/-- The variable that keeps files of bindings from being read. -/
def disablingVariable : String := "PYTHON_DOTENV_DISABLED"

/-- The words that keep files of bindings from being read. -/
def disablingWords : List String := ["1", "true", "t", "yes", "y"]

/-- A text in a form that does not depend on the case of ASCII letters, to which the
long s belongs. -/
def foldCase (s : String) : String :=
  lowerCase (s.map fun c => if c = 'ſ' then 's' else c)

/-- Whether the environment lets files of bindings be read. -/
def readsBindings (environment : Table String) : Bool :=
  !((environment.get? disablingVariable).any fun word => disablingWords.contains (foldCase word))

/-- The text of the file of bindings at a path, if the environment lets it be read. -/
def loadBindings (path : String) : Script (Except Files.Fault String) := do
  if readsBindings (← environmentOf [disablingVariable]) then bindingsText path
  else return .ok ""

/-- Loads the settings with the bindings of the file at a path. -/
def load (path : String) : Script (Except SettingsFault Settings) := do
  match ← loadBindings path with
  | .error fault => return .error (.unreadable fault)
  | .ok content =>
    let bindings := EnvFile.bindings content
    let names := [traceVariable, projectVariable, dependencyVariable]
      ++ bindings.map (·.name) ++ EnvFile.referenced bindings
    return ofBindings (← environmentOf names) bindings

end Settings

end ModuleResolution
