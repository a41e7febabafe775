import ModuleResolution.Path.Ancestors

/-!
# Walking up the directories

A walk probes a directory and the directories above it, nearest first, until a
probe finds something or stops the walk. `up` walks with probes that may have
effects; `trail` walks with pure ones and tells which directories it visited.
-/

set_option autoImplicit false

namespace ModuleResolution.Walk

universe u

/-- What a probe of one directory decides. -/
inductive Step where
  | climb
  | found (path : String)
  | stop
  deriving DecidableEq, Repr

/-- Whether a walk ends with a step. -/
def Step.ends : Step → Bool
  | .climb => false
  | _ => true

/-- What a step found. -/
def Step.path? : Step → Option String
  | .found path => some path
  | _ => none

/-- Probes directories in order. -/
def along {m : Type → Type u} [Monad m] (probe : String → m Step) : List String → m (Option String)
  | [] => pure none
  | dir :: dirs => do
    match ← probe dir with
    | .climb => along probe dirs
    | .found path => pure (some path)
    | .stop => pure none

/-- Probes a directory and all directories above it. -/
def up {m : Type → Type u} [Monad m] (dir : String) (probe : String → m Step) :
    m (Option String) :=
  along probe (Path.ancestors dir)

/-- What a walk found and which directories it visited. -/
structure Trail where
  result : Option String
  visited : List String
  deriving DecidableEq, Repr

/-- The walk along a list of directories. -/
def trailAlong (probe : String → Step) : List String → Trail
  | [] => ⟨none, []⟩
  | dir :: dirs =>
    if (probe dir).ends then ⟨(probe dir).path?, [dir]⟩
    else
      let further := trailAlong probe dirs
      ⟨further.result, dir :: further.visited⟩

/-- The walk from a directory upwards. -/
def trail (dir : String) (probe : String → Step) : Trail :=
  trailAlong probe (Path.ancestors dir)

end ModuleResolution.Walk
