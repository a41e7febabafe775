import ModuleResolution.Failure
import ModuleResolution.Files.Memory

/-!
# Lookups

A lookup is a computation that may ask whether a path exists, ask for the text of a
file, write trace lines and fail. It is kept as the tree of its questions, so that the
same lookup can be run against any file system; `Lookup.run` answers the questions from
a pure one and counts them. How deep JSON may be nested is up to the machine that a
lookup runs on; it is told as well, and this is not counted. Main statements: `run` of a
sequence is the sequence of the runs (`run_bind`), with the questions added up and the
trace lines appended.
-/

set_option autoImplicit false

namespace ModuleResolution

universe u v

/-- A computation that questions a file system. -/
inductive Lookup (α : Type u) where
  | done (a : α)
  | fail (failure : Failure)
  | probe (path : String) (next : Bool → Lookup α)
  | text (path : String) (next : Except Files.Fault String → Lookup α)
  | nesting (next : Nat → Lookup α)
  | note (line : String) (next : Lookup α)

namespace Lookup

variable {α : Type u} {β : Type v}

/-- Goes on with the result of a lookup. -/
def andThen (x : Lookup α) (f : α → Lookup β) : Lookup β :=
  match x with
  | done a => f a
  | fail failure => .fail failure
  | probe path next => .probe path fun answer => (next answer).andThen f
  | text path next => .text path fun answer => (next answer).andThen f
  | nesting next => .nesting fun room => (next room).andThen f
  | note line next => .note line (next.andThen f)

instance : Monad Lookup where
  pure := done
  bind := andThen

/-- Asks whether a path exists. -/
def exists? (path : String) : Lookup Bool := .probe path .done

/-- Asks for the text of a file. -/
def read (path : String) : Lookup String :=
  .text path fun
    | .ok content => .done content
    | .error fault => .fail (.unreadable fault)

/-- Asks how many arrays and objects JSON may hold inside one another. -/
def room : Lookup Nat := .nesting .done

/-- Writes a trace line. -/
def trace (line : String) : Lookup Unit := .note line (.done ())

/-- The result of a computation that may have failed. -/
def ofExcept (r : Except Failure α) : Lookup α :=
  match r with
  | .ok a => .done a
  | .error failure => .fail failure

end Lookup

/-- The answers of a file system, and how deep JSON may be nested where it is used. -/
structure FileSystem where
  exists? : String → Bool
  read : String → Except Files.Fault String
  nesting : Nat

/-- What a run of a lookup gives: the result, how many questions were asked and the
trace lines in order. -/
structure Report (α : Type u) where
  result : Except Failure α
  questions : Nat
  lines : List String

namespace Report

variable {α : Type u} {β : Type v}

/-- A report with one more question before it. -/
def afterQuestion (r : Report α) : Report α :=
  { r with questions := r.questions + 1 }

/-- A report with one more line before it. -/
def afterLine (line : String) (r : Report α) : Report α :=
  { r with lines := line :: r.lines }

/-- A report followed by the report on what is done with its result. -/
def andThen (r : Report α) (f : α → Report β) : Report β :=
  match r.result with
  | .error failure => ⟨.error failure, r.questions, r.lines⟩
  | .ok a => ⟨(f a).result, r.questions + (f a).questions, r.lines ++ (f a).lines⟩

@[simp] theorem afterQuestion_andThen (r : Report α) (f : α → Report β) :
    r.afterQuestion.andThen f = (r.andThen f).afterQuestion := by
  cases r with
  | mk result questions lines =>
    cases result <;> simp [afterQuestion, andThen, Nat.add_right_comm]

@[simp] theorem afterLine_andThen (line : String) (r : Report α) (f : α → Report β) :
    (r.afterLine line).andThen f = (r.andThen f).afterLine line := by
  cases r with
  | mk result questions lines => cases result <;> simp [afterLine, andThen]

end Report

namespace Lookup

variable {α : Type u} {β : Type v}

/-- Answers the questions of a lookup from a file system. -/
def run (fs : FileSystem) : Lookup α → Report α
  | done a => ⟨.ok a, 0, []⟩
  | fail failure => ⟨.error failure, 0, []⟩
  | probe path next => ((next (fs.exists? path)).run fs).afterQuestion
  | text path next => ((next (fs.read path)).run fs).afterQuestion
  | nesting next => (next fs.nesting).run fs
  | note line next => (next.run fs).afterLine line

theorem run_andThen (fs : FileSystem) (x : Lookup α) (f : α → Lookup β) :
    (x.andThen f).run fs = (x.run fs).andThen fun a => (f a).run fs := by
  induction x with
  | done a => simp [andThen, run, Report.andThen]
  | fail failure => simp [andThen, run, Report.andThen]
  | probe path next ih => simp [andThen, run, ih]
  | text path next ih => simp [andThen, run, ih]
  | nesting next ih => simp [andThen, run, ih]
  | note line next ih => simp [andThen, run, ih]

theorem run_bind {α β : Type u} (fs : FileSystem) (x : Lookup α) (f : α → Lookup β) :
    (x >>= f).run fs = (x.run fs).andThen fun a => (f a).run fs :=
  run_andThen fs x f

@[simp] theorem run_pure {α : Type u} (fs : FileSystem) (a : α) :
    (pure a : Lookup α).run fs = ⟨.ok a, 0, []⟩ := rfl

end Lookup

/-- The file system of files in memory. -/
def Files.Memory.fileSystem (m : Files.Memory) (nesting : Nat) : FileSystem :=
  ⟨m.exists?, m.read, nesting⟩

end ModuleResolution
