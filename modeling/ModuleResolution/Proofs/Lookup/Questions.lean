import ModuleResolution.Proofs.Lookup.Answer

/-!
# Questions of a lookup

`Lookup.questions` is how many questions a lookup asks on a file system. The questions of a
sequence are those of the first lookup and, if it has an answer, those of the rest
(`questions_bind`).

`Lookup.carryOut` carries a lookup out on files in memory that count what they are asked, one
question after the other. It gives the answer of the lookup and leaves the files as they were, with
the count gone up by the questions of the lookup (`carryOut_eq`).
-/

set_option autoImplicit false

namespace ModuleResolution

universe u

variable {α β : Type u}

namespace Lookup

/-- How many questions a lookup asks on a file system. -/
def questions (fs : FileSystem) (x : Lookup α) : Nat :=
  (x.run fs).questions

@[simp] theorem questions_pure (fs : FileSystem) (a : α) :
    (pure a : Lookup α).questions fs = 0 :=
  rfl

@[simp] theorem questions_fail (fs : FileSystem) (failure : Failure) :
    (fail failure : Lookup α).questions fs = 0 :=
  rfl

@[simp] theorem questions_room (fs : FileSystem) : room.questions fs = 0 :=
  rfl

@[simp] theorem answer_trace (fs : FileSystem) (line : String) :
    (trace line).answer fs = .ok () :=
  rfl

@[simp] theorem questions_trace (fs : FileSystem) (line : String) :
    (trace line).questions fs = 0 :=
  rfl

/-- A sequence asks the questions of its first lookup and, unless that fails, of the rest. -/
theorem questions_bind (fs : FileSystem) (x : Lookup α) (f : α → Lookup β) :
    (x >>= f).questions fs =
      x.questions fs +
        match x.answer fs with
        | .ok a => (f a).questions fs
        | .error _ => 0 := by
  unfold questions answer
  rw [run_bind, Report.andThen]
  cases h : (x.run fs).result with
  | error failure => rfl
  | ok a => rfl

/-- A sequence whose first lookup has an answer. -/
theorem questions_bind_ok {fs : FileSystem} {x : Lookup α} {a : α} (h : x.answer fs = .ok a)
    (f : α → Lookup β) : (x >>= f).questions fs = x.questions fs + (f a).questions fs := by
  rw [questions_bind, h]

end Lookup

/-! ## Files that count their questions -/

/-- Files in memory, how deep JSON may be nested where they are used, and how many questions they
have been asked. -/
structure Files.Counted where
  memory : Files.Memory
  nesting : Nat
  asked : Nat

namespace Files.Counted

/-- What lookups find. -/
def fileSystem (files : Counted) : FileSystem :=
  files.memory.fileSystem files.nesting

/-- The same files after some more questions. -/
def after (files : Counted) (questions : Nat) : Counted :=
  { files with asked := files.asked + questions }

/-- Answers whether a path exists. -/
def exists? (files : Counted) (path : String) : Bool × Counted :=
  (files.memory.exists? path, files.after 1)

/-- Answers what a file holds. -/
def read (files : Counted) (path : String) : Except Fault String × Counted :=
  (files.memory.read path, files.after 1)

theorem after_after (files : Counted) (m n : Nat) :
    (files.after m).after n = files.after (m + n) := by
  simp [after, Nat.add_assoc]

end Files.Counted

namespace Lookup

open Files (Counted)

/-- Carries out a lookup on files that count their questions. -/
def carryOut : Lookup α → Counted → Except Failure α × Counted
  | done a, files => (.ok a, files)
  | fail failure, files => (.error failure, files)
  | probe path next, files => (next (files.exists? path).1).carryOut (files.exists? path).2
  | text path next, files => (next (files.read path).1).carryOut (files.read path).2
  | nesting next, files => (next files.nesting).carryOut files
  | note _ next, files => next.carryOut files

/-- A lookup leaves the files as they were and the count higher by its questions. -/
theorem carryOut_eq (x : Lookup α) (files : Counted) :
    x.carryOut files =
      (x.answer files.fileSystem, files.after (x.questions files.fileSystem)) := by
  -- on the lookup; each question counts one and leaves the memory that answers the next ones
  induction x generalizing files with
  | done a => rfl
  | fail failure => rfl
  | probe path next ih =>
    rw [carryOut, ih]
    refine Prod.ext rfl ?_
    show (files.after 1).after _ = files.after (_ + 1)
    rw [Files.Counted.after_after, Nat.add_comm]
    rfl
  | text path next ih =>
    rw [carryOut, ih]
    refine Prod.ext rfl ?_
    show (files.after 1).after _ = files.after (_ + 1)
    rw [Files.Counted.after_after, Nat.add_comm]
    rfl
  | nesting next ih =>
    rw [carryOut, ih]
    rfl
  | note line next ih =>
    rw [carryOut, ih]
    rfl

end Lookup

end ModuleResolution
