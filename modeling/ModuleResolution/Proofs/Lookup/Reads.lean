import ModuleResolution.Proofs.Lookup.Answer

/-!
# The files that a lookup reads

`Lookup.reads` lists the paths whose text a lookup asks for on a file system. A sequence reads what
its first lookup reads and, if that has an answer, what the rest reads (`reads_bind`). A lookup that
is `ReadFree` reads nothing (`ReadFree.reads_eq_nil`).
-/

set_option autoImplicit false

namespace ModuleResolution.Lookup

universe u

variable {α β : Type u}

/-- The paths whose text a lookup asks for, in order. -/
def reads (fs : FileSystem) : Lookup α → List String
  | done _ => []
  | fail _ => []
  | probe path next => (next (fs.exists? path)).reads fs
  | text path next => path :: (next (fs.read path)).reads fs
  | nesting next => (next fs.nesting).reads fs
  | note _ next => next.reads fs

@[simp] theorem reads_read (fs : FileSystem) (path : String) : (read path).reads fs = [path] := by
  unfold read reads
  cases fs.read path <;> rfl

@[simp] theorem reads_room (fs : FileSystem) : room.reads fs = [] :=
  rfl

@[simp] theorem reads_ofExcept (fs : FileSystem) (r : Except Failure α) :
    (ofExcept r).reads fs = [] := by
  cases r <;> rfl

/-- A sequence reads what its first lookup reads and, unless that fails, what the rest reads. -/
theorem reads_bind (fs : FileSystem) (x : Lookup α) (f : α → Lookup β) :
    (x >>= f).reads fs =
      x.reads fs ++
        match x.answer fs with
        | .ok a => (f a).reads fs
        | .error _ => [] := by
  -- on the first lookup; the second one stands at its leaves
  induction x with
  | done a => rfl
  | fail failure => rfl
  | probe path next ih => exact ih (fs.exists? path)
  | text path next ih => exact congrArg (path :: ·) (ih (fs.read path))
  | nesting next ih => exact ih fs.nesting
  | note line next ih => exact ih

theorem reads_bind_of_ok {fs : FileSystem} {x : Lookup α} {a : α} (h : x.answer fs = .ok a)
    (f : α → Lookup β) : (x >>= f).reads fs = x.reads fs ++ (f a).reads fs := by
  rw [reads_bind, h]

theorem reads_bind_of_error {fs : FileSystem} {x : Lookup α} {failure : Failure}
    (h : x.answer fs = .error failure) (f : α → Lookup β) :
    (x >>= f).reads fs = x.reads fs := by
  rw [reads_bind, h, List.append_nil]

theorem ReadFree.reads_eq_nil {x : Lookup α} (hx : ReadFree x) (fs : FileSystem) :
    x.reads fs = [] := by
  induction hx with
  | done a => rfl
  | fail failure => rfl
  | probe _ ih => exact ih _
  | note _ ih => exact ih

end ModuleResolution.Lookup
