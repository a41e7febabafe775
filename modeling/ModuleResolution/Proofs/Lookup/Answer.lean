import ModuleResolution.Lookup

/-!
# Answers of a lookup

`Lookup.answer` is what a lookup gives on a file system, without the count of its questions and
without its trace lines. It commutes with sequencing (`answer_bind`), so the answer of a lookup
written step by step is computed step by step.

`Lookup.ReadFree` holds of a lookup that asks for the text of no file, whatever it is answered. It
is closed under sequencing (`ReadFree.bind`), and such a lookup runs alike on all file systems in
which the same paths exist (`ReadFree.run_eq`).
-/

set_option autoImplicit false

namespace ModuleResolution.Lookup

universe u

variable {α β : Type u}

@[simp] theorem ok_bind (a : α) (f : α → Except Failure β) : (Except.ok a >>= f) = f a :=
  rfl

@[simp] theorem error_bind (failure : Failure) (f : α → Except Failure β) :
    (Except.error failure >>= f) = .error failure :=
  rfl

/-- What a lookup answers on a file system. -/
def answer (fs : FileSystem) (x : Lookup α) : Except Failure α :=
  (x.run fs).result

@[simp] theorem answer_pure (fs : FileSystem) (a : α) : (pure a : Lookup α).answer fs = .ok a :=
  rfl

@[simp] theorem answer_fail (fs : FileSystem) (failure : Failure) :
    (fail failure : Lookup α).answer fs = .error failure :=
  rfl

@[simp] theorem answer_bind (fs : FileSystem) (x : Lookup α) (f : α → Lookup β) :
    (x >>= f).answer fs = x.answer fs >>= fun a => (f a).answer fs := by
  unfold answer
  rw [run_bind, Report.andThen]
  cases h : (x.run fs).result with
  | error failure => rfl
  | ok a => rfl

@[simp] theorem answer_exists? (fs : FileSystem) (path : String) :
    (exists? path).answer fs = .ok (fs.exists? path) :=
  rfl

@[simp] theorem answer_read (fs : FileSystem) (path : String) :
    (read path).answer fs =
      match fs.read path with
      | .ok content => .ok content
      | .error fault => .error (.unreadable fault) := by
  unfold answer read run
  cases fs.read path with
  | error fault => rfl
  | ok content => rfl

@[simp] theorem answer_room (fs : FileSystem) : room.answer fs = .ok fs.nesting :=
  rfl

@[simp] theorem answer_ofExcept (fs : FileSystem) (r : Except Failure α) :
    (ofExcept r).answer fs = r := by
  cases r with
  | error failure => rfl
  | ok a => rfl

/-! ## Lookups that read no file -/

/-- A lookup that asks for the text of no file, whatever it is answered. -/
inductive ReadFree : Lookup α → Prop
  | done (a : α) : ReadFree (.done a)
  | fail (failure : Failure) : ReadFree (.fail failure)
  | probe {path : String} {next : Bool → Lookup α} (h : ∀ b, ReadFree (next b)) :
      ReadFree (.probe path next)
  | note {line : String} {next : Lookup α} (h : ReadFree next) : ReadFree (.note line next)

theorem ReadFree.pure (a : α) : ReadFree (Pure.pure a : Lookup α) :=
  .done a

theorem ReadFree.exists? (path : String) : ReadFree (exists? path) :=
  .probe fun b => .done b

theorem ReadFree.ofExcept (r : Except Failure α) : ReadFree (ofExcept r) := by
  cases r with
  | error failure => exact .fail failure
  | ok a => exact .done a

/-- Sequencing keeps a lookup free of reads. -/
theorem ReadFree.bind {x : Lookup α} {f : α → Lookup β} (hx : ReadFree x)
    (hf : ∀ a, ReadFree (f a)) : ReadFree (x >>= f) := by
  -- on the derivation for the first lookup; the second one stands at its leaves
  induction hx with
  | done a => exact hf a
  | fail failure => exact .fail failure
  | probe _ ih => exact .probe ih
  | note _ ih => exact .note ih

/-- A lookup that reads no file runs alike wherever the same paths exist. -/
theorem ReadFree.run_eq {x : Lookup α} (hx : ReadFree x) {fs other : FileSystem}
    (h : fs.exists? = other.exists?) : x.run fs = x.run other := by
  induction hx with
  | done a => rfl
  | fail failure => rfl
  | probe _ ih => simp only [run, h, ih]
  | note _ ih => simp only [run, ih]

end ModuleResolution.Lookup
