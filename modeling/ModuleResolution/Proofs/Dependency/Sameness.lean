import ModuleResolution.Dependency.Index

/-!
# Same targets and same records

Two records are the same when they hold the same targets under the same references, in any order
(`Record.Same`); this is what the comparison of records decides (`Record.same_iff`), and every
record is the same as itself (`Record.same_self`).

Two records are alike when they hold equal targets under the same references (`Record.Alike`).
Alike records cannot be told apart by a comparison (`Record.Alike.same_eq`), whereas records that
are the same may hold a number in one and an equal truth value in the other.
-/

set_option autoImplicit false

namespace ModuleResolution.Dependency

theorem sameNumber_self (x : Int × Int) : sameNumber x x = true := by
  simp [sameNumber]

theorem Target.same_self (t : Target) : Target.same t t = true := by
  unfold Target.same
  cases t.number? with
  -- no number: compared by equality
  | none => simp
  -- a number: compared by value
  | some x => exact sameNumber_self x

namespace Record

/-- The records hold the same targets under the same references. -/
def Same (r s : Record) : Prop :=
  ∀ reference, Option.Rel (fun a b => Target.same a b = true) (r.get? reference) (s.get? reference)

/-- The comparison of records decides whether they are the same. -/
theorem same_iff {r s : Record} : Record.same r s = true ↔ Same r s :=
  Table.agrees_iff

theorem Same.refl (r : Record) : Same r r := by
  intro reference
  cases r.get? reference with
  | none => exact .none
  | some t => exact .some (Target.same_self t)

theorem same_self (r : Record) : Record.same r r = true :=
  same_iff.2 (Same.refl r)

/-- The records hold equal targets under the same references. -/
def Alike (r s : Record) : Prop :=
  ∀ reference, r.get? reference = s.get? reference

theorem Alike.same_eq {r r' s s' : Record} (hr : Alike r r') (hs : Alike s s') :
    Record.same r s = Record.same r' s' := by
  rw [Bool.eq_iff_iff, same_iff, same_iff]
  unfold Same
  simp only [hr _, hs _]

end Record

end ModuleResolution.Dependency
