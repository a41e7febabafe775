import ModuleResolution.Json.Value

/-!
# Targets of dependencies

A dependency leads to a file, given by its path. Dependency maps may also hold
numbers and truth values in place of a path; they are kept, and two of them are
the same target when they are equal as numbers, a truth value counting as zero
or one. Numbers with a point or an exponent are taken in double precision.
-/

set_option autoImplicit false

namespace ModuleResolution.Dependency

/-- What a dependency leads to. A real number is `mantissa` times two to the `exponent`. -/
inductive Target where
  | path (s : String)
  | integer (n : Int)
  | flag (b : Bool)
  | real (mantissa exponent : Int)
  | infinity (negative : Bool)
  | notANumber
  deriving DecidableEq, Repr, Inhabited

/-! ## Double precision -/

/-- The quotient rounded to the nearest integer, a half to the even one. -/
def roundQuotient (num den : Nat) : Nat :=
  let q := num / den
  let r := num % den
  if 2 * r < den then q else if den < 2 * r then q + 1 else q + q % 2

/-- A positive quotient in double precision: 53 binary digits, and none below the
place of two to the -1074. -/
def nearestBinary (num den : Nat) : Nat × Int :=
  let first : Int := (num.log2 : Int) - den.log2 - 53
  let scaled (exponent : Int) : Nat × Nat :=
    if 0 ≤ exponent then (num, den * Nat.pow 2 exponent.toNat)
    else (num * Nat.pow 2 (-exponent).toNat, den)
  let quotient (exponent : Int) : Nat := (scaled exponent).1 / (scaled exponent).2
  let exponent := max (-1074) (if Nat.pow 2 53 ≤ quotient first then first + 1 else first)
  (roundQuotient (scaled exponent).1 (scaled exponent).2, exponent)

/-- The target that a decimal number denotes. Powers of ten beyond the range of
double precision are not computed. -/
def Target.ofDecimal (d : Json.Decimal) : Target :=
  if d.vanishes then .real 0 0
  else if 400 < d.exponent then .infinity d.negative
  else
    let (m, e) :=
      if 0 ≤ d.exponent then nearestBinary (d.digits * Nat.pow 10 d.exponent.toNat) 1
      else nearestBinary d.digits (Nat.pow 10 (-d.exponent).toNat)
    if Nat.pow 2 1024 ≤ m * Nat.pow 2 e.toNat then .infinity d.negative
    else .real (if d.negative then -m else m) e

/-! ## Sameness -/

/-- The number that a target is, as a mantissa and a binary exponent. -/
def Target.number? : Target → Option (Int × Int)
  | .integer n => some (n, 0)
  | .flag b => some (if b then 1 else 0, 0)
  | .real m e => some (m, e)
  | _ => none

/-- Two binary numbers are equal. -/
def sameNumber : Int × Int → Int × Int → Bool
  | (m, e), (m', e') =>
    m * Nat.pow 2 (e - min e e').toNat = m' * Nat.pow 2 (e' - min e e').toNat

/-- Two targets are the same node of a graph. -/
def Target.same (a b : Target) : Bool :=
  match a.number?, b.number? with
  | some x, some y => sameNumber x y
  | _, _ => a = b

/-- The word by which a message names the kind of a target. -/
def Target.kind : Target → String
  | .path _ => "str"
  | .integer _ => "int"
  | .flag _ => "bool"
  | _ => "float"

@[simp] theorem Target.same_path (s t : String) :
    Target.same (.path s) (.path t) = decide (s = t) := by
  simp [Target.same, Target.number?]

/-- A path is the same node as itself only. -/
theorem Target.same_path_left (s : String) (t : Target) :
    Target.same (.path s) t = decide (t = .path s) := by
  simp [Target.same, Target.number?, eq_comm]

end ModuleResolution.Dependency
