import Mathlib.Data.List.Induction
import Mathlib.Data.List.Basic

/-!
# First places

A list keeps every element at its first place if elements are put at its end one after the other,
unless they are there already. This collection is `List.eraseDups` (`foldl_addNew`), so it has no
duplicates and keeps the order of the first places (`pairwise_idxOf_eraseDups`).
-/

set_option autoImplicit false

namespace ModuleResolution.Text

variable {α : Type} [BEq α] [LawfulBEq α]

theorem eraseDups_append_singleton (xs : List α) (x : α) :
    (xs ++ [x]).eraseDups = if xs.contains x then xs.eraseDups else xs.eraseDups ++ [x] := by
  rw [List.eraseDups_append]
  cases h : xs.contains x with
  | true => simp_all [List.removeAll]
  | false => simp_all [List.removeAll, List.eraseDups_cons]

/-- Elements that are put at the end of a list one after the other, unless they are there. -/
theorem foldl_addNew (xs : List α) :
    xs.foldl (fun found x => if found.contains x then found else found ++ [x]) [] =
      xs.eraseDups := by
  -- from the last element, which finds all others collected
  induction xs using List.reverseRecOn with
  | nil => rfl
  | append_singleton xs x ih =>
    have same : xs.eraseDups.contains x = xs.contains x := by
      rw [Bool.eq_iff_iff, List.contains_iff_mem, List.contains_iff_mem, List.mem_eraseDups]
    rw [List.foldl_append, ih, List.foldl_cons, List.foldl_nil, same, eraseDups_append_singleton]

/-- First places are kept by a selection of elements. -/
theorem eraseDups_filter (p : α → Bool) (xs : List α) :
    (xs.filter p).eraseDups = xs.eraseDups.filter p := by
  induction xs using List.reverseRecOn with
  | nil => rfl
  | append_singleton xs x ih =>
    rw [List.filter_append, eraseDups_append_singleton]
    cases selected : p x with
    | false =>
      rw [List.filter_cons_of_neg (by simp [selected]), List.filter_nil, List.append_nil, ih]
      split <;> simp [selected]
    | true =>
      have same : (xs.filter p).contains x = xs.contains x := by
        simp [selected]
      rw [List.filter_cons_of_pos selected, List.filter_nil, eraseDups_append_singleton, same, ih]
      split <;> simp [selected]

/-- Behind the first places of a list come those of its continuation that are new. -/
theorem eraseDups_append_eq_filter (xs ys : List α) :
    (xs ++ ys).eraseDups = xs.eraseDups ++ ys.eraseDups.filter (!xs.eraseDups.contains ·) := by
  have new : ys.removeAll xs = ys.filter (!xs.eraseDups.contains ·) := by
    refine List.filter_congr fun y _ => ?_
    simp [List.mem_eraseDups]
  rw [List.eraseDups_append, new, eraseDups_filter]

/-- Every element stands where its first place is among the first places of the others. -/
theorem pairwise_idxOf_eraseDups (xs : List α) :
    xs.eraseDups.Pairwise fun x y => xs.idxOf x < xs.idxOf y := by
  induction xs using List.reverseRecOn with
  | nil => exact .nil
  | append_singleton xs x ih =>
    have before : xs.eraseDups.Pairwise fun y z => (xs ++ [x]).idxOf y < (xs ++ [x]).idxOf z := by
      refine ih.imp_of_mem fun {y z} hy hz later => ?_
      rw [List.idxOf_append_of_mem (List.mem_eraseDups.1 hy),
        List.idxOf_append_of_mem (List.mem_eraseDups.1 hz)]
      exact later
    rw [eraseDups_append_singleton]
    split
    · exact before
    · rename_i new
      rw [List.contains_iff_mem] at new
      refine List.pairwise_append.2 ⟨before, List.pairwise_singleton _ x, fun y hy z hz => ?_⟩
      -- the new element comes behind all of the old ones
      obtain rfl := List.mem_singleton.1 hz
      have old := List.mem_eraseDups.1 hy
      rw [List.idxOf_append_of_mem old, List.idxOf_append_of_notMem new]
      have inside := List.idxOf_lt_length_of_mem old
      omega

theorem nodup_eraseDups (xs : List α) : xs.eraseDups.Nodup := by
  refine (pairwise_idxOf_eraseDups xs).imp fun {x y} later same => ?_
  rw [same] at later
  exact Nat.lt_irrefl _ later

end ModuleResolution.Text
