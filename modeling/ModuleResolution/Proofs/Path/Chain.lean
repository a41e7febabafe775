import Mathlib.Data.List.Infix
import Mathlib.Data.List.Iterate
import ModuleResolution.Proofs.Path.Rooted

/-!
# The chain of directories above a path

The chain of a path goes from parent to parent until a directory is its own parent, the root of the
path (`chain_eq_iterate`). The number of steps that a climb may take is never what ends it: each
parent is shorter than its path, so a root is met in time. For the same reason a chain has no
repetition (`shortening_chain`).

The chain of a path in normal form has one directory for every beginning of its segments, the
longest first (`chain_segments`). It ends at the slashes that the path starts with: at no text, one
slash or two (`getLast?_ancestors`). So above an absolute path are all the directories that it lies
below (`mem_ancestors_iff`).
-/

set_option autoImplicit false

namespace ModuleResolution.Path

/-! ## Climbing to the root -/

/-- After `n` steps from a path to its parents one has come to its root, the first directory that is
its own parent. -/
structure RootAt (dir : String) (n : Nat) : Prop where
  root : parent (parent^[n] dir) = parent^[n] dir
  before : ∀ k < n, parent (parent^[k] dir) ≠ parent^[k] dir

section Climb

variable {dir : String} {n m steps : Nat}

theorem RootAt.zero (h : parent dir = dir) : RootAt dir 0 :=
  ⟨h, fun _ k => absurd k (Nat.not_lt_zero _)⟩

/-- Below a root there is one step more to go. -/
theorem RootAt.succ (h : parent dir ≠ dir) (above : RootAt (parent dir) n) :
    RootAt dir (n + 1) where
  root := above.root
  before k lower := by
    cases k with
    | zero => exact h
    | succ k => exact above.before k (Nat.lt_of_succ_lt_succ lower)

theorem RootAt.unique (first : RootAt dir n) (second : RootAt dir m) : n = m := by
  rcases Nat.lt_trichotomy n m with lower | same | higher
  · exact absurd first.root (second.before n lower)
  · exact same
  · exact absurd second.root (first.before m higher)

/-- With enough steps a climb goes through all parents up to the root. -/
theorem exists_climb_eq_iterate (enough : dir.toList.length ≤ steps) :
    ∃ n, RootAt dir n ∧ climb steps dir = List.iterate parent dir (n + 1) := by
  induction steps generalizing dir with
  | zero =>
    -- only the empty text needs no steps, and it is its own parent
    have empty : dir = "" := by simpa using enough
    subst empty
    exact ⟨0, .zero rfl, rfl⟩
  | succ steps ih =>
    by_cases root : parent dir = dir
    · exact ⟨0, .zero root, by rw [climb, if_pos root]; rfl⟩
    · have shorter := length_parent_lt root
      have enough_above : (parent dir).toList.length ≤ steps := by omega
      obtain ⟨n, above, climbed⟩ := ih enough_above
      exact ⟨n + 1, above.succ root, by rw [climb, if_neg root, climbed]; rfl⟩

/-- A chain is its path and the parents of its path up to the root. -/
theorem chain_eq_iterate (dir : String) :
    ∃ n, RootAt dir n ∧ chain dir = List.iterate parent dir (n + 1) :=
  exists_climb_eq_iterate (Nat.le_refl _)

/-- More steps than a chain needs change nothing. -/
theorem climb_eq_chain (enough : dir.toList.length ≤ steps) : climb steps dir = chain dir := by
  obtain ⟨n, first, climbed⟩ := exists_climb_eq_iterate enough
  obtain ⟨m, second, chained⟩ := chain_eq_iterate dir
  rw [climbed, chained, first.unique second]

theorem chain_of_root (h : parent dir = dir) : chain dir = [dir] := by
  obtain ⟨n, root, chained⟩ := chain_eq_iterate dir
  rw [chained, root.unique (.zero h)]
  rfl

/-- The chain of a path that is no root goes on with that of its parent. -/
theorem chain_of_ne (h : parent dir ≠ dir) : chain dir = dir :: chain (parent dir) := by
  obtain ⟨n, above, chained⟩ := chain_eq_iterate (parent dir)
  obtain ⟨m, root, whole⟩ := chain_eq_iterate dir
  rw [whole, chained, root.unique (above.succ h)]
  rfl

end Climb

/-! ## Chains without repetition -/

theorem length_iterate_parent_le (dir : String) (k : Nat) :
    (parent^[k] dir).length ≤ dir.length := by
  induction k with
  | zero => exact Nat.le_refl _
  | succ k ih =>
    rw [Function.iterate_succ_apply']
    refine Nat.le_trans ?_ ih
    rw [← String.length_toList, ← String.length_toList, parent, String.toList_ofList]
    exact length_parentChars_le _

theorem mem_chain_length_le {dir above : String} (member : above ∈ chain dir) :
    above.length ≤ dir.length := by
  obtain ⟨n, -, chained⟩ := chain_eq_iterate dir
  rw [chained, List.mem_iterate] at member
  obtain ⟨k, -, rfl⟩ := member
  exact length_iterate_parent_le dir k

/-- Every directory of a chain is shorter than those before it. -/
theorem shortening_chain (dir : String) :
    (chain dir).Pairwise fun inner outer => outer.length < inner.length := by
  -- on the number of parents up to the root
  obtain ⟨n, root, -⟩ := chain_eq_iterate dir
  induction n generalizing dir with
  | zero =>
    have last : parent dir = dir := root.root
    rw [chain_of_root last]
    exact List.pairwise_singleton _ _
  | succ n ih =>
    have inner : parent dir ≠ dir := root.before 0 (Nat.succ_pos n)
    have shorter := length_parent_lt inner
    rw [String.length_toList, String.length_toList] at shorter
    rw [chain_of_ne inner, List.pairwise_cons]
    refine ⟨fun above member => Nat.lt_of_le_of_lt (mem_chain_length_le member) shorter,
      ih (parent dir) ⟨root.root, fun k lower => ?_⟩⟩
    exact root.before (k + 1) (Nat.succ_lt_succ lower)

theorem nodup_chain (dir : String) : (chain dir).Nodup := by
  refine (shortening_chain dir).imp ?_
  rintro inner outer shorter rfl
  exact Nat.lt_irrefl _ shorter

/-! ## Chains of normal paths -/

theorem parentChars_replicate (n : Nat) :
    parentChars (List.replicate n '/') = List.replicate n '/' := by
  have cut : splitName (List.replicate n '/') = (List.replicate n '/', []) := by
    cases n with
    | zero => rfl
    | succ n =>
      have last := @splitName_append_slash [] (by simp) (List.replicate n '/')
      rwa [← List.replicate_succ'] at last
  rw [parentChars, cut, dropClosingSlashes_replicate]

theorem length_segmentChars_lt (slashes : Nat) {segs : List Segment} {last : Segment}
    (plain : Plain (segs ++ [last])) :
    (segmentChars slashes segs).length < (segmentChars slashes (segs ++ [last])).length := by
  have nonempty : 0 < last.length := List.length_pos_iff.2 (plain last (by simp)).1
  rw [segmentChars, segmentChars, List.length_append, List.length_append]
  by_cases single : segs = []
  · subst single
    simpa [Text.joinWith] using nonempty
  · rw [joinWith_append single (List.cons_ne_nil last []), List.length_append, List.length_cons]
    omega

/-- The chain of a path that is spelled by segments has one directory for every beginning of the
segments. -/
theorem chain_segments (slashes : Nat) {segs : List Segment} (plain : Plain segs) :
    chain (spelled slashes segs) = segs.inits.reverse.map (spelled slashes) := by
  -- from the last segment, which the first step takes off
  induction segs using List.reverseRecOn with
  | nil =>
    refine chain_of_root ?_
    rw [parent, toList_spelled, spelled, segmentChars, Text.joinWith, List.append_nil,
      parentChars_replicate]
  | append_singleton segs last ih =>
    have above : parent (spelled slashes (segs ++ [last])) = spelled slashes segs := by
      rw [parent, toList_spelled, parentChars_segments slashes plain, spelled]
    have further :
        parent (spelled slashes (segs ++ [last])) ≠ spelled slashes (segs ++ [last]) := by
      rw [above]
      intro same
      have shorter := length_segmentChars_lt slashes plain
      rw [String.ofList_inj.1 same] at shorter
      exact Nat.lt_irrefl _ shorter
    rw [chain_of_ne further, above, ih fun seg member => plain seg (List.mem_append_left _ member),
      List.inits_append]
    simp

/-! ## The directories above a path -/

/-- A path in normal form is spelled by its slashes and segments, unless it has none of either. -/
theorem normalize_eq_spelled {path : String}
    (text : rootSlashes path.toList ≠ 0 ∨ normalSegments path.toList ≠ []) :
    normalize path = spelled (rootSlashes path.toList) (normalSegments path.toList) := by
  rcases text with slashes | segs
  · exact normalize_of_isAbsolute (isAbsolute_iff.2 slashes)
  · rw [normalize, normalizeChars_eq_segmentChars segs, spelled]

/-- The directories above a path are spelled by its slashes and the beginnings of its segments, the
longest first. A path without slashes and segments is the dot and has the empty text above it. -/
theorem ancestors_eq (path : String) :
    ancestors path =
      if rootSlashes path.toList = 0 ∧ normalSegments path.toList = [] then [".", ""]
      else (normalSegments path.toList).inits.reverse.map (spelled (rootSlashes path.toList)) := by
  rw [ancestors]
  by_cases empty : rootSlashes path.toList = 0 ∧ normalSegments path.toList = []
  · have dot : normalize path = "." := by
      rw [normalize, normalizeChars, empty.1, empty.2]
      rfl
    rw [if_pos empty, dot]
    rfl
  · rw [if_neg empty, normalize_eq_spelled (by tauto),
      chain_segments _ (plain_normalSegments path.toList)]

/-- The last directory above a path is its root: the slashes that it starts with. -/
theorem getLast?_ancestors (path : String) :
    (ancestors path).getLast? =
      some (String.ofList (List.replicate (rootSlashes path.toList) '/')) := by
  rw [ancestors_eq]
  split
  · rename_i empty
    rw [empty.1]
    rfl
  · rw [List.getLast?_map, List.getLast?_reverse]
    cases normalSegments path.toList <;> simp [spelled, segmentChars, Text.joinWith]

/-- Above an absolute path are the directories, in normal form, that it lies below. -/
theorem mem_ancestors_iff {path dir : String} (absolute : isAbsolute path = true) :
    dir ∈ ancestors path ↔ normalize dir = dir ∧ (dir = normalize path ∨ Below dir path) := by
  have rooted := rooted_normalSegments absolute
  have slashes := isAbsolute_iff.1 absolute
  rw [ancestors_eq, if_neg fun empty => slashes empty.1, List.mem_map]
  simp only [List.mem_reverse, List.mem_inits]
  constructor
  · rintro ⟨front, ⟨inner, whole⟩, rfl⟩
    rw [← whole] at rooted
    have start := rooted.of_append
    refine ⟨start.normalize_eq, ?_⟩
    by_cases last : inner = []
    · left
      rw [last, List.append_nil] at whole
      rw [normalize_of_isAbsolute absolute, ← whole]
    · right
      refine ⟨?_, inner, last, fun up => ?_, ?_⟩
      · rw [toList_spelled, start.rootSlashes_eq]
      · exact rooted.parentSegment_notMem (List.mem_append_right front up)
      · rw [toList_spelled, start.normalSegments_eq, whole]
  · rintro ⟨normal, rfl | ⟨same, inner, -, -, whole⟩⟩
    · exact ⟨_, List.prefix_refl _, (normalize_of_isAbsolute absolute).symm⟩
    · refine ⟨normalSegments dir.toList, ⟨inner, whole.symm⟩, ?_⟩
      have rooted_dir : isAbsolute dir = true := isAbsolute_iff.2 (same ▸ slashes)
      rw [same, ← normalize_of_isAbsolute rooted_dir, normal]

/-- The directories from the normal form of a path upwards: each is the parent of the one before it,
up to the first that is its own parent. -/
structure Upward (start : String) (dirs : List String) : Prop where
  parents : ∃ n, RootAt (normalize start) n ∧ dirs = List.iterate parent (normalize start) (n + 1)
  shortening : dirs.Pairwise fun inner outer => outer.length < inner.length
  distinct : dirs.Nodup
  root : ∃ root ∈ ["", "/", "//"], dirs.getLast? = some root
  absolute : isAbsolute start = true → ∀ dir,
    dir ∈ dirs ↔ normalize dir = dir ∧ (dir = normalize start ∨ Below dir start)

theorem upward_ancestors (start : String) : Upward start (ancestors start) where
  parents := chain_eq_iterate (normalize start)
  shortening := shortening_chain (normalize start)
  distinct := nodup_chain (normalize start)
  root := by
    have few : rootSlashes start.toList = 0 ∨ rootSlashes start.toList = 1 ∨
        rootSlashes start.toList = 2 := by
      have most := rootSlashes_le start.toList
      omega
    refine ⟨_, ?_, getLast?_ancestors start⟩
    rcases few with h | h | h <;> (rw [h]; decide)
  absolute absolute _ := mem_ancestors_iff absolute

end ModuleResolution.Path
