import ModuleResolution.Path.Ancestors
import ModuleResolution.Proofs.Path.Below

/-!
# Directories and their parents

A parent is the beginning of its path, so a path that is not its own parent is longer than it
(`length_parent_lt`). A path that is spelled by segments has the path of all segments but the last
one as its parent (`parentChars_segments`), down to its root. So, stepping from a normal path to its
parents, one comes to the normal form of every directory that it lies below
(`Below.of_parents`).
-/

set_option autoImplicit false

namespace ModuleResolution.Path

open Text (splitOn joinWith dropEndWhile)

/-! ## Parents are shorter -/

theorem prefix_splitName (cs : List Char) : (splitName cs).1 <+: cs :=
  ⟨(splitName cs).2, splitName_append cs⟩

theorem prefix_dropClosingSlashes (cs : List Char) : dropClosingSlashes cs <+: cs := by
  rw [dropClosingSlashes]
  split
  · exact List.prefix_refl cs
  · rw [dropEndWhile, ← List.reverse_suffix, List.reverse_reverse]
    exact List.dropWhile_suffix _

theorem prefix_parentChars (cs : List Char) : parentChars cs <+: cs :=
  (prefix_dropClosingSlashes _).trans (prefix_splitName cs)

/-- A path that is not its own parent is longer than it. -/
theorem length_parent_lt {dir : String} (h : parent dir ≠ dir) :
    (parent dir).toList.length < dir.toList.length := by
  have start : (parent dir).toList <+: dir.toList := by
    rw [parent, String.toList_ofList]
    exact prefix_parentChars dir.toList
  refine Nat.lt_of_le_of_ne start.length_le fun same => h ?_
  exact String.toList_inj.1 (start.eq_of_length same)

/-! ## Parents of spelled paths -/

/-- The characters that a number of leading slashes and segments spell. -/
def segmentChars (slashes : Nat) (segs : List Segment) : List Char :=
  List.replicate slashes '/' ++ joinWith '/' segs

/-- Segments that name entries of directories or lead up: each is a piece between slashes. -/
def Plain (segs : List Segment) : Prop :=
  ∀ seg ∈ segs, seg ≠ [] ∧ '/' ∉ seg

theorem splitName_of_notMem {cs : List Char} (h : '/' ∉ cs) : splitName cs = ([], cs) := by
  induction cs with
  | nil => rfl
  | cons c cs ih =>
    rw [List.mem_cons, not_or] at h
    rw [splitName, ih h.2]
    simp [Ne.symm h.1]

/-- A path is cut behind its last slash. -/
theorem splitName_append_slash {after : List Char} (h : '/' ∉ after) (before : List Char) :
    splitName (before ++ '/' :: after) = (before ++ ['/'], after) := by
  induction before with
  | nil =>
    rw [List.nil_append, splitName, splitName_of_notMem h]
    rfl
  | cons c before ih =>
    rw [List.cons_append, splitName, ih]
    simp

theorem dropClosingSlashes_replicate (n : Nat) :
    dropClosingSlashes (List.replicate n '/') = List.replicate n '/' := by
  rw [dropClosingSlashes, if_pos]
  simp

/-- Closing slashes are dropped down to the last other character. -/
theorem dropClosingSlashes_append {front : List Char} {c : Char} (h : c ≠ '/') :
    dropClosingSlashes (front ++ [c] ++ ['/']) = front ++ [c] := by
  have other : ¬ (front ++ [c] ++ ['/']).all (· == '/') = true := by simp [h]
  rw [dropClosingSlashes, if_neg other, dropEndWhile]
  simp [h]

/-- A path ends with its last segment. -/
theorem exists_segmentChars_append (slashes : Nat) (segs : List Segment) (last : Segment) :
    ∃ front, segmentChars slashes (segs ++ [last]) = front ++ last := by
  rw [segmentChars]
  by_cases none : segs = []
  · subst none
    exact ⟨List.replicate slashes '/', rfl⟩
  · rw [joinWith_append none (by simp)]
    exact ⟨List.replicate slashes '/' ++ joinWith '/' segs ++ ['/'], by simp [joinWith]⟩

/-- A path without its last segment is its parent. -/
theorem parentChars_segments (slashes : Nat) {segs : List Segment} {last : Segment}
    (plain : Plain (segs ++ [last])) :
    parentChars (segmentChars slashes (segs ++ [last])) = segmentChars slashes segs := by
  have noSlash : '/' ∉ last := (plain last (by simp)).2
  rcases List.eq_nil_or_concat segs with rfl | ⟨front, seg, rfl⟩
  -- a single segment stands behind the root, which is its parent
  · have cut : (splitName (List.replicate slashes '/' ++ last)).1 =
        List.replicate slashes '/' := by
      cases slashes with
      | zero => rw [List.replicate_zero, List.nil_append, splitName_of_notMem noSlash]
      | succ n =>
        rw [List.replicate_succ', List.append_assoc, List.singleton_append,
          splitName_append_slash noSlash]
    rw [parentChars, segmentChars, List.nil_append, joinWith, cut, dropClosingSlashes_replicate,
      segmentChars, joinWith, List.append_nil]
  -- more segments are cut behind the slash, and what is before it ends in no slash
  · rw [List.concat_eq_append] at plain ⊢
    obtain ⟨nonempty, inner⟩ := plain seg (by simp)
    have joined : segmentChars slashes (front ++ [seg] ++ [last]) =
        segmentChars slashes (front ++ [seg]) ++ '/' :: last := by
      rw [segmentChars, segmentChars, joinWith_append (by simp) (by simp), List.append_assoc]
      rfl
    rw [parentChars, joined, splitName_append_slash noSlash]
    obtain ⟨start, whole⟩ := exists_segmentChars_append slashes front seg
    rcases List.eq_nil_or_concat seg with rfl | ⟨cs, c, rfl⟩
    · exact absurd rfl nonempty
    · rw [List.concat_eq_append] at whole inner ⊢
      have other : c ≠ '/' := by
        rintro rfl
        exact inner (by simp)
      rw [whole, ← List.append_assoc]
      exact dropClosingSlashes_append other

/-! ## Normal paths -/

theorem mem_pushSegment {rooted : Bool} {done : List Segment} {seg other : Segment}
    (h : other ∈ pushSegment rooted done seg) : other ∈ done ∨ other = seg := by
  rcases segment_cases seg with skipped | rfl | named
  · rw [pushSegment_of_skipped skipped] at h
    exact .inl h
  · cases done with
    | nil => cases rooted <;> simp_all [pushSegment, parentSegment]
    | cons top done =>
      by_cases up : top = parentSegment
      · subst up
        exact (List.mem_cons.1 h).symm
      · rw [pushSegment_parent_cons up] at h
        exact .inl (List.mem_cons_of_mem top h)
  · rw [pushSegment_name named] at h
    exact (List.mem_cons.1 h).symm

/-- Every segment of a stack was there before, or was pushed. -/
theorem mem_foldl_pushSegment {rooted : Bool} {segs done : List Segment} {other : Segment}
    (h : other ∈ segs.foldl (pushSegment rooted) done) : other ∈ done ∨ other ∈ segs := by
  induction segs generalizing done with
  | nil => exact .inl h
  | cons seg segs ih =>
    rcases ih h with before | later
    · rcases mem_pushSegment before with before | rfl
      · exact .inl before
      · exact .inr List.mem_cons_self
    · exact .inr (List.mem_cons_of_mem seg later)

/-- The segments of a normal form are pieces of the path. -/
theorem plain_normalSegments (cs : List Char) : Plain (normalSegments cs) := by
  intro seg member
  constructor
  · rintro rfl
    exact nil_notMem_normalSegments cs member
  · rw [normalSegments, List.mem_reverse] at member
    rcases mem_foldl_pushSegment member with none | piece
    · exact absurd none List.not_mem_nil
    · exact Text.not_mem_of_mem_splitOn piece

theorem segmentChars_ne_nil (slashes : Nat) {segs : List Segment} (plain : Plain segs)
    (further : segs ≠ []) : segmentChars slashes segs ≠ [] := by
  have text := @joinWith_ne_nil '/' segs further fun h => (plain [] h).1 rfl
  rw [segmentChars]
  exact List.append_ne_nil_of_right_ne_nil _ text

theorem normalizeChars_eq_segmentChars {cs : List Char} (h : normalSegments cs ≠ []) :
    normalizeChars cs = segmentChars (rootSlashes cs) (normalSegments cs) :=
  normalizeChars_of_ne_nil h

/-- A property that goes from paths to their parents goes from a path that is spelled by segments to
the one spelled by the first of them. -/
theorem holds_of_segments {holds : String → Prop}
    (up : ∀ path, holds path → parent path ≠ "" → holds (parent path)) {slashes : Nat}
    {front : List Segment} (start : front ≠ []) {inner : List Segment}
    (plain : Plain (front ++ inner))
    (h : holds (String.ofList (segmentChars slashes (front ++ inner)))) :
    holds (String.ofList (segmentChars slashes front)) := by
  -- step by step from the last segment to the first ones
  induction inner using List.reverseRecOn with
  | nil => rwa [List.append_nil] at h
  | append_singleton inner last ih =>
    rw [← List.append_assoc] at plain h
    have shorter : Plain (front ++ inner) := fun seg member =>
      plain seg (List.mem_append_left _ member)
    have above : parent (String.ofList (segmentChars slashes (front ++ inner ++ [last]))) =
        String.ofList (segmentChars slashes (front ++ inner)) := by
      rw [parent, String.toList_ofList, parentChars_segments slashes plain]
    have text : String.ofList (segmentChars slashes (front ++ inner)) ≠ "" := by
      intro empty
      refine segmentChars_ne_nil slashes shorter (by simp [start]) ?_
      simpa using congrArg String.toList empty
    apply ih shorter
    rw [← above] at text ⊢
    exact up _ h text

/-- A property that goes from paths to their parents goes from the normal form of a path to that of
every directory with segments that the path lies below. -/
theorem Below.of_parents {holds : String → Prop}
    (up : ∀ path, holds path → parent path ≠ "" → holds (parent path)) {dir path : String}
    (below : Below dir path) (inside : normalSegments dir.toList ≠ [])
    (h : holds (normalize path)) : holds (normalize dir) := by
  obtain ⟨slashes, inner, -, -, segs⟩ := below
  have plain := plain_normalSegments path.toList
  have longer : normalSegments path.toList ≠ [] := by simp [segs, inside]
  rw [normalize, normalizeChars_eq_segmentChars longer, slashes, segs] at h
  rw [segs] at plain
  rw [normalize, normalizeChars_eq_segmentChars inside]
  exact holds_of_segments up inside plain h

end ModuleResolution.Path
