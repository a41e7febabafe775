import ModuleResolution.Proofs.Path.Below

/-!
# Paths that lead into a directory

A relative path with a name among its segments and without `..` leads below whatever directory it is
joined to (`Inward.below_join`). A path that begins with neither a slash nor a dot has such a name,
its first segment (`inward_cons`), and an ending of a file name does not change where it leads
(`Inward.append`).
-/

set_option autoImplicit false

namespace ModuleResolution.Path

open Text (splitOn)

/-! ## Below and below -/

section Below

variable {dir inner path : String}

theorem Below.trans (outer : Below dir inner) (below : Below inner path) : Below dir path := by
  obtain ⟨slashes, first, some_first, level, segs⟩ := outer
  obtain ⟨slashes', second, -, level', segs'⟩ := below
  refine ⟨slashes'.trans slashes, first ++ second, ?_, ?_, ?_⟩
  · exact List.append_ne_nil_of_left_ne_nil some_first second
  · rw [List.mem_append, not_or]
    exact ⟨level, level'⟩
  · rw [segs', segs, List.append_assoc]

/-- A path below a directory has segments, even if the directory has none. -/
theorem Below.normalSegments_ne_nil (below : Below dir path) :
    normalSegments path.toList ≠ [] := by
  obtain ⟨-, first, some_first, -, segs⟩ := below
  rw [segs]
  exact List.append_ne_nil_of_right_ne_nil _ some_first

end Below

/-! ## Inward paths -/

/-- A path that leads into every directory that it is joined to: it is relative, no segment of it
leads up, and some segment is a name. -/
structure Inward (rest : List Char) : Prop where
  relative : rest.head? ≠ some '/'
  level : parentSegment ∉ splitOn '/' rest
  named : ∃ seg ∈ splitOn '/' rest, IsName seg

/-- Without `..`, segments are put on top of a stack, the names among them at least. -/
theorem exists_foldl_level {segs : List Segment} (level : parentSegment ∉ segs) (rooted : Bool)
    (done : List Segment) : ∃ inner, parentSegment ∉ inner ∧
      (∀ seg ∈ segs, IsName seg → seg ∈ inner) ∧
      segs.foldl (pushSegment rooted) done = inner ++ done := by
  induction segs generalizing done with
  | nil => exact ⟨[], by simp, by simp, rfl⟩
  | cons seg segs ih =>
    rw [List.mem_cons, not_or] at level
    rcases segment_cases seg with skipped | up | named
    · obtain ⟨inner, plain, names, pushed⟩ := ih level.2 done
      refine ⟨inner, plain, ?_, ?_⟩
      · intro other member named
        rcases List.mem_cons.1 member with rfl | further
        · exact absurd skipped (not_or.2 ⟨named.1, named.2.1⟩)
        · exact names other further named
      · rw [List.foldl_cons, pushSegment_of_skipped skipped, pushed]
    · exact absurd up.symm level.1
    · obtain ⟨inner, plain, names, pushed⟩ := ih level.2 (seg :: done)
      refine ⟨inner ++ [seg], ?_, ?_, ?_⟩
      · rw [List.mem_append, List.mem_singleton, not_or]
        exact ⟨plain, level.1⟩
      · intro other member isName
        rcases List.mem_cons.1 member with rfl | further
        · exact List.mem_append_right _ List.mem_cons_self
        · exact List.mem_append_left _ (names other further isName)
      · rw [List.foldl_cons, pushSegment_name named, pushed, List.append_assoc]
        rfl

theorem Inward.below_join {rest : String} (inward : Inward rest.toList) (dir : String) :
    Below dir (join dir rest) := by
  obtain ⟨relative, level, seg, member, named⟩ := inward
  have chars : (join dir rest).toList = joinChars dir.toList rest.toList := String.toList_ofList
  obtain ⟨inner, plain, names, pushed⟩ := exists_foldl_level level
    (rootSlashes dir.toList != 0) (normalStack dir.toList)
  rw [below_iff, chars, rootSlashes_joinChars relative, normalStack_joinChars relative, pushed]
  exact ⟨rfl, inner, List.ne_nil_of_mem (names seg member named), plain, rfl⟩

theorem Inward.ne_nil {rest : List Char} (inward : Inward rest) : rest ≠ [] := by
  rintro rfl
  obtain ⟨seg, member, named⟩ := inward.named
  rw [splitOn, List.mem_singleton] at member
  exact named.1 member

/-- Two names climb nothing with whatever segment between them. -/
theorem climbs_between {first last : Segment} (hfirst : IsName first) (hlast : IsName last)
    (seg : Segment) : climbs ([first, seg] ++ [last]) = 0 := by
  have alone : resolved ([first, seg] ++ [last]) = last :: pushSegment false [first] seg := by
    rw [resolved, List.foldl_append]
    exact (pushSegment_name hlast).trans
      (congrArg (fun done => last :: pushSegment false done seg) (pushSegment_name hfirst))
  rw [climbs, alone, List.count_eq_zero, List.mem_cons, not_or]
  refine ⟨Ne.symm hlast.2.2, ?_⟩
  -- the segment takes back the first name at most
  rcases segment_cases seg with skipped | rfl | named
  · rw [pushSegment_of_skipped skipped]
    simpa using Ne.symm hfirst.2.2
  · rw [pushSegment_parent_cons hfirst.2.2]
    exact List.not_mem_nil
  · rw [pushSegment_name named]
    simpa using ⟨Ne.symm named.2.2, Ne.symm hfirst.2.2⟩

/-! ## Which paths lead inward -/

/-- The first piece of a text begins with its first character, unless that separates. -/
theorem exists_splitOn_cons {sep c : Char} (h : c ≠ sep) (cs : List Char) :
    ∃ piece pieces, splitOn sep (c :: cs) = (c :: piece) :: pieces := by
  rw [splitOn, if_neg h]
  split
  · exact ⟨[], [], rfl⟩
  · rename_i piece pieces _
    exact ⟨piece, pieces, rfl⟩

/-- A path that begins with neither a slash nor a dot begins with a name. -/
theorem inward_cons {c : Char} {cs : List Char} (slash : c ≠ '/') (dot : c ≠ '.')
    (level : parentSegment ∉ splitOn '/' (c :: cs)) : Inward (c :: cs) := by
  obtain ⟨piece, pieces, split⟩ := exists_splitOn_cons slash cs
  refine ⟨by simpa using slash, level, c :: piece, ?_, ?_⟩
  · rw [split]
    exact List.mem_cons_self
  · refine ⟨by simp, by simp [dot], ?_⟩
    rintro up
    exact dot (List.head_eq_of_cons_eq up)

/-- What is put behind a text without a separator goes to its last piece. -/
theorem exists_splitOn_append {sep : Char} {ending : List Char} (plain : sep ∉ ending)
    (cs : List Char) : ∃ front last, splitOn sep cs = front ++ [last] ∧
      splitOn sep (cs ++ ending) = front ++ [last ++ ending] := by
  induction cs with
  | nil => exact ⟨[], [], rfl, Text.splitOn_of_not_mem plain⟩
  | cons c cs ih =>
    obtain ⟨front, last, split, longer⟩ := ih
    rw [List.cons_append, splitOn, splitOn, split, longer]
    by_cases h : c = sep
    · rw [if_pos h, if_pos h]
      exact ⟨[] :: front, last, rfl, rfl⟩
    · rw [if_neg h, if_neg h]
      cases front with
      | nil => exact ⟨[], c :: last, rfl, rfl⟩
      | cons piece front => exact ⟨(c :: piece) :: front, last, rfl, rfl⟩

/-- An ending as long as that of a file name can be put behind a path that leads inward. -/
theorem Inward.append {rest ending : List Char} (inward : Inward rest) (plain : '/' ∉ ending)
    (long : 2 < ending.length) : Inward (rest ++ ending) := by
  obtain ⟨front, last, split, longer⟩ := exists_splitOn_append plain rest
  have file : IsName (last ++ ending) := by
    apply isName_of_length
    rw [List.length_append]
    omega
  constructor
  · rw [List.head?_append_of_ne_nil _ inward.ne_nil]
    exact inward.relative
  · have level := inward.level
    rw [split, List.mem_append, not_or] at level
    rw [longer, List.mem_append, List.mem_singleton, not_or]
    exact ⟨level.1, Ne.symm file.2.2⟩
  · refine ⟨last ++ ending, ?_, file⟩
    rw [longer]
    exact List.mem_append_right _ List.mem_cons_self

end ModuleResolution.Path
