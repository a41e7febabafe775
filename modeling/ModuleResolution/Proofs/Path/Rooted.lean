import Mathlib.Data.List.TakeWhile
import ModuleResolution.Proofs.Path.Inward
import ModuleResolution.Proofs.Path.Parents

/-!
# Normal paths that start at a root

The normal form of an absolute path is one slash or two and then names (`rooted_normalSegments`). A
text of this form reads back as it is written: it has these slashes and segments
(`Rooted.normalSegments_eq`), so that it is its own normal form.

What is put behind the normal form of an absolute path goes to its last segment, or is a segment at
the root (`normalSegments_normalize_append`). Hence a path that is joined to an absolute directory
without a step up, and then gets an ending, lies below the directory exactly if some segment of it
is a name, or the directory is a root (`below_normalize_join_append_iff`). Without a name it leads
to the directory itself (`normalize_join_of_nameless`).
-/

set_option autoImplicit false

namespace ModuleResolution.Path

open Text (splitOn joinWith)

/-! ## Absolute paths -/

theorem isAbsolute_iff_head {path : String} :
    isAbsolute path = true ↔ path.toList.head? = some '/' := by
  rw [isAbsolute, beq_iff_eq]

theorem rootSlashes_le (cs : List Char) : rootSlashes cs ≤ 2 := by
  rw [rootSlashes.eq_def]
  split <;> omega

theorem rootSlashes_cons_slash (cs : List Char) :
    rootSlashes ('/' :: cs) = 1 ∨ rootSlashes ('/' :: cs) = 2 := by
  rw [rootSlashes.eq_def]
  -- the next two characters decide
  split
  · exact .inl rfl
  · exact .inr rfl
  · exact .inl rfl
  · rename_i other
    exact absurd rfl (other cs)

theorem isAbsolute_iff {path : String} :
    isAbsolute path = true ↔ rootSlashes path.toList ≠ 0 := by
  rw [isAbsolute_iff_head]
  cases path.toList with
  | nil => decide
  | cons c cs =>
    constructor
    · intro slash
      cases slash
      rcases rootSlashes_cons_slash cs with h | h <;> omega
    · intro slashes
      by_contra other
      have plain : c ≠ '/' := fun h => other (congrArg some h)
      exact slashes (by simp [rootSlashes, plain])

/-- The directory of an absolute path is absolute. -/
theorem isAbsolute_parent {path : String} (h : isAbsolute path = true) :
    isAbsolute (parent path) = true := by
  rw [isAbsolute_iff_head] at h ⊢
  obtain ⟨cs, chars⟩ := List.head?_eq_some_iff.1 h
  have cut : (splitName path.toList).1 = '/' :: (splitName cs).1 := by
    simp [chars, splitName]
  have start := prefix_dropClosingSlashes ('/' :: (splitName cs).1)
  rw [parent, String.toList_ofList, parentChars, cut]
  cases dropped : dropClosingSlashes ('/' :: (splitName cs).1) with
  | nil =>
    -- only slashes are dropped, and not if there is nothing else
    rw [dropClosingSlashes] at dropped
    split at dropped
    · cases dropped
    · rename_i others
      rw [Text.dropEndWhile, List.reverse_eq_nil_iff, List.dropWhile_eq_nil_iff] at dropped
      refine absurd (List.all_eq_true.2 fun d member => ?_) others
      exact dropped d (List.mem_reverse.2 member)
  | cons c rest =>
    rw [dropped] at start
    rw [(List.cons_prefix_cons.1 start).1]
    rfl

/-! ## Slashes and names -/

/-- The text that a number of leading slashes and segments spell. -/
def spelled (slashes : Nat) (segs : List Segment) : String :=
  String.ofList (segmentChars slashes segs)

@[simp] theorem toList_spelled (slashes : Nat) (segs : List Segment) :
    (spelled slashes segs).toList = segmentChars slashes segs :=
  String.toList_ofList

/-- What the normal form of an absolute path is spelled by. -/
structure Rooted (slashes : Nat) (segs : List Segment) : Prop where
  slashes : slashes = 1 ∨ slashes = 2
  names : ∀ seg ∈ segs, IsName seg
  plain : Plain segs

section Rooted

variable {slashes : Nat} {segs : List Segment} {path : String}

theorem Rooted.ne_zero (rooted : Rooted slashes segs) : slashes ≠ 0 := by
  rcases rooted.slashes with h | h <;> omega

theorem Rooted.of_append {front back : List Segment} (rooted : Rooted slashes (front ++ back)) :
    Rooted slashes front where
  slashes := rooted.slashes
  names seg member := rooted.names seg (List.mem_append_left back member)
  plain seg member := rooted.plain seg (List.mem_append_left back member)

theorem Rooted.parentSegment_notMem (rooted : Rooted slashes segs) : parentSegment ∉ segs :=
  fun member => (rooted.names _ member).2.2 rfl

/-- A segment that is pushed is not one of those that are left out. -/
theorem kept_of_mem_foldl_pushSegment {up : Bool} {pushed done : List Segment} {seg : Segment}
    (member : seg ∈ pushed.foldl (pushSegment up) done) :
    seg ∈ done ∨ ¬ (seg = [] ∨ seg = ['.']) := by
  induction pushed generalizing done with
  | nil => exact .inl member
  | cons next pushed ih =>
    rcases ih member with before | kept
    · by_cases skipped : next = [] ∨ next = ['.']
      · rw [pushSegment_of_skipped skipped] at before
        exact .inl before
      · rcases mem_pushSegment before with before | rfl
        · exact .inl before
        · exact .inr skipped
    · exact .inr kept

/-- An absolute path has slashes and names in its normal form. -/
theorem rooted_normalSegments (absolute : isAbsolute path = true) :
    Rooted (rootSlashes path.toList) (normalSegments path.toList) where
  slashes := by
    have some_slash := isAbsolute_iff.1 absolute
    have most := rootSlashes_le path.toList
    omega
  names seg member := by
    obtain ⟨names, k, noParent, root, stack⟩ := exists_normalStack path.toList
    rw [root (isAbsolute_iff.1 absolute), List.replicate_zero, List.append_nil] at stack
    rw [normalSegments_eq, List.mem_reverse] at member
    rcases kept_of_mem_foldl_pushSegment member with none | kept
    · cases none
    · rw [not_or] at kept
      rw [stack] at member
      exact ⟨kept.1, kept.2, fun up => noParent (up ▸ member)⟩
  plain := plain_normalSegments path.toList

/-! ## Reading back -/

/-- No segment begins with a slash, so the text of segments does not. -/
theorem head?_joinWith_ne (plain : Plain segs) : (joinWith '/' segs).head? ≠ some '/' := by
  cases segs with
  | nil => simp [joinWith]
  | cons seg segs =>
    obtain ⟨nonempty, inner⟩ := plain seg List.mem_cons_self
    obtain ⟨c, cs, rfl⟩ := List.exists_cons_of_ne_nil nonempty
    rw [Text.joinWith_cons_head, List.head?_cons]
    intro slash
    exact inner (by rw [Option.some.inj slash]; exact List.mem_cons_self)

theorem rootSlashes_append {rest : List Char} (relative : rest.head? ≠ some '/')
    (few : slashes = 1 ∨ slashes = 2) :
    rootSlashes (List.replicate slashes '/' ++ rest) = slashes := by
  rcases few with rfl | rfl <;> cases rest <;> simp_all [rootSlashes, List.replicate]

/-- The pieces of a spelled path are its segments, apart from empty ones. -/
theorem foldl_splitOn_segmentChars (slashes : Nat) (plain : Plain segs) (up : Bool)
    (done : List Segment) :
    (splitOn '/' (segmentChars slashes segs)).foldl (pushSegment up) done =
      segs.foldl (pushSegment up) done := by
  induction slashes with
  | zero =>
    rw [segmentChars, List.replicate_zero, List.nil_append]
    by_cases empty : segs = []
    · subst empty
      rfl
    · rw [Text.splitOn_joinWith empty fun piece member => (plain piece member).2]
  | succ slashes ih =>
    have first : segmentChars (slashes + 1) segs = '/' :: segmentChars slashes segs := rfl
    rw [first, splitOn, if_pos rfl, List.foldl_cons, pushSegment_of_skipped (.inl rfl), ih]

/-- Names are put on top of a stack. -/
theorem foldl_pushSegment_names {names : List Segment} (h : ∀ seg ∈ names, IsName seg) (up : Bool)
    (done : List Segment) : names.foldl (pushSegment up) done = names.reverse ++ done := by
  induction names generalizing done with
  | nil => rfl
  | cons seg names ih =>
    rw [List.foldl_cons, pushSegment_name (h seg List.mem_cons_self),
      ih fun other member => h other (List.mem_cons_of_mem seg member)]
    simp

theorem Rooted.rootSlashes_eq (rooted : Rooted slashes segs) :
    rootSlashes (segmentChars slashes segs) = slashes :=
  rootSlashes_append (head?_joinWith_ne rooted.plain) rooted.slashes

theorem Rooted.normalSegments_eq (rooted : Rooted slashes segs) :
    normalSegments (segmentChars slashes segs) = segs := by
  rw [Path.normalSegments_eq, normalStack, foldl_splitOn_segmentChars slashes rooted.plain,
    foldl_pushSegment_names rooted.names, List.append_nil, List.reverse_reverse]

theorem normalize_of_isAbsolute (absolute : isAbsolute path = true) :
    normalize path = spelled (rootSlashes path.toList) (normalSegments path.toList) := by
  have given : segmentChars (rootSlashes path.toList) (normalSegments path.toList) ≠ [] := by
    refine List.append_ne_nil_of_left_ne_nil ?_ _
    simpa using isAbsolute_iff.1 absolute
  rw [normalize, normalizeChars]
  exact congrArg String.ofList (if_neg given)

theorem Rooted.isAbsolute (rooted : Rooted slashes segs) :
    isAbsolute (spelled slashes segs) = true := by
  rw [isAbsolute_iff, toList_spelled, rooted.rootSlashes_eq]
  exact rooted.ne_zero

/-- What is spelled by slashes and names is its own normal form. -/
theorem Rooted.normalize_eq (rooted : Rooted slashes segs) :
    normalize (spelled slashes segs) = spelled slashes segs := by
  rw [normalize_of_isAbsolute rooted.isAbsolute, toList_spelled, rooted.rootSlashes_eq,
    rooted.normalSegments_eq]

end Rooted

/-! ## Endings -/

/-- Segments with an ending at the last one; without segments the ending is one. -/
def withEnding (ending : Segment) (segs : List Segment) : List Segment :=
  segs.dropLast ++ [segs.getLast?.getD [] ++ ending]

section Ending

variable {slashes : Nat} {segs : List Segment} {ending : Segment}

theorem withEnding_append_singleton (front : List Segment) (last : Segment) :
    withEnding ending (front ++ [last]) = front ++ [last ++ ending] := by
  simp [withEnding]

theorem length_withEnding (some_seg : segs ≠ []) :
    (withEnding ending segs).length = segs.length := by
  have := List.length_pos_iff.2 some_seg
  simp only [withEnding, List.length_append, List.length_dropLast, List.length_singleton]
  omega

theorem segmentChars_append (slashes : Nat) (segs : List Segment) (ending : Segment) :
    segmentChars slashes segs ++ ending = segmentChars slashes (withEnding ending segs) := by
  rcases List.eq_nil_or_concat segs with rfl | ⟨front, last, rfl⟩
  · simp [segmentChars, withEnding, joinWith]
  · rw [List.concat_eq_append, withEnding_append_singleton, segmentChars, segmentChars]
    by_cases single : front = []
    · subst single
      simp [joinWith]
    · rw [joinWith_append single (by simp), joinWith_append single (by simp)]
      simp [joinWith]

/-- The ending of a file name makes a name of the last segment, and of itself. -/
theorem Rooted.withEnding (rooted : Rooted slashes segs) (long : 2 < ending.length)
    (noSlash : '/' ∉ ending) : Rooted slashes (withEnding ending segs) := by
  have last : '/' ∉ segs.getLast?.getD [] ++ ending := by
    rw [List.mem_append, not_or]
    refine ⟨?_, noSlash⟩
    cases final : segs.getLast? with
    | none => simp
    | some seg => exact (rooted.plain seg (List.mem_of_getLast? final)).2
  have named : IsName (segs.getLast?.getD [] ++ ending) := by
    apply isName_of_length
    rw [List.length_append]
    omega
  refine ⟨rooted.slashes, fun seg member => ?_, fun seg member => ?_⟩
  · rcases List.mem_append.1 member with front | final
    · exact rooted.names seg (List.dropLast_subset segs front)
    · rw [List.mem_singleton.1 final]
      exact named
  · rcases List.mem_append.1 member with front | final
    · exact rooted.plain seg (List.dropLast_subset segs front)
    · rw [List.mem_singleton.1 final]
      exact ⟨named.1, last⟩

/-- What is put behind the normal form of an absolute path goes to its last segment. -/
theorem normalSegments_normalize_append {path ending : String}
    (absolute : isAbsolute path = true) (long : 2 < ending.toList.length)
    (noSlash : '/' ∉ ending.toList) :
    rootSlashes (normalize path ++ ending).toList = rootSlashes path.toList ∧
      normalSegments (normalize path ++ ending).toList =
        withEnding ending.toList (normalSegments path.toList) := by
  have rooted := (rooted_normalSegments absolute).withEnding long noSlash
  rw [normalize_of_isAbsolute absolute, String.toList_append, toList_spelled, segmentChars_append]
  exact ⟨rooted.rootSlashes_eq, rooted.normalSegments_eq⟩

end Ending

/-! ## Paths without a step up -/

/-- Segments that are all left out change no stack. -/
theorem foldl_pushSegment_skipped {segs : List Segment} (h : ∀ seg ∈ segs, seg = [] ∨ seg = ['.'])
    (up : Bool) (done : List Segment) : segs.foldl (pushSegment up) done = done := by
  induction segs with
  | nil => rfl
  | cons seg segs ih =>
    rw [List.foldl_cons, pushSegment_of_skipped (h seg List.mem_cons_self)]
    exact ih fun other member => h other (List.mem_cons_of_mem seg member)

/-- A relative path without a step up adds its names to the directory that it is joined to. -/
theorem exists_normalSegments_join {rest : String} (relative : rest.toList.head? ≠ some '/')
    (level : parentSegment ∉ splitOn '/' rest.toList) (dir : String) :
    ∃ inner, normalSegments (join dir rest).toList = normalSegments dir.toList ++ inner ∧
      (inner ≠ [] ↔ ∃ seg ∈ splitOn '/' rest.toList, IsName seg) := by
  rw [join, String.toList_ofList, normalSegments_eq, normalSegments_eq,
    normalStack_joinChars relative]
  by_cases named : ∃ seg ∈ splitOn '/' rest.toList, IsName seg
  · obtain ⟨inner, -, names, pushed⟩ := exists_foldl_level level
      (rootSlashes dir.toList != 0) (normalStack dir.toList)
    refine ⟨inner.reverse, by rw [pushed, List.reverse_append], ?_⟩
    obtain ⟨seg, member, isName⟩ := named
    have further : inner ≠ [] := List.ne_nil_of_mem (names seg member isName)
    simp only [ne_eq, List.reverse_eq_nil_iff, further, not_false_eq_true, true_iff]
    exact ⟨seg, member, isName⟩
  · have skipped : ∀ seg ∈ splitOn '/' rest.toList, seg = [] ∨ seg = ['.'] := by
      intro seg member
      rcases segment_cases seg with skipped | up | isName
      · exact skipped
      · exact absurd (up ▸ member) level
      · exact absurd ⟨seg, member, isName⟩ named
    refine ⟨[], ?_, by simp [named]⟩
    rw [foldl_pushSegment_skipped skipped, List.append_nil]

section Join

variable {dir rest : String}

theorem rootSlashes_join (relative : rest.toList.head? ≠ some '/') :
    rootSlashes (join dir rest).toList = rootSlashes dir.toList := by
  rw [join, String.toList_ofList, rootSlashes_joinChars relative]

theorem isAbsolute_join (absolute : isAbsolute dir = true)
    (relative : rest.toList.head? ≠ some '/') : isAbsolute (join dir rest) = true := by
  rw [isAbsolute_iff, rootSlashes_join relative]
  exact isAbsolute_iff.1 absolute

/-- A path with neither a step up nor a name leads to the directory that it is joined to. -/
theorem normalize_join_of_nameless (absolute : isAbsolute dir = true)
    (relative : rest.toList.head? ≠ some '/') (level : parentSegment ∉ splitOn '/' rest.toList)
    (nameless : ¬ ∃ seg ∈ splitOn '/' rest.toList, IsName seg) :
    normalize (join dir rest) = normalize dir := by
  obtain ⟨inner, segs, further⟩ := exists_normalSegments_join relative level dir
  have no_inner : inner = [] := not_not.1 fun some_inner => nameless (further.1 some_inner)
  rw [no_inner, List.append_nil] at segs
  rw [normalize_of_isAbsolute (isAbsolute_join absolute relative),
    normalize_of_isAbsolute absolute, rootSlashes_join relative, segs]

/-- A path without a step up that is joined to an absolute directory and normalized, and then gets
the ending of a file name, lies below the directory exactly if some segment of it is a name, or the
directory is a root. -/
theorem below_normalize_join_append_iff {ending : String}
    (absolute : isAbsolute dir = true) (relative : rest.toList.head? ≠ some '/')
    (level : parentSegment ∉ splitOn '/' rest.toList) (long : 2 < ending.toList.length)
    (noSlash : '/' ∉ ending.toList) :
    Below dir (normalize (join dir rest) ++ ending) ↔
      (∃ seg ∈ splitOn '/' rest.toList, IsName seg) ∨ normalSegments dir.toList = [] := by
  have joined := isAbsolute_join absolute relative
  obtain ⟨inner, segs, further⟩ := exists_normalSegments_join relative level dir
  obtain ⟨root, file⟩ := normalSegments_normalize_append joined long noSlash
  have rooted := (rooted_normalSegments joined).withEnding long noSlash
  rw [segs] at file rooted
  rw [Below, root, rootSlashes_join relative, file, ← further, and_iff_right rfl]
  constructor
  · rintro ⟨rest', some_rest, -, split⟩
    by_contra inside
    rw [not_or, not_not] at inside
    -- an ending alone makes the path no longer
    rw [inside.1, List.append_nil] at split
    have lengths := congrArg List.length split
    rw [length_withEnding inside.2, List.length_append] at lengths
    exact some_rest (List.length_eq_zero_iff.1 (by omega))
  · rintro (some_inner | empty)
    · rcases List.eq_nil_or_concat inner with rfl | ⟨front, last, rfl⟩
      · exact absurd rfl some_inner
      · rw [List.concat_eq_append, ← List.append_assoc, withEnding_append_singleton] at rooted ⊢
        refine ⟨front ++ [last ++ ending.toList], by simp, ?_, List.append_assoc _ _ _⟩
        intro up
        rw [List.append_assoc] at rooted
        exact rooted.parentSegment_notMem (List.mem_append_right _ up)
    · rw [empty, List.nil_append] at rooted ⊢
      exact ⟨withEnding ending.toList inner, by simp [withEnding], rooted.parentSegment_notMem, rfl⟩

end Join

end ModuleResolution.Path
