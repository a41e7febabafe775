import Mathlib.Data.List.Basic
import Mathlib.Data.List.Induction
import ModuleResolution.Path.Basic

/-!
# Paths below a directory

A path lies below a directory if its normal form goes on where that of the directory ends (`Below`).
Whether segments that are joined to a directory lead below it depends on their `..` only. Resolved
among themselves, segments are some `..`, the `climbs`, with a `descent` behind them. They lead
below the directory exactly if the descent first comes back to it, through the segments that the
climb has left (`below_joinAll_iff`); without a climb they always do.

The normal form is computed on a stack of segments, innermost first. What segments do to a stack is
what their climb does to it, with their descent on top (`exists_climb`).
-/

set_option autoImplicit false

namespace ModuleResolution.Path

open Text (splitOn joinWith splitOn_append)

/-! ## Climbs and descents -/

/-- Segments with every `..` resolved against the segment before it, if there is one. Innermost
first. -/
def resolved (segs : List Segment) : List Segment :=
  segs.foldl (pushSegment false) []

/-- How many directories segments climb above the one that they start from. -/
def climbs (segs : List Segment) : Nat :=
  (resolved segs).count parentSegment

/-- The segments that lead down from there, outermost first. -/
def descent (segs : List Segment) : List Segment :=
  ((resolved segs).filter (· ≠ parentSegment)).reverse

/-- The last segments of the normal form of a path. -/
def lastSegments (n : Nat) (path : String) : List Segment :=
  (normalSegments path.toList).drop ((normalSegments path.toList).length - n)

/-- A path strictly below a directory, both taken in their normal form. -/
def Below (dir path : String) : Prop :=
  rootSlashes path.toList = rootSlashes dir.toList ∧
    ∃ inner, inner ≠ [] ∧ parentSegment ∉ inner ∧
      normalSegments path.toList = normalSegments dir.toList ++ inner

/-- Segments that lead from a directory to a path strictly below it: what they climb, they come back
through. A climb ends at a root, but a relative directory must have as many segments. -/
def LeadsBelow (dir : String) (segs : List Segment) : Prop :=
  (rootSlashes dir.toList ≠ 0 ∨ climbs segs ≤ (normalSegments dir.toList).length) ∧
    ∃ inner, inner ≠ [] ∧ descent segs = lastSegments (climbs segs) dir ++ inner

/-! ## Stacks of segments -/

section Stack

variable {rooted : Bool} {done tail inner names : List Segment} {seg : Segment} {n k : Nat}

/-- A segment of a path that names an entry of a directory. -/
def IsName (seg : Segment) : Prop :=
  seg ≠ [] ∧ seg ≠ ['.'] ∧ seg ≠ parentSegment

/-- A segment that is longer than `..` is a name. -/
theorem isName_of_length (long : 2 < seg.length) : IsName seg := by
  refine ⟨?_, ?_, ?_⟩
  all_goals
    rintro rfl
    exact absurd long (by decide)

theorem pushSegment_name (h : IsName seg) : pushSegment rooted done seg = seg :: done := by
  obtain ⟨nonempty, dot, up⟩ := h
  simp [pushSegment, nonempty, dot, up]

theorem pushSegment_of_skipped (h : seg = [] ∨ seg = ['.']) :
    pushSegment rooted done seg = done := by
  rcases h with rfl | rfl <;> rfl

/-- Every segment is left out, or a step up, or a name. -/
theorem segment_cases (seg : Segment) :
    (seg = [] ∨ seg = ['.']) ∨ seg = parentSegment ∨ IsName seg := by
  by_cases nonempty : seg = []
  · exact .inl (.inl nonempty)
  · by_cases dot : seg = ['.']
    · exact .inl (.inr dot)
    · by_cases up : seg = parentSegment
      · exact .inr (.inl up)
      · exact .inr (.inr ⟨nonempty, dot, up⟩)

/-- A step up takes a segment away that is no step up itself. -/
theorem pushSegment_parent_cons (up : seg ≠ parentSegment) :
    pushSegment rooted (seg :: done) parentSegment = done := by
  have given : ¬ (parentSegment = [] ∨ parentSegment = ['.']) := by decide
  simp [pushSegment, given, up]

theorem pushSegment_parent_replicate :
    pushSegment false (List.replicate n parentSegment) parentSegment =
      List.replicate (n + 1) parentSegment := by
  cases n <;> rfl

/-- What segments do to a stack: their climb is made, and their descent put on top. -/
theorem exists_climb (segs : List Segment) : ∃ n inner, parentSegment ∉ inner ∧
    resolved segs = inner ++ List.replicate n parentSegment ∧
    ∀ rooted done, segs.foldl (pushSegment rooted) done =
      inner ++ (List.replicate n parentSegment).foldl (pushSegment rooted) done := by
  induction segs using List.reverseRecOn with
  | nil => exact ⟨0, [], by simp, rfl, fun _ _ => rfl⟩
  | append_singleton segs seg ih =>
    obtain ⟨n, inner, plain, alone, onto⟩ := ih
    simp only [resolved, List.foldl_append, List.foldl_cons, List.foldl_nil] at alone ⊢
    simp only [alone, onto]
    rcases segment_cases seg with skipped | rfl | named
    · exact ⟨n, inner, plain, pushSegment_of_skipped skipped,
        fun _ _ => pushSegment_of_skipped skipped⟩
    · cases inner with
      -- nothing is left to go back on, so the climb is longer by one
      | nil =>
        refine ⟨n + 1, [], plain, pushSegment_parent_replicate, ?_⟩
        intro rooted done
        rw [List.replicate_succ', List.foldl_append]
        rfl
      | cons top inner =>
        simp only [List.mem_cons, not_or] at plain
        exact ⟨n, inner, plain.2, pushSegment_parent_cons (Ne.symm plain.1),
          fun _ _ => pushSegment_parent_cons (Ne.symm plain.1)⟩
    · refine ⟨n, seg :: inner, ?_, pushSegment_name named, fun _ _ => pushSegment_name named⟩
      simp only [List.mem_cons, not_or]
      exact ⟨Ne.symm named.2.2, plain⟩

theorem climbs_eq {segs : List Segment} (plain : parentSegment ∉ inner)
    (h : resolved segs = inner ++ List.replicate n parentSegment) : climbs segs = n := by
  rw [climbs, h, List.count_append, List.count_replicate_self, List.count_eq_zero.2 plain,
    Nat.zero_add]

theorem descent_eq {segs : List Segment} (plain : parentSegment ∉ inner)
    (h : resolved segs = inner ++ List.replicate n parentSegment) :
    descent segs = inner.reverse := by
  have kept : inner.filter (· ≠ parentSegment) = inner := by
    rw [List.filter_eq_self]
    intro seg member
    exact decide_eq_true fun up => plain (up ▸ member)
  have dropped : (List.replicate n parentSegment).filter (· ≠ parentSegment) = [] := by
    simp
  rw [descent, h, List.filter_append, kept, dropped, List.append_nil]

/-- A climb takes names away as long as there are any. -/
theorem foldl_climb_names (plain : parentSegment ∉ names) (short : n ≤ names.length) :
    (List.replicate n parentSegment).foldl (pushSegment rooted) (names ++ tail) =
      names.drop n ++ tail := by
  induction n generalizing names with
  | zero => rfl
  | succ n ih =>
    cases names with
    | nil => cases short
    | cons top names =>
      simp only [List.mem_cons, not_or] at plain
      rw [List.replicate_succ, List.foldl_cons, List.cons_append,
        pushSegment_parent_cons (Ne.symm plain.1)]
      exact ih plain.2 (Nat.le_of_succ_le_succ short)

theorem foldl_climb_root :
    (List.replicate n parentSegment).foldl (pushSegment true) [] = [] := by
  induction n with
  | zero => rfl
  | succ n ih => exact ih

theorem foldl_climb_parents :
    (List.replicate n parentSegment).foldl (pushSegment false) (List.replicate k parentSegment) =
      List.replicate (k + n) parentSegment := by
  induction n generalizing k with
  | zero => rfl
  | succ n ih =>
    rw [List.replicate_succ, List.foldl_cons, pushSegment_parent_replicate, ih]
    exact congrArg (List.replicate · parentSegment) (by omega)

/-- A climb beyond all names goes on from what is below them. -/
theorem foldl_climb_beyond (plain : parentSegment ∉ names) (long : names.length ≤ n) :
    (List.replicate n parentSegment).foldl (pushSegment rooted) (names ++ tail) =
      (List.replicate (n - names.length) parentSegment).foldl (pushSegment rooted) tail := by
  obtain ⟨m, rfl⟩ := Nat.exists_eq_add_of_le long
  rw [← List.replicate_append_replicate, List.foldl_append, foldl_climb_names plain (Nat.le_refl _)]
  simp

/-- A climb within the names leaves the stack without its uppermost segments. -/
theorem climb_below_iff_names (plain : parentSegment ∉ names) (plain' : parentSegment ∉ inner)
    (short : n ≤ names.length) :
    (∃ rest, rest ≠ [] ∧ parentSegment ∉ rest ∧
      inner ++ (List.replicate n parentSegment).foldl (pushSegment rooted) (names ++ tail) =
        rest ++ (names ++ tail)) ↔
    ∃ rest, rest ≠ [] ∧ inner = rest ++ (names ++ tail).take n := by
  have whole (rest : List Segment) :
      rest ++ (names ++ tail) = rest ++ names.take n ++ (names.drop n ++ tail) := by
    simp [← List.append_assoc (names.take n)]
  rw [foldl_climb_names plain short, List.take_append_of_le_length short]
  constructor
  · rintro ⟨rest, further, -, split⟩
    rw [whole, List.append_cancel_right_eq] at split
    exact ⟨rest, further, split⟩
  · rintro ⟨rest, further, split⟩
    refine ⟨rest, further, ?_, ?_⟩
    · rw [split, List.mem_append, not_or] at plain'
      exact plain'.1
    · rw [whole, List.append_cancel_right_eq, split]

/-- A climb beyond the names of a rooted stack ends at the root. -/
theorem climb_below_iff_root (plain : parentSegment ∉ names) (plain' : parentSegment ∉ inner)
    (long : names.length ≤ n) :
    (∃ rest, rest ≠ [] ∧ parentSegment ∉ rest ∧
      inner ++ (List.replicate n parentSegment).foldl (pushSegment true) names = rest ++ names) ↔
    ∃ rest, rest ≠ [] ∧ inner = rest ++ names.take n := by
  have climbed := @foldl_climb_beyond true [] names n plain long
  rw [List.append_nil, foldl_climb_root] at climbed
  rw [climbed, List.append_nil, List.take_of_length_le long]
  constructor
  · rintro ⟨rest, further, -, split⟩
    exact ⟨rest, further, split⟩
  · rintro ⟨rest, further, split⟩
    refine ⟨rest, further, ?_, split⟩
    rw [split, List.mem_append, not_or] at plain'
    exact plain'.1

/-- A climb beyond the names of a stack that is not rooted ends at parents, and no name stands below
them: it leads below the stack only if it stops at the last name. -/
theorem climb_below_iff_parents (plain : parentSegment ∉ names) (plain' : parentSegment ∉ inner)
    (long : names.length ≤ n) :
    (∃ rest, rest ≠ [] ∧ parentSegment ∉ rest ∧
      inner ++ (List.replicate n parentSegment).foldl (pushSegment false)
        (names ++ List.replicate k parentSegment) =
      rest ++ (names ++ List.replicate k parentSegment)) ↔
    n ≤ (names ++ List.replicate k parentSegment).length ∧
      ∃ rest, rest ≠ [] ∧ inner = rest ++ (names ++ List.replicate k parentSegment).take n := by
  rw [foldl_climb_beyond plain long, foldl_climb_parents]
  constructor
  · rintro ⟨rest, further, low, split⟩
    have counts := congrArg (List.count parentSegment) split
    simp only [List.count_append, List.count_replicate_self, List.count_eq_zero.2 plain,
      List.count_eq_zero.2 plain', List.count_eq_zero.2 low] at counts
    have exact_climb : n = names.length := by omega
    subst exact_climb
    simp only [Nat.sub_self, Nat.add_zero, ← List.append_assoc,
      List.append_cancel_right_eq] at split
    refine ⟨by simp, rest, further, ?_⟩
    rw [List.take_left, split]
  · rintro ⟨bounded, rest, further, split⟩
    rw [split, List.mem_append, not_or] at plain'
    obtain ⟨low, returned⟩ := plain'
    rw [List.length_append, List.length_replicate] at bounded
    -- a parent that is climbed over would have to come back in the descent
    have exact_climb : n = names.length := by
      by_contra beyond
      apply returned
      rw [List.take_append, List.mem_append, List.take_replicate, List.mem_replicate]
      exact .inr ⟨by omega, rfl⟩
    subst exact_climb
    refine ⟨rest, further, low, ?_⟩
    rw [split, List.take_left]
    simp

/-- A climb of `n` with a descent behind it leads below a stack exactly if the descent starts with
the `n` uppermost segments of the stack and goes on. -/
theorem climb_below_iff (plain : parentSegment ∉ names) (plain' : parentSegment ∉ inner)
    (root : rooted = true → k = 0) :
    (∃ rest, rest ≠ [] ∧ parentSegment ∉ rest ∧
      inner ++ (List.replicate n parentSegment).foldl (pushSegment rooted)
        (names ++ List.replicate k parentSegment) =
      rest ++ (names ++ List.replicate k parentSegment)) ↔
    (rooted = true ∨ n ≤ (names ++ List.replicate k parentSegment).length) ∧
      ∃ rest, rest ≠ [] ∧ inner = rest ++ (names ++ List.replicate k parentSegment).take n := by
  rcases Nat.le_total n names.length with short | long
  · have within : n ≤ (names ++ List.replicate k parentSegment).length := by
      rw [List.length_append]
      omega
    rw [and_iff_right (.inr within)]
    exact climb_below_iff_names plain plain' short
  · cases rooted with
    | true =>
      cases root rfl
      rw [List.replicate_zero, List.append_nil, and_iff_right (.inl rfl)]
      exact climb_below_iff_root plain plain' long
    | false =>
      rw [or_iff_right Bool.false_ne_true]
      exact climb_below_iff_parents plain plain' long

end Stack

/-! ## Joined paths -/

/-- The segments of the normal form of a path, innermost first. -/
def normalStack (cs : List Char) : List Segment :=
  (splitOn '/' cs).foldl (pushSegment (rootSlashes cs != 0)) []

theorem normalSegments_eq (cs : List Char) : normalSegments cs = (normalStack cs).reverse := rfl

section Join

variable {base rest : List Char}

/-- A joined path starts with as many slashes as the directory. -/
theorem rootSlashes_joinChars (relative : rest.head? ≠ some '/') :
    rootSlashes (joinChars base rest) = rootSlashes base := by
  rw [joinChars, if_neg relative]
  have plain {c : Char} {cs : List Char} (h : rest = c :: cs) : c ≠ '/' := by
    rintro rfl
    exact relative (by rw [h]; rfl)
  -- the first three characters decide, and the directory has fewer only if it is very short
  match base with
  | [] => cases rest <;> simp [rootSlashes, plain]
  | [a] =>
    by_cases ha : a = '/'
    · subst ha
      cases rest <;> simp [rootSlashes, plain]
    · simp [rootSlashes, ha]
  | [a, b] =>
    by_cases ha : a = '/'
    · subst ha
      by_cases hb : b = '/'
      · subst hb
        cases rest <;> simp [rootSlashes, plain]
      · simp [rootSlashes, hb]
    · split <;> simp [rootSlashes, ha]
  | a :: b :: c :: base =>
    have front (cs : List Char) :
        rootSlashes (a :: b :: c :: (base ++ cs)) = rootSlashes (a :: b :: c :: base) := by
      by_cases ha : a = '/' <;> by_cases hb : b = '/' <;> by_cases hc : c = '/' <;>
        simp [rootSlashes, ha, hb, hc]
    split
    · exact front rest
    · exact front ('/' :: rest)

theorem foldl_joinChars (relative : rest.head? ≠ some '/') (rooted : Bool) (done : List Segment) :
    (splitOn '/' (joinChars base rest)).foldl (pushSegment rooted) done =
      (splitOn '/' rest).foldl (pushSegment rooted)
        ((splitOn '/' base).foldl (pushSegment rooted) done) := by
  rw [joinChars, if_neg relative]
  split
  · rename_i closed
    -- the directory ends in an empty segment, which is left out
    rcases List.eq_nil_or_concat base with rfl | ⟨front, c, rfl⟩
    · rfl
    · have slash : c = '/' := by simpa using closed
      subst slash
      rw [List.concat_eq_append, List.append_assoc, List.singleton_append, splitOn_append,
        splitOn_append, List.foldl_append, List.foldl_append]
      rfl
  · rw [splitOn_append, List.foldl_append]

theorem normalStack_joinChars (relative : rest.head? ≠ some '/') :
    normalStack (joinChars base rest) =
      (splitOn '/' rest).foldl (pushSegment (rootSlashes base != 0)) (normalStack base) := by
  rw [normalStack, rootSlashes_joinChars relative, foldl_joinChars relative]
  rfl

end Join

theorem joinChars_append {rest : List Char} (nonempty : rest ≠ []) (base ending : List Char) :
    joinChars base rest ++ ending = joinChars base (rest ++ ending) := by
  have first : (rest ++ ending).head? = rest.head? := by
    rw [List.head?_append, Option.or_of_isSome (List.isSome_head?.2 nonempty)]
  rw [joinChars, joinChars, first]
  split
  · rfl
  · split <;> simp

/-- A text at the end of a joined path is a text at the end of what is joined. -/
theorem join_append {rest : String} (nonempty : rest ≠ "") (dir ending : String) :
    join dir rest ++ ending = join dir (rest ++ ending) := by
  have chars : rest.toList ≠ [] := fun empty => nonempty (String.toList_inj.1 empty)
  rw [← String.toList_inj]
  simp only [join, String.toList_append, String.toList_ofList]
  exact joinChars_append chars _ _

/-- Parts without slashes that are joined to a directory are pushed onto its segments. -/
theorem normalStack_joinAll {parts : List String} (plain : ∀ part ∈ parts, '/' ∉ part.toList)
    (dir : String) :
    rootSlashes (joinAll dir parts).toList = rootSlashes dir.toList ∧
      normalStack (joinAll dir parts).toList =
        (parts.map String.toList).foldl (pushSegment (rootSlashes dir.toList != 0))
          (normalStack dir.toList) := by
  induction parts generalizing dir with
  | nil => exact ⟨rfl, rfl⟩
  | cons part parts ih =>
    obtain ⟨first, others⟩ := List.forall_mem_cons.1 plain
    have relative : part.toList.head? ≠ some '/' := fun h => first (List.mem_of_mem_head? h)
    have joined : (join dir part).toList = joinChars dir.toList part.toList :=
      String.toList_ofList
    obtain ⟨slashes, stack⟩ := ih others (join dir part)
    rw [joined] at slashes stack
    rw [rootSlashes_joinChars relative] at slashes stack
    rw [normalStack_joinChars relative, Text.splitOn_of_not_mem first] at stack
    exact ⟨slashes, stack⟩

/-- The normal form of a path is some names with parents below them, and no parents if it starts at
a root. -/
theorem exists_normalStack (cs : List Char) : ∃ names k, parentSegment ∉ names ∧
    (rootSlashes cs ≠ 0 → k = 0) ∧ normalStack cs = names ++ List.replicate k parentSegment := by
  obtain ⟨n, names, plain, -, onto⟩ := exists_climb (splitOn '/' cs)
  have stack := onto (rootSlashes cs != 0) []
  cases root : rootSlashes cs != 0 with
  | true =>
    rw [root, foldl_climb_root, List.append_nil] at stack
    exact ⟨names, 0, plain, fun _ => rfl, by simp [normalStack, root, stack]⟩
  | false =>
    have bottom := @foldl_climb_parents n 0
    rw [List.replicate_zero, Nat.zero_add] at bottom
    rw [root, bottom] at stack
    refine ⟨names, n, plain, ?_, by rw [normalStack, root, stack]⟩
    intro rooted
    rw [bne_eq_false_iff_eq] at root
    exact absurd root rooted

/-! ## Paths below a directory -/

theorem below_iff {dir path : String} :
    Below dir path ↔ rootSlashes path.toList = rootSlashes dir.toList ∧
      ∃ rest, rest ≠ [] ∧ parentSegment ∉ rest ∧
        normalStack path.toList = rest ++ normalStack dir.toList := by
  apply and_congr_right
  intro _
  rw [List.reverse_surjective.exists]
  simp only [ne_eq, List.reverse_eq_nil_iff, List.mem_reverse, normalSegments_eq,
    ← List.reverse_append, List.reverse_inj]

theorem leadsBelow_iff {dir : String} {segs inner : List Segment} {n : Nat}
    (plain : parentSegment ∉ inner)
    (h : resolved segs = inner ++ List.replicate n parentSegment) :
    LeadsBelow dir segs ↔
      (rootSlashes dir.toList ≠ 0 ∨ n ≤ (normalStack dir.toList).length) ∧
        ∃ rest, rest ≠ [] ∧ inner = rest ++ (normalStack dir.toList).take n := by
  have last : lastSegments n dir = ((normalStack dir.toList).take n).reverse := by
    rw [lastSegments, normalSegments_eq, List.length_reverse, ← List.reverse_take]
  rw [LeadsBelow, climbs_eq plain h, descent_eq plain h, last, normalSegments_eq,
    List.length_reverse]
  apply and_congr_right
  intro _
  rw [List.reverse_surjective.exists]
  simp only [ne_eq, List.reverse_eq_nil_iff, ← List.reverse_append, List.reverse_inj]

/-- Parts that are joined to a directory lead below it exactly if they come back through every
segment of the directory that they climb over. -/
theorem below_joinAll_iff {parts : List String} (plain : ∀ part ∈ parts, '/' ∉ part.toList)
    (dir : String) :
    Below dir (joinAll dir parts) ↔ LeadsBelow dir (parts.map String.toList) := by
  obtain ⟨slashes, stack⟩ := normalStack_joinAll plain dir
  obtain ⟨n, inner, plain', alone, onto⟩ := exists_climb (parts.map String.toList)
  obtain ⟨names, k, noParent, root, bottom⟩ := exists_normalStack dir.toList
  have rooted : (rootSlashes dir.toList != 0) = true ↔ rootSlashes dir.toList ≠ 0 := bne_iff_ne
  rw [below_iff, leadsBelow_iff plain' alone, and_iff_right slashes, stack, onto, bottom,
    climb_below_iff noParent plain' fun h => root (rooted.1 h), rooted]

/-- Without a climb, segments that end in a name lead below every directory. -/
theorem leadsBelow_of_climbs_eq_zero {segs : List Segment} {seg : Segment} (named : IsName seg)
    (level : climbs (segs ++ [seg]) = 0) (dir : String) : LeadsBelow dir (segs ++ [seg]) := by
  have top : resolved (segs ++ [seg]) = seg :: resolved segs := by
    rw [resolved, List.foldl_append]
    exact pushSegment_name named
  refine ⟨.inr (by omega), descent (segs ++ [seg]), ?_, ?_⟩
  · simp [descent, top, named.2.2]
  · rw [level, lastSegments, Nat.sub_zero, List.drop_length, List.nil_append]

theorem nil_notMem_pushSegment {rooted : Bool} {done : List Segment} (h : [] ∉ done)
    (seg : Segment) : [] ∉ pushSegment rooted done seg := by
  rcases segment_cases seg with skipped | rfl | named
  · rwa [pushSegment_of_skipped skipped]
  · cases done with
    | nil => cases rooted <;> decide
    | cons top done =>
      simp only [List.mem_cons, not_or] at h
      by_cases up : top = parentSegment
      · have given : ¬ (parentSegment = [] ∨ parentSegment = ['.']) := by decide
        have other : ¬ [] = parentSegment := by decide
        simp [pushSegment, given, up, other, h.2]
      · rw [pushSegment_parent_cons up]
        exact h.2
  · rw [pushSegment_name named, List.mem_cons, not_or]
    exact ⟨Ne.symm named.1, h⟩

/-- No segment of a normal form is empty. -/
theorem nil_notMem_normalSegments (cs : List Char) : [] ∉ normalSegments cs := by
  have pushed (segs done : List Segment) (rooted : Bool) (h : [] ∉ done) :
      [] ∉ segs.foldl (pushSegment rooted) done := by
    induction segs generalizing done with
    | nil => exact h
    | cons seg segs ih => exact ih _ (nil_notMem_pushSegment h seg)
  rw [normalSegments_eq, List.mem_reverse]
  exact pushed _ _ _ (by simp)

theorem joinWith_append {sep : Char} {front back : List Segment} (hf : front ≠ [])
    (hb : back ≠ []) :
    joinWith sep (front ++ back) = joinWith sep front ++ sep :: joinWith sep back := by
  induction front with
  | nil => exact absurd rfl hf
  | cons piece front ih =>
    cases front with
    | nil => exact Text.joinWith_cons hb
    | cons next front =>
      rw [List.cons_append, Text.joinWith_cons (by simp), ih (by simp),
        @Text.joinWith_cons sep piece (next :: front) (by simp)]
      simp

theorem joinWith_ne_nil {sep : Char} {pieces : List Segment} (hne : pieces ≠ [])
    (h : [] ∉ pieces) : joinWith sep pieces ≠ [] := by
  cases pieces with
  | nil => exact absurd rfl hne
  | cons piece pieces =>
    simp only [List.mem_cons, not_or] at h
    cases pieces with
    | nil => exact Ne.symm h.1
    | cons next pieces => simp [joinWith]

theorem normalizeChars_of_ne_nil {cs : List Char} (h : normalSegments cs ≠ []) :
    normalizeChars cs =
      List.replicate (rootSlashes cs) '/' ++ joinWith '/' (normalSegments cs) := by
  have text := @joinWith_ne_nil '/' _ h (nil_notMem_normalSegments cs)
  rw [normalizeChars, if_neg]
  simp [text]

/-- The normal form of a path below a directory is that of the directory, a slash and more. -/
theorem normalize_of_below {dir path : String} (below : Below dir path)
    (inside : normalSegments dir.toList ≠ []) :
    ∃ rest, rest ≠ "" ∧ normalize path = normalize dir ++ "/" ++ rest := by
  obtain ⟨slashes, inner, further, -, segs⟩ := below
  have longer : normalSegments path.toList ≠ [] := by simp [segs, inside]
  have pieces : [] ∉ inner := fun h =>
    nil_notMem_normalSegments path.toList (by rw [segs]; exact List.mem_append_right _ h)
  refine ⟨String.ofList (joinWith '/' inner), ?_, ?_⟩
  · intro h
    exact @joinWith_ne_nil '/' _ further pieces (by simpa using congrArg String.toList h)
  · rw [← String.toList_inj, normalize, normalize, normalizeChars_of_ne_nil longer,
      normalizeChars_of_ne_nil inside, segs, slashes, joinWith_append inside further]
    simp

end ModuleResolution.Path
