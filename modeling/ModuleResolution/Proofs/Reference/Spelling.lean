import ModuleResolution.Reference

/-!
# How references are spelled

`IsPackage` tells which scopes, names and subpaths make up a reference to a package, and `spelled`
puts them together. Reading a text gives parts with a name exactly if they are such parts and spell
the text (`parse_eq_iff`). So nothing of a text is lost, every choice of parts can be written, and
two texts are never read as the same named reference (`parse_lossless`).

The proof goes through the pieces of a text at its slashes: the name and the subpath behind it
stand for the pieces from the name on (`joinWith_name`), in both directions.
-/

set_option autoImplicit false

namespace ModuleResolution.Reference

open Text (splitOn joinWith)

/-! ## Parts and their spelling -/

/-- The parts that a reference to a package can have. A name without a scope must not be taken for
a path or for a scope. -/
structure IsPackage (scope : Option String) (name : String) (subpath : Option String) : Prop where
  nonempty : name ≠ ""
  plain : '/' ∉ name.toList
  sign : ∀ s ∈ scope, s.toList.head? = some '@'
  scope_plain : ∀ s ∈ scope, '/' ∉ s.toList
  bare : scope = none → name.toList.head? ≠ some '.' ∧ name.toList.head? ≠ some '@'
  slash : ∀ s ∈ subpath, s.toList.head? = some '/'

/-- The text that parts spell: scope and name with a slash between them, and the subpath. -/
def spelled (scope : Option String) (name : String) (subpath : Option String) : String :=
  (match scope with
    | some s => s ++ "/" ++ name
    | none => name) ++ subpath.getD ""

/-- A package name as one path segment: without a leading sign, and with two underscores for a
slash. -/
def flattened (package : String) : String :=
  let cs := package.toList
  let cs := if cs.head? = some '@' then cs.tail else cs
  String.ofList (cs.flatMap fun c => if c = '/' then ['_', '_'] else [c])

/-! ## The pieces of a text -/

theorem spelled_eq (name : String) (subpath : Option String) :
    (spelled none name subpath).toList = name.toList ++ (subpath.getD "").toList :=
  String.toList_append

theorem spelled_scoped_eq (scope name : String) (subpath : Option String) :
    (spelled (some scope) name subpath).toList =
      scope.toList ++ '/' :: (name.toList ++ (subpath.getD "").toList) := by
  simp [spelled, String.toList_append]

/-- A name and the pieces behind it are joined to the name and the subpath behind it. -/
theorem joinWith_name (name : List Char) (pieces : List (List Char)) :
    joinWith '/' (name :: pieces) = name ++ (subpathOf pieces).getD [] := by
  cases pieces with
  | nil => simp [joinWith, subpathOf]
  | cons piece pieces => rfl

theorem subpathOf_splitOn (cs : List Char) : subpathOf (splitOn '/' cs) = some ('/' :: cs) := by
  cases pieces : splitOn '/' cs with
  | nil => exact absurd pieces (Text.splitOn_ne_nil '/' cs)
  | cons piece more => rw [subpathOf, ← pieces, Text.joinWith_splitOn]; simp

/-- A name and a subpath behind it are cut into the name and pieces that spell the subpath. -/
theorem exists_splitOn_name {name : List Char} (plain : '/' ∉ name) {subpath : Option String}
    (slash : ∀ s ∈ subpath, s.toList.head? = some '/') :
    ∃ pieces, splitOn '/' (name ++ (subpath.getD "").toList) = name :: pieces ∧
      (subpathOf pieces).map String.ofList = subpath := by
  cases subpath with
  | none => exact ⟨[], by simpa using Text.splitOn_of_not_mem plain, rfl⟩
  | some s =>
    obtain ⟨rest, chars⟩ := List.head?_eq_some_iff.1 (slash s rfl)
    refine ⟨splitOn '/' rest, ?_, ?_⟩
    · rw [Option.getD_some, chars, Text.splitOn_append_sep plain]
    · rw [subpathOf_splitOn, ← chars, Option.map_some, String.ofList_toList]

theorem ofList_head_subpathOf {pieces : List (List Char)} {s : String}
    (h : s ∈ (subpathOf pieces).map String.ofList) : s.toList.head? = some '/' := by
  cases pieces with
  | nil => cases h
  | cons piece pieces =>
    cases h
    rw [String.toList_ofList]
    rfl

/-- A reference that begins with no dot is read off its pieces. -/
theorem parse_of_pieces {text : String} {piece : List Char} {pieces : List (List Char)}
    (dot : text.toList.head? ≠ some '.') (h : splitOn '/' text.toList = piece :: pieces) :
    parse text =
      if piece.head? = some '@' then
        ⟨some (String.ofList piece), (takeName pieces).1.map String.ofList,
          (subpathOf (takeName pieces).2).map String.ofList⟩
      else
        ⟨none, (takeName (piece :: pieces)).1.map String.ofList,
          (subpathOf pieces).map String.ofList⟩ := by
  rw [parse, if_neg dot, h]
  cases piece with
  | nil => rfl
  | cons c cs =>
    by_cases hc : c = '@'
    · subst hc
      rfl
    · have plain : takeScope ((c :: cs) :: pieces) = (none, (c :: cs) :: pieces) := by
        simp [takeScope, hc]
      have other : ¬ (c :: cs).head? = some '@' := by simpa using hc
      rw [plain, if_neg other]
      rfl

/-- The name that is taken off pieces is the first one, if that is not empty. -/
theorem takeName_eq_some_iff {pieces : List (List Char)} {name : List Char} :
    (takeName pieces).1 = some name ↔ name ≠ [] ∧ pieces = name :: (takeName pieces).2 := by
  cases pieces with
  | nil => simp [takeName]
  | cons piece pieces =>
    by_cases h : piece = []
    · subst h
      simp [takeName, eq_comm]
    · simp only [takeName, if_neg h, Option.some.injEq, List.cons.injEq, and_true]
      constructor
      · rintro rfl
        exact ⟨h, rfl⟩
      · rintro ⟨-, same⟩
        exact same

/-! ## Reading what is spelled -/

section Spelling

variable {scope : Option String} {name text : String} {subpath : Option String}

/-- Parts of a package are read off the text that they spell. -/
theorem parse_spelled (h : IsPackage scope name subpath) :
    parse (spelled scope name subpath) = ⟨scope, some name, subpath⟩ := by
  obtain ⟨pieces, split, sub⟩ := exists_splitOn_name h.plain h.slash
  have full : name.toList ≠ [] := by
    intro empty
    exact h.nonempty (by simpa using congrArg String.ofList empty)
  cases scope with
  | none =>
    obtain ⟨dot, sign⟩ := h.bare rfl
    have first : (spelled none name subpath).toList.head? = name.toList.head? := by
      obtain ⟨c, cs, chars⟩ := List.exists_cons_of_ne_nil full
      rw [spelled_eq, chars]
      rfl
    rw [← spelled_eq] at split
    rw [parse_of_pieces (first ▸ dot) split, if_neg sign, sub]
    simp [takeName, full]
  | some s =>
    have sign := h.sign s rfl
    have chars := spelled_scoped_eq s name subpath
    have dot : (spelled (some s) name subpath).toList.head? ≠ some '.' := by
      obtain ⟨rest, signed⟩ := List.head?_eq_some_iff.1 sign
      simp [chars, signed]
    -- the scope is the first piece, and the name is then taken off the others
    have pieces_eq : splitOn '/' (spelled (some s) name subpath).toList =
        s.toList :: name.toList :: pieces := by
      rw [chars, Text.splitOn_append_sep (h.scope_plain s rfl), split]
    rw [parse_of_pieces dot pieces_eq, if_pos sign]
    simp [takeName, full, sub]

/-- A name taken off pieces and the subpath behind it spell the joined pieces. -/
theorem toList_name_subpath {pieces : List (List Char)} {cs : List Char}
    (further : pieces = cs :: (takeName pieces).2) :
    cs ++ (((subpathOf (takeName pieces).2).map String.ofList).getD "").toList =
      joinWith '/' pieces := by
  have joined := joinWith_name cs (takeName pieces).2
  rw [← further] at joined
  rw [joined]
  cases subpathOf (takeName pieces).2 <;> simp

/-- The parts read off pieces of which the first one is a scope. -/
theorem spelled_of_scope {piece cs : List Char} {pieces : List (List Char)}
    (plain : ∀ other ∈ piece :: pieces, '/' ∉ other)
    (whole : joinWith '/' (piece :: pieces) = text.toList) (sign : piece.head? = some '@')
    (taken : (takeName pieces).1 = some cs)
    (sub : (subpathOf (takeName pieces).2).map String.ofList = subpath) :
    IsPackage (some (String.ofList piece)) (String.ofList cs) subpath ∧
      spelled (some (String.ofList piece)) (String.ofList cs) subpath = text := by
  obtain ⟨full, further⟩ := takeName_eq_some_iff.1 taken
  constructor
  · refine ⟨by simpa using full, ?_, ?_, ?_, ?_, ?_⟩
    · rw [String.toList_ofList]
      exact plain cs (by rw [further]; simp)
    · rintro s ⟨⟩
      rwa [String.toList_ofList]
    · rintro s ⟨⟩
      rw [String.toList_ofList]
      exact plain piece (by simp)
    · intro bare
      cases bare
    · intro s member
      exact ofList_head_subpathOf (sub ▸ member)
  · have more : pieces ≠ [] := by
      rw [further]
      exact List.cons_ne_nil _ _
    rw [← String.toList_inj, spelled_scoped_eq, String.toList_ofList, String.toList_ofList, ← sub,
      toList_name_subpath further, ← whole, Text.joinWith_cons more]

/-- The parts read off pieces of which the first one is the name. -/
theorem spelled_of_bare {piece cs : List Char} {pieces : List (List Char)}
    (plain : ∀ other ∈ piece :: pieces, '/' ∉ other)
    (whole : joinWith '/' (piece :: pieces) = text.toList) (dot : text.toList.head? ≠ some '.')
    (sign : piece.head? ≠ some '@') (taken : (takeName (piece :: pieces)).1 = some cs)
    (sub : (subpathOf pieces).map String.ofList = subpath) :
    IsPackage none (String.ofList cs) subpath ∧
      spelled none (String.ofList cs) subpath = text := by
  obtain ⟨full, further⟩ := takeName_eq_some_iff.1 taken
  have first : piece = cs := List.head_eq_of_cons_eq further
  subst first
  have chars : text.toList = piece ++ (subpath.getD "").toList := by
    rw [← whole, ← sub]
    exact (toList_name_subpath further).symm
  constructor
  · refine ⟨by simpa using full, ?_, by simp, by simp, ?_, ?_⟩
    · rw [String.toList_ofList]
      exact plain piece (by simp)
    · intro _
      rw [String.toList_ofList]
      refine ⟨fun dotted => dot ?_, sign⟩
      obtain ⟨rest, rfl⟩ := List.head?_eq_some_iff.1 dotted
      rw [chars]
      rfl
    · intro s member
      exact ofList_head_subpathOf (sub ▸ member)
  · rw [← String.toList_inj, spelled_eq, String.toList_ofList, chars]

/-- The parts that are read off a text are parts of a package and spell the text. -/
theorem spelled_of_parse (h : parse text = ⟨scope, some name, subpath⟩) :
    IsPackage scope name subpath ∧ spelled scope name subpath = text := by
  by_cases dot : text.toList.head? = some '.'
  · rw [parse, if_pos dot] at h
    cases h
  · cases split : splitOn '/' text.toList with
    | nil => exact absurd split (Text.splitOn_ne_nil '/' text.toList)
    | cons piece pieces =>
      have whole := Text.joinWith_splitOn '/' text.toList
      have plain (other : List Char) (member : other ∈ piece :: pieces) : '/' ∉ other :=
        Text.not_mem_of_mem_splitOn (split ▸ member)
      rw [split] at whole
      rw [parse_of_pieces dot split] at h
      -- the first piece is a scope or, if it is not empty, the name
      split at h
      · rename_i sign
        injection h with hscope hname hsub
        obtain ⟨cs, taken, rfl⟩ := Option.map_eq_some_iff.1 hname
        exact hscope ▸ spelled_of_scope plain whole sign taken hsub
      · rename_i sign
        injection h with hscope hname hsub
        obtain ⟨cs, taken, rfl⟩ := Option.map_eq_some_iff.1 hname
        exact hscope ▸ spelled_of_bare plain whole dot sign taken hsub

/-- Reading a text gives parts with a name exactly if they are parts of a package and spell the
text. -/
theorem parse_eq_iff :
    parse text = ⟨scope, some name, subpath⟩ ↔
      IsPackage scope name subpath ∧ spelled scope name subpath = text := by
  constructor
  · exact spelled_of_parse
  · rintro ⟨package, rfl⟩
    exact parse_spelled package

end Spelling

/-! ## Package names and their keys -/

section Package

variable {scope : Option String} {name : String} {subpath : Option String}

theorem flatMap_of_plain {cs : List Char} (plain : '/' ∉ cs) :
    (cs.flatMap fun c => if c = '/' then ['_', '_'] else [c]) = cs := by
  induction cs with
  | nil => rfl
  | cons c cs ih =>
    rw [List.mem_cons, not_or] at plain
    rw [List.flatMap_cons, if_neg (Ne.symm plain.1), ih plain.2]
    rfl

/-- A flattened package name is one path segment. -/
theorem slash_notMem_flattened (package : String) : '/' ∉ (flattened package).toList := by
  rw [flattened, String.toList_ofList, List.mem_flatMap]
  rintro ⟨c, -, member⟩
  by_cases slash : c = '/'
  · rw [if_pos slash] at member
    exact absurd member (by decide)
  · rw [if_neg slash, List.mem_singleton] at member
    exact slash member.symm

/-- The package name of a reference, with the subpath behind it, is what the reference spells; the
key of its community types is the package name, flattened if it has a scope. -/
theorem exists_packageName (h : IsPackage scope name subpath) :
    ∃ package key, packageName ⟨scope, some name, subpath⟩ = some package ∧
      mangledKey ⟨scope, some name, subpath⟩ = some key ∧
      package ++ subpath.getD "" = spelled scope name subpath ∧
      '/' ∉ key.toList ∧ key = if scope.isSome then flattened package else package := by
  have named : isNamed ⟨scope, some name, subpath⟩ = true := by simp [isNamed, h.nonempty]
  rw [packageName, if_pos named]
  cases scope with
  | none => exact ⟨name, name, rfl, rfl, rfl, h.plain, rfl⟩
  | some s =>
    obtain ⟨rest, chars⟩ := List.head?_eq_some_iff.1 (h.sign s rfl)
    have plain := h.scope_plain s rfl
    rw [chars, List.mem_cons, not_or] at plain
    -- an empty scope would be left out, but a scope has its sign
    have signed : s ≠ "" := by
      rintro rfl
      cases chars
    refine ⟨s ++ "/" ++ name, flattened (s ++ "/" ++ name), by simp [signed], ?_, rfl,
      slash_notMem_flattened _, rfl⟩
    simp [mangledKey, mangle, flattened, chars, String.toList_append, flatMap_of_plain h.plain,
      flatMap_of_plain plain.2]

end Package

/-! ## Every text -/

section Text

variable {text : String}

/-- A text that begins with a dot or a slash is only a path. -/
theorem parse_of_path (h : text.toList.head? = some '.' ∨ text.toList.head? = some '/') :
    parse text = ⟨none, none, some text⟩ := by
  rcases h with dot | slash
  · rw [parse, if_pos dot]
  · obtain ⟨rest, chars⟩ := List.head?_eq_some_iff.1 slash
    have dot : text.toList.head? ≠ some '.' := by simp [chars]
    -- the first piece is empty, and the others are those of the text behind the slash
    have split : splitOn '/' text.toList = [] :: splitOn '/' rest := by simp [chars, splitOn]
    have whole : String.ofList ('/' :: rest) = text := by rw [← chars, String.ofList_toList]
    rw [parse_of_pieces dot split, if_neg (by simp), subpathOf_splitOn, Option.map_some, whole]
    rfl

/-- A reference that names a package was read with a name, and its parts spell the text. -/
theorem exists_parts (named : (parse text).isNamed = true) :
    ∃ name, parse text = ⟨(parse text).scope, some name, (parse text).subpath⟩ := by
  generalize parse text = ref at named ⊢
  obtain ⟨scope, name, subpath⟩ := ref
  cases name with
  | none => cases named
  | some name => exact ⟨name, rfl⟩

/-- The text behind a reference that names a package is not that of a path. -/
theorem not_path_of_named (named : (parse text).isNamed = true) :
    text.toList.head? ≠ some '.' ∧ text.toList.head? ≠ some '/' := by
  rw [← not_or]
  intro path
  rw [parse_of_path path] at named
  cases named

end Text

/-- Reading a reference keeps the text. A text that begins with a dot or a slash is only a path, the
text itself. If a reference names a package, its parts are those of a package, the package name and
the subpath spell the text, and the key of its community types is the package name in one path
segment. Any parts of a package are read off the text that they spell, so a named reference is read
from one text only. -/
theorem parse_lossless (text : String) :
    (text.toList.head? = some '.' ∨ text.toList.head? = some '/' →
      parse text = ⟨none, none, some text⟩ ∧ (parse text).mangledKey = none) ∧
    ((parse text).isNamed = true →
      text.toList.head? ≠ some '.' ∧ text.toList.head? ≠ some '/' ∧
      ∃ name package key,
        (parse text).name = some name ∧ (parse text).packageName = some package ∧
        (parse text).mangledKey = some key ∧
        IsPackage (parse text).scope name (parse text).subpath ∧
        package ++ (parse text).subpath.getD "" = text ∧
        '/' ∉ key.toList ∧
        key = if (parse text).scope.isSome then flattened package else package) ∧
    (∀ scope name subpath, IsPackage scope name subpath →
      parse (spelled scope name subpath) = ⟨scope, some name, subpath⟩) ∧
    ∀ other, (parse text).isNamed = true → parse other = parse text → other = text := by
  refine ⟨?_, ?_, ?_, ?_⟩
  · intro path
    rw [parse_of_path path]
    exact ⟨rfl, rfl⟩
  · intro named
    obtain ⟨name, parts⟩ := exists_parts named
    obtain ⟨isPackage, spells⟩ := parse_eq_iff.1 parts
    obtain ⟨package, key, hpackage, hkey, followed, plain, flat⟩ := exists_packageName isPackage
    rw [← parts] at hpackage hkey
    exact ⟨(not_path_of_named named).1, (not_path_of_named named).2, name, package, key,
      by rw [parts], hpackage, hkey, isPackage, followed.trans spells, plain, flat⟩
  · intro scope name subpath isPackage
    exact parse_eq_iff.2 ⟨isPackage, rfl⟩
  · intro other named same
    -- both texts are what the same parts spell
    obtain ⟨name, parts⟩ := exists_parts named
    rw [← (parse_eq_iff.1 parts).2, ← (parse_eq_iff.1 (same.trans parts)).2]

/-- A scoped name with a subpath, and a name that may begin with a dot behind a scope. -/
theorem parse_lossless_scoped :
    (parse "@babel/core/parse").isNamed = true ∧
    (∃ package key, (parse "@babel/core/parse").packageName = some package ∧
      (parse "@babel/core/parse").mangledKey = some key ∧ package ++ "/parse" = "@babel/core/parse" ∧
      key = flattened package) ∧
    IsPackage (some "@a") ".b" none ∧ parse "@a/.b" = ⟨some "@a", some ".b", none⟩ ∧
    ∀ other, parse other = parse "@babel/core/parse" → other = "@babel/core/parse" := by
  obtain ⟨-, parts, read, once⟩ := parse_lossless "@babel/core/parse"
  have named : (parse "@babel/core/parse").isNamed = true := by decide +kernel
  obtain ⟨-, -, -, package, key, -, hpackage, hkey, -, whole, -, flat⟩ := parts named
  have dotted : IsPackage (some "@a") ".b" none :=
    ⟨by decide, by decide, by decide, by decide, by decide, by decide⟩
  exact ⟨named, ⟨package, key, hpackage, hkey, whole, flat⟩, dotted, read _ _ _ dotted,
    fun other => once other named⟩

end ModuleResolution.Reference
