import ModuleResolution.Proofs.Reference.Spelling
import ModuleResolution.Proofs.Resolution.Recorded

/-!
# References that are looked up as paths

A reference in a declaration file that names no package may be looked up as a path. `PathReference`
tells which references are, and under which path: those that begin with a dot or a slash, and those
in which a slash follows a scope at once, as in `@scope//rest`. Of the latter the text behind the
scope is taken for an absolute path, although the reference begins with neither character
(`not_paths_only_looked_up`).

All other references without a package name are unresolved without a question
(`resolve_nameless_iff`). The proof reads the pieces of a reference at its slashes
(`parse_subpath_iff`).
-/

set_option autoImplicit false

namespace ModuleResolution

open Text (splitOn joinWith)

/-! ## References without a package name -/

/-- A reference that is looked up as a path, with this path. -/
inductive PathReference : String → String → Prop
  | relative {text : String} (h : text.toList.head? = some '.') : PathReference text text
  | absolute {text : String} (h : text.toList.head? = some '/') : PathReference text text
  | behindScope {text : String} {scope rest : List Char} (plain : '/' ∉ scope)
      (h : text.toList = '@' :: scope ++ '/' :: '/' :: rest) :
      PathReference text (String.ofList ('/' :: rest))

namespace Reference

theorem packageName_eq_none_iff (ref : Reference) :
    ref.packageName = none ↔ ref.isNamed = false := by
  unfold packageName isNamed
  cases ref.name with
  | none => simp
  | some name => by_cases h : name = "" <;> simp [h]

theorem subpathOf_eq_some_iff {pieces : List (List Char)} {cs : List Char} :
    subpathOf pieces = some cs ↔ pieces ≠ [] ∧ cs = '/' :: joinWith '/' pieces := by
  cases pieces with
  | nil => simp [subpathOf]
  | cons piece pieces => simp [subpathOf, eq_comm]

/-- No name is taken off pieces of which the first one is empty or missing. -/
theorem takeName_eq_none_iff {pieces : List (List Char)} :
    (takeName pieces).1 = none ↔ pieces = [] ∨ ∃ further, pieces = [] :: further := by
  cases pieces with
  | nil => simp [takeName]
  | cons piece pieces => by_cases h : piece = [] <;> simp [takeName, h]

/-- A name that is taken off is not empty, so a reference is named just when it has a name. -/
theorem isNamed_takeName_iff (scope subpath : Option String) (pieces : List (List Char)) :
    (Reference.mk scope ((takeName pieces).1.map String.ofList) subpath).isNamed = false ↔
      (takeName pieces).1 = none := by
  cases pieces with
  | nil => simp [isNamed, takeName]
  | cons piece pieces => by_cases h : piece = [] <;> simp [isNamed, takeName, h]

theorem subpath_of_pathReference {text path : String} (h : PathReference text path) :
    (parse text).isNamed = false ∧ (parse text).subpath = some path := by
  cases h with
  | relative dot =>
    rw [parse_of_path (.inl dot)]
    exact ⟨rfl, rfl⟩
  | absolute slash =>
    rw [parse_of_path (.inr slash)]
    exact ⟨rfl, rfl⟩
  | @behindScope scope rest plain h =>
    have dot : text.toList.head? ≠ some '.' := by simp [h]
    have noSlash : '/' ∉ '@' :: scope := by simpa using plain
    have split : splitOn '/' text.toList = ('@' :: scope) :: [] :: splitOn '/' rest := by
      rw [h, Text.splitOn_append_sep noSlash]
      simp [splitOn]
    have first : ('@' :: scope).head? = some '@' := rfl
    rw [parse_of_pieces dot split, if_pos first]
    refine ⟨rfl, ?_⟩
    rw [takeName, subpathOf_splitOn, Option.map_some]

theorem pathReference_of_subpath {text path : String} (nameless : (parse text).isNamed = false)
    (sub : (parse text).subpath = some path) : PathReference text path := by
  by_cases dot : text.toList.head? = some '.'
  · rw [parse, if_pos dot] at sub
    cases sub
    exact .relative dot
  · cases split : splitOn '/' text.toList with
    | nil => exact absurd split (Text.splitOn_ne_nil '/' text.toList)
    | cons piece pieces =>
      have whole := Text.joinWith_splitOn '/' text.toList
      rw [split] at whole
      rw [parse_of_pieces dot split] at nameless sub
      by_cases hscope : piece.head? = some '@'
      -- behind a scope the name is missing: the next piece is empty, and further ones follow
      · obtain ⟨scope, hpiece⟩ := List.head?_eq_some_iff.1 hscope
        rw [if_pos hscope] at nameless sub
        have unnamed := (isNamed_takeName_iff _ _ _).1 nameless
        rcases takeName_eq_none_iff.1 unnamed with rfl | ⟨further, rfl⟩
        · simp [takeName, subpathOf] at sub
        · obtain ⟨cs, hcs, rfl⟩ := Option.map_eq_some_iff.1 sub
          obtain ⟨more, rfl⟩ := subpathOf_eq_some_iff.1 hcs
          have plain : '/' ∉ piece := Text.not_mem_of_mem_splitOn (by rw [split]; simp)
          rw [hpiece] at plain whole
          refine .behindScope (fun hmem => plain (List.mem_cons_of_mem '@' hmem)) ?_
          have behind : further ≠ [] := more
          show text.toList = '@' :: scope ++ '/' :: '/' :: joinWith '/' further
          rw [← whole, Text.joinWith_cons (by simp), Text.joinWith_cons behind]
          rfl
      -- without a scope the first piece is the empty one before a slash
      · rw [if_neg hscope] at nameless sub
        have unnamed := (isNamed_takeName_iff _ _ _).1 nameless
        rcases takeName_eq_none_iff.1 unnamed with h | ⟨further, h⟩
        · cases h
        · cases h
          obtain ⟨cs, hcs, rfl⟩ := Option.map_eq_some_iff.1 sub
          obtain ⟨more, rfl⟩ := subpathOf_eq_some_iff.1 hcs
          rw [Text.joinWith_cons more, List.nil_append] at whole
          rw [whole, String.ofList_toList]
          exact .absolute (by rw [← whole]; rfl)

/-- A reference without package name has a subpath just when it is looked up as a path. -/
theorem parse_subpath_iff {text path : String} :
    ((parse text).isNamed = false ∧ (parse text).subpath = some path) ↔
      PathReference text path :=
  ⟨fun h => pathReference_of_subpath h.1 h.2, subpath_of_pathReference⟩

end Reference

/-! ## Requests in a declaration file -/

namespace Resolution

open Dependency (Index)

/-- What a path in question comes to. -/
def pathOutcome (fs : FileSystem) (path : String) : Outcome :=
  if fs.exists? path then .resolved path else .unresolved .noDeclaration

variable {index : Index} {file : String}

/-- The rule of a declaration file that is not indexed is to look on disk. -/
theorem rule_of_declarationFile (unindexed : index.get? file = none)
    (declaration : isDeclarationFile file = true) : rule index file = fromDisk file := by
  rw [rule, unindexed]
  exact if_pos declaration

section Disk

variable {text : String} (ordinary : Builtin.contains text = false)
include ordinary

theorem fromDisk_of_ordinary (file : String) :
    fromDisk file text =
      diskDeclaration (Path.parent file) (.parse text) >>= fun found =>
        match found with
        | some path => decided text (.resolved path)
        | none => decided text (.unresolved .noDeclaration) := by
  rw [fromDisk, ordinary]
  rfl

/-- A path reference is looked up under its path, with one question. -/
theorem fromDisk_of_path (file : String) {path : String} (h : PathReference text path) :
    fromDisk file text =
      .probe (pathDeclaration (Path.parent file) path) fun found =>
        decided text (if found then .resolved (pathDeclaration (Path.parent file) path)
          else .unresolved .noDeclaration) := by
  obtain ⟨nameless, sub⟩ := Reference.parse_subpath_iff.2 h
  have lookup : diskDeclaration (Path.parent file) (.parse text) =
      Package.firstExisting [pathDeclaration (Path.parent file) path] := by
    simp [diskDeclaration, nameless, sub]
  rw [fromDisk_of_ordinary ordinary, lookup]
  refine congrArg (Lookup.probe _) (funext fun found => ?_)
  cases found with
  | true => rfl
  | false => rfl

/-- Without package name and path nothing is asked. -/
theorem fromDisk_of_no_path (file : String) (nameless : (Reference.parse text).isNamed = false)
    (h : ∀ path, ¬ PathReference text path) :
    fromDisk file text = decided text (.unresolved .noDeclaration) := by
  have sub : (Reference.parse text).subpath = none := by
    rw [Option.eq_none_iff_forall_ne_some]
    exact fun path hpath => h path (Reference.parse_subpath_iff.1 ⟨nameless, hpath⟩)
  have lookup : diskDeclaration (Path.parent file) (.parse text) = pure none := by
    simp [diskDeclaration, nameless, sub]
  rw [fromDisk_of_ordinary ordinary, lookup]
  rfl

end Disk

/-- A reference without package name in a declaration file that is not indexed. It is unresolved
without a question exactly when it is no path reference. A path reference is looked up under its
path, with one question, and leads to a declaration file if there is one. So of the references that
begin with neither a dot nor a slash only those are looked up as paths in which a slash follows the
scope at once. -/
theorem resolve_nameless_iff (fs : FileSystem) {index : Index} {file text : String}
    (unindexed : index.get? file = none) (declaration : isDeclarationFile file = true)
    (ordinary : Builtin.contains text = false)
    (nameless : (Reference.parse text).packageName = none) :
    ((resolve index file (.list [text])).answer fs = .ok [.unresolved .noDeclaration] ∧
        (resolve index file (.list [text])).questions fs = 0 ↔
      ∀ path, ¬ PathReference text path) ∧
    (∀ path, PathReference text path →
      (resolve index file (.list [text])).answer fs =
          .ok [pathOutcome fs (pathDeclaration (Path.parent file) path)] ∧
        (resolve index file (.list [text])).questions fs = 1) ∧
    (text.toList.head? ≠ some '.' → text.toList.head? ≠ some '/' →
      ∀ path, PathReference text path ↔
        ∃ scope rest, '/' ∉ scope ∧ text.toList = '@' :: scope ++ '/' :: '/' :: rest ∧
          path = String.ofList ('/' :: rest)) := by
  rw [Reference.packageName_eq_none_iff] at nameless
  simp only [answer_resolve_singleton, questions_resolve_singleton,
    rule_of_declarationFile unindexed declaration]
  have looked (path : String) (h : PathReference text path) :
      ((fromDisk file text).answer fs).map (fun outcome => [outcome]) =
          .ok [pathOutcome fs (pathDeclaration (Path.parent file) path)] ∧
        (fromDisk file text).questions fs = 1 := by
    rw [fromDisk_of_path ordinary file h]
    exact ⟨rfl, rfl⟩
  refine ⟨⟨fun silent path h => ?_, fun h => ?_⟩, looked, fun dot slash path => ⟨fun h => ?_, ?_⟩⟩
  · have asked := (looked path h).2
    rw [silent.2] at asked
    cases asked
  · rw [fromDisk_of_no_path ordinary file nameless h]
    exact ⟨rfl, rfl⟩
  · cases h with
    | relative h => exact absurd h dot
    | absolute h => exact absurd h slash
    | behindScope plain h => exact ⟨_, _, plain, h, rfl⟩
  · rintro ⟨scope, rest, plain, h, rfl⟩
    exact .behindScope plain h

/-- A declaration file at the root of all files. -/
def rootDeclaration : Files.Memory :=
  .ofList [("/y.d.ts", "")]

/-- The scope of `@x//y` is followed by a path, the one of `@x` by nothing. -/
theorem resolve_nameless_iff_scoped :
    (Index.empty.get? "/p/a.d.ts" = none ∧ isDeclarationFile "/p/a.d.ts" = true) ∧
      ((Reference.parse "@x//y").packageName = none ∧ (Reference.parse "@x").packageName = none) ∧
      ((resolve .empty "/p/a.d.ts" (.list ["@x//y"])).answer (rootDeclaration.fileSystem 0) =
          .ok [.resolved "/y.d.ts"] ∧
        (resolve .empty "/p/a.d.ts" (.list ["@x//y"])).questions (rootDeclaration.fileSystem 0) = 1) ∧
      (resolve .empty "/p/a.d.ts" (.list ["@x"])).answer (rootDeclaration.fileSystem 0) =
          .ok [.unresolved .noDeclaration] ∧
        (resolve .empty "/p/a.d.ts" (.list ["@x"])).questions (rootDeclaration.fileSystem 0) = 0 := by
  have unindexed : Index.empty.get? "/p/a.d.ts" = none := rfl
  have declaration : isDeclarationFile "/p/a.d.ts" = true := by decide +kernel
  have behind : (Reference.parse "@x//y").packageName = none := by decide +kernel
  have alone : (Reference.parse "@x").packageName = none := by decide +kernel
  have path : PathReference "@x//y" "/y" := .behindScope (by decide : '/' ∉ ['x']) rfl
  have no_path : ∀ path, ¬ PathReference "@x" path := by
    intro path h
    cases h with
    | relative h => exact absurd h (by decide)
    | absolute h => exact absurd h (by decide)
    | behindScope plain h =>
      have slash : '/' ∈ "@x".toList := by
        rw [h]
        simp
      exact absurd slash (by decide)
  obtain ⟨-, looked, -⟩ := resolve_nameless_iff (rootDeclaration.fileSystem 0) unindexed declaration
    (by decide +kernel : Builtin.contains "@x//y" = false) behind
  obtain ⟨silent, -, -⟩ := resolve_nameless_iff (rootDeclaration.fileSystem 0) unindexed declaration
    (by decide +kernel : Builtin.contains "@x" = false) alone
  have found : pathOutcome (rootDeclaration.fileSystem 0)
      (pathDeclaration (Path.parent "/p/a.d.ts") "/y") = .resolved "/y.d.ts" := by
    decide +kernel
  obtain ⟨answered, asked⟩ := looked "/y" path
  rw [found] at answered
  exact ⟨⟨unindexed, declaration⟩, ⟨behind, alone⟩, ⟨answered, asked⟩, silent.2 no_path⟩

/-- Not every reference without package name that begins with neither a dot nor a slash is left
alone. -/
theorem not_paths_only_looked_up :
    ¬ ∀ (fs : FileSystem) (index : Index) (file text : String),
      index.get? file = none → isDeclarationFile file = true → Builtin.contains text = false →
      text.toList.head? ≠ some '.' → text.toList.head? ≠ some '/' →
      (Reference.parse text).packageName = none →
      (resolve index file (.list [text])).answer fs = .ok [.unresolved .noDeclaration] ∧
        (resolve index file (.list [text])).questions fs = 0 := by
  intro silent
  have asked : (resolve .empty "/p/a.d.ts" (.list ["@x//y"])).questions
      (rootDeclaration.fileSystem 0) = 1 := by
    decide +kernel
  have unasked := (silent (rootDeclaration.fileSystem 0) .empty "/p/a.d.ts" "@x//y" rfl
    (by decide +kernel) (by decide +kernel) (by decide) (by decide) (by decide +kernel)).2
  rw [asked] at unasked
  cases unasked

end Resolution

end ModuleResolution
