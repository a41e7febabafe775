import ModuleResolution.Proofs.Path.Rooted
import ModuleResolution.Proofs.Resolution.Batch
import ModuleResolution.Proofs.Resolution.PathReference

/-!
# References in the same directory

A reference that begins with a dot and has no `..` among its segments is meant for the directory of
the file that contains it. It is resolved to a path below this directory if some segment of it is a
name. If none is, as in `.` or `.//.`, the reference is the directory itself, and the ending of a
declaration file goes to the name of the directory: the path stands beside the directory and not in
it, unless the directory is a root and has no name (`resolved_below_directory_iff`,
`not_resolved_below_directory`).
-/

set_option autoImplicit false

namespace ModuleResolution

open Text (splitOn)

/-- A reference that begins with a dot and has no step up. -/
structure SameDirectory (name : String) : Prop where
  dot : name.toList.head? = some '.'
  level : Path.parentSegment ∉ splitOn '/' name.toList

instance (name : String) : Decidable (SameDirectory name) :=
  decidable_of_iff (name.toList.head? = some '.' ∧ Path.parentSegment ∉ splitOn '/' name.toList)
    ⟨fun h => ⟨h.1, h.2⟩, fun h => ⟨h.dot, h.level⟩⟩

theorem SameDirectory.relative {name : String} (same : SameDirectory name) :
    name.toList.head? ≠ some '/' := by
  rw [same.dot]
  decide

/-- A reference of which some segment is a name, not only empty ones and `.`. -/
def HasName (name : String) : Prop :=
  ∃ seg ∈ splitOn '/' name.toList, Path.IsName seg

instance (name : String) : Decidable (HasName name) :=
  inferInstanceAs (Decidable (∃ seg ∈ splitOn '/' name.toList,
    seg ≠ [] ∧ seg ≠ ['.'] ∧ seg ≠ Path.parentSegment))

namespace Resolution

open Dependency (Index)

/-- A reference that begins with a dot is resolved to the declaration file of its own path. -/
theorem eq_pathDeclaration_of_fromDisk {fs : FileSystem} {file name path : String}
    (dot : name.toList.head? = some '.')
    (resolved : (fromDisk file name).answer fs = .ok (.resolved path)) :
    path = pathDeclaration (Path.parent file) name := by
  cases ordinary : Builtin.contains name with
  | true => simp [fromDisk, ordinary] at resolved
  | false =>
    have looked : (fromDisk file name).answer fs =
        .ok (pathOutcome fs (pathDeclaration (Path.parent file) name)) := by
      rw [fromDisk_of_path ordinary file (.relative dot)]
      rfl
    rw [looked, Except.ok.injEq, pathOutcome] at resolved
    split at resolved
    · exact (Outcome.resolved.inj resolved).symm
    · cases resolved

/-- In the answer to a request in an absolute declaration file that is not indexed, the path of a
reference in the same directory lies below the directory of the file exactly if some segment of the
reference is a name, or the directory is a root. Without a name the reference is the directory
itself, and the name of the directory gets the ending. -/
theorem resolved_below_directory_iff (fs : FileSystem) {index : Index} {file : String}
    {names : List String} {outcomes : List Outcome}
    (unindexed : index.get? file = none) (declaration : isDeclarationFile file = true)
    (absolute : Path.isAbsolute file = true)
    (answered : (resolve index file (.list names)).answer fs = .ok outcomes) :
    List.Forall₂
      (fun name outcome => ∀ path, SameDirectory name → outcome = .resolved path →
        (Path.Below (Path.parent file) path ↔
          HasName name ∨ Path.normalSegments (Path.parent file).toList = []) ∧
        (¬ HasName name →
          path = Path.normalize (Path.parent file) ++ Package.declarationSuffix))
      names outcomes := by
  rw [answer_resolve, answer_each_iff, rule_of_declarationFile unindexed declaration] at answered
  refine answered.imp fun name outcome ruled path same resolved => ?_
  rw [resolved] at ruled
  have rooted := Path.isAbsolute_parent absolute
  rw [eq_pathDeclaration_of_fromDisk same.dot ruled, pathDeclaration]
  constructor
  · exact Path.below_normalize_join_append_iff rooted same.relative same.level (by decide)
      (by decide)
  · intro nameless
    rw [Path.normalize_join_of_nameless rooted same.relative same.level nameless]

/-- A declaration file in a directory, and one beside it with the name of the directory. -/
def besideDirectory : Files.Memory :=
  .ofList [("/p/x.d.ts", ""), ("/p.d.ts", "")]

theorem answer_besideDirectory :
    (resolve .empty "/p/a.d.ts" (.list ["./x", "."])).answer (besideDirectory.fileSystem 0) =
      .ok [.resolved "/p/x.d.ts", .resolved "/p.d.ts"] := by
  decide +kernel

/-- The file in the directory is found below it, the one beside it is not. -/
theorem resolved_below_directory_iff_beside :
    (Index.empty.get? "/p/a.d.ts" = none ∧ isDeclarationFile "/p/a.d.ts" = true ∧
        Path.isAbsolute "/p/a.d.ts" = true) ∧
      (resolve .empty "/p/a.d.ts" (.list ["./x", "."])).answer (besideDirectory.fileSystem 0) =
        .ok [.resolved "/p/x.d.ts", .resolved "/p.d.ts"] ∧
      Path.Below "/p" "/p/x.d.ts" ∧ ¬ Path.Below "/p" "/p.d.ts" := by
  have unindexed : Index.empty.get? "/p/a.d.ts" = none := rfl
  have declaration : isDeclarationFile "/p/a.d.ts" = true := by decide +kernel
  have absolute : Path.isAbsolute "/p/a.d.ts" = true := by decide
  have directory : Path.parent "/p/a.d.ts" = "/p" := by decide +kernel
  have no_root : Path.normalSegments "/p".toList ≠ [] := by decide
  have named : HasName "./x" := by decide
  have nameless : ¬ HasName "." := by decide
  have both := resolved_below_directory_iff (besideDirectory.fileSystem 0) unindexed declaration
    absolute answer_besideDirectory
  rw [List.forall₂_cons, List.forall₂_cons, directory] at both
  obtain ⟨inside, beside, -⟩ := both
  refine ⟨⟨unindexed, declaration, absolute⟩, answer_besideDirectory, ?_, fun below => ?_⟩
  · exact (inside _ (by decide) rfl).1.2 (.inl named)
  · exact ((beside _ (by decide) rfl).1.1 below).elim nameless no_root

/-- Not every reference in the same directory is resolved to a path below the directory. -/
theorem not_resolved_below_directory :
    ¬ ∀ (fs : FileSystem) (index : Index) (file name path : String),
      index.get? file = none → isDeclarationFile file = true → Path.isAbsolute file = true →
      SameDirectory name →
      (resolve index file (.list [name])).answer fs = .ok [.resolved path] →
      Path.Below (Path.parent file) path := by
  intro inside
  have answered : (resolve .empty "/p/a.d.ts" (.list ["."])).answer (besideDirectory.fileSystem 0) =
      .ok [.resolved "/p.d.ts"] := by
    decide +kernel
  have below := inside (besideDirectory.fileSystem 0) .empty "/p/a.d.ts" "." "/p.d.ts" rfl
    (by decide +kernel) (by decide) (by decide) answered
  obtain ⟨-, inner, some_inner, -, segs⟩ := below
  -- both normal forms have one segment
  have one : (Path.normalSegments "/p.d.ts".toList).length =
      (Path.normalSegments (Path.parent "/p/a.d.ts").toList).length := by
    decide +kernel
  rw [segs, List.length_append] at one
  exact some_inner (List.length_eq_zero_iff.1 (by omega))

end Resolution

end ModuleResolution
