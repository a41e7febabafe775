import ModuleResolution.Proofs.Package.Search
import ModuleResolution.Proofs.Path.Below

/-!
# Where deep imports lead

A deep import names a package and a subpath. Its declaration file is looked for at the segments of
the subpath, the last one with an extension, joined to the package root (`fileSegments`). Nothing
keeps the segments inside the package: `deepImport_below_iff` states that the file found lies below
the package root exactly if the segments lead back through every directory that their `..` climb
over. Subpaths that do not climb above the package stay inside.
-/

set_option autoImplicit false

namespace ModuleResolution.Package

/-- The segments from a package root to the declaration file behind a subpath: those of the subpath
that are not empty, the last one with the extension. -/
def fileSegments (subpath : String) : List String :=
  (subpathSegments subpath).dropLast ++
    ((subpathSegments subpath).getLast?.map (· ++ declarationSuffix)).toList

theorem mem_subpathSegments {subpath segment : String} (h : segment ∈ subpathSegments subpath) :
    segment ≠ "" ∧ '/' ∉ segment.toList := by
  obtain ⟨piece, member, rfl⟩ := List.mem_map.1 h
  obtain ⟨member, nonempty⟩ := List.mem_filter.1 member
  rw [String.toList_ofList]
  rw [decide_eq_true_eq] at nonempty
  refine ⟨?_, Text.not_mem_of_mem_splitOn member⟩
  intro empty
  exact nonempty (by simpa using congrArg String.toList empty)

/-- The last segment of a subpath with the extension is the name of a file. -/
theorem isName_append_declarationSuffix (segment : String) :
    Path.IsName (segment ++ declarationSuffix).toList := by
  apply Path.isName_of_length
  rw [String.toList_append, List.length_append]
  have ending : declarationSuffix.toList.length = 5 := by rfl
  omega

section FileSegments

variable {subpath : String}

theorem exists_fileSegments (segments : subpathSegments subpath ≠ []) :
    ∃ front last, subpathSegments subpath = front ++ [last] ∧
      fileSegments subpath = front ++ [last ++ declarationSuffix] := by
  rcases List.eq_nil_or_concat (subpathSegments subpath) with empty | ⟨front, last, split⟩
  · exact absurd empty segments
  · rw [List.concat_eq_append] at split
    exact ⟨front, last, split, by simp [fileSegments, split]⟩

theorem slash_notMem_fileSegments :
    ∀ segment ∈ fileSegments subpath, '/' ∉ segment.toList := by
  intro segment member
  rcases List.mem_append.1 member with front | last
  · exact (mem_subpathSegments (List.dropLast_subset _ front)).2
  · obtain ⟨last, ending, rfl⟩ := by simpa using last
    have plain := (mem_subpathSegments (List.mem_of_getLast? ending)).2
    rw [String.toList_append, List.mem_append, not_or]
    exact ⟨plain, by decide⟩

/-- The file behind a subpath, as a path that is joined to the package root. -/
theorem joinAll_fileSegments (segments : subpathSegments subpath ≠ []) (packageDir : String) :
    Path.joinAll packageDir (subpathSegments subpath) ++ declarationSuffix =
      Path.joinAll packageDir (fileSegments subpath) := by
  obtain ⟨front, last, split, files⟩ := exists_fileSegments segments
  have nonempty := (@mem_subpathSegments subpath last (by simp [split])).1
  rw [split, files, Path.joinAll, Path.joinAll, List.foldl_append, List.foldl_append]
  exact Path.join_append nonempty _ _

/-- Segments that do not climb above a package stay inside of it. -/
theorem leadsBelow_fileSegments (segments : subpathSegments subpath ≠ [])
    (level : Path.climbs ((fileSegments subpath).map String.toList) = 0) (packageDir : String) :
    Path.LeadsBelow packageDir ((fileSegments subpath).map String.toList) := by
  obtain ⟨front, last, -, files⟩ := exists_fileSegments segments
  rw [files, List.map_append] at level ⊢
  exact Path.leadsBelow_of_climbs_eq_zero (isName_append_declarationSuffix last) level packageDir

end FileSegments

/-- The decision at a package directory is for the file behind the subpath. -/
theorem eq_of_declarationAt {fs : FileSystem} {ref : Reference} {subpath packageDir path : String}
    (deep : ref.subpath = some subpath)
    (found : declarationAt fs ref packageDir = .ok (some path)) :
    path = Path.joinAll packageDir (subpathSegments subpath) ++ declarationSuffix := by
  simp only [declarationAt, deep, Except.ok.injEq] at found
  split at found
  · exact (Option.some.inj found).symm
  · cases found

/-- A declaration that the search finds was decided for in a host directory. -/
theorem exists_host_of_declarationOf {fs : FileSystem} {ref : Reference} {searchRoot path : String}
    {variant : Variant} (found : declarationOf fs ref searchRoot variant = .ok (some path)) :
    ∃ base dir, boundaryDirectory fs searchRoot = some base ∧
      hostDirectory fs ref variant (Path.parent (Path.join base manifestFile)) = some dir ∧
      declarationAt fs ref (installPath ref dir variant) = .ok (some path) := by
  unfold declarationOf at found
  split at found
  · cases found
  · rename_i base boundary
    split at found
    · cases found
    · rename_i dir host
      exact ⟨base, dir, boundary, host, found⟩

/-- Where the declaration file of a deep import lies. The search has ended at the first directory,
from the package boundary upwards, whose package root holds a manifest. The file lies strictly below
that root exactly if the segments of the subpath lead there, and they do unless they climb above
it. -/
theorem deepImport_below_iff (fs : FileSystem) (text searchRoot subpath path : String)
    (variant : Variant) (named : (Reference.parse text).isNamed = true)
    (deep : (Reference.parse text).subpath = some subpath)
    (segments : subpathSegments subpath ≠ [])
    (found : (findDeclaration (.parse text) searchRoot variant).answer fs = .ok (some path)) :
    ∃ base dir packageDir,
      boundaryDirectory fs searchRoot = some base ∧
      hostDirectory fs (.parse text) variant (Path.parent (Path.join base manifestFile)) =
        some dir ∧
      root (.parse text) dir variant = .ok packageDir ∧
      fs.exists? (Path.join packageDir manifestFile) = true ∧
      (Path.Below packageDir path ↔
        Path.LeadsBelow packageDir ((fileSegments subpath).map String.toList)) ∧
      (Path.climbs ((fileSegments subpath).map String.toList) = 0 →
        Path.Below packageDir path) := by
  have scope := scope_parse_ne text
  rw [answer_findDeclaration fs named scope] at found
  obtain ⟨base, dir, boundary, host, decided⟩ := exists_host_of_declarationOf found
  have installed : fs.exists?
      (Path.join (installPath (.parse text) dir variant) manifestFile) = true := by
    have here := List.find?_some host
    rw [hosts, Bool.and_eq_true] at here
    exact here.2
  have file := eq_of_declarationAt deep decided
  rw [joinAll_fileSegments segments] at file
  have below := Path.below_joinAll_iff (@slash_notMem_fileSegments subpath)
    (installPath (.parse text) dir variant)
  rw [← file] at below
  exact ⟨base, dir, _, boundary, host, root_eq_ok named scope dir variant, installed, below,
    fun level => below.2 (leadsBelow_fileSegments segments level _)⟩

/-- A package with a file of its own and a file next to it. -/
def packageAndSibling : FileSystem where
  exists? path :=
    ["/package.json", "/node_modules/a/package.json", "/node_modules/a/x.d.ts",
      "/node_modules/b.d.ts"].contains (Path.normalize path)
  read path := .error (.notInMemory path)
  nesting := 0

/-- A subpath that leaves the package and comes back. -/
theorem deepImport_below_iff_back :
    (Reference.parse "a/../a/x").isNamed = true ∧
    (findDeclaration (.parse "a/../a/x") "/" .own).answer packageAndSibling =
      .ok (some "/node_modules/a/../a/x.d.ts") ∧
    ∃ packageDir, root (.parse "a/../a/x") "/" .own = .ok packageDir ∧
      Path.Below packageDir "/node_modules/a/../a/x.d.ts" := by
  have named : (Reference.parse "a/../a/x").isNamed = true := by decide +kernel
  have found : (findDeclaration (.parse "a/../a/x") "/" .own).answer packageAndSibling =
      .ok (some "/node_modules/a/../a/x.d.ts") := by rfl
  obtain ⟨base, dir, packageDir, boundary, host, located, -, below, -⟩ :=
    deepImport_below_iff packageAndSibling "a/../a/x" "/" "/../a/x" _ .own named (by rfl)
      (by decide +kernel) found
  cases boundary
  cases host
  cases located
  -- one step up, and back through the last segment of the package root
  have back : Path.LeadsBelow "/node_modules/a" ((fileSegments "/../a/x").map String.toList) :=
    ⟨.inl (by decide +kernel), [['x', '.', 'd', '.', 't', 's']], by simp, by rfl⟩
  exact ⟨named, found, _, rfl, below.2 back⟩

/-- A deep import can lead beside its package. -/
theorem not_deepImport_below :
    ¬ ∀ (fs : FileSystem) (text searchRoot path base dir packageDir : String) (variant : Variant),
      (Reference.parse text).isNamed = true → (Reference.parse text).subpath ≠ none →
      (findDeclaration (.parse text) searchRoot variant).answer fs = .ok (some path) →
      boundaryDirectory fs searchRoot = some base →
      hostDirectory fs (.parse text) variant (Path.parent (Path.join base manifestFile)) =
        some dir →
      root (.parse text) dir variant = .ok packageDir → Path.Below packageDir path := by
  intro inside
  have found : (findDeclaration (.parse "a/../b") "/" .own).answer packageAndSibling =
      .ok (some "/node_modules/a/../b.d.ts") := by rfl
  have below := inside packageAndSibling "a/../b" "/" _ "/" "/" "/node_modules/a" .own
    (by decide +kernel) (by decide +kernel) found (by rfl) (by rfl) (by rfl)
  obtain ⟨-, inner, -, -, segs⟩ := below
  have beside : (Path.normalSegments "/node_modules/a/../b.d.ts".toList)[1]? =
      some "b.d.ts".toList := by rfl
  rw [segs] at beside
  cases beside

end ModuleResolution.Package
