import ModuleResolution.Proofs.Directive.Candidates
import ModuleResolution.Proofs.Files.Closed
import ModuleResolution.Proofs.Path.Inward
import ModuleResolution.Proofs.Reference.Spelling

/-!
# Directories that a type directive passes over

The lookup of a directive passes over type roots that do not exist and over directories without
installed packages. With files in memory these tests only save questions: a search that goes into
every such directory (`resolveUngated`) gives the same hit, or fails the same way
(`resolveOne_ungated`).

Both searches are first-match searches along candidates, and only candidates that exist, or whose
manifest is broken, decide such a search (`found_filter`). Behind a directory that does not exist
there are none of them, as the name of a package leads below the directory that it is joined to
(`inward_of_named`) and nothing exists below a missing directory (`Gated`). A name with a segment
`..` is left out, as it can lead beside a directory that is missing.
-/

set_option autoImplicit false

namespace ModuleResolution.Directive

open Package
open ModuleResolution.Path (Below Inward IsName)

/-! ## The search without tests -/

/-- The type roots of a file in `dir`, or the places of the community types at and above the
directory of the project, whether they exist or not. -/
def everyTypeRoot (options : Options) (dir : String) : List String :=
  match options.typeRoots with
  | some roots => roots
  | none =>
    let start := match options.configDir with
      | some configDir => if configDir = "" then dir else configDir
      | none => dir
    (Path.ancestors start).map fun above => Path.joinAll above [modulesDirectory, typesScope]

/-- Searches the packages that may be installed in a directory. -/
def tryEveryInstalled (name dir : String) : Lookup Search :=
  if Path.name dir = modulesDirectory then pure (none, [])
  else searchModules name (Path.join dir modulesDirectory)

/-- Resolves one directive of a file, in every directory where types may be. -/
def resolveUngated (options : Options) (file name : String) : Lookup Answer := do
  let dir := Path.parent file
  let (found, failed) ← firstFound (fun root => tryPackage (Path.join root name))
    (everyTypeRoot options dir)
  match found with
  | some path => return ⟨some ⟨path, true⟩, failed⟩
  | none =>
    let (found, further) ← firstFound (tryEveryInstalled name) (Path.ancestors dir)
    return ⟨found.map (⟨·, false⟩), failed ++ further⟩

/-! ## Candidates that decide -/

section Decides

variable {α : Type} (fs : FileSystem) (path : α → String)

/-- Whether a first-match search ends at a candidate. -/
def decides : Except Failure α → Bool
  | .ok candidate => fs.exists? (path candidate)
  | .error _ => true

/-- The candidates that do not decide can be left out of a search. -/
theorem found_filter (xs : List (Except Failure α)) :
    found fs path (xs.filter (decides fs path)) = found fs path xs := by
  induction xs with
  | nil => rfl
  | cons x xs ih =>
    cases x with
    | error failure => rfl
    | ok candidate =>
      rw [found_cons_ok, ← ih]
      cases there : fs.exists? (path candidate) with
      | true => simp [decides, there, found_cons_ok]
      | false => simp [decides, there]

/-- A hit decides if its path does. -/
theorem filter_hits (primary : Bool) (xs : List (Except Failure String)) :
    (xs.map (Except.map (⟨·, primary⟩))).filter (decides fs Hit.path) =
      (xs.filter (decides fs id)).map (Except.map (⟨·, primary⟩)) := by
  rw [List.filter_map]
  congr 2
  funext x
  cases x <;> rfl

end Decides

/-- Elements without a contribution can be filtered out. -/
theorem flatMap_filter_of_eq_nil {α β : Type} {p : α → Bool} {f : α → List β} {as : List α}
    (h : ∀ a ∈ as, p a = false → f a = []) : (as.filter p).flatMap f = as.flatMap f := by
  induction as with
  | nil => rfl
  | cons a as ih =>
    obtain ⟨first, others⟩ := List.forall_mem_cons.1 h
    cases hp : p a with
    | true => simp [hp, ih others]
    | false => simp [hp, ih others, first hp]

/-! ## Behind a missing directory -/

/-- Nothing exists below a directory that does not exist. -/
def Gated (fs : FileSystem) : Prop :=
  ∀ dir path, Below dir path → Path.normalSegments dir.toList ≠ [] → fs.exists? dir = false →
    fs.exists? path = false

theorem gated_ofList (entries : List (String × String)) (nesting : Nat) :
    Gated ((Files.Memory.ofList entries).fileSystem nesting) := by
  intro dir path below inside missing
  rw [Bool.eq_false_iff] at missing ⊢
  intro there
  exact missing ((Files.Memory.closed_ofList entries).exists?_of_below below inside there)

theorem inward_modulesDirectory : Inward modulesDirectory.toList :=
  Path.inward_cons (by decide) (by decide) (by decide)

theorem inward_typesScope : Inward typesScope.toList :=
  Path.inward_cons (by decide) (by decide) (by decide)

theorem inward_manifestFile : Inward manifestFile.toList :=
  Path.inward_cons (by decide) (by decide) (by decide)

theorem inward_indexFile : Inward indexFile.toList :=
  Path.inward_cons (by decide) (by decide) (by decide)

/-- The name of a package leads into every directory, unless it has a segment that leads up. -/
theorem inward_of_named {name : String} (named : (Reference.parse name).isNamed = true)
    (level : Path.parentSegment ∉ Text.splitOn '/' name.toList) : Inward name.toList := by
  obtain ⟨dot, slash⟩ := Reference.not_path_of_named named
  cases chars : name.toList with
  | nil =>
    rw [String.toList_eq_nil_iff.1 chars] at named
    cases named
  | cons c cs =>
    rw [chars] at dot slash level
    exact Path.inward_cons (by simpa using slash) (by simpa using dot) level

/-- Community types lie directly among those of their scope. -/
theorem slash_notMem_communityKey {name : String}
    (named : (Reference.parse name).isNamed = true) : '/' ∉ (communityKey name).toList := by
  obtain ⟨bare, parts⟩ := Reference.exists_parts named
  obtain ⟨package, key, -, hkey, -, plain, -⟩ :=
    Reference.exists_packageName (Reference.parse_eq_iff.1 parts).1
  rw [← parts] at hkey
  rwa [communityKey_eq, communityName, hkey]

/-- The files of community types lie below the directory of installed packages. -/
theorem below_communityFile {key file : String} (plain : '/' ∉ key.toList)
    (hfile : IsName file.toList) (plain_file : '/' ∉ file.toList) (modules : String) :
    Below modules (Path.join (Path.joinAll modules [typesScope, key]) file) := by
  have parts : ∀ part ∈ [typesScope, key, file], '/' ∉ part.toList := by
    intro part member
    simp only [List.mem_cons, List.not_mem_nil, or_false] at member
    rcases member with rfl | rfl | rfl
    · decide
    · exact plain
    · exact plain_file
  have scope : IsName typesScope.toList := Path.isName_of_length (by decide)
  -- the key may be any segment, even one that leads up: the file is still below
  refine (Path.below_joinAll_iff parts modules).2 ?_
  exact Path.leadsBelow_of_climbs_eq_zero hfile (Path.climbs_between scope hfile key.toList) modules

section Missing

variable {fs : FileSystem} {dir packageDir name : String}

/-- A package without a manifest and an index file decides nothing. -/
theorem filter_packageCandidates (manifest : fs.exists? (Path.join packageDir manifestFile) = false)
    (index : fs.exists? (Path.join packageDir indexFile) = false) :
    (packageCandidates fs packageDir).filter (decides fs id) = [] := by
  simp [packageCandidates, manifest, decides, index]

/-- A package decides nothing if its files lie below a missing directory. -/
theorem filter_packageCandidates_of_below (gated : Gated fs)
    (inside : Path.normalSegments dir.toList ≠ []) (missing : fs.exists? dir = false)
    (manifest : Below dir (Path.join packageDir manifestFile))
    (index : Below dir (Path.join packageDir indexFile)) :
    (packageCandidates fs packageDir).filter (decides fs id) = [] :=
  filter_packageCandidates (gated dir _ manifest inside missing) (gated dir _ index inside missing)

/-- Nor does a package that would be in a missing directory. -/
theorem filter_packageCandidates_join (gated : Gated fs) (inward : Inward name.toList)
    (inside : Path.normalSegments dir.toList ≠ []) (missing : fs.exists? dir = false) :
    (packageCandidates fs (Path.join dir name)).filter (decides fs id) = [] := by
  have package := inward.below_join dir
  apply filter_packageCandidates_of_below gated inside missing
  · exact package.trans (inward_manifestFile.below_join _)
  · exact package.trans (inward_indexFile.below_join _)

/-- Nor do community types that would be in a missing directory of installed packages. -/
theorem filter_packageCandidates_community (gated : Gated fs) {key : String}
    (plain : '/' ∉ key.toList) (inside : Path.normalSegments dir.toList ≠ [])
    (missing : fs.exists? dir = false) :
    (packageCandidates fs (Path.joinAll dir [typesScope, key])).filter (decides fs id) = [] := by
  apply filter_packageCandidates_of_below gated inside missing
  · exact below_communityFile plain (Path.isName_of_length (by decide)) (by decide) dir
  · exact below_communityFile plain (Path.isName_of_length (by decide)) (by decide) dir

end Missing

/-! ## The candidates of the search without tests -/

section Candidates

variable (fs : FileSystem) (options : Options) (file name dir : String)

/-- The candidates among the packages that may be installed in one directory. -/
def everyInstalledCandidate : List (Except Failure String) :=
  let modules := Path.join dir modulesDirectory
  if Path.name dir = modulesDirectory then []
  else .ok (Path.join modules name ++ declarationSuffix) ::
    (packageCandidates fs (Path.join modules name) ++
      packageCandidates fs (Path.joinAll modules [typesScope, communityKey name]))

/-- The candidates of a directive in every directory where types may be. -/
def everyCandidate : List (Except Failure Hit) :=
  let dir := Path.parent file
  let primary := (everyTypeRoot options dir).flatMap fun root =>
    packageCandidates fs (Path.join root name)
  let secondary := (Path.ancestors dir).flatMap (everyInstalledCandidate fs name)
  primary.map (Except.map (⟨·, true⟩)) ++ secondary.map (Except.map (⟨·, false⟩))

theorem answer_tryEveryInstalled :
    (tryEveryInstalled name dir).answer fs =
      searchAlong fs id (everyInstalledCandidate fs name dir) := by
  rw [tryEveryInstalled, everyInstalledCandidate]
  by_cases inside : Path.name dir = modulesDirectory
  · rw [if_pos inside, if_pos inside]
    rfl
  · rw [if_neg inside, if_neg inside]
    exact answer_searchModules fs name (Path.join dir modulesDirectory)

theorem answer_resolveUngated :
    (resolveUngated options file name).answer fs =
      (searchAlong fs Hit.path (everyCandidate fs options file name)).map toAnswer := by
  have roots := answer_firstFound fs (fun root => answer_tryPackage fs (Path.join root name))
    (everyTypeRoot options (Path.parent file))
  have installed := answer_firstFound fs (answer_tryEveryInstalled fs name)
    (Path.ancestors (Path.parent file))
  exact answer_primary_first fs roots installed

end Candidates

section Gated

variable {fs : FileSystem} {name : String}

/-- The type roots that do not exist have no candidates that decide. -/
theorem filter_typeRoots (gated : Gated fs) (inward : Inward name.toList) (options : Options)
    (dir : String) :
    ((rootDirectories fs options dir).flatMap fun root =>
      packageCandidates fs (Path.join root name)).filter (decides fs id) =
    ((everyTypeRoot options dir).flatMap fun root =>
      packageCandidates fs (Path.join root name)).filter (decides fs id) := by
  rw [rootDirectories, everyTypeRoot]
  cases options.typeRoots with
  | some roots => rfl
  | none =>
    rw [List.filter_flatMap, List.filter_flatMap]
    apply flatMap_filter_of_eq_nil
    -- a root that is left out is a directory of community types, and nothing is below it
    intro root member missing
    obtain ⟨above, -, rfl⟩ := List.mem_map.1 member
    have types := (inward_modulesDirectory.below_join above).trans
      (inward_typesScope.below_join _)
    exact filter_packageCandidates_join gated inward types.normalSegments_ne_nil missing

/-- The declaration file of a package lies where packages are installed. -/
theorem below_declarationFile (inward : Inward name.toList) (modules : String) :
    Below modules (Path.join modules name ++ declarationSuffix) := by
  have nonempty : name ≠ "" := fun empty => inward.ne_nil (String.toList_eq_nil_iff.2 empty)
  have longer : Inward (name ++ declarationSuffix).toList := by
    rw [String.toList_append]
    exact inward.append (by decide) (by decide)
  rw [Path.join_append nonempty]
  exact longer.below_join modules

/-- Directories without installed packages have no candidates that decide. -/
theorem filter_installed (gated : Gated fs) (inward : Inward name.toList)
    (plain : '/' ∉ (communityKey name).toList) (dir : String) :
    (installedCandidates fs name dir).filter (decides fs id) =
      (everyInstalledCandidate fs name dir).filter (decides fs id) := by
  rw [installedCandidates, everyInstalledCandidate]
  by_cases modules : Path.name dir = modulesDirectory
  · simp [modules]
  · cases there : fs.exists? (Path.join dir modulesDirectory) with
    | true => simp [modules]
    -- behind the missing directory, none of the three places has anything
    | false =>
      have inside := (inward_modulesDirectory.below_join dir).normalSegments_ne_nil
      have declaration := gated _ _ (below_declarationFile inward _) inside there
      have own := filter_packageCandidates_join gated inward inside there
      have community := filter_packageCandidates_community gated plain inside there
      simp [modules, decides, declaration, own, community]

/-- The two searches have the same candidates that decide, in the same order. -/
theorem filter_candidates (gated : Gated fs) (inward : Inward name.toList)
    (plain : '/' ∉ (communityKey name).toList) (options : Options) (file : String) :
    (candidates fs options file name).filter (decides fs Hit.path) =
      (everyCandidate fs options file name).filter (decides fs Hit.path) := by
  have secondary : ((Path.ancestors (Path.parent file)).flatMap
        (installedCandidates fs name)).filter (decides fs id) =
      ((Path.ancestors (Path.parent file)).flatMap
        (everyInstalledCandidate fs name)).filter (decides fs id) := by
    rw [List.filter_flatMap, List.filter_flatMap]
    simp only [filter_installed gated inward plain]
  simp only [candidates, everyCandidate, List.filter_append, filter_hits, secondary,
    filter_typeRoots gated inward]

end Gated

theorem map_hit_toAnswer (result : Except Failure (Option Hit × List String)) :
    (result.map toAnswer).map Answer.hit = result.map Prod.fst := by
  cases result <;> rfl

/-- The tests for directories only save questions. With files in memory, whatever was written, the
directive of a package whose name has no segment `..` has the same hit, or fails the same way, if
all directories are searched where types may be. -/
theorem resolveOne_ungated (entries : List (String × String)) (nesting : Nat)
    (options : Options) (file name : String) (named : (Reference.parse name).isNamed = true)
    (level : Path.parentSegment ∉ Text.splitOn '/' name.toList) :
    ((resolveOne options file name).answer
        ((Files.Memory.ofList entries).fileSystem nesting)).map Answer.hit =
      ((resolveUngated options file name).answer
        ((Files.Memory.ofList entries).fileSystem nesting)).map Answer.hit := by
  have same := filter_candidates (gated_ofList entries nesting) (inward_of_named named level)
    (slash_notMem_communityKey named) options file
  rw [answer_resolveOne, answer_resolveUngated, map_hit_toAnswer, map_hit_toAnswer]
  change found _ Hit.path _ = found _ Hit.path _
  -- both searches end at the same candidate, if at any
  rw [← found_filter, same, found_filter]

/-- Community types of a scoped package, installed above directories that hold no packages. -/
theorem resolveOne_ungated_scoped :
    (Reference.parse "@a/b").isNamed = true ∧
    Path.parentSegment ∉ Text.splitOn '/' "@a/b".toList ∧
    ((resolveUngated .none "/src/a.ts" "@a/b").answer
        ((Files.Memory.ofList [("/node_modules/@types/a__b/index.d.ts", "")]).fileSystem 0)).map
          Answer.hit =
      .ok (some ⟨"/node_modules/@types/a__b/index.d.ts", false⟩) := by
  have named : (Reference.parse "@a/b").isNamed = true := by decide +kernel
  have level : Path.parentSegment ∉ Text.splitOn '/' "@a/b".toList := by decide +kernel
  refine ⟨named, level, ?_⟩
  rw [← resolveOne_ungated _ 0 .none "/src/a.ts" "@a/b" named level]
  decide +kernel

end ModuleResolution.Directive
