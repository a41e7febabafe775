import ModuleResolution.Proofs.Directive.Gates

/-!
# Type directives with a subpath

The name of a directive may go on behind its package with a subpath, as in `pkg/sub`. Under its
full name a directive is looked up in the type roots and among the installed packages. The
community types that are tried at every directory are those of the package as a whole, filed under
its key: the subpath is left out (`candidates_eq`).

So a directive with a subpath can be answered by the root types of its package. That is what happens
whenever nothing is found under the full name, and then all directives of a package have the same
answer, whatever their subpaths are. The subpath is without effect on this, and a lookup that keeps
it behind the key has the same answer as long as the full name decides before any community types
are tried (`resolveOne_rootTypes`).
-/

set_option autoImplicit false

namespace ModuleResolution.Directive

open Package

/-! ## Candidates by place -/

/-- Whether packages are installed in a directory that is not for installed packages itself. -/
def hasModules (fs : FileSystem) (dir : String) : Bool :=
  Path.name dir ≠ modulesDirectory && fs.exists? (Path.join dir modulesDirectory)

/-- The directories of installed packages that a file sees, the nearest one first. -/
def modulesAbove (fs : FileSystem) (file : String) : List String :=
  ((Path.ancestors (Path.parent file)).filter (hasModules fs)).map (Path.join · modulesDirectory)

/-- The candidates in the type roots, under the full name of a directive. -/
def rootCandidates (fs : FileSystem) (options : Options) (file name : String) :
    List (Except Failure Hit) :=
  ((rootDirectories fs options (Path.parent file)).flatMap fun root =>
    packageCandidates fs (Path.join root name)).map (Except.map (⟨·, true⟩))

/-- The candidates among installed packages, under the full name of a directive. -/
def fullNameCandidates (fs : FileSystem) (name modules : String) : List (Except Failure String) :=
  .ok (Path.join modules name ++ declarationSuffix) :: packageCandidates fs (Path.join modules name)

/-- The community types that are filed under a key among installed packages. -/
def communityCandidates (fs : FileSystem) (key modules : String) : List (Except Failure String) :=
  packageCandidates fs (Path.joinAll modules [typesScope, key])

/-- The candidates of a directive whose community types are filed under a key. -/
def candidatesUnder (fs : FileSystem) (options : Options) (file name key : String) :
    List (Except Failure Hit) :=
  rootCandidates fs options file name ++
    ((modulesAbove fs file).flatMap fun modules =>
      fullNameCandidates fs name modules ++ communityCandidates fs key modules).map
        (Except.map (⟨·, false⟩))

/-- The candidates that come before all community types: those in the type roots, and those under
the full name among the nearest installed packages. -/
def candidatesBefore (fs : FileSystem) (options : Options) (file name : String) :
    List (Except Failure Hit) :=
  rootCandidates fs options file name ++
    (((modulesAbove fs file).take 1).flatMap (fullNameCandidates fs name)).map
      (Except.map (⟨·, false⟩))

/-- No candidate under the full name of a directive decides its lookup. -/
def Unfound (fs : FileSystem) (options : Options) (file name : String) : Prop :=
  (∀ candidate ∈ rootCandidates fs options file name, decides fs Hit.path candidate = false) ∧
    ∀ modules ∈ modulesAbove fs file, ∀ candidate ∈ fullNameCandidates fs name modules,
      decides fs id candidate = false

/-- The first of the community types that are filed under a key. -/
def communityHit (fs : FileSystem) (file key : String) : Except Failure (Option Hit) :=
  (found fs id ((modulesAbove fs file).flatMap (communityCandidates fs key))).map
    (Option.map (⟨·, false⟩))

section Candidates

variable (fs : FileSystem) (options : Options) (file name : String)

theorem communityKey_of_parse {package : String} {scope subpath : Option String}
    (parts : Reference.parse name = ⟨scope, some package, subpath⟩) :
    communityKey name = mangle scope package := by
  rw [communityKey_eq, communityName, parts]
  rfl

/-- The candidates in a directory lie under the full name and among the community types. -/
theorem installedCandidates_eq (dir : String) :
    installedCandidates fs name dir =
      if hasModules fs dir then
        fullNameCandidates fs name (Path.join dir modulesDirectory) ++
          communityCandidates fs (communityKey name) (Path.join dir modulesDirectory)
      else [] :=
  rfl

/-- The candidates of a directive lie under its full name and among the community types of its
package. -/
theorem candidates_eq :
    candidates fs options file name =
      candidatesUnder fs options file name (communityKey name) := by
  have installed (dirs : List String) : dirs.flatMap (installedCandidates fs name) =
      ((dirs.filter (hasModules fs)).map (Path.join · modulesDirectory)).flatMap fun modules =>
        fullNameCandidates fs name modules ++
          communityCandidates fs (communityKey name) modules := by
    induction dirs with
    | nil => rfl
    | cons dir dirs ih =>
      rw [List.flatMap_cons, ih, installedCandidates_eq]
      cases here : hasModules fs dir <;> simp [here]
  rw [candidates, candidatesUnder, rootCandidates, installed, modulesAbove]

/-- A candidate that decides makes all candidates behind it irrelevant. -/
theorem searchAlong_append_of_decides {α : Type} {path : α → String}
    {xs : List (Except Failure α)} (h : ∃ x ∈ xs, decides fs path x = true)
    (ys : List (Except Failure α)) : searchAlong fs path (xs ++ ys) = searchAlong fs path xs := by
  induction xs with
  | nil => simp at h
  | cons x xs ih =>
    cases x with
    | error failure => rfl
    | ok candidate =>
      rw [List.cons_append, searchAlong, searchAlong]
      cases there : fs.exists? (path candidate) with
      | true => rfl
      | false =>
        obtain ⟨x, member, decided⟩ := h
        have behind : x ∈ xs := by
          rcases List.mem_cons.1 member with rfl | behind
          · simp [decides, there] at decided
          · exact behind
        rw [ih ⟨x, behind, decided⟩]

/-- All candidates of a directive begin with those before the community types. -/
theorem candidatesBefore_prefix (key : String) :
    candidatesBefore fs options file name <+: candidatesUnder fs options file name key := by
  unfold candidatesBefore candidatesUnder
  refine List.prefix_append_right_inj _ |>.2 (List.IsPrefix.map _ ?_)
  cases modulesAbove fs file with
  | nil => exact List.prefix_refl _
  | cons modules others =>
    simp only [List.take_succ_cons, List.take_zero, List.flatMap_cons, List.flatMap_nil,
      List.append_nil, List.append_assoc]
    exact List.prefix_append _ _

/-- When the full name decides before any community types are tried, their key is irrelevant. -/
theorem searchAlong_candidatesUnder
    (h : ∃ candidate ∈ candidatesBefore fs options file name,
      decides fs Hit.path candidate = true)
    (key : String) :
    searchAlong fs Hit.path (candidatesUnder fs options file name key) =
      searchAlong fs Hit.path (candidatesBefore fs options file name) := by
  obtain ⟨rest, whole⟩ := candidatesBefore_prefix fs options file name key
  rw [← whole, searchAlong_append_of_decides fs h]

theorem found_map (other : Bool) (xs : List (Except Failure String)) :
    found fs Hit.path (xs.map (Except.map (⟨·, other⟩))) =
      (found fs id xs).map (Option.map (⟨·, other⟩)) := by
  rw [found, found, searchAlong_map fs id Hit.path (⟨·, other⟩) fun _ => rfl]
  cases searchAlong fs id xs <;> rfl

/-- When nothing is found under the full name, the community types of the package are left. -/
theorem found_candidatesUnder (unfound : Unfound fs options file name) (key : String) :
    found fs Hit.path (candidatesUnder fs options file name key) = communityHit fs file key := by
  obtain ⟨roots, full⟩ := unfound
  have primary : (rootCandidates fs options file name).filter (decides fs Hit.path) = [] := by
    rw [List.filter_eq_nil_iff]
    intro candidate member
    simp [roots candidate member]
  have secondary (modules : String) (member : modules ∈ modulesAbove fs file) :
      (fullNameCandidates fs name modules ++ communityCandidates fs key modules).filter
          (decides fs id) =
        (communityCandidates fs key modules).filter (decides fs id) := by
    rw [List.filter_append, List.append_left_eq_self, List.filter_eq_nil_iff]
    intro candidate among
    simp [full modules member candidate among]
  rw [← found_filter, candidatesUnder, List.filter_append, primary, List.nil_append, filter_hits,
    List.filter_flatMap, List.flatMap_congr secondary, ← List.filter_flatMap, found_map,
    found_filter, communityHit]

end Candidates

/-- The community types that answer a directive are those of its package. They are candidates under
the key of the package, whatever the subpath of the directive is. A lookup that keeps the subpath
behind the key has the same answer if a candidate under the full name comes first. If none does, the
answer is the first of the community types of the package, and all directives of the package share
it. -/
theorem resolveOne_rootTypes (fs : FileSystem) (options : Options) (file : String)
    {name package : String} {scope subpath : Option String}
    (parts : Reference.parse name = ⟨scope, some package, subpath⟩) :
    (∀ result, (resolveOne options file name).answer fs = result ↔
      FirstMatch fs (candidatesUnder fs options file name (mangle scope package)) result) ∧
    ((∃ candidate ∈ candidatesBefore fs options file name,
        decides fs Hit.path candidate = true) →
      ∀ result, (resolveOne options file name).answer fs = result ↔
        FirstMatch fs (candidatesUnder fs options file name
          (mangle scope package ++ subpath.getD "")) result) ∧
    (Unfound fs options file name →
      ((resolveOne options file name).answer fs).map Answer.hit =
        communityHit fs file (mangle scope package)) ∧
    ∀ other subpath', Reference.parse other = ⟨scope, some package, subpath'⟩ →
      Unfound fs options file name → Unfound fs options file other →
      ((resolveOne options file other).answer fs).map Answer.hit =
        ((resolveOne options file name).answer fs).map Answer.hit := by
  have hit {text : String} {rest : Option String}
      (spelled : Reference.parse text = ⟨scope, some package, rest⟩)
      (unfound : Unfound fs options file text) :
      ((resolveOne options file text).answer fs).map Answer.hit =
        communityHit fs file (mangle scope package) := by
    rw [answer_resolveOne, map_hit_toAnswer, candidates_eq, communityKey_of_parse text spelled]
    exact found_candidatesUnder fs options file text unfound _
  have searched (result : Except Failure Answer) :
      (resolveOne options file name).answer fs = result ↔
        FirstMatch fs (candidatesUnder fs options file name (mangle scope package)) result := by
    rw [answer_resolveOne, candidates_eq, communityKey_of_parse name parts, searchAlong_eq_iff]
  refine ⟨searched, fun decided result => ?_, hit parts, ?_⟩
  · rw [searched, ← searchAlong_eq_iff, ← searchAlong_eq_iff,
      searchAlong_candidatesUnder fs options file name decided,
      searchAlong_candidatesUnder fs options file name decided]
  · intro other subpath' spelled unfound unfound'
    rw [hit spelled unfound', hit parts unfound]

/-- Options without type roots. -/
def atRoot : Options := ⟨some [], none⟩

/-- Community types of a package, and a declaration file in the package itself. -/
def wholePackage : FileSystem :=
  Files.Memory.fileSystem
    ⟨[("/node_modules/@types/p/index.d.ts", ""), ("/node_modules/p/own.d.ts", "")],
      ["/", "/node_modules", "/node_modules/@types", "/node_modules/@types/p", "/node_modules/p"]⟩
    0

theorem resolveOne_rootTypes_siblings :
    (Reference.parse "p/a" = ⟨none, some "p", some "/a"⟩ ∧
      Reference.parse "p/b" = ⟨none, some "p", some "/b"⟩ ∧
      Reference.parse "p/own" = ⟨none, some "p", some "/own"⟩) ∧
    (Unfound wholePackage atRoot "/f.ts" "p/a" ∧ Unfound wholePackage atRoot "/f.ts" "p/b" ∧
      ∃ candidate ∈ candidatesBefore wholePackage atRoot "/f.ts" "p/own",
        decides wholePackage Hit.path candidate = true) ∧
    ((resolveOne atRoot "/f.ts" "p/b").answer wholePackage).map Answer.hit =
      .ok (some ⟨"/node_modules/@types/p/index.d.ts", false⟩) ∧
    ∀ result, (resolveOne atRoot "/f.ts" "p/own").answer wholePackage = result ↔
      FirstMatch wholePackage
        (candidatesUnder wholePackage atRoot "/f.ts" "p/own" "p/own") result := by
  have a : Reference.parse "p/a" = ⟨none, some "p", some "/a"⟩ := by decide +kernel
  have b : Reference.parse "p/b" = ⟨none, some "p", some "/b"⟩ := by decide +kernel
  have own : Reference.parse "p/own" = ⟨none, some "p", some "/own"⟩ := by decide +kernel
  have no_a : Unfound wholePackage atRoot "/f.ts" "p/a" := by
    unfold Unfound
    decide +kernel
  have no_b : Unfound wholePackage atRoot "/f.ts" "p/b" := by
    unfold Unfound
    decide +kernel
  have found_own : ∃ candidate ∈ candidatesBefore wholePackage atRoot "/f.ts" "p/own",
      decides wholePackage Hit.path candidate = true := by
    rw [← List.any_eq_true]
    decide +kernel
  have types : communityHit wholePackage "/f.ts" "p" =
      .ok (some ⟨"/node_modules/@types/p/index.d.ts", false⟩) := by
    decide +kernel
  have key : mangle none "p" = "p" := rfl
  have full : "p" ++ (some "/own").getD "" = "p/own" := by decide
  obtain ⟨-, -, hit, same⟩ := resolveOne_rootTypes wholePackage atRoot "/f.ts" a
  obtain ⟨-, kept, -⟩ := resolveOne_rootTypes wholePackage atRoot "/f.ts" own
  rw [key] at hit
  rw [key, full] at kept
  refine ⟨⟨a, b, own⟩, ⟨no_a, no_b, found_own⟩, ?_, kept found_own⟩
  rw [same "p/b" _ b no_a no_b, hit no_a]
  exact types

/-- The subpath of a directive is not always kept behind the key of its package, even if all of its
segments are names: community types of the package answer a directive for one of its files. -/
theorem not_subpath_kept :
    ¬ ∀ (fs : FileSystem) (options : Options) (file name package subpath : String)
        (scope : Option String),
      Reference.parse name = ⟨scope, some package, some subpath⟩ →
      (∀ segment ∈ (Text.splitOn '/' subpath.toList).tail, Path.IsName segment) →
      ∀ result, (resolveOne options file name).answer fs = result ↔
        FirstMatch fs (candidatesUnder fs options file name (mangle scope package ++ subpath))
          result := by
  intro kept
  have named : ∀ segment ∈ (Text.splitOn '/' "/a".toList).tail, Path.IsName segment := by
    unfold Path.IsName
    decide +kernel
  have key : mangle none "p" ++ "/a" = "p/a" := by decide
  have parts : Reference.parse "p/a" = ⟨none, some "p", some "/a"⟩ := by decide +kernel
  have answered := (kept wholePackage atRoot "/f.ts" "p/a" "p" "/a" none parts named _).1 rfl
  rw [key] at answered
  -- the lookup that keeps the subpath finds nothing
  have missed : found wholePackage Hit.path
      (candidatesUnder wholePackage atRoot "/f.ts" "p/a" "p/a") = .ok none := by
    decide +kernel
  have hit : ((resolveOne atRoot "/f.ts" "p/a").answer wholePackage).map Answer.hit =
      .ok (some ⟨"/node_modules/@types/p/index.d.ts", false⟩) := by
    decide +kernel
  rw [← searchAlong_of_firstMatch answered, map_hit_toAnswer] at hit
  rw [found, hit] at missed
  cases missed

end ModuleResolution.Directive
