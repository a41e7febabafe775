import Mathlib.Data.List.Basic
import ModuleResolution.Directive.Lookup
import ModuleResolution.Proofs.Package.Search

/-!
# The candidates of a type directive

A directive is looked up among candidate paths in a fixed order (`candidates`): the files of the
package in each type root, then, at every directory from that of the containing file upwards, a
declaration file among the installed packages, the package itself and its community types. A package
whose manifest cannot be read, or holds no JSON object, stands in the sequence as that failure.

The lookup is a first-match search along this sequence, and the paths that it reports as failed are
the candidates before the match (`resolveOne_eq_iff`). `FirstMatch` says so as a relation between a
sequence and an answer. In between stands the recursion `searchAlong`: the nested searches of the
lookup are flattened into it (`answer_firstFound`, by `searchAlong_append`), and it gives exactly
the answers of the relation (`searchAlong_eq_iff`).
-/

set_option autoImplicit false

namespace ModuleResolution.Directive

open Package

/-! ## Candidates -/

/-- The files that may be the types in a package directory: those that its manifest names and the
index file. A missing manifest is itself a path tried in vain. -/
def packageCandidates (fs : FileSystem) (dir : String) : List (Except Failure String) :=
  let manifestPath := Path.join dir manifestFile
  if fs.exists? manifestPath then
    match fs.read manifestPath with
    | .error fault => [.error (.unreadable fault)]
    | .ok content =>
      match Manifest.parse fs.nesting manifestPath content with
      | .error failure => [.error failure]
      | .ok manifest => (rootFiles dir manifest).map .ok
  else [.ok manifestPath, .ok (Path.join dir indexFile)]

/-- The type roots of a file in `dir`: those that are given, or else the community types installed
at and above the directory of the project. An empty project directory counts as none. -/
def rootDirectories (fs : FileSystem) (options : Options) (dir : String) : List String :=
  match options.typeRoots with
  | some roots => roots
  | none =>
    let start := match options.configDir with
      | some configDir => if configDir = "" then dir else configDir
      | none => dir
    ((Path.ancestors start).map fun above =>
      Path.joinAll above [modulesDirectory, typesScope]).filter fs.exists?

/-- The name under which the community types of a directive are installed: the parts of its package
with two underscores between them, the sign of the scope left out, or else the directive itself. -/
def communityKey (name : String) : String :=
  match Reference.parse name with
  | ⟨some scope, some package, _⟩ => String.ofList scope.toList.tail ++ "__" ++ package
  | ⟨none, some package, _⟩ => package
  | ⟨_, none, _⟩ => name

/-- The candidates among the packages installed in one directory. A directory of installed packages
has none, nor has one without such a directory. -/
def installedCandidates (fs : FileSystem) (name dir : String) : List (Except Failure String) :=
  let modules := Path.join dir modulesDirectory
  if Path.name dir ≠ modulesDirectory && fs.exists? modules then
    .ok (Path.join modules name ++ declarationSuffix) ::
      (packageCandidates fs (Path.join modules name) ++
        packageCandidates fs (Path.joinAll modules [typesScope, communityKey name]))
  else []

/-- The candidates of a directive in order, those in a type root being primary. -/
def candidates (fs : FileSystem) (options : Options) (file name : String) :
    List (Except Failure Hit) :=
  let dir := Path.parent file
  let primary := (rootDirectories fs options dir).flatMap fun root =>
    packageCandidates fs (Path.join root name)
  let secondary := (Path.ancestors dir).flatMap (installedCandidates fs name)
  primary.map (Except.map (⟨·, true⟩)) ++ secondary.map (Except.map (⟨·, false⟩))

/-- The answer of a first-match search along a sequence of candidates. It comes to a candidate that
exists, to a package with a broken manifest, or to the end; all candidates before are missing. -/
inductive FirstMatch (fs : FileSystem) : List (Except Failure Hit) → Except Failure Answer → Prop
  | hit {missed : List Hit} (h : ∀ candidate ∈ missed, fs.exists? candidate.path = false)
      {candidate : Hit} (found : fs.exists? candidate.path = true)
      (rest : List (Except Failure Hit)) :
      FirstMatch fs (missed.map .ok ++ .ok candidate :: rest)
        (.ok ⟨some candidate, missed.map Hit.path⟩)
  | broken {missed : List Hit} (h : ∀ candidate ∈ missed, fs.exists? candidate.path = false)
      (failure : Failure) (rest : List (Except Failure Hit)) :
      FirstMatch fs (missed.map .ok ++ .error failure :: rest) (.error failure)
  | nothing {missed : List Hit} (h : ∀ candidate ∈ missed, fs.exists? candidate.path = false) :
      FirstMatch fs (missed.map .ok) (.ok ⟨none, missed.map Hit.path⟩)

/-! ## Searching along a sequence -/

section SearchAlong

variable {α β : Type} (fs : FileSystem) (path : α → String)

/-- The first candidate that exists and the paths of the candidates before it. -/
def searchAlong : List (Except Failure α) → Except Failure (Option α × List String)
  | [] => .ok (none, [])
  | .error failure :: _ => .error failure
  | .ok candidate :: rest =>
    if fs.exists? (path candidate) then .ok (some candidate, [])
    else (searchAlong rest).map fun (found, failed) => (found, path candidate :: failed)

/-- Missing candidates are passed over and reported. -/
theorem searchAlong_missed {missed : List α}
    (h : ∀ candidate ∈ missed, fs.exists? (path candidate) = false)
    (rest : List (Except Failure α)) :
    searchAlong fs path (missed.map .ok ++ rest) =
      (searchAlong fs path rest).map fun (found, failed) =>
        (found, missed.map path ++ failed) := by
  induction missed with
  | nil => cases h : searchAlong fs path rest <;> simp [h, Except.map]
  | cons candidate missed ih =>
    have missing : ¬ fs.exists? (path candidate) = true := by
      simp [h candidate List.mem_cons_self]
    have others := ih fun other hother => h other (List.mem_cons_of_mem candidate hother)
    rw [List.map_cons, List.cons_append, searchAlong, if_neg missing, others]
    cases searchAlong fs path rest <;> rfl

/-- A search along two sequences in a row goes on with the second one when the first one gives
nothing. -/
theorem searchAlong_append (xs ys : List (Except Failure α)) :
    searchAlong fs path (xs ++ ys) =
      (searchAlong fs path xs >>= fun (found, failed) =>
        match found with
        | some candidate => .ok (some candidate, failed)
        | none => (searchAlong fs path ys).map fun (found, further) =>
            (found, failed ++ further)) := by
  induction xs with
  | nil => cases h : searchAlong fs path ys <;> simp [searchAlong, h, Except.map]
  | cons x xs ih =>
    cases x with
    | error failure => rfl
    | ok candidate =>
      rw [List.cons_append, searchAlong, searchAlong, ih]
      cases fs.exists? (path candidate) with
      | true => rfl
      | false =>
        cases searchAlong fs path xs with
        | error failure => rfl
        | ok result =>
          obtain ⟨found, failed⟩ := result
          cases found with
          | some other => rfl
          | none => cases searchAlong fs path ys <;> rfl

/-- Candidates may carry more than their paths. -/
theorem searchAlong_map (other : β → String) (f : α → β)
    (h : ∀ candidate, other (f candidate) = path candidate) (xs : List (Except Failure α)) :
    searchAlong fs other (xs.map (Except.map f)) =
      (searchAlong fs path xs).map fun (found, failed) => (found.map f, failed) := by
  induction xs with
  | nil => rfl
  | cons x xs ih =>
    cases x with
    | error failure => rfl
    | ok candidate =>
      rw [List.map_cons, Except.map, searchAlong, searchAlong, h, ih]
      cases fs.exists? (path candidate) with
      | true => rfl
      | false => cases searchAlong fs path xs <;> rfl

/-- The candidate that a search along a sequence finds, without the paths before it. -/
def found (xs : List (Except Failure α)) : Except Failure (Option α) :=
  (searchAlong fs path xs).map Prod.fst

theorem found_cons_ok (candidate : α) (rest : List (Except Failure α)) :
    found fs path (.ok candidate :: rest) =
      if fs.exists? (path candidate) then .ok (some candidate) else found fs path rest := by
  rw [found, found, searchAlong]
  cases fs.exists? (path candidate) with
  | true => rfl
  | false => cases searchAlong fs path rest <;> rfl

/-- Among candidates that can all be tried, the first one that exists is found. -/
theorem found_map_ok (candidates : List α) :
    found fs path (candidates.map .ok) =
      .ok (candidates.find? fun candidate => fs.exists? (path candidate)) := by
  induction candidates with
  | nil => rfl
  | cons candidate candidates ih =>
    rw [List.map_cons, found_cons_ok, ih]
    cases there : fs.exists? (path candidate) <;> simp [there]

end SearchAlong

/-! ## The relation and the recursion -/

/-- The answer that a found candidate and the failed paths make up. -/
def toAnswer (result : Option Hit × List String) : Answer :=
  ⟨result.1, result.2⟩

theorem searchAlong_of_firstMatch {fs : FileSystem} {sequence : List (Except Failure Hit)}
    {result : Except Failure Answer} (h : FirstMatch fs sequence result) :
    (searchAlong fs Hit.path sequence).map toAnswer = result := by
  cases h with
  | hit missing found rest =>
    rw [searchAlong_missed fs Hit.path missing, searchAlong, if_pos found]
    simp [Except.map, toAnswer]
  | broken missing failure rest =>
    rw [searchAlong_missed fs Hit.path missing]
    rfl
  | nothing missing =>
    have whole := searchAlong_missed fs Hit.path missing []
    rw [List.append_nil] at whole
    rw [whole]
    simp [Except.map, searchAlong, toAnswer]

/-- A missing candidate in front is reported first. -/
theorem FirstMatch.cons_missed {fs : FileSystem} {sequence : List (Except Failure Hit)}
    {result : Except Failure Answer} (h : FirstMatch fs sequence result) {candidate : Hit}
    (missing : fs.exists? candidate.path = false) :
    ∃ result, FirstMatch fs (.ok candidate :: sequence) result := by
  have both {missed : List Hit} (hmissed : ∀ other ∈ missed, fs.exists? other.path = false) :
      ∀ other ∈ candidate :: missed, fs.exists? other.path = false := by
    intro other hother
    rcases List.mem_cons.1 hother with rfl | hother
    · exact missing
    · exact hmissed other hother
  cases h with
  | hit hmissed found rest => exact ⟨_, .hit (both hmissed) found rest⟩
  | broken hmissed failure rest => exact ⟨_, .broken (both hmissed) failure rest⟩
  | nothing hmissed => exact ⟨_, .nothing (both hmissed)⟩

/-- Every sequence has a first match or none. -/
theorem exists_firstMatch (fs : FileSystem) (sequence : List (Except Failure Hit)) :
    ∃ result, FirstMatch fs sequence result := by
  have none_missed : ∀ candidate ∈ ([] : List Hit), fs.exists? candidate.path = false :=
    fun _ h => absurd h List.not_mem_nil
  induction sequence with
  | nil => exact ⟨_, .nothing none_missed⟩
  | cons entry rest ih =>
    cases entry with
    | error failure => exact ⟨_, .broken none_missed failure rest⟩
    | ok candidate =>
      cases h : fs.exists? candidate.path with
      | true => exact ⟨_, .hit none_missed h rest⟩
      | false =>
        obtain ⟨result, further⟩ := ih
        exact further.cons_missed h

theorem searchAlong_eq_iff {fs : FileSystem} {sequence : List (Except Failure Hit)}
    {result : Except Failure Answer} :
    (searchAlong fs Hit.path sequence).map toAnswer = result ↔ FirstMatch fs sequence result := by
  constructor
  · intro searched
    obtain ⟨other, h⟩ := exists_firstMatch fs sequence
    rw [← searched, searchAlong_of_firstMatch h]
    exact h
  · exact searchAlong_of_firstMatch

/-! ## The parts of the lookup -/

variable (fs : FileSystem)

theorem answer_firstOf (paths : List String) :
    (firstOf paths).answer fs = searchAlong fs id (paths.map .ok) := by
  induction paths with
  | nil => rfl
  | cons path paths ih =>
    rw [List.map_cons, firstOf, searchAlong, Lookup.answer_bind, Lookup.answer_exists?,
      Lookup.ok_bind]
    cases h : fs.exists? path with
    | true => simp [h]
    | false =>
      simp only [id_eq, h, Bool.false_eq_true, if_false, Lookup.answer_bind, ih]
      cases searchAlong fs id (paths.map .ok) <;> rfl

/-- The loop over the fields of a manifest tries the text of each field that has one. -/
theorem tryFields_cons (dir : String) (manifest : Manifest) (field : String)
    (fields : List String) :
    tryFields dir manifest (field :: fields) =
      match textField manifest field with
      | none => tryFields dir manifest fields
      | some value => do
        let candidate := Path.normalize (Path.join dir value)
        if ← Lookup.exists? candidate then return (some candidate, [])
        let (found, failed) ← tryFields dir manifest fields
        return (found, candidate :: failed) := by
  rw [tryFields, textField]
  cases manifest.get? field with
  | none => rfl
  | some held =>
    cases held with
    | text value =>
      by_cases empty : value.string = ""
      · simp [empty, LooseText.string_eq_empty_iff.1 empty]
      · have some_left : value.chars.isEmpty = false := by
          rw [← Bool.not_eq_true, ← LooseText.string_eq_empty_iff]
          exact empty
        simp [empty, some_left]
    | _ => rfl

/-- The fields of a manifest are searched along the files that they name. -/
theorem answer_tryFields (dir : String) (manifest : Manifest) (fields : List String) :
    (tryFields dir manifest fields).answer fs = searchAlong fs id
      (((fields.filterMap (textField manifest)).map fun value =>
        Path.normalize (Path.join dir value)).map .ok) := by
  induction fields with
  | nil => rfl
  | cons field fields ih =>
    rw [tryFields_cons, List.filterMap_cons]
    cases textField manifest field with
    | none => exact ih
    | some value =>
      dsimp only
      rw [List.map_cons, List.map_cons, searchAlong, Lookup.answer_bind, Lookup.answer_exists?,
        Lookup.ok_bind]
      cases there : fs.exists? (Path.normalize (Path.join dir value)) with
      | true => simp [there]
      | false =>
        simp only [id_eq, there, Bool.false_eq_true, if_false, Lookup.answer_bind, ih]
        cases searchAlong fs id (((fields.filterMap (textField manifest)).map fun value =>
          Path.normalize (Path.join dir value)).map .ok) <;> rfl

theorem answer_orElse_of_error {x : Lookup Search} {failure : Failure}
    (failed : x.answer fs = .error failure) (y : Lookup Search) :
    (orElse x y).answer fs = .error failure := by
  rw [orElse, Lookup.answer_bind, failed, Lookup.error_bind]

/-- Two searches in a row, the second one for want of a hit, are one search. -/
theorem answer_orElse {x y : Lookup Search} {xs ys : List (Except Failure String)}
    (hx : x.answer fs = searchAlong fs id xs) (hy : y.answer fs = searchAlong fs id ys) :
    (orElse x y).answer fs = searchAlong fs id (xs ++ ys) := by
  rw [searchAlong_append, orElse, Lookup.answer_bind, hx]
  cases searchAlong fs id xs with
  | error failure => rfl
  | ok result =>
    obtain ⟨found, failed⟩ := result
    cases found with
    | some path => rfl
    | none =>
      simp only [Lookup.ok_bind, Lookup.answer_bind, hy]
      cases searchAlong fs id ys <;> rfl

/-- The files that a manifest names come before the index file. -/
theorem rootFiles_eq (dir : String) (manifest : Manifest) :
    rootFiles dir manifest =
      ((declarationFields.filterMap (textField manifest)).map fun value =>
        Path.normalize (Path.join dir value)) ++ [Path.join dir indexFile] := by
  have named : (textField manifest "typings").toList ++ (textField manifest "types").toList =
      declarationFields.filterMap (textField manifest) := by
    cases typings : textField manifest "typings" <;> cases types : textField manifest "types" <;>
      simp [declarationFields, typings, types]
  rw [rootFiles, named]
  rfl

theorem answer_tryNamed_of_exists {dir : String}
    (there : fs.exists? (Path.join dir manifestFile) = true) :
    (tryNamed dir).answer fs =
      ((readManifest (Path.join dir manifestFile)).answer fs >>= fun manifest =>
        (tryFields dir manifest declarationFields).answer fs) := by
  rw [tryNamed, Lookup.answer_bind, Lookup.answer_exists?, Lookup.ok_bind, if_pos there,
    Lookup.answer_bind]

/-- A package is searched along its candidates. -/
theorem answer_tryPackage (dir : String) :
    (tryPackage dir).answer fs = searchAlong fs id (packageCandidates fs dir) := by
  have index := answer_firstOf fs [Path.join dir indexFile]
  rw [tryPackage, packageCandidates]
  by_cases there : fs.exists? (Path.join dir manifestFile) = true
  · have named := answer_tryNamed_of_exists fs there
    rw [answer_readManifest] at named
    rw [if_pos there]
    cases held : fs.read (Path.join dir manifestFile) with
    | error fault =>
      rw [held] at named
      exact answer_orElse_of_error fs named _
    | ok content =>
      rw [held] at named
      dsimp only at named ⊢
      cases parsed : Manifest.parse fs.nesting (Path.join dir manifestFile) content with
      | error failure =>
        rw [parsed] at named
        exact answer_orElse_of_error fs named _
      | ok manifest =>
        rw [parsed, Lookup.ok_bind, answer_tryFields] at named
        dsimp only
        rw [rootFiles_eq, List.map_append]
        exact answer_orElse fs named index
  · have missing : (tryNamed dir).answer fs =
        searchAlong fs id [.ok (Path.join dir manifestFile)] := by
      simp [tryNamed, there, searchAlong, Except.map]
    rw [if_neg there]
    exact answer_orElse fs missing index

/-- Searches in a row are one search along the candidates of all. -/
theorem answer_firstFound {α : Type} {search : α → Lookup Search}
    {among : α → List (Except Failure String)}
    (h : ∀ a, (search a).answer fs = searchAlong fs id (among a)) (as : List α) :
    (firstFound search as).answer fs = searchAlong fs id (as.flatMap among) := by
  induction as with
  | nil => rfl
  | cons a as ih => exact answer_orElse fs (h a) ih

/-- The name under which community types are looked for. The sign of a scope is its first
character, so a scope is not empty and has one to leave out. -/
theorem communityKey_eq (name : String) : communityKey name = communityName name := by
  have signed := scope_parse_ne name
  rw [communityKey, communityName, Reference.mangledKey]
  revert signed
  rcases Reference.parse name with ⟨_ | scope, _ | package, subpath⟩ <;> intro signed
  · rfl
  · rfl
  · rfl
  · cases letters : scope.toList with
    | nil => exact absurd (congrArg some (String.toList_eq_nil_iff.1 letters)) signed
    | cons sign rest =>
      refine String.toList_inj.1 ?_
      simp [mangle, letters]

/-- Searches a directory of installed packages. -/
def searchModules (name modules : String) : Lookup Search :=
  orElse (firstOf [Path.join modules name ++ declarationSuffix])
    (firstFound tryPackage
      [Path.join modules name, Path.joinAll modules [typesScope, communityName name]])

/-- The declaration file comes first, then the package and its community types. -/
theorem answer_searchModules (name modules : String) :
    (searchModules name modules).answer fs = searchAlong fs id
      (.ok (Path.join modules name ++ declarationSuffix) ::
        (packageCandidates fs (Path.join modules name) ++
          packageCandidates fs (Path.joinAll modules [typesScope, communityKey name]))) := by
  have first := answer_firstOf fs [Path.join modules name ++ declarationSuffix]
  have packages := answer_firstFound fs (answer_tryPackage fs)
    [Path.join modules name, Path.joinAll modules [typesScope, communityName name]]
  have both := answer_orElse fs first packages
  simp only [List.flatMap_cons, List.flatMap_nil, List.append_nil] at both
  rw [communityKey_eq]
  exact both

/-- The installed packages of a directory are searched along their candidates. -/
theorem answer_tryInstalled (name dir : String) :
    (tryInstalled name dir).answer fs = searchAlong fs id (installedCandidates fs name dir) := by
  unfold tryInstalled installedCandidates
  by_cases inside : Path.name dir = modulesDirectory
  · simp [inside, searchAlong]
  · cases hm : fs.exists? (Path.join dir modulesDirectory) with
    | false => simp [inside, hm, searchAlong]
    | true =>
      have here : (decide (Path.name dir ≠ modulesDirectory) && true) = true := by simp [inside]
      dsimp only
      rw [if_neg inside, Lookup.answer_bind, Lookup.answer_exists?, hm, if_pos here]
      exact answer_searchModules fs name (Path.join dir modulesDirectory)

theorem answer_existing (paths : List String) :
    (existing paths).answer fs = .ok (paths.filter fs.exists?) := by
  induction paths with
  | nil => rfl
  | cons path paths ih =>
    rw [existing, Lookup.answer_bind, Lookup.answer_exists?, Lookup.ok_bind, Lookup.answer_bind, ih]
    cases h : fs.exists? path <;> simp [h]

theorem answer_typeRoots (options : Options) (dir : String) :
    (typeRoots options dir).answer fs = .ok (rootDirectories fs options dir) := by
  unfold typeRoots rootDirectories
  cases options.typeRoots with
  | some roots => rfl
  | none =>
    cases options.configDir with
    | none => exact answer_existing fs _
    | some configDir => exact answer_existing fs _

/-- A search for a primary hit and, for want of one, a search for another hit are one search along
the candidates of both. -/
theorem answer_primary_first {x y : Lookup Search} {xs ys : List (Except Failure String)}
    (hx : x.answer fs = searchAlong fs id xs) (hy : y.answer fs = searchAlong fs id ys) :
    (do
      let (found, failed) ← x
      match found with
      | some path => return ⟨some ⟨path, true⟩, failed⟩
      | none =>
        let (found, further) ← y
        return ⟨found.map (⟨·, false⟩), failed ++ further⟩ : Lookup Answer).answer fs =
      (searchAlong fs Hit.path
        (xs.map (Except.map (⟨·, true⟩)) ++ ys.map (Except.map (⟨·, false⟩)))).map toAnswer := by
  rw [Lookup.answer_bind, hx, searchAlong_append,
    searchAlong_map fs id Hit.path (⟨·, true⟩) fun _ => rfl,
    searchAlong_map fs id Hit.path (⟨·, false⟩) fun _ => rfl]
  cases searchAlong fs id xs with
  | error failure => rfl
  | ok result =>
    obtain ⟨found, failed⟩ := result
    cases found with
    | some path => rfl
    | none =>
      simp only [Lookup.ok_bind, Lookup.answer_bind, hy, Except.map, Option.map_none]
      cases searchAlong fs id ys <;> rfl

/-- The lookup of a directive is a search along its candidates. -/
theorem answer_resolveOne (options : Options) (file name : String) :
    (resolveOne options file name).answer fs =
      (searchAlong fs Hit.path (candidates fs options file name)).map toAnswer := by
  have roots := answer_firstFound fs (fun root => answer_tryPackage fs (Path.join root name))
    (rootDirectories fs options (Path.parent file))
  have installed := answer_firstFound fs (answer_tryInstalled fs name)
    (Path.ancestors (Path.parent file))
  rw [resolveOne, Lookup.answer_bind, answer_typeRoots, Lookup.ok_bind]
  exact answer_primary_first fs roots installed

/-- The lookup of a directive gives an answer exactly when this is the answer of a first-match
search along the candidates of the directive. -/
theorem resolveOne_eq_iff (options : Options) (file name : String)
    (result : Except Failure Answer) :
    (resolveOne options file name).answer fs = result ↔
      FirstMatch fs (candidates fs options file name) result := by
  rw [← searchAlong_eq_iff, answer_resolveOne]

/-- Community types of a scoped package. They are filed in one directory, while the package itself
and its types in a type root would lie in a directory of the scope. -/
def scopedTypes : FileSystem :=
  (Files.Memory.ofList [("/node_modules/@types/a__b/index.d.ts", "")]).fileSystem 0

/-- The paths tried in vain before the community types of a scoped package. -/
theorem resolveOne_eq_iff_scoped :
    (resolveOne .none "/src/a.ts" "@a/b").answer scopedTypes =
      .ok ⟨some ⟨"/node_modules/@types/a__b/index.d.ts", false⟩,
        ["/node_modules/@types/@a/b/package.json", "/node_modules/@types/@a/b/index.d.ts",
          "/node_modules/@a/b.d.ts", "/node_modules/@a/b/package.json",
          "/node_modules/@a/b/index.d.ts", "/node_modules/@types/a__b/package.json"]⟩ := by
  let missed : List Hit :=
    [⟨"/node_modules/@types/@a/b/package.json", true⟩,
      ⟨"/node_modules/@types/@a/b/index.d.ts", true⟩, ⟨"/node_modules/@a/b.d.ts", false⟩,
      ⟨"/node_modules/@a/b/package.json", false⟩, ⟨"/node_modules/@a/b/index.d.ts", false⟩,
      ⟨"/node_modules/@types/a__b/package.json", false⟩]
  let types : Hit := ⟨"/node_modules/@types/a__b/index.d.ts", false⟩
  have sequence : candidates scopedTypes .none "/src/a.ts" "@a/b" =
      missed.map .ok ++ .ok types :: [] := by decide +kernel
  have missing : ∀ candidate ∈ missed, scopedTypes.exists? candidate.path = false := by
    decide +kernel
  have there : scopedTypes.exists? types.path = true := by decide +kernel
  refine (resolveOne_eq_iff scopedTypes .none "/src/a.ts" "@a/b" _).2 ?_
  rw [sequence]
  exact .hit missing there []

end ModuleResolution.Directive
