import ModuleResolution.Package.Declaration
import ModuleResolution.Proofs.Lookup.Answer

/-!
# The search for a declaration file

The search of `findDeclaration` is one walk inside another: up to the package boundary, then up
from there to a directory in which the package is installed. This module states where both walks
end without walking. `boundaryDirectory` and `hostDirectory` are the first directories with a
property, `declarationAt` is the decision at the host directory, and `declarationOf` puts them
together. The search answers exactly that for every reference that is read from a text and names a
package (`findDeclaration_parse`); with a subpath it reads no file at all.

Main steps: a walk whose probes climb past all directories but those with a property decides at
the first of these (`answer_along`), and a probe of one directory decides or climbs by `hosts`
(`answer_probeDirectory`).
-/

set_option autoImplicit false

namespace ModuleResolution.Package

open Lookup (ReadFree)

/-! ## Where the search ends -/

/-- Where a variant of a package lies when it is installed in `dir`. -/
def installPath (ref : Reference) (dir : String) : Variant → String
  | .own => Path.joinAll dir (modulesDirectory :: (ref.scope.toList ++ ref.name.toList))
  | .community =>
    Path.joinAll dir [modulesDirectory, typesScope, mangle ref.scope (ref.name.getD "")]

/-- The nearest directory with a manifest. -/
def boundaryDirectory (fs : FileSystem) (searchRoot : String) : Option String :=
  (Path.ancestors searchRoot).find? fun dir => fs.exists? (Path.join dir manifestFile)

/-- A directory that is not itself a directory of installed packages and in which the package is
installed with a manifest. -/
def hosts (fs : FileSystem) (ref : Reference) (variant : Variant) (dir : String) : Bool :=
  Path.name dir ≠ modulesDirectory &&
    fs.exists? (Path.join (installPath ref dir variant) manifestFile)

/-- The nearest directory that hosts the package. -/
def hostDirectory (fs : FileSystem) (ref : Reference) (variant : Variant) (dir : String) :
    Option String :=
  (Path.ancestors dir).find? (hosts fs ref variant)

/-- The text of a manifest field, unless the field is missing, empty or no text. -/
def textField (manifest : Manifest) (field : String) : Option String :=
  match manifest.get? field with
  | some (.text value) => if value.string = "" then none else some value.string
  | _ => none

/-- The files that may be the root declaration of a package: those that its manifest names, then
the index file. -/
def rootFiles (packageDir : String) (manifest : Manifest) : List String :=
  let named := (textField manifest "typings").toList ++ (textField manifest "types").toList
  named.map (fun value => Path.normalize (Path.join packageDir value)) ++
    [Path.join packageDir "index.d.ts"]

/-- The segments of a subpath that are not empty. -/
def subpathSegments (subpath : String) : List String :=
  ((Text.splitOn '/' subpath.toList).filter (· ≠ [])).map String.ofList

/-- What the search gives once it has come to a package directory. -/
def declarationAt (fs : FileSystem) (ref : Reference) (packageDir : String) :
    Except Failure (Option String) :=
  match ref.subpath with
  | some subpath =>
    let file := Path.joinAll packageDir (subpathSegments subpath) ++ ".d.ts"
    .ok (if fs.exists? file then some file else none)
  | none =>
    let manifestPath := Path.join packageDir manifestFile
    match fs.read manifestPath with
    | .error fault => .error (.unreadable fault)
    | .ok content =>
      match Manifest.parse fs.nesting manifestPath content with
      | .error failure => .error failure
      | .ok manifest => .ok ((rootFiles packageDir manifest).find? fs.exists?)

/-- What the search for a declaration file gives. -/
def declarationOf (fs : FileSystem) (ref : Reference) (searchRoot : String) (variant : Variant) :
    Except Failure (Option String) :=
  match boundaryDirectory fs searchRoot with
  | none => .ok none
  | some base =>
    match hostDirectory fs ref variant (Path.parent (Path.join base manifestFile)) with
    | none => .ok none
    | some dir => declarationAt fs ref (installPath ref dir variant)

/-! ## Named references -/

/-- The scope of a reference read from a text is not empty: it starts with its sign. -/
theorem scope_parse_ne (text : String) : (Reference.parse text).scope ≠ some "" := by
  unfold Reference.parse
  split
  · simp
  -- the scope is the first piece, and only if that piece starts with the sign
  · cases Text.splitOn '/' text.toList with
    | nil => simp [Reference.takeScope]
    | cons piece pieces =>
      cases piece with
      | nil => simp [Reference.takeScope]
      | cons c cs =>
        by_cases hc : c = '@'
        · subst hc
          simp [Reference.takeScope]
        · simp [Reference.takeScope, hc]

theorem exists_name_of_isNamed {ref : Reference} (h : ref.isNamed = true) :
    ∃ name, ref.name = some name := by
  cases hn : ref.name with
  | none => simp [Reference.isNamed, hn] at h
  | some name => exact ⟨name, rfl⟩

/-- A package that has a name and no empty scope has a directory in every other one. -/
theorem root_eq_ok {ref : Reference} (named : ref.isNamed = true) (scope : ref.scope ≠ some "")
    (dir : String) (variant : Variant) :
    root ref dir variant = .ok (installPath ref dir variant) := by
  obtain ⟨name, hn⟩ := exists_name_of_isNamed named
  cases variant with
  | community => simp [root, rootSegments, installPath, Reference.mangledKey, hn, Except.map]
  | own =>
    -- an empty scope is left out of the path that is looked up, hence the hypothesis
    cases hs : ref.scope with
    | none => simp [root, rootSegments, installPath, hn, hs, Except.map]
    | some s =>
      have hne : s ≠ "" := fun h => scope (by rw [hs, h])
      simp [root, rootSegments, installPath, hn, hs, hne, Except.map]

/-! ## The parts of the search -/

theorem answer_firstExisting (fs : FileSystem) (paths : List String) :
    (firstExisting paths).answer fs = .ok (paths.find? fs.exists?) := by
  induction paths with
  | nil => rfl
  | cons path paths ih =>
    rw [firstExisting, Lookup.answer_bind, Lookup.answer_exists?]
    cases h : fs.exists? path with
    | false => simpa [h] using ih
    | true => simp [h]

theorem readFree_firstExisting (paths : List String) : ReadFree (firstExisting paths) := by
  induction paths with
  | nil => exact .pure none
  | cons path paths ih =>
    refine .bind (.exists? path) fun found => ?_
    cases found with
    | false => exact ih
    | true => exact .pure (some path)

/-- The candidates of a manifest are the files it names and the index file. -/
theorem declarationCandidates_eq (packageDir : String) (manifest : Manifest) :
    declarationCandidates packageDir manifest = rootFiles packageDir manifest := by
  -- one field gives one candidate or none
  have field (name : String) : fieldCandidate packageDir manifest name =
      (textField manifest name).map fun value => Path.normalize (Path.join packageDir value) := by
    unfold fieldCandidate textField
    cases manifest.get? name with
    | none => rfl
    | some value =>
      cases value with
      | text s => by_cases hs : s.string = "" <;> simp [Json.Value.text?, hs]
      | _ => rfl
  simp only [declarationCandidates, declarationFields, rootFiles, indexFile]
  cases ht : textField manifest "typings" <;> cases hy : textField manifest "types" <;>
    simp [field, ht, hy]

theorem answer_readManifest (fs : FileSystem) (path : String) :
    (readManifest path).answer fs =
      match fs.read path with
      | .ok content => Manifest.parse fs.nesting path content
      | .error fault => .error (.unreadable fault) := by
  rw [readManifest, Lookup.answer_bind, Lookup.answer_read]
  cases fs.read path with
  | error fault => rfl
  | ok content => simp

/-- The boundary is reported by the path of its manifest. -/
theorem answer_boundary (fs : FileSystem) (searchRoot : String) :
    (boundary searchRoot).answer fs =
      .ok ((boundaryDirectory fs searchRoot).map fun dir => Path.join dir manifestFile) := by
  rw [boundary, answer_firstExisting, List.find?_map]
  rfl

theorem answer_declarationIn (fs : FileSystem) (ref : Reference) (packageDir : String) :
    (declarationIn ref packageDir).answer fs = declarationAt fs ref packageDir := by
  unfold declarationIn declarationAt
  cases ref.subpath with
  | some subpath =>
    simp only [answer_firstExisting, List.find?_cons, List.find?_nil]
    change Except.ok (match fs.exists? (subpathFile packageDir subpath) with
      | true => _ | false => _) = .ok (if fs.exists? (subpathFile packageDir subpath) then _ else _)
    cases fs.exists? (subpathFile packageDir subpath) <;> rfl
  | none =>
    simp only [manifestDeclaration, Lookup.answer_bind, answer_readManifest, answer_firstExisting,
      declarationCandidates_eq]
    cases fs.read (Path.join packageDir manifestFile) with
    | error fault => rfl
    | ok content =>
      dsimp only
      cases Manifest.parse fs.nesting (Path.join packageDir manifestFile) content <;> rfl

/-! ## Walks -/

/-- The step by which a decision ends a walk. -/
def endStep : Option String → Walk.Step
  | some path => .found path
  | none => .stop

/-- A walk that climbs past every directory without a property decides at the first one that has
it. -/
theorem answer_along (fs : FileSystem) (probe : String → Lookup Walk.Step) (here : String → Bool)
    (decision : String → Except Failure (Option String))
    (h : ∀ dir, (probe dir).answer fs =
      if here dir then (decision dir).map endStep else .ok .climb) (dirs : List String) :
    (Walk.along probe dirs).answer fs =
      match dirs.find? here with
      | none => .ok none
      | some dir => decision dir := by
  induction dirs with
  | nil => rfl
  | cons dir dirs ih =>
    rw [Walk.along, Lookup.answer_bind, h dir]
    cases hd : here dir with
    | false => simpa [hd] using ih
    -- here the walk ends: with the failure, with a file, or definitively without one
    | true =>
      rw [List.find?_cons_of_pos hd, if_pos rfl]
      cases hr : decision dir with
      | error failure => simp [hr, Except.map]
      | ok found => cases found <;> simp [hr, Except.map, endStep]

/-- A probe decides in a host directory and climbs in all others. -/
theorem answer_probeDirectory (fs : FileSystem) {ref : Reference} (named : ref.isNamed = true)
    (scope : ref.scope ≠ some "") (variant : Variant) (dir : String) :
    (probeDirectory ref variant dir).answer fs =
      if hosts fs ref variant dir then
        (declarationAt fs ref (installPath ref dir variant)).map endStep
      else .ok .climb := by
  unfold probeDirectory
  -- a directory of installed packages is skipped without a question
  by_cases hname : Path.name dir = modulesDirectory
  · simp [hosts, hname]
  · cases hm : fs.exists? (Path.join (installPath ref dir variant) manifestFile) with
    | false => simp [hosts, hname, root_eq_ok named scope, hm]
    | true =>
      have here : hosts fs ref variant dir = true := by simp [hosts, hname, hm]
      rw [if_pos here, if_neg hname]
      simp only [root_eq_ok named scope, hm, Lookup.answer_bind, Lookup.answer_ofExcept,
        Lookup.answer_exists?, Lookup.ok_bind, Bool.not_true, Bool.false_eq_true, if_false,
        answer_declarationIn]
      cases declarationAt fs ref (installPath ref dir variant) with
      | error failure => rfl
      | ok found => cases found <;> rfl

/-- The search answers the decision at the first host directory above the package boundary. -/
theorem answer_findDeclaration (fs : FileSystem) {ref : Reference} (named : ref.isNamed = true)
    (scope : ref.scope ≠ some "") (searchRoot : String) (variant : Variant) :
    (findDeclaration ref searchRoot variant).answer fs =
      declarationOf fs ref searchRoot variant := by
  unfold findDeclaration declarationOf
  simp only [named, Bool.not_true, Bool.false_eq_true, if_false, Lookup.answer_bind,
    Lookup.ok_bind, answer_boundary]
  cases boundaryDirectory fs searchRoot with
  | none => simp
  | some base =>
    -- the second walk starts at the directory of the manifest that the first one has found
    have key := answer_along fs (probeDirectory ref variant) (hosts fs ref variant)
      (fun dir => declarationAt fs ref (installPath ref dir variant))
      (answer_probeDirectory fs named scope variant)
      (Path.ancestors (Path.parent (Path.join base manifestFile)))
    simp only [Option.map_some, Walk.up, hostDirectory, key]

/-! ## The search with a subpath reads no file -/

/-- A walk reads no file if its probes read none. -/
theorem readFree_along {probe : String → Lookup Walk.Step} (h : ∀ dir, ReadFree (probe dir))
    (dirs : List String) : ReadFree (Walk.along probe dirs) := by
  induction dirs with
  | nil => exact .pure none
  | cons dir dirs ih =>
    refine .bind (h dir) fun step => ?_
    cases step with
    | climb => exact ih
    | found path => exact .pure (some path)
    | stop => exact .pure none

theorem readFree_probeDirectory {ref : Reference} (sub : ref.subpath ≠ none) (variant : Variant)
    (dir : String) : ReadFree (probeDirectory ref variant dir) := by
  obtain ⟨subpath, hs⟩ := Option.ne_none_iff_exists'.1 sub
  unfold probeDirectory
  split
  · exact .pure Walk.Step.climb
  · refine .bind (.ofExcept _) fun packageDir => .bind (.exists? _) fun found => ?_
    cases found with
    | false => exact .pure Walk.Step.climb
    | true =>
      -- with a subpath the manifest is not opened
      have inside : ReadFree (declarationIn ref packageDir) := by
        rw [declarationIn, hs]
        exact readFree_firstExisting _
      refine .bind inside fun file => ?_
      cases file with
      | none => exact .pure Walk.Step.stop
      | some path => exact .pure (Walk.Step.found path)

theorem readFree_findDeclaration {ref : Reference} (sub : ref.subpath ≠ none)
    (searchRoot : String) (variant : Variant) :
    ReadFree (findDeclaration ref searchRoot variant) := by
  have climbing : ReadFree (boundary searchRoot >>= fun found => match found with
      | none => pure none
      | some manifest => Walk.up (Path.parent manifest) (probeDirectory ref variant)) := by
    refine .bind (readFree_firstExisting _) fun found => ?_
    cases found with
    | none => exact .pure none
    | some manifest => exact readFree_along (readFree_probeDirectory sub variant) _
  unfold findDeclaration
  -- a reference without a name fails before the first question
  cases ref.isNamed with
  | false => exact .bind (.fail _) fun _ => climbing
  | true => exact climbing

/-! ## The search of a reference read from a text -/

/-- The search for a reference that names a package answers the decision at one directory: the
first one, from the package boundary of the search root upwards, that hosts the package. Without a
boundary or a host there is no declaration. With a subpath no manifest is read. -/
theorem findDeclaration_parse (fs : FileSystem) (text searchRoot : String) (variant : Variant)
    (named : (Reference.parse text).isNamed = true) :
    (findDeclaration (.parse text) searchRoot variant).answer fs =
        declarationOf fs (.parse text) searchRoot variant ∧
      ((Reference.parse text).subpath ≠ none →
        ReadFree (findDeclaration (.parse text) searchRoot variant)) :=
  ⟨answer_findDeclaration fs named (scope_parse_ne text) searchRoot variant,
    fun sub => readFree_findDeclaration sub searchRoot variant⟩

/-- A package boundary in `/repo/app`, with the package installed in `/repo`. -/
def installedAbove : FileSystem where
  exists? path :=
    ["/repo/app/package.json", "/repo/node_modules/@types/babel__core/package.json",
      "/repo/node_modules/@types/babel__core/parse.d.ts"].contains path
  read path := .error (.notInMemory path)
  nesting := 0

/-- A package whose manifest names a declaration file in its second field, beside an index file. -/
def namedByTypes : FileSystem where
  exists? path :=
    ["/repo/package.json", "/repo/node_modules/lib/package.json",
      "/repo/node_modules/lib/main.d.ts", "/repo/node_modules/lib/index.d.ts"].contains path
  read _ := .ok "\x7b\"typings\": \"\", \"types\": \"./main.d.ts\"\x7d"
  nesting := 1

theorem findDeclaration_parse_scoped :
    (Reference.parse "@babel/core/parse").isNamed = true ∧
      (Reference.parse "@babel/core/parse").subpath ≠ none ∧
      (findDeclaration (.parse "@babel/core/parse") "/repo/app/src" .community).answer
          installedAbove = .ok (some "/repo/node_modules/@types/babel__core/parse.d.ts") ∧
      ReadFree (findDeclaration (.parse "@babel/core/parse") "/repo/app/src" .community) ∧
      (Reference.parse "lib").isNamed = true ∧
      (findDeclaration (.parse "lib") "/repo/src" .own).answer namedByTypes =
        .ok (some "/repo/node_modules/lib/main.d.ts") := by
  have named : (Reference.parse "@babel/core/parse").isNamed = true := by decide +kernel
  have sub : (Reference.parse "@babel/core/parse").subpath ≠ none := by decide +kernel
  obtain ⟨answered, free⟩ :=
    findDeclaration_parse installedAbove "@babel/core/parse" "/repo/app/src" .community named
  have whole : (Reference.parse "lib").isNamed = true := by decide +kernel
  obtain ⟨picked, -⟩ := findDeclaration_parse namedByTypes "lib" "/repo/src" .own whole
  exact ⟨named, sub, answered.trans rfl, free sub, whole, picked.trans rfl⟩

end ModuleResolution.Package
