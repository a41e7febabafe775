import ModuleResolution.Proofs.Resolution.Recorded

/-!
# What resolution finds

A name that is resolved to something else than its recorded target leads to a path that exists.
By its name this path is a typed source or declaration file, with one exception: the manifest of a
package may name a file of any kind as the declaration file of the package, and the manifest is
believed (`resolved_path_found`). A path that exists is a file or a directory, and resolution asks
only whether it exists; so neither half of "a file with a typed name" holds of all results
(`not_resolved_path_typed_file`).

The lemmas follow the ways to a path: a typed file beside a script, a declaration file below a
package, and a path reference of a declaration file. Each of them appends a typed ending to what it
looks up, which the lower case of the path keeps.
-/

set_option autoImplicit false

namespace ModuleResolution

/-- A typed source or declaration file, by the ending of its name in any case. -/
def isTypedFile (path : String) : Bool :=
  ".ts".toList.isSuffixOf (lowerCase path).toList ||
    ".tsx".toList.isSuffixOf (lowerCase path).toList

namespace Files.Memory

/-- Whether a path holds a file. -/
def isFile (m : Files.Memory) (path : String) : Bool :=
  m.files.has (Path.normalize path)

/-- Whether a path is a directory above a file. -/
def isDirectory (m : Files.Memory) (path : String) : Bool :=
  m.directories.contains (Path.normalize path)

theorem exists?_eq (m : Files.Memory) (nesting : Nat) (path : String) :
    (m.fileSystem nesting).exists? path = (m.isFile path || m.isDirectory path) :=
  rfl

end Files.Memory

namespace Resolution

open Dependency (Index Record)
open Package

/-- A path that the manifest of an installed package of the reference names as its declaration
file. -/
def NamedByManifest (fs : FileSystem) (ref : Reference) (path : String) : Prop :=
  ∃ (dir : String) (variant : Variant) (content : String) (manifest : Manifest)
    (field value : String),
    fs.read (Path.join (installPath ref dir variant) manifestFile) = .ok content ∧
      Manifest.parse fs.nesting (Path.join (installPath ref dir variant) manifestFile) content =
        .ok manifest ∧
      field ∈ declarationFields ∧ textField manifest field = some value ∧
      path = Path.normalize (Path.join (installPath ref dir variant) value)

/-- A path that exists and is a typed file by its name or named by a manifest. -/
structure Found (fs : FileSystem) (ref : Reference) (path : String) : Prop where
  exists_path : fs.exists? path = true
  typed_or_named : isTypedFile path = true ∨ NamedByManifest fs ref path

/-! ## Typed endings -/

theorem isTypedFile_of_suffix {ending : String} (typed : ending = ".ts" ∨ ending = ".tsx")
    {path : String} (h : ending.toList <:+ path.toList) : isTypedFile path = true := by
  have plain : ending.toList.all Text.isPlainLower = true := by
    rcases typed with rfl | rfl <;> decide
  obtain ⟨front, hfront⟩ := h
  have kept : ending.toList <:+ (lowerCase path).toList := by
    rw [lowerCase, String.toList_ofList, ← hfront]
    exact Text.suffix_lower_append front (List.all_eq_true.1 plain)
  rw [isTypedFile, Bool.or_eq_true, List.isSuffixOf_iff_suffix, List.isSuffixOf_iff_suffix]
  rcases typed with rfl | rfl
  · exact .inl kept
  · exact .inr kept

theorem isTypedFile_append_declarationSuffix (front : String) :
    isTypedFile (front ++ declarationSuffix) = true := by
  refine isTypedFile_of_suffix (.inl rfl) ?_
  rw [String.toList_append]
  have inner : ".ts".toList <:+ declarationSuffix.toList := by decide
  exact inner.trans (List.suffix_append _ _)

theorem isTypedFile_of_mem_typedSiblings {script path : String}
    (h : path ∈ typedSiblings script) : isTypedFile path = true := by
  simp only [typedSiblings, List.mem_cons, List.not_mem_nil, or_false] at h
  rcases h with rfl | rfl | rfl
  · exact isTypedFile_of_suffix (.inl rfl)
      (by rw [String.toList_append]; exact List.suffix_append _ _)
  · exact isTypedFile_of_suffix (.inr rfl)
      (by rw [String.toList_append]; exact List.suffix_append _ _)
  · exact isTypedFile_append_declarationSuffix _

/-- A relative path stands behind the directory that it is joined to. -/
theorem suffix_join (dir : String) {rest : String} (h : rest.toList.head? ≠ some '/') :
    rest.toList <:+ (Path.join dir rest).toList := by
  rw [Path.join, String.toList_ofList, Path.joinChars, if_neg h]
  split
  · exact List.suffix_append _ _
  · exact (List.suffix_cons _ _).trans (List.suffix_append _ _)

theorem isTypedFile_join_indexFile (packageDir : String) :
    isTypedFile (Path.join packageDir indexFile) = true := by
  have inner : ".ts".toList <:+ indexFile.toList := by decide
  exact isTypedFile_of_suffix (.inl rfl) (inner.trans (suffix_join packageDir (by decide)))

/-! ## Declaration files of packages -/

/-- The root files of a package are those that its manifest names and the index file. -/
theorem mem_rootFiles {packageDir : String} {manifest : Manifest} {path : String}
    (h : path ∈ rootFiles packageDir manifest) :
    path = Path.join packageDir indexFile ∨
      ∃ field ∈ declarationFields, ∃ value, textField manifest field = some value ∧
        path = Path.normalize (Path.join packageDir value) := by
  simp only [rootFiles, List.mem_append, List.mem_map, Option.mem_toList, List.mem_singleton] at h
  rcases h with ⟨value, hvalue, rfl⟩ | rfl
  · rcases hvalue with hvalue | hvalue
    · exact .inr ⟨"typings", by decide, value, hvalue, rfl⟩
    · exact .inr ⟨"types", by decide, value, hvalue, rfl⟩
  · exact .inl rfl

variable {fs : FileSystem} {ref : Reference}

/-- The decision at a package directory is for a path that exists there. -/
theorem found_of_declarationAt {dir : String} {variant : Variant} {path : String}
    (h : declarationAt fs ref (installPath ref dir variant) = .ok (some path)) :
    Found fs ref path := by
  unfold declarationAt at h
  cases hsub : ref.subpath with
  | some subpath =>
    simp only [hsub, Except.ok.injEq, Option.ite_none_right_eq_some, Option.some.injEq] at h
    obtain ⟨found, rfl⟩ := h
    exact ⟨found, .inl (isTypedFile_append_declarationSuffix _)⟩
  | none =>
    simp only [hsub] at h
    cases hread : fs.read (Path.join (installPath ref dir variant) manifestFile) with
    | error fault => simp [hread] at h
    | ok content =>
      cases hparse :
          Manifest.parse fs.nesting (Path.join (installPath ref dir variant) manifestFile)
            content with
      | error failure => simp [hread, hparse] at h
      | ok manifest =>
        simp only [hread, hparse, Except.ok.injEq] at h
        refine ⟨List.find?_some h, ?_⟩
        rcases mem_rootFiles (List.mem_of_find?_eq_some h) with rfl | ⟨field, hfield, value, hv, hp⟩
        · exact .inl (isTypedFile_join_indexFile _)
        · exact .inr ⟨dir, variant, content, manifest, field, value, hread, hparse, hfield, hv, hp⟩

theorem found_of_declarationOf {searchRoot : String} {variant : Variant} {path : String}
    (h : declarationOf fs ref searchRoot variant = .ok (some path)) : Found fs ref path := by
  unfold declarationOf at h
  cases hbase : boundaryDirectory fs searchRoot with
  | none => simp [hbase] at h
  | some base =>
    simp only [hbase] at h
    cases hhost : hostDirectory fs ref variant (Path.parent (Path.join base manifestFile)) with
    | none => simp [hhost] at h
    | some dir =>
      simp only [hhost] at h
      exact found_of_declarationAt h

/-! ## Names -/

variable {name path : String}

theorem found_of_typedFile {script : String}
    (h : typedFile fs name script = .ok (some path)) : Found fs (.parse name) path := by
  unfold typedFile at h
  cases hsibling : (typedSiblings script).find? fs.exists? with
  | some sibling =>
    simp only [hsibling, Except.ok.injEq, Option.some.injEq] at h
    subst h
    exact ⟨List.find?_some hsibling,
      .inl (isTypedFile_of_mem_typedSiblings (List.mem_of_find?_eq_some hsibling))⟩
  | none =>
    simp only [hsibling] at h
    split at h
    · exact found_of_declarationOf h
    · simp at h

/-- A recorded target stays or gives way to a path that exists. -/
theorem found_of_recordedFile {target : String}
    (h : recordedFile fs name target = .ok path) :
    path = target ∨ Found fs (.parse name) path := by
  unfold recordedFile at h
  split at h
  · cases htyped : typedFile fs name target with
    | error failure => simp [htyped, Except.map] at h
    | ok found =>
      cases found with
      | none => simp [htyped, Except.map] at h; exact .inl h.symm
      | some other =>
        simp only [htyped, Except.map, Option.getD_some, Except.ok.injEq] at h
        subst h
        exact .inr (found_of_typedFile htyped)
  · simp only [Except.ok.injEq] at h
    exact .inl h.symm

theorem found_of_fromRecord {record : Record}
    (h : (fromRecord record name).answer fs = .ok (.resolved path)) :
    record.get? name = some (.path path) ∨ Found fs (.parse name) path := by
  cases hbuiltin : Builtin.contains name with
  | true => simp [fromRecord, hbuiltin] at h
  | false =>
    cases hrecord : record.get? name with
    | none => simp [fromRecord_of_missing hbuiltin hrecord] at h
    | some target =>
      cases target with
      | path recorded =>
        rw [fromRecord_of_path hbuiltin hrecord, Lookup.answer_bind, answer_upgraded] at h
        cases hfile : recordedFile fs name recorded with
        | error failure => simp [hfile] at h
        | ok file =>
          simp only [hfile, Lookup.ok_bind, answer_decided, Except.ok.injEq,
            Outcome.resolved.injEq] at h
          subst h
          rcases found_of_recordedFile hfile with rfl | found
          · exact .inl rfl
          · exact .inr found
      -- a target that is no path fails
      | _ => simp [fromRecord, hbuiltin, hrecord] at h

theorem found_of_diskDeclaration {dir : String}
    (h : (diskDeclaration dir (.parse name)).answer fs = .ok (some path)) :
    Found fs (.parse name) path := by
  unfold diskDeclaration at h
  cases hnamed : (Reference.parse name).isNamed with
  | true =>
    -- the declarations of the package itself come first, then the community types
    simp only [hnamed, if_true, Lookup.answer_bind,
      answer_findDeclaration fs hnamed (scope_parse_ne name)] at h
    cases hown : declarationOf fs (.parse name) dir .own with
    | error failure => simp [hown] at h
    | ok own =>
      cases own with
      | some found =>
        simp only [hown, Lookup.ok_bind, Lookup.answer_pure, Except.ok.injEq,
          Option.some.injEq] at h
        subst h
        exact found_of_declarationOf hown
      | none =>
        simp only [hown, Lookup.ok_bind,
          answer_findDeclaration fs hnamed (scope_parse_ne name)] at h
        exact found_of_declarationOf h
  | false =>
    simp only [hnamed, Bool.false_eq_true, if_false] at h
    cases hsub : (Reference.parse name).subpath with
    | none => simp [hsub] at h
    | some subpath =>
      simp only [hsub, answer_firstExisting, Except.ok.injEq] at h
      have hmem := List.mem_of_find?_eq_some h
      rw [List.mem_singleton] at hmem
      subst hmem
      exact ⟨List.find?_some h, .inl (isTypedFile_append_declarationSuffix _)⟩

theorem found_of_fromDisk {file : String}
    (h : (fromDisk file name).answer fs = .ok (.resolved path)) :
    Found fs (.parse name) path := by
  unfold fromDisk at h
  cases hbuiltin : Builtin.contains name with
  | true => simp [hbuiltin] at h
  | false =>
    simp only [hbuiltin, Bool.false_eq_true, if_false, Lookup.answer_bind] at h
    cases hdisk : (diskDeclaration (Path.parent file) (.parse name)).answer fs with
    | error failure => simp [hdisk] at h
    | ok declaration =>
      cases declaration with
      | none => simp [hdisk] at h
      | some found =>
        simp only [hdisk, Lookup.ok_bind, answer_decided, Except.ok.injEq,
          Outcome.resolved.injEq] at h
        subst h
        exact found_of_diskDeclaration hdisk

/-- A name is resolved to its recorded target or to a path that resolution has found. -/
theorem found_of_rule {index : Index} {file : String}
    (h : (rule index file name).answer fs = .ok (.resolved path)) :
    (∃ record, index.get? file = some record ∧ record.get? name = some (.path path)) ∨
      Found fs (.parse name) path := by
  unfold rule at h
  cases hindex : index.get? file with
  | some record =>
    simp only [hindex] at h
    rcases found_of_fromRecord h with recorded | found
    · exact .inl ⟨record, rfl, recorded⟩
    · exact .inr found
  | none =>
    simp only [hindex] at h
    split at h
    · exact .inr (found_of_fromDisk h)
    · simp at h

/-! ## Requests -/

/-- In the answer to a request every path that is not the recorded target of its name is there, as
a file or as a directory, and has the name of a typed file, unless the manifest of a package that
the name refers to names it. -/
theorem resolved_path_found (index : Index) (m : Files.Memory) (nesting : Nat) (file : String)
    (names : List String) (outcomes : List Outcome)
    (answered : (resolve index file (.list names)).answer (m.fileSystem nesting) = .ok outcomes) :
    List.Forall₂
      (fun name outcome => ∀ path, outcome = .resolved path →
        (∃ record, index.get? file = some record ∧ record.get? name = some (.path path)) ∨
          ((m.isFile path = true ∨ m.isDirectory path = true) ∧
            (isTypedFile path = true ∨
              NamedByManifest (m.fileSystem nesting) (.parse name) path)))
      names outcomes := by
  rw [answer_resolve, answer_each_iff] at answered
  refine answered.imp fun name outcome ruled path resolved => ?_
  rw [resolved] at ruled
  rcases found_of_rule ruled with recorded | found
  · exact .inl recorded
  · have there := found.exists_path
    rw [Files.Memory.exists?_eq, Bool.or_eq_true] at there
    exact .inr ⟨there, found.typed_or_named⟩

/-- A directory with the name of a declaration file, and a package whose manifest names a script. -/
def misnamed : Files.Memory :=
  .ofList [("/p/x.d.ts/a", ""), ("/p/package.json", "\x7b\x7d"),
    ("/p/node_modules/lib/package.json", "\x7b\"types\": \"a.js\"\x7d"),
    ("/p/node_modules/lib/a.js", "")]

/-- What the directory and the script are taken for. -/
def misnamedOutcomes : List Outcome :=
  [.resolved "/p/x.d.ts", .resolved "/p/node_modules/lib/a.js"]

theorem answer_misnamed :
    (resolve .empty "/p/a.d.ts" (.list ["./x", "lib"])).answer (misnamed.fileSystem 1) =
      .ok misnamedOutcomes := by
  decide +kernel

theorem resolved_path_found_misnamed :
    (resolve .empty "/p/a.d.ts" (.list ["./x", "lib"])).answer (misnamed.fileSystem 1) =
        .ok misnamedOutcomes ∧
      List.Forall₂
        (fun name outcome => ∀ path, outcome = .resolved path →
          (∃ record, Index.empty.get? "/p/a.d.ts" = some record ∧
            record.get? name = some (.path path)) ∨
            ((misnamed.isFile path = true ∨ misnamed.isDirectory path = true) ∧
              (isTypedFile path = true ∨
                NamedByManifest (misnamed.fileSystem 1) (.parse name) path)))
        ["./x", "lib"] misnamedOutcomes :=
  ⟨answer_misnamed, resolved_path_found .empty misnamed 1 "/p/a.d.ts" ["./x", "lib"]
    misnamedOutcomes answer_misnamed⟩

/-- In the answers to requests a property holds of all paths that are not recorded targets. -/
def HoldsOfResolvedPaths (holds : Files.Memory → String → Bool) : Prop :=
  ∀ (index : Index) (m : Files.Memory) (nesting : Nat) (file : String) (names : List String)
    (outcomes : List Outcome),
    (resolve index file (.list names)).answer (m.fileSystem nesting) = .ok outcomes →
    List.Forall₂
      (fun name outcome => ∀ path, outcome = .resolved path →
        (∃ record, index.get? file = some record ∧ record.get? name = some (.path path)) ∨
          holds m path = true)
      names outcomes

/-- Not every such path is a file, and not every such path has the name of a typed file. -/
theorem not_resolved_path_typed_file :
    ¬ HoldsOfResolvedPaths (fun m path => m.isFile path && isTypedFile path) ∧
      ¬ HoldsOfResolvedPaths (fun m path => m.isFile path) ∧
      ¬ HoldsOfResolvedPaths (fun _ path => isTypedFile path) := by
  have directory : misnamed.isFile "/p/x.d.ts" = false := by decide +kernel
  have script : isTypedFile "/p/node_modules/lib/a.js" = false := by decide +kernel
  -- nothing is recorded, so the property has to hold of both paths
  have both {holds : Files.Memory → String → Bool} (h : HoldsOfResolvedPaths holds) :
      holds misnamed "/p/x.d.ts" = true ∧ holds misnamed "/p/node_modules/lib/a.js" = true := by
    have all := h .empty misnamed 1 "/p/a.d.ts" ["./x", "lib"] _ answer_misnamed
    rw [misnamedOutcomes, List.forall₂_cons, List.forall₂_cons] at all
    obtain ⟨first, second, -⟩ := all
    rcases first _ rfl with ⟨record, indexed, -⟩ | hfirst
    · cases indexed
    · rcases second _ rfl with ⟨record, indexed, -⟩ | hsecond
      · cases indexed
      · exact ⟨hfirst, hsecond⟩
  refine ⟨fun h => ?_, fun h => ?_, fun h => ?_⟩
  · simpa [directory] using (both h).1
  · simpa [directory] using (both h).1
  · simpa [script] using (both h).2

end Resolution

end ModuleResolution
