import ModuleResolution.Proofs.Directive.Candidates

/-!
# One declaration of a package for imports and directives

An import reads the manifest of a package and then picks its root declaration; a type directive
probes the package directory, reads the manifest only if there is one, and reports what it tried in
vain. Apart from that report both come to the same file, or to the same failure
(`tryPackage_eq_manifestDeclaration`). A package directory without a manifest is taken for one with
an empty manifest.

Each of the two has a loop over the fields of the manifest, with its own test for a field that names
no file: `tryFields` probes field by field and keeps what it missed, while imports list their
candidates before they probe any. That the loops agree on the fields that count, on their order and
on the paths made of them is `answer_tryFields` on the one side, by induction on the fields, and
`declarationCandidates_eq` on the other.
-/

set_option autoImplicit false

namespace ModuleResolution.Directive

open Package

/-- A JSON object that stands at the path of a manifest. -/
structure HoldsManifest (fs : FileSystem) (path : String) (manifest : Manifest) : Prop where
  there : fs.exists? path = true
  object : ∃ content, fs.read path = .ok content ∧
    Json.read fs.nesting content = .ok (.object manifest)

/-- The root declaration of a package with a manifest, as imports search it. -/
def importedDeclaration (dir : String) : Lookup (Option String) := do
  manifestDeclaration dir (← readManifest (Path.join dir manifestFile))

/-- The file that a directive finds in a package directory. -/
def directiveDeclaration (fs : FileSystem) (dir : String) : Except Failure (Option String) :=
  ((tryPackage dir).answer fs).map Prod.fst

section Manifest

variable {fs : FileSystem} {path content : String} {manifest : Manifest}

/-- Exactly the JSON objects are manifests. -/
theorem parse_eq_ok_iff {nesting : Nat} :
    Manifest.parse nesting path content = .ok manifest ↔
      Json.read nesting content = .ok (.object manifest) := by
  rw [Manifest.parse]
  cases Json.read nesting content with
  | error error => cases error <;> simp
  | ok value => cases value <;> simp [Json.Value.fields?]

/-- A manifest is read exactly if there is a JSON object at its path. -/
theorem answer_readManifest_eq_ok_iff (there : fs.exists? path = true) :
    (readManifest path).answer fs = .ok manifest ↔ HoldsManifest fs path manifest := by
  rw [answer_readManifest]
  constructor
  · intro answered
    cases held : fs.read path with
    | error fault =>
      rw [held] at answered
      cases answered
    | ok content =>
      rw [held] at answered
      exact ⟨there, content, held, parse_eq_ok_iff.1 answered⟩
  · rintro ⟨-, content, held, spelled⟩
    rw [held]
    exact parse_eq_ok_iff.2 spelled

end Manifest

/-! ## Both searches in one package -/

variable (fs : FileSystem) (dir : String)

/-- Among the candidates of a manifest, the first one that exists is found. -/
theorem found_rootFiles (manifest : Manifest) :
    found fs id ((rootFiles dir manifest).map .ok) =
      (manifestDeclaration dir manifest).answer fs := by
  rw [found_map_ok, manifestDeclaration, answer_firstExisting, declarationCandidates_eq]
  rfl

/-- With a manifest at its place, a directive finds in a package what an import finds. -/
theorem directiveDeclaration_of_exists (there : fs.exists? (Path.join dir manifestFile) = true) :
    directiveDeclaration fs dir = (importedDeclaration dir).answer fs := by
  rw [directiveDeclaration, answer_tryPackage, packageCandidates, if_pos there, importedDeclaration,
    Lookup.answer_bind, answer_readManifest]
  cases fs.read (Path.join dir manifestFile) with
  | error fault => rfl
  | ok content =>
    dsimp only
    cases Manifest.parse fs.nesting (Path.join dir manifestFile) content with
    | error failure => rfl
    | ok manifest => exact found_rootFiles fs dir manifest

/-- Without a manifest, a directive finds in a package what an empty manifest names. -/
theorem directiveDeclaration_of_missing
    (missing : fs.exists? (Path.join dir manifestFile) = false) :
    directiveDeclaration fs dir = (manifestDeclaration dir []).answer fs := by
  rw [directiveDeclaration, answer_tryPackage, packageCandidates, if_neg (by simp [missing])]
  -- the manifest is one more candidate, and it is missing
  have index := found_cons_ok fs id (Path.join dir manifestFile)
    [.ok (Path.join dir indexFile)]
  rw [id_eq, missing, if_neg Bool.false_ne_true] at index
  exact index.trans (found_rootFiles fs dir [])

/-- Imports and directives agree on the root declaration of a package. With a JSON object as its
manifest the package has the declaration that this manifest picks, without a manifest the one that
an empty manifest picks, and a manifest that is no JSON object fails both searches alike. So a
package that has a manifest gives an import without subpath what it gives a directive. -/
theorem tryPackage_eq_manifestDeclaration :
    (∀ manifest, HoldsManifest fs (Path.join dir manifestFile) manifest →
      directiveDeclaration fs dir = (manifestDeclaration dir manifest).answer fs) ∧
    (fs.exists? (Path.join dir manifestFile) = false →
      directiveDeclaration fs dir = (manifestDeclaration dir []).answer fs) ∧
    (fs.exists? (Path.join dir manifestFile) = true →
      (∀ manifest, ¬ HoldsManifest fs (Path.join dir manifestFile) manifest) →
      ∃ failure, (importedDeclaration dir).answer fs = .error failure ∧
        (tryPackage dir).answer fs = .error failure) ∧
    (fs.exists? (Path.join dir manifestFile) = true → ∀ ref : Reference, ref.subpath = none →
      (declarationIn ref dir).answer fs = directiveDeclaration fs dir) := by
  refine ⟨?_, ?_, ?_, ?_⟩
  · intro manifest holds
    have answered := (answer_readManifest_eq_ok_iff holds.there).2 holds
    rw [directiveDeclaration_of_exists fs dir holds.there, importedDeclaration, Lookup.answer_bind,
      answered]
    rfl
  · exact directiveDeclaration_of_missing fs dir
  · intro there broken
    cases answered : (readManifest (Path.join dir manifestFile)).answer fs with
    | ok manifest =>
      exact absurd ((answer_readManifest_eq_ok_iff there).1 answered) (broken manifest)
    | error failure =>
      have failed : (importedDeclaration dir).answer fs = .error failure := by
        rw [importedDeclaration, Lookup.answer_bind, answered]
        rfl
      refine ⟨failure, failed, ?_⟩
      -- a search that gives a failure and no file has failed itself
      have both := (directiveDeclaration_of_exists fs dir there).trans failed
      rw [directiveDeclaration] at both
      cases tried : (tryPackage dir).answer fs with
      | ok search => rw [tried] at both; cases both
      | error other => rw [tried] at both; cases both; rfl
  · intro there ref root
    rw [directiveDeclaration_of_exists fs dir there, declarationIn, root]
    rfl

/-- A package whose manifest names a file that is missing and one that is there. -/
def twoFields : FileSystem where
  exists? path := ["/p/package.json", "/p/t.d.ts", "/p/index.d.ts"].contains path
  nesting := 1
  read _ := .ok "\x7b\"typings\": \"./no.d.ts\", \"types\": \"./t.d.ts\"\x7d"

theorem tryPackage_eq_manifestDeclaration_twoFields :
    twoFields.exists? (Path.join "/p" manifestFile) = true ∧
    HoldsManifest twoFields (Path.join "/p" manifestFile)
      [("typings", .text "./no.d.ts"), ("types", .text "./t.d.ts")] ∧
    directiveDeclaration twoFields "/p" = .ok (some "/p/t.d.ts") ∧
    (declarationIn ⟨none, some "p", none⟩ "/p").answer twoFields = .ok (some "/p/t.d.ts") := by
  obtain ⟨object, -, -, both⟩ := tryPackage_eq_manifestDeclaration twoFields "/p"
  have there : twoFields.exists? (Path.join "/p" manifestFile) = true := by decide +kernel
  have holds : HoldsManifest twoFields (Path.join "/p" manifestFile)
      [("typings", .text "./no.d.ts"), ("types", .text "./t.d.ts")] := ⟨there, _, rfl, by rfl⟩
  have picked : directiveDeclaration twoFields "/p" = .ok (some "/p/t.d.ts") :=
    (object _ holds).trans (by rfl)
  exact ⟨there, holds, picked, (both there _ rfl).trans picked⟩

end ModuleResolution.Directive
