import ModuleResolution.Proofs.Lookup.Reads
import ModuleResolution.Proofs.Package.Search

/-!
# Consulted manifests

A lookup reads manifests only, and a manifest that it cannot use ends it. `ReportsManifests` says
so of a lookup on a file system: every file that it reads is a manifest found to be there, it fails
only with the failure of a manifest that it has read, and it fails with that failure whenever there
is one. Failures of other kinds that a lookup may end with are named by a predicate.

The property is closed under sequencing (`ReportsManifests.bind`), so it holds of the search for a
declaration file because it holds of each probe (`reportsManifests_findDeclaration`).
-/

set_option autoImplicit false

namespace ModuleResolution.Package

open Lookup (ReadFree)

/-- The path of the manifest of a directory. -/
def IsManifestPath (path : String) : Prop :=
  ∃ dir, path = Path.join dir manifestFile

/-- A lookup that reads manifests only, and reports those that it cannot use. It may end with other
failures too, as far as `others` allows them. -/
structure ReportsManifests {α : Type} (fs : FileSystem) (others : Failure → Prop) (x : Lookup α) :
    Prop where
  consulted : ∀ path ∈ x.reads fs, IsManifestPath path ∧ fs.exists? path = true
  raised : ∀ failure, x.answer fs = .error failure →
    (∃ path ∈ x.reads fs, (readManifest path).answer fs = .error failure) ∨ others failure
  reported : ∀ path ∈ x.reads fs, ∀ failure,
    (readManifest path).answer fs = .error failure → x.answer fs = .error failure

namespace ReportsManifests

variable {α β : Type} {fs : FileSystem} {others : Failure → Prop}

/-- A lookup that reads nothing and has an answer has nothing to report. -/
theorem of_answer {x : Lookup α} (free : ReadFree x) {a : α} (h : x.answer fs = .ok a) :
    ReportsManifests fs others x where
  consulted path hpath := by
    rw [free.reads_eq_nil] at hpath
    cases hpath
  raised failure failed := by
    rw [h] at failed
    cases failed
  reported path hpath := by
    rw [free.reads_eq_nil] at hpath
    cases hpath

theorem pure (a : α) : ReportsManifests fs others (Pure.pure a : Lookup α) :=
  .of_answer (.pure a) rfl

theorem exists? (path : String) : ReportsManifests fs others (Lookup.exists? path) :=
  .of_answer (.exists? path) rfl

theorem trace (line : String) : ReportsManifests fs others (Lookup.trace line) :=
  .of_answer (.note (.done ())) rfl

theorem fail {failure : Failure} (h : others failure) :
    ReportsManifests fs others (.fail failure : Lookup α) where
  consulted path hpath := by cases hpath
  raised other failed := by
    rw [Lookup.answer_fail] at failed
    cases failed
    exact .inr h
  reported path hpath := by cases hpath

/-- A lookup in two steps reports the manifests of both. -/
theorem bind {x : Lookup α} {f : α → Lookup β} (hx : ReportsManifests fs others x)
    (hf : ∀ a, x.answer fs = .ok a → ReportsManifests fs others (f a)) :
    ReportsManifests fs others (x >>= f) := by
  cases h : x.answer fs with
  | error failure =>
    have whole : (x >>= f).answer fs = .error failure := by simp [h]
    have read := Lookup.reads_bind_of_error h f
    refine ⟨fun path hpath => ?_, fun other failed => ?_, fun path hpath other broken => ?_⟩
    · rw [read] at hpath
      exact hx.consulted path hpath
    · rw [read]
      rw [whole] at failed
      cases failed
      exact hx.raised failure h
    · rw [read] at hpath
      have failed := hx.reported path hpath other broken
      rw [h] at failed
      cases failed
      exact whole
  | ok a =>
    have second := hf a h
    have whole : (x >>= f).answer fs = (f a).answer fs := by simp [h]
    have read := Lookup.reads_bind_of_ok h f
    refine ⟨fun path hpath => ?_, fun other failed => ?_, fun path hpath other broken => ?_⟩
    · rw [read] at hpath
      rcases List.mem_append.1 hpath with hpath | hpath
      · exact hx.consulted path hpath
      · exact second.consulted path hpath
    · rw [read]
      rw [whole] at failed
      rcases second.raised other failed with ⟨path, hpath, broken⟩ | foreign
      · exact .inl ⟨path, List.mem_append_right _ hpath, broken⟩
      · exact .inr foreign
    · rw [read] at hpath
      rcases List.mem_append.1 hpath with hpath | hpath
      -- the first step has an answer, so all manifests that it has read were in order
      · have failed := hx.reported path hpath other broken
        rw [h] at failed
        cases failed
      · rw [whole]
        exact second.reported path hpath other broken

end ReportsManifests

section Search

variable {fs : FileSystem} {others : Failure → Prop}

theorem reads_readManifest (fs : FileSystem) (path : String) :
    (readManifest path).reads fs = [path] := by
  rw [readManifest, Lookup.reads_bind, Lookup.reads_read]
  cases (Lookup.read path).answer fs <;> simp [Lookup.reads_bind]

/-- A manifest that is there may be read. -/
theorem reportsManifests_readManifest {path : String} (manifest : IsManifestPath path)
    (there : fs.exists? path = true) : ReportsManifests fs others (readManifest path) := by
  refine ⟨fun other hother => ?_, fun failure failed => ?_, fun other hother failure broken => ?_⟩
  · rw [reads_readManifest, List.mem_singleton] at hother
    exact hother ▸ ⟨manifest, there⟩
  · exact .inl ⟨path, by rw [reads_readManifest]; exact List.mem_singleton_self path, failed⟩
  · rw [reads_readManifest, List.mem_singleton] at hother
    exact hother ▸ broken

theorem reportsManifests_firstExisting (paths : List String) :
    ReportsManifests fs others (firstExisting paths) :=
  .of_answer (readFree_firstExisting paths) (answer_firstExisting fs paths)

theorem reportsManifests_declarationIn (ref : Reference) {packageDir : String}
    (there : fs.exists? (Path.join packageDir manifestFile) = true) :
    ReportsManifests fs others (declarationIn ref packageDir) := by
  unfold declarationIn
  cases ref.subpath with
  | some subpath => exact reportsManifests_firstExisting _
  | none =>
    exact (reportsManifests_readManifest ⟨packageDir, rfl⟩ there).bind fun manifest _ =>
      reportsManifests_firstExisting _

variable {ref : Reference} (named : ref.isNamed = true) (scope : ref.scope ≠ some "")
include named scope

theorem reportsManifests_probeDirectory (variant : Variant) (dir : String) :
    ReportsManifests fs others (probeDirectory ref variant dir) := by
  unfold probeDirectory
  split
  · exact .pure Walk.Step.climb
  · rw [root_eq_ok named scope]
    refine .bind (.of_answer (.ofExcept _) (Lookup.answer_ofExcept fs _)) fun packageDir _ => ?_
    refine .bind (.exists? _) fun found answered => ?_
    cases found with
    | false => exact .pure Walk.Step.climb
    | true =>
      -- the manifest is read only behind this answer
      rw [Lookup.answer_exists?, Except.ok.injEq] at answered
      refine .bind (reportsManifests_declarationIn ref answered) fun file _ => ?_
      cases file with
      | none => exact .pure Walk.Step.stop
      | some path => exact .pure (Walk.Step.found path)

theorem reportsManifests_along (variant : Variant) (dirs : List String) :
    ReportsManifests fs others (Walk.along (probeDirectory ref variant) dirs) := by
  induction dirs with
  | nil => exact .pure none
  | cons dir dirs ih =>
    refine .bind (reportsManifests_probeDirectory named scope variant dir) fun step _ => ?_
    cases step with
    | climb => exact ih
    | found path => exact .pure (some path)
    | stop => exact .pure none

/-- The search for the declaration file of a named reference reports the manifests that it
consults. -/
theorem reportsManifests_findDeclaration (searchRoot : String) (variant : Variant) :
    ReportsManifests fs others (findDeclaration ref searchRoot variant) := by
  unfold findDeclaration
  rw [named]
  change ReportsManifests fs others (boundary searchRoot >>= _)
  refine .bind (reportsManifests_firstExisting _) fun found _ => ?_
  cases found with
  | none => exact .pure none
  | some manifest => exact reportsManifests_along named scope variant _

end Search

end ModuleResolution.Package
