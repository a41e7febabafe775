import Mathlib.Data.List.Forall2
import ModuleResolution.Proofs.Dependency.OneFile
import ModuleResolution.Resolution

/-!
# Files are independent

What an index holds for a file, what the changes to the file answer and how the references in the
file are resolved depend only on what the file has seen: the changes to the file itself, the
changes to the whole index, and of every graph whether the file is one of its sources and which
record it holds for the file. Two histories that the file sees alike cannot be told apart through
the file (`file_independent`).

The proof goes through the machine of one file. Alike changes take alike states to alike states
and answer the same (`Alike.apply`), so alike histories do (`Alike.run`, `Alike.effects_eq`), and
resolution reads the index only through the references in the record of the file
(`resolve_congr`).
-/

set_option autoImplicit false

namespace ModuleResolution.Dependency

/-! ## Alike states and changes of one file -/

/-- Two states of a file with alike records. -/
structure FileState.Alike (s t : FileState) : Prop where
  record : Option.Rel Record.Alike s.record t.record
  tracked : s.tracked = t.tracked

/-- Two changes, seen by a file, of one kind and with alike records. -/
inductive FileEvent.Alike : FileEvent → FileEvent → Prop
  | add {r s : Record} (h : r.Alike s) : Alike (.add r) (.add s)
  | update {r s : Record} (h : r.Alike s) : Alike (.update r) (.update s)
  | remove : Alike .remove .remove
  | clear : Alike .clear .clear
  | sync {r s : Record} (isSource : Bool) (h : r.Alike s) :
      Alike (.sync isSource r) (.sync isSource s)
  | reset : Alike .reset .reset

namespace FileState.Alike

/-- Alike states are refreshed with alike records to alike states. -/
theorem refresh {s t : FileState} (h : s.Alike t) {r r' : Record} (hr : r.Alike r') :
    (s.refresh r).Alike (t.refresh r') := by
  obtain ⟨entry, tracked⟩ := s
  obtain ⟨entry', tracked'⟩ := t
  obtain ⟨hrecord, htracked⟩ := h
  cases hrecord with
  | none => exact ⟨.some hr, rfl⟩
  | some hold =>
    -- both sides compare alike, so both keep the old record or both take the new one
    refine ⟨?_, htracked⟩
    simp only [FileState.refresh, hold.same_eq hr]
    split
    · exact .some hold
    · exact .some hr

theorem release {s t : FileState} (h : s.Alike t) : s.release.Alike t.release := by
  obtain ⟨hrecord, htracked⟩ := h
  -- both sides track the file or neither does
  refine ⟨?_, rfl⟩
  simp only [FileState.release, htracked]
  split
  · exact .none
  · exact hrecord

/-- Alike changes answer the same and keep states alike. -/
theorem apply {s t : FileState} (h : s.Alike t) {d e : FileEvent} (hde : d.Alike e) :
    (s.apply d).1 = (t.apply e).1 ∧ (s.apply d).2.Alike (t.apply e).2 := by
  obtain ⟨entry, tracked⟩ := s
  obtain ⟨entry', tracked'⟩ := t
  have ⟨hrecord, htracked⟩ := h
  -- a change answers by whether the file is indexed, on which alike states agree
  cases hde with
  | add hr =>
    cases hrecord with
    | none => exact ⟨rfl, .some hr, htracked⟩
    | some hold => exact ⟨rfl, .some hold, htracked⟩
  | update hr =>
    cases hrecord with
    | none => exact ⟨rfl, .none, htracked⟩
    | some hold => exact ⟨rfl, .some hr, htracked⟩
  | remove =>
    cases hrecord with
    | none => exact ⟨rfl, .none, htracked⟩
    | some hold => exact ⟨rfl, .none, htracked⟩
  | clear => exact ⟨rfl, .none, htracked⟩
  | sync isSource hr =>
    refine ⟨rfl, ?_⟩
    cases isSource with
    | true => exact h.refresh hr
    | false => exact h.release
  | reset => exact ⟨rfl, .none, rfl⟩

/-- Alike histories keep states alike. -/
theorem run {s t : FileState} (h : s.Alike t) {history history' : List FileEvent}
    (same : List.Forall₂ FileEvent.Alike history history') :
    (s.run history).Alike (t.run history') := by
  induction same generalizing s t with
  | nil => exact h
  | cons hde _ ih => exact ih (h.apply hde).2

/-- Alike histories answer the same. -/
theorem effects_eq {s t : FileState} (h : s.Alike t) {history history' : List FileEvent}
    (same : List.Forall₂ FileEvent.Alike history history') :
    s.effects history = t.effects history' := by
  induction same generalizing s t with
  | nil => rfl
  | cons hde _ ih =>
    obtain ⟨answer, next⟩ := h.apply hde
    simp only [FileState.effects, answer, ih next]

end FileState.Alike

end ModuleResolution.Dependency

namespace ModuleResolution.Resolution

open Dependency (Event FileEvent FileState Index Record Synced)

/-! ## What resolution reads of an index -/

theorem fromRecord_congr {r s : Record} (h : r.Alike s) : fromRecord r = fromRecord s := by
  funext name
  unfold fromRecord
  rw [h name]

/-- The references in a file are resolved alike when alike records are indexed for the file. -/
theorem resolve_congr {index index' : Index} {file : String}
    (h : Option.Rel Record.Alike (index.get? file) (index'.get? file)) (request : Request) :
    resolve index file request = resolve index' file request := by
  -- the index is read at one point only, for the record of the file
  have all (names : List String) : resolveAll index file names = resolveAll index' file names := by
    unfold resolveAll
    generalize index.get? file = entry at h ⊢
    generalize index'.get? file = entry' at h ⊢
    cases h with
    | none => rfl
    | some alike => simp only [fromRecord_congr alike]
  unfold resolve
  simp only [all]

/-! ## Two histories -/

/-- Two histories of an empty index that a file sees alike agree in all that concerns the file:
whether it is indexed and with which record, what the changes to it have answered, and how the
references in it are resolved on any file system. -/
theorem file_independent (file : String) (history history' : List Event)
    (same : List.Forall₂ FileEvent.Alike (history.filterMap (Event.seenBy file))
      (history'.filterMap (Event.seenBy file))) :
    let index := (Synced.empty.run history).index
    let index' := (Synced.empty.run history').index
    index.has file = index'.has file ∧
      Option.Rel Record.Alike (index.get? file) (index'.get? file) ∧
      Synced.empty.effects file history = Synced.empty.effects file history' ∧
      ∀ (fs : FileSystem) (request : Request),
        (resolve index file request).run fs = (resolve index' file request).run fs := by
  intro index index'
  -- both histories start with the file missing and not tracked
  have start : (Synced.empty.fileState file).Alike (Synced.empty.fileState file) := ⟨.none, rfl⟩
  have states := start.run same
  rw [← Synced.fileState_run, ← Synced.fileState_run] at states
  have records : Option.Rel Record.Alike (index.get? file) (index'.get? file) := states.record
  refine ⟨?_, records, ?_, fun fs request => ?_⟩
  -- indexed or not: the entries are alike, so both are there or neither is
  · rw [Index.has_eq, Index.has_eq]
    generalize index.get? file = entry at records ⊢
    generalize index'.get? file = entry' at records ⊢
    cases records <;> rfl
  · rw [Synced.effects_eq, Synced.effects_eq, start.effects_eq same]
  · rw [resolve_congr records]

/-- A graph in which `/a.js` refers to `/b.js`, which may be a source file or not. -/
def neighbours (isSource : Bool) : Dependency.Graph :=
  (((Dependency.Graph.empty true).addNode (.path "/a.js") (some true)).addNode (.path "/b.js")
    (some isSource)).addEdge ⟨"/a.js", .path "/b.js", some "./b"⟩

/-- A history in which `/b.js` comes and goes. -/
def restless : List Event :=
  [.add "/b.js" [], .sync (neighbours true),
    .update "/a.js" [("./b", .path "/b.js"), ("x", .path "/x.js")], .remove "/b.js"]

/-- A history of `/a.js` alone, which has its references in another order. -/
def calm : List Event :=
  [.sync (neighbours false), .update "/a.js" [("x", .path "/x.js"), ("./b", .path "/b.js")]]

/-- What becomes of `/b.js` does not matter to `/a.js`. -/
theorem file_independent_of_neighbour :
    List.Forall₂ FileEvent.Alike (restless.filterMap (Event.seenBy "/a.js"))
        (calm.filterMap (Event.seenBy "/a.js")) ∧
      Synced.empty.effects "/a.js" restless = Synced.empty.effects "/a.js" calm ∧
      ∀ (fs : FileSystem) (request : Request),
        (resolve (Synced.empty.run restless).index "/a.js" request).run fs =
          (resolve (Synced.empty.run calm).index "/a.js" request).run fs := by
  have seen : restless.filterMap (Event.seenBy "/a.js") =
      [.sync true [("./b", .path "/b.js")],
        .update [("./b", .path "/b.js"), ("x", .path "/x.js")]] := rfl
  have seen' : calm.filterMap (Event.seenBy "/a.js") =
      [.sync true [("./b", .path "/b.js")],
        .update [("x", .path "/x.js"), ("./b", .path "/b.js")]] := rfl
  have swapped : Record.Alike [("./b", .path "/b.js"), ("x", .path "/x.js")]
      [("x", .path "/x.js"), ("./b", .path "/b.js")] := by
    intro reference
    by_cases hb : "./b" = reference
    · subst hb
      rfl
    · by_cases hx : "x" = reference <;> simp [Table.get?, hb, hx]
  have same : List.Forall₂ FileEvent.Alike (restless.filterMap (Event.seenBy "/a.js"))
      (calm.filterMap (Event.seenBy "/a.js")) := by
    rw [seen, seen']
    exact .cons (.sync true fun _ => rfl) (.cons (.update swapped) .nil)
  obtain ⟨-, -, answered, resolved⟩ := file_independent "/a.js" restless calm same
  exact ⟨same, answered, resolved⟩

end ModuleResolution.Resolution
