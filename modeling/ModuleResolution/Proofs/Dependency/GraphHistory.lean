import Mathlib.Data.List.Induction
import ModuleResolution.Proofs.Dependency.OneFile

/-!
# An index after a history of graphs

An index is brought in line with one graph after the other, by a sync that has added nothing
before and with no other changes in between. The result depends on the history only through the
last graph and, for files that were indexed at the start, through the last graph that had the file
among its sources (`get?_syncAll`). The syncs of an index that was empty at the start leave the
index of the last graph, whatever graphs came before.

The invariant ties what a sync tracks to what was there at the start: a file that was indexed at
the start is never tracked and never lost, and any other file is tracked exactly while it is
indexed (`settled_syncs`).
-/

set_option autoImplicit false

namespace ModuleResolution.Dependency

/-- The record of a file in the last graph that has the file among its sources. -/
def lastRecord? (graphs : List Graph) (file : String) : Option Record :=
  (graphs.reverse.find? fun g => file ∈ g.sourceFiles).map fun g => g.record file

/-- A sync that has added nothing yet, over an index that others have filled. -/
def Index.shared (start : Index) : Synced :=
  ⟨start, []⟩

/-- An index after syncs with graphs, one after the other. -/
def Index.syncAll (start : Index) (graphs : List Graph) : Index :=
  (start.shared.run (graphs.map .sync)).index

theorem lastRecord?_append (graphs : List Graph) (g : Graph) (file : String) :
    lastRecord? (graphs ++ [g]) file =
      if file ∈ g.sourceFiles then some (g.record file) else lastRecord? graphs file := by
  unfold lastRecord?
  rw [List.reverse_append, List.reverse_singleton, List.singleton_append]
  by_cases h : file ∈ g.sourceFiles <;> simp [h]

/-- What syncs with some graphs leave of a file that had the record `start` before. -/
def Settled (start : Option Record) (graphs : List Graph) (file : String) (s : FileState) : Prop :=
  match start with
  | some old =>
    s.tracked = false ∧ Option.Rel Record.Same s.record (some ((lastRecord? graphs file).getD old))
  | none => s.tracked = s.record.isSome

/-- One more sync keeps a file settled. -/
theorem Settled.sync {start : Option Record} {graphs : List Graph} {file : String} {s : Synced}
    (h : Settled start graphs file (s.fileState file)) (g : Graph) :
    Settled start (graphs ++ [g]) file ((s.sync g).2.fileState file) := by
  rw [Synced.fileState_sync]
  generalize s.fileState file = t at h ⊢
  cases start with
  | some old =>
    obtain ⟨untracked, kept⟩ := h
    by_cases hg : file ∈ g.sourceFiles
    -- a file that is indexed is refreshed without being tracked
    · have present : t.record.isNone = false := by
        cases ht : t.record with
        | none => simp [ht] at kept
        | some r => rfl
      refine ⟨?_, ?_⟩
      · simp [hg, FileState.refresh_tracked, present, untracked]
      · simpa [lastRecord?_append, hg] using FileState.refresh_record (g.record file) t
    -- a file that is not tracked is released without being dropped
    · refine ⟨by simp [hg, FileState.release], ?_⟩
      simpa [lastRecord?_append, hg, FileState.release, untracked] using kept
  | none =>
    -- tracked and indexed go together: a refresh makes both true, a release makes both false
    have tied : t.tracked = t.record.isSome := h
    by_cases hg : file ∈ g.sourceFiles
    · rw [if_pos hg]
      have refreshed := FileState.refresh_record (g.record file) t
      cases hr : (t.refresh (g.record file)).record with
      | none => simp [hr] at refreshed
      | some r =>
        cases ht : t.record <;>
          simp [Settled, FileState.refresh_tracked, tied, ht, hr]
    · cases ht : t.record <;> simp [Settled, FileState.release, hg, tied, ht]

/-- Syncs with any graphs keep every file settled. -/
theorem settled_syncs (start : Index) (graphs : List Graph) (file : String) :
    Settled (start.get? file) graphs file
      ((start.shared.run (graphs.map .sync)).fileState file) := by
  -- on the graphs from the last one, since the invariant is about the graphs given so far
  induction graphs using List.reverseRecOn with
  | nil =>
    cases h : start.get? file with
    | some old =>
      refine ⟨rfl, ?_⟩
      simpa [Synced.run, Synced.fileState, Index.shared, lastRecord?, h] using Record.Same.refl old
    | none => simp [Settled, Synced.run, Synced.fileState, Index.shared, h]
  | append_singleton graphs g ih =>
    rw [List.map_append, Synced.run_append]
    exact ih.sync g

theorem Graph.get?_index (g : Graph) (file : String) :
    g.index.get? file = if file ∈ g.sourceFiles then some (g.record file) else none := by
  -- the index of a graph is that of a single sync over the empty index
  have h := Synced.fileState_sync g file Synced.empty
  have e : g.index.get? file = ((Synced.empty.sync g).2.fileState file).record := rfl
  rw [e, h]
  by_cases hg : file ∈ g.sourceFiles <;> simp [hg] <;> rfl

/-- An index after a history of graphs. A source of the last graph has its record there; any other
file is indexed only if it was so at the start, and then keeps the last record that a graph had for
it. From the empty index the history leaves the index of the last graph. Records are the same here
as a sync compares them: a sync keeps an old record that compares as the same. -/
theorem get?_syncAll (start : Index) (earlier : List Graph) (last : Graph) (file : String) :
    Option.Rel Record.Same ((start.syncAll (earlier ++ [last])).get? file)
        (if file ∈ last.sourceFiles then some (last.record file)
        else if start.has file then (lastRecord? earlier file).or (start.get? file)
        else none) ∧
      Option.Rel Record.Same ((Index.empty.syncAll (earlier ++ [last])).get? file)
        (last.index.get? file) := by
  have settled (start : Index) : Option.Rel Record.Same
      ((start.syncAll (earlier ++ [last])).get? file)
      (if file ∈ last.sourceFiles then some (last.record file)
      else if start.has file then (lastRecord? earlier file).or (start.get? file)
      else none) := by
    -- the earlier graphs leave the file settled, and the last one is a single step from there
    have h := settled_syncs start earlier file
    have e : (start.syncAll (earlier ++ [last])).get? file =
        (((start.shared.run (earlier.map .sync)).sync last).2.fileState file).record := by
      rw [Index.syncAll, List.map_append, Synced.run_append]
      rfl
    rw [e, Synced.fileState_sync, Index.has_eq]
    generalize (start.shared.run (earlier.map .sync)).fileState file = t at h ⊢
    by_cases hl : file ∈ last.sourceFiles
    · simpa [hl] using FileState.refresh_record (last.record file) t
    · cases hs : start.get? file with
      | some old =>
        rw [hs] at h
        obtain ⟨untracked, kept⟩ := h
        simpa [hl, FileState.release, untracked, Option.or_some] using kept
      | none =>
        rw [hs] at h
        have tied : t.tracked = t.record.isSome := h
        cases ht : t.record <;> simp [hl, FileState.release, tied, ht]
  refine ⟨settled start, ?_⟩
  have absent : Index.empty.has file = false := rfl
  rw [Graph.get?_index]
  simpa [absent] using settled Index.empty

end ModuleResolution.Dependency
