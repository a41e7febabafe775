import ModuleResolution.Dependency.Graph

/-!
# Keeping an index in step with a graph

A sync gives every source file of a graph the record that the graph holds for it.
It remembers which files it has added itself: those are removed once they have
left the graph, all others are only ever updated.
-/

set_option autoImplicit false

namespace ModuleResolution.Dependency

/-- An index together with the files in it that syncs have added. -/
structure Synced where
  index : Index
  tracked : List String
  deriving Repr, Inhabited

/-- What one sync did, in numbers of files. -/
structure SyncCounts where
  added : Nat
  updated : Nat
  removed : Nat
  unchanged : Nat
  deriving DecidableEq, Repr

namespace Synced

/-- No files indexed and none tracked. -/
def empty : Synced := ⟨.empty, []⟩

/-- Brings the record of one source file up to date. -/
def syncFile (g : Graph) (counts : SyncCounts) (s : Synced) (file : String) :
    SyncCounts × Synced :=
  let record := g.record file
  match s.index.get? file with
  | none =>
    let tracked := if s.tracked.contains file then s.tracked else s.tracked ++ [file]
    ({ counts with added := counts.added + 1 }, ⟨(s.index.add file record).2, tracked⟩)
  | some old =>
    if Record.same old record then ({ counts with unchanged := counts.unchanged + 1 }, s)
    else
      ({ counts with updated := counts.updated + 1 },
        { s with index := (s.index.update file record).2 })

/-- Removes one file that has left the graph. -/
def dropFile (counts : SyncCounts) (index : Index) (file : String) : SyncCounts × Index :=
  let (removed, index) := index.remove file
  (if removed then { counts with removed := counts.removed + 1 } else counts, index)

/-- Brings the index in line with a graph. -/
def sync (g : Graph) (s : Synced) : SyncCounts × Synced :=
  let sources := g.sourceFiles
  let (counts, s) :=
    sources.foldl (fun (counts, s) file => syncFile g counts s file) (⟨0, 0, 0, 0⟩, s)
  let (gone, kept) := s.tracked.partition fun file => !sources.contains file
  let (counts, index) :=
    gone.foldl (fun (counts, index) file => dropFile counts index file) (counts, s.index)
  (counts, ⟨index, kept⟩)

end Synced

/-- The index of a graph on its own. -/
def Graph.index (g : Graph) : Index :=
  (Synced.empty.sync g).2.index

/-! ## Histories -/

/-- A change to an index: by its owner, or by the sync that shares it. -/
inductive Event where
  | add (file : String) (record : Record)
  | update (file : String) (record : Record)
  | remove (file : String)
  | clear
  | sync (g : Graph)
  | reset

/-- What a change answers. -/
inductive Answer where
  | none
  | effect (b : Bool)
  | counts (counts : SyncCounts)
  deriving DecidableEq, Repr

/-- One change. Clearing forgets the records; a reset forgets also what was tracked. -/
def Synced.apply (s : Synced) : Event → Answer × Synced
  | .add file record =>
    let (done, index) := s.index.add file record
    (.effect done, { s with index })
  | .update file record =>
    let (done, index) := s.index.update file record
    (.effect done, { s with index })
  | .remove file =>
    let (done, index) := s.index.remove file
    (.effect done, { s with index })
  | .clear => (.none, { s with index := .empty })
  | .sync g =>
    let (counts, s) := s.sync g
    (.counts counts, s)
  | .reset => (.none, .empty)

end ModuleResolution.Dependency
