import ModuleResolution.Proofs.Dependency.MapGraph
import ModuleResolution.Proofs.Dependency.OneFile

/-!
# The effect of one sync

A sync runs through the source files of a graph and then through the tracked files that have left
the graph. Both are sets, and their order is open: `SyncsTo` relates a state to every result that
some order gives. `SyncEffect` says what a sync does, file by file and in its counts, without
running through anything, and every result has this effect (`syncsTo_effect`). The state before may
be any index together with any tracked files, whether these are indexed or not. A second sync with
the same graph finds nothing to do, in any order.

What a sync leaves of one file is known from `Synced.fileState_sync` and its lemmas on the two
loops. Here the loops are counted: as long as each file comes up once, what a loop does to a file is
decided by the state before the loop (`counts_foldl_syncFile`, `counts_foldl_dropFile`).
-/

set_option autoImplicit false

namespace ModuleResolution

/-! ## Sizes of tables -/

namespace Table

variable {α : Type} {t : Table α} {name : String}

theorem has_iff_mem_keys : t.has name = true ↔ name ∈ t.keys :=
  mem_keys_iff.symm

theorem length_keys (t : Table α) : t.keys.length = t.length :=
  List.length_map _

theorem keys_insert (t : Table α) (name : String) (v : α) :
    (t.insert name v).keys = if t.has name then t.keys else t.keys ++ [name] := by
  induction t with
  | nil => rfl
  | cons entry rest ih =>
    obtain ⟨key, old⟩ := entry
    by_cases h : key = name
    · simp [insert, has, get?, keys, h]
    · simp only [insert, has, get?, keys, h, if_false, List.map_cons] at ih ⊢
      rw [ih]
      by_cases held : (get? rest name).isSome = true <;> simp [held]

theorem nodup_keys_insert (distinct : t.keys.Nodup) (v : α) : (t.insert name v).keys.Nodup := by
  rw [keys_insert]
  split
  · exact distinct
  · rename_i fresh
    rw [has_iff_mem_keys] at fresh
    rw [← List.concat_eq_append]
    exact distinct.concat fresh

theorem keys_erase (distinct : t.keys.Nodup) (name : String) :
    (t.erase name).keys = t.keys.erase name := by
  rw [distinct.erase_eq_filter, keys, keys, erase, List.filter_map]
  refine congrArg (List.map Prod.fst) (List.filter_congr fun entry _ => ?_)
  by_cases h : entry.1 = name <;> simp [h]

theorem length_insert (t : Table α) (name : String) (v : α) :
    (t.insert name v).length = t.length + if t.has name then 0 else 1 := by
  rw [← length_keys, keys_insert, ← length_keys t]
  cases t.has name <;> simp

/-- Removing a name makes a table with distinct names shorter by one, if it has the name. -/
theorem length_erase (distinct : t.keys.Nodup) (name : String) :
    (t.erase name).length + (if t.has name then 1 else 0) = t.length := by
  rw [← length_keys, keys_erase distinct, List.length_erase, ← length_keys t]
  by_cases member : name ∈ t.keys
  · have positive := List.length_pos_of_mem member
    rw [if_pos member, if_pos (has_iff_mem_keys.2 member)]
    omega
  · rw [if_neg member, if_neg (mt has_iff_mem_keys.1 member), Nat.add_zero]

end Table

namespace Dependency

/-! ## Orders and results -/

/-- A list that runs through a set, each member once. -/
structure Enumerates (order : List String) (members : Finset String) : Prop where
  nodup : order.Nodup
  toFinset_eq : order.toFinset = members

/-- A count along an order is a count of members. -/
theorem Enumerates.countP_eq {order : List String} {members : Finset String}
    (h : Enumerates order members) (p : String → Bool) :
    order.countP p = (members.filter fun file => p file).card := by
  rw [List.countP_eq_length_filter, ← h.toFinset_eq, ← List.toFinset_filter,
    List.toFinset_card_of_nodup (h.nodup.filter p)]

theorem Enumerates.mem_iff {order : List String} {members : Finset String}
    (h : Enumerates order members) (file : String) : file ∈ order ↔ file ∈ members := by
  rw [← h.toFinset_eq, List.mem_toFinset]

/-- The source files of a graph as a set. -/
def Graph.sources (g : Graph) : Finset String :=
  g.sourceFiles.toFinset

namespace Synced

/-- The tracked files as a set. -/
def trackedSet (s : Synced) : Finset String :=
  s.tracked.toFinset

/-- A sync that goes through the source files, and through the files that have left, in a given
order. -/
def syncInOrder (g : Graph) (sources gone : List String) (s : Synced) : SyncCounts × Synced :=
  let updated := sources.foldl (fun p file => syncFile g p.1 p.2 file) (⟨0, 0, 0, 0⟩, s)
  let dropped := gone.foldl (fun p file => dropFile p.1 p.2 file) (updated.1, updated.2.index)
  (dropped.1, ⟨dropped.2, updated.2.tracked.filter g.sourceFiles.contains⟩)

/-- The results of a sync, for all orders of the source files and of the tracked files that have
left the graph. -/
def SyncsTo (s : Synced) (g : Graph) (r : SyncCounts × Synced) : Prop :=
  ∃ sources gone, Enumerates sources g.sources ∧ Enumerates gone (s.trackedSet \ g.sources) ∧
    r = s.syncInOrder g sources gone

end Synced

/-! ## The effect -/

/-- An indexed file whose record is not the one that a graph holds for it. -/
def Index.isOutdated (g : Graph) (index : Index) (file : String) : Bool :=
  (index.get? file).any fun old => !Record.same old (g.record file)

/-- What a sync with a graph does to an index and the tracked files. -/
structure SyncEffect (g : Graph) (s : Synced) (r : SyncCounts × Synced) : Prop where
  source : ∀ file ∈ g.sources, Option.Rel Record.Same (r.2.index.get? file) (some (g.record file))
  other : ∀ file ∉ g.sources,
    r.2.index.get? file = if file ∈ s.trackedSet then none else s.index.get? file
  tracked : r.2.trackedSet = g.sources.filter fun file => file ∈ s.trackedSet ∨ !s.index.has file
  added : r.1.added = (g.sources.filter fun file => !s.index.has file).card
  updated : r.1.updated = (g.sources.filter fun file => s.index.isOutdated g file).card
  unchanged : r.1.unchanged =
    (g.sources.filter fun file => s.index.has file && !s.index.isOutdated g file).card
  removed : r.1.removed = ((s.trackedSet \ g.sources).filter fun file => s.index.has file).card

/-! ## Sizes of indexes -/

namespace Index

variable {index : Index} {file : String}

theorem size_add (index : Index) (file : String) (record : Record) :
    (index.add file record).2.size = index.size + if !index.has file then 1 else 0 := by
  unfold add
  cases fresh : index.has file with
  | true => rfl
  | false =>
    have longer := Table.length_insert index.records file record
    rw [← has, fresh] at longer
    exact longer

theorem size_update (index : Index) (file : String) (record : Record) :
    (index.update file record).2.size = index.size := by
  unfold update
  cases present : index.has file with
  | true =>
    have kept := Table.length_insert index.records file record
    rw [← has, present] at kept
    exact kept
  | false => rfl

theorem nodup_files_add (distinct : index.files.Nodup) (file : String) (record : Record) :
    (index.add file record).2.files.Nodup := by
  unfold add
  cases index.has file with
  | true => exact distinct
  | false => exact Table.nodup_keys_insert distinct record

theorem nodup_files_update (distinct : index.files.Nodup) (file : String) (record : Record) :
    (index.update file record).2.files.Nodup := by
  unfold update
  cases index.has file with
  | true => exact Table.nodup_keys_insert distinct record
  | false => exact distinct

theorem nodup_files_remove (distinct : index.files.Nodup) (file : String) :
    (index.remove file).2.files.Nodup := by
  unfold remove
  cases index.has file with
  | true =>
    show (index.records.erase file).keys.Nodup
    rw [Table.keys_erase distinct]
    exact distinct.erase file
  | false => exact distinct

theorem size_remove (distinct : index.files.Nodup) (file : String) :
    (index.remove file).2.size + (if index.has file then 1 else 0) = index.size := by
  unfold remove
  cases present : index.has file with
  | true =>
    have shorter := Table.length_erase distinct file
    rw [← has, present] at shorter
    exact shorter
  | false => rfl

end Index

namespace Synced

/-! ## The loop over the source files -/

section Sources

variable (g : Graph) (counts : SyncCounts) (s : Synced) (file : String)

theorem get?_syncFile_of_ne {other : String} (h : other ≠ file) :
    (syncFile g counts s file).2.index.get? other = s.index.get? other := by
  have seen := congrArg FileState.record (fileState_syncFile g other counts s file)
  rwa [if_neg (Ne.symm h)] at seen

/-- Bringing one file up to date counts it under what was to be done for it. -/
theorem counts_syncFile :
    (syncFile g counts s file).1 =
      ⟨counts.added + if !s.index.has file then 1 else 0,
        counts.updated + if s.index.isOutdated g file then 1 else 0, counts.removed,
        counts.unchanged + if s.index.has file && !s.index.isOutdated g file then 1 else 0⟩ := by
  rw [syncFile, Index.has_eq, Index.isOutdated]
  cases s.index.get? file with
  | none => rfl
  | some old => cases same : Record.same old (g.record file) <;> simp [same]

/-- A loop over files counts each of them under what was to be done for it before the loop. -/
theorem counts_foldl_syncFile (sources : List String) (nodup : sources.Nodup) :
    (sources.foldl (fun p file => syncFile g p.1 p.2 file) (counts, s)).1 =
      ⟨counts.added + sources.countP (fun file => !s.index.has file),
        counts.updated + sources.countP (s.index.isOutdated g), counts.removed,
        counts.unchanged +
          sources.countP fun file => s.index.has file && !s.index.isOutdated g file⟩ := by
  induction sources generalizing counts s with
  | nil => rfl
  | cons file sources ih =>
    obtain ⟨fresh, nodup⟩ := List.nodup_cons.1 nodup
    -- the files that are still to come have not been touched
    have kept : ∀ other ∈ sources,
        (syncFile g counts s file).2.index.get? other = s.index.get? other := by
      intro other member
      exact get?_syncFile_of_ne g counts s file fun same => fresh (same ▸ member)
    have fresh_eq : sources.countP (fun other => !(syncFile g counts s file).2.index.has other) =
        sources.countP fun other => !s.index.has other :=
      List.countP_congr fun other member => by rw [Index.has_eq, Index.has_eq, kept other member]
    have outdated_eq : sources.countP ((syncFile g counts s file).2.index.isOutdated g) =
        sources.countP (s.index.isOutdated g) :=
      List.countP_congr fun other member => by
        rw [Index.isOutdated, Index.isOutdated, kept other member]
    have current_eq : sources.countP (fun other => (syncFile g counts s file).2.index.has other &&
          !(syncFile g counts s file).2.index.isOutdated g other) =
        sources.countP fun other => s.index.has other && !s.index.isOutdated g other :=
      List.countP_congr fun other member => by
        rw [Index.has_eq, Index.has_eq, Index.isOutdated, Index.isOutdated, kept other member]
    rw [List.foldl_cons, ih _ _ nodup, fresh_eq, outdated_eq, current_eq, counts_syncFile]
    simp only [List.countP_cons, Nat.add_assoc, Nat.add_comm (ite _ 1 0)]

/-- Bringing one file up to date makes the index longer by what it counts as added. -/
theorem size_syncFile :
    (syncFile g counts s file).2.index.size + counts.added =
      s.index.size + (syncFile g counts s file).1.added := by
  rw [counts_syncFile, syncFile]
  cases indexed : s.index.get? file with
  | none =>
    have fresh : s.index.has file = false := by rw [Index.has_eq, indexed]; rfl
    simp only [fresh, Index.size_add]
    omega
  | some old =>
    have present : s.index.has file = true := by rw [Index.has_eq, indexed]; rfl
    cases same : Record.same old (g.record file) <;> simp [same, present, Index.size_update]

theorem size_foldl_syncFile (sources : List String) :
    (sources.foldl (fun p file => syncFile g p.1 p.2 file) (counts, s)).2.index.size +
        counts.added =
      s.index.size +
        (sources.foldl (fun p file => syncFile g p.1 p.2 file) (counts, s)).1.added := by
  induction sources generalizing counts s with
  | nil => rfl
  | cons file sources ih =>
    have step := size_syncFile g counts s file
    have further := ih (syncFile g counts s file).1 (syncFile g counts s file).2
    rw [Prod.mk.eta] at further
    rw [List.foldl_cons]
    dsimp only at further ⊢
    omega

theorem nodup_files_syncFile (distinct : s.index.files.Nodup) :
    (syncFile g counts s file).2.index.files.Nodup := by
  rw [syncFile]
  cases s.index.get? file with
  | none => exact Index.nodup_files_add distinct file _
  | some old =>
    cases same : Record.same old (g.record file) with
    | true => simpa [same] using distinct
    | false => simpa [same] using Index.nodup_files_update distinct file _

theorem nodup_files_foldl_syncFile (distinct : s.index.files.Nodup) (sources : List String) :
    (sources.foldl (fun p file => syncFile g p.1 p.2 file) (counts, s)).2.index.files.Nodup := by
  induction sources generalizing counts s with
  | nil => exact distinct
  | cons file sources ih => exact ih _ _ (nodup_files_syncFile g counts s file distinct)

end Sources

/-! ## The loop over the files that have left -/

section Gone

variable (counts : SyncCounts) (index : Index)

theorem counts_dropFile (file : String) :
    (dropFile counts index file).1 =
      { counts with removed := counts.removed + if index.has file then 1 else 0 } := by
  rw [dropFile, Index.remove]
  cases index.has file <;> rfl

/-- A loop over files counts those that were indexed before the loop. -/
theorem counts_foldl_dropFile (gone : List String) (nodup : gone.Nodup) :
    (gone.foldl (fun p file => dropFile p.1 p.2 file) (counts, index)).1 =
      { counts with removed := counts.removed + gone.countP index.has } := by
  induction gone generalizing counts index with
  | nil => rfl
  | cons file gone ih =>
    obtain ⟨fresh, nodup⟩ := List.nodup_cons.1 nodup
    have kept : ∀ other ∈ gone, (dropFile counts index file).2.has other = index.has other := by
      intro other member
      have hne : other ≠ file := fun same => fresh (same ▸ member)
      have dropped : (dropFile counts index file).2 = (index.remove file).2 := rfl
      rw [Index.has_eq, Index.has_eq, dropped, Index.get?_remove_of_ne hne]
    rw [List.foldl_cons, ih _ _ nodup, List.countP_congr fun other member => by rw [kept other member],
      counts_dropFile, List.countP_cons]
    simp only [Nat.add_assoc, Nat.add_comm (ite _ 1 0)]

/-- Removing files makes the index shorter by what is counted as removed. -/
theorem size_foldl_dropFile (distinct : index.files.Nodup) (gone : List String) :
    (gone.foldl (fun p file => dropFile p.1 p.2 file) (counts, index)).2.size +
        (gone.foldl (fun p file => dropFile p.1 p.2 file) (counts, index)).1.removed =
      index.size + counts.removed := by
  induction gone generalizing counts index with
  | nil => rfl
  | cons file gone ih =>
    have step : (dropFile counts index file).2.size + (if index.has file then 1 else 0) =
        index.size := Index.size_remove distinct file
    have counted := congrArg SyncCounts.removed (counts_dropFile counts index file)
    have further := ih (dropFile counts index file).1 (dropFile counts index file).2
      (Index.nodup_files_remove distinct file)
    rw [Prod.mk.eta] at further
    rw [List.foldl_cons]
    dsimp only at counted further ⊢
    omega

end Gone

/-! ## A sync in any order -/

section Order

variable {g : Graph} {s : Synced} {sources gone : List String}

theorem get?_syncInOrder (file : String) :
    (s.syncInOrder g sources gone).2.index.get? file =
      if file ∈ gone then none
      else if file ∈ sources then ((s.fileState file).refresh (g.record file)).record
      else s.index.get? file := by
  have updated := congrArg FileState.record
    (fileState_foldl_syncFile g file sources ⟨0, 0, 0, 0⟩ s)
  rw [syncInOrder, get?_foldl_dropFile]
  split
  · rfl
  · split <;> simp_all [fileState]

theorem mem_tracked_syncInOrder (file : String) :
    file ∈ (s.syncInOrder g sources gone).2.tracked ↔
      file ∈ g.sources ∧
        (if file ∈ sources then (s.fileState file).refresh (g.record file)
          else s.fileState file).tracked = true := by
  rw [← fileState_foldl_syncFile g file sources ⟨0, 0, 0, 0⟩ s]
  simp [syncInOrder, Graph.sources, fileState, and_comm]

/-- The counts of a sync are those of the state before it. -/
theorem counts_syncInOrder (g : Graph) (s : Synced) (hsources : sources.Nodup) (hgone : gone.Nodup)
    (apart : ∀ file ∈ gone, file ∉ sources) :
    (s.syncInOrder g sources gone).1 =
      ⟨sources.countP (fun file => !s.index.has file), sources.countP (s.index.isOutdated g),
        gone.countP s.index.has,
        sources.countP fun file => s.index.has file && !s.index.isOutdated g file⟩ := by
  -- a file that has left is not touched by the first loop
  have kept : ∀ file ∈ gone,
      (sources.foldl (fun p file => syncFile g p.1 p.2 file) (⟨0, 0, 0, 0⟩, s)).2.index.has file =
        s.index.has file := by
    intro file member
    have seen := fileState_foldl_syncFile g file sources ⟨0, 0, 0, 0⟩ s
    rw [if_neg (apart file member)] at seen
    rw [has_eq, has_eq, seen]
  rw [syncInOrder, counts_foldl_dropFile _ _ gone hgone,
    List.countP_congr fun file member => by rw [kept file member],
    counts_foldl_syncFile g _ s sources hsources]
  simp only [Nat.zero_add]

theorem size_syncInOrder (distinct : s.index.files.Nodup) (hsources : sources.Nodup)
    (hgone : gone.Nodup) :
    (s.syncInOrder g sources gone).2.index.size + (s.syncInOrder g sources gone).1.removed =
      s.index.size + (s.syncInOrder g sources gone).1.added := by
  have longer := size_foldl_syncFile g ⟨0, 0, 0, 0⟩ s sources
  have none_removed := congrArg SyncCounts.removed
    (counts_foldl_syncFile g ⟨0, 0, 0, 0⟩ s sources hsources)
  have distinct := nodup_files_foldl_syncFile g ⟨0, 0, 0, 0⟩ s distinct sources
  rw [syncInOrder]
  generalize sources.foldl (fun p file => syncFile g p.1 p.2 file) (⟨0, 0, 0, 0⟩, s) = updated
    at longer none_removed distinct ⊢
  have shorter := size_foldl_dropFile updated.1 updated.2.index distinct gone
  have same_added := congrArg SyncCounts.added
    (counts_foldl_dropFile updated.1 updated.2.index gone hgone)
  dsimp only at longer none_removed shorter same_added ⊢
  omega

/-- The first loop tracks source files only. -/
theorem filter_tracked_foldl_syncFile (g : Graph) (s : Synced) (keep : String → Bool) (counts : SyncCounts)
    (h : ∀ file ∈ sources, keep file = false) :
    (sources.foldl (fun p file => syncFile g p.1 p.2 file) (counts, s)).2.tracked.filter keep =
      s.tracked.filter keep := by
  induction sources generalizing counts s with
  | nil => rfl
  | cons file sources ih =>
    obtain ⟨first, others⟩ := List.forall_mem_cons.1 h
    have step : (syncFile g counts s file).2.tracked.filter keep = s.tracked.filter keep := by
      rw [syncFile]
      cases s.index.get? file with
      | none => by_cases tracked : file ∈ s.tracked <;> simp [tracked, first]
      | some old => cases same : Record.same old (g.record file) <;> simp [same]
    exact (ih _ _ others).trans step

/-- A sync runs through both sets in the order of its lists. -/
theorem sync_eq_syncInOrder (g : Graph) (s : Synced) :
    s.sync g =
      s.syncInOrder g g.sourceFiles (s.tracked.filter fun file => !g.sourceFiles.contains file) := by
  have stays : ∀ file ∈ g.sourceFiles, (!g.sourceFiles.contains file) = false := by simp
  rw [syncInOrder, ← filter_tracked_foldl_syncFile g s _ ⟨0, 0, 0, 0⟩ stays, sync]
  simp only [List.partition_eq_filter_filter, Function.comp_def, Bool.not_not]

/-- The sync of the program runs through both sets in the order of its lists. -/
theorem syncsTo_sync (distinct : g.sourceFiles.Nodup) (tracked : s.tracked.Nodup) :
    s.SyncsTo g (s.sync g) := by
  refine ⟨g.sourceFiles, s.tracked.filter fun file => !g.sourceFiles.contains file, ⟨distinct, rfl⟩,
    ⟨tracked.filter _, ?_⟩, sync_eq_syncInOrder g s⟩
  ext file
  simp [trackedSet, Graph.sources]

/-- Every order has the effect of a sync. -/
theorem SyncsTo.effect {r : SyncCounts × Synced} (h : s.SyncsTo g r) : SyncEffect g s r := by
  obtain ⟨sources, gone, hsources, hgone, rfl⟩ := h
  have left (file : String) : file ∈ gone ↔ file ∈ s.trackedSet ∧ file ∉ g.sources := by
    rw [hgone.mem_iff, Finset.mem_sdiff]
  have apart : ∀ file ∈ gone, file ∉ sources := by
    intro file member
    rw [hsources.mem_iff]
    exact ((left file).1 member).2
  have counts := counts_syncInOrder g s hsources.nodup hgone.nodup apart
  exact {
    source := by
      intro file member
      have stays : file ∉ gone := fun h => ((left file).1 h).2 member
      rw [get?_syncInOrder, if_neg stays, if_pos ((hsources.mem_iff file).2 member)]
      exact FileState.refresh_record (g.record file) (s.fileState file)
    other := by
      intro file member
      rw [get?_syncInOrder, if_neg (mt (hsources.mem_iff file).1 member)]
      simp only [left, member, not_false_eq_true, and_true]
    tracked := by
      ext file
      rw [trackedSet, List.mem_toFinset, mem_tracked_syncInOrder, Finset.mem_filter]
      apply and_congr_right
      intro member
      rw [if_pos ((hsources.mem_iff file).2 member), FileState.refresh_tracked, Index.has_eq]
      simp [fileState, trackedSet, or_comm]
    added := counts ▸ hsources.countP_eq _
    updated := counts ▸ hsources.countP_eq _
    unchanged := counts ▸ hsources.countP_eq _
    removed := counts ▸ hgone.countP_eq _ }

/-- Every file is new, outdated or current. -/
theorem countP_add (g : Graph) (index : Index) (files : List String) :
    files.countP (fun file => !index.has file) + files.countP (index.isOutdated g) +
      files.countP (fun file => index.has file && !index.isOutdated g file) = files.length := by
  induction files with
  | nil => rfl
  | cons file files ih =>
    -- a file that is not indexed is not outdated
    have one : (if !index.has file then 1 else 0) + (if index.isOutdated g file then 1 else 0) +
        (if index.has file && !index.isOutdated g file then 1 else 0) = 1 := by
      rw [Index.has_eq, Index.isOutdated]
      cases index.get? file with
      | none => rfl
      | some old => cases same : Record.same old (g.record file) <;> simp [same]
    simp only [List.countP_cons, List.length_cons]
    omega

theorem SyncsTo.counts_add {r : SyncCounts × Synced} (h : s.SyncsTo g r) :
    r.1.added + r.1.updated + r.1.unchanged = g.sources.card := by
  have effect := h.effect
  obtain ⟨sources, gone, hsources, -, -⟩ := h
  rw [effect.added, effect.updated, effect.unchanged, ← hsources.countP_eq, ← hsources.countP_eq,
    ← hsources.countP_eq, countP_add, ← hsources.toFinset_eq,
    List.toFinset_card_of_nodup hsources.nodup]

theorem SyncsTo.size {r : SyncCounts × Synced} (h : s.SyncsTo g r)
    (distinct : s.index.files.Nodup) :
    r.2.index.size + r.1.removed = s.index.size + r.1.added := by
  obtain ⟨sources, gone, hsources, hgone, rfl⟩ := h
  exact size_syncInOrder distinct hsources.nodup hgone.nodup

/-- A loop over files that are up to date changes nothing and counts them as unchanged. -/
theorem foldl_syncFile_of_current (g : Graph) (s : Synced) (counts : SyncCounts)
    (current : ∀ file ∈ sources,
      Option.Rel Record.Same (s.index.get? file) (some (g.record file))) :
    sources.foldl (fun p file => syncFile g p.1 p.2 file) (counts, s) =
      ({ counts with unchanged := counts.unchanged + sources.length }, s) := by
  induction sources generalizing counts with
  | nil => rfl
  | cons file sources ih =>
    obtain ⟨first, others⟩ := List.forall_mem_cons.1 current
    have step : syncFile g counts s file =
        ({ counts with unchanged := counts.unchanged + 1 }, s) := by
      rw [syncFile]
      cases indexed : s.index.get? file with
      | none => simp [indexed] at first
      | some old =>
        rw [indexed, Option.rel_some_some] at first
        simp [Record.same_iff.2 first]
    rw [List.foldl_cons, step, ih _ others, List.length_cons, Nat.add_assoc, Nat.add_comm 1]

/-- A sync after a sync with the same graph changes nothing, in any order. -/
theorem SyncsTo.again {r r' : SyncCounts × Synced} (h : s.SyncsTo g r) (h' : r.2.SyncsTo g r') :
    r' = (⟨0, 0, 0, g.sources.card⟩, r.2) := by
  have effect := h.effect
  obtain ⟨sources, gone, hsources, hgone, rfl⟩ := h'
  have within : r.2.trackedSet ⊆ g.sources := by
    rw [effect.tracked]
    exact Finset.filter_subset _ _
  -- every tracked file is a source file, so none has left
  have none_left : gone = [] := by
    rw [← List.toFinset_eq_empty_iff, hgone.toFinset_eq, Finset.sdiff_eq_empty_iff_subset]
    exact within
  have kept : r.2.tracked.filter g.sourceFiles.contains = r.2.tracked := by
    rw [List.filter_eq_self]
    intro file member
    rw [List.contains_iff_mem, ← List.mem_toFinset]
    exact within (List.mem_toFinset.2 member)
  have current : ∀ file ∈ sources,
      Option.Rel Record.Same (r.2.index.get? file) (some (g.record file)) := by
    intro file member
    exact effect.source file ((hsources.mem_iff file).1 member)
  rw [syncInOrder, foldl_syncFile_of_current g r.2 _ current, none_left, ← hsources.toFinset_eq,
    List.toFinset_card_of_nodup hsources.nodup]
  simp [kept]

end Order

/-! ## Lists that stand for sets -/

/-- No file is listed twice in the index or among the tracked files. -/
structure Distinct (s : Synced) : Prop where
  files : s.index.files.Nodup
  tracked : s.tracked.Nodup

theorem distinct_empty : empty.Distinct :=
  ⟨List.nodup_nil, List.nodup_nil⟩

theorem nodup_tracked_foldl_syncFile (g : Graph) {s : Synced} (tracked : s.tracked.Nodup)
    (sources : List String) (counts : SyncCounts) :
    (sources.foldl (fun p file => syncFile g p.1 p.2 file) (counts, s)).2.tracked.Nodup := by
  induction sources generalizing counts s with
  | nil => exact tracked
  | cons file sources ih =>
    refine ih ?_ _
    show (syncFile g counts s file).2.tracked.Nodup
    rw [syncFile]
    cases s.index.get? file with
    | none =>
      by_cases member : file ∈ s.tracked
      · simpa [member] using tracked
      · rw [← List.concat_eq_append]
        simpa [member] using tracked.concat member
    | some old => cases same : Record.same old (g.record file) <;> simpa [same] using tracked

theorem nodup_files_foldl_dropFile (counts : SyncCounts) {index : Index}
    (distinct : index.files.Nodup) (gone : List String) :
    (gone.foldl (fun p file => dropFile p.1 p.2 file) (counts, index)).2.files.Nodup := by
  induction gone generalizing counts index with
  | nil => exact distinct
  | cons file gone ih => exact ih _ (Index.nodup_files_remove distinct file)

/-- Every change keeps the lists free of repetitions. -/
theorem Distinct.apply {s : Synced} (h : s.Distinct) (e : Event) : (s.apply e).2.Distinct := by
  obtain ⟨files, tracked⟩ := h
  cases e with
  | add file record => exact ⟨Index.nodup_files_add files file record, tracked⟩
  | update file record => exact ⟨Index.nodup_files_update files file record, tracked⟩
  | remove file => exact ⟨Index.nodup_files_remove files file, tracked⟩
  | clear => exact ⟨List.nodup_nil, tracked⟩
  | sync g =>
    show (s.sync g).2.Distinct
    rw [sync_eq_syncInOrder, syncInOrder]
    exact ⟨nodup_files_foldl_dropFile _ (nodup_files_foldl_syncFile g _ s files _) _,
      (nodup_tracked_foldl_syncFile g tracked _ _).filter _⟩
  | reset => exact distinct_empty

/-- Whatever the history, no file is listed twice. -/
theorem Distinct.run {s : Synced} (h : s.Distinct) (history : List Event) :
    (s.run history).Distinct := by
  induction history generalizing s with
  | nil => exact h
  | cons e history ih => exact ih (h.apply e)

end Synced

namespace Graph

variable {g : Graph}

/-- Links are drawn between nodes, so no node is ever listed twice. -/
theorem nodup_reached_addEdge (distinct : g.reached.Nodup) (e : Edge) :
    (g.addEdge e).reached.Nodup :=
  nodup_reached_addNode (nodup_reached_addNode distinct none) none

end Graph

/-- The effect of one sync, for any index and any tracked files, in any order of its loops. Every
source file ends with the record of the graph, every other file is dropped if it was tracked and
stays as it is otherwise, and the counts are those of the state before. So the counts of source
files add up, the index grows by what was added and shrinks by what was removed, and a second sync
changes nothing. -/
theorem syncsTo_effect (g : Graph) (s : Synced) (nodes : g.reached.Nodup) (lists : s.Distinct) :
    s.SyncsTo g (s.sync g) ∧
    ∀ r, s.SyncsTo g r →
      SyncEffect g s r ∧
      r.1.added + r.1.updated + r.1.unchanged = g.sources.card ∧
      r.2.index.size + r.1.removed = s.index.size + r.1.added ∧
      ∀ r', r.2.SyncsTo g r' → r' = (⟨0, 0, 0, g.sources.card⟩, r.2) := by
  constructor
  · exact Synced.syncsTo_sync (nodes.sublist g.sourceFiles_sublist).of_map lists.tracked
  · intro r synced
    exact ⟨synced.effect, synced.counts_add, synced.size lists.files, fun r' => synced.again⟩

/-- A graph with two source files and a target. -/
def twoSources : Graph :=
  ⟨true, [⟨.path "/a.js", some true⟩, ⟨.path "/b.js", none⟩, ⟨.path "/x.js", some false⟩],
    [⟨"/a.js", .path "/x.js", some "x"⟩]⟩

/-- One file with an old record, one tracked file, and a tracked file that is not indexed. -/
def mixedFiles : Synced :=
  ⟨⟨[("/b.js", [("y", .path "/y.js")]), ("/c.js", [])]⟩, ["/c.js", "/d.js"]⟩

theorem syncsTo_effect_mixedFiles :
    twoSources.reached.Nodup ∧ mixedFiles.Distinct ∧
      mixedFiles.SyncsTo twoSources (mixedFiles.sync twoSources) ∧
      (mixedFiles.sync twoSources).1 = ⟨1, 1, 1, 0⟩ ∧
      SyncEffect twoSources mixedFiles (mixedFiles.sync twoSources) ∧
      (mixedFiles.sync twoSources).2.index.size + 1 = mixedFiles.index.size + 1 := by
  have nodes : twoSources.reached.Nodup := by decide
  have lists : mixedFiles.Distinct := ⟨by decide, by decide⟩
  obtain ⟨here, every⟩ := syncsTo_effect twoSources mixedFiles nodes lists
  obtain ⟨effect, -, size, -⟩ := every _ here
  have counts : (mixedFiles.sync twoSources).1 = ⟨1, 1, 1, 0⟩ := by decide +kernel
  rw [counts] at size
  exact ⟨nodes, lists, here, counts, effect, size⟩

end Dependency

end ModuleResolution
