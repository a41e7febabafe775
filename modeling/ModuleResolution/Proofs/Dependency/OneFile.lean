import ModuleResolution.Dependency.Sync
import ModuleResolution.Proofs.Dependency.Sameness

/-!
# One file of a shared index

A history of changes to an index is followed here for a single file. `FileState` is what the index
and the sync hold for that file, `FileEvent` is a change as the file sees it, and
`FileState.apply` is one change of one file.

Following one file is exact: after every change the state of the file is the one that the change,
seen by the file, leaves (`fileState_apply`), and a change to the file answers the same
(`effectOn_apply`). Hence a whole history, seen by the file, leaves the same state of the file
(`fileState_run`) and gives the same answers (`effects_eq`). The step for a sync is the one with
content: its loops go over all files, and each of them touches this file at most once.
-/

set_option autoImplicit false

namespace ModuleResolution.Dependency

/-! ## The machine of one file -/

/-- The record of a file, if it is indexed, and whether the sync tracks the file. -/
structure FileState where
  record : Option Record
  tracked : Bool

/-- A change as one file sees it. Of a graph it sees whether it is a source file and its record. -/
inductive FileEvent where
  | add (record : Record)
  | update (record : Record)
  | remove
  | clear
  | sync (isSource : Bool) (record : Record)
  | reset

/-- The state of a source file after a sync that holds `record` for it. -/
def FileState.refresh (record : Record) : FileState → FileState
  | ⟨none, _⟩ => ⟨some record, true⟩
  | ⟨some old, tracked⟩ => ⟨some (if Record.same old record then old else record), tracked⟩

/-- The state of a file that is no source file after a sync. -/
def FileState.release : FileState → FileState
  | ⟨record, tracked⟩ => ⟨if tracked then none else record, false⟩

/-- One change of one file, with its answer if it is a change to this file alone. -/
def FileState.apply (s : FileState) : FileEvent → Option Bool × FileState
  | .add record => (some s.record.isNone, { s with record := s.record.or (some record) })
  | .update record => (some s.record.isSome, { s with record := s.record.map fun _ => record })
  | .remove => (some s.record.isSome, { s with record := none })
  | .clear => (none, { s with record := none })
  | .sync isSource record => (none, if isSource then s.refresh record else s.release)
  | .reset => (none, ⟨none, false⟩)

/-- The state of a file after a history. -/
def FileState.run (s : FileState) (history : List FileEvent) : FileState :=
  history.foldl (fun s e => (s.apply e).2) s

/-- The answers to the changes to one file. -/
def FileState.effects : FileState → List FileEvent → List Bool
  | _, [] => []
  | s, e :: history => (s.apply e).1.toList ++ effects (s.apply e).2 history

/-! ## Seen by one file -/

/-- What an index and its sync hold for a file. -/
def Synced.fileState (s : Synced) (file : String) : FileState :=
  ⟨s.index.get? file, s.tracked.contains file⟩

/-- The file that a change is about, if it is about one. -/
def Event.file? : Event → Option String
  | .add file _ => some file
  | .update file _ => some file
  | .remove file => some file
  | _ => none

/-- What a file sees of a change; it sees nothing of a change to another file. -/
def Event.seenBy (file : String) : Event → Option FileEvent
  | .add f record => if f = file then some (.add record) else none
  | .update f record => if f = file then some (.update record) else none
  | .remove f => if f = file then some .remove else none
  | .clear => some .clear
  | .sync g => some (.sync (file ∈ g.sourceFiles) (g.record file))
  | .reset => some .reset

/-- The truth value that a change answers, if it answers one. -/
def Answer.effect? : Answer → Option Bool
  | .effect b => some b
  | _ => Option.none

/-- The state after a history. -/
def Synced.run (s : Synced) (history : List Event) : Synced :=
  history.foldl (fun s e => (s.apply e).2) s

/-- The answer to a change, if it is a change to one given file. -/
def Synced.effectOn (file : String) (s : Synced) (e : Event) : Option Bool :=
  if e.file? = some file then (s.apply e).1.effect? else none

/-- The answers to the changes to one file in a history. -/
def Synced.effects (file : String) : Synced → List Event → List Bool
  | _, [] => []
  | s, e :: history => (s.effectOn file e).toList ++ effects file (s.apply e).2 history

/-! ## Changes to the index -/

namespace Index

variable {file other : String}

theorem has_eq (index : Index) (file : String) : index.has file = (index.get? file).isSome :=
  rfl

theorem get?_add_self (index : Index) (file : String) (record : Record) :
    (index.add file record).2.get? file = (index.get? file).or (some record) := by
  unfold add
  rw [has_eq]
  cases h : index.get? file with
  | none => exact Table.get?_insert_self index.records file record
  | some old => simpa using h

theorem get?_add_of_ne (h : file ≠ other) (index : Index) (record : Record) :
    (index.add other record).2.get? file = index.get? file := by
  unfold add
  cases index.has other with
  | true => rfl
  | false => exact Table.get?_insert_of_ne h index.records record

theorem get?_update_self (index : Index) (file : String) (record : Record) :
    (index.update file record).2.get? file = (index.get? file).map fun _ => record := by
  unfold update
  rw [has_eq]
  cases h : index.get? file with
  | none => simpa using h
  | some old => exact Table.get?_insert_self index.records file record

theorem get?_update_of_ne (h : file ≠ other) (index : Index) (record : Record) :
    (index.update other record).2.get? file = index.get? file := by
  unfold update
  cases index.has other with
  | true => exact Table.get?_insert_of_ne h index.records record
  | false => rfl

theorem get?_remove_self (index : Index) (file : String) :
    (index.remove file).2.get? file = none := by
  unfold remove
  rw [has_eq]
  cases h : index.get? file with
  | none => simpa using h
  | some old => exact Table.get?_erase_self index.records file

theorem get?_remove_of_ne (h : file ≠ other) (index : Index) :
    (index.remove other).2.get? file = index.get? file := by
  unfold remove
  cases index.has other with
  | true => exact Table.get?_erase_of_ne h index.records
  | false => rfl

end Index

/-! ## A sync, seen by one file -/

namespace FileState

/-- A second refresh with the same record changes nothing: the first one left that record, or one
that compares as the same. -/
theorem refresh_refresh (record : Record) (s : FileState) :
    (s.refresh record).refresh record = s.refresh record := by
  obtain ⟨entry, tracked⟩ := s
  cases entry with
  | none => simp [refresh, Record.same_self]
  | some old =>
    -- the old record stays if it compares as the same, and then does so again
    by_cases h : Record.same old record = true
    · simp [refresh, h]
    · simp [refresh, h, Record.same_self]

/-- After a refresh a file has the record it was refreshed with. -/
theorem refresh_record (record : Record) (s : FileState) :
    Option.Rel Record.Same (s.refresh record).record (some record) := by
  obtain ⟨entry, tracked⟩ := s
  cases entry with
  | none => exact .some (.refl record)
  | some old =>
    by_cases h : Record.same old record = true
    · simpa [refresh, h] using Record.same_iff.1 h
    · simpa [refresh, h] using Record.Same.refl record

/-- A refresh tracks a file that was not indexed and leaves it untracked or tracked otherwise. -/
theorem refresh_tracked (record : Record) (s : FileState) :
    (s.refresh record).tracked = (s.record.isNone || s.tracked) := by
  obtain ⟨entry, tracked⟩ := s
  cases entry <;> rfl

end FileState

namespace Synced

variable (g : Graph) (file : String)

theorem has_eq (s : Synced) : s.index.has file = (s.fileState file).record.isSome :=
  rfl

/-- Tracking a source adds it to the tracked files and no other. -/
theorem contains_track (tracked : List String) (source : String) :
    (if tracked.contains source then tracked else tracked ++ [source]).contains file =
      (tracked.contains file || decide (file = source)) := by
  by_cases h : source ∈ tracked
  · by_cases hf : file = source <;> simp [h, hf]
  · simp [h]

/-- Bringing one source file up to date refreshes that file and no other. -/
theorem fileState_syncFile (counts : SyncCounts) (s : Synced) (source : String) :
    (syncFile g counts s source).2.fileState file =
      if source = file then (s.fileState file).refresh (g.record file) else s.fileState file := by
  by_cases h : source = file
  · subst h
    rw [if_pos rfl]
    unfold fileState
    cases hs : s.index.get? source with
    -- a file that is not indexed is added, and only then tracked
    | none =>
      simp only [syncFile, hs, contains_track, Index.get?_add_self, decide_true, Bool.or_true,
        Option.none_or, FileState.refresh]
    | some old =>
      by_cases same : Record.same old (g.record source) = true
      · simp only [syncFile, hs, same, if_true, FileState.refresh]
      · simp only [syncFile, hs, same, Bool.false_eq_true, if_false, Index.get?_update_self,
          Option.map_some, FileState.refresh]
  -- each way to bring the source up to date leaves every other file as it is
  · have hne : file ≠ source := Ne.symm h
    rw [if_neg h]
    unfold fileState
    cases hs : s.index.get? source with
    | none =>
      simp only [syncFile, hs, contains_track, Index.get?_add_of_ne hne, hne, decide_false,
        Bool.or_false]
    | some old =>
      by_cases same : Record.same old (g.record source) = true
      · simp only [syncFile, hs, same, if_true]
      · simp only [syncFile, hs, same, Bool.false_eq_true, if_false,
          Index.get?_update_of_ne hne]

/-- Bringing a list of source files up to date refreshes those files. A file may stand in the list
more than once; a later refresh of it changes nothing. -/
theorem fileState_foldl_syncFile (sources : List String) (counts : SyncCounts) (s : Synced) :
    (sources.foldl (fun p source => syncFile g p.1 p.2 source) (counts, s)).2.fileState file =
      if file ∈ sources then (s.fileState file).refresh (g.record file) else s.fileState file := by
  induction sources generalizing counts s with
  | nil => rfl
  | cons source sources ih =>
    rw [List.foldl_cons, ih, fileState_syncFile]
    by_cases h : source = file
    · simp [h, FileState.refresh_refresh]
    · simp [h, Ne.symm h]

/-- Removing a list of files removes those and no others. -/
theorem get?_foldl_dropFile (gone : List String) (counts : SyncCounts) (index : Index) :
    (gone.foldl (fun p source => dropFile p.1 p.2 source) (counts, index)).2.get? file =
      if file ∈ gone then none else index.get? file := by
  induction gone generalizing counts index with
  | nil => rfl
  | cons source gone ih =>
    have dropped : (dropFile counts index source).2 = (index.remove source).2 := rfl
    rw [List.foldl_cons, ih, dropped]
    by_cases h : file = source
    · simp [h, Index.get?_remove_self]
    · simp [h, Index.get?_remove_of_ne h]

/-- A sync refreshes a source file and releases any other file. -/
theorem fileState_sync (s : Synced) :
    (s.sync g).2.fileState file =
      if file ∈ g.sourceFiles then (s.fileState file).refresh (g.record file)
      else (s.fileState file).release := by
  -- the first loop refreshes the sources; what the second one drops is read off its result
  have read := fileState_foldl_syncFile g file g.sourceFiles ⟨0, 0, 0, 0⟩ s
  unfold sync
  simp only [List.partition_eq_filter_filter]
  generalize g.sourceFiles.foldl (fun p source => syncFile g p.1 p.2 source)
    (⟨0, 0, 0, 0⟩, s) = p at read ⊢
  obtain ⟨counts, t⟩ := p
  simp only at read ⊢
  rw [fileState, get?_foldl_dropFile]
  by_cases h : file ∈ g.sourceFiles
  · rw [if_pos h] at read ⊢
    rw [← read]
    simp [fileState, h]
  -- a file that is no source is dropped just when it is tracked
  · rw [if_neg h] at read ⊢
    rw [← read]
    simp [fileState, FileState.release, h]

/-! ## Every change, seen by one file -/

/-- A change leaves of a file the state that the change, seen by the file, leaves. -/
theorem fileState_apply (s : Synced) (e : Event) :
    (s.apply e).2.fileState file =
      match e.seenBy file with
      | none => s.fileState file
      | some e' => ((s.fileState file).apply e').2 := by
  cases e with
  -- a change to one file: the file itself, or one that leaves this file as it is
  | add f record =>
    by_cases h : f = file
    · subst h
      simp [Synced.apply, Event.seenBy, fileState, FileState.apply, Index.get?_add_self]
    · simp [Synced.apply, Event.seenBy, fileState, h, Index.get?_add_of_ne (Ne.symm h)]
  | update f record =>
    by_cases h : f = file
    · subst h
      simp [Synced.apply, Event.seenBy, fileState, FileState.apply, Index.get?_update_self]
    · simp [Synced.apply, Event.seenBy, fileState, h, Index.get?_update_of_ne (Ne.symm h)]
  | remove f =>
    by_cases h : f = file
    · subst h
      simp [Synced.apply, Event.seenBy, fileState, FileState.apply, Index.get?_remove_self]
    · simp [Synced.apply, Event.seenBy, fileState, h, Index.get?_remove_of_ne (Ne.symm h)]
  | clear => rfl
  | sync g =>
    show (s.sync g).2.fileState file = _
    rw [fileState_sync]
    simp only [Event.seenBy, FileState.apply, decide_eq_true_eq]
  | reset => rfl

/-- A change to a file answers what it answers as seen by the file. -/
theorem effectOn_apply (s : Synced) (e : Event) :
    (s.effectOn file e).toList =
      match e.seenBy file with
      | none => []
      | some e' => ((s.fileState file).apply e').1.toList := by
  cases e with
  -- the answer tells whether the file was indexed, so the cases split on its entry
  | add f record =>
    by_cases h : f = file
    · subst h
      cases hs : s.index.get? f <;>
        simp [effectOn, Synced.apply, Index.add, Index.has_eq, Answer.effect?, Event.file?,
          Event.seenBy, fileState, FileState.apply, hs]
    · simp [effectOn, Event.file?, Event.seenBy, h]
  | update f record =>
    by_cases h : f = file
    · subst h
      cases hs : s.index.get? f <;>
        simp [effectOn, Synced.apply, Index.update, Index.has_eq, Answer.effect?, Event.file?,
          Event.seenBy, fileState, FileState.apply, hs]
    · simp [effectOn, Event.file?, Event.seenBy, h]
  | remove f =>
    by_cases h : f = file
    · subst h
      cases hs : s.index.get? f <;>
        simp [effectOn, Synced.apply, Index.remove, Index.has_eq, Answer.effect?, Event.file?,
          Event.seenBy, fileState, FileState.apply, hs]
    · simp [effectOn, Event.file?, Event.seenBy, h]
  | clear => rfl
  | sync g => rfl
  | reset => rfl

theorem run_append (s : Synced) (history further : List Event) :
    s.run (history ++ further) = (s.run history).run further :=
  List.foldl_append

/-- A history leaves of a file the state that the history, seen by the file, leaves. -/
theorem fileState_run (s : Synced) (history : List Event) :
    (s.run history).fileState file =
      (s.fileState file).run (history.filterMap (Event.seenBy file)) := by
  induction history generalizing s with
  | nil => rfl
  | cons e history ih =>
    show ((s.apply e).2.run history).fileState file = _
    rw [ih, fileState_apply]
    cases h : e.seenBy file with
    | none => rw [List.filterMap_cons_none h]
    | some e' => rw [List.filterMap_cons_some h]; rfl

/-- The changes to a file answer what they answer as seen by the file. -/
theorem effects_eq (s : Synced) (history : List Event) :
    s.effects file history =
      (s.fileState file).effects (history.filterMap (Event.seenBy file)) := by
  induction history generalizing s with
  | nil => rfl
  | cons e history ih =>
    rw [effects, ih, fileState_apply, effectOn_apply]
    cases h : e.seenBy file with
    | none => rw [List.filterMap_cons_none h]; rfl
    | some e' => rw [List.filterMap_cons_some h]; rfl

end Synced

end ModuleResolution.Dependency
