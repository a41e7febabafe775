import ModuleResolution.Proofs.Dependency.GraphHistory

/-!
# Who added what a sync removes

A sync remembers the files that it has added and removes them once they have left the graph; what
others have put into the index it is meant to update only. `lastAdder` follows a history of changes
and tells who added the entry of a file last, and with success.

A sync does remove entries of others, in one situation only (`sync_removes_others_iff`): the sync
had added the file itself, others removed it and then added it anew, and since the sync's own
addition there was no reset and no sync with a graph that lacks the file. The sync has kept the
file among those that it tracks, and takes the new entry for its own (`not_sync_spares_others`).
`Tracks` and `Readded` describe such histories.
-/

set_option autoImplicit false

namespace ModuleResolution.Dependency

/-! ## The last addition -/

/-- Who adds entries to an index. -/
inductive Adder where
  | others
  | sync
  deriving DecidableEq, Repr

/-- Who added the entry of a file last, after one more change. Adding a file that is indexed
already has no effect. -/
def nextAdder (file : String) (s : Synced) (adder : Adder) : Event → Adder
  | .add f _ => if f = file ∧ s.index.has file = false then .others else adder
  | .sync g => if file ∈ g.sourceFiles ∧ s.index.has file = false then .sync else adder
  | _ => adder

/-- Who added the entry of a file last, after a history. Entries there at the start are of others. -/
def lastAdder (file : String) (start : Index) (history : List Event) : Adder :=
  (history.foldl (fun p e => ((p.1.apply e).2, nextAdder file p.1 p.2 e))
    (start.shared, Adder.others)).2

theorem lastAdder_append_singleton (file : String) (start : Index) (history : List Event)
    (e : Event) :
    lastAdder file start (history ++ [e]) =
      nextAdder file (start.shared.run history) (lastAdder file start history) e := by
  have state (history : List Event) (s : Synced) (adder : Adder) :
      (history.foldl (fun p e => ((p.1.apply e).2, nextAdder file p.1 p.2 e)) (s, adder)).1 =
        s.run history := by
    induction history generalizing s adder with
    | nil => rfl
    | cons e history ih => exact ih (s.apply e).2 (nextAdder file s adder e)
  unfold lastAdder
  rw [List.foldl_append, List.foldl_cons, List.foldl_nil, state]

/-! ## What a sync still tracks -/

/-- A change after which the sync still tracks a file that it tracked before. -/
def Event.KeepsTrack (file : String) : Event → Prop
  | .sync g => file ∈ g.sourceFiles
  | .reset => False
  | _ => True

/-- A change by which others remove a file. -/
def Event.Removes (file : String) : Event → Prop
  | .remove f => f = file
  | .clear => True
  | _ => False

/-- A history in which the sync has added a file and has not let go of it since. -/
inductive Tracks (start : Index) (file : String) : List Event → Prop
  | adds {history : List Event} {g : Graph} :
      file ∈ g.sourceFiles → (start.shared.run history).index.has file = false →
      Tracks start file (history ++ [.sync g])
  | keeps {history : List Event} {e : Event} :
      Tracks start file history → e.KeepsTrack file → Tracks start file (history ++ [e])

/-- A history in which others have added a file anew that the sync had added, that was missing
again, and that the sync has not let go of. -/
inductive Readded (start : Index) (file : String) : List Event → Prop
  | adds {history : List Event} {record : Record} :
      Tracks start file history → (start.shared.run history).index.has file = false →
      Readded start file (history ++ [.add file record])
  | keeps {history : List Event} {e : Event} :
      Readded start file history → e.KeepsTrack file → ¬ e.Removes file →
      Readded start file (history ++ [e])

section Histories

variable {start : Index} {file : String}

theorem not_tracks_nil : ¬ Tracks start file [] := by
  intro h
  generalize hl : ([] : List Event) = history at h
  cases h <;> simp at hl

theorem not_readded_nil : ¬ Readded start file [] := by
  intro h
  generalize hl : ([] : List Event) = history at h
  cases h <;> simp at hl

/-- The last change of a history in which a sync tracks a file. -/
theorem tracks_append_singleton_iff {history : List Event} {e : Event} :
    Tracks start file (history ++ [e]) ↔
      (Tracks start file history ∧ e.KeepsTrack file) ∨
        ∃ g, e = .sync g ∧ file ∈ g.sourceFiles ∧
          (start.shared.run history).index.has file = false := by
  constructor
  · intro h
    -- the index of the derivation is no variable, so it is named before the split
    generalize hl : history ++ [e] = whole at h
    cases h with
    | adds source absent =>
      obtain ⟨rfl, he⟩ := List.append_inj' hl rfl
      cases he
      exact .inr ⟨_, rfl, source, absent⟩
    | keeps tracks keep =>
      obtain ⟨rfl, he⟩ := List.append_inj' hl rfl
      cases he
      exact .inl ⟨tracks, keep⟩
  · rintro (⟨tracks, keep⟩ | ⟨g, rfl, source, absent⟩)
    · exact .keeps tracks keep
    · exact .adds source absent

/-- The last change of a history in which others have added a file anew. -/
theorem readded_append_singleton_iff {history : List Event} {e : Event} :
    Readded start file (history ++ [e]) ↔
      (Readded start file history ∧ e.KeepsTrack file ∧ ¬ e.Removes file) ∨
        ∃ record, e = .add file record ∧ Tracks start file history ∧
          (start.shared.run history).index.has file = false := by
  constructor
  · intro h
    generalize hl : history ++ [e] = whole at h
    cases h with
    | adds tracks absent =>
      obtain ⟨rfl, he⟩ := List.append_inj' hl rfl
      cases he
      exact .inr ⟨_, rfl, tracks, absent⟩
    | keeps readded keep stays =>
      obtain ⟨rfl, he⟩ := List.append_inj' hl rfl
      cases he
      exact .inl ⟨readded, keep, stays⟩
  · rintro (⟨readded, keep, stays⟩ | ⟨record, rfl, tracks, absent⟩)
    · exact .keeps readded keep stays
    · exact .adds tracks absent

/-- One more change, and whether the sync tracks a file after it. -/
theorem tracked_apply_iff (s : Synced) (e : Event) :
    ((s.apply e).2.fileState file).tracked = true ↔
      ((s.fileState file).tracked = true ∧ e.KeepsTrack file) ∨
        ∃ g, e = .sync g ∧ file ∈ g.sourceFiles ∧ s.index.has file = false := by
  rw [Synced.fileState_apply, Synced.has_eq]
  generalize s.fileState file = t
  cases e with
  | add f record =>
    by_cases h : f = file <;> simp [Event.seenBy, FileState.apply, Event.KeepsTrack, h]
  | update f record =>
    by_cases h : f = file <;> simp [Event.seenBy, FileState.apply, Event.KeepsTrack, h]
  | remove f =>
    by_cases h : f = file <;> simp [Event.seenBy, FileState.apply, Event.KeepsTrack, h]
  | clear => simp [Event.seenBy, FileState.apply, Event.KeepsTrack]
  -- a refresh tracks what was missing, a release lets go; no other change but a reset does either
  | sync g =>
    by_cases h : file ∈ g.sourceFiles
    · simp [Event.seenBy, FileState.apply, Event.KeepsTrack, FileState.refresh_tracked, h, or_comm]
    · simp [Event.seenBy, FileState.apply, Event.KeepsTrack, FileState.release, h]
  | reset => simp [Event.seenBy, FileState.apply, Event.KeepsTrack]

/-- The sync tracks a file after just these histories. -/
theorem tracked_iff_tracks (history : List Event) :
    ((start.shared.run history).fileState file).tracked = true ↔ Tracks start file history := by
  induction history using List.reverseRecOn with
  | nil => simp [not_tracks_nil, Synced.run, Synced.fileState, Index.shared]
  | append_singleton history e ih =>
    rw [tracks_append_singleton_iff, ← ih, Synced.run_append]
    exact tracked_apply_iff (start.shared.run history) e

/-! ## Entries of others that the sync takes for its own -/

/-- The entry of a file is of others, but the sync tracks the file. -/
def Mistaken (file : String) (s : Synced) (adder : Adder) : Prop :=
  s.index.has file = true ∧ adder = .others ∧ (s.fileState file).tracked = true

/-- One more change, and whether the sync mistakes an entry of others for its own after it. -/
theorem mistaken_apply_iff (s : Synced) (adder : Adder) (e : Event) :
    Mistaken file (s.apply e).2 (nextAdder file s adder e) ↔
      (Mistaken file s adder ∧ e.KeepsTrack file ∧ ¬ e.Removes file) ∨
        ∃ record, e = .add file record ∧ (s.fileState file).tracked = true ∧
          s.index.has file = false := by
  unfold Mistaken nextAdder
  rw [Synced.has_eq file (s.apply e).2, Synced.fileState_apply, Synced.has_eq file s]
  generalize s.fileState file = t
  obtain ⟨entry, tracked⟩ := t
  cases e with
  -- an addition by others makes the mistake where the file was missing, and only there
  | add f record =>
    by_cases h : f = file
    · subst h
      cases entry <;> simp [Event.seenBy, FileState.apply, Event.KeepsTrack, Event.Removes]
    · simp [Event.seenBy, Event.KeepsTrack, Event.Removes, h]
  | update f record =>
    by_cases h : f = file <;>
      simp [Event.seenBy, FileState.apply, Event.KeepsTrack, Event.Removes, h]
  | remove f =>
    by_cases h : f = file <;>
      simp [Event.seenBy, FileState.apply, Event.KeepsTrack, Event.Removes, h]
  | clear => simp [Event.seenBy, FileState.apply, Event.KeepsTrack, Event.Removes]
  -- an entry that a sync adds is its own, and a file that it releases is no longer tracked
  | sync g =>
    by_cases h : file ∈ g.sourceFiles
    · cases entry <;>
        simp [Event.seenBy, FileState.apply, FileState.refresh, Event.KeepsTrack, Event.Removes, h]
    · simp [Event.seenBy, FileState.apply, FileState.release, Event.KeepsTrack, h]
  | reset => simp [Event.seenBy, FileState.apply, Event.KeepsTrack]

/-- The sync mistakes an entry of others for its own after just these histories. -/
theorem mistaken_iff_readded (history : List Event) :
    Mistaken file (start.shared.run history) (lastAdder file start history) ↔
      Readded start file history := by
  induction history using List.reverseRecOn with
  | nil => simp [Mistaken, not_readded_nil, Synced.run, Synced.fileState, Index.shared]
  | append_singleton history e ih =>
    rw [readded_append_singleton_iff, ← ih, ← tracked_iff_tracks, Synced.run_append,
      lastAdder_append_singleton]
    exact mistaken_apply_iff (start.shared.run history) (lastAdder file start history) e

/-- A sync removes an indexed file if it tracks the file and the graph lacks it. -/
theorem has_sync_eq_false_iff (s : Synced) (g : Graph) (present : s.index.has file = true) :
    (s.sync g).2.index.has file = false ↔
      file ∉ g.sourceFiles ∧ (s.fileState file).tracked = true := by
  rw [Synced.has_eq] at present
  rw [Synced.has_eq, Synced.fileState_sync]
  generalize s.fileState file = t at present ⊢
  obtain ⟨entry, tracked⟩ := t
  cases entry with
  | none => simp at present
  | some old =>
    by_cases h : file ∈ g.sourceFiles <;> simp [FileState.refresh, FileState.release, h]

/-- A sync removes an entry that others added last if and only if the graph lacks the file and
others had added it anew, in place of an entry that the sync had added and not let go of. -/
theorem sync_removes_others_iff (start : Index) (history : List Event) (g : Graph)
    (file : String) :
    ((start.shared.run history).index.has file = true ∧ lastAdder file start history = .others ∧
        ((start.shared.run history).sync g).2.index.has file = false) ↔
      file ∉ g.sourceFiles ∧ Readded start file history := by
  rw [← mistaken_iff_readded]
  constructor
  · rintro ⟨present, others, removed⟩
    obtain ⟨gone, tracked⟩ := (has_sync_eq_false_iff _ g present).1 removed
    exact ⟨gone, present, others, tracked⟩
  · rintro ⟨gone, present, others, tracked⟩
    exact ⟨present, others, (has_sync_eq_false_iff _ g present).2 ⟨gone, tracked⟩⟩

end Histories

/-- A graph with one source file and no edges. -/
def loneFile (file : String) : Graph :=
  (Graph.empty true).addNode (.path file) (some true)

/-- A sync does not spare all entries of others: it adds a file, others remove the file and add it
anew, and the next sync removes their entry. -/
theorem not_sync_spares_others :
    ¬ ∀ (start : Index) (history : List Event) (g : Graph) (file : String),
      (start.shared.run history).index.has file = true →
      lastAdder file start history = .others →
      ((start.shared.run history).sync g).2.index.has file = true := by
  intro spares
  have kept := spares .empty
    [.sync (loneFile "/a.js"), .remove "/a.js", .add "/a.js" [("x", .path "/x.js")]]
    (Graph.empty true) "/a.js" (by decide) (by decide)
  exact absurd kept (by decide)

end ModuleResolution.Dependency
