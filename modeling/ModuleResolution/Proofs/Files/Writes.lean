import Mathlib.Data.List.TakeWhile
import ModuleResolution.Proofs.Files.Closed
import ModuleResolution.Proofs.Path.Chain

/-!
# Files in memory after a sequence of writes

Files in memory tell exactly what has been written (`ofList_history`). A directory is there when it
lies above a written path, a path exists when it was written or is such a directory, and reading
gives the content that was written last.

A write records directories in a loop, which sees the ones that it has recorded itself. `Recording`
is that loop as a relation. It comes to an end from every state, with the directories that the write
is defined to add (`recording_iff`): the directories of a climb are all different, so that the loop
never stops at one of its own.
-/

set_option autoImplicit false

namespace ModuleResolution.Files.Memory

open ModuleResolution.Path (parent)

/-! ## The loop of a write -/

/-- The loop that records a directory and those above it. It ends at the empty text and at a
directory that is recorded, and behind a directory that is its own parent. -/
inductive Recording : List String → String → List String → Prop
  | known {recorded : List String} {dir : String} (h : dir = "" ∨ dir ∈ recorded) :
      Recording recorded dir recorded
  | root {recorded : List String} {dir : String} (new : ¬ (dir = "" ∨ dir ∈ recorded))
      (h : parent dir = dir) : Recording recorded dir (recorded ++ [dir])
  | further {recorded : List String} {dir : String} {all : List String}
      (new : ¬ (dir = "" ∨ dir ∈ recorded)) (h : parent dir ≠ dir)
      (rest : Recording (recorded ++ [dir]) (parent dir) all) : Recording recorded dir all

section Loop

variable {recorded all other : List String} {dir : String} {steps : Nat}

theorem Recording.unique (first : Recording recorded dir all)
    (second : Recording recorded dir other) : all = other := by
  induction first with
  | known h =>
    cases second with
    | known => rfl
    | root new => exact absurd h new
    | further new => exact absurd h new
  | root new h =>
    cases second with
    | known known => exact absurd known new
    | root => rfl
    | further _ inner => exact absurd h inner
  | further new h _ ih =>
    cases second with
    | known known => exact absurd known new
    | root _ root => exact absurd root h
    | further _ _ rest => exact ih rest

theorem takeWhile_congr {p q : String → Bool} {dirs : List String}
    (h : ∀ above ∈ dirs, p above = q above) : dirs.takeWhile p = dirs.takeWhile q := by
  induction dirs with
  | nil => rfl
  | cons above dirs ih =>
    rw [List.takeWhile_cons, List.takeWhile_cons, h above List.mem_cons_self,
      ih fun other member => h other (List.mem_cons_of_mem above member)]

/-- A climb from a parent comes to the same directories whether or not the path itself is
recorded. -/
theorem unrecorded_append_self (inner : parent dir ≠ dir)
    (enough : (parent dir).toList.length ≤ steps) :
    unrecorded (recorded ++ [dir]) steps (parent dir) =
      unrecorded recorded steps (parent dir) := by
  rw [unrecorded, unrecorded, Path.climb_eq_chain enough]
  apply takeWhile_congr
  intro above member
  have different : above ≠ dir := by
    rintro rfl
    have longer := Path.length_parent_lt inner
    rw [String.length_toList, String.length_toList] at longer
    exact absurd (Path.mem_chain_length_le member) (Nat.not_le_of_lt longer)
  simp [different]

/-- The loop ends, and has recorded the directories of a climb before the first one that was
recorded already. -/
theorem recording_unrecorded (recorded : List String) (enough : dir.toList.length ≤ steps) :
    Recording recorded dir (recorded ++ unrecorded recorded steps dir) := by
  induction steps generalizing dir recorded with
  | zero =>
    have empty : dir = "" := by simpa using enough
    subst empty
    have none : unrecorded recorded 0 "" = [] := by simp [unrecorded, Path.climb]
    rw [none, List.append_nil]
    exact .known (.inl rfl)
  | succ steps ih =>
    rw [unrecorded_succ]
    by_cases stop : dir = "" ∨ dir ∈ recorded
    · rw [if_pos stop, List.append_nil]
      exact .known stop
    · rw [if_neg stop]
      by_cases root : parent dir = dir
      · rw [if_pos root]
        exact .root stop root
      · have shorter := Path.length_parent_lt root
        have enough_above : (parent dir).toList.length ≤ steps := by omega
        have rest := ih (recorded ++ [dir]) enough_above
        rw [unrecorded_append_self root enough_above, List.append_assoc] at rest
        rw [if_neg root]
        exact .further stop root rest

end Loop

/-- Every write ends, and its loop leaves the directories of the write. -/
theorem recording_iff (m : Memory) (path content : String) {all : List String} :
    Recording m.directories (parent (Path.normalize path)) all ↔
      all = (m.write path content).directories := by
  have ended : Recording m.directories (parent (Path.normalize path))
      (m.write path content).directories := by
    rw [write, newDirectories_eq]
    exact recording_unrecorded m.directories (Nat.le_refl _)
  constructor
  · exact fun run => run.unique ended
  · rintro rfl
    exact ended

/-! ## Histories -/

/-- The content that was written last to a path in normal form. -/
def lastContent (writes : List (String × String)) (path : String) : Option String :=
  (writes.reverse.find? fun write => Path.normalize write.1 = path).map Prod.snd

/-- A directory above a path that was written. -/
def AboveWritten (writes : List (String × String)) (dir : String) : Prop :=
  dir ≠ "" ∧ ∃ write ∈ writes, ∃ k, parent^[k + 1] (Path.normalize write.1) = dir

section History

variable {writes : List (String × String)} {path dir : String}

theorem ofList_append_singleton (writes : List (String × String)) (path content : String) :
    ofList (writes ++ [(path, content)]) = (ofList writes).write path content := by
  rw [ofList, List.foldl_append]
  rfl

theorem get?_files_ofList (writes : List (String × String)) (path : String) :
    (ofList writes).files.get? path = lastContent writes path := by
  -- from the last write, which decides for its own path
  induction writes using List.reverseRecOn with
  | nil => rfl
  | append_singleton writes write ih =>
    obtain ⟨written, content⟩ := write
    rw [ofList_append_singleton, Memory.write, lastContent, List.reverse_append]
    by_cases same : Path.normalize written = path
    · subst same
      simp [Table.get?_insert_self]
    · rw [Table.get?_insert_of_ne (Ne.symm same), ih]
      simp [lastContent, same]

theorem has_files_ofList :
    (ofList writes).files.has path = true ↔ ∃ write ∈ writes, Path.normalize write.1 = path := by
  rw [Table.has, get?_files_ofList, lastContent, Option.isSome_map, List.find?_isSome]
  simp

/-- Above a path that is held, all directories are recorded. -/
theorem Closed.iterate_parent_mem {m : Memory} (closed : m.Closed) (held : m.holds path = true)
    (k : Nat) (text : parent^[k + 1] path ≠ "") : parent^[k + 1] path ∈ m.directories := by
  induction k with
  | zero => exact closed path held text
  | succ k ih =>
    rw [Function.iterate_succ_apply'] at text ⊢
    have inner : parent^[k + 1] path ≠ "" := by
      intro empty
      rw [empty] at text
      exact text rfl
    exact closed _ (holds_iff.2 (.inr (ih inner))) text

theorem aboveWritten_of_mem (member : dir ∈ (ofList writes).directories) :
    AboveWritten writes dir := by
  induction writes using List.reverseRecOn with
  | nil => cases member
  | append_singleton writes write ih =>
    obtain ⟨path, content⟩ := write
    rw [ofList_append_singleton, Memory.write, List.mem_append] at member
    rcases member with before | new
    · obtain ⟨text, write, known, k, above⟩ := ih before
      exact ⟨text, write, List.mem_append_left _ known, k, above⟩
    · obtain ⟨n, -, chained⟩ := Path.chain_eq_iterate (parent (Path.normalize path))
      have climbed := List.takeWhile_subset _ new
      have text := List.mem_takeWhile_imp new
      rw [chained, List.mem_iterate] at climbed
      obtain ⟨k, -, rfl⟩ := climbed
      refine ⟨?_, (path, content), by simp, k, rfl⟩
      simp only [Bool.and_eq_true, decide_eq_true_eq] at text
      exact text.1

/-- The directories are those above the written paths. -/
theorem mem_directories_ofList : dir ∈ (ofList writes).directories ↔ AboveWritten writes dir := by
  refine ⟨aboveWritten_of_mem, ?_⟩
  rintro ⟨text, write, known, k, rfl⟩
  have held : (ofList writes).holds (Path.normalize write.1) = true :=
    holds_iff.2 (.inl (has_files_ofList.2 ⟨write, known, rfl⟩))
  exact (closed_ofList writes).iterate_parent_mem held k text

theorem exists?_ofList_iff :
    (ofList writes).exists? path = true ↔
      (∃ write ∈ writes, Path.normalize write.1 = Path.normalize path) ∨
        AboveWritten writes (Path.normalize path) := by
  rw [exists?_eq_holds, holds_iff, has_files_ofList, mem_directories_ofList]

end History

/-- Files in memory after any writes. Every further write ends. The directories are those above the
written paths, so with a directory its parent is one. A path exists when it was written or is a
directory, and later writes keep it. Reading gives the content that was written last under the
normal form of the path; without one it fails, also for a directory. -/
theorem ofList_history (writes : List (String × String)) :
    (∀ path content all, Recording (ofList writes).directories (parent (Path.normalize path)) all ↔
        all = (ofList (writes ++ [(path, content)])).directories) ∧
      (∀ dir, dir ∈ (ofList writes).directories ↔ AboveWritten writes dir) ∧
      (∀ dir ∈ (ofList writes).directories, parent dir ≠ "" →
        parent dir ∈ (ofList writes).directories) ∧
      (∀ path, (ofList writes).exists? path = true ↔
        (∃ write ∈ writes, Path.normalize write.1 = Path.normalize path) ∨
          AboveWritten writes (Path.normalize path)) ∧
      (∀ later path, (ofList writes).exists? path = true →
        (ofList (writes ++ later)).exists? path = true) ∧
      ∀ path, (ofList writes).read path =
        match lastContent writes (Path.normalize path) with
        | some content => .ok content
        | none => .error (.notInMemory (Path.normalize path)) := by
  refine ⟨fun path content all => ?_, fun dir => mem_directories_ofList, fun dir member => ?_,
    fun path => exists?_ofList_iff, fun later path there => ?_, fun path => ?_⟩
  · rw [ofList_append_singleton]
    exact recording_iff (ofList writes) path content
  · exact closed_ofList writes dir (holds_iff.2 (.inr member))
  · rw [exists?_ofList_iff] at there ⊢
    rcases there with ⟨write, known, same⟩ | ⟨text, write, known, above⟩
    · exact .inl ⟨write, List.mem_append_left later known, same⟩
    · exact .inr ⟨text, write, List.mem_append_left later known, above⟩
  · cases last : lastContent writes (Path.normalize path) with
    | some content => simp [read, get?_files_ofList, last]
    | none => simp [read, get?_files_ofList, last]

end ModuleResolution.Files.Memory
