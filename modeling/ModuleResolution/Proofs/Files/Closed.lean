import ModuleResolution.Lookup
import ModuleResolution.Proofs.Path.Parents

/-!
# The directories above the files in memory

Writing a file records the directories above it up to the first one that is recorded already. Nothing
is lost by stopping there, for above a recorded directory all directories are recorded: the parent
of every path held is a directory (`Closed`). Each write keeps this (`Closed.write`), so it holds
after any writes (`closed_ofList`), and a path can exist only if every directory exists that it lies
below (`exists?_of_below`).
-/

set_option autoImplicit false

namespace ModuleResolution.Files.Memory

open ModuleResolution.Path (parent normalize normalSegments Below)

/-- Whether a path in normal form is a file or a directory. -/
def holds (m : Memory) (path : String) : Bool :=
  m.files.has path || m.directories.contains path

/-- The parent of every path held is a recorded directory, unless it is the empty text. -/
def Closed (m : Memory) : Prop :=
  ∀ path, m.holds path = true → parent path ≠ "" → parent path ∈ m.directories

theorem holds_iff {m : Memory} {path : String} :
    m.holds path = true ↔ m.files.has path = true ∨ path ∈ m.directories := by
  rw [holds, Bool.or_eq_true, List.contains_iff_mem]

theorem exists?_eq_holds (m : Memory) (path : String) : m.exists? path = m.holds (normalize path) :=
  rfl

/-! ## A climb to recorded directories -/

section Climb

variable {recorded : List String}

/-- The directories of a climb before the first one that is recorded. -/
def unrecorded (recorded : List String) (steps : Nat) (dir : String) : List String :=
  (Path.climb steps dir).takeWhile fun above => above ≠ "" && !recorded.contains above

theorem newDirectories_eq (m : Memory) (path : String) :
    m.newDirectories path =
      unrecorded m.directories (parent path).toList.length (parent path) := rfl

/-- A climb goes on from a directory that is not recorded, if there is one above it. -/
theorem unrecorded_succ (steps : Nat) (dir : String) :
    unrecorded recorded (steps + 1) dir =
      if dir = "" ∨ dir ∈ recorded then []
      else if parent dir = dir then [dir]
      else dir :: unrecorded recorded steps (parent dir) := by
  rw [unrecorded, Path.climb]
  by_cases stop : dir = "" ∨ dir ∈ recorded
  · rw [if_pos stop]
    rcases stop with rfl | known
    · split <;> simp
    · split <;> simp [known]
  · rw [if_neg stop]
    rw [not_or] at stop
    split <;> simp [unrecorded, stop]

/-- A directory that starts a climb is recorded, now or before. -/
theorem start_mem_unrecorded {dir : String} (text : dir ≠ "") (steps : Nat) :
    dir ∈ recorded ∨ dir ∈ unrecorded recorded steps dir := by
  by_cases known : dir ∈ recorded
  · exact .inl known
  · right
    cases steps with
    | zero => simp [unrecorded, Path.climb, text, known]
    | succ steps =>
      rw [unrecorded_succ, if_neg (not_or.2 ⟨text, known⟩)]
      split <;> simp

/-- With enough steps, a climb leaves out no parent of the directories that it comes to. -/
theorem parent_mem_unrecorded {steps : Nat} {dir above : String}
    (enough : dir.toList.length ≤ steps) (member : above ∈ unrecorded recorded steps dir)
    (text : parent above ≠ "") :
    parent above ∈ recorded ∨ parent above ∈ unrecorded recorded steps dir := by
  induction steps generalizing dir with
  | zero =>
    -- only the empty text needs no steps, and it is no directory
    have empty : dir = "" := by simpa using enough
    subst empty
    simp [unrecorded, Path.climb] at member
  | succ steps ih =>
    rw [unrecorded_succ] at member ⊢
    split at member
    · exact absurd member List.not_mem_nil
    · rename_i goes
      rw [if_neg goes]
      by_cases root : parent dir = dir
      · rw [if_pos root, List.mem_singleton] at member ⊢
        exact .inr (member.symm ▸ root)
      · rw [if_neg root, List.mem_cons] at member ⊢
        rcases member with rfl | further
        · exact (start_mem_unrecorded text steps).imp_right .inr
        · have shorter := Path.length_parent_lt root
          exact (ih (by omega) further).imp_right .inr

end Climb

/-! ## Writing files -/

theorem closed_empty : Closed empty := by
  intro path held
  cases held

/-- A path that is held after a write was held before, is the path written, or is a directory above
it that was not recorded. -/
theorem holds_write {m : Memory} {path content other : String}
    (held : (m.write path content).holds other = true) :
    m.holds other = true ∨ other = normalize path ∨
      other ∈ m.newDirectories (normalize path) := by
  rcases holds_iff.1 held with file | directory
  · by_cases same : other = normalize path
    · exact .inr (.inl same)
    · left
      rw [write, Table.has, Table.get?_insert_of_ne same] at file
      exact holds_iff.2 (.inl file)
  · rcases List.mem_append.1 directory with before | new
    · exact .inl (holds_iff.2 (.inr before))
    · exact .inr (.inr new)

theorem Closed.write {m : Memory} (closed : m.Closed) (path content : String) :
    (m.write path content).Closed := by
  intro other held text
  apply List.mem_append.2
  rcases holds_write held with before | rfl | new
  · exact .inl (closed other before text)
  · rw [newDirectories_eq]
    exact start_mem_unrecorded text _
  · rw [newDirectories_eq] at new ⊢
    exact parent_mem_unrecorded (Nat.le_refl _) new text

/-- After any writes, the parents of all paths held are recorded. -/
theorem closed_ofList (entries : List (String × String)) : (ofList entries).Closed := by
  rw [ofList]
  apply List.foldlRecOn entries _ closed_empty
  intro m closed entry _
  exact closed.write entry.1 entry.2

/-- A directory exists if something below it does. -/
theorem Closed.exists?_of_below {m : Memory} (closed : m.Closed) {dir path : String}
    (below : Below dir path) (inside : normalSegments dir.toList ≠ [])
    (there : m.exists? path = true) : m.exists? dir = true := by
  have up (other : String) (held : m.holds other = true) (text : parent other ≠ "") :
      m.holds (parent other) = true :=
    holds_iff.2 (.inr (closed other held text))
  rw [exists?_eq_holds] at there ⊢
  exact @Below.of_parents (fun other => m.holds other = true) up dir path below inside there

end ModuleResolution.Files.Memory
