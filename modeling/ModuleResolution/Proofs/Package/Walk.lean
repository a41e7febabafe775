import ModuleResolution.Package.Walk
import ModuleResolution.Proofs.Path.Chain

/-!
# What a walk visits

A walk goes up the directories above a path, which are finitely many (`Path.upward_ancestors`), and
ends at the first one whose probe finds something or stops. `Visits` tells which directories it
probes: all but the last one send it further up, and the last one ends it or has none above it. This
determines the directories (`visits_iff`).

Probes may have effects, and a probe that writes down what it is asked shows what a walk does: it
asks about these directories, in order and each once, and gives what was found at the last of them
(`run_up_recording`). What the probe says of any other directory does not matter
(`trailAlong_congr`).
-/

set_option autoImplicit false

namespace ModuleResolution.Walk

/-- The directories that a walk along some directories probes: a beginning of them. Every one but
the last sends the walk further up, and the last one ends it, unless there are no more. -/
structure Visits (probe : String → Step) (dirs visited : List String) : Prop where
  beginning : visited <+: dirs
  climbs : ∀ dir ∈ visited.dropLast, probe dir = .climb
  ends : visited = dirs ∨ ∃ last, visited.getLast? = some last ∧ (probe last).ends = true

/-- What a walk has found at the last directory that it has probed. -/
def foundLast (probe : String → Step) (visited : List String) : Option String :=
  visited.getLast?.bind fun last => (probe last).path?

/-- A probe that writes down which directory it is asked about. -/
def recording (probe : String → Step) (dir : String) : StateM (List String) Step := do
  modify (· ++ [dir])
  return probe dir

section Trail

variable {probe other : String → Step} {dir : String} {dirs visited : List String}

theorem ends_eq_false_iff {step : Step} : step.ends = false ↔ step = .climb := by
  cases step <;> simp [Step.ends]

theorem trailAlong_of_ends (h : (probe dir).ends = true) :
    trailAlong probe (dir :: dirs) = ⟨(probe dir).path?, [dir]⟩ := by
  rw [trailAlong, if_pos h]

theorem trailAlong_of_climb (h : probe dir = .climb) :
    trailAlong probe (dir :: dirs) =
      ⟨(trailAlong probe dirs).result, dir :: (trailAlong probe dirs).visited⟩ := by
  rw [trailAlong, if_neg]
  simp [h, Step.ends]

/-- A walk past its first directory visits the others as a walk along them does. -/
theorem visits_cons_of_climb (h : probe dir = .climb) :
    Visits probe (dir :: dirs) (dir :: visited) ↔ Visits probe dirs visited := by
  constructor
  · rintro ⟨beginning, climbs, ends⟩
    refine ⟨(List.cons_prefix_cons.1 beginning).2, fun above member => ?_, ?_⟩
    · cases visited with
      | nil => cases member
      | cons next further => exact climbs above (List.mem_cons_of_mem dir member)
    · rcases ends with whole | ⟨last, final, stops⟩
      · exact .inl (List.cons_eq_cons.1 whole).2
      · cases visited with
        | nil =>
          -- the first directory cannot have ended the walk
          obtain rfl : dir = last := by simpa using final
          rw [ends_eq_false_iff.2 h] at stops
          cases stops
        | cons next further => exact .inr ⟨last, by simpa using final, stops⟩
  · rintro ⟨beginning, climbs, ends⟩
    refine ⟨List.cons_prefix_cons.2 ⟨rfl, beginning⟩, fun above member => ?_, ?_⟩
    · cases visited with
      | nil => cases member
      | cons next further =>
        rcases List.mem_cons.1 member with rfl | inner
        · exact h
        · exact climbs above inner
    · rcases ends with rfl | ⟨last, final, stops⟩
      · exact .inl rfl
      · refine .inr ⟨last, ?_, stops⟩
        cases visited with
        | nil => cases final
        | cons next further => simpa using final

/-- A walk that its first directory ends visits no other one. -/
theorem visits_cons_of_ends (h : (probe dir).ends = true) :
    Visits probe (dir :: dirs) (dir :: visited) ↔ visited = [] := by
  constructor
  · intro visits
    cases visited with
    | nil => rfl
    | cons next further =>
      have climbs := visits.climbs dir List.mem_cons_self
      rw [ends_eq_false_iff.2 climbs] at h
      cases h
  · rintro rfl
    exact ⟨List.cons_prefix_cons.2 ⟨rfl, List.nil_prefix⟩, fun _ member => (nomatch member),
      .inr ⟨dir, rfl, h⟩⟩

/-- The trail of a walk is what it visits, and nothing else is. -/
theorem visits_iff (dirs : List String) :
    Visits probe dirs visited ↔ visited = (trailAlong probe dirs).visited := by
  induction dirs generalizing visited with
  | nil =>
    constructor
    · exact fun visits => List.prefix_nil.1 visits.beginning
    · rintro rfl
      exact ⟨List.prefix_refl [], fun _ member => (nomatch member), .inl rfl⟩
  | cons dir dirs ih =>
    cases visited with
    | nil =>
      -- the first directory is probed in any case
      constructor
      · rintro ⟨-, -, whole | ⟨last, final, -⟩⟩
        · cases whole
        · cases final
      · intro empty
        rw [trailAlong] at empty
        split at empty <;> cases empty
    | cons first visited =>
      by_cases same : first = dir
      · subst same
        cases h : (probe first).ends with
        | true => rw [visits_cons_of_ends h, trailAlong_of_ends h]; simp
        | false =>
          have climbs := ends_eq_false_iff.1 h
          rw [visits_cons_of_climb climbs, trailAlong_of_climb climbs, ih]
          simp
      · constructor
        · exact fun visits => absurd (List.cons_prefix_cons.1 visits.beginning).1 same
        · intro trail
          rw [trailAlong] at trail
          split at trail <;> exact absurd (List.cons_eq_cons.1 trail).1 same

theorem result_eq_foundLast (probe : String → Step) (dirs : List String) :
    (trailAlong probe dirs).result = foundLast probe (trailAlong probe dirs).visited := by
  induction dirs with
  | nil => rfl
  | cons dir dirs ih =>
    cases h : (probe dir).ends with
    | true => rw [trailAlong_of_ends h]; rfl
    | false =>
      have climbs := ends_eq_false_iff.1 h
      rw [trailAlong_of_climb climbs, ih]
      cases (trailAlong probe dirs).visited with
      | nil => simp [foundLast, climbs, Step.path?]
      | cons next further => simp [foundLast]

/-- Only what a probe says of the directories that are visited matters. -/
theorem trailAlong_congr
    (h : ∀ dir ∈ (trailAlong probe dirs).visited, other dir = probe dir) :
    trailAlong other dirs = trailAlong probe dirs := by
  induction dirs with
  | nil => rfl
  | cons dir dirs ih =>
    cases step : (probe dir).ends with
    | true =>
      rw [trailAlong_of_ends step] at h
      have same := h dir List.mem_cons_self
      rw [trailAlong_of_ends step, trailAlong_of_ends (same ▸ step), same]
    | false =>
      have climbs := ends_eq_false_iff.1 step
      rw [trailAlong_of_climb climbs] at h ⊢
      have same := h dir List.mem_cons_self
      rw [trailAlong_of_climb (same.trans climbs),
        ih fun above member => h above (List.mem_cons_of_mem dir member)]

/-! ## The walk -/

/-- The directory is written down before its step is looked at. -/
theorem run_recording (probe : String → Step) (dir : String) (seen : List String) :
    (recording probe dir).run seen = pure (probe dir, seen ++ [dir]) :=
  rfl

theorem run_along_recording (probe : String → Step) (dirs seen : List String) :
    (along (recording probe) dirs).run seen =
      ((trailAlong probe dirs).result, seen ++ (trailAlong probe dirs).visited) := by
  induction dirs generalizing seen with
  | nil => rw [trailAlong, List.append_nil]; rfl
  | cons dir dirs ih =>
    rw [along, StateT.run_bind, run_recording]
    cases h : probe dir with
    | climb => simp [trailAlong_of_climb h, ih]
    | found path => rw [trailAlong_of_ends (by rw [h]; rfl), h]; rfl
    | stop => rw [trailAlong_of_ends (by rw [h]; rfl), h]; rfl

theorem run_up_recording (start : String) (probe : String → Step) :
    Id.run ((up start (recording probe)).run []) =
      ((trail start probe).result, (trail start probe).visited) := by
  rw [up, run_along_recording, List.nil_append, trail]
  rfl

end Trail

/-- A walk from any path. It goes up the directories above the path, which come to an end at the
first that is its own parent. It probes the shortest beginning of them that ends at a directory
where the probe finds something or stops, or else all of them, and gives what was found at the last
one. Whatever the probe says of other directories, the walk is the same. -/
theorem up_visits (start : String) (probe : String → Step) :
    Path.Upward start (Path.ancestors start) ∧
      ∃ visited,
        (∀ dirs, Visits probe (Path.ancestors start) dirs ↔ dirs = visited) ∧
        ∀ other : String → Step, (∀ dir ∈ visited, other dir = probe dir) →
          Id.run ((up start (recording other)).run []) = (foundLast probe visited, visited) := by
  refine ⟨Path.upward_ancestors start, (trail start probe).visited, fun dirs => visits_iff _,
    fun other same => ?_⟩
  have alike : trail start other = trail start probe := trailAlong_congr same
  rw [run_up_recording, alike]
  exact congrArg (·, (trail start probe).visited) (result_eq_foundLast probe _)

/-- A probe that finds something two directories up, and would find more behind it. -/
example :
    Id.run ((up "/a/./b//c/../c" (recording fun dir =>
      if dir = "/a" then .found "/hit" else if dir = "/" then .found "/far" else .climb)).run []) =
      (some "/hit", ["/a/b/c", "/a/b", "/a"]) := by
  decide +kernel

end ModuleResolution.Walk
