import ModuleResolution.Proofs.Dependency.OneFile
import ModuleResolution.Proofs.Resolution.Batch

/-!
# Built-in modules in a batch

A built-in module is never resolved, and nothing is asked for it, also where the record of the file
holds a target under its name (`answer_rule_of_builtin`, `questions_rule_of_builtin`). It can
therefore be left out of a batch: the other names have the same outcomes in the same order or the
same failure, after the same questions (`Session.resolve_ordinary`).

The step from one name to a batch is a fact about any way to resolve names: names that have an
outcome without a question are taken out of a list (`answer_each_filter`, `questions_each_filter`).
-/

set_option autoImplicit false

namespace ModuleResolution.Resolution

open Dependency (Index Record)

/-! ## Names without questions -/

/-- The outcomes of the names that are kept. -/
def keptOutcomes (keep : String → Bool) (names : List String) (outcomes : List Outcome) :
    List Outcome :=
  ((names.zip outcomes).filter fun entry => keep entry.1).map Prod.snd

section Silent

variable {fs : FileSystem} {resolve : String → Lookup Outcome} {keep : String → Bool}

theorem keptOutcomes_cons (name : String) (names : List String) (outcome : Outcome)
    (outcomes : List Outcome) :
    keptOutcomes keep (name :: names) (outcome :: outcomes) =
      if keep name then outcome :: keptOutcomes keep names outcomes
      else keptOutcomes keep names outcomes := by
  cases h : keep name <;> simp [keptOutcomes, h]

variable (silent : ∀ name, keep name = false →
  (∃ outcome, (resolve name).answer fs = .ok outcome) ∧ (resolve name).questions fs = 0)
include silent

/-- Without the names that ask nothing a list has the outcomes of the other names, or fails with
the same failure. -/
theorem answer_each_filter (names : List String) :
    (each resolve (names.filter keep)).answer fs =
      ((each resolve names).answer fs).map (keptOutcomes keep names) := by
  -- on the list; a name that is kept decides alike on both sides
  induction names with
  | nil => rfl
  | cons name names ih =>
    cases h : keep name with
    | true =>
      rw [List.filter_cons_of_pos h, answer_each_cons, answer_each_cons, ih]
      cases (resolve name).answer fs with
      | error failure => rfl
      | ok outcome =>
        cases (each resolve names).answer fs with
        | error failure => rfl
        | ok outcomes => simp [Except.map, keptOutcomes_cons, h]
    | false =>
      have dropped : ¬ keep name = true := by simp [h]
      obtain ⟨⟨outcome, answered⟩, -⟩ := silent name h
      rw [List.filter_cons_of_neg dropped, answer_each_cons, ih, answered]
      cases (each resolve names).answer fs with
      | error failure => rfl
      | ok outcomes => simp [Except.map, keptOutcomes_cons, h]

/-- The names that ask nothing add nothing to the questions of a list. -/
theorem questions_each_filter (names : List String) :
    (each resolve (names.filter keep)).questions fs = (each resolve names).questions fs := by
  induction names with
  | nil => rfl
  | cons name names ih =>
    cases h : keep name with
    | true => rw [List.filter_cons_of_pos h, questions_each_cons, questions_each_cons, ih]
    | false =>
      have dropped : ¬ keep name = true := by simp [h]
      obtain ⟨⟨outcome, answered⟩, unasked⟩ := silent name h
      -- the names behind it are reached, since a name that asks nothing does not fail
      rw [List.filter_cons_of_neg dropped, questions_each_cons, answered, unasked, ih, Nat.zero_add]

end Silent

/-! ## Built-in modules -/

/-- A name that is no built-in module. -/
def isOrdinary (name : String) : Bool :=
  !Builtin.contains name

/-- Why a built-in module is not resolved in a file. -/
def builtinReason (index : Index) (file : String) : Unresolved :=
  if index.has file || isDeclarationFile file then .builtin else .unknownContainingFile

section Builtin

variable (fs : FileSystem) {name : String} (builtin : Builtin.contains name = true)
include builtin

/-- A record is not consulted for a built-in module. -/
theorem fromRecord_of_builtin (record : Record) :
    fromRecord record name = decided name (.unresolved .builtin) := by
  simp [fromRecord, builtin]

theorem fromDisk_of_builtin (file : String) :
    fromDisk file name = decided name (.unresolved .builtin) := by
  simp [fromDisk, builtin]

/-- The rule of a file refuses a built-in module at once. -/
theorem rule_of_builtin (index : Index) (file : String) :
    rule index file name =
      if index.has file || isDeclarationFile file then decided name (.unresolved .builtin)
      else pure (.unresolved .unknownContainingFile) := by
  unfold rule
  rw [Index.has_eq]
  cases index.get? file with
  | some record => exact fromRecord_of_builtin builtin record
  | none =>
    cases isDeclarationFile file with
    | true => exact fromDisk_of_builtin builtin file
    | false => rfl

/-- A built-in module is not resolved in any file. -/
theorem answer_rule_of_builtin (index : Index) (file : String) :
    (rule index file name).answer fs = .ok (.unresolved (builtinReason index file)) := by
  rw [rule_of_builtin builtin, builtinReason]
  split <;> rfl

/-- Nothing is asked for a built-in module. -/
theorem questions_rule_of_builtin (index : Index) (file : String) :
    (rule index file name).questions fs = 0 := by
  rw [rule_of_builtin builtin]
  split <;> rfl

end Builtin

theorem rule_silent (fs : FileSystem) (index : Index) (file name : String)
    (h : isOrdinary name = false) :
    (∃ outcome, (rule index file name).answer fs = .ok outcome) ∧
      (rule index file name).questions fs = 0 := by
  have builtin : Builtin.contains name = true := by simpa [isOrdinary] using h
  exact ⟨⟨_, answer_rule_of_builtin fs builtin index file⟩,
    questions_rule_of_builtin fs builtin index file⟩

namespace Session

variable (s : Session) (file : String)

/-- Without its built-in modules a batch asks as many questions, leaves the same session, and has
the same failure or the outcomes of the other names in their order. In the outcomes of the whole
batch each built-in module is unresolved, as a built-in module in a file whose references are
looked up and for the unknown file in any other. -/
theorem resolve_ordinary (names : List String) :
    (s.resolve file (names.filter isOrdinary)).2 = (s.resolve file names).2 ∧
      (s.resolve file (names.filter isOrdinary)).1 =
        (s.resolve file names).1.map (keptOutcomes isOrdinary names) ∧
      ∀ outcomes, (s.resolve file names).1 = .ok outcomes →
        List.Forall₂
          (fun name outcome => Builtin.contains name = true →
            outcome = .unresolved (builtinReason s.index file))
          names outcomes := by
  have silent := rule_silent s.files.fileSystem s.index file
  refine ⟨?_, ?_, fun outcomes answered => ?_⟩
  · rw [resolve_eq, resolve_eq, questions_each_filter silent]
  · rw [resolve_eq, resolve_eq, answer_each_filter silent]
  · rw [resolve_eq, answer_each_iff] at answered
    refine answered.imp fun name outcome ruled builtin => ?_
    have unresolved := answer_rule_of_builtin s.files.fileSystem builtin s.index file
    exact Except.ok.inj (ruled.symm.trans unresolved)

/-- An indexed script whose record leads a built-in module to a file that is there. -/
def shadowing : Session where
  index := ⟨[("/app/i.js", [("fs", .path "/shim/fs.js"), ("./h", .path "/app/h.js")])]⟩
  files := ⟨.ofList [("/shim/fs.ts", ""), ("/app/h.tsx", "")], 0, 0⟩

/-- Its references, two of them to built-in modules. -/
def shadowingNames : List String := ["fs", "./h", "path", "x"]

/-- What they come to. -/
def shadowingOutcomes : List Outcome :=
  [.unresolved .builtin, .resolved "/app/h.tsx", .unresolved .builtin, .unresolved .notInIndex]

theorem resolve_ordinary_shadowing :
    (shadowing.resolve "/app/i.js" shadowingNames).1 = .ok shadowingOutcomes ∧
      (shadowing.resolve "/app/i.js" ["./h", "x"]).1 =
        .ok [.resolved "/app/h.tsx", .unresolved .notInIndex] ∧
      (shadowing.resolve "/app/i.js" ["./h", "x"]).2.files.asked = 2 ∧
      (shadowing.resolve "/app/i.js" shadowingNames).2.files.asked = 2 ∧
      Outcome.unresolved .builtin = .unresolved (builtinReason shadowing.index "/app/i.js") := by
  have answered : (shadowing.resolve "/app/i.js" shadowingNames).1 = .ok shadowingOutcomes := by
    decide +kernel
  have asked : (shadowing.resolve "/app/i.js" shadowingNames).2.files.asked = 2 := by
    decide +kernel
  have others : shadowingNames.filter isOrdinary = ["./h", "x"] := by decide +kernel
  have kept : keptOutcomes isOrdinary shadowingNames shadowingOutcomes =
      [.resolved "/app/h.tsx", .unresolved .notInIndex] := by
    decide +kernel
  obtain ⟨session, outcomes, reasons⟩ := shadowing.resolve_ordinary "/app/i.js" shadowingNames
  rw [others] at session outcomes
  rw [answered, Except.map, kept] at outcomes
  obtain ⟨shadowed, -⟩ := List.forall₂_cons.1 (reasons _ answered)
  have unchanged := congrArg (fun left : Session => left.files.asked) session
  exact ⟨answered, outcomes, unchanged.trans asked, asked, shadowed (by decide +kernel)⟩

end Session

end ModuleResolution.Resolution
