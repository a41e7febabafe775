import ModuleResolution.Proofs.Lookup.Lines
import ModuleResolution.Proofs.Resolution.Batch

/-!
# The trace of a request for modules

The searches on disk write no lines. What tells about a name is one line at the very end of its
lookup, written when its outcome is known (`Tells`). So the lines of a request are those of the
names that have an outcome, behind the line of the file (`run_resolve_of_known`). In a file whose
names are not resolved at all, one line stands for them (`run_resolve_of_unknown`).
-/

set_option autoImplicit false

namespace ModuleResolution

open Lookup (Silent Course inTurn)

/-! ## Silent searches -/

namespace Package

theorem silent_firstExisting (paths : List String) : Silent (firstExisting paths) := by
  induction paths with
  | nil => exact .pure none
  | cons path paths ih =>
    refine .bind (.exists? path) fun found => ?_
    cases found with
    | false => exact ih
    | true => exact .pure (some path)

theorem silent_readManifest (path : String) : Silent (readManifest path) :=
  .bind (.read path) fun _ => .bind .room fun _ => .ofExcept _

theorem silent_declarationIn (ref : Reference) (packageDir : String) :
    Silent (declarationIn ref packageDir) := by
  unfold declarationIn
  cases ref.subpath with
  | some subpath => exact silent_firstExisting _
  | none => exact .bind (silent_readManifest _) fun _ => silent_firstExisting _

theorem silent_probeDirectory (ref : Reference) (variant : Variant) (dir : String) :
    Silent (probeDirectory ref variant dir) := by
  unfold probeDirectory
  split
  · exact .pure Walk.Step.climb
  · refine .bind (.ofExcept _) fun packageDir => ?_
    refine .bind (.exists? _) fun found => ?_
    cases found with
    | false => exact .pure Walk.Step.climb
    | true =>
      refine .bind (silent_declarationIn ref packageDir) fun file => ?_
      cases file with
      | none => exact .pure Walk.Step.stop
      | some path => exact .pure (Walk.Step.found path)

/-- A walk is as silent as its probes. -/
theorem silent_along {probe : String → Lookup Walk.Step} (silent : ∀ dir, Silent (probe dir))
    (dirs : List String) : Silent (Walk.along probe dirs) := by
  induction dirs with
  | nil => exact .pure none
  | cons dir dirs ih =>
    refine .bind (silent dir) fun step => ?_
    cases step with
    | climb => exact ih
    | found path => exact .pure (some path)
    | stop => exact .pure none

theorem silent_findDeclaration (ref : Reference) (searchRoot : String) (variant : Variant) :
    Silent (findDeclaration ref searchRoot variant) := by
  unfold findDeclaration
  split
  -- a reference without a name fails before anything is asked
  · exact .fail _
  · refine .bind (silent_firstExisting _) fun found => ?_
    cases found with
    | none => exact .pure none
    | some manifest => exact silent_along (silent_probeDirectory ref variant) _

end Package

namespace Resolution

open Dependency (Index Record)
open Package

theorem silent_typedCounterpart (name script : String) : Silent (typedCounterpart name script) := by
  refine .bind (silent_firstExisting _) fun found => ?_
  cases found with
  | some path => exact .pure (some path)
  | none =>
    dsimp only
    split
    · exact silent_findDeclaration _ _ _
    · exact .pure none

theorem silent_upgraded (name path : String) : Silent (upgraded name path) := by
  unfold upgraded
  split
  · exact .bind (silent_typedCounterpart name path) fun found => .pure (found.getD path)
  · exact .pure path

theorem silent_diskDeclaration (dir : String) (ref : Reference) :
    Silent (diskDeclaration dir ref) := by
  unfold diskDeclaration
  split
  · refine .bind (silent_findDeclaration ref dir .own) fun found => ?_
    cases found with
    | some path => exact .pure (some path)
    | none => exact silent_findDeclaration ref dir .community
  · cases ref.subpath with
    | some subpath => exact silent_firstExisting _
    | none => exact .pure none

/-! ## The line of a name -/

/-- The line that tells what became of a name, word by word. -/
def outcomeLine (name : String) : Outcome → String
  | .resolved path => "   " ++ name ++ " → " ++ path
  | .unresolved .builtin => "   " ++ name ++ " → IGNORED: built-in module"
  | .unresolved reason => "   " ++ name ++ " → NO RESOLUTION: " ++ reason.reason

/-- The words of a decision go on from the arrow. -/
theorem decisionLine_append {kind words : String} (h : words = " → " ++ kind)
    (name rest : String) :
    decisionLine name (kind ++ rest) = "   " ++ name ++ words ++ rest := by
  show "   " ++ name ++ " → " ++ (kind ++ rest) = _
  simp only [h, String.append_assoc]

theorem decisionLine_eq (name : String) (outcome : Outcome) :
    decisionLine name (decision outcome) = outcomeLine name outcome := by
  have unresolved (words : String) : decisionLine name ("NO RESOLUTION: " ++ words) =
      "   " ++ name ++ " → NO RESOLUTION: " ++ words := decisionLine_append rfl name words
  cases outcome with
  | resolved path => rfl
  | unresolved reason =>
    cases reason with
    | builtin => exact String.append_assoc
    | notInIndex => exact unresolved _
    | noDeclaration => exact unresolved _
    | unknownContainingFile => exact unresolved _

/-- A lookup of a name writes the line of its outcome and nothing else; no line if it fails. -/
def Tells (name : String) (x : Lookup Outcome) : Prop :=
  ∀ fs, x.lines fs = Lookup.told (outcomeLine name) (x.answer fs)

namespace Tells

variable {α : Type} {name : String}

theorem fail (failure : Failure) : Tells name (.fail failure) := fun _ => rfl

theorem decided (name : String) (outcome : Outcome) : Tells name (decided name outcome) := by
  intro fs
  exact congrArg ([·]) (decisionLine_eq name outcome)

/-- What a silent search finds may decide about the line. -/
theorem bind {x : Lookup α} {f : α → Lookup Outcome} (silent : Silent x)
    (tells : ∀ a, Tells name (f a)) : Tells name (x >>= f) := by
  intro fs
  rw [Lookup.lines_bind, silent.lines_eq_nil, Lookup.answer_bind]
  cases x.answer fs with
  | error failure => rfl
  | ok a => exact tells a fs

end Tells

theorem tells_fromRecord (record : Record) (name : String) :
    Tells name (fromRecord record name) := by
  unfold fromRecord
  split
  · exact .decided name _
  · cases record.get? name with
    | none => exact .decided name _
    | some target =>
      cases target with
      | path path => exact .bind (silent_upgraded name path) fun _ => .decided name _
      | _ => exact .fail _

theorem tells_fromDisk (file name : String) : Tells name (fromDisk file name) := by
  unfold fromDisk
  split
  · exact .decided name _
  · refine .bind (silent_diskDeclaration _ _) fun found => ?_
    cases found with
    | some path => exact .decided name _
    | none => exact .decided name _

/-! ## The lines of a request -/

theorem each_eq_inTurn (resolve : String → Lookup Outcome) (names : List String) :
    each resolve names = inTurn resolve names := by
  induction names with
  | nil => rfl
  | cons name names ih => simp only [each, inTurn, ih]

/-- A file whose names are resolved: an indexed file or a declaration file. -/
def IsKnown (index : Index) (file : String) : Prop :=
  (index.get? file).isSome = true ∨ isDeclarationFile file = true

section Request

variable {index : Index} {file : String}

theorem tells_rule (known : IsKnown index file) (name : String) :
    Tells name (rule index file name) := by
  unfold rule
  cases indexed : index.get? file with
  | some record => exact tells_fromRecord record name
  | none =>
    rcases known with isSome | declaration
    · rw [indexed] at isSome
      cases isSome
    · simp only [declaration, if_true]
      exact tells_fromDisk file name

theorem resolve_of_known (known : IsKnown index file) (names : List String) :
    resolve index file (.list names) =
      Lookup.trace file >>= fun _ => inTurn (rule index file) names := by
  rw [← each_eq_inTurn]
  have all : resolve index file (.list names) = resolveAll index file names := rfl
  rw [all, resolveAll, rule]
  cases indexed : index.get? file with
  | some record => rfl
  | none =>
    rcases known with isSome | declaration
    · rw [indexed] at isSome
      cases isSome
    · simp only [declaration, if_true]

/-- The lines of a request in a known file are those of the names that have an outcome. -/
theorem run_resolve_of_known (known : IsKnown index file) {fs : FileSystem}
    {names answered : List String} {outcomes : List Outcome} {stop : Option (String × Failure)}
    (course : Course (fun name => (rule index file name).answer fs) names answered outcomes stop) :
    (resolve index file (.list names)).answer fs = Course.result outcomes stop ∧
      (resolve index file (.list names)).lines fs =
        file :: List.zipWith outcomeLine answered outcomes := by
  have run := Lookup.run_inTurn course
  rw [resolve_of_known known]
  constructor
  · rw [Lookup.answer_bind, Lookup.answer_trace]
    exact congrArg Report.result run
  · rw [Lookup.lines_bind_of_ok (Lookup.answer_trace fs file), Lookup.lines_trace,
      List.singleton_append, ← course.flatMap_told outcomeLine]
    refine congrArg (file :: ·) ((congrArg Report.lines run).trans ?_)
    exact List.flatMap_congr fun name _ => tells_rule known name fs

/-- In any other file nothing is resolved, and one line stands for all names. -/
theorem run_resolve_of_unknown (unknown : ¬ IsKnown index file) (fs : FileSystem)
    (names : List String) :
    (resolve index file (.list names)).answer fs =
        .ok (names.map fun _ => .unresolved .unknownContainingFile) ∧
      (resolve index file (.list names)).lines fs =
        [file, "   * → NO RESOLUTION: containing file not in list"] := by
  obtain ⟨unindexed, source⟩ := not_or.1 unknown
  have all : resolve index file (.list names) = resolveAll index file names := rfl
  rw [Option.not_isSome_iff_eq_none] at unindexed
  rw [Bool.not_eq_true] at source
  rw [all, resolveAll, unindexed, source]
  exact ⟨rfl, rfl⟩

end Request

end Resolution

end ModuleResolution
